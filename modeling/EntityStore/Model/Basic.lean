import EntityStore.Model.Relation
import EntityStore.Model.Search
import EntityStore.Schema.Column
import EntityStore.Schema.Validation

/-!
# Models

A model is all that is known about one entity once its schema has been compiled: its columns, what
may be assigned in bulk, what is hidden, its relations, its rules and its search projection.
-/

namespace EntityStore

structure Model where
  name : String
  table : String
  primaryKey : String
  columns : List Column
  attributes : List (String × Attribute)
  fillable : List String
  guarded : List String
  hidden : List String
  relations : List Relation
  traits : Traits
  validator : Validator
  search : SearchProjection
deriving Repr

namespace Model

def column? (m : Model) (name : String) : Option Column :=
  m.columns.find? (·.name == name)

def hasColumn (m : Model) (name : String) : Bool :=
  m.columns.any (·.name == name)

def columnNames (m : Model) : List String :=
  m.columns.map (·.name)

/-- The declared relation of that name. -/
def relation (m : Model) (name : String) : Except Error Relation :=
  match m.relations.find? (·.name == name) with
  | some r => .ok r
  | none => .error (.undeclaredRelation m.name name)

/-- Fillable and not guarded. -/
def isFillable (m : Model) (field : String) : Bool :=
  m.fillable.contains field && !m.guarded.contains field

/-- The fields that may be assigned in bulk. -/
def filterFillable (m : Model) (row : Row) : Row :=
  row.filter fun name _ => m.isFillable name

/-- The fields that are columns. -/
def filterColumns (m : Model) (row : Row) : Row :=
  row.filter fun name _ => m.hasColumn name

/-- Never shown, whatever the schema declares. -/
def secretColumn : String := "two_factor_secret"

def isHidden (m : Model) (field : String) : Bool :=
  m.hidden.contains field || field == secretColumn

/-- The column by which other tables point at the entity. -/
def foreignKeyName (m : Model) : String :=
  Naming.foreignKey m.name

/-- The name of the entity in tables whose rows belong to entities of several kinds. -/
def ownerType (m : Model) : String :=
  m.table

/-- What is known about a model, as data. The flags are those of the trash, of the stamps and of the
identifiers. -/
def toValue (m : Model) : Value :=
  .object [("column_names", textList m.columnNames),
    ("columns", .list (m.columns.map Column.toValue)), ("fillable", textList m.fillable),
    ("flags", .list [.bool m.traits.softDeletes, .bool m.traits.timestamps, .bool m.traits.uuid]),
    ("foreign_key", .text m.foreignKeyName), ("guarded", textList m.guarded),
    ("hidden", textList m.hidden), ("morph_type", .text m.ownerType), ("name", .text m.name),
    ("primary_key", .text m.primaryKey), ("relations", .list (m.relations.map Relation.toValue)),
    ("search", m.search.toValue), ("table", .text m.table)]

/-- Name and table on one line. -/
def summary (m : Model) : String :=
  "Model \x7b name: " ++ Text.shown m.name ++ ", table: " ++ Text.shown m.table ++ " \x7d"

/-- Refuses an operation of a trait that is not switched on. -/
def requireTrait (m : Model) (enabled : Bool) (capability : String) : Except Error Unit :=
  if enabled then .ok () else .error (.missingCapability m.name capability)

end Model

namespace Schema

/-- The names of the attributes that a flag marks. -/
def marked (s : Schema) (flag : Attribute → Bool) : List String :=
  (s.attributes.filter fun a => flag a.2).map (·.1)

/-- What may be assigned in bulk: the attributes marked so, and the keys of the entities that this
one belongs to. -/
def fillable (s : Schema) : List String :=
  (s.relations.belongsTo.map RelationOptions.belongsToKey).foldl
    (fun done key => if done.contains key then done else done ++ [key]) (s.marked (·.fillable))

/-- The columns that are neither hidden nor secret. -/
def visible (s : Schema) (columns : List Column) : List String :=
  (columns.map (·.name)).filter fun name =>
    !(s.marked (·.hidden)).contains name && name != Model.secretColumn

/-- Compiles a schema. -/
def compile (s : Schema) (resolver : RelationResolver) : Except Error Model := do
  let columns ← s.columns
  let relations ← resolver.resolve s
  let validator ← Validator.ofAttributes s.name s.attributes
  let search := SearchProjection.ofOptions s.traits.search.isEnabled (s.traits.search.options {})
    (s.visible columns)
  match search.columns.find? fun name => !columns.any (·.name == name) with
  | some name => .error (.unknownSearchColumn name s.name)
  | none =>
    .ok
      { name := s.name
        table := s.tableName
        primaryKey := s.primaryKeyName
        columns
        attributes := s.attributes
        fillable := s.fillable
        guarded := s.marked (·.guarded)
        hidden := s.marked (·.hidden)
        relations
        traits := s.traits
        validator
        search }

end Schema

end EntityStore
