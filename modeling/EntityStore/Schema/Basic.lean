import EntityStore.Error
import EntityStore.Schema.Traits

/-!
# Schemas

A schema declares one entity: its table, its attributes in order, its relations and its traits. It
is read from a document in which everything but the name has a default.
-/

namespace EntityStore

/-- Checks on a written value. Bounds apply to the value of a number and to the number of characters
of a text. -/
structure ValidationRule where
  required : Bool := false
  min : Option Binary64 := none
  max : Option Binary64 := none
  pattern : Option String := none
deriving DecidableEq, Repr

/-- The declaration of one attribute. `values` are the allowed texts of an enumeration. -/
structure Attribute where
  type : FieldType := .string
  fillable : Bool := false
  guarded : Bool := false
  hidden : Bool := false
  nullable : Bool := true
  values : List String := []
  validation : Option ValidationRule := none
deriving DecidableEq, Repr

/-- A related entity with the names that replace the derived ones. -/
structure RelationOptions where
  entity : String
  name : Option String := none
  foreignKey : Option String := none
  through : Option String := none
  throughForeignKey : Option String := none
  pivotTable : Option String := none
  pivotForeignKey : Option String := none
  pivotRelatedKey : Option String := none
  pageSize : Option Nat := none
deriving DecidableEq, Repr

/-- The declared relations of an entity, grouped by their shape. -/
structure RelationDeclarations where
  belongsTo : List RelationOptions := []
  hasMany : List RelationOptions := []
  hasOne : List RelationOptions := []
  hasOneThrough : List RelationOptions := []
  hasManyThrough : List RelationOptions := []
  belongsToMany : List RelationOptions := []
deriving DecidableEq, Repr

/-- The declaration of an entity. -/
structure Schema where
  name : String
  table : Option String := none
  primaryKey : Option String := none
  attributes : List (String × Attribute) := []
  relations : RelationDeclarations := {}
  traits : Traits := {}
deriving DecidableEq, Repr

namespace ValidationRule

def read : Reader ValidationRule :=
  Reader.readRecord "ValidationRule"
    [.defaulted "required" Reader.boolean fun r b => { r with required := b },
      .nullable "min" Reader.float fun r x => { r with min := x },
      .nullable "max" Reader.float fun r x => { r with max := x },
      .nullable "pattern" Reader.text fun r p => { r with pattern := p }] {}

/-- A bound as data. -/
def boundValue : Option Binary64 → Value
  | some x => .number (.float x)
  | none => .null

def toValue (r : ValidationRule) : Value :=
  .object [("max", boundValue r.max), ("min", boundValue r.min),
    ("pattern", .optionalText r.pattern), ("required", .bool r.required)]

end ValidationRule

namespace Attribute

def read : Reader Attribute :=
  Reader.readRecord "AttributeDefinition"
    [.defaulted "type" (Reader.variant FieldType.names) fun a t => { a with type := t },
      .defaulted "fillable" Reader.boolean fun a b => { a with fillable := b },
      .defaulted "guarded" Reader.boolean fun a b => { a with guarded := b },
      .defaulted "hidden" Reader.boolean fun a b => { a with hidden := b },
      .defaulted "nullable" Reader.boolean fun a b => { a with nullable := b },
      .defaulted "values" (Reader.list Reader.text) fun a l => { a with values := l },
      .optional "validation" ValidationRule.read fun a r => { a with validation := r }] {}

def toValue (a : Attribute) : Value :=
  .object [("fillable", .bool a.fillable), ("guarded", .bool a.guarded), ("hidden", .bool a.hidden),
    ("nullable", .bool a.nullable), ("type", .text a.type.name),
    ("validation", (a.validation.map ValidationRule.toValue).getD .null),
    ("values", textList a.values)]

/-- The attribute must be given and may not be null. -/
def required (a : Attribute) : Attribute :=
  { a with
    nullable := false
    validation := some { a.validation.getD {} with required := true } }

end Attribute

namespace RelationOptions

/-- The column that points at the related entity from its dependents. -/
def belongsToKey (o : RelationOptions) : String :=
  o.foreignKey.getD (Naming.foreignKey o.entity)

/-- A bare name, or the detailed form. -/
def read : Reader RelationOptions :=
  Reader.firstOf "RelationDeclaration"
    [Reader.map (fun entity => { entity }) Reader.text,
      Reader.readRecord "RelationOptions"
        [.required "model" Reader.text fun o s => { o with entity := s },
          .optional "relation_name" Reader.text fun o s => { o with name := s },
          .optional "foreign_key" Reader.text fun o s => { o with foreignKey := s },
          .optional "through" Reader.text fun o s => { o with through := s },
          .optional "through_foreign_key" Reader.text fun o s => { o with throughForeignKey := s },
          .optional "pivot_table" Reader.text fun o s => { o with pivotTable := s },
          .optional "pivot_foreign_key" Reader.text fun o s => { o with pivotForeignKey := s },
          .optional "pivot_related_key" Reader.text fun o s => { o with pivotRelatedKey := s },
          .optional "page_size" Reader.count fun o n => { o with pageSize := n }] { entity := "" }]

/-- The detailed form. -/
def toValue (o : RelationOptions) : Value :=
  .object [("foreign_key", .optionalText o.foreignKey), ("model", .text o.entity),
    ("page_size", .optionalNat o.pageSize), ("pivot_foreign_key", .optionalText o.pivotForeignKey),
    ("pivot_related_key", .optionalText o.pivotRelatedKey),
    ("pivot_table", .optionalText o.pivotTable), ("relation_name", .optionalText o.name),
    ("through", .optionalText o.through),
    ("through_foreign_key", .optionalText o.throughForeignKey)]

end RelationOptions

namespace RelationDeclarations

def isEmpty (r : RelationDeclarations) : Bool :=
  r.belongsTo.isEmpty && r.hasMany.isEmpty && r.hasOne.isEmpty && r.hasOneThrough.isEmpty &&
    r.hasManyThrough.isEmpty && r.belongsToMany.isEmpty

/-- The declarations of both, group by group. -/
def append (r other : RelationDeclarations) : RelationDeclarations :=
  { belongsTo := r.belongsTo ++ other.belongsTo
    hasMany := r.hasMany ++ other.hasMany
    hasOne := r.hasOne ++ other.hasOne
    hasOneThrough := r.hasOneThrough ++ other.hasOneThrough
    hasManyThrough := r.hasManyThrough ++ other.hasManyThrough
    belongsToMany := r.belongsToMany ++ other.belongsToMany }

def read : Reader RelationDeclarations :=
  let declarations := Reader.list RelationOptions.read
  Reader.readRecord "RelationDeclarations"
    [.defaulted "belongs_to" declarations fun r l => { r with belongsTo := l },
      .defaulted "has_many" declarations fun r l => { r with hasMany := l },
      .defaulted "has_one" declarations fun r l => { r with hasOne := l },
      .defaulted "has_one_through" declarations fun r l => { r with hasOneThrough := l },
      ⟨["has_many_through", "through_many"], .defaulted,
        Reader.map (fun l r => { r with hasManyThrough := l }) declarations⟩,
      .defaulted "belongs_to_many" declarations fun r l => { r with belongsToMany := l }] {}

end RelationDeclarations

namespace Schema

def read : Reader Schema :=
  Reader.readRecord "ModelSchema"
    [.required "name" Reader.text fun s t => { s with name := t },
      .optional "table" Reader.text fun s t => { s with table := t },
      .optional "primary_key" Reader.text fun s k => { s with primaryKey := k },
      .defaulted "attributes" (Reader.entries Attribute.read) fun s a => { s with attributes := a },
      .defaulted "relations" RelationDeclarations.read fun s r => { s with relations := r },
      .defaulted "traits" Traits.read fun s t => { s with traits := t }] { name := "" }

/-- Reads a schema from the text of a YAML document. -/
def ofYaml (source : String) : Except Error Schema :=
  match Reader.ofYaml? read source with
  | some s => .ok s
  | none => .error .unreadableSchema

/-- Reads a schema from data. -/
def ofDocument (d : Document) : Except Error Schema :=
  (read d).mapError fun _ => .unreadableSchema

/-- The declared table, or the one derived from the name. -/
def tableName (s : Schema) : String :=
  s.table.getD (Naming.tableName s.name)

def primaryKeyName (s : Schema) : String :=
  s.primaryKey.getD "id"

/-- What is declared, as data, with the names and abilities that follow from it. -/
def toValue (s : Schema) : Value :=
  let t := s.traits
  let related (declared : List RelationOptions) : Value :=
    .list (declared.map fun o => .list [o.toValue, .text o.belongsToKey])
  .object
    [("attributes", .list (s.attributes.map fun (name, a) => .list [.text name, a.toValue])),
      ("auth", .list [.bool t.usesTwoFactor, .bool t.usesPasskey]),
      ("belongs_to", related s.relations.belongsTo),
      ("belongs_to_many", related s.relations.belongsToMany),
      ("has_many", related s.relations.hasMany),
      ("has_many_through", related s.relations.hasManyThrough),
      ("has_one", related s.relations.hasOne),
      ("has_one_through", related s.relations.hasOneThrough),
      ("likeable", .list [.bool t.likeable.isEnabled, (t.likeable.options {}).toValue]),
      ("name", .text s.name), ("no_relations", .bool s.relations.isEmpty),
      ("observes",
        textList ((LifecycleEvent.all.filter t.observe.observes).map (·.nameFor s.name))),
      ("primary_key", .text s.primaryKeyName),
      ("search", .list [.bool t.search.isEnabled, (t.search.options {}).toValue]),
      ("table", .text s.tableName), ("traits", t.toValue)]

/-- Declares an attribute; a second declaration replaces the first where it stands. -/
def withAttribute (s : Schema) (name : String) (a : Attribute) : Schema :=
  { s with attributes := Reader.putEntry name a s.attributes }

end Schema

end EntityStore
