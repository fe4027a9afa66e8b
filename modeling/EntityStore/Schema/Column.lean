import EntityStore.Schema.Basic

/-!
# Columns of an entity

The columns of a table are the declared attributes with the columns that the traits and the
relations of the entity bring along, in a fixed order. No two columns have one name.
-/

namespace EntityStore

/-- Why a table has a column. -/
inductive ColumnSource where
  | primaryKey
  | uuid
  | declared
  | foreignKey
  | softDelete
  | timestamp
  | billing
  | twoFactor
  | passkey
deriving DecidableEq, Repr

namespace ColumnSource

/-- The name in messages. -/
def title : ColumnSource → String
  | .primaryKey => "PrimaryKey"
  | .uuid => "Uuid"
  | .declared => "Declared"
  | .foreignKey => "ForeignKey"
  | .softDelete => "SoftDelete"
  | .timestamp => "Timestamp"
  | .billing => "Billing"
  | .twoFactor => "TwoFactor"
  | .passkey => "Passkey"

/-- System columns are never assigned in bulk. -/
def isSystem : ColumnSource → Bool
  | .declared | .foreignKey => false
  | _ => true

end ColumnSource

structure Column where
  name : String
  type : FieldType
  nullable : Bool
  source : ColumnSource
deriving DecidableEq, Repr

/-- What is known about a column, as data. -/
def Column.toValue (c : Column) : Value :=
  .object [("name", .text c.name), ("nullable", .bool c.nullable),
    ("numeric", .bool c.type.isNumeric), ("source", .text c.source.title),
    ("system", .bool c.source.isSystem), ("textual", .bool c.type.isTextual),
    ("type", .text c.type.name)]

namespace Schema

/-- The column of a declared attribute. -/
def attributeColumn (declared : String × Attribute) : Column :=
  ⟨declared.1, declared.2.type, declared.2.nullable, .declared⟩

/-- The key columns of the entities that this one belongs to, but for those that are declared as
attributes themselves. -/
def foreignKeyColumns (s : Schema) : List Column :=
  ((s.relations.belongsTo.map RelationOptions.belongsToKey).filter fun key =>
    !(s.attributes.any (·.1 == key))).map fun key => ⟨key, .integer, true, .foreignKey⟩

/-- A column when a trait is switched on. -/
def columnIf (on : Bool) (name : String) (type : FieldType) (source : ColumnSource) :
    List Column :=
  if on then [⟨name, type, true, source⟩] else []

/-- Every column in order, equal names included. -/
def allColumns (s : Schema) : List Column :=
  ⟨s.primaryKeyName, .integer, false, .primaryKey⟩ ::
    columnIf s.traits.uuid "uuid" .uuid .uuid ++
    s.attributes.map attributeColumn ++
    s.foreignKeyColumns ++
    columnIf s.traits.softDeletes "deleted_at" .timestamp .softDelete ++
    columnIf s.traits.timestamps "created_at" .timestamp .timestamp ++
    columnIf s.traits.timestamps "updated_at" .timestamp .timestamp ++
    columnIf s.traits.billable "stripe_id" .string .billing ++
    columnIf s.traits.usesTwoFactor "two_factor_secret" .string .twoFactor ++
    columnIf s.traits.usesPasskey "public_key" .text .passkey

/-- The error for a column whose name an earlier column has. -/
def collision (entity : String) (column : Column) : Error :=
  if column.source = .declared then .attributeCollision column.name entity
  else .fieldCollision column.name entity column.source.title

/-- The columns after `done`, unless two columns have one name. -/
def addColumns (entity : String) (done : List Column) : List Column → Except Error (List Column)
  | [] => .ok done
  | column :: rest =>
    if done.any (·.name == column.name) then .error (collision entity column)
    else addColumns entity (done ++ [column]) rest

/-- The columns of the table. -/
def columns (s : Schema) : Except Error (List Column) :=
  addColumns s.name [] s.allColumns

end Schema

end EntityStore
