import EntityStore.Model.Registry

/-!
# Facades

A facade is a module of Rust source with typed access to one entity: a query with a predicate for
every column that is not a system column, and accessors for the relations of an instance.
`Facade.ofModel` says what the module contains, `Facade.source` writes it.
-/

namespace EntityStore

/-- The predicate of a column: its name, the column, and the type of its argument. -/
structure FacadeField where
  name : String
  column : String
  type : String
deriving DecidableEq, Repr

/-- The accessor of a relation. -/
structure FacadeRelation where
  name : String
  accessor : String
  target : String
  returnsMany : Bool
deriving DecidableEq, Repr

/-- What a facade contains. -/
structure Facade where
  entity : String
  table : String
  module : String
  fields : List FacadeField
  relations : List FacadeRelation
deriving DecidableEq, Repr

/-- The type of the argument of a predicate. -/
def FieldType.argumentType : FieldType → String
  | .integer => "i64"
  | .float | .decimal => "f64"
  | .boolean => "bool"
  | .json => "serde_json::Value"
  | .string | .text | .date | .timestamp | .uuid | .enum => "&str"

namespace FacadeField

def toValue (f : FacadeField) : Value :=
  .object [("column", .text f.column), ("name", .text f.name), ("rust_type", .text f.type)]

/-- Columns whose names end like this hold keys. -/
def keyEnding : String := "_id"

def ofColumn (c : Column) : FacadeField :=
  { name := Text.snakeCase c.name
    column := c.name
    type := if Naming.endsIn keyEnding c.name.toList then "i64" else c.type.argumentType }

end FacadeField

def FacadeRelation.ofRelation (r : Relation) : FacadeRelation :=
  ⟨r.name, r.accessorName, r.targetEntity, r.isCollection⟩

def FacadeRelation.toValue (r : FacadeRelation) : Value :=
  .object [("accessor", .text r.accessor), ("name", .text r.name),
    ("returns_many", .bool r.returnsMany), ("target", .text r.target)]

namespace Facade

/-- What the module contains, as data. -/
def toValue (f : Facade) : Value :=
  .object [("fields", .list (f.fields.map FacadeField.toValue)),
    ("has_relations", .bool !f.relations.isEmpty), ("model", .text f.entity),
    ("module", .text f.module), ("relations", .list (f.relations.map FacadeRelation.toValue)),
    ("table", .text f.table)]

/-- The module that holds the facade of a model. -/
def moduleName (m : Model) : String :=
  Text.snakeCase m.name

def ofModel (m : Model) : Facade :=
  { entity := m.name
    table := m.table
    module := moduleName m
    fields := (m.columns.filter fun c => !c.source.isSystem).map FacadeField.ofColumn
    relations := m.relations.map FacadeRelation.ofRelation }

/-- Lines of text, each ended by a line break. -/
def lines (ls : List String) : String :=
  String.join (ls.map (· ++ "\n"))

/-- A text in braces. -/
def braced (s : String) : String :=
  "\x7b" ++ s ++ "\x7d"

/-- A method that opens on its first line: its head, its body, its end and an empty line. -/
def method (head body : String) : List String :=
  ["    " ++ head ++ " \x7b", "        " ++ body, "    \x7d", ""]

/-- The predicate of a column. -/
def predicate (f : FacadeField) : List String :=
  method ("pub fn where_" ++ f.name ++ "(self, value: " ++ f.type ++ ") -> ModelResult<Self>")
    ("Ok(Self(self.0.where_attribute(\"" ++ f.column ++ "\", value)?))")

/-- The accessor of a relation. -/
def accessor (r : FacadeRelation) : List String :=
  if r.returnsMany then
    method ("pub async fn " ++ r.accessor ++ "(&self) -> ModelResult<Vec<ModelInstance>>")
      ("self.instance.related_many(self.db, \"" ++ r.name ++ "\").await")
  else
    method ("pub async fn " ++ r.accessor ++ "(&self) -> ModelResult<ModelInstance>")
      ("self.instance.related_one(self.db, \"" ++ r.name ++ "\").await")

/-- The part of the module that queries the table. -/
def querySection (f : Facade) : List String :=
  ["/// Typed query over `" ++ f.table ++ "`", "#[derive(Debug, Clone)]",
    "pub struct " ++ f.entity ++ "Query(ModelQuery);", "",
    "impl " ++ f.entity ++ "Query \x7b"] ++
  method "pub fn new(db: &Database) -> ModelResult<Self>"
    ("Ok(Self(db.model(\"" ++ f.entity ++ "\")?.query()))") ++
  method "pub fn into_inner(self) -> ModelQuery" "self.0" ++
  method "pub async fn get(&self) -> ModelResult<Vec<ModelInstance>>" "self.0.get().await" ++
  method "pub async fn first(&self) -> ModelResult<Option<ModelInstance>>"
    "self.0.first().await" ++
  f.fields.flatMap predicate ++ ["\x7d", ""]

/-- The part of the module that follows relations; there is none without relations. -/
def relationSection (f : Facade) : List String :=
  if f.relations.isEmpty then []
  else
    ["/// Relation accessors for one `" ++ f.entity ++ "` instance",
      "pub struct " ++ f.entity ++ "Relations<'a> \x7b", "    db: &'a Database,",
      "    instance: &'a ModelInstance,", "\x7d", "",
      "impl<'a> " ++ f.entity ++ "Relations<'a> \x7b"] ++
    method "pub fn new(db: &'a Database, instance: &'a ModelInstance) -> Self"
      ("Self " ++ braced " db, instance ") ++
    f.relations.flatMap accessor ++ ["\x7d", ""]

/-- The source of the module. It ends in an empty block for code written by hand. -/
def source (f : Facade) : String :=
  lines (["// Generated by forge-codegen from the " ++ f.entity ++ " model definition.",
      "// Only the block between the FORGE markers survives regeneration.", "",
      "use forge_orm::prelude::*;", ""] ++
    f.querySection ++ f.relationSection ++
    ["// <<<FORGE:BEGIN custom:" ++ f.module ++ ">>>",
      "// <<<FORGE:END custom:" ++ f.module ++ ">>>"])

/-- The source of the module that exports all others. -/
def indexSource (r : Registry) : String :=
  lines (["// Generated by forge-codegen. Do not edit.", ""] ++
    (r.models.map moduleName).flatMap fun name =>
      ["pub mod " ++ name ++ ";", "pub use " ++ name ++ "::*;", ""])

end Facade

end EntityStore
