import EntityStore.Config
import EntityStore.Model.Basic
import EntityStore.Sql.Parameter

/-!
# Registries

A registry holds the models of a set of schemas. It is compiled from a catalogue, to which schemas
are added one by one; all errors of declarations surface while it is made.
-/

namespace EntityStore

/-- Schemas of distinct names, in the order of their addition. -/
structure Catalogue where
  schemas : List Schema := []
  relationPageSize : Option Nat := none

/-- The compiled models in the order of their schemas. -/
structure Registry where
  models : List Model := []

namespace Registry

def get (r : Registry) (name : String) : Except Error Model :=
  match r.models.find? (·.name == name) with
  | some m => .ok m
  | none => .error (.unregisteredModel name)

/-- The first model that keeps its rows in a table. -/
def byTable? (r : Registry) (table : String) : Option Model :=
  r.models.find? (·.table == table)

def names (r : Registry) : List String :=
  r.models.map (·.name)

/-- The declared types of the columns of all models. -/
def columnTypes (r : Registry) : Sql.ColumnTypes :=
  r.models.foldl (fun types m =>
    m.columns.foldl (fun types c => types.insert m.table c.name c.type) types) {}

end Registry

namespace Catalogue

def add (c : Catalogue) (s : Schema) : Except Error Catalogue :=
  if c.schemas.any (·.name == s.name) then .error (.duplicateModel s.name)
  else .ok { c with schemas := c.schemas ++ [s] }

/-- A file name that holds a schema: something, a point, and `yaml` or `yml`. -/
def isSchemaFile (name : String) : Bool :=
  let fromEnd := name.toList.reverse
  match fromEnd.dropWhile (· != '.') with
  | '.' :: _ :: _ =>
    let ending := String.ofList (fromEnd.takeWhile (· != '.')).reverse
    ending = "yaml" || ending = "yml"
  | _ => false

/-- Adds the schema files of a directory in the order of their names. -/
def addDirectory (c : Catalogue) (files : List (String × String)) : Except Error Catalogue :=
  ((files.filter fun file => isSchemaFile file.1).mergeSort fun a b => !decide (b.1 < a.1)).foldlM
    (fun c file => (Schema.ofYaml file.2).bind c.add) c

/-- Compiles every schema. -/
def compile (c : Catalogue) : Except Error Registry := do
  let defaults : Config := {}
  let resolver : RelationResolver :=
    ⟨c.schemas, c.relationPageSize.getD defaults.relationPageSize⟩
  let models ← c.schemas.mapM (·.compile resolver)
  pure ⟨models⟩

end Catalogue

end EntityStore
