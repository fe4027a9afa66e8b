import EntityStore.Query.Statement
import EntityStore.Schema.FieldType

/-!
# Parameters of SQL statements

Values never stand in the text of a statement. They are bound as parameters, whose placeholders are
cast when the column that they meet has a type that texts and null do not turn into by themselves.
-/

namespace EntityStore.Sql

/-- A bound value. -/
inductive Parameter where
  | null
  | bool (b : Bool)
  | int (n : Int)
  | float (x : Binary64)
  | text (s : String)
  | json (v : Value)
deriving DecidableEq, Repr

/-- The parameter of a value; an integer beyond 64 signed bits is bound as binary64. -/
def Parameter.ofValue : Value → Parameter
  | .null => .null
  | .bool b => .bool b
  | .number (.int n) => if fitsInt64 n then .int n else .float (.ofInt n)
  | .number (.float x) => .float x
  | .text s => .text s
  | v => .json v

/-- A bound value as data: its sort, followed by the value. -/
def Parameter.toValue : Parameter → Value
  | .null => .list [.text "null"]
  | .bool b => .list [.text "bool", .bool b]
  | .int n => .list [.text "int", .int n]
  | .float x => .list [.text "float", .number (.float x)]
  | .text s => .list [.text "text", .text s]
  | .json v => .list [.text "json", v]

/-- The declared types of the columns of known tables. -/
structure ColumnTypes where
  tables : List (String × List (String × FieldType)) := []

namespace ColumnTypes

/-- Declares the type of a column. -/
def insert (types : ColumnTypes) (table column : String) (type : FieldType) : ColumnTypes :=
  let columns := (fieldOf? table types.tables).getD []
  ⟨setField table (setField column type columns) types.tables⟩

/-- The columns that are timestamps in every table that is not known. -/
def stampColumns : List String := ["created_at", "updated_at", "deleted_at"]

/-- The table and column that a name means in a statement on `table`. -/
def resolve (table name : String) : String × String :=
  let fromEnd := name.toList.reverse
  match fromEnd.dropWhile (· != '.') with
  | [] => (table, name)
  | _ :: rest =>
    (String.ofList rest.reverse, String.ofList (fromEnd.takeWhile (· != '.')).reverse)

/-- The type of a column as seen from a table. -/
def typeOf? (types : ColumnTypes) (table name : String) : Option FieldType :=
  let (table, column) := resolve table name
  match fieldOf? table types.tables with
  | some columns => fieldOf? column columns
  | none => if stampColumns.contains column then some .timestamp else none

end ColumnTypes

/-- The SQL name of a type that is not text. -/
def typeName? : FieldType → Option String
  | .string | .text | .enum => none
  | .integer => some "bigint"
  | .float => some "double precision"
  | .decimal => some "numeric"
  | .boolean => some "boolean"
  | .date => some "date"
  | .timestamp => some "timestamptz"
  | .json => some "jsonb"
  | .uuid => some "uuid"

/-- The type that a placeholder is cast to. -/
def castOf? (type : FieldType) : Value → Option String
  | .null => typeName? type
  | .text _ =>
    match type with
    | .uuid | .timestamp | .date | .decimal => typeName? type
    | _ => none
  | _ => none

end EntityStore.Sql
