/-!
# Field types

The types that a declared attribute can have.
-/

namespace EntityStore

/-- The type of a column. -/
inductive FieldType where
  | string
  | text
  | integer
  | float
  | decimal
  | boolean
  | date
  | timestamp
  | json
  | uuid
  | enum
deriving DecidableEq, Repr, Inhabited

namespace FieldType

/-- Every type with the name that declarations use for it. -/
def names : List (String × FieldType) :=
  [("string", .string), ("text", .text), ("integer", .integer), ("float", .float),
    ("decimal", .decimal), ("boolean", .boolean), ("date", .date), ("timestamp", .timestamp),
    ("json", .json), ("uuid", .uuid), ("enum", .enum)]

/-- The name in declarations. -/
def name : FieldType → String
  | .string => "string"
  | .text => "text"
  | .integer => "integer"
  | .float => "float"
  | .decimal => "decimal"
  | .boolean => "boolean"
  | .date => "date"
  | .timestamp => "timestamp"
  | .json => "json"
  | .uuid => "uuid"
  | .enum => "enum"

/-- The name in messages. -/
def title : FieldType → String
  | .string => "String"
  | .text => "Text"
  | .integer => "Integer"
  | .float => "Float"
  | .decimal => "Decimal"
  | .boolean => "Boolean"
  | .date => "Date"
  | .timestamp => "Timestamp"
  | .json => "Json"
  | .uuid => "Uuid"
  | .enum => "Enum"

/-- Columns that hold numbers. -/
def isNumeric : FieldType → Bool
  | .integer | .float | .decimal => true
  | _ => false

/-- Columns that hold texts. -/
def isTextual : FieldType → Bool
  | .string | .text | .date | .timestamp | .uuid | .enum => true
  | _ => false

end FieldType

end EntityStore
