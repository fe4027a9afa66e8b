import EntityStore.Query.ColumnName
import EntityStore.Error

/-!
# Identifiers in SQL

An identifier may be written into a statement when it is made of plain names: `column`,
`table.column`, `table.*`, or one of these with an alias. Names that are words of the language are
quoted.
-/

namespace EntityStore.Sql

/-- The parts of a text between the points. -/
def segmentsOf (cs : List Char) : List (List Char) :=
  cs.splitOn '.'

/-- A plain name, or the star for all columns. -/
def isPlainSegment (cs : List Char) : Bool :=
  cs == ['*'] ||
    (!cs.isEmpty && cs.all (fun c => c.isAlphanum || c == '_') &&
      !((cs.head?.map Char.isDigit).getD false))

/-- Plain names joined by points, with blanks around them. -/
def isPlainName (cs : List Char) : Bool :=
  let name := Text.trimChars cs
  !name.isEmpty && (segmentsOf name).all isPlainSegment

/-- The parts of an identifier before and after its first `as`. -/
def splitAs (cs : List Char) : List Char × Option (List Char) :=
  match ColumnName.aliasMark? (cs.map Char.toLower) with
  | some n => (cs.take n, some (cs.drop (n + 4)))
  | none => (cs, none)

/-- The identifier is ASCII and made of plain names. -/
def isValidIdentifier (identifier : String) : Bool :=
  let (source, label) := splitAs identifier.toList
  ColumnName.isAscii identifier && isPlainName source && (label.map isPlainName).getD true

/-- The identifier itself, unless it is refused. -/
def validateIdentifier (identifier : String) : Except Error String :=
  if isValidIdentifier identifier then .ok identifier else .error (.invalidIdentifier identifier)

/-- Words that are quoted when they name a table or a column. -/
def reservedWords : List String :=
  ["all", "asc", "check", "column", "default", "desc", "end", "from", "group", "limit", "offset",
    "order", "select", "table", "user", "where"]

/-- A part of a name, in quotes when it is a reserved word in any letter case. -/
def quoteSegment (cs : List Char) : List Char :=
  if reservedWords.contains (String.ofList (cs.map Char.toLower)) then '"' :: cs ++ ['"'] else cs

/-- The identifier as it stands in a statement. -/
def quoteIdentifier (identifier : String) : Except Error String :=
  (validateIdentifier identifier).map fun _ =>
    let (source, label) := splitAs identifier.toList
    let quoted := List.intercalate ['.'] ((segmentsOf (Text.trimChars source)).map quoteSegment)
    match label with
    | some label =>
      String.ofList (quoted ++ " AS ".toList ++ quoteSegment (Text.trimChars label))
    | none => String.ofList quoted

end EntityStore.Sql
