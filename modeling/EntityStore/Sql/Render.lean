import EntityStore.Sql.Identifier
import EntityStore.Sql.Parameter

/-!
# Rendering statements as SQL

A statement becomes a list of pieces: literal text, and values with the casts of their placeholders.
`assemble` joins the pieces and numbers the placeholders from left to right, so the parameters stand
in the order of their numbers.
-/

namespace EntityStore.Sql

/-- A piece of a statement. -/
inductive Piece where
  | text (s : String)
  | value (v : Value) (cast : Option String)
deriving DecidableEq, Repr

/-- A statement with numbered placeholders, and the values to bind. -/
structure Rendered where
  sql : String
  parameters : List Parameter
deriving DecidableEq, Repr

def Rendered.toValue (r : Rendered) : Value :=
  .object [("params", .list (r.parameters.map Parameter.toValue)), ("sql", .text r.sql)]

/-- The text of a placeholder. -/
def placeholder (number : Nat) (cast : Option String) : String :=
  "$" ++ toString number ++ ((cast.map ("::" ++ ·)).getD "")

/-- The text of pieces whose first placeholder has the number `next`. -/
def pieceText (next : Nat) : List Piece → String
  | [] => ""
  | .text s :: rest => s ++ pieceText next rest
  | .value _ cast :: rest => placeholder next cast ++ pieceText (next + 1) rest

/-- The values among the pieces. -/
def pieceValues : List Piece → List Value
  | [] => []
  | .text _ :: rest => pieceValues rest
  | .value v _ :: rest => v :: pieceValues rest

def assemble (pieces : List Piece) : Rendered :=
  ⟨pieceText 1 pieces, (pieceValues pieces).map .ofValue⟩

/-- The piece of a value that meets a column of a table. -/
def bind (types : ColumnTypes) (table column : String) (v : Value) : Piece :=
  .value v ((types.typeOf? table column).bind fun type => castOf? type v)

/-- Lists of pieces with a separator between them. -/
def separated (separator : String) : List (List Piece) → List Piece
  | [] => []
  | [pieces] => pieces
  | pieces :: rest => pieces ++ .text separator :: separated separator rest

/-- A column in a condition; in conditions on groups `count` is the size of the group. -/
def columnText (having : Bool) (column : String) : Except Error String :=
  if having && column == groupCountAlias then .ok "COUNT(*)" else quoteIdentifier column

/-- A list of values that a column is looked for in. -/
def membership (types : ColumnTypes) (table : String) (having : Bool) (column : String)
    (values : List Value) (operator empty : String) : Except Error (List Piece) :=
  if values.isEmpty then .ok [.text empty]
  else do
    let name ← columnText having column
    .ok (.text (name ++ " " ++ operator ++ " (") ::
      separated ", " (values.map fun v => [bind types table column v]) ++ [.text ")"])

mutual

/-- One condition. -/
def conditionPieces (types : ColumnTypes) (table : String) (having : Bool) :
    Condition → Except Error (List Piece)
  | .compare column operator value => do
    let name ← columnText having column
    .ok [.text (name ++ " " ++ operator.text ++ " "), bind types table column value]
  | .columns first operator second => do
    let first ← columnText having first
    let second ← columnText having second
    .ok [.text (first ++ " " ++ operator.text ++ " " ++ second)]
  | .isIn column values => membership types table having column values "IN" "FALSE"
  | .notIn column values => membership types table having column values "NOT IN" "TRUE"
  | .isNull column => do
    let name ← columnText having column
    .ok [.text (name ++ " IS NULL")]
  | .notNull column => do
    let name ← columnText having column
    .ok [.text (name ++ " IS NOT NULL")]
  | .between column low high => do
    let name ← columnText having column
    .ok [.text (name ++ " BETWEEN "), bind types table column low, .text " AND ",
      bind types table column high]
  | .group tree => do
    let inner ← treePieces types table having true tree
    .ok (.text "(" :: inner ++ [.text ")"])
  | .related negated inner correlation tree => do
    let name ← quoteIdentifier inner
    let column ← quoteIdentifier correlation.inner
    let outerTable ← quoteIdentifier correlation.outerTable
    let outerColumn ← quoteIdentifier correlation.outerColumn
    let head := Piece.text ((if negated then "NOT " else "") ++ "EXISTS (SELECT 1 FROM " ++ name ++
      " WHERE " ++ name ++ "." ++ column ++ " = " ++ outerTable ++ "." ++ outerColumn)
    if tree.isEmpty then .ok [head, .text ")"]
    else
      let body ← treePieces types inner false true tree
      .ok (head :: .text " AND (" :: body ++ [.text ")", .text ")"])

/-- The conditions of a tree, with a conjunction in front of every one but the first. -/
def treePieces (types : ColumnTypes) (table : String) (having : Bool) (first : Bool) :
    ConditionTree → Except Error (List Piece)
  | [] => .ok []
  | (conjunction, condition) :: rest => do
    let pieces ← conditionPieces types table having condition
    let more ← treePieces types table having false rest
    .ok ((if first then [] else [.text (" " ++ conjunction.text ++ " ")]) ++ pieces ++ more)

end

/-- The condition tree of a statement after the word that opens it; nothing for an empty tree. -/
def clause (types : ColumnTypes) (table : String) (having : Bool) (word : String)
    (tree : ConditionTree) : Except Error (List Piece) :=
  if tree.isEmpty then .ok []
  else do
    let pieces ← treePieces types table having true tree
    .ok (.text (" " ++ word ++ " ") :: pieces)

def quoteAll (names : List String) : Except Error (List String) :=
  names.mapM quoteIdentifier

/-- What a selection answers. -/
def projectionText (statement : Select) (table : String) : Except Error String :=
  match statement.projection with
  | .all =>
    if statement.groupBy.isEmpty then .ok (table ++ ".*")
    else do
      let columns ← quoteAll statement.groupBy
      .ok (", ".intercalate (columns ++ ["COUNT(*) AS " ++ groupCountAlias]))
  | .columns names => do
    let columns ← quoteAll names
    .ok (", ".intercalate columns)
  | .aggregate function column => do
    let target ←
      match function, column with
      | .count, none => .ok "*"
      | _, some column => quoteIdentifier column
      | function, none => .error (.aggregateWithoutColumn function.text)
    .ok (function.text ++ "(" ++ target ++ ") AS " ++ aggregateAlias)

def joinText (join : Join) : Except Error String := do
  let table ← quoteIdentifier join.table
  let first ← quoteIdentifier join.first
  let second ← quoteIdentifier join.second
  .ok (" " ++ join.kind.text ++ " " ++ table ++ " ON " ++ first ++ " = " ++ second)

def orderText : Order → Except Error String
  | .column name direction => (quoteIdentifier name).map fun name => name ++ " " ++ direction.text
  | .random => .ok "RANDOM()"

/-- The grouping of a selection with the condition on its groups. -/
def groupPieces (types : ColumnTypes) (statement : Select) : Except Error (List Piece) :=
  if statement.groupBy.isEmpty then .ok []
  else do
    let columns ← quoteAll statement.groupBy
    let having ← clause types statement.table true "HAVING" statement.having
    .ok (.text (" GROUP BY " ++ ", ".intercalate columns) :: having)

def orderPieces (orders : List Order) : Except Error (List Piece) :=
  if orders.isEmpty then .ok []
  else do
    let clauses ← orders.mapM orderText
    .ok [.text (" ORDER BY " ++ ", ".intercalate clauses)]

/-- A number after a word, when there is one. -/
def windowPieces (word : String) : Option Nat → List Piece
  | some n => [.text (" " ++ word ++ " " ++ toString n)]
  | none => []

def selectPieces (types : ColumnTypes) (statement : Select) : Except Error (List Piece) := do
  let table ← quoteIdentifier statement.table
  let projection ← projectionText statement table
  let joins ← statement.joins.mapM joinText
  let conditions ← clause types statement.table false "WHERE" statement.conditions
  let groups ← groupPieces types statement
  let orders ← orderPieces statement.orderBy
  let head := (if statement.distinct then "SELECT DISTINCT " else "SELECT ") ++ projection ++
    " FROM " ++ table ++ String.join joins
  .ok (.text head :: conditions ++ groups ++ orders ++ windowPieces "LIMIT" statement.limit ++
    windowPieces "OFFSET" statement.offset)

/-- The columns that the rows carry, in the order in which they are first met. -/
def columnsOf (rows : List Row) : List String :=
  rows.foldl (fun done row =>
    row.keys.foldl (fun done key => if done.contains key then done else done ++ [key]) done) []

/-- The values of one row for the columns of an insertion. -/
def rowPieces (types : ColumnTypes) (table : String) (columns : List String) (row : Row) :
    List Piece :=
  .text "(" :: separated ", " (columns.map fun column =>
    match row.get? column with
    | some v => [bind types table column v]
    | none => [.text "DEFAULT"]) ++ [.text ")"]

def insertPieces (types : ColumnTypes) (statement : Insert) : Except Error (List Piece) := do
  let table ← quoteIdentifier statement.table
  let returning ← quoteIdentifier statement.returning
  let names := columnsOf statement.rows
  let columns ← quoteAll names
  if names.isEmpty then
    .ok [.text ("INSERT INTO " ++ table ++ " DEFAULT VALUES RETURNING (" ++ returning ++
      ")::bigint")]
  else
    .ok (.text ("INSERT INTO " ++ table ++ " (" ++ ", ".intercalate columns ++ ") VALUES ") ::
      separated ", " (statement.rows.map (rowPieces types statement.table names)) ++
      [.text (" RETURNING (" ++ returning ++ ")::bigint")])

/-- The assignments of an update. -/
def assignmentPieces (types : ColumnTypes) (table : String) (field : String × Value) :
    Except Error (List Piece) := do
  let column ← quoteIdentifier field.1
  .ok [.text (column ++ " = "), bind types table field.1 field.2]

def updatePieces (types : ColumnTypes) (statement : Update) : Except Error (List Piece) := do
  let table ← quoteIdentifier statement.table
  let assignments ← statement.values.fields.mapM (assignmentPieces types statement.table)
  let conditions ← clause types statement.table false "WHERE" statement.conditions
  .ok (.text ("UPDATE " ++ table ++ " SET ") :: separated ", " assignments ++ conditions)

def deletePieces (types : ColumnTypes) (statement : Delete) : Except Error (List Piece) := do
  let table ← quoteIdentifier statement.table
  let conditions ← clause types statement.table false "WHERE" statement.conditions
  .ok (.text ("DELETE FROM " ++ table) :: conditions)

def statementPieces (types : ColumnTypes) : Statement → Except Error (List Piece)
  | .select s => selectPieces types s
  | .write (.insert s) => insertPieces types s
  | .write (.update s) => updatePieces types s
  | .write (.delete s) => deletePieces types s

/-- A statement as SQL, unless one of its names is refused. -/
def render (types : ColumnTypes) (statement : Statement) : Except Error Rendered :=
  (statementPieces types statement).map assemble

end EntityStore.Sql
