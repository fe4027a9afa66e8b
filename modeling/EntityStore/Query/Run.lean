import EntityStore.Number.Decimal
import EntityStore.Relation.Eager

/-!
# Running queries

What a query can be asked for: its rows with their relations, single rows, counts, aggregates, the
values of a column, and changes of all the rows that it matches. Changes of many rows announce
nothing.
-/

namespace EntityStore.Query

/-- The instances of the rows, with the relations that the query names. -/
def get (q : Query) : Task (List Instance) := do
  let rows ← q.fetch
  if rows.isEmpty then return rows
  q.model.loadRelations q.loads rows

def first (q : Query) : Task (Option Instance) := do
  return (← { q with limit := some 1 }.get).head?

def firstOrFail (q : Query) : Task Instance := do
  match ← q.first with
  | some i => return i
  | none => throw (.noRecords q.model.name)

/-- The row with the highest primary key, whatever order was asked for. -/
def last (q : Query) : Task (Option Instance) :=
  { q with orderBy := [.column q.qualifiedKey .desc] }.first

/-- The column by which rows are new or old unless another is given. -/
def ageColumn : String := "created_at"

/-- The first row in descending order of a column, after the orders asked for before. -/
def latest (q : Query) (column : Option String) : Task (Option Instance) :=
  (q.orderedBy (column.getD ageColumn) .desc).first

/-- The first row in ascending order of a column, after the orders asked for before. -/
def oldest (q : Query) (column : Option String) : Task (Option Instance) :=
  (q.orderedBy (column.getD ageColumn) .asc).first

/-- The row of a primary key, if the query matches it. -/
def find (q : Query) (id : Int) : Task (Option Instance) :=
  (q.withKey id).first

def findOrFail (q : Query) (id : Int) : Task Instance := do
  match ← q.find id with
  | some i => return i
  | none => throw (.noRecord q.model.name id)

/-- The rows of several primary keys; nothing runs without keys. -/
def findMany (q : Query) (ids : List Int) : Task (List Instance) :=
  if ids.isEmpty then return []
  else (q.filter (.isIn q.qualifiedKey (ids.map Value.int))).get

/-- The value of an aggregate over all rows that the query matches. -/
def aggregate (q : Query) (function : Aggregate) (column : Option String) : Task Value := do
  let row ← Task.selectFirst
    { q.statement with
      projection := .aggregate function column
      orderBy := []
      limit := none
      offset := none }
  return (row.bind fun row => row.get? aggregateAlias).getD .null

/-- The integer that a counted value stands for. -/
def countOf : Value → Int
  | .number (.int n) => if fitsInt64 n then n else (Binary64.ofInt n).toInt64
  | .number (.float x) => x.toInt64
  | _ => 0

/-- The number of rows; of groups when the query groups. -/
def count (q : Query) : Task Int := do
  if q.groupBy.isEmpty then return countOf (← q.aggregate .count none)
  return (← Task.select q.statement).length

/-- The query matches some row. -/
def hasRows (q : Query) : Task Bool := do
  return 0 < (← q.count)

/-- An aggregate as a number: 0 for null, and the number that a text spells. -/
def numericAggregate (q : Query) (function : Aggregate) (column : String) : Task Binary64 := do
  match ← q.aggregate function (some column) with
  | .null => return .zero
  | .number n => return n.toFloat
  | .text s =>
    match Binary64.ofText? s with
    | some x => return x
    | none => throw (.notNumeric function.text column (.text s))
  | v => throw (.notNumeric function.text column v)

def max (q : Query) (column : String) : Task Binary64 := q.numericAggregate .max column

def min (q : Query) (column : String) : Task Binary64 := q.numericAggregate .min column

def avg (q : Query) (column : String) : Task Binary64 := q.numericAggregate .avg column

def sum (q : Query) (column : String) : Task Binary64 := q.numericAggregate .sum column

/-- The values of one column expression. -/
def pluck (q : Query) (column : String) : Task (List Value) := do
  let rows ← Task.select { q.statement with projection := .columns [column] }
  return rows.map fun row => (row.get? (ColumnName.resultKey column)).getD .null

/-- Sets values in all rows that the query matches; nothing runs without values. -/
def setAll (q : Query) (values : Row) (validated : Bool) : Task Nat := do
  if values.isEmpty then return 0
  q.model.checkRules values .update validated
  let values ← if q.model.traits.timestamps then Model.stampChange values else Pure.pure values
  Task.update { table := q.model.table, values, conditions := q.scopedConditions }

/-- Sets the values that may be assigned in bulk. -/
def update (q : Query) (values : Row) : Task Nat :=
  q.setAll (q.model.filterFillable values) true

/-- Sets the values that are columns, without a check of the rules. -/
def forceUpdate (q : Query) (values : Row) : Task Nat :=
  q.setAll (q.model.filterColumns values) false

/-- Moves all rows that the query matches to the trash, or removes them when there is no trash. -/
def delete (q : Query) : Task Nat := do
  if q.model.traits.softDeletes then
    let values := Row.empty.insert "deleted_at" (← Task.stamp)
    Task.update { table := q.model.table, values, conditions := q.scopedConditions }
  else Task.delete { table := q.model.table, conditions := q.scopedConditions }

end EntityStore.Query
