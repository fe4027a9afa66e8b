import EntityStore.Query.ColumnName
import EntityStore.Store.Basic

/-!
# Selections

A selection joins, filters, groups, sorts, projects and cuts the rows of a table, in this order.
Aggregates are taken of the filtered and grouped rows. A random order leaves the rows as they are.
-/

namespace EntityStore

namespace Select

/-- The scopes of one scope joined with the rows of another table. -/
def joinScope (store : Store) (join : Join) (scope : Scope) : List Scope :=
  let matching := ((store.rows join.table).map (scope.join join.table)).filter fun joined =>
    (joined.lookup join.first).looseEq (joined.lookup join.second)
  if matching.isEmpty && join.kind = .left then [scope] else matching

/-- The scopes of the joined rows of a selection. -/
def joinedScopes (store : Store) (statement : Select) : List Scope :=
  statement.joins.foldl (fun scopes join => scopes.flatMap (joinScope store join))
    ((store.rows statement.table).map (.ofRow statement.table))

/-- Counts a scope into the group of its key, or opens a new group for it. -/
def addToGroups (key : List Value) (scope : Scope) :
    List (List Value × Scope × Nat) → List (List Value × Scope × Nat)
  | [] => [(key, scope, 1)]
  | (k, first, n) :: rest =>
    if Value.sameList k key then (k, first, n + 1) :: rest
    else (k, first, n) :: addToGroups key scope rest

/-- The groups of scopes that agree in the columns: their values, their first scope, their size. -/
def groups (columns : List String) (scopes : List Scope) : List (List Value × Scope × Nat) :=
  scopes.foldl (fun done scope => addToGroups (columns.map scope.lookup) scope done) []

/-- One scope for every group, with the size of the group as a further column. -/
def groupScopes (columns : List String) (scopes : List Scope) : List Scope :=
  (groups columns scopes).map fun (_, scope, n) =>
    { scope with columns := scope.columns.insert groupCountAlias (.int n) }

/-- The scopes that a selection answers, before sorting. -/
def selectedScopes (store : Store) (statement : Select) : List Scope :=
  let filtered := (joinedScopes store statement).filter fun scope =>
    store.satisfiesTree scope statement.conditions
  if statement.groupBy.isEmpty then filtered
  else (groupScopes statement.groupBy filtered).filter fun scope =>
    store.satisfiesTree scope statement.having

/-- Keeps the value that is further in the wanted direction, the earlier one when neither is. -/
def better (wanted : Ordering) (current next : Value) : Value :=
  if (next.compare? current).getD .eq = wanted then next else current

/-- The extreme value of a list, null when it is empty. -/
def extreme (wanted : Ordering) : List Value → Value
  | [] => .null
  | v :: rest => rest.foldl (better wanted) v

/-- The result of an aggregate function over scopes. -/
def aggregateOf (function : Aggregate) (column : Option String) (scopes : List Scope) : Value :=
  let values :=
    match column with
    | some name => (scopes.map (·.lookup name)).filter fun v => !v.isNull
    | none => []
  let numbers := values.filterMap Value.asFloat?
  match function with
  | .count => .int (if column.isSome then values.length else scopes.length)
  | .sum =>
    if numbers.isEmpty then .null
    else if values.all Value.isInt64 then .int (Binary64.sum numbers).toInt64
    else .ofFloat (.sum numbers)
  | .avg =>
    if numbers.isEmpty then .null
    else .ofFloat ((Binary64.sum numbers).div (.ofInt numbers.length))
  | .min => extreme .lt values
  | .max => extreme .gt values

/-- The order of two scopes by a list of keys. -/
def compareScopes (a b : Scope) : List Order → Ordering
  | [] => .eq
  | .random :: rest => compareScopes a b rest
  | .column name direction :: rest =>
    let o := (a.lookup name).order (b.lookup name)
    let o := if direction = .asc then o else o.swap
    if o = .eq then compareScopes a b rest else o

/-- Puts a scope behind the last one that is not after it; the list is in descending order. -/
def insertScope (orderBy : List Order) (scope : Scope) : List Scope → List Scope
  | [] => [scope]
  | last :: before =>
    if compareScopes scope last orderBy = .lt then last :: insertScope orderBy scope before
    else scope :: last :: before

/-- The scopes in order; those that compare as equal keep their order. -/
def sortScopes (orderBy : List Order) (scopes : List Scope) : List Scope :=
  if orderBy.contains .random then scopes
  else (scopes.foldl (fun sorted scope => insertScope orderBy scope sorted) []).reverse

/-- The answered row of a scope. -/
def project (projection : Projection) (groupBy : List String) (scope : Scope) : Row :=
  match projection with
  | .columns names =>
    names.foldl (fun (row : Row) name =>
      let (source, label) := ColumnName.splitAlias name
      row.insert label (scope.lookup source)) Row.empty
  | _ =>
    if groupBy.isEmpty then scope.base
    else
      (groupBy.foldl (fun (row : Row) name =>
        row.insert (ColumnName.unqualified name) (scope.lookup name)) Row.empty).insert
          groupCountAlias (scope.lookup groupCountAlias)

/-- The rows without those that are the same as an earlier one. -/
def distinctRows (rows : List Row) : List Row :=
  rows.foldl (fun done row => if done.any (·.same row) then done else done ++ [row]) []

/-- The window of a list that begins after `offset` items and holds at most `limit`. -/
def window {α : Type} (offset limit : Option Nat) (items : List α) : List α :=
  let rest := items.drop (offset.getD 0)
  match limit with
  | some n => rest.take n
  | none => rest

end Select

namespace Store

/-- The rows that a selection answers. -/
def select (store : Store) (statement : Select) : List Row :=
  let scopes := statement.selectedScopes store
  match statement.projection with
  | .aggregate function column =>
    [Row.empty.insert aggregateAlias (Select.aggregateOf function column scopes)]
  | projection =>
    let rows := (Select.sortScopes statement.orderBy scopes).map
      (Select.project projection statement.groupBy)
    Select.window statement.offset statement.limit
      (if statement.distinct then Select.distinctRows rows else rows)

end Store

end EntityStore
