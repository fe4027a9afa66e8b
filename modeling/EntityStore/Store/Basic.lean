import EntityStore.Query.Statement
import EntityStore.Store.Compare
import EntityStore.Store.Scope

/-!
# Stores

A store holds the rows of every table in the order of their insertion, and for every table the last
key that was given out. This module says which rows satisfy a condition tree, and how insertions,
updates and deletions change the store.
-/

namespace EntityStore

/-- The contents of all tables and the key sequences. A table without an entry is empty. -/
structure Store where
  tables : List (String × List Row) := []
  sequences : List (String × Int) := []
deriving Repr, Inhabited

namespace Store

/-- The rows of a table. -/
def rows (store : Store) (table : String) : List Row :=
  (fieldOf? table store.tables).getD []

/-- The last key given out for a table. -/
def sequence (store : Store) (table : String) : Int :=
  (fieldOf? table store.sequences).getD 0

def setRows (store : Store) (table : String) (rows : List Row) : Store :=
  { store with tables := setField table rows store.tables }

def setSequence (store : Store) (table : String) (key : Int) : Store :=
  { store with sequences := setField table key store.sequences }

@[simp] theorem rows_setRows_self (store : Store) (table : String) (rows : List Row) :
    (store.setRows table rows).rows table = rows := by
  simp [setRows, Store.rows, fieldOf?_setField_self]

theorem rows_setRows_of_ne (store : Store) {table other : String} (rows : List Row)
    (h : other ≠ table) : (store.setRows table rows).rows other = store.rows other := by
  simp [setRows, Store.rows, fieldOf?_setField_of_ne rows _ h]

@[simp] theorem rows_setSequence (store : Store) (table other : String) (key : Int) :
    (store.setSequence table key).rows other = store.rows other := rfl

@[simp] theorem sequence_setSequence_self (store : Store) (table : String) (key : Int) :
    (store.setSequence table key).sequence table = key := by
  simp [setSequence, Store.sequence, fieldOf?_setField_self]

theorem sequence_setSequence_of_ne (store : Store) {table other : String} (key : Int)
    (h : other ≠ table) : (store.setSequence table key).sequence other = store.sequence other := by
  simp [setSequence, Store.sequence, fieldOf?_setField_of_ne key _ h]

@[simp] theorem sequence_setRows (store : Store) (table other : String) (rows : List Row) :
    (store.setRows table rows).sequence other = store.sequence other := rfl

mutual

/-- The condition holds in the scope. -/
def satisfies (store : Store) (scope : Scope) : Condition → Bool
  | .compare column operator value => operator.holds (scope.lookup column) value
  | .columns first operator second => operator.holds (scope.lookup first) (scope.lookup second)
  | .isIn column values =>
    !(scope.lookup column).isNull && values.any (scope.lookup column).looseEq
  | .notIn column values =>
    !(scope.lookup column).isNull && !values.any (scope.lookup column).looseEq
  | .isNull column => (scope.lookup column).isNull
  | .notNull column => !(scope.lookup column).isNull
  | .between column low high =>
    Operator.ge.holds (scope.lookup column) low && Operator.le.holds (scope.lookup column) high
  | .group tree => satisfiesTree store scope tree
  | .related negated table correlation tree =>
    let outer := scope.lookup (qualified correlation.outerTable correlation.outerColumn)
    ((store.rows table).any fun row =>
      ((scope.nested table row).lookup correlation.inner).looseEq outer &&
        satisfiesTree store (scope.nested table row) tree) != negated

/-- The tree holds in the scope: it is empty, or every condition of some segment holds. -/
def satisfiesTree (store : Store) (scope : Scope) : ConditionTree → Bool
  | [] => true
  | (_, condition) :: rest => satisfiesRest store scope (satisfies store scope condition) rest

/-- The rest of a tree holds, given whether the segment before it holds so far. -/
def satisfiesRest (store : Store) (scope : Scope) (segment : Bool) : ConditionTree → Bool
  | [] => segment
  | (conjunction, condition) :: rest =>
    if conjunction = .or then
      segment || satisfiesRest store scope (satisfies store scope condition) rest
    else satisfiesRest store scope (segment && satisfies store scope condition) rest

end

/-- A row of a table satisfies the conditions of a statement on that table. -/
def selects (store : Store) (table : String) (conditions : ConditionTree) (row : Row) : Bool :=
  store.satisfiesTree (.ofRow table row) conditions

/-- The integer key that a row carries in a column. -/
def keyOf? (column : String) (row : Row) : Option Int :=
  (row.get? column).bind Value.asInt64?

/-- The first key that is taken already, among the keys before it or those of `taken`. -/
def firstTaken (taken : List Int) : List Int → Option Int
  | [] => none
  | key :: rest => if taken.contains key then some key else firstTaken (key :: taken) rest

/-- The key after the last one that was given out; keys are integers of 64 bits. -/
def nextKey (last : Int) : Except Error Int :=
  if fitsInt64 (last + 1) then .ok (last + 1) else .error .keyOverflow

/-- The key of a row: the one it carries, or the next of the sequence. -/
def keyFor (column : String) (last : Int) (row : Row) : Except Error Int :=
  match keyOf? column row with
  | some key => .ok key
  | none => nextKey last

/-- Gives every row its key; the sequence never falls behind a key that a row carries. Answers the
last key given out too. -/
def assignKeys (column : String) (last : Int) : List Row → Except Error (List (Int × Row) × Int)
  | [] => .ok ([], last)
  | row :: rest => do
    let key ← keyFor column last row
    let (done, last) ← assignKeys column (max last key) rest
    .ok ((key, row.insert column (.int key)) :: done, last)

/-- Appends the rows of an insertion and answers their keys. Nothing is changed when a row carries a
key that is taken, or the keys run out. -/
def insert (store : Store) (statement : Insert) : Except Error (List Int × Store) :=
  let present := (store.rows statement.table).filterMap (keyOf? statement.returning)
  match firstTaken present (statement.rows.filterMap (keyOf? statement.returning)) with
  | some key => .error (.duplicateKey statement.table statement.returning key)
  | none =>
    (assignKeys statement.returning (store.sequence statement.table) statement.rows).map
      fun (keyed, last) =>
        (keyed.map (·.1),
          (store.setRows statement.table
            (store.rows statement.table ++ keyed.map (·.2))).setSequence statement.table last)

/-- Sets the values of an update in every selected row and answers their number. -/
def update (store : Store) (statement : Update) : Nat × Store :=
  let selected := store.selects statement.table statement.conditions
  ((store.rows statement.table).countP selected,
    store.setRows statement.table ((store.rows statement.table).map fun row =>
      if selected row then row.merge statement.values else row))

/-- Removes every selected row and answers their number. -/
def delete (store : Store) (statement : Delete) : Nat × Store :=
  let selected := store.selects statement.table statement.conditions
  ((store.rows statement.table).countP selected,
    store.setRows statement.table ((store.rows statement.table).filter fun row => !selected row))

end Store

end EntityStore
