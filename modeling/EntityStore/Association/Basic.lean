import EntityStore.Instance.Write

/-!
# Rows that belong to instances of many entities

Tags, comments and links to categories stand in tables that all entities share. Each row names its
owner by the key of the owner and the table of the owner's entity; every statement of this module is
restricted to the rows of one owner.
-/

namespace EntityStore

/-- The rows of a shared table that belong to one owner. -/
structure OwnedRows where
  table : String
  idColumn : String
  typeColumn : String
  ownerId : Int
  ownerType : String
deriving DecidableEq, Repr

/-- Reads a row as a structure. -/
def Row.decode {α : Type} (row : Row) (read : Reader α) : Except Error α :=
  (read (.ofValue row.toValue)).mapError .decode

/-- Inserts one row with its stamps and answers it as the table holds it. -/
def Task.insertStamped (table : String) (values : Row) : Task Row := do
  let row ← Model.stampCreation values
  match (← Task.insert { table, rows := [row] }).head? with
  | none => throw (.notRetrieved "created" table)
  | some key =>
    match ← Task.selectFirst { table, conditions := [(.and, .compare "id" .eq (.int key))] } with
    | some row => return row
    | none => throw (.notRetrieved "created" table)

namespace OwnedRows

/-- The rows of an instance in a shared table; only an instance with a key has such rows. -/
def ofInstance (owner : Instance) (table idColumn typeColumn : String) : Except Error OwnedRows :=
  owner.requireId.map fun id => ⟨table, idColumn, typeColumn, id, owner.model.ownerType⟩

/-- The conditions that the rows of the owner satisfy. -/
def conditions (rows : OwnedRows) : ConditionTree :=
  [(.and, .compare rows.idColumn .eq (.int rows.ownerId)),
    (.and, .compare rows.typeColumn .eq (.text rows.ownerType))]

/-- The selection of the rows of the owner. -/
def selection (rows : OwnedRows) : Select :=
  { table := rows.table, conditions := rows.conditions }

/-- Fetches the rows of a selection as structures. -/
def fetch {α : Type} (statement : Select) (read : Reader α) : Task (List α) := do
  let found ← Task.select statement
  Work.ofExcept (found.mapM (·.decode read))

/-- The number of rows of a selection. -/
def countOf (statement : Select) : Task Int := do
  let row ← Task.selectFirst { statement with projection := .aggregate .count none }
  return ((row.bind fun row => row.get? aggregateAlias).bind Value.asInt64?).getD 0

/-- Inserts a row of the owner. -/
def insert (rows : OwnedRows) (values : Row) : Task Row :=
  Task.insertStamped rows.table
    ((values.insert rows.idColumn (.int rows.ownerId)).insert rows.typeColumn
      (.text rows.ownerType))

/-- The conditions on one row of the owner. -/
def keyConditions (rows : OwnedRows) (id : Int) : ConditionTree :=
  (.and, .compare "id" .eq (.int id)) :: rows.conditions

/-- Sets values in one row of the owner and answers how many rows there were. -/
def update (rows : OwnedRows) (id : Int) (values : Row) : Task Nat := do
  let values := values.insert "updated_at" (← Task.stamp)
  Task.update { table := rows.table, values, conditions := rows.keyConditions id }

/-- Deletes one row of the owner and answers how many rows there were. -/
def delete (rows : OwnedRows) (id : Int) : Task Nat :=
  Task.delete { table := rows.table, conditions := rows.keyConditions id }

end OwnedRows

end EntityStore
