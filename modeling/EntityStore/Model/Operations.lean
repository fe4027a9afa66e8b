import EntityStore.Query.Page

/-!
# Operations of an entity

What an entity offers as a whole: making rows, finding them, and removing them by their keys.
-/

namespace EntityStore

namespace Model

/-- An instance that is not stored, with the values that may be assigned in bulk. -/
def newInstance (m : Model) (values : Row) : Instance :=
  ({ model := m } : Instance).fill values

/-- Inserts one row. -/
def insertOne (m : Model) (row : Row) (validated : Bool) : Task Instance := do
  match (← m.insertRows [row] validated).head? with
  | some i => return i
  | none => throw (.notRetrieved "created" m.name)

/-- Inserts a row of the values that may be assigned in bulk. -/
def create (m : Model) (values : Row) : Task Instance :=
  m.insertOne (m.filterFillable values) true

/-- Inserts several such rows by one statement. -/
def createMany (m : Model) (rows : List Row) : Task (List Instance) :=
  m.insertRows (rows.map m.filterFillable) true

/-- Inserts a row of the values that are columns, without a check of the rules. -/
def forceCreate (m : Model) (values : Row) : Task Instance :=
  m.insertOne (m.filterColumns values) false

/-- The rows that have the given values. -/
def having (m : Model) (values : Row) : Except Error Query :=
  values.fields.foldlM (fun q (name, value) =>
    if !m.hasColumn name then .error (.unknownAttribute m.name name)
    else .ok (if value.isNull then q.filter (.isNull name) else q.whereEq name value)) m.query

/-- The first row that has the values of `sought`, or a new row of these and the other values, which
are looked at only then. -/
def firstOrCreate (m : Model) (sought : Row) (values : Value) : Task Instance := do
  match ← (← Work.ofExcept (m.having sought)).first with
  | some i => return i
  | none => m.create (sought.merge (← Work.ofExcept (Row.ofValue values)))

/-- The first row that has the values of `sought`, with the other values written into it, or a new
row of both. -/
def updateOrCreate (m : Model) (sought values : Row) : Task Instance := do
  match ← (← Work.ofExcept (m.having sought)).first with
  | some i => i.update values
  | none => m.create (sought.merge values)

/-- Deletes the row of a key; false when there is none. -/
def remove (m : Model) (id : Int) : Task Bool :=
  tryCatch (do
    let _ ← m.deleteRow id
    return true) fun e =>
    if e.kind = .recordNotFound then return false else throw e

end Model

namespace Instance

/-- Reads the row of the instance again, from the trash too. -/
def refresh (i : Instance) : Task Instance := do
  let id ← Work.ofExcept i.requireId
  let db ← Work.database
  let m ← Work.ofExcept (db.registry.get i.model.name)
  let fresh ← { m.query with scope := .everything }.findOrFail id
  return i.synchronised fresh.attributes .empty

end Instance

end EntityStore
