import EntityStore.Database.Task
import EntityStore.Instance.Basic
import EntityStore.Uuid

/-!
# Writing the rows of an entity

Every write of a model sets the columns that its traits maintain, checks the rules if asked to,
changes the table, reads the row again and announces the event.
-/

namespace EntityStore

namespace Model

/-- The condition on the primary key. -/
def keyIs (m : Model) (id : Int) : Condition :=
  .compare m.primaryKey .eq (.int id)

/-- Checks the rules when the caller and the settings ask for it. -/
def checkRules (m : Model) (row : Row) (mode : WriteMode) (validated : Bool) : Task Unit := do
  let db ← Work.database
  if validated && db.config.validateOnWrite then
    Work.ofExcept (m.validator.validate row mode)

/-- A row with the two stamps of its creation, where it does not carry them. -/
def stampCreation (row : Row) : Task Row := do
  let stamp ← Task.stamp
  return (row.insertNew "created_at" stamp).insertNew "updated_at" stamp

/-- A row with the stamp of its change, where it does not carry one. -/
def stampChange (row : Row) : Task Row := do
  if row.contains "updated_at" then return row
  return row.insert "updated_at" (← Task.stamp)

/-- A new row as it is inserted. -/
def prepareRow (m : Model) (validated : Bool) (row : Row) : Task Row := do
  m.checkRules row .create validated
  let row ← if m.traits.uuid then do
      let number ← Task.freshNumber
      Pure.pure (row.insert "uuid" (.text (Uuid.ofNumber number)))
    else Pure.pure row
  if m.traits.timestamps then stampCreation row else return row

/-- The rows of the keys, in the order of the keys. A key takes the last row that carries it, and
takes it once. -/
def rowsOfKeys (m : Model) (fetched : List Row) (taken : List Int) :
    List Int → Except Error (List Row)
  | [] => .ok []
  | key :: rest =>
    let row? :=
      if taken.contains key then none
      else fetched.reverse.find? fun row => Store.keyOf? m.primaryKey row = some key
    match row? with
    | none => .error (.notRetrieved "created" m.name)
    | some row => (rowsOfKeys m fetched (key :: taken) rest).map (row :: ·)

/-- Inserts rows and answers their instances in the order of the rows. -/
def insertRows (m : Model) (rows : List Row) (validated : Bool) : Task (List Instance) := do
  if rows.isEmpty then return []
  let rows ← rows.mapM (m.prepareRow validated)
  let keys ← Task.insert { table := m.table, rows, returning := m.primaryKey }
  let fetched ← Task.select
    { table := m.table, conditions := [(.and, .isIn m.primaryKey (keys.map Value.int))] }
  let stored ← Work.ofExcept (m.rowsOfKeys fetched [] keys)
  let instances := stored.map (Instance.ofRow m)
  instances.forM fun i => Task.announce m .created i.toValue
  return instances

/-- Reads the row of a key after it was written. -/
def reread (m : Model) (id : Int) (action : String) : Task Row := do
  match ← Task.selectFirst { table := m.table, conditions := [(.and, m.keyIs id)] } with
  | some row => return row
  | none => throw (.notRetrieved action m.name)

/-- Sets values in the row of a key and answers its instance. -/
def updateRow (m : Model) (id : Int) (values : Row) (validated : Bool) : Task Instance := do
  m.checkRules values .update validated
  let values ← if m.traits.timestamps then stampChange values else Pure.pure values
  if !values.isEmpty then
    let _ ← Task.update { table := m.table, values, conditions := [(.and, m.keyIs id)] }
  let i := Instance.ofRow m (← m.reread id "updated")
  Task.announce m .updated i.toValue
  return i

/-- The conditions under which a key has a row that can be deleted: one in the trash cannot. -/
def deletable (m : Model) (id : Int) : ConditionTree :=
  if m.traits.softDeletes then [(.and, m.keyIs id), (.and, .isNull "deleted_at")]
  else [(.and, m.keyIs id)]

/-- Moves the row of a key to the trash when the entity has one, and answers it; else removes the
row. -/
def deleteRow (m : Model) (id : Int) : Task (Option Row) := do
  match ← Task.selectFirst { table := m.table, conditions := m.deletable id } with
  | none => throw (.noRecord m.name id)
  | some existing =>
    if m.traits.softDeletes then
      let values := Row.empty.insert "deleted_at" (← Task.stamp)
      let _ ← Task.update { table := m.table, values, conditions := [(.and, m.keyIs id)] }
      let row ← m.reread id "deleted"
      Task.announce m .deleted (Instance.ofRow m row).toValue
      return some row
    else
      let _ ← Task.delete { table := m.table, conditions := [(.and, m.keyIs id)] }
      Task.announce m .deleted (Instance.ofRow m existing).toValue
      return none

end Model

namespace Instance

/-- Inserts the row when it is not stored; else writes what has been set since it was read. -/
def save (i : Instance) : Task Instance := do
  if !i.stored then
    match (← i.model.insertRows [i.model.filterColumns i.attributes] true).head? with
    | some created => return i.synchronised created.attributes created.attributes
    | none => return i
  else
    let dirty := i.model.filterColumns i.dirty
    if dirty.isEmpty then return i
    let id ← Work.ofExcept i.requireId
    let updated ← i.model.updateRow id dirty true
    return i.synchronised updated.attributes dirty

/-- Writes values into the row of the instance. -/
def writeValues (i : Instance) (values : Row) (validated : Bool) : Task Instance := do
  let id ← Work.ofExcept i.requireId
  let updated ← i.model.updateRow id values validated
  return i.synchronised updated.attributes values

/-- Writes the values that may be assigned in bulk. -/
def update (i : Instance) (values : Row) : Task Instance :=
  i.writeValues (i.model.filterFillable values) true

/-- Writes the values that are columns, without a check of the rules. -/
def forceUpdate (i : Instance) (values : Row) : Task Instance :=
  i.writeValues (i.model.filterColumns values) false

/-- Deletes the row of the instance. -/
def delete (i : Instance) : Task Instance := do
  let id ← Work.ofExcept i.requireId
  let trashed ← i.model.deleteRow id
  let i := match trashed with
    | some row => i.synchronised row (difference row i.attributes)
    | none => i
  return { i with stored := i.model.traits.softDeletes && i.stored }

end Instance

end EntityStore
