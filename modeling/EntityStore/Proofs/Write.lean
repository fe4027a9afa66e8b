import EntityStore.Proofs.Conditions
import EntityStore.Store.Engine

/-!
# What a write does

A write names tables: the one that it changes and those of its subqueries. An insertion that succeeds
is read back here once (`Store.write_insert`), and every write leaves the tables alone that are not
its own (`Store.write_frame`).
-/

namespace EntityStore

/-- The table that a write changes. -/
def Write.target : Write → String
  | .insert statement => statement.table
  | .update statement => statement.table
  | .delete statement => statement.table

/-- The tables that a write names: the one that it changes and those of its subqueries. -/
def Write.tables : Write → List String
  | .insert statement => [statement.table]
  | .update statement => statement.table :: treeTables statement.conditions
  | .delete statement => statement.table :: treeTables statement.conditions

theorem Write.target_mem_tables (w : Write) : w.target ∈ w.tables := by
  cases w <;> exact List.mem_cons_self

namespace Store

/-- The integers in a column of a table. -/
def keys (store : Store) (table column : String) : List Int :=
  (store.rows table).filterMap (keyOf? column)

/-- The rows with their keys are appended to the table, and the sequence has reached `last`. -/
def appended (store : Store) (table : String) (keyed : List (Int × Row)) (last : Int) : Store :=
  (store.setRows table (store.rows table ++ keyed.map (·.2))).setSequence table last

@[simp] theorem rows_appended_self (store : Store) (table : String) (keyed : List (Int × Row))
    (last : Int) : (store.appended table keyed last).rows table =
      store.rows table ++ keyed.map (·.2) := by
  simp [appended]

@[simp] theorem sequence_appended_self (store : Store) (table : String)
    (keyed : List (Int × Row)) (last : Int) :
    (store.appended table keyed last).sequence table = last := by
  simp [appended]

/-- An insertion whose keys are free and do not run out appends its rows. -/
theorem write_insert_ok {store : Store} {statement : Insert} {keyed : List (Int × Row)} {last : Int}
    (free : firstTaken (store.keys statement.table statement.returning)
      (statement.rows.filterMap (keyOf? statement.returning)) = none)
    (assigned : assignKeys statement.returning (store.sequence statement.table) statement.rows =
      .ok (keyed, last)) :
    store.write (.insert statement) =
      .ok (.inserted (keyed.map (·.1)), store.appended statement.table keyed last) := by
  unfold keys at free
  simp only [write, insert, free, assigned, Except.map, appended]

/-- An insertion that succeeds has found its keys free and has appended its rows. -/
theorem write_insert {store changed : Store} {statement : Insert} {answer : WriteAnswer}
    (h : store.write (.insert statement) = .ok (answer, changed)) :
    ∃ keyed last,
      firstTaken (store.keys statement.table statement.returning)
        (statement.rows.filterMap (keyOf? statement.returning)) = none ∧
      assignKeys statement.returning (store.sequence statement.table) statement.rows =
        .ok (keyed, last) ∧
      answer = .inserted (keyed.map (·.1)) ∧
      changed = store.appended statement.table keyed last := by
  cases free : firstTaken (store.keys statement.table statement.returning)
      (statement.rows.filterMap (keyOf? statement.returning)) with
  | some key =>
    unfold keys at free
    simp only [write, insert, free, Except.map, reduceCtorEq] at h
  | none =>
    cases assigned : assignKeys statement.returning (store.sequence statement.table)
        statement.rows with
    | error e =>
      unfold keys at free
      simp only [write, insert, free, assigned, Except.map, reduceCtorEq] at h
    | ok result =>
      obtain ⟨keyed, last⟩ := result
      rw [write_insert_ok free assigned] at h
      cases h
      exact ⟨keyed, last, rfl, rfl, rfl, rfl⟩

theorem write_update {store changed : Store} {statement : Update} {answer : WriteAnswer}
    (h : store.write (.update statement) = .ok (answer, changed)) :
    changed = (store.update statement).2 := by
  cases h
  rfl

theorem write_delete {store changed : Store} {statement : Delete} {answer : WriteAnswer}
    (h : store.write (.delete statement) = .ok (answer, changed)) :
    changed = (store.delete statement).2 := by
  cases h
  rfl

/-- A write leaves every table but its own as it was. -/
theorem write_frame {store changed : Store} {w : Write} {answer : WriteAnswer}
    (h : store.write w = .ok (answer, changed)) {table : String} (different : table ≠ w.target) :
    changed.rows table = store.rows table ∧ changed.sequence table = store.sequence table := by
  cases w with
  | insert statement =>
    obtain ⟨keyed, last, _, _, _, rfl⟩ := write_insert h
    exact ⟨rows_setRows_of_ne store _ different, sequence_setSequence_of_ne _ last different⟩
  | update statement =>
    rw [write_update h]
    exact ⟨rows_setRows_of_ne store _ different, rfl⟩
  | delete statement =>
    rw [write_delete h]
    exact ⟨rows_setRows_of_ne store _ different, rfl⟩

/-- The store after a statement, also after one that fails. -/
def after (store : Store) : Statement → Store
  | .select _ => store
  | .write w =>
    match store.write w with
    | .ok (_, changed) => changed
    | .error _ => store

end Store

end EntityStore
