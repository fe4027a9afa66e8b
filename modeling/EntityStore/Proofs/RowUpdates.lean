import EntityStore.Proofs.Ledger
import EntityStore.Proofs.Terminals
import EntityStore.Proofs.Traversal

/-!
# Updates of a row by its key

An update of a row runs one statement for all rows that the key selects (`Model.reads`), reads the
key again and announces what it finds. It ends in one of three ways (`Model.RowUpdated`), each of
which says what became of the tables (`Engine.Rewritten`) and of the announcements. Calls on an
instance get as far as this, or they end before with nothing done (`Revision.outcome`).
-/

namespace EntityStore

namespace Engine

variable {engine : Engine} {handle : Handle} {table : String}

/-- The rows of a table as a handle sees them, if the handle is open. -/
def tableOf (engine : Engine) (handle : Handle) (table : String) : Except Error (List Row) :=
  (engine.storeOf handle).map (·.rows table)

/-- What a handle sees of a table is what the store behind it holds. -/
theorem tableOf_eq_ok {rows : List Row} : engine.tableOf handle table = .ok rows ↔
    ∃ store, engine.storeOf handle = .ok store ∧ store.rows table = rows := by
  unfold tableOf
  cases engine.storeOf handle with
  | error e =>
    constructor
    · intro seen
      cases seen
    · rintro ⟨store, opened, -⟩
      cases opened
  | ok store =>
    constructor
    · intro seen
      exact ⟨store, rfl, Except.ok.inj seen⟩
    · rintro ⟨store, opened, rfl⟩
      cases opened
      rfl

/-- From one engine to another every row that the handle sees in the table is changed in its place,
and nothing that any handle sees besides. -/
structure Rewritten (before after : Engine) (handle : Handle) (table : String)
    (change : Row → Row) : Prop where
  rows : after.tableOf handle table = (before.tableOf handle table).map (List.map change)
  others : ∀ handle' table', (handle', table') ≠ (handle, table) →
    after.tableOf handle' table' = before.tableOf handle' table'

/-- A change that leaves every row as it is changes nothing. -/
theorem Rewritten.of_fixed {change : Row → Row}
    (fixed : ∀ rows, engine.tableOf handle table = .ok rows → ∀ row ∈ rows, change row = row) :
    engine.Rewritten engine handle table change where
  rows := by
    cases seen : engine.tableOf handle table with
    | error e => rfl
    | ok rows =>
      have same : rows.map change = rows :=
        (List.map_congr_left (fixed rows seen)).trans (List.map_id rows)
      exact congrArg Except.ok same.symm
  others _ _ _ := rfl

/-- What a change that leaves every row as it is leads to shows the same to every handle. -/
theorem Rewritten.tableOf_eq {after : Engine} {change : Row → Row}
    (rewritten : engine.Rewritten after handle table change)
    (fixed : ∀ rows, engine.tableOf handle table = .ok rows → ∀ row ∈ rows, change row = row)
    (handle' : Handle) (table' : String) :
    after.tableOf handle' table' = engine.tableOf handle' table' := by
  by_cases own : (handle', table') = (handle, table)
  · cases own
    rw [rewritten.rows, ← (Rewritten.of_fixed fixed).rows]
  · exact rewritten.others handle' table' own

theorem tableOf_shared (engine : Engine) (table : String) :
    engine.tableOf .shared table = .ok ((fieldOf? table engine.shared.tables).getD []) := rfl

theorem tableOf_transaction (engine : Engine) (index : Nat) (table : String) :
    engine.tableOf (.transaction index) table =
      (engine.active index).map fun t => t.working.rows table := by
  unfold tableOf
  rw [storeOf_transaction]
  cases engine.active index <;> rfl

/-- A write through one handle changes nothing that the others see. -/
theorem tableOf_write_of_ne {handle' : Handle} (different : handle' ≠ handle) (w : Write) :
    (engine.write handle w).2.tableOf handle' table = engine.tableOf handle' table := by
  cases handle' with
  | shared =>
    cases handle with
    | shared => exact absurd rfl different
    | transaction index => rw [tableOf_shared, tableOf_shared, engine.write_tables index w]
  | transaction index =>
    have others := engine.write_transactions (Ne.symm different) w
    rw [tableOf_transaction, tableOf_transaction, active, active, others]

/-- A write that fails changes nothing that any handle sees. -/
theorem tableOf_write_failed {w : Write} {e : Error} (failed : (engine.write handle w).1 = .error e)
    (handle' : Handle) : (engine.write handle w).2.tableOf handle' table =
      engine.tableOf handle' table := by
  cases handle with
  | shared =>
    unfold write at failed ⊢
    cases ran : engine.shared.write w with
    | error e => rfl
    | ok result =>
      rw [ran] at failed
      cases failed
  | transaction index =>
    by_cases other : handle' = .transaction index
    · subst other
      have wrote := wrote engine index w
      generalize engine.write (.transaction index) w = outcome at wrote failed ⊢
      cases wrote with
      | refused e => rfl
      | failed e drew => rfl
      | noted active drew ran => cases failed
    · exact tableOf_write_of_ne other w

end Engine

namespace Model

variable {m : Model} {db : Database} {s : Session} {id : Int} {values : Row}

/-! ### The rows of a key -/

/-- The statements on a key select the row. -/
def reads (m : Model) (id : Int) (row : Row) : Bool :=
  ((Scope.ofRow m.table row).lookup m.primaryKey).looseEq (.int id)

/-- What an update of a key makes of a row. -/
def rewrite (m : Model) (id : Int) (values row : Row) : Row :=
  if m.reads id row then row.merge values else row

theorem selects_keyIs (m : Model) (store : Store) (id : Int) :
    store.selects m.table [(.and, m.keyIs id)] = m.reads id := by
  funext row
  rw [Store.selects, Store.satisfiesTree, Store.satisfiesRest, keyIs, Store.satisfies,
    Operator.holds_eq]
  rfl

/-- Under a name without a dot rows show the key that they carry. -/
theorem reads_plain (plain : '.' ∉ m.primaryKey.toList) (id : Int) (row : Row) :
    m.reads id row = (row.value m.primaryKey).looseEq (.int id) := by
  rw [reads, Scope.lookup_ofRow m.table row plain]

theorem rewrite_of_isEmpty (m : Model) (id : Int) {values : Row} (empty : values.isEmpty = true)
    (row : Row) : m.rewrite id values row = row := by
  have none : values.fields = [] := List.isEmpty_iff.1 empty
  unfold rewrite Row.merge
  rw [none]
  exact ite_self _

/-- The rows of the table after an update of a key. -/
theorem rows_updateOf (m : Model) (store : Store) (id : Int) (values : Row) :
    (store.update (m.updateOf id values)).2.rows m.table =
      (store.rows m.table).map (m.rewrite id values) := by
  change ((store.setRows m.table _).rows m.table) = _
  rw [Store.rows_setRows_self]
  change ((store.rows m.table).map fun row =>
    if store.selects m.table [(.and, m.keyIs id)] row then row.merge values else row) = _
  rw [selects_keyIs]
  rfl

/-- The rows of the table after the row of a key is removed. -/
theorem rows_deleteOf (m : Model) (store : Store) (id : Int) :
    (store.delete (m.deleteOf id)).2.rows m.table =
      (store.rows m.table).filter fun row => !m.reads id row := by
  change ((store.setRows m.table _).rows m.table) = _
  rw [Store.rows_setRows_self]
  change ((store.rows m.table).filter fun row =>
    !store.selects m.table [(.and, m.keyIs id)] row) = _
  rw [selects_keyIs]

/-- An update of a key changes its rows as the handle sees them. -/
theorem rewritten_updateOf (m : Model) (id : Int) (values : Row) (engine : Engine)
    (handle : Handle) :
    engine.Rewritten (engine.write handle (.update (m.updateOf id values))).2 handle m.table
      (m.rewrite id values) := by
  cases opened : engine.storeOf handle with
  | error e =>
    rw [Engine.write_closed opened]
    refine .of_fixed fun rows seen => ?_
    rw [Engine.tableOf, opened] at seen
    cases seen
  | ok store =>
    have ran : store.write (.update (m.updateOf id values)) =
        .ok (.changed (store.update (m.updateOf id values)).1,
          (store.update (m.updateOf id values)).2) := rfl
    have changed := (Engine.write_unkeyed opened rfl ran).2
    constructor
    · rw [Engine.tableOf, changed, Engine.tableOf, opened]
      exact congrArg Except.ok (m.rows_updateOf store id values)
    · intro handle' table' others
      by_cases same : handle' = handle
      · subst same
        have different : table' ≠ m.table := fun same => others (same ▸ rfl)
        rw [Engine.tableOf, changed, Engine.tableOf, opened]
        exact congrArg Except.ok (store.rows_setRows_of_ne _ different)
      · exact Engine.tableOf_write_of_ne same _

/-- The row of a key is the first one that it selects. -/
theorem rowOf?_eq (m : Model) (store : Store) (id : Int) :
    m.rowOf? store id = (store.rows m.table).find? (m.reads id) := by
  have whole : ({ table := m.table, conditions := [(.and, m.keyIs id)] } : Select).Whole :=
    ⟨rfl, rfl, rfl, rfl, rfl⟩
  unfold rowOf?
  rw [store.head?_select whole rfl rfl, selects_keyIs]

/-! ### How an update ends -/

/-- The ends of an update of a key that is allowed: the handle is not open, no row has the key
afterwards, or the first one that has it is answered and announced. -/
inductive RowUpdated (m : Model) (id : Int) (values : Row) (db : Database) (s : Session) :
    Except Error Instance × Session → Prop where
  | closed {e : Error} {s' : Session} (closed : s.engine.tableOf db.handle m.table = .error e)
    (rewritten : s.engine.Rewritten s'.engine db.handle m.table (m.rewrite id values))
    (silent : s'.announcements = s.announcements) : RowUpdated m id values db s (.error e, s')
  | lost {rows : List Row} {s' : Session} (seen : s.engine.tableOf db.handle m.table = .ok rows)
    (rewritten : s.engine.Rewritten s'.engine db.handle m.table (m.rewrite id values))
    (lost : ∀ row ∈ rows, m.reads id (m.rewrite id values row) = false)
    (silent : s'.announcements = s.announcements) :
    RowUpdated m id values db s (.error (.notRetrieved "updated" m.name), s')
  | found {rows : List Row} {row : Row} {s' : Session}
    (seen : s.engine.tableOf db.handle m.table = .ok rows)
    (rewritten : s.engine.Rewritten s'.engine db.handle m.table (m.rewrite id values))
    (found : (rows.map (m.rewrite id values)).find? (m.reads id) = some row)
    (announced : s'.announcements = s.announcements ++ db.announced ⟨m, .updated, row⟩) :
    RowUpdated m id values db s (.ok (.ofRow m row), s')

/-- However an update ends, its rows are rewritten: where no handle is open there are none. -/
theorem RowUpdated.rewritten {outcome : Except Error Instance × Session}
    (ends : m.RowUpdated id values db s outcome) :
    s.engine.Rewritten outcome.2.engine db.handle m.table (m.rewrite id values) := by
  cases ends with
  | closed _ rewritten | lost _ rewritten | found _ rewritten => exact rewritten

/-- Reads the row of a key after an update and announces it. -/
def reading (m : Model) (id : Int) : Task Instance := do
  let i := Instance.ofRow m (← m.reread id "updated")
  Task.announce m .updated i.toValue
  return i

/-- An update once its values are checked and stamped. -/
def writing (m : Model) (id : Int) (values : Row) : Task Instance :=
  if values.isEmpty then m.reading id
  else do
    let _ ← Task.update (m.updateOf id values)
    m.reading id

/-- An update that is allowed writes the values with their stamp. -/
theorem run_updateRow {validated : Bool}
    (allowed : (m.checkRules values .update validated db s).1 = .ok ()) :
    ∃ s', s'.engine = s.engine ∧ s'.announcements = s.announcements ∧
      m.updateRow id values validated db s = m.writing id (m.stamped s values) db s' := by
  have written (values : Row) : m.writing id values = (do
      if !values.isEmpty then
        let _ ← Task.update (m.updateOf id values)
      m.reading id) := by
    unfold writing
    cases values.isEmpty <;> rfl
  rw [run_checkRules] at allowed
  unfold updateRow
  rw [Work.run_bind, run_checkRules, written]
  dsimp only at allowed ⊢
  rw [allowed]
  unfold stamped
  cases stamps : m.traits.timestamps with
  | false => exact ⟨s, rfl, rfl, rfl⟩
  | true =>
    unfold stampChange Row.insertNew
    cases carried : values.contains "updated_at" with
    | true =>
      refine ⟨s, rfl, rfl, ?_⟩
      simp only [if_true]
      rfl
    | false =>
      refine ⟨{ s with clock := s.clock.next }, rfl, rfl, ?_⟩
      simp only [Bool.false_eq_true, if_false, if_true]
      rfl

/-- An update that is not allowed ends with the rule that it breaks, before anything is done. -/
theorem run_updateRow_refused {validated : Bool} {e : Error}
    (refused : (m.checkRules values .update validated db s).1 = .error e) :
    m.updateRow id values validated db s = (.error e, s) := by
  rw [run_checkRules] at refused
  unfold updateRow
  rw [Work.run_bind, run_checkRules]
  dsimp only at refused ⊢
  rw [refused]

theorem run_updateOf (m : Model) (id : Int) (values : Row) (db : Database) (s : Session) :
    ∃ s', s.engine.Rewritten s'.engine db.handle m.table (m.rewrite id values) ∧
      s'.announcements = s.announcements ∧
      Task.update (m.updateOf id values) db s =
        ((s.engine.tableOf db.handle m.table).map fun rows => rows.countP (m.reads id), s') := by
  refine ⟨{ s with
      received := s.received ++ [.write (.update (m.updateOf id values))]
      engine := (s.engine.write db.handle (.update (m.updateOf id values))).2 },
    m.rewritten_updateOf id values s.engine db.handle, rfl, ?_⟩
  unfold Task.update Engine.tableOf
  rw [Work.run_bind, Task.run_write]
  cases opened : s.engine.storeOf db.handle with
  | error e =>
    rw [Engine.write_closed opened]
    rfl
  | ok store =>
    have ran : store.write (.update (m.updateOf id values)) =
        .ok (.changed (store.update (m.updateOf id values)).1,
          (store.update (m.updateOf id values)).2) := rfl
    rw [(Engine.write_unkeyed opened rfl ran).1]
    have counted : (store.update (m.updateOf id values)).1 =
        (store.rows m.table).countP (m.reads id) :=
      congrArg (fun selected => (store.rows m.table).countP selected) (m.selects_keyIs store id)
    exact congrArg (fun n => (Except.ok n, _)) counted

/-- Reading a key back answers the first row that has it and changes nothing. -/
theorem run_reread (m : Model) (id : Int) (action : String) (db : Database) (s : Session) :
    ∃ s', s'.engine = s.engine ∧ s'.announcements = s.announcements ∧
      m.reread id action db s = ((s.engine.tableOf db.handle m.table).bind fun rows =>
        (rows.find? (m.reads id)).elim (.error (.notRetrieved action m.name)) .ok, s') := by
  refine ⟨{ s with
    received := s.received ++ [.select
      { table := m.table, conditions := [(.and, m.keyIs id)], limit := some 1 }] }, rfl, rfl, ?_⟩
  unfold reread Task.selectFirst Engine.tableOf
  simp only [Work.run_bind, Task.run_select, Engine.select_eq]
  cases opened : s.engine.storeOf db.handle with
  | error e => rfl
  | ok store =>
    have read := m.rowOf?_eq store id
    unfold rowOf? at read
    dsimp only [Except.map, Except.bind, Work.run_pure]
    rw [read]
    cases (store.rows m.table).find? (m.reads id) <;> rfl

/-- Reading ends on what the statement has made of the rows. -/
theorem rowUpdated_reading {s' : Session}
    (rewritten : s.engine.Rewritten s'.engine db.handle m.table (m.rewrite id values))
    (silent : s'.announcements = s.announcements) :
    m.RowUpdated id values db s (m.reading id db s') := by
  obtain ⟨s₂, still, quiet, ran⟩ := m.run_reread id "updated" db s'
  rw [rewritten.rows] at ran
  rw [← still] at rewritten
  rw [← quiet] at silent
  unfold reading
  rw [Work.run_bind, ran]
  cases seen : s.engine.tableOf db.handle m.table with
  | error e => exact .closed seen rewritten silent
  | ok rows =>
    dsimp only [Except.map, Except.bind]
    cases found : (rows.map (m.rewrite id values)).find? (m.reads id) with
    | none =>
      refine .lost seen rewritten (fun row mem => ?_) silent
      exact Bool.eq_false_iff.2 (List.find?_eq_none.1 found _ (List.mem_map_of_mem mem))
    | some row =>
      have announced := Task.run_announce ⟨m, .updated, row⟩ db s₂
      dsimp only [Option.elim] at announced ⊢
      rw [Work.run_bind, announced]
      exact .found seen rewritten found (congrArg (· ++ _) silent)

/-- How an update that is allowed ends. -/
theorem rowUpdated_updateRow {validated : Bool}
    (allowed : (m.checkRules values .update validated db s).1 = .ok ()) :
    m.RowUpdated id (m.stamped s values) db s (m.updateRow id values validated db s) := by
  obtain ⟨s₁, still, silent, ran⟩ := @run_updateRow m db s id values validated allowed
  rw [ran]
  unfold writing
  cases empty : (m.stamped s values).isEmpty with
  | true =>
    rw [if_pos rfl]
    refine rowUpdated_reading ?_ silent
    rw [still]
    exact .of_fixed fun rows _ row _ => m.rewrite_of_isEmpty id empty row
  | false =>
    rw [if_neg (by decide), Work.run_bind]
    obtain ⟨s₂, rewritten, quiet, updated⟩ := m.run_updateOf id (m.stamped s values) db s₁
    rw [still] at rewritten updated
    rw [updated]
    have silent₂ := quiet.trans silent
    cases seen : s.engine.tableOf db.handle m.table with
    | error e => exact .closed seen rewritten silent₂
    | ok rows => exact rowUpdated_reading rewritten silent₂

end Model

/-! ### Calls on an instance -/

/-- A call that writes into the row of a stored instance. -/
inductive Revision where
  | update (values : Value)
  | forceUpdate (values : Value)
  | save

namespace Revision

variable {i : Instance} {db : Database} {s : Session}

def run (i : Instance) : Revision → Task Instance
  | .update values => do i.update (← Work.ofExcept (Row.ofValue values))
  | .forceUpdate values => do i.forceUpdate (← Work.ofExcept (Row.ofValue values))
  | .save => i.save

/-- The values that the call is about to write, and whether the rules are asked. -/
def values? (i : Instance) : Revision → Option (Row × Bool)
  | .update values =>
    (Row.ofValue values).toOption.map fun row => (i.model.filterFillable row, true)
  | .forceUpdate values =>
    (Row.ofValue values).toOption.map fun row => (i.model.filterColumns row, false)
  | .save =>
    if (i.model.filterColumns i.dirty).isEmpty then none
    else some (i.model.filterColumns i.dirty, true)

/-- The key and the values that the call gets to write; nothing when it ends before. -/
def target? (c : Revision) (i : Instance) (db : Database) (s : Session) : Option (Int × Row) :=
  match c.values? i, i.id? with
  | some (values, validated), some id =>
    if (i.model.checkRules values .update validated db s).1.isOk then
      some (id, i.model.stamped s values)
    else none
  | _, _ => none

theorem id?_of_target? {c : Revision} {id : Int} {values : Row}
    (target : c.target? i db s = some (id, values)) : i.id? = some id := by
  unfold target? at target
  split at target
  · next keyed =>
    split at target
    · cases target
      exact keyed
    · cases target
  · cases target

/-- A call ends before anything is done, or as the update of a row ends. -/
inductive Outcome (c : Revision) (i : Instance) (db : Database) (s : Session) :
    Except Error Instance × Session → Prop where
  | early {answer : Except Error Instance} (untried : c.target? i db s = none) :
    Outcome c i db s (answer, s)
  | updated {id : Int} {values written : Row} {answer : Except Error Instance} {s' : Session}
    (target : c.target? i db s = some (id, values))
    (ends : i.model.RowUpdated id values db s (answer, s')) :
    Outcome c i db s (answer.map fun j => i.synchronised j.attributes written, s')

namespace Outcome

variable {c : Revision} {outcome : Except Error Instance × Session}

theorem still (ends : c.Outcome i db s outcome) (untried : c.target? i db s = none) :
    outcome.2 = s := by
  cases ends with
  | early => rfl
  | updated target => cases untried.symm.trans target

theorem rewritten (ends : c.Outcome i db s outcome) {id : Int} {values : Row}
    (target : c.target? i db s = some (id, values)) :
    s.engine.Rewritten outcome.2.engine db.handle i.model.table (i.model.rewrite id values) := by
  cases ends with
  | early untried => cases untried.symm.trans target
  | updated target' ends =>
    cases target.symm.trans target'
    exact ends.rewritten

end Outcome

theorem outcome_writeValues {c : Revision} {values : Row} {validated : Bool}
    (given : c.values? i = some (values, validated)) :
    c.Outcome i db s (i.writeValues values validated db s) := by
  unfold Instance.writeValues
  rw [Work.run_bind]
  unfold Instance.requireId
  cases keyed : i.id? with
  | none => exact .early (by rw [target?, given, keyed])
  | some id =>
    dsimp only [Work.run_ofExcept]
    rw [Work.run_bind]
    cases checked : (i.model.checkRules values .update validated db s).1 with
    | error e =>
      rw [Model.run_updateRow_refused checked]
      refine .early ?_
      rw [target?, given, keyed]
      dsimp only
      rw [checked]
      rfl
    | ok _ =>
      have ends : i.model.RowUpdated id (i.model.stamped s values) db s
          (i.model.updateRow id values validated db s) := Model.rowUpdated_updateRow checked
      have target : c.target? i db s = some (id, i.model.stamped s values) := by
        rw [target?, given, keyed]
        dsimp only
        rw [checked]
        rfl
      cases ran : i.model.updateRow id values validated db s with
      | mk answer s' =>
        rw [ran] at ends
        have outcome : c.Outcome i db s
            (answer.map fun j => i.synchronised j.attributes values, s') := .updated target ends
        cases answer <;> exact outcome

/-- How the calls on a stored instance end. -/
theorem outcome (c : Revision) (stored : i.stored = true) : c.Outcome i db s (c.run i db s) := by
  cases c with
  | update values =>
    rw [run, Work.run_bind]
    cases given : Row.ofValue values with
    | error e => exact .early (by rw [target?, values?, given]; rfl)
    | ok row => exact outcome_writeValues (by rw [values?, given]; rfl)
  | forceUpdate values =>
    rw [run, Work.run_bind]
    cases given : Row.ofValue values with
    | error e => exact .early (by rw [target?, values?, given]; rfl)
    | ok row => exact outcome_writeValues (by rw [values?, given]; rfl)
  | save =>
    rw [run, Instance.save, stored, if_neg (by decide)]
    cases clean : (i.model.filterColumns i.dirty).isEmpty with
    | true =>
      rw [if_pos rfl]
      exact .early (by rw [target?, values?, clean]; rfl)
    | false =>
      rw [if_neg (by decide)]
      have given : Revision.save.values? i = some (i.model.filterColumns i.dirty, true) := by
        rw [values?, clean]
        rfl
      exact outcome_writeValues given

end Revision

end EntityStore
