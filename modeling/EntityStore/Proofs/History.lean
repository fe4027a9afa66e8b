import EntityStore.Proofs.Isolation
import EntityStore.Proofs.Keys

/-!
# What becomes of inserted rows

The shared store changes by the writes that are run on it directly and by the journals of the
transactions that are committed. The history of a run is the list of these writes, each with the
store that it met. The rows of a table are what the history leaves of the rows before it, and then
what is left of the rows that it inserted, in the order of their insertion (`Engine.accounts_run`).
-/

namespace EntityStore

/-- A write that has changed a store, and the store as it was before. -/
structure Applied where
  met : Store
  write : Write

namespace Applied

/-- The rows that the write has appended to a table, each with its key. -/
def inserted (a : Applied) (table : String) : List Row :=
  match a.write with
  | .insert statement =>
    if statement.table = table then
      match Store.assignKeys statement.returning (a.met.sequence table) statement.rows with
      | .ok (keyed, _) => keyed.map (·.2)
      | .error _ => []
    else []
  | _ => []

/-- What the write leaves of a row of a table: an update changes the rows that it selects, and a
delete removes them. -/
def leaves (a : Applied) (table : String) (row : Row) : Option Row :=
  match a.write with
  | .insert _ => some row
  | .update statement =>
    if statement.table = table ∧ a.met.selects table statement.conditions row then
      some (row.merge statement.values)
    else some row
  | .delete statement =>
    if statement.table = table ∧ a.met.selects table statement.conditions row then none
    else some row

end Applied

/-- What a list of writes leaves of a row of a table. -/
def remains (table : String) (row : Row) (history : List Applied) : Option Row :=
  history.foldlM (fun row a => a.leaves table row) row

/-- What is left of the rows that a list of writes has inserted into a table. -/
def landed (table : String) : List Applied → List Row
  | [] => []
  | a :: later => (a.inserted table).filterMap (remains table · later) ++ landed table later

variable {table : String}

theorem remains_cons (row : Row) (a : Applied) (later : List Applied) :
    remains table row (a :: later) = (a.leaves table row).bind (remains table · later) := rfl

theorem remains_append (row : Row) (first rest : List Applied) :
    remains table row (first ++ rest) = (remains table row first).bind (remains table · rest) := by
  unfold remains
  rw [List.foldlM_append]
  rfl

theorem landed_append (first rest : List Applied) :
    landed table (first ++ rest) =
      (landed table first).filterMap (remains table · rest) ++ landed table rest := by
  induction first with
  | nil => rfl
  | cons a later ih =>
    have step (row : Row) : remains table row (later ++ rest) =
        (remains table row later).bind (remains table · rest) := remains_append row later rest
    rw [List.cons_append, landed, landed, ih, List.filterMap_append, List.filterMap_filterMap,
      List.append_assoc]
    simp only [step]

/-- A delete among the writes selects what those before it leave of the row. -/
def Deleted (table : String) (row : Row) (history : List Applied) : Prop :=
  ∃ first met statement rest left, history = first ++ ⟨met, .delete statement⟩ :: rest ∧
    statement.table = table ∧ remains table row first = some left ∧
    met.selects table statement.conditions left = true

/-- Something remains of a row that no delete selects. -/
theorem remains_of_not_deleted {row : Row} {history : List Applied}
    (spared : ¬ Deleted table row history) : ∃ left, remains table row history = some left := by
  -- Updates change the row on the way, so that the induction is for every row.
  induction history generalizing row with
  | nil => exact ⟨row, rfl⟩
  | cons a later ih =>
    cases next : a.leaves table row with
    | none =>
      obtain ⟨met, w⟩ := a
      cases w with
      | insert statement => cases next
      | update statement =>
        simp only [Applied.leaves] at next
        split at next <;> cases next
      | delete statement =>
        simp only [Applied.leaves] at next
        split at next
        · next selected =>
          exact absurd ⟨[], met, statement, later, row, rfl, selected.1, rfl, selected.2⟩ spared
        · cases next
    | some changed =>
      have sparedLater : ¬ Deleted table changed later := by
        rintro ⟨first, met, statement, rest, left, rfl, own, remaining, selected⟩
        refine spared ⟨a :: first, met, statement, rest, left, rfl, own, ?_, selected⟩
        rw [remains_cons, next]
        exact remaining
      obtain ⟨left, remaining⟩ := ih sparedLater
      refine ⟨left, ?_⟩
      rw [remains_cons, next]
      exact remaining

/-- A row that is inserted in a history is found among what has landed, if anything remains of it. -/
theorem mem_landed {earlier later : List Applied} {a : Applied} {row left : Row}
    (member : row ∈ a.inserted table) (remaining : remains table row later = some left) :
    left ∈ landed table (earlier ++ a :: later) := by
  rw [landed_append, landed]
  refine List.mem_append_right _ (List.mem_append_left _ ?_)
  exact List.mem_filterMap.2 ⟨row, member, remaining⟩

namespace Applied

variable {store : Store}

/-- A write has no part in the rows of another table. -/
theorem of_other {a : Applied} (different : table ≠ a.write.target) :
    a.inserted table = [] ∧ ∀ row, a.leaves table row = some row := by
  obtain ⟨met, w⟩ := a
  cases w with
  | insert statement =>
    have other : statement.table ≠ table := Ne.symm different
    refine ⟨?_, fun row => rfl⟩
    simp only [inserted, if_neg other]
  | update statement =>
    have other : statement.table ≠ table := Ne.symm different
    refine ⟨rfl, fun row => ?_⟩
    simp only [leaves, other, false_and, if_false]
  | delete statement =>
    have other : statement.table ≠ table := Ne.symm different
    refine ⟨rfl, fun row => ?_⟩
    simp only [leaves, other, false_and, if_false]

theorem inserted_insert {statement : Insert} {keyed : List (Int × Row)} {last : Int}
    (assigned : Store.assignKeys statement.returning (store.sequence statement.table)
      statement.rows = .ok (keyed, last)) :
    (⟨store, .insert statement⟩ : Applied).inserted statement.table = keyed.map (·.2) := by
  simp only [inserted, if_true, assigned]

theorem leaves_update (statement : Update) (row : Row) :
    (⟨store, .update statement⟩ : Applied).leaves statement.table row =
      some (if store.selects statement.table statement.conditions row then
        row.merge statement.values else row) := by
  simp only [leaves, true_and]
  split <;> rfl

theorem leaves_delete (statement : Delete) (row : Row) :
    (⟨store, .delete statement⟩ : Applied).leaves statement.table row =
      if store.selects statement.table statement.conditions row then none else some row := by
  simp only [leaves, true_and]

end Applied

namespace Store

/-- The rows of a table after a write are what it leaves of those before, and those that it
inserts. -/
theorem rows_write {store changed : Store} {w : Write} {answer : WriteAnswer}
    (h : store.write w = .ok (answer, changed)) (table : String) :
    changed.rows table = (store.rows table).filterMap ((⟨store, w⟩ : Applied).leaves table) ++
      (⟨store, w⟩ : Applied).inserted table := by
  by_cases own : table = w.target
  · cases w with
    | insert statement =>
      obtain rfl : table = statement.table := own
      obtain ⟨keyed, last, _, assigned, _, rfl⟩ := write_insert h
      have all : (store.rows statement.table).filterMap
          ((⟨store, .insert statement⟩ : Applied).leaves statement.table) =
            store.rows statement.table := List.filterMap_some
      rw [rows_appended_self, all, Applied.inserted_insert assigned]
    | update statement =>
      obtain rfl : table = statement.table := own
      obtain rfl := write_update h
      have nothing : (⟨store, .update statement⟩ : Applied).inserted statement.table = [] := rfl
      rw [nothing, List.append_nil]
      unfold update
      rw [rows_setRows_self, ← List.filterMap_eq_map']
      apply List.filterMap_congr
      intro row _
      exact (Applied.leaves_update statement row).symm
    | delete statement =>
      obtain rfl : table = statement.table := own
      obtain rfl := write_delete h
      have nothing : (⟨store, .delete statement⟩ : Applied).inserted statement.table = [] := rfl
      rw [nothing, List.append_nil]
      unfold delete
      rw [rows_setRows_self, ← List.filterMap_eq_filter]
      apply List.filterMap_congr
      intro row _
      rw [Applied.leaves_delete, Option.guard]
      cases store.selects statement.table statement.conditions row <;> rfl
  · obtain ⟨nothing, all⟩ := Applied.of_other (a := ⟨store, w⟩) own
    rw [(write_frame h own).1, nothing, List.append_nil]
    rw [List.filterMap_congr fun row _ => all row, List.filterMap_some]

/-- The writes of a list that succeed one after the other, up to the first that fails. -/
def passes (store : Store) : List Write → List Applied
  | [] => []
  | w :: rest =>
    match store.write w with
    | .ok (_, changed) => ⟨store, w⟩ :: changed.passes rest
    | .error _ => []

/-- Every table holds after the history what is left of its rows, and then of the rows that were
inserted. -/
def Accounts (history : List Applied) (before after : Store) : Prop :=
  ∀ table, after.rows table =
    (before.rows table).filterMap (remains table · history) ++ landed table history

variable {before middle after : Store} {first rest : List Applied}

/-- A history without writes accounts for unchanged tables. -/
theorem Accounts.of_tables (same : after.tables = before.tables) : Accounts [] before after := by
  intro table
  have all : (before.rows table).filterMap (remains table · []) = before.rows table :=
    List.filterMap_some
  have sameRows : after.rows table = before.rows table := by
    unfold rows
    rw [same]
  rw [all, sameRows]
  exact (List.append_nil _).symm

theorem Accounts.append (start : Accounts first before middle) (goesOn : Accounts rest middle after) :
    Accounts (first ++ rest) before after := by
  intro table
  have step (row : Row) : remains table row (first ++ rest) =
      (remains table row first).bind (remains table · rest) := remains_append row first rest
  rw [goesOn, start, landed_append, List.filterMap_append, List.filterMap_filterMap,
    List.append_assoc]
  simp only [step]

theorem Accounts.of_write {w : Write} {answer : WriteAnswer} (h : before.write w = .ok (answer, after)) :
    Accounts [⟨before, w⟩] before after := by
  intro table
  have one (row : Row) : remains table row [⟨before, w⟩] =
      (⟨before, w⟩ : Applied).leaves table row := by
    rw [remains_cons]
    exact Option.bind_fun_some _
  have new : landed table [⟨before, w⟩] = (⟨before, w⟩ : Applied).inserted table := by
    have all : ((⟨before, w⟩ : Applied).inserted table).filterMap (remains table · []) =
        (⟨before, w⟩ : Applied).inserted table := List.filterMap_some
    rw [landed, all]
    exact List.append_nil _
  rw [rows_write h, new]
  simp only [one]

theorem mem_passes {a : Applied} {writes : List Write} (h : a ∈ before.passes writes) :
    a.write ∈ writes := by
  induction writes generalizing before with
  | nil => cases h
  | cons w rest ih =>
    unfold passes at h
    split at h
    · rcases List.mem_cons.1 h with rfl | h
      · exact List.mem_cons_self
      · exact List.mem_cons_of_mem _ (ih h)
    · cases h

theorem passes_of_ok {w : Write} {rest : List Write} {answer : WriteAnswer}
    (h : before.write w = .ok (answer, after)) :
    before.passes (w :: rest) = ⟨before, w⟩ :: after.passes rest := by
  rw [passes, h]

/-- In a journal that is replayed, every entry has been applied to some store. -/
theorem passes_of_replay {first rest : List Write} {w : Write}
    (h : before.replay (first ++ w :: rest) = .ok after) :
    ∃ earlier met later result, before.passes (first ++ w :: rest) = earlier ++ ⟨met, w⟩ :: later ∧
      met.write w = .ok result := by
  induction first generalizing before with
  | nil =>
    rw [List.nil_append] at h ⊢
    obtain ⟨answer, changed, ran, -⟩ := replay_cons.1 h
    exact ⟨[], before, _, _, passes_of_ok ran, ran⟩
  | cons v first ih =>
    rw [List.cons_append] at h ⊢
    obtain ⟨answer, changed, ran, replayed⟩ := replay_cons.1 h
    obtain ⟨earlier, met, later, outcome, passed, applies⟩ := ih replayed
    refine ⟨⟨before, v⟩ :: earlier, met, later, outcome, ?_, applies⟩
    rw [passes_of_ok ran, passed]
    rfl

/-- A journal that is replayed accounts for what it leads to. -/
theorem Accounts.of_replay {journal : List Write} (h : before.replay journal = .ok after) :
    Accounts (before.passes journal) before after := by
  induction journal generalizing before with
  | nil =>
    cases h
    exact of_tables rfl
  | cons w rest ih =>
    obtain ⟨answer, changed, ran, replayed⟩ := replay_cons.1 h
    rw [passes_of_ok ran]
    exact (of_write ran).append (ih replayed)

end Store

namespace Engine

/-- The writes by which an action changes the shared store. -/
def applied (engine : Engine) : Action → List Applied
  | .run .shared (.write w) => engine.shared.passes [w]
  | .commit index =>
    match engine.active index, (engine.commit index).1 with
    | .ok t, .ok () => engine.shared.passes t.journal
    | _, _ => []
  | _ => []

/-- The writes by which a run changes the shared store, in order. -/
def history (engine : Engine) : List Action → List Applied
  | [] => []
  | action :: rest => engine.applied action ++ (engine.step action).history rest

theorem history_append (engine : Engine) (first rest : List Action) :
    engine.history (first ++ rest) = engine.history first ++ (engine.run first).history rest := by
  induction first generalizing engine with
  | nil => rfl
  | cons action first ih =>
    rw [List.cons_append, history, history, ih, run_cons, List.append_assoc]

/-- A commit that succeeds has run the journal on the shared store. -/
theorem commit_ok {engine : Engine} {index : Nat} (h : (engine.commit index).1 = .ok ()) :
    ∃ t, engine.active index = .ok t ∧
      engine.shared.replay t.journal = .ok (engine.commit index).2.shared ∧
      engine.applied (.commit index) = engine.shared.passes t.journal := by
  have committed := engine.committed index
  have applied : ∀ t, engine.active index = .ok t →
      engine.applied (.commit index) = engine.shared.passes t.journal := by
    intro t opened
    simp only [applied, opened, h]
  generalize engine.commit index = outcome at committed h ⊢
  cases committed with
  | refused | failed => cases h
  | @done t shared opened replayed => exact ⟨t, opened, replayed, applied t opened⟩

/-- A write by which an action changes the shared store is the action itself, or it stands in the
journal that the action commits. -/
theorem mem_applied {engine : Engine} {action : Action} {a : Applied}
    (h : a ∈ engine.applied action) :
    (∃ w, action = .run .shared (.write w) ∧ a.write = w) ∨
      ∃ index t, action = .commit index ∧ engine.active index = .ok t ∧ a.write ∈ t.journal := by
  unfold applied at h
  split at h
  · next w => exact Or.inl ⟨w, rfl, List.mem_singleton.1 (Store.mem_passes h)⟩
  · next index =>
    split at h
    · next t opened _ => exact Or.inr ⟨index, t, rfl, opened, Store.mem_passes h⟩
    · cases h
  · cases h

/-- The writes of an action account for what it makes of the shared store. -/
theorem accounts_step (engine : Engine) (action : Action) :
    Store.Accounts (engine.applied action) engine.shared (engine.step action).shared := by
  cases action with
  | begin handle => exact .of_tables (begin_tables engine handle)
  | run handle statement =>
    cases handle with
    | shared =>
      rw [shared_step]
      cases statement with
      | select statement => exact .of_tables rfl
      | write w =>
        cases ran : engine.shared.write w with
        | error e =>
          have nothing : engine.applied (.run .shared (.write w)) = [] := by
            simp only [applied, Store.passes, ran]
          rw [nothing, Store.after_of_error ran]
          exact .of_tables rfl
        | ok result =>
          obtain ⟨answer, changed⟩ := result
          have one : engine.applied (.run .shared (.write w)) = [⟨engine.shared, w⟩] :=
            Store.passes_of_ok ran
          rw [one, Store.after_of_ok ran]
          exact .of_write ran
    | transaction index => exact .of_tables ((engine.allOrNothing index).hidden statement)
  | commit index =>
    cases ended : (engine.commit index).1 with
    | ok _ =>
      obtain ⟨t, opened, replayed, committed⟩ := commit_ok ended
      rw [committed]
      exact .of_replay replayed
    | error e =>
      have nothing : engine.applied (.commit index) = [] := by
        simp only [applied, ended]
        split
        · next h => cases h
        · rfl
      rw [nothing]
      exact .of_tables (congrArg Store.tables (commit_failed ended))
  | rollback index => exact .of_tables (congrArg Store.tables (rollback_shared engine index))

/-- **What becomes of inserted rows.** After a run every table holds what the history of the run has
left of its rows, and then what is left of the rows that the history inserted, each once. -/
theorem accounts_run (engine : Engine) (actions : List Action) :
    Store.Accounts (engine.history actions) engine.shared (engine.run actions).shared := by
  induction actions generalizing engine with
  | nil => exact .of_tables rfl
  | cons action rest ih => exact (accounts_step engine action).append (ih (engine.step action))

end Engine

end EntityStore
