import EntityStore.Proofs.Run

/-!
# All or nothing

What is done in a transaction shows outside only through a commit that succeeds. Statements of a
transaction change no shared table, others do not change what it reads, a rollback and a commit that
fails leave the shared store as it was, and a transaction that has ended refuses everything from then
on (`Engine.allOrNothing`). A unit of work that is done in a transaction is bound by this: when it
fails, no shared table was changed but by others. Main result: `Task.transaction_allOrNothing`.
-/

namespace EntityStore

namespace Engine

/-- The keys drawn for a write are all that its preparation changes in the shared store. -/
theorem prepare_tables {shared after : Store} {w prepared : Write}
    (h : prepare shared w = .ok (prepared, after)) : after.tables = shared.tables := by
  cases w with
  | insert statement =>
    obtain ⟨_, _, _, _, rfl⟩ := prepare_insert h
    rfl
  | update statement =>
    cases h
    rfl
  | delete statement =>
    cases h
    rfl

/-- A write of a transaction changes no shared table, whether it succeeds or not. -/
theorem write_tables (engine : Engine) (index : Nat) (w : Write) :
    (engine.write (.transaction index) w).2.shared.tables = engine.shared.tables := by
  have wrote := engine.wrote index w
  generalize engine.write (.transaction index) w = outcome at wrote ⊢
  cases wrote with
  | refused => rfl
  | failed _ drew | noted _ drew => exact prepare_tables drew

/-- To begin changes no shared table. -/
theorem begin_tables (engine : Engine) (handle : Handle) :
    (engine.step (.begin handle)).shared.tables = engine.shared.tables := by
  cases handle <;> rfl

/-- A commit that fails leaves the shared store as it was, at whatever entry of the journal it
fails. -/
theorem commit_failed {engine : Engine} {index : Nat} {e : Error}
    (h : (engine.commit index).1 = .error e) : (engine.commit index).2.shared = engine.shared := by
  have committed := engine.committed index
  generalize engine.commit index = outcome at committed h ⊢
  cases committed with
  | refused | failed => rfl
  | done => cases h

theorem rollback_shared (engine : Engine) (index : Nat) :
    (engine.rollback index).2.shared = engine.shared := by
  unfold rollback
  split <;> rfl

/-- The transaction of that number was opened, and it has ended. -/
def Ended (engine : Engine) (index : Nat) : Prop :=
  ∃ t, engine.transactions[index]? = some t ∧ t.finished = true

/-- Every operation on the transaction fails with the error and changes nothing. -/
structure Refuses (engine : Engine) (index : Nat) (e : Error) : Prop where
  select : ∀ statement, engine.select (.transaction index) statement = .error e
  write : ∀ w, engine.write (.transaction index) w = (.error e, engine)
  commit : engine.commit index = (.error e, engine)
  rollback : engine.rollback index = (.error e, engine)

/-- A transaction that is not open refuses everything. -/
theorem refuses_of_active {engine : Engine} {index : Nat} {e : Error}
    (closed : engine.active index = .error e) : engine.Refuses index e where
  select statement := by
    rw [select_eq, storeOf_transaction, closed]
    rfl
  write w := by
    have closedStore : engine.storeOf (.transaction index) = .error e := by
      rw [storeOf_transaction, closed]
      rfl
    exact write_closed closedStore w
  commit := by simp only [Engine.commit, closed]
  rollback := by simp only [Engine.rollback, closed]

namespace Ended

variable {engine : Engine} {index : Nat}

theorem active (ended : engine.Ended index) :
    engine.active index = .error .transactionFinished := by
  obtain ⟨t, found, finished⟩ := ended
  unfold Engine.active
  rw [found]
  simp [finished]

theorem refuses (ended : engine.Ended index) : engine.Refuses index .transactionFinished :=
  refuses_of_active ended.active

/-- An ended transaction stays ended, whatever is asked of the engine, and on whatever handle. -/
theorem step (ended : engine.Ended index) (action : Action) :
    (engine.step action).Ended index := by
  have refuses := ended.refuses
  obtain ⟨t, found, finished⟩ := ended
  have bound : index < engine.transactions.length := (List.getElem?_eq_some_iff.1 found).1
  suffices same : (engine.step action).transactions[index]? = engine.transactions[index]? from
    ⟨t, same.trans found, finished⟩
  -- On its own handle everything is refused, and on another one nothing reaches the transaction.
  by_cases own : action.handle = .transaction index
  · cases action with
    | begin handle =>
      cases own
      rfl
    | run handle statement =>
      cases own
      cases statement with
      | select statement => rfl
      | write w =>
        change (engine.write (.transaction index) w).2.transactions[index]? = _
        rw [refuses.write]
    | commit i =>
      cases own
      change (engine.commit index).2.transactions[index]? = _
      rw [refuses.commit]
    | rollback i =>
      cases own
      change (engine.rollback index).2.transactions[index]? = _
      rw [refuses.rollback]
  · exact transactions_step bound own

theorem run (ended : engine.Ended index) (actions : List Action) :
    (engine.run actions).Ended index := by
  induction actions generalizing engine with
  | nil => exact ended
  | cons action rest ih => exact ih (ended.step action)

end Ended

/-- A transaction that was opened has ended after a commit and after a rollback, also after ones that
fail. -/
theorem ended_of_end {engine : Engine} {index : Nat} (bound : index < engine.transactions.length) :
    (engine.step (.commit index)).Ended index ∧ (engine.step (.rollback index)).Ended index := by
  have there (t : Transaction) : (engine.setTransaction index t).transactions[index]? = some t :=
    List.getElem?_set_self bound
  cases opened : engine.active index with
  | error e =>
    have refuses := refuses_of_active opened
    have ended : engine.Ended index := by
      obtain ⟨t, found⟩ : ∃ t, engine.transactions[index]? = some t :=
        ⟨_, List.getElem?_eq_getElem bound⟩
      refine ⟨t, found, ?_⟩
      cases finished : t.finished with
      | true => rfl
      | false =>
        rw [active_eq_ok.2 ⟨found, finished⟩] at opened
        cases opened
    simp only [step, refuses.commit, refuses.rollback]
    exact ⟨ended, ended⟩
  | ok t =>
    refine ⟨⟨{ t with journal := [], finished := true }, ?_, rfl⟩,
      ⟨{ t with finished := true }, ?_, rfl⟩⟩
    · simp only [step, commit, opened]
      split <;> exact there _
    · simp only [step, rollback, opened]
      exact there _

/-- What others do does not change what an open transaction reads. -/
theorem select_step {engine : Engine} {index : Nat} {t : Transaction} {action : Action}
    (opened : engine.active index = .ok t) (other : action.handle ≠ .transaction index)
    (statement : Select) :
    (engine.step action).select (.transaction index) statement =
      engine.select (.transaction index) statement := by
  have same := transactions_step (active_bound opened) other
  unfold select active
  simp only [same]

/-- The two ways in which a transaction ends. -/
def endings (index : Nat) : List Action :=
  [.commit index, .rollback index]

/-- A transaction shows outside in a commit that succeeds, or not at all; and nothing of what is done
outside shows in it. -/
structure AllOrNothing (engine : Engine) (index : Nat) : Prop where
  /-- No statement on the transaction changes a shared table. -/
  hidden : ∀ statement,
    (engine.step (.run (.transaction index) statement)).shared.tables = engine.shared.tables
  /-- While the transaction is open, no action on another handle changes what it reads. -/
  isolated : ∀ t, engine.active index = .ok t → ∀ action, action.handle ≠ .transaction index →
    ∀ statement, (engine.step action).select (.transaction index) statement =
      engine.select (.transaction index) statement
  /-- A rollback leaves the shared store as it was. -/
  undone : (engine.rollback index).2.shared = engine.shared
  /-- A commit that fails leaves the shared store as it was. -/
  refused : ∀ e, (engine.commit index).1 = .error e →
    (engine.commit index).2.shared = engine.shared
  /-- After a commit or a rollback of the transaction, successful or not, and after anything that
  follows, every operation on it is a transaction error and changes nothing. -/
  closed : index < engine.transactions.length → ∀ ending ∈ endings index, ∀ later,
    ∃ e, e.kind = .transaction ∧ ((engine.step ending).run later).Refuses index e

theorem allOrNothing (engine : Engine) (index : Nat) : engine.AllOrNothing index where
  hidden statement := by
    cases statement with
    | select statement => rfl
    | write w => exact write_tables engine index w
  isolated t opened action other := select_step opened other
  undone := rollback_shared engine index
  refused e h := commit_failed h
  closed bound ending member later := by
    obtain ⟨committed, rolledBack⟩ := ended_of_end bound
    have ended : (engine.step ending).Ended index := by
      rcases List.mem_cons.1 member with rfl | member
      · exact committed
      · obtain rfl := List.mem_singleton.1 member
        exact rolledBack
    exact ⟨.transactionFinished, rfl, (ended.run later).refuses⟩

end Engine

end EntityStore
