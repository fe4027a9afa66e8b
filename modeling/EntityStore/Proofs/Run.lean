import EntityStore.Proofs.Handle
import EntityStore.Proofs.Write

/-!
# Runs of an engine

A run is a list of actions of any handles in any order. What one action can do to an open transaction
is said once (`Engine.active_step`): it leaves the transaction alone, ends it, or is a write of the
transaction that succeeds and is noted in its journal. So what every noted write keeps holds for as
long as the transaction stays open (`Engine.invariant_run`).
-/

namespace EntityStore

/-- A journal is replayed by its first write and then by the others. -/
theorem Store.replay_cons {store final : Store} {w : Write} {rest : List Write} :
    store.replay (w :: rest) = .ok final ↔
      ∃ answer changed, store.write w = .ok (answer, changed) ∧ changed.replay rest = .ok final := by
  rw [replay]
  cases store.write w with
  | error e =>
    constructor
    · intro replayed
      cases replayed
    · rintro ⟨answer, changed, ran, -⟩
      cases ran
  | ok result =>
    constructor
    · exact fun replayed => ⟨result.1, result.2, rfl, replayed⟩
    · rintro ⟨answer, changed, ran, replayed⟩
      cases ran
      exact replayed

namespace Engine

/-- Something that is asked of an engine. -/
inductive Action where
  | begin (handle : Handle)
  | run (handle : Handle) (statement : Statement)
  | commit (index : Nat)
  | rollback (index : Nat)

/-- The handle on which an action is asked for. -/
def Action.handle : Action → Handle
  | .begin handle => handle
  | .run handle _ => handle
  | .commit index => .transaction index
  | .rollback index => .transaction index

/-- The engine after an action, also after one that fails. -/
def step (engine : Engine) : Action → Engine
  | .begin handle =>
    match engine.begin handle with
    | .ok (_, opened) => opened
    | .error _ => engine
  | .run _ (.select _) => engine
  | .run handle (.write w) => (engine.write handle w).2
  | .commit index => (engine.commit index).2
  | .rollback index => (engine.rollback index).2

/-- The engine after a list of actions. -/
def run (engine : Engine) (actions : List Action) : Engine :=
  actions.foldl step engine

@[simp] theorem run_nil (engine : Engine) : engine.run [] = engine := rfl

@[simp] theorem run_cons (engine : Engine) (action : Action) (rest : List Action) :
    engine.run (action :: rest) = (engine.step action).run rest := rfl

theorem run_append (engine : Engine) (first rest : List Action) :
    engine.run (first ++ rest) = (engine.run first).run rest :=
  List.foldl_append

/-- A statement that is run directly changes the shared store as it changes any store. -/
theorem shared_step (engine : Engine) (statement : Statement) :
    (engine.step (.run .shared statement)).shared = engine.shared.after statement := by
  cases statement with
  | select statement => rfl
  | write w =>
    simp only [step, write, Store.after]
    cases engine.shared.write w <;> rfl

/-- The write of a transaction that an action is, if it succeeds. -/
def accepted (index : Nat) (engine : Engine) : Action → List Write
  | .run (.transaction i) (.write w) =>
    if i = index ∧ (engine.write (.transaction i) w).1.isOk then [w] else []
  | _ => []

/-- The writes of a transaction that succeed in a run. -/
def writes (index : Nat) (engine : Engine) : List Action → List Write
  | [] => []
  | action :: rest => accepted index engine action ++ writes index (engine.step action) rest

/-- Preparing an insertion fixes the keys of its rows and moves the sequence on. -/
theorem prepare_insert {shared after : Store} {statement : Insert} {prepared : Write}
    (h : prepare shared (.insert statement) = .ok (prepared, after)) :
    ∃ keyed last,
      Store.assignKeys statement.returning (shared.sequence statement.table) statement.rows =
        .ok (keyed, last) ∧
      prepared = .insert { statement with rows := keyed.map (·.2) } ∧
      after = shared.setSequence statement.table last := by
  cases assigned : Store.assignKeys statement.returning (shared.sequence statement.table)
      statement.rows with
  | error e =>
    simp only [prepare, reserveKeys, assigned, Except.map, reduceCtorEq] at h
  | ok result =>
    simp only [prepare, reserveKeys, assigned, Except.map, Except.ok.injEq, Prod.mk.injEq] at h
    exact ⟨result.1, result.2, rfl, h.1.symm, h.2.symm⟩

/-- The keys drawn for a write do not change the tables that it names. -/
theorem prepare_names {shared after : Store} {w prepared : Write}
    (h : prepare shared w = .ok (prepared, after)) :
    prepared.target = w.target ∧ prepared.tables = w.tables := by
  cases w with
  | insert statement =>
    obtain ⟨_, _, _, rfl, _⟩ := prepare_insert h
    exact ⟨rfl, rfl⟩
  | update statement =>
    cases h
    exact ⟨rfl, rfl⟩
  | delete statement =>
    cases h
    exact ⟨rfl, rfl⟩

/-- What becomes of a write of a transaction: its answer and the engine that it leaves. -/
inductive Wrote (engine : Engine) (index : Nat) (w : Write) :
    Except Error Store.WriteAnswer × Engine → Prop where
  /-- It fails, and no keys are drawn for it. -/
  | refused (e : Error) : Wrote engine index w (.error e, engine)
  /-- Keys are drawn for it, and it fails on the copy of the transaction. -/
  | failed {prepared : Write} {shared : Store} (e : Error)
    (drew : prepare engine.shared w = .ok (prepared, shared)) :
    Wrote engine index w (.error e, { engine with shared })
  /-- It has its keys fixed, changes the copy of the transaction and is noted in the journal. -/
  | noted {t : Transaction} {prepared : Write} {shared working : Store} {answer : Store.WriteAnswer}
    (opened : engine.active index = .ok t) (drew : prepare engine.shared w = .ok (prepared, shared))
    (ran : t.working.write prepared = .ok (answer, working)) :
    Wrote engine index w (.ok answer, ({ engine with shared } : Engine).setTransaction index
      { t with working, journal := t.journal ++ [prepared] })

theorem wrote (engine : Engine) (index : Nat) (w : Write) :
    Wrote engine index w (engine.write (.transaction index) w) := by
  unfold write
  simp only
  split
  · exact .refused _
  · next t opened =>
    split
    · exact .refused _
    · next prepared shared drew =>
      split
      · next answer working ran => exact .noted opened drew ran
      · exact .failed _ drew

/-- What becomes of a commit: its answer and the engine that it leaves. -/
inductive Committed (engine : Engine) (index : Nat) : Except Error Unit × Engine → Prop where
  /-- The transaction is not open. -/
  | refused {e : Error} (closed : engine.active index = .error e) :
    Committed engine index (.error e, engine)
  /-- Its journal does not run on the shared store. -/
  | failed {t : Transaction} (e : Error) (opened : engine.active index = .ok t) :
    Committed engine index
      (.error (.commitFailed e), engine.setTransaction index { t with journal := [], finished := true })
  /-- Its journal has run on the shared store. -/
  | done {t : Transaction} {shared : Store} (opened : engine.active index = .ok t)
    (replayed : engine.shared.replay t.journal = .ok shared) :
    Committed engine index
      (.ok (), { engine.setTransaction index { t with journal := [], finished := true } with shared })

theorem committed (engine : Engine) (index : Nat) : Committed engine index (engine.commit index) := by
  unfold commit
  split
  · next e closed => exact .refused closed
  · next t opened =>
    simp only
    split
    · next shared replayed => exact .done opened replayed
    · exact .failed _ opened

/-- A write leaves the other transactions alone. -/
theorem write_transactions (engine : Engine) {handle : Handle} {index : Nat}
    (other : handle ≠ .transaction index) (w : Write) :
    (engine.write handle w).2.transactions[index]? = engine.transactions[index]? := by
  cases handle with
  | shared =>
    unfold write
    simp only
    split <;> rfl
  | transaction i =>
    have different : i ≠ index := fun same => other (same ▸ rfl)
    have wrote := engine.wrote i w
    generalize engine.write (.transaction i) w = outcome at wrote ⊢
    cases wrote with
    | refused | failed => rfl
    | noted => exact List.getElem?_set_ne different

/-- Ending a transaction leaves the others alone. -/
theorem end_transactions (engine : Engine) {i index : Nat} (different : i ≠ index) :
    (engine.commit i).2.transactions[index]? = engine.transactions[index]? ∧
    (engine.rollback i).2.transactions[index]? = engine.transactions[index]? := by
  constructor
  · have committed := engine.committed i
    generalize engine.commit i = outcome at committed ⊢
    cases committed with
    | refused => rfl
    | failed | done => exact List.getElem?_set_ne different
  · unfold rollback
    cases engine.active i with
    | error e => rfl
    | ok t => exact List.getElem?_set_ne different

/-- An action on another handle leaves a transaction alone. -/
theorem transactions_step {engine : Engine} {action : Action} {index : Nat}
    (bound : index < engine.transactions.length) (other : action.handle ≠ .transaction index) :
    (engine.step action).transactions[index]? = engine.transactions[index]? := by
  cases action with
  | begin handle =>
    cases handle with
    | shared => exact List.getElem?_append_left bound
    | transaction i => rfl
  | run handle statement =>
    cases statement with
    | select statement => rfl
    | write w => exact write_transactions engine other w
  | commit i =>
    have different : i ≠ index := fun same => other (same ▸ rfl)
    exact (end_transactions engine different).1
  | rollback i =>
    have different : i ≠ index := fun same => other (same ▸ rfl)
    exact (end_transactions engine different).2

/-- What a write of a transaction does when it succeeds. -/
structure Journaled (engine : Engine) (index : Nat) (w : Write) (before after : Transaction) :
    Prop where
  succeeds : (engine.write (.transaction index) w).1.isOk = true
  noted : ∃ prepared shared answer,
    prepare engine.shared w = .ok (prepared, shared) ∧
    before.working.write prepared = .ok (answer, after.working) ∧
    after.journal = before.journal ++ [prepared]

/-- A write of a transaction that succeeds has had its keys drawn, has changed the copy of the
transaction, and is noted in its journal. -/
theorem write_accepted {engine : Engine} {index : Nat} {w : Write} {answer : Store.WriteAnswer}
    (h : (engine.write (.transaction index) w).1 = .ok answer) :
    ∃ t prepared shared working, engine.active index = .ok t ∧
      prepare engine.shared w = .ok (prepared, shared) ∧
      t.working.write prepared = .ok (answer, working) ∧
      (engine.write (.transaction index) w).2.shared = shared ∧
      (engine.write (.transaction index) w).2.active index =
        .ok { t with working, journal := t.journal ++ [prepared] } := by
  have wrote := engine.wrote index w
  generalize engine.write (.transaction index) w = outcome at wrote h ⊢
  cases wrote with
  | refused | failed => cases h
  | @noted t prepared shared working answer opened drew ran =>
    cases h
    have openedAfter : ({ engine with shared } : Engine).active index = .ok t := opened
    have going := (active_eq_ok.1 opened).2
    exact ⟨t, prepared, shared, working, opened, drew, ran, rfl,
      active_setTransaction openedAfter going⟩

/-- A write of an open transaction fails and leaves the transaction alone, or is journaled. -/
theorem write_active {engine : Engine} {index : Nat} {before after : Transaction} {w : Write}
    (opened : engine.active index = .ok before)
    (still : (engine.write (.transaction index) w).2.active index = .ok after) :
    (engine.write (.transaction index) w).1.isOk = false ∧ after = before ∨
      Journaled engine index w before after := by
  cases answered : (engine.write (.transaction index) w).1 with
  | error e =>
    left
    have unchanged : (engine.write (.transaction index) w).2.active index = engine.active index := by
      have wrote := engine.wrote index w
      generalize engine.write (.transaction index) w = outcome at wrote answered ⊢
      cases wrote with
      | refused | failed => rfl
      | noted => cases answered
    have same : Except.ok before = Except.ok after := opened.symm.trans (unchanged.symm.trans still)
    exact ⟨rfl, (Except.ok.inj same).symm⟩
  | ok answer =>
    right
    obtain ⟨t, prepared, shared, working, opened', drew, ran, _, reopened⟩ := write_accepted answered
    rw [opened] at opened'
    rw [reopened] at still
    cases opened'
    cases still
    exact ⟨by rw [answered]; rfl, prepared, shared, answer, drew, ran, rfl⟩

/-- A transaction that has ended is not open. -/
theorem active_ended {engine : Engine} {index : Nat} {t t' : Transaction}
    (opened : engine.active index = .ok t) (ended : t'.finished = true) :
    (engine.setTransaction index t').active index = .error .transactionFinished := by
  obtain ⟨found, -⟩ := active_eq_ok.1 opened
  have bound : index < engine.transactions.length := (List.getElem?_eq_some_iff.1 found).1
  have there : (engine.setTransaction index t').transactions[index]? = some t' :=
    List.getElem?_set_self bound
  unfold active
  rw [there]
  simp [ended]

theorem not_active_commit (engine : Engine) (index : Nat) (after : Transaction) :
    (engine.commit index).2.active index ≠ .ok after := by
  intro still
  have committed := engine.committed index
  generalize engine.commit index = outcome at committed still
  cases committed with
  | refused closed =>
    rw [closed] at still
    cases still
  | @failed t e opened =>
    have closed : (engine.setTransaction index { t with journal := [], finished := true }).active
        index = .error .transactionFinished := active_ended opened rfl
    rw [closed] at still
    cases still
  | @done t shared opened =>
    have closed : (engine.setTransaction index { t with journal := [], finished := true }).active
        index = .error .transactionFinished := active_ended opened rfl
    exact nomatch closed.symm.trans still

theorem not_active_rollback (engine : Engine) (index : Nat) (after : Transaction) :
    (engine.rollback index).2.active index ≠ .ok after := by
  cases opened : engine.active index with
  | error e => simp [rollback, opened]
  | ok t =>
    have closed : (engine.setTransaction index { t with finished := true }).active index =
        .error .transactionFinished := active_ended opened rfl
    simp only [rollback, opened, closed]
    exact fun h => nomatch h

/-- A transaction that is open after an action was open before, and the action left it alone or was a
write of it that succeeded. -/
theorem active_step {engine : Engine} {index : Nat} {action : Action} {after : Transaction}
    (bound : index < engine.transactions.length)
    (still : (engine.step action).active index = .ok after) :
    ∃ before, engine.active index = .ok before ∧
      (accepted index engine action = [] ∧ after = before ∨
        ∃ w, accepted index engine action = [w] ∧ Journaled engine index w before after) := by
  have unchanged (same : (engine.step action).transactions[index]? = engine.transactions[index]?) :
      engine.active index = .ok after := by
    unfold active at still ⊢
    rw [same] at still
    exact still
  by_cases own : action.handle = .transaction index
  · cases action with
    | begin handle =>
      cases own
      exact ⟨after, still, Or.inl ⟨rfl, rfl⟩⟩
    | run handle statement =>
      cases own
      cases statement with
      | select statement => exact ⟨after, still, Or.inl ⟨rfl, rfl⟩⟩
      | write w =>
        cases opened : engine.active index with
        | error e =>
          have closed : engine.storeOf (.transaction index) = .error e := by
            rw [storeOf_transaction, opened]
            rfl
          have failed := write_closed closed w
          have same := unchanged <| by
            change (engine.write (.transaction index) w).2.transactions[index]? = _
            rw [failed]
          rw [opened] at same
          cases same
        | ok before =>
          refine ⟨before, rfl, ?_⟩
          rcases write_active opened still with ⟨failed, same⟩ | journaled
          · exact Or.inl ⟨by simp [accepted, failed], same⟩
          · exact Or.inr ⟨w, by simp [accepted, journaled.succeeds], journaled⟩
    | commit i =>
      cases own
      exact absurd still (not_active_commit engine index after)
    | rollback i =>
      cases own
      exact absurd still (not_active_rollback engine index after)
  · have nothing : accepted index engine action = [] := by
      unfold accepted
      split
      · next i w =>
        rw [if_neg]
        rintro ⟨rfl, _⟩
        exact own rfl
      · rfl
    exact ⟨after, unchanged (transactions_step bound own), Or.inl ⟨nothing, rfl⟩⟩

/-- No action takes a transaction off the list. -/
theorem length_step (engine : Engine) (action : Action) :
    engine.transactions.length ≤ (engine.step action).transactions.length := by
  cases action with
  | begin handle =>
    cases handle with
    | shared => simp [step, begin]
    | transaction i => exact Nat.le_refl _
  | run handle statement =>
    cases statement with
    | select statement => exact Nat.le_refl _
    | write w =>
      cases handle with
      | shared =>
        simp only [step, write]
        split <;> exact Nat.le_refl _
      | transaction i =>
        have wrote := engine.wrote i w
        simp only [step]
        generalize engine.write (.transaction i) w = outcome at wrote ⊢
        cases wrote with
        | refused | failed => exact Nat.le_refl _
        | noted => simp [setTransaction]
  | commit i =>
    have committed := engine.committed i
    simp only [step]
    generalize engine.commit i = outcome at committed ⊢
    cases committed with
    | refused => exact Nat.le_refl _
    | failed | done => simp [setTransaction]
  | rollback i =>
    simp only [step, rollback]
    split
    · exact Nat.le_refl _
    · simp [setTransaction]

/-- Actions on other handles leave a transaction alone. -/
theorem transactions_run {engine : Engine} {actions : List Action} {index : Nat}
    (bound : index < engine.transactions.length)
    (others : ∀ action ∈ actions, action.handle ≠ .transaction index) :
    (engine.run actions).transactions[index]? = engine.transactions[index]? := by
  induction actions generalizing engine with
  | nil => rfl
  | cons action rest ih =>
    have stays := Nat.lt_of_lt_of_le bound (length_step engine action)
    have rest := ih stays fun action mem => others action (List.mem_cons_of_mem _ mem)
    exact rest.trans (transactions_step bound (others action List.mem_cons_self))

theorem active_bound {engine : Engine} {index : Nat} {t : Transaction}
    (opened : engine.active index = .ok t) : index < engine.transactions.length :=
  (List.getElem?_eq_some_iff.1 (active_eq_ok.1 opened).1).1

/-- A transaction that is open after a run was open before it. -/
theorem active_of_run {engine : Engine} {index : Nat} {actions : List Action} {after : Transaction}
    (bound : index < engine.transactions.length)
    (still : (engine.run actions).active index = .ok after) :
    ∃ before, engine.active index = .ok before := by
  induction actions generalizing engine with
  | nil => exact ⟨after, still⟩
  | cons action rest ih =>
    have kept := Nat.lt_of_lt_of_le bound (length_step engine action)
    obtain ⟨middle, going⟩ := ih kept still
    obtain ⟨before, opened, _⟩ := active_step bound going
    exact ⟨before, opened⟩

/-- What is said of an open transaction and of its writes so far, and kept by every write that is
noted in its journal, holds for as long as the transaction stays open. -/
theorem invariant_run {index : Nat} {I : List Write → Transaction → Prop}
    (keeps : ∀ {engine : Engine} {w : Write} {done : List Write} {before after : Transaction},
      Journaled engine index w before after → I done before → I (done ++ [w]) after)
    {engine : Engine} {actions : List Action} {before after : Transaction} (done : List Write)
    (opened : engine.active index = .ok before) (holds : I done before)
    (still : (engine.run actions).active index = .ok after) :
    I (done ++ writes index engine actions) after := by
  induction actions generalizing engine before done with
  | nil =>
    have same : Except.ok before = Except.ok after := opened.symm.trans still
    cases same
    rw [writes, List.append_nil]
    exact holds
  | cons action rest ih =>
    have bound : index < engine.transactions.length := active_bound opened
    have kept := Nat.lt_of_lt_of_le bound (length_step engine action)
    obtain ⟨middle, going⟩ := active_of_run kept still
    obtain ⟨before', opened', stepped⟩ := active_step bound going
    have same : Except.ok before = Except.ok before' := opened.symm.trans opened'
    cases same
    rw [writes, ← List.append_assoc]
    rcases stepped with ⟨nothing, rfl⟩ | ⟨w, accepted, journaled⟩
    · rw [nothing, List.append_nil]
      exact ih done going holds still
    · rw [accepted]
      exact ih (done ++ [w]) going (keeps journaled holds) still

/-- While a transaction stays open, its journal only grows. -/
theorem journal_run {engine : Engine} {index : Nat} {actions : List Action}
    {before after : Transaction} (opened : engine.active index = .ok before)
    (still : (engine.run actions).active index = .ok after) :
    ∃ more, after.journal = before.journal ++ more := by
  refine invariant_run (I := fun _ t => ∃ more, t.journal = before.journal ++ more)
    ?_ [] opened ⟨[], (List.append_nil _).symm⟩ still
  rintro _ _ _ _ _ journaled ⟨more, grown⟩
  obtain ⟨prepared, _, _, _, _, noted⟩ := journaled.noted
  exact ⟨more ++ [prepared], by rw [noted, grown, List.append_assoc]⟩

end Engine

end EntityStore
