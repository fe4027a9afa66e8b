import EntityStore.Proofs.Handle
import EntityStore.Proofs.Isolation

/-!
# Units of work in a transaction

A unit of work that is done in a transaction runs its statements there, while others go on. When it
answers an error, the transaction is ended without its writes: every change of a shared table in the
meantime was made by others, and where nobody else was at work the shared tables are as they were
(`Task.UndoneOnFailure`). Main result: `Task.transaction_allOrNothing`.
-/

namespace EntityStore

namespace Engine

/-- The actions of a run that change a shared table. -/
def changing (engine : Engine) : List Action → List Action
  | [] => []
  | action :: rest =>
    if (engine.step action).shared.tables = engine.shared.tables then
      changing (engine.step action) rest
    else action :: changing (engine.step action) rest

theorem changing_append (engine : Engine) (first rest : List Action) :
    engine.changing (first ++ rest) = engine.changing first ++ (engine.run first).changing rest := by
  induction first generalizing engine with
  | nil => rfl
  | cons action first ih =>
    rw [List.cons_append, changing, changing, ih, run_cons]
    split <;> rfl

/-- An action that changes a shared table in a run does so on the engine that it meets. -/
theorem mem_changing {engine : Engine} {actions : List Action} {action : Action}
    (h : action ∈ engine.changing actions) :
    action ∈ actions ∧ ∃ met : Engine, (met.step action).shared.tables ≠ met.shared.tables := by
  induction actions generalizing engine with
  | nil => cases h
  | cons first rest ih =>
    unfold changing at h
    split at h
    · obtain ⟨member, changes⟩ := ih h
      exact ⟨List.mem_cons_of_mem _ member, changes⟩
    · next differ =>
      rcases List.mem_cons.1 h with rfl | h
      · exact ⟨List.mem_cons_self, engine, differ⟩
      · obtain ⟨member, changes⟩ := ih h
        exact ⟨List.mem_cons_of_mem _ member, changes⟩

/-- Where no action changes a shared table, the run does not. -/
theorem tables_run {engine : Engine} {actions : List Action}
    (h : engine.changing actions = []) : (engine.run actions).shared.tables = engine.shared.tables := by
  induction actions generalizing engine with
  | nil => rfl
  | cons action rest ih =>
    unfold changing at h
    split at h
    · next same => rw [run_cons, ih h, same]
    · cases h

/-- What changes a shared table while a transaction goes on is done on another handle. -/
theorem other_of_changing {engine : Engine} {index : Nat} {actions : List Action}
    (goesOn : ∀ action ∈ actions, action ∉ endings index) :
    ∀ action ∈ engine.changing actions, action.handle ≠ .transaction index := by
  intro action changes own
  obtain ⟨member, met, differ⟩ := mem_changing changes
  have notEnding := goesOn action member
  cases action with
  | begin handle => exact differ (begin_tables met handle)
  | run handle statement =>
    cases own
    exact differ ((met.allOrNothing index).hidden statement)
  | commit i =>
    cases own
    exact notEnding List.mem_cons_self
  | rollback i =>
    cases own
    exact notEnding (List.mem_cons_of_mem _ List.mem_cons_self)

end Engine

/-- The session after a transaction was begun on the shared store. -/
def Session.begun (s : Session) : Session :=
  { s with engine := s.engine.step (.begin .shared) }

/-- The database whose statements run in the transaction that is begun next. -/
def Database.inside (db : Database) (s : Session) : Database :=
  { db with handle := .transaction s.engine.transactions.length }

/-- In a transaction the work does nothing to the engine but run statements on it. -/
def Task.Confined {α : Type} (work : Task α) : Prop :=
  ∀ (db : Database) (s : Session), db.inTransaction = true →
    ∃ statements : List Statement,
      (work db s).2.engine = s.engine.run (statements.map (.run db.handle))

namespace Task

variable {α β : Type}

/-- A transaction begins, does the work and ends as the answer says. -/
theorem run_transaction (work : Task α) {db : Database} (s : Session) (outside : db.handle = .shared) :
    transaction work db s =
      conclude (work (db.inside s) s.begun).1 (db.inside s) (work (db.inside s) s.begun).2 := by
  have began : begin db s = (.ok (db.inside s), s.begun) := by
    unfold begin Database.inTransaction
    rw [outside]
    rfl
  unfold transaction
  rw [Work.run_bind, began]
  rfl

/-- In a transaction no other one is begun. -/
theorem run_transaction_nested (work : Task α) {db : Database} (s : Session)
    (inside : db.inTransaction = true) :
    transaction work db s = (.error .nestedTransaction, s) := by
  have refused : begin db s = (.error .nestedTransaction, s) := by
    unfold begin
    rw [if_pos inside]
  unfold transaction
  rw [Work.run_bind, refused]

namespace Confined

theorem pure (a : α) : Confined (Pure.pure a : Task α) :=
  fun _ _ _ => ⟨[], rfl⟩

theorem throw (e : Error) : Confined (MonadExcept.throw e : Task α) :=
  fun _ _ _ => ⟨[], rfl⟩

theorem bind {work : Task α} {next : α → Task β} (first : Confined work)
    (rest : ∀ a, Confined (next a)) : Confined (work >>= next) := by
  intro db s inside
  obtain ⟨statements, ran⟩ := first db s inside
  rw [Work.run_bind]
  cases answered : work db s with
  | mk answer s' =>
    rw [answered] at ran
    cases answer with
    | error e => exact ⟨statements, ran⟩
    | ok a =>
      obtain ⟨more, ranMore⟩ := rest a db s' inside
      refine ⟨statements ++ more, ?_⟩
      rw [List.map_append, Engine.run_append, ← ran]
      exact ranMore

theorem select (statement : Select) : Confined (Task.select statement) :=
  fun _ _ _ => ⟨[.select statement], rfl⟩

theorem write (w : Write) : Confined (Task.write w) :=
  fun _ _ _ => ⟨[.write w], rfl⟩

theorem insert (statement : Insert) : Confined (Task.insert statement) :=
  bind (write _) fun _ => pure _

theorem update (statement : Update) : Confined (Task.update statement) :=
  bind (write _) fun _ => pure _

theorem delete (statement : Delete) : Confined (Task.delete statement) :=
  bind (write _) fun _ => pure _

/-- A nested transaction does nothing, whatever work is in it. -/
theorem transaction (work : Task α) : Confined (Task.transaction work) := by
  intro db s inside
  rw [run_transaction_nested work s inside]
  exact ⟨[], rfl⟩

end Confined

/-- The end of a transaction after an answer, or after an error. -/
def ending (index : Nat) : Except Error α → Engine.Action
  | .ok _ => .commit index
  | .error _ => .rollback index

/-- Work in a transaction is concluded by its end. -/
theorem engine_conclude (answer : Except Error α) {db : Database} {index : Nat} (s : Session)
    (inside : db.handle = .transaction index) :
    (conclude answer db s).2.engine = s.engine.step (ending index answer) := by
  unfold conclude
  rw [inside]
  cases answer <;> rfl

/-- An end after which an error is answered changes no shared table. -/
theorem ending_tables {answer : Except Error α} {db : Database} {index : Nat} {s : Session} {e : Error}
    (inside : db.handle = .transaction index) (failed : (conclude answer db s).1 = .error e) :
    (s.engine.step (ending index answer)).shared.tables = s.engine.shared.tables := by
  cases answer with
  | error _ =>
    change (s.engine.rollback index).2.shared.tables = _
    rw [Engine.rollback_shared]
  | ok a =>
    unfold conclude at failed
    rw [inside] at failed
    change (s.engine.commit index).1.map _ = _ at failed
    change (s.engine.commit index).2.shared.tables = _
    cases ended : (s.engine.commit index).1 with
    | ok _ => rw [ended] at failed; cases failed
    | error _ => rw [Engine.commit_failed ended]

/-- What is left of work that is done in a transaction and answers an error. -/
structure UndoneOnFailure (work : Task α) (db : Database) (s : Session) : Prop where
  /-- In a transaction none is begun, and nothing is done. -/
  nested : db.inTransaction = true → transaction work db s = (.error .nestedTransaction, s)
  /-- Whatever others do while the work goes on, each change of a shared table is theirs. -/
  undone : db.handle = .shared → ∀ actions e,
    (work (db.inside s) s.begun).2.engine = s.begun.engine.run actions →
    (∀ action ∈ actions, action ∉ Engine.endings s.engine.transactions.length) →
    (transaction work db s).1 = .error e →
    ∃ last ∈ Engine.endings s.engine.transactions.length,
      (transaction work db s).2.engine = s.engine.run (.begin .shared :: actions ++ [last]) ∧
      ∀ action ∈ s.engine.changing (.begin .shared :: actions ++ [last]),
        action.handle ≠ .transaction s.engine.transactions.length
  /-- Where nobody else is at work, the shared tables are as they were. -/
  alone : db.handle = .shared → Confined work → ∀ e, (transaction work db s).1 = .error e →
    (transaction work db s).2.engine.shared.tables = s.engine.shared.tables

/-- Work that answers an error in a transaction ends it, and the end changes no shared table. -/
theorem transaction_failed {work : Task α} {db : Database} {s : Session} {e : Error}
    (outside : db.handle = .shared) (failed : (transaction work db s).1 = .error e) :
    ∃ last ∈ Engine.endings s.engine.transactions.length,
      (transaction work db s).2.engine = (work (db.inside s) s.begun).2.engine.step last ∧
      ((work (db.inside s) s.begun).2.engine.step last).shared.tables =
        (work (db.inside s) s.begun).2.engine.shared.tables := by
  rw [run_transaction work s outside] at failed ⊢
  refine ⟨ending s.engine.transactions.length (work (db.inside s) s.begun).1, ?_,
    engine_conclude _ _ rfl, ending_tables rfl failed⟩
  cases (work (db.inside s) s.begun).1 with
  | ok a => exact List.mem_cons_self
  | error e => exact List.mem_cons_of_mem _ List.mem_cons_self

theorem undoneOnFailure (work : Task α) (db : Database) (s : Session) :
    UndoneOnFailure work db s where
  nested inside := run_transaction_nested work s inside
  undone outside actions e ran goesOn failed := by
    obtain ⟨last, member, ended, kept⟩ := transaction_failed outside failed
    rw [ran] at ended kept
    refine ⟨last, member, ?_, ?_⟩
    · rw [ended, List.cons_append, Engine.run_cons, Engine.run_append]
      rfl
    · -- The beginning and the end change no shared table, so what does is done in between.
      have began : s.engine.changing (.begin .shared :: actions ++ [last]) =
          s.begun.engine.changing actions := by
        rw [List.cons_append, Engine.changing, if_pos (Engine.begin_tables _ _)]
        change s.begun.engine.changing (actions ++ [last]) = _
        rw [Engine.changing_append, Engine.changing, if_pos kept, Engine.changing,
          List.append_nil]
      rw [began]
      exact Engine.other_of_changing goesOn
  alone outside confined e failed := by
    obtain ⟨statements, ran⟩ := confined (db.inside s) s.begun rfl
    obtain ⟨last, member, ended, kept⟩ := transaction_failed outside failed
    rw [ended, kept, ran]
    have own : ∀ action ∈ statements.map (Engine.Action.run (db.inside s).handle),
        action ∉ Engine.endings s.engine.transactions.length ∧
          action.handle = .transaction s.engine.transactions.length := by
      intro action member
      obtain ⟨statement, _, rfl⟩ := List.mem_map.1 member
      exact ⟨by simp [Engine.endings], rfl⟩
    have still : s.begun.engine.changing (statements.map (.run (db.inside s).handle)) = [] := by
      rw [List.eq_nil_iff_forall_not_mem]
      intro action changes
      have member := (Engine.mem_changing changes).1
      exact Engine.other_of_changing (fun action h => (own action h).1) action changes
        (own action member).2
    rw [Engine.tables_run still]
    rfl

/-- Work that goes on with another transaction and answers what that answers always fails. -/
theorem transaction_nesting (first : Task α) (next : α → Task β) (db : Database) (s : Session) :
    ∃ e, (transaction (first >>= fun a => transaction (next a)) db s).1 = .error e := by
  by_cases inside : db.inTransaction = true
  · exact ⟨_, congrArg Prod.fst (run_transaction_nested _ s inside)⟩
  · have outside : db.handle = .shared := by
      simpa [Database.inTransaction] using inside
    have failed : ∃ e, ((first >>= fun a => transaction (next a)) (db.inside s) s.begun).1 =
        .error e := by
      rw [Work.run_bind]
      cases first (db.inside s) s.begun with
      | mk answer s' =>
        cases answer with
        | error e => exact ⟨e, rfl⟩
        | ok a => exact ⟨_, congrArg Prod.fst (run_transaction_nested (next a) s' rfl)⟩
    obtain ⟨e, failed⟩ := failed
    refine ⟨e, ?_⟩
    rw [run_transaction _ s outside, failed]
    rfl

/-- **All or nothing.** Whatever is done on an engine, a transaction on it shows outside in a commit
that succeeds or not at all, others do not change what it reads, and once it has ended it refuses
everything. So a unit of work that fails in a transaction leaves nothing in the shared tables, and one
that goes on with another transaction fails. -/
theorem transaction_allOrNothing :
    (∀ (engine : Engine) (index : Nat), engine.AllOrNothing index) ∧
    (∀ (α : Type) (work : Task α) (db : Database) (s : Session), UndoneOnFailure work db s) ∧
    ∀ (α β : Type) (first : Task α) (next : α → Task β) (db : Database) (s : Session),
      ∃ e, (transaction (first >>= fun a => transaction (next a)) db s).1 = .error e :=
  ⟨Engine.allOrNothing, fun _ work db s => undoneOnFailure work db s,
    fun _ _ first next db s => transaction_nesting first next db s⟩

/-- Two open transactions; a direct insertion takes the key that the first one gave to its second
row. -/
def contended : Engine :=
  Engine.run {}
    [.begin .shared, .begin .shared,
      .run (.transaction 0) (.write (.insert { table := "logs", rows := [.empty] })),
      .run (.transaction 0) (.write (.insert
        { table := "posts", rows := [.ofFields [("id", .int 7)]] })),
      .run .shared (.write (.insert { table := "posts", rows := [.ofFields [("id", .int 7)]] }))]

/-- Work that inserts a log and goes on with another transaction. -/
def nesting : Task Nat :=
  insert { table := "logs", rows := [.empty] } >>= fun _ => transaction (delete { table := "posts" })

/-- The first transaction of the contended engine fails to commit, at the second entry of its journal,
and leaves the shared store as it was; the second one does not see the direct insertion; and nested
work leaves no log. -/
theorem transaction_allOrNothing_contended :
    (contended.commit 0).1 = .error (.commitFailed (.duplicateKey "posts" "id" 7)) ∧
    (contended.commit 0).2.shared = contended.shared ∧
    (contended.step (.run .shared (.write (.insert { table := "logs", rows := [.empty] })))).select
      (.transaction 1) { table := "logs" } = .ok [] ∧
    ((contended.step (.commit 0)).run [.rollback 1]).commit 0 =
      (.error .transactionFinished, (contended.step (.commit 0)).run [.rollback 1]) ∧
    ∃ e, (transaction nesting { registry := {} } { engine := contended, clock := ⟨0⟩ }).1 = .error e ∧
      (transaction nesting { registry := {} } { engine := contended, clock := ⟨0⟩ }).2.engine.shared.tables =
        contended.shared.tables := by
  obtain ⟨engines, works, nests⟩ := transaction_allOrNothing
  have first := engines contended 0
  have second := engines contended 1
  have conflict : (contended.commit 0).1 =
      .error (.commitFailed (.duplicateKey "posts" "id" 7)) := by rfl
  have secondOpen : (contended.active 1).isOk = true := by decide +kernel
  have none : contended.select (.transaction 1) { table := "logs" } = .ok [] := by rfl
  have two : 0 < contended.transactions.length := by decide +kernel
  obtain ⟨finished, _, refuses⟩ := first.closed two _ List.mem_cons_self [.rollback 1]
  have finishedIs : (((contended.step (.commit 0)).run [.rollback 1]).commit 0).1 =
      .error .transactionFinished := by rfl
  rw [refuses.commit] at finishedIs
  cases finishedIs
  have confined : Confined nesting := Confined.bind (Confined.insert _) fun _ => Confined.transaction _
  obtain ⟨e, failed⟩ := nests _ _ (insert { table := "logs", rows := [.empty] })
    (fun _ => delete { table := "posts" }) { registry := {} } { engine := contended, clock := ⟨0⟩ }
  refine ⟨conflict, first.refused _ conflict, ?_, refuses.commit, e, failed,
    (works _ nesting _ _).alone rfl confined e failed⟩
  cases opened : contended.active 1 with
  | error e => rw [opened] at secondOpen; cases secondOpen
  | ok t =>
    rw [second.isolated t opened _ (by decide)]
    exact none

end Task

end EntityStore
