import EntityStore.Proofs.Drawing
import EntityStore.Proofs.Isolation
import Mathlib.Data.List.Perm.Subperm

/-!
# Keys in circulation

Keys are drawn from the sequences of the shared store by whoever inserts, and rows come into the
shared tables when they are inserted there or when their transaction is committed. The keys in
circulation are those of the shared tables and those that open transactions will bring: they are
distinct, and the sequence has reached them all (`Engine.Sound`). What each action does to them is
said once (`Engine.Moves`), so that soundness is kept by whole runs (`Engine.Sound.run`) and no commit
of a sound engine meets a key that is taken (`Engine.Sound.commit`).
-/

namespace EntityStore

/-- The keys that an open transaction will bring into the column of a table. -/
def Transaction.pending (columns : String → String) (table : String) (t : Transaction) : List Int :=
  if t.finished then [] else t.journal.flatMap (Write.carried table (columns table))

/-- What lists on the elements of a list make up, seen from the element at one place. -/
theorem flatMap_at {α β : Type} {l : List α} {i : Nat} {a : α} (found : l[i]? = some a)
    (f : α → List β) :
    ∃ others, (l.flatMap f).Perm (f a ++ others) ∧
      ∀ b, ((l.set i b).flatMap f).Perm (f b ++ others) := by
  induction l generalizing i with
  | nil => cases found
  | cons first rest ih =>
    cases i with
    | zero =>
      cases found
      exact ⟨rest.flatMap f, .refl _, fun b => .refl _⟩
    | succ i =>
      obtain ⟨others, whole, changed⟩ := ih found
      refine ⟨f first ++ others, ?_, fun b => ?_⟩
      · exact (whole.append_left (f first)).trans (List.perm_append_comm_assoc _ _ _)
      · exact ((changed b).append_left (f first)).trans (List.perm_append_comm_assoc _ _ _)

theorem nodup_of_subperm {α : Type} {l l' : List α} (sub : l.Subperm l') (distinct : l'.Nodup) :
    l.Nodup := by
  obtain ⟨middle, perm, sublist⟩ := sub
  exact perm.nodup_iff.1 (distinct.sublist sublist)

namespace Engine

variable {columns : String → String} {engine after : Engine}

/-- The keys in the column of a table: those of its shared rows, and those that open transactions
will bring. -/
def circulating (columns : String → String) (table : String) (engine : Engine) : List Int :=
  engine.shared.keys table (columns table) ++
    engine.transactions.flatMap (Transaction.pending columns table)

/-- No key circulates twice, the sequences have reached all of them, and journals have their keys
fixed. -/
structure Sound (columns : String → String) (engine : Engine) : Prop where
  settled : ∀ t ∈ engine.transactions, ∀ w ∈ t.journal, w.Settled columns
  distinct : ∀ table, (engine.circulating columns table).Nodup
  reached : ∀ table, ∀ key ∈ engine.circulating columns table, key ≤ engine.shared.sequence table

/-- What one action can do to the keys in circulation: keys are drawn, and keys are given up. -/
structure Moves (columns : String → String) (engine after : Engine) : Prop where
  settled : ∀ t ∈ after.transactions, ∀ w ∈ t.journal, w.Settled columns
  circulates : ∀ table, ∃ drawn,
    Ascends (engine.shared.sequence table) (after.shared.sequence table) drawn ∧
    (after.circulating columns table).Subperm (engine.circulating columns table ++ drawn)

theorem Sound.empty : Sound columns {} where
  settled _ h := nomatch h
  distinct _ := List.nodup_nil
  reached _ _ h := nomatch h

theorem Sound.moves (sound : engine.Sound columns) (moves : Moves columns engine after) :
    after.Sound columns where
  settled := moves.settled
  distinct table := by
    obtain ⟨drawn, ascends, sub⟩ := moves.circulates table
    -- The sequence has reached the old keys and the drawn ones are above it, so none is both.
    refine nodup_of_subperm sub (List.nodup_append'.2 ⟨sound.distinct table, ascends.nodup, ?_⟩)
    intro key old new
    have below := sound.reached table key old
    have above := (ascends.within key new).1
    omega
  reached table key member := by
    obtain ⟨drawn, ascends, sub⟩ := moves.circulates table
    rcases List.mem_append.1 (sub.subset member) with old | new
    · exact Int.le_trans (sound.reached table key old) ascends.grows
    · exact (ascends.within key new).2

/-- An action that leaves the tables and the transactions alone, and may move the sequences on. -/
theorem Moves.of_same (sound : engine.Sound columns) (tables : after.shared.tables = engine.shared.tables)
    (transactions : after.transactions = engine.transactions)
    (grows : ∀ table, engine.shared.sequence table ≤ after.shared.sequence table) :
    Moves columns engine after where
  settled := transactions ▸ sound.settled
  circulates table := by
    refine ⟨[], .nil (grows table), ?_⟩
    have same : after.circulating columns table = engine.circulating columns table := by
      unfold circulating Store.keys Store.rows
      rw [tables, transactions]
    rw [same, List.append_nil]

/-- The keys that are drawn for a write ascend from the shared sequence, and the write has them
fixed. -/
theorem prepare_draws {shared drawn : Store} {w prepared : Write} (draws : w.DrawsKeys columns)
    (h : prepare shared w = .ok (prepared, drawn)) :
    prepared.Settled columns ∧ ∀ table, Ascends (shared.sequence table) (drawn.sequence table)
      (prepared.carried table (columns table)) := by
  cases w with
  | insert statement =>
    obtain ⟨column, keyless⟩ := draws
    have carries := prepare_carries h
    obtain ⟨keyed, last, assigned, rfl, rfl⟩ := prepare_insert h
    refine ⟨⟨carries, fun table => ?_⟩, fun table => ?_⟩
    · rintro rfl
      exact column
    · by_cases own : statement.table = table
      · subst own
        rw [Write.carried, if_pos rfl, ← column, Store.keys_assigned assigned,
          Store.sequence_setSequence_self]
        exact Store.ascends_assigned keyless assigned
      · rw [Write.carried, if_neg own, Store.sequence_setSequence_of_ne _ _ (Ne.symm own)]
        exact .nil (Int.le_refl _)
  | update statement =>
    cases h
    exact ⟨⟨trivial, draws.keeps⟩, fun table => .nil (Int.le_refl _)⟩
  | delete statement =>
    cases h
    exact ⟨⟨trivial, draws.keeps⟩, fun table => .nil (Int.le_refl _)⟩

/-- What a write that draws its keys leaves in a table: keys that were there, and drawn ones. -/
theorem write_draws {store changed : Store} {w : Write} {answer : Store.WriteAnswer}
    (draws : w.DrawsKeys columns) (h : store.write w = .ok (answer, changed)) (table : String) :
    ∃ drawn, Ascends (store.sequence table) (changed.sequence table) drawn ∧
      (changed.keys table (columns table)).Sublist (store.keys table (columns table) ++ drawn) := by
  have change (settled : w.Settled columns) (brings : w.carried table (columns table) = []) :
      ∃ drawn, Ascends (store.sequence table) (changed.sequence table) drawn ∧
        (changed.keys table (columns table)).Sublist
          (store.keys table (columns table) ++ drawn) := by
    obtain ⟨kept, still⟩ := Store.keys_settled settled h table
    rw [brings] at kept still
    refine ⟨[], ?_, kept⟩
    rw [still fun _ hkey => nomatch hkey]
    exact .nil (Int.le_refl _)
  cases w with
  | insert statement =>
    by_cases own : table = statement.table
    · subst own
      obtain ⟨column, keyless⟩ := draws
      obtain ⟨keyed, last, _, assigned, _, rfl⟩ := Store.write_insert h
      refine ⟨keyed.map (·.1), ?_, ?_⟩
      · rw [Store.sequence_appended_self]
        exact Store.ascends_assigned keyless assigned
      · rw [← column, Store.keys_appended assigned]
    · obtain ⟨sameRows, sameSequence⟩ := Store.write_frame h own
      refine ⟨[], ?_, ?_⟩
      · rw [sameSequence]
        exact .nil (Int.le_refl _)
      · unfold Store.keys
        rw [sameRows, List.append_nil]
  | update statement => exact change ⟨trivial, draws.keeps⟩ rfl
  | delete statement => exact change ⟨trivial, draws.keeps⟩ rfl

/-- The keys in circulation, seen from one open transaction: those of the shared rows, its own and
those of the others. -/
theorem circulating_at (columns : String → String) {index : Nat} {t : Transaction}
    (opened : engine.active index = .ok t) (table : String) :
    ∃ others, (engine.circulating columns table).Perm (engine.shared.keys table (columns table) ++
        (t.journal.flatMap (Write.carried table (columns table)) ++ others)) ∧
      ∀ (shared : Store) (t' : Transaction),
        (({ shared, transactions := engine.transactions.set index t' } : Engine).circulating
          columns table).Perm
            (shared.keys table (columns table) ++ (t'.pending columns table ++ others)) := by
  obtain ⟨found, going⟩ := active_eq_ok.1 opened
  obtain ⟨others, whole, changed⟩ := flatMap_at found (Transaction.pending columns table)
  have own : t.pending columns table = t.journal.flatMap (Write.carried table (columns table)) := by
    rw [Transaction.pending, going, if_neg Bool.false_ne_true]
  rw [own] at whole
  exact ⟨others, whole.append_left _, fun shared t' => (changed t').append_left _⟩

/-- The journals stay settled when one transaction is replaced by one with a settled journal. -/
theorem Sound.settled_set (sound : engine.Sound columns) {index : Nat} {t' : Transaction}
    (settled : ∀ w ∈ t'.journal, w.Settled columns) :
    ∀ t ∈ engine.transactions.set index t', ∀ w ∈ t.journal, w.Settled columns := by
  intro t member
  rcases List.mem_or_eq_of_mem_set member with member | rfl
  · exact sound.settled t member
  · exact settled

theorem Sound.settled_active (sound : engine.Sound columns) {index : Nat} {t : Transaction}
    (opened : engine.active index = .ok t) : ∀ w ∈ t.journal, w.Settled columns :=
  sound.settled t (List.mem_of_getElem? (active_eq_ok.1 opened).1)

theorem moves_begin (sound : engine.Sound columns) (handle : Handle) :
    Moves columns engine (engine.step (.begin handle)) := by
  cases handle with
  | shared =>
    refine ⟨?_, fun table => ⟨[], .nil (Int.le_refl _), ?_⟩⟩
    · intro t member
      rcases List.mem_append.1 member with member | member
      · exact sound.settled t member
      · rw [List.mem_singleton.1 member]
        exact fun _ h => nomatch h
    · have same : (engine.step (.begin .shared)).circulating columns table =
          engine.circulating columns table := by
        have none : ({ working := engine.shared } : Transaction).pending columns table = [] := rfl
        let opened : Transaction := { working := engine.shared }
        change engine.shared.keys table (columns table) ++
          (engine.transactions ++ [opened]).flatMap (Transaction.pending columns table) = _
        rw [List.flatMap_append, List.flatMap_singleton, none, List.append_nil]
        rfl
      rw [same, List.append_nil]
  | transaction index => exact .of_same sound rfl rfl fun _ => Int.le_refl _

theorem moves_direct (sound : engine.Sound columns) {w : Write} (draws : w.DrawsKeys columns) :
    Moves columns engine (engine.step (.run .shared (.write w))) := by
  cases ran : engine.shared.write w with
  | error e =>
    have same : engine.step (.run .shared (.write w)) = engine := by
      simp only [step, write, ran]
    rw [same]
    exact .of_same sound rfl rfl fun _ => Int.le_refl _
  | ok result =>
    obtain ⟨answer, changed⟩ := result
    have stepped : engine.step (.run .shared (.write w)) = { engine with shared := changed } := by
      simp only [step, write, ran]
    rw [stepped]
    refine ⟨sound.settled, fun table => ?_⟩
    obtain ⟨drawn, ascends, kept⟩ := write_draws draws ran table
    refine ⟨drawn, ascends, ?_⟩
    let pending := engine.transactions.flatMap (Transaction.pending columns table)
    have regrouped : (engine.shared.keys table (columns table) ++ drawn ++ pending).Perm
        (engine.circulating columns table ++ drawn) := by
      unfold circulating
      rw [List.append_assoc, List.append_assoc]
      exact List.perm_append_comm.append_left _
    exact (kept.append_right pending).subperm.trans regrouped.subperm

theorem moves_write (sound : engine.Sound columns) (index : Nat) {w : Write}
    (draws : w.DrawsKeys columns) :
    Moves columns engine (engine.step (.run (.transaction index) (.write w))) := by
  have wrote := engine.wrote index w
  change Moves columns engine (engine.write (.transaction index) w).2
  generalize engine.write (.transaction index) w = outcome at wrote ⊢
  cases wrote with
  | refused => exact .of_same sound rfl rfl fun _ => Int.le_refl _
  | failed _ drew =>
    exact .of_same sound (prepare_tables drew) rfl fun table =>
      ((prepare_draws draws drew).2 table).grows
  | @noted t prepared shared working answer opened drew ran =>
    obtain ⟨settled, ascends⟩ := prepare_draws draws drew
    have going := (active_eq_ok.1 opened).2
    refine ⟨sound.settled_set ?_, fun table => ⟨_, ascends table, ?_⟩⟩
    · intro entry member
      rcases List.mem_append.1 member with member | member
      · exact sound.settled_active opened entry member
      · rw [List.mem_singleton.1 member]
        exact settled
    · obtain ⟨others, before, changed⟩ := circulating_at columns opened table
      -- The drawn keys join those that the transaction will bring; the shared rows and the other
      -- transactions stay.
      let noted : Transaction := { t with working, journal := t.journal ++ [prepared] }
      have own : noted.pending columns table =
          t.journal.flatMap (Write.carried table (columns table)) ++
            prepared.carried table (columns table) := by
        rw [Transaction.pending, if_neg (by rw [going]; exact Bool.false_ne_true),
          List.flatMap_append, List.flatMap_singleton]
      have sameKeys : shared.keys table (columns table) =
          engine.shared.keys table (columns table) := by
        unfold Store.keys Store.rows
        rw [prepare_tables drew]
      have noting := changed shared noted
      rw [own, sameKeys, List.append_assoc] at noting
      have last : (engine.shared.keys table (columns table) ++
          (t.journal.flatMap (Write.carried table (columns table)) ++
            (prepared.carried table (columns table) ++ others))).Perm
          (engine.circulating columns table ++ prepared.carried table (columns table)) := by
        refine List.Perm.trans ?_ (before.symm.append_right _)
        rw [List.append_assoc, List.append_assoc]
        exact (List.perm_append_comm.append_left _).append_left _
      exact (noting.trans last).subperm

/-- The keys that an open transaction will bring are free in the shared tables. -/
theorem Sound.free (sound : engine.Sound columns) {index : Nat} {t : Transaction}
    (opened : engine.active index = .ok t) (table : String) :
    (engine.shared.keys table (columns table) ++
      t.journal.flatMap (Write.carried table (columns table))).Nodup ∧
    ∀ key ∈ t.journal.flatMap (Write.carried table (columns table)),
      key ≤ engine.shared.sequence table := by
  obtain ⟨others, whole, _⟩ := circulating_at columns opened table
  rw [← List.append_assoc] at whole
  refine ⟨(whole.nodup_iff.1 (sound.distinct table)).of_append_left, fun key member => ?_⟩
  refine sound.reached table key (whole.symm.subset ?_)
  exact List.mem_append_left _ (List.mem_append_right _ member)

/-- A commit of an open transaction succeeds. It leaves keys that were shared or that the transaction
was to bring, and the sequences alone. -/
theorem Sound.commit (sound : engine.Sound columns) {index : Nat} {t : Transaction}
    (opened : engine.active index = .ok t) :
    ∃ shared, engine.commit index = (.ok (),
        { shared, transactions :=
            engine.transactions.set index { t with journal := [], finished := true } }) ∧
      ∀ table, (shared.keys table (columns table)).Sublist
          (engine.shared.keys table (columns table) ++
            t.journal.flatMap (Write.carried table (columns table))) ∧
        shared.sequence table = engine.shared.sequence table := by
  obtain ⟨shared, replayed, leaves⟩ := Store.replay_settled (sound.settled_active opened)
    fun table => (sound.free opened table).1
  refine ⟨shared, ?_, fun table => ⟨(leaves table).1, (leaves table).2 ?_⟩⟩
  · simp only [Engine.commit, opened, replayed]
    rfl
  · exact (sound.free opened table).2

theorem moves_end (sound : engine.Sound columns) {index : Nat} {t ended : Transaction}
    {shared : Store} (opened : engine.active index = .ok t) (closed : ended.finished = true)
    (settled : ∀ w ∈ ended.journal, w.Settled columns)
    (leaves : ∀ table, (shared.keys table (columns table)).Sublist
        (engine.shared.keys table (columns table) ++
          t.journal.flatMap (Write.carried table (columns table))) ∧
      shared.sequence table = engine.shared.sequence table) :
    Moves columns engine { shared, transactions := engine.transactions.set index ended } := by
  refine ⟨sound.settled_set settled, fun table => ⟨[], ?_, ?_⟩⟩
  · rw [(leaves table).2]
    exact .nil (Int.le_refl _)
  · obtain ⟨others, whole, changed⟩ := circulating_at columns opened table
    -- The transaction brings nothing any more: its keys are shared now, or given up.
    have nothing : ended.pending columns table = [] := by
      rw [Transaction.pending, if_pos closed]
    have ending := changed shared ended
    rw [nothing, List.nil_append] at ending
    rw [← List.append_assoc] at whole
    rw [List.append_nil]
    have kept := ((leaves table).1.append_right others).subperm
    exact ending.subperm.trans (kept.trans whole.symm.subperm)

theorem moves_commit (sound : engine.Sound columns) (index : Nat) :
    Moves columns engine (engine.step (.commit index)) := by
  change Moves columns engine (engine.commit index).2
  cases opened : engine.active index with
  | error e =>
    rw [(refuses_of_active opened).commit]
    exact .of_same sound rfl rfl fun _ => Int.le_refl _
  | ok t =>
    obtain ⟨shared, committed, leaves⟩ := sound.commit opened
    rw [committed]
    exact moves_end sound opened rfl (fun _ h => nomatch h) leaves

theorem moves_rollback (sound : engine.Sound columns) (index : Nat) :
    Moves columns engine (engine.step (.rollback index)) := by
  change Moves columns engine (engine.rollback index).2
  cases opened : engine.active index with
  | error e =>
    rw [(refuses_of_active opened).rollback]
    exact .of_same sound rfl rfl fun _ => Int.le_refl _
  | ok t =>
    have ended : (engine.rollback index).2 =
        { engine with
          transactions := engine.transactions.set index { t with finished := true } } := by
      simp only [Engine.rollback, opened]
      rfl
    have settled := sound.settled_active opened
    rw [ended]
    exact moves_end sound opened rfl settled
      fun table => ⟨List.sublist_append_left _ _, rfl⟩

/-- The writes that the action asks for draw their keys. -/
def Action.DrawsKeys (columns : String → String) : Action → Prop
  | .run _ (.write w) => w.DrawsKeys columns
  | _ => True

theorem moves_step (sound : engine.Sound columns) {action : Action} (draws : action.DrawsKeys columns) :
    Moves columns engine (engine.step action) := by
  cases action with
  | begin handle => exact moves_begin sound handle
  | run handle statement =>
    cases statement with
    | select statement => exact .of_same sound rfl rfl fun _ => Int.le_refl _
    | write w =>
      cases handle with
      | shared => exact moves_direct sound draws
      | transaction index => exact moves_write sound index draws
  | commit index => exact moves_commit sound index
  | rollback index => exact moves_rollback sound index

/-- A run whose writes draw their keys keeps an engine sound. -/
theorem Sound.run (sound : engine.Sound columns) {actions : List Action}
    (draws : ∀ action ∈ actions, action.DrawsKeys columns) : (engine.run actions).Sound columns := by
  induction actions generalizing engine with
  | nil => exact sound
  | cons action rest ih =>
    exact ih (sound.moves (moves_step sound (draws action List.mem_cons_self)))
      fun a ha => draws a (List.mem_cons_of_mem _ ha)

end Engine

end EntityStore
