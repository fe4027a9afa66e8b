import EntityStore.Proofs.Keys

/-!
# What a commit reproduces

A transaction works on a copy of the shared store and commits by running its journal again on the
shared store as it is by then. The journal leads from the copied store to the transaction's view
(`Transaction.Faithful`), and it leads there from every store that holds the same rows in the tables
that it names, because its insertions carry their keys (`Store.replay_agree`). Main result:
`Course.commit_reproduces`.
-/

namespace EntityStore

/-- Every row that the write inserts carries its key. -/
def Write.CarriesKeys : Write → Prop
  | .insert statement =>
    ∀ row ∈ statement.rows, (Store.keyOf? statement.returning row).isSome = true
  | .update _ => True
  | .delete _ => True

namespace Store

/-- Rows that carry their keys are given them, whatever the sequence has reached. -/
theorem assignKeys_of_carried {column : String} {rows : List Row}
    (carried : ∀ row ∈ rows, (keyOf? column row).isSome = true) :
    ∃ keyed, ∀ last, ∃ final, assignKeys column last rows = .ok (keyed, final) := by
  induction rows with
  | nil => exact ⟨[], fun last => ⟨last, rfl⟩⟩
  | cons row rest ih =>
    obtain ⟨key, hkey⟩ := Option.isSome_iff_exists.1 (carried row List.mem_cons_self)
    obtain ⟨done, assigned⟩ := ih fun row hrow => carried row (List.mem_cons_of_mem _ hrow)
    refine ⟨(key, row.insert column (.int key)) :: done, fun last => ?_⟩
    obtain ⟨final, hfinal⟩ := assigned (max last key)
    refine ⟨final, ?_⟩
    have given : keyFor column last row = .ok key := by
      unfold keyFor
      rw [hkey]
    simp only [assignKeys, given, hfinal, bind, Except.bind]

variable {names : List String} {a b a' : Store}

/-- A table and the tables of its conditions decide which of its rows the conditions select. -/
theorem selects_agree {table : String} {conditions : ConditionTree} (agree : Agree names a b)
    (named : table :: treeTables conditions ⊆ names) :
    a.selects table conditions = b.selects table conditions :=
  funext (selects_congr (agree.mono fun _ h => named (List.mem_cons_of_mem _ h)))

/-- A write has the same effect on two stores that agree on the tables that it names. -/
theorem write_agree {w : Write} {answer : WriteAnswer} (agree : Agree names a b)
    (named : w.tables ⊆ names) (carries : w.CarriesKeys) (h : a.write w = .ok (answer, a')) :
    ∃ b', b.write w = .ok (answer, b') ∧ Agree names a' b' := by
  have target : a.rows w.target = b.rows w.target := agree _ (named w.target_mem_tables)
  suffices same : ∃ b', b.write w = .ok (answer, b') ∧ a'.rows w.target = b'.rows w.target by
    obtain ⟨b', ran, sameTarget⟩ := same
    refine ⟨b', ran, ?_⟩
    intro table htable
    by_cases own : table = w.target
    · rw [own]
      exact sameTarget
    · rw [(write_frame h own).1, (write_frame ran own).1]
      exact agree table htable
  cases w with
  | insert statement =>
    change a.rows statement.table = b.rows statement.table at target
    obtain ⟨keyed, last, free, assigned, rfl, rfl⟩ := write_insert h
    obtain ⟨fixed, always⟩ := assignKeys_of_carried carries
    obtain ⟨final, there⟩ := always (a.sequence statement.table)
    obtain ⟨final', here⟩ := always (b.sequence statement.table)
    have sameKeyed : fixed = keyed := by
      rw [there] at assigned
      cases assigned
      rfl
    subst sameKeyed
    have sameKeys : b.keys statement.table statement.returning =
        a.keys statement.table statement.returning := by
      unfold keys
      rw [target]
    refine ⟨_, write_insert_ok (sameKeys ▸ free) here, ?_⟩
    change (a.appended statement.table fixed last).rows statement.table =
      (b.appended statement.table fixed final').rows statement.table
    rw [rows_appended_self, rows_appended_self, target]
  | update statement =>
    change a.rows statement.table = b.rows statement.table at target
    have selected := selects_agree agree named
    cases h
    refine ⟨(b.update statement).2, ?_, ?_⟩
    · simp only [write, update, target, selected]
    · change ((a.update statement).2).rows statement.table = (b.update statement).2.rows statement.table
      simp only [update, target, selected, rows_setRows_self]
  | delete statement =>
    change a.rows statement.table = b.rows statement.table at target
    have selected := selects_agree agree named
    cases h
    refine ⟨(b.delete statement).2, ?_, ?_⟩
    · simp only [write, delete, target, selected]
    · change ((a.delete statement).2).rows statement.table = (b.delete statement).2.rows statement.table
      simp only [delete, target, selected, rows_setRows_self]

/-- A journal has the same effect on two stores that agree on the tables that it names. -/
theorem replay_agree {journal : List Write} (agree : Agree names a b)
    (named : ∀ w ∈ journal, w.tables ⊆ names) (carries : ∀ w ∈ journal, w.CarriesKeys)
    (h : a.replay journal = .ok a') :
    ∃ b', b.replay journal = .ok b' ∧ Agree names a' b' := by
  induction journal generalizing a b with
  | nil =>
    cases h
    exact ⟨b, rfl, agree⟩
  | cons w rest ih =>
    obtain ⟨answer, middle, ran, replayed⟩ := replay_cons.1 h
    obtain ⟨middle', ran', agree'⟩ := write_agree agree (named w List.mem_cons_self)
      (carries w List.mem_cons_self) ran
    obtain ⟨b', replayed', agreeEnd⟩ := ih agree'
      (fun w hw => named w (List.mem_cons_of_mem _ hw))
      (fun w hw => carries w (List.mem_cons_of_mem _ hw)) replayed
    exact ⟨b', replay_cons.2 ⟨answer, middle', ran', replayed'⟩, agreeEnd⟩

/-- A journal leaves the tables alone that none of its writes changes. -/
theorem replay_frame {journal : List Write} (h : a.replay journal = .ok a') {table : String}
    (unwritten : table ∉ journal.map Write.target) : a'.rows table = a.rows table := by
  induction journal generalizing a with
  | nil =>
    cases h
    rfl
  | cons w rest ih =>
    rw [List.map_cons, List.mem_cons, not_or] at unwritten
    obtain ⟨answer, middle, ran, replayed⟩ := replay_cons.1 h
    rw [ih replayed unwritten.2]
    exact (write_frame ran unwritten.1).1

/-- The rest of a journal runs where its first part leads. -/
theorem replay_concat {first : List Write} (h : a.replay first = .ok a') (rest : List Write) :
    a.replay (first ++ rest) = a'.replay rest := by
  induction first generalizing a with
  | nil =>
    cases h
    rfl
  | cons w first ih =>
    obtain ⟨answer, middle, started, replayed⟩ := replay_cons.1 h
    rw [List.cons_append, replay, started]
    exact ih replayed

/-- A write at the end of a journal runs where the journal leads. -/
theorem replay_append {journal : List Write} {w : Write} {answer : WriteAnswer} {changed : Store}
    (h : a.replay journal = .ok a') (ran : a'.write w = .ok (answer, changed)) :
    a.replay (journal ++ [w]) = .ok changed := by
  rw [replay_concat h]
  exact replay_cons.2 ⟨answer, changed, ran, rfl⟩

end Store

/-- The journal of the transaction leads from the store that it copied to its view, and its insertions
carry their keys. -/
structure Transaction.Faithful (copied : Store) (t : Transaction) : Prop where
  leads : copied.replay t.journal = .ok t.working
  carries : ∀ w ∈ t.journal, w.CarriesKeys

/-- The tables that a write changes and names. -/
def Write.names (w : Write) : String × List String :=
  (w.target, w.tables)

namespace Engine

/-- A write that has its keys drawn carries them. -/
theorem prepare_carries {shared after : Store} {w prepared : Write}
    (h : prepare shared w = .ok (prepared, after)) : prepared.CarriesKeys := by
  cases w with
  | insert statement =>
    obtain ⟨keyed, last, assigned, rfl, _⟩ := prepare_insert h
    intro row hrow
    obtain ⟨pair, hpair, rfl⟩ := List.mem_map.1 hrow
    change (Store.keyOf? statement.returning pair.2).isSome = true
    rw [((Store.assignKeys_carries assigned).2 pair hpair).1]
    rfl
  | update statement =>
    cases h
    trivial
  | delete statement =>
    cases h
    trivial

/-- A journaled write keeps the transaction faithful. -/
theorem Journaled.faithful {engine : Engine} {index : Nat} {w : Write} {before after : Transaction}
    {copied : Store} (journaled : Journaled engine index w before after)
    (faithful : before.Faithful copied) :
    after.Faithful copied ∧
      after.journal.map Write.names = before.journal.map Write.names ++ [w.names] := by
  obtain ⟨prepared, shared, answer, drawn, ran, noted⟩ := journaled.noted
  refine ⟨⟨?_, ?_⟩, ?_⟩
  · rw [noted]
    exact Store.replay_append faithful.leads ran
  · rw [noted]
    intro entry hentry
    rcases List.mem_append.1 hentry with hentry | hentry
    · exact faithful.carries entry hentry
    · rw [List.mem_singleton.1 hentry]
      exact prepare_carries drawn
  · obtain ⟨sameTarget, sameTables⟩ := prepare_names drawn
    rw [noted, List.map_append, List.map_singleton]
    unfold Write.names
    rw [sameTarget, sameTables]

/-- Whatever runs on an engine, a transaction that stays open stays faithful, and its journal names
what its successful writes name. -/
theorem faithful_run {copied : Store} {index : Nat} {actions : List Action} {engine : Engine}
    {before after : Transaction} (opened : engine.active index = .ok before)
    (faithful : before.Faithful copied) (still : (engine.run actions).active index = .ok after) :
    after.Faithful copied ∧ after.journal.map Write.names =
      before.journal.map Write.names ++ (writes index engine actions).map Write.names := by
  refine invariant_run (I := fun done t => t.Faithful copied ∧
    t.journal.map Write.names = before.journal.map Write.names ++ done.map Write.names)
    ?_ [] opened ⟨faithful, (List.append_nil _).symm⟩ still
  rintro _ _ _ _ _ journaled ⟨faithful, named⟩
  obtain ⟨faithful, noted⟩ := journaled.faithful faithful
  refine ⟨faithful, ?_⟩
  rw [noted, named, List.map_append, List.append_assoc]
  rfl

end Engine

/-- A transaction from its begin on: the engine on which it is begun, and what is asked of that engine
from then on, by the transaction and by all others. -/
structure Course where
  start : Engine
  actions : List Engine.Action

namespace Course

/-- The number of the transaction. -/
def index (c : Course) : Nat := c.start.transactions.length

/-- The engine on which the transaction has just been begun. -/
def begun (c : Course) : Engine := c.start.step (.begin .shared)

/-- The engine after all the actions. -/
def final (c : Course) : Engine := c.begun.run c.actions

/-- The writes of the transaction that succeeded. -/
def writes (c : Course) : List Write := Engine.writes c.index c.begun c.actions

theorem active_begun (c : Course) :
    c.begun.active c.index = .ok { working := c.start.shared } := by
  refine Engine.active_eq_ok.2 ⟨?_, rfl⟩
  exact List.getElem?_concat_length

/-- **What a commit reproduces.** If every table that the transaction's writes name holds at the end
the rows that it held at the begin, the commit succeeds. Each table that the transaction wrote then
holds, row for row, what the transaction saw there, and each other table what it held before. -/
theorem commit_reproduces (c : Course) (view : Store)
    (opened : c.final.storeOf (.transaction c.index) = .ok view)
    (undisturbed : ∀ w ∈ c.writes, ∀ table ∈ w.tables,
      c.final.shared.rows table = c.start.shared.rows table) :
    (c.final.commit c.index).1 = .ok () ∧
    (∀ table ∈ c.writes.map Write.target,
      (c.final.commit c.index).2.shared.rows table = view.rows table) ∧
    (∀ table ∉ c.writes.map Write.target,
      (c.final.commit c.index).2.shared.rows table = c.final.shared.rows table) := by
  obtain ⟨t, active, rfl⟩ : ∃ t, c.final.active c.index = .ok t ∧ t.working = view := by
    rw [Engine.storeOf_transaction] at opened
    cases active : c.final.active c.index with
    | error e => rw [active] at opened; cases opened
    | ok t =>
      rw [active] at opened
      exact ⟨t, rfl, Except.ok.inj opened⟩
  have untouched : Transaction.Faithful c.start.shared { working := c.start.shared } :=
    ⟨rfl, fun _ hw => nomatch hw⟩
  obtain ⟨faithful, journaled⟩ := Engine.faithful_run c.active_begun untouched active
  have named : t.journal.map Write.names = c.writes.map Write.names := journaled
  have journalTargets : t.journal.map Write.target = c.writes.map Write.target :=
    calc t.journal.map Write.target
        = (t.journal.map Write.names).map Prod.fst := by rw [List.map_map]; rfl
      _ = (c.writes.map Write.names).map Prod.fst := by rw [named]
      _ = c.writes.map Write.target := by rw [List.map_map]; rfl
  have journalTables : t.journal.map Write.tables = c.writes.map Write.tables :=
    calc t.journal.map Write.tables
        = (t.journal.map Write.names).map Prod.snd := by rw [List.map_map]; rfl
      _ = (c.writes.map Write.names).map Prod.snd := by rw [named]
      _ = c.writes.map Write.tables := by rw [List.map_map]; rfl
  let names := (t.journal.map Write.tables).flatten
  have agree : Store.Agree names c.start.shared c.final.shared := by
    intro table htable
    obtain ⟨tables, htables, inTables⟩ := List.mem_flatten.1 htable
    rw [journalTables] at htables
    obtain ⟨w, hw, rfl⟩ := List.mem_map.1 htables
    exact (undisturbed w hw table inTables).symm
  have allNamed : ∀ w ∈ t.journal, w.tables ⊆ names := fun w hw table htable =>
    List.mem_flatten.2 ⟨w.tables, List.mem_map_of_mem hw, htable⟩
  obtain ⟨merged, replayed, agreeEnd⟩ :=
    Store.replay_agree agree allNamed faithful.carries faithful.leads
  have committed : (c.final.commit c.index).1 = .ok () ∧
      (c.final.commit c.index).2.shared = merged := by
    simp only [Engine.commit, active, replayed]
    exact ⟨trivial, trivial⟩
  rw [committed.2, ← journalTargets]
  refine ⟨committed.1, ?_, fun table unwritten => Store.replay_frame replayed unwritten⟩
  intro table written
  obtain ⟨w, hw, rfl⟩ := List.mem_map.1 written
  exact (agreeEnd w.target (allNamed w hw w.target_mem_tables)).symm

/-- A transaction on orders that looks at customers, while another one writes orders that it never
commits, and rows are inserted directly into a table of logs. -/
def orders : Course where
  start :=
    { shared :=
        { tables := [("orders", [.ofFields [("customer_id", .int 1), ("id", .int 1)]]),
            ("customers", [.ofFields [("id", .int 1)]])]
          sequences := [("orders", 1), ("customers", 1)] } }
  actions :=
    [.run (.transaction 0) (.write (.insert { table := "orders", rows := [.empty] })),
      .run .shared (.write (.insert { table := "logs", rows := [.empty, .empty] })),
      .begin .shared,
      .run (.transaction 1) (.write (.insert { table := "orders", rows := [.empty] })),
      .run (.transaction 0) (.write (.update
        { table := "orders", values := .ofFields [("paid", .bool true)],
          conditions := [(.and, .related true "customers" ⟨"id", "orders", "customer_id"⟩ [])] })),
      .run (.transaction 0) (.write (.insert
        { table := "orders", rows := [.ofFields [("id", .int 1)]] })),
      .run (.transaction 0) (.select { table := "logs" })]

/-- The transaction on orders commits, and the orders are those that it saw. -/
theorem commit_reproduces_orders :
    (∀ w ∈ orders.writes, ∀ table ∈ w.tables,
      orders.final.shared.rows table = orders.start.shared.rows table) ∧
    ∃ view, orders.final.storeOf (.transaction orders.index) = .ok view ∧
      (orders.final.commit orders.index).1 = .ok () ∧
      (orders.final.commit orders.index).2.shared.rows "orders" = view.rows "orders" := by
  have undisturbed : ∀ w ∈ orders.writes, ∀ table ∈ w.tables,
      orders.final.shared.rows table = orders.start.shared.rows table := by
    decide +kernel
  have stillOpen : (orders.final.storeOf (.transaction orders.index)).isOk = true := by
    decide +kernel
  refine ⟨undisturbed, ?_⟩
  cases opened : orders.final.storeOf (.transaction orders.index) with
  | error e => rw [opened] at stillOpen; cases stillOpen
  | ok view =>
    obtain ⟨committed, written, _⟩ := commit_reproduces orders view opened undisturbed
    refine ⟨view, rfl, committed, written "orders" ?_⟩
    decide +kernel

end Course

end EntityStore
