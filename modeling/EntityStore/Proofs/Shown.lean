import EntityStore.Association.Basic
import EntityStore.Proofs.Drawing
import EntityStore.Proofs.Triples

/-!
# What a handle shows of a table

An open handle shows the rows of a table; the next key of the table is drawn from the shared store,
whatever the handle is (`Engine.Shows`). A task answers when it ends without an error
(`Task.Answers`), and it spares a table when the table is shown after it as before, however the task
ends (`Task.Spares`). Both come with one rule for every way in which tasks are put together.
-/

namespace EntityStore

/-- The handle is open and the table behind it holds the rows; `last` is the last key that was drawn
for the table. -/
structure Engine.Shows (engine : Engine) (handle : Handle) (table : String) (rows : List Row)
    (last : Int) : Prop where
  held : ∃ store, engine.storeOf handle = .ok store ∧ store.rows table = rows
  drawn : engine.shared.sequence table = last

namespace Engine

variable {engine : Engine} {handle : Handle} {table : String} {rows : List Row} {last : Int}

/-- What is shown of a table is one list of rows and one last key. -/
theorem Shows.unique {rows' : List Row} {last' : Int} (shown : engine.Shows handle table rows last)
    (shown' : engine.Shows handle table rows' last') : rows = rows' ∧ last = last' := by
  obtain ⟨⟨store, opened, rfl⟩, rfl⟩ := shown
  obtain ⟨⟨store', opened', rfl⟩, rfl⟩ := shown'
  rw [opened] at opened'
  cases opened'
  exact ⟨rfl, rfl⟩

/-- A write of another table does not change what is shown of a table, in every way that it can
end. -/
theorem Shows.write {w : Write} (shown : engine.Shows handle table rows last)
    (other : table ≠ w.target) : (engine.write handle w).2.Shows handle table rows last := by
  obtain ⟨⟨store, opened, held⟩, drawn⟩ := shown
  have prepared_rows {shared after : Store} {prepared : Write}
      (drew : prepare shared w = .ok (prepared, after)) :
      table ≠ prepared.target ∧ after.sequence table = shared.sequence table := by
    refine ⟨by rwa [(prepare_names drew).1], ?_⟩
    cases w with
    | insert statement =>
      obtain ⟨_, final, _, _, rfl⟩ := prepare_insert drew
      exact Store.sequence_setSequence_of_ne _ final other
    | update | delete =>
      cases drew
      rfl
  cases handle with
  | shared =>
    cases opened
    unfold Engine.write
    cases ran : engine.shared.write w with
    | error e => exact ⟨⟨_, rfl, held⟩, drawn⟩
    | ok result =>
      obtain ⟨sameRows, sameSequence⟩ := Store.write_frame ran other
      exact ⟨⟨_, rfl, sameRows.trans held⟩, sameSequence.trans drawn⟩
  | transaction index =>
    have wrote := wrote engine index w
    generalize engine.write (.transaction index) w = outcome at wrote ⊢
    cases wrote with
    | refused e => exact ⟨⟨store, opened, held⟩, drawn⟩
    | failed e drew => exact ⟨⟨store, opened, held⟩, (prepared_rows drew).2.trans drawn⟩
    | @noted t prepared shared working answer active drew ran =>
      rw [storeOf_transaction, active] at opened
      cases opened
      obtain ⟨otherToo, sameSequence⟩ := prepared_rows drew
      let done : Transaction := { t with working, journal := t.journal ++ [prepared] }
      have reopened : (({ engine with shared } : Engine).setTransaction index done).active index =
          .ok done :=
        active_setTransaction
        (show ({ engine with shared } : Engine).active index = .ok t from active)
          (active_eq_ok.1 active).2
      refine ⟨⟨working, ?_, (Store.write_frame ran otherToo).1.trans held⟩,
        sameSequence.trans drawn⟩
      change (({ engine with shared } : Engine).setTransaction index done).storeOf _ = _
      rw [storeOf_transaction, reopened]
      rfl

/-- A write that draws no keys leaves the sequences of the shared store alone. -/
theorem sequence_write_unkeyed (engine : Engine) (handle : Handle) {w : Write}
    (unkeyed : ∀ shared : Store, prepare shared w = .ok (w, shared))
    (kept : ∀ (store changed : Store) (answer : Store.WriteAnswer),
      store.write w = .ok (answer, changed) → changed.sequence table = store.sequence table) :
    (engine.write handle w).2.shared.sequence table = engine.shared.sequence table := by
  cases handle with
  | shared =>
    unfold write
    cases ran : engine.shared.write w with
    | error e => rfl
    | ok result => exact kept _ result.2 result.1 ran
  | transaction index =>
    have wrote := engine.wrote index w
    generalize engine.write (.transaction index) w = outcome at wrote ⊢
    cases wrote with
    | refused => rfl
    | failed e drew =>
      rw [unkeyed] at drew
      cases drew
      rfl
    | noted opened drew ran =>
      rw [unkeyed] at drew
      cases drew
      rfl

/-- An update sets its values in the rows that it selects and answers their number. -/
theorem Shows.update (shown : engine.Shows handle table rows last) (values : Row)
    (conditions : ConditionTree) : ∃ store : Store,
      (engine.write handle (.update { table, values, conditions })).1 =
        .ok (.changed (rows.countP (store.selects table conditions))) ∧
      (engine.write handle (.update { table, values, conditions })).2.Shows handle table
        (rows.map fun row =>
          if store.selects table conditions row then row.merge values else row) last := by
  obtain ⟨⟨store, opened, rfl⟩, drawn⟩ := shown
  have ran : store.write (.update { table, values, conditions }) =
      .ok (.changed (store.update { table, values, conditions }).1,
        (store.update { table, values, conditions }).2) := rfl
  obtain ⟨answered, changed⟩ := write_unkeyed opened rfl ran
  refine ⟨store, answered, ⟨_, changed, ?_⟩, ?_⟩
  · unfold Store.update
    rw [Store.rows_setRows_self]
  · rw [sequence_write_unkeyed engine handle (fun _ => rfl) ?_, drawn]
    intro store changed answer ran
    rw [Store.write_update ran]
    rfl

/-- A delete removes the rows that it selects and answers their number. -/
theorem Shows.delete (shown : engine.Shows handle table rows last) (conditions : ConditionTree) :
    ∃ store : Store,
      (engine.write handle (.delete { table, conditions })).1 =
        .ok (.changed (rows.countP (store.selects table conditions))) ∧
      (engine.write handle (.delete { table, conditions })).2.Shows handle table
        (rows.filter fun row => !store.selects table conditions row) last := by
  obtain ⟨⟨store, opened, rfl⟩, drawn⟩ := shown
  have ran : store.write (.delete { table, conditions }) =
      .ok (.changed (store.delete { table, conditions }).1,
        (store.delete { table, conditions }).2) := rfl
  obtain ⟨answered, changed⟩ := write_unkeyed opened rfl ran
  refine ⟨store, answered, ⟨_, changed, ?_⟩, ?_⟩
  · unfold Store.delete
    rw [Store.rows_setRows_self]
  · rw [sequence_write_unkeyed engine handle (fun _ => rfl) ?_, drawn]
    intro store changed answer ran
    rw [Store.write_delete ran]
    rfl

section

variable {row : Row}

theorem assignKeys_keyless (keyless : Store.keyOf? "id" row = none)
    (room : fitsInt64 (last + 1) = true) :
    Store.assignKeys "id" last [row] =
      .ok ([(last + 1, row.insert "id" (.int (last + 1)))], last + 1) := by
  have later : max last (last + 1) = last + 1 := by omega
  simp only [Store.assignKeys, Store.keyFor, keyless, Store.nextKey, room, if_true, bind,
    Except.bind, later]

/-- A store takes a row whose key is not in the table yet. -/
theorem write_carried {store : Store} {key : Int} (carried : Store.keyOf? "id" row = some key)
    (free : ∀ taken ∈ store.keys table "id", taken ≠ key) :
    ∃ final, store.write (.insert { table, rows := [row] }) =
      .ok (.inserted [key], store.appended table [(key, row)] final) := by
  obtain ⟨final, placed⟩ : ∃ final, Store.assignKeys "id" (store.sequence table) [row] =
      .ok ([(key, row)], final) := by
    refine ⟨max (store.sequence table) key, ?_⟩
    simp only [Store.assignKeys, Store.keyFor, carried, bind, Except.bind,
      Store.insert_keyOf? carried]
  have untaken : Store.firstTaken (store.keys table "id")
      ([row].filterMap (Store.keyOf? "id")) = none := by
    rw [List.filterMap_cons_some carried, List.filterMap_nil, Store.firstTaken_eq_none]
    refine ⟨List.nodup_singleton _, fun taken mem there => ?_⟩
    exact free taken there (List.mem_singleton.1 mem)
  exact ⟨final, @Store.write_insert_ok _ { table, rows := [row] } _ _ untaken placed⟩

/-- On the shared store a row without a key is appended under the next one. -/
theorem insert_shared (drawn : engine.shared.sequence table = last)
    (keyless : Store.keyOf? "id" row = none) (room : fitsInt64 (last + 1) = true) :
    engine.write .shared (.insert { table, rows := [row] }) = (.ok (.inserted [last + 1]),
      { engine with
        shared := engine.shared.appended table [(last + 1, row.insert "id" (.int (last + 1)))]
          (last + 1) }) := by
  have free : Store.firstTaken (engine.shared.keys table "id")
      ([row].filterMap (Store.keyOf? "id")) = none := by
    simp [keyless, Store.firstTaken]
  have assigned := assignKeys_keyless keyless room
  rw [← drawn] at assigned
  have ran := @Store.write_insert_ok _ { table, rows := [row] } _ _ free assigned
  rw [drawn] at ran
  unfold Engine.write
  simp only [ran]
  rfl

/-- In a transaction the key of the row is drawn from the shared store and is free in the copy. -/
theorem insert_transaction {index : Nat} {t : Transaction} (active : engine.active index = .ok t)
    (drawn : engine.shared.sequence table = last) (keyless : Store.keyOf? "id" row = none)
    (room : fitsInt64 (last + 1) = true)
    (fresh : ∀ row ∈ t.working.rows table, ∀ key, Store.keyOf? "id" row = some key → key ≤ last) :
    ∃ final, (engine.write (.transaction index) (.insert { table, rows := [row] })).1 =
        .ok (.inserted [last + 1]) ∧
      (engine.write (.transaction index) (.insert { table, rows := [row] })).2.storeOf
          (.transaction index) = .ok (t.working.appended table
            [(last + 1, row.insert "id" (.int (last + 1)))] final) ∧
      (engine.write (.transaction index) (.insert { table, rows := [row] })).2.shared =
        engine.shared.setSequence table (last + 1) := by
  have drew : prepare engine.shared (.insert { table, rows := [row] }) =
      .ok (.insert { table, rows := [row.insert "id" (.int (last + 1))] },
        engine.shared.setSequence table (last + 1)) := by
    unfold prepare reserveKeys
    simp only [drawn, assignKeys_keyless keyless room, Except.map, List.map_cons, List.map_nil]
  obtain ⟨final, ran⟩ : ∃ final, t.working.write
      (.insert { table, rows := [row.insert "id" (.int (last + 1))] }) = .ok (.inserted [last + 1],
        t.working.appended table [(last + 1, row.insert "id" (.int (last + 1)))] final) := by
    refine write_carried (Store.keyOf?_insert room row) fun taken there same => ?_
    obtain ⟨old, mem, carried⟩ := List.mem_filterMap.1 there
    have := fresh old mem taken carried
    omega
  have accepted : (engine.write (.transaction index) (.insert { table, rows := [row] })).1 =
      .ok (.inserted [last + 1]) := by
    unfold Engine.write
    simp only [active, drew, ran]
  obtain ⟨t', prepared, shared, working, active', drew', ran', sharedAfter, reopened⟩ :=
    write_accepted accepted
  rw [active] at active'
  cases active'
  rw [drew] at drew'
  cases drew'
  rw [ran] at ran'
  cases ran'
  refine ⟨final, accepted, ?_, sharedAfter⟩
  rw [storeOf_transaction, reopened]
  rfl

/-- A row without a key is appended under the next one, on the shared store and in a transaction. -/
theorem Shows.insert (shown : engine.Shows handle table rows last)
    (keyless : Store.keyOf? "id" row = none) (room : fitsInt64 (last + 1) = true)
    (fresh : ∀ row ∈ rows, ∀ key, Store.keyOf? "id" row = some key → key ≤ last) :
    (engine.write handle (.insert { table, rows := [row] })).1 = .ok (.inserted [last + 1]) ∧
      (engine.write handle (.insert { table, rows := [row] })).2.Shows handle table
        (rows ++ [row.insert "id" (.int (last + 1))]) (last + 1) := by
  obtain ⟨⟨store, opened, rfl⟩, drawn⟩ := shown
  cases handle with
  | shared =>
    cases opened
    rw [insert_shared drawn keyless room]
    exact ⟨rfl, ⟨_, rfl, Store.rows_appended_self _ _ _ _⟩, Store.sequence_appended_self _ _ _ _⟩
  | transaction index =>
    rw [storeOf_transaction] at opened
    cases active : engine.active index with
    | error e =>
      rw [active] at opened
      cases opened
    | ok t =>
      rw [active] at opened
      cases opened
      obtain ⟨final, answered, store, shared⟩ :=
        insert_transaction active drawn keyless room fresh
      refine ⟨answered, ⟨_, store, Store.rows_appended_self _ _ _ _⟩, ?_⟩
      rw [shared, Store.sequence_setSequence_self]

end

end Engine

/-- An answer that is there already is gone on with. -/
theorem Work.ok_bind {σ α β : Type} (a : α) (next : α → Work σ β) :
    (Work.ofExcept (.ok a) >>= next) = next a := rfl

/-! ### Tables that a task spares -/

/-- The table is shown after the task as it was before, however the task ends. -/
def Task.Spares {α : Type} (work : Task α) (db : Database) (table : String) : Prop :=
  ∀ (s : Session) (rows : List Row) (last : Int), s.engine.Shows db.handle table rows last →
    (work db s).2.engine.Shows db.handle table rows last

namespace Task.Spares

variable {α β : Type} {db : Database} {table : String}

/-- A task that leaves the engine alone spares every table. -/
theorem still {work : Task α} (unchanged : ∀ s, (work db s).2.engine = s.engine) :
    work.Spares db table := by
  intro s rows last shown
  rw [unchanged s]
  exact shown

theorem pure (a : α) : Spares (Pure.pure a : Task α) db table :=
  still fun _ => rfl

theorem throw (e : Error) : Spares (MonadExcept.throw e : Task α) db table :=
  still fun _ => rfl

theorem ofExcept (answer : Except Error α) : Spares (Work.ofExcept answer : Task α) db table :=
  still fun _ => rfl

theorem bind {work : Task α} {next : α → Task β} (first : work.Spares db table)
    (rest : ∀ a, (next a).Spares db table) : (work >>= next).Spares db table := by
  intro s rows last shown
  have spared := first s rows last shown
  rw [Work.run_bind]
  cases ran : work db s with
  | mk answer s' =>
    rw [ran] at spared
    cases answer with
    | error e => exact spared
    | ok a => exact rest a s' rows last spared

theorem select (statement : Select) : (Task.select statement).Spares db table :=
  still fun _ => rfl

theorem selectFirst (statement : Select) : (Task.selectFirst statement).Spares db table :=
  bind (select _) fun _ => pure _

theorem stamp : Task.stamp.Spares db table :=
  still fun _ => rfl

theorem write {w : Write} (other : table ≠ w.target) : (Task.write w).Spares db table :=
  fun _ _ _ shown => Engine.Shows.write shown other

theorem update {statement : Update} (other : table ≠ statement.table) :
    (Task.update statement).Spares db table :=
  bind (write other) fun _ => pure _

theorem delete {statement : Delete} (other : table ≠ statement.table) :
    (Task.delete statement).Spares db table :=
  bind (write other) fun _ => pure _

theorem insertStamped {inserted : String} (other : table ≠ inserted) (values : Row) :
    (Task.insertStamped inserted values).Spares db table := by
  unfold Task.insertStamped Task.insert Model.stampCreation
  refine bind (bind stamp fun _ => pure _) fun row =>
    bind (bind (write other) fun _ => pure _) fun keys => ?_
  cases keys.head? with
  | none => exact throw _
  | some key =>
    refine bind (selectFirst _) fun found => ?_
    cases found with
    | none => exact throw _
    | some row => exact pure row

end Task.Spares

/-! ### Tasks that answer -/

/-- From the session the task ends with an answer, and `Q` holds of the answer and of the session
that it leaves. -/
def Task.Answers {α : Type} (work : Task α) (db : Database) (s : Session)
    (Q : α → Session → Prop) : Prop :=
  ∃ a s', work db s = (.ok a, s') ∧ Q a s'

namespace Task.Answers

variable {α β : Type} {db : Database} {s : Session} {Q : α → Session → Prop}
  {R : β → Session → Prop}

theorem pure {a : α} (h : Q a s) : Answers (Pure.pure a) db s Q :=
  ⟨a, s, rfl, h⟩

theorem ofExcept {answer : Except Error α} {a : α} (ok : answer = .ok a) (h : Q a s) :
    Answers (Work.ofExcept answer) db s Q :=
  ⟨a, s, by rw [ok]; rfl, h⟩

/-- What the task answers, and the session that it leaves. -/
theorem outcome {work : Task α} (answers : work.Answers db s Q) :
    ∃ a, (work db s).1 = .ok a ∧ Q a (work db s).2 := by
  obtain ⟨a, s', ran, h⟩ := answers
  rw [ran]
  exact ⟨a, rfl, h⟩

theorem mono {work : Task α} {Q' : α → Session → Prop} (answers : work.Answers db s Q)
    (weaker : ∀ a s', Q a s' → Q' a s') : work.Answers db s Q' := by
  obtain ⟨a, s', ran, h⟩ := answers
  exact ⟨a, s', ran, weaker a s' h⟩

/-- One task after the other: the second starts where the first has ended. -/
theorem bind {work : Task α} {next : α → Task β} (first : work.Answers db s Q)
    (rest : ∀ a s', Q a s' → (next a).Answers db s' R) : (work >>= next).Answers db s R := by
  obtain ⟨a, s', ran, h⟩ := first
  obtain ⟨b, s'', ranToo, h'⟩ := rest a s' h
  refine ⟨b, s'', ?_, h'⟩
  rw [Work.run_bind, ran]
  exact ranToo

/-- An answer that is not wanted. -/
theorem ignoring {work : Task α} {P : Session → Prop}
    (answers : work.Answers db s fun _ s' => P s') :
    Answers (do let _ ← work; return ()) db s fun _ s' => P s' :=
  bind answers fun _ _ h => pure h

/-- What is spared is still shown when the task has answered. -/
theorem sparing {work : Task α} {table : String} {rows : List Row} {last : Int}
    (answers : work.Answers db s Q) (spares : work.Spares db table)
    (shown : s.engine.Shows db.handle table rows last) :
    work.Answers db s fun a s' => Q a s' ∧ s'.engine.Shows db.handle table rows last := by
  obtain ⟨a, s', ran, h⟩ := answers
  have spared := spares s rows last shown
  rw [ran] at spared
  exact ⟨a, s', ran, h, spared⟩

/-- A selection answers from the store behind the handle. -/
theorem select {store : Store} (opened : s.engine.storeOf db.handle = .ok store)
    (statement : Select) : (Task.select statement).Answers db s fun rows s' =>
      rows = store.select statement ∧ s'.engine = s.engine := by
  refine ⟨store.select statement, (Task.select statement db s).2, ?_, rfl, rfl⟩
  rw [Task.run_select, Engine.select_eq, opened]
  rfl

/-- A write that succeeds answers, and leaves the engine that it leads to. -/
theorem write {w : Write} {answer : Store.WriteAnswer}
    (accepted : (s.engine.write db.handle w).1 = .ok answer) :
    (Task.write w).Answers db s fun a s' =>
      a = answer ∧ s'.engine = (s.engine.write db.handle w).2 := by
  refine ⟨answer, (Task.write w db s).2, ?_, rfl, rfl⟩
  rw [Task.run_write, accepted]

/-- The present instant is read off the clock, and nothing but the clock moves. -/
theorem stamp :
    Task.stamp.Answers db s fun v s' => v = .text s.clock.text ∧ s'.engine = s.engine :=
  ⟨_, _, rfl, rfl, rfl⟩

end Task.Answers

end EntityStore
