import EntityStore.Model.Operations
import EntityStore.Proofs.Handle
import EntityStore.Proofs.Keys
import EntityStore.Proofs.Run

/-!
# What tasks keep

A property of the store behind a handle is kept by a task when it still holds after the task has
ended, with an answer or with an error, and when every answer is as promised (`Task.Keeps`). There is
one rule for every way in which tasks are put together. Only a write can break the property, so what
is left of every task is what its writes do to a store (`Write.Preserves`).

Whatever an entity writes goes through an insertion of prepared rows or an update of its table. A
property of the store is kept by all of them when insertions of rows of one kind and updates of
another kind maintain it, and the columns that a write sets by itself do not matter to these kinds
(`Model.Guards`). What is left for a caller to say is what the checks of a row let through
(`Model.Checked`).
-/

namespace EntityStore

/-- From a store with the property the write leads to such a store. -/
def Write.Preserves (w : Write) (P : Store → Prop) : Prop :=
  ∀ (store changed : Store) (answer : Store.WriteAnswer), P store →
    store.write w = .ok (answer, changed) → P changed

/-- The write preserves the property, and does so as well once its keys are drawn. -/
def Write.Maintains (w : Write) (P : Store → Prop) : Prop :=
  w.Preserves P ∧ ∀ (shared after : Store) (prepared : Write),
    Engine.prepare shared w = .ok (prepared, after) → prepared.Preserves P

/-- The handle is open, and the store behind it has the property. -/
def Session.Holds (s : Session) (handle : Handle) (P : Store → Prop) : Prop :=
  ∃ store, s.engine.storeOf handle = .ok store ∧ P store

/-- From a session in which the property holds the task ends in one in which it holds, whether it
fails or not, and an answer is as promised. -/
def Task.Keeps {α : Type} (work : Task α) (db : Database) (P : Store → Prop) (Q : α → Prop) : Prop :=
  ∀ s : Session, s.Holds db.handle P →
    (work db s).2.Holds db.handle P ∧ ∀ a, (work db s).1 = .ok a → Q a

namespace Engine

/-- A write that maintains a property leaves the store behind the handle with it, in every way that
the write can end. -/
theorem write_maintains {engine : Engine} {handle : Handle} {w : Write} {P : Store → Prop}
    (maintains : w.Maintains P) (held : ∃ store, engine.storeOf handle = .ok store ∧ P store) :
    ∃ store, (engine.write handle w).2.storeOf handle = .ok store ∧ P store := by
  obtain ⟨store, opened, holds⟩ := held
  cases handle with
  | shared =>
    cases opened
    unfold write
    cases ran : engine.shared.write w with
    | error e => exact ⟨_, rfl, holds⟩
    | ok result => exact ⟨_, rfl, maintains.1 _ _ result.1 holds ran⟩
  | transaction index =>
    generalize written : engine.write (.transaction index) w = outcome
    have wrote := wrote engine index w
    rw [written] at wrote
    cases wrote with
    | refused e => exact ⟨store, opened, holds⟩
    | failed e drew => exact ⟨store, opened, holds⟩
    | noted active drew ran =>
      next t prepared shared working answer =>
      rw [storeOf_transaction, active] at opened
      cases opened
      let changed : Transaction := { t with working, journal := t.journal ++ [prepared] }
      have reopened : (({ engine with shared } : Engine).setTransaction index changed).active index =
          .ok changed :=
        active_setTransaction (show ({ engine with shared } : Engine).active index = .ok t from active)
          (active_eq_ok.1 active).2
      refine ⟨working, ?_, maintains.2 _ _ _ drew _ _ _ holds ran⟩
      change (({ engine with shared } : Engine).setTransaction index changed).storeOf _ = _
      rw [storeOf_transaction, reopened]
      rfl

end Engine

namespace Task.Keeps

variable {α β : Type} {db : Database} {P : Store → Prop} {Q : α → Prop} {R : β → Prop}

/-- A task that leaves the engine alone keeps everything. -/
theorem still {work : Task α} (unchanged : ∀ s, (work db s).2.engine = s.engine)
    (promised : ∀ s a, (work db s).1 = .ok a → Q a) : work.Keeps db P Q := by
  intro s held
  refine ⟨?_, promised s⟩
  unfold Session.Holds
  rw [unchanged s]
  exact held

theorem pure {a : α} (h : Q a) : Keeps (Pure.pure a : Task α) db P Q := by
  refine still (fun _ => rfl) ?_
  intro s b answered
  cases answered
  exact h

theorem throw (e : Error) : Keeps (MonadExcept.throw e : Task α) db P Q :=
  still (fun _ => rfl) fun _ _ answered => nomatch answered

theorem ofExcept (answer : Except Error α) :
    Keeps (Work.ofExcept answer : Task α) db P (fun a => answer = .ok a) :=
  still (fun _ => rfl) fun _ _ answered => answered

theorem database : Keeps (Work.database : Task Database) db P (· = db) := by
  refine still (fun _ => rfl) ?_
  intro s a answered
  cases answered
  rfl

/-- One task after the other: the second relies on what the first promises. -/
theorem bind {work : Task α} {next : α → Task β} (first : work.Keeps db P Q)
    (rest : ∀ a, Q a → (next a).Keeps db P R) : (work >>= next).Keeps db P R := by
  intro s held
  obtain ⟨kept, promised⟩ := first s held
  rw [Work.run_bind]
  cases ran : work db s with
  | mk answer s' =>
    rw [ran] at kept promised
    cases answer with
    | error e => exact ⟨kept, fun _ answered => nomatch answered⟩
    | ok a => exact rest a (promised a rfl) s' kept

theorem ite {c : Prop} [Decidable c] {work other : Task α} (yes : c → work.Keeps db P Q)
    (no : ¬c → other.Keeps db P Q) : (if c then work else other).Keeps db P Q := by
  split
  · next h => exact yes h
  · next h => exact no h

/-- A task for every element of a list: each answer is as promised. -/
theorem mapM {γ : Type} {work : γ → Task α} {items : List γ} (each : ∀ item, (work item).Keeps db P Q) :
    (items.mapM work).Keeps db P (fun answers => ∀ a ∈ answers, Q a) := by
  induction items with
  | nil =>
    rw [List.mapM_nil]
    exact pure fun _ mem => nomatch mem
  | cons item rest ih =>
    rw [List.mapM_cons]
    refine bind (each item) fun a first => bind ih fun more others => pure ?_
    intro b mem
    rcases List.mem_cons.1 mem with rfl | mem
    · exact first
    · exact others b mem

theorem forM {γ : Type} {work : γ → Task Unit} {items : List γ}
    (each : ∀ item, (work item).Keeps db P (fun _ => True)) :
    (items.forM work).Keeps db P (fun _ => True) := by
  induction items with
  | nil => exact pure trivial
  | cons item rest ih => exact bind (each item) fun _ _ => ih

theorem select (statement : Select) : (Task.select statement).Keeps db P (fun _ => True) :=
  still (fun _ => rfl) fun _ _ _ => trivial

theorem selectFirst (statement : Select) :
    (Task.selectFirst statement).Keeps db P (fun _ => True) :=
  bind (select _) fun _ _ => pure trivial

theorem announce (m : Model) (event : LifecycleEvent) (payload : Value) :
    (Task.announce m event payload).Keeps db P (fun _ => True) := by
  refine still ?_ fun _ _ _ => trivial
  intro s
  unfold Task.announce
  split <;> rfl

theorem stamp : Task.stamp.Keeps db P (fun _ => True) :=
  still (fun _ => rfl) fun _ _ _ => trivial

theorem freshNumber : Task.freshNumber.Keeps db P (fun _ => True) :=
  still (fun _ => rfl) fun _ _ _ => trivial

theorem write {w : Write} (maintains : w.Maintains P) :
    (Task.write w).Keeps db P (fun _ => True) :=
  fun _ held => ⟨Engine.write_maintains maintains held, fun _ _ => trivial⟩

theorem insert {statement : Insert} (maintains : (Write.insert statement).Maintains P) :
    (Task.insert statement).Keeps db P (fun _ => True) :=
  bind (write maintains) fun _ _ => pure trivial

theorem update {statement : Update} (maintains : (Write.update statement).Maintains P) :
    (Task.update statement).Keeps db P (fun _ => True) :=
  bind (write maintains) fun _ _ => pure trivial

end Task.Keeps

namespace Store

/-- Every row of the table has the property. -/
def Every (table : String) (V : Row → Prop) (store : Store) : Prop :=
  ∀ row ∈ store.rows table, V row

/-- Rows that are given keys have what the rows had, where a key does not matter. -/
theorem forall_assigned {column : String} {V : Row → Prop}
    (keyed : ∀ (row : Row) key, V row → V (row.insert column (.int key))) {rows : List Row}
    (h : ∀ row ∈ rows, V row) {last final : Int} {assigned : List (Int × Row)}
    (ran : assignKeys column last rows = .ok (assigned, final)) :
    ∀ row ∈ assigned.map (·.2), V row := by
  induction rows generalizing last assigned with
  | nil =>
    cases ran
    exact fun _ mem => nomatch mem
  | cons row rest ih =>
    obtain ⟨key, done, -, tail, rfl⟩ := assignKeys_cons ran
    intro other mem
    rw [List.map_cons] at mem
    rcases List.mem_cons.1 mem with rfl | mem
    · exact keyed row key (h row List.mem_cons_self)
    · exact ih (fun row mem => h row (List.mem_cons_of_mem _ mem)) tail other mem

/-- An insertion of rows with the property leaves only such rows. -/
theorem maintains_insert {statement : Insert} {V : Row → Prop}
    (keyed : ∀ (row : Row) key, V row → V (row.insert statement.returning (.int key)))
    (h : ∀ row ∈ statement.rows, V row) :
    (Write.insert statement).Maintains (Every statement.table V) := by
  have preserves : ∀ rows, (∀ row ∈ rows, V row) →
      (Write.insert { statement with rows }).Preserves (Every statement.table V) := by
    intro rows valid store changed answer holds ran row mem
    obtain ⟨assigned, last, -, given, -, rfl⟩ := write_insert ran
    rw [rows_appended_self] at mem
    rcases List.mem_append.1 mem with old | new
    · exact holds row old
    · exact forall_assigned keyed valid given row new
  refine ⟨preserves statement.rows h, ?_⟩
  intro shared after prepared drew
  obtain ⟨assigned, last, given, rfl, -⟩ := Engine.prepare_insert drew
  exact preserves _ (forall_assigned keyed h given)

/-- An update whose values do not take the property from a row leaves only rows that have it. -/
theorem maintains_update {statement : Update} {V : Row → Prop}
    (h : ∀ row, V row → V (row.merge statement.values)) :
    (Write.update statement).Maintains (Every statement.table V) := by
  have preserves : (Write.update statement).Preserves (Every statement.table V) := by
    intro store changed answer holds ran row mem
    rw [write_update ran] at mem
    unfold update at mem
    rw [rows_setRows_self] at mem
    obtain ⟨old, there, rfl⟩ := List.mem_map.1 mem
    split
    · exact h old (holds old there)
    · exact holds old there
  refine ⟨preserves, ?_⟩
  intro shared after prepared drew
  cases drew
  exact preserves

end Store

/-! ### The writes of an entity -/

/-- The row passed the check, if the caller and the settings asked for it. -/
def Model.Checked (m : Model) (db : Database) (mode : WriteMode) (validated : Bool) (row : Row) :
    Prop :=
  (validated && db.config.validateOnWrite) = true → m.validator.validate row mode = .ok ()

/-- New rows with `V` and changes with `A` keep what they have when the columns are set that writes
set by themselves, and writing them maintains `P`. -/
structure Model.Guards (m : Model) (P : Store → Prop) (V A : Row → Prop) : Prop where
  identifier : m.traits.uuid = true → ∀ row v, V row → V (row.insert "uuid" v)
  creation : m.traits.timestamps = true → ∀ row v, V row → V (row.insertNew "created_at" v)
  change : m.traits.timestamps = true → ∀ row v, V row → V (row.insertNew "updated_at" v)
  stamp : m.traits.timestamps = true → ∀ values v, A values → A (values.insert "updated_at" v)
  inserts : ∀ rows, (∀ row ∈ rows, V row) →
    (Write.insert { table := m.table, rows, returning := m.primaryKey }).Maintains P
  updates : ∀ values conditions, A values →
    (Write.update { table := m.table, values, conditions }).Maintains P

namespace Model

variable {m : Model} {db : Database} {P : Store → Prop} {V A : Row → Prop} {validated : Bool}

theorem keeps_checkRules (row : Row) (mode : WriteMode) :
    (m.checkRules row mode validated).Keeps db P (fun _ => m.Checked db mode validated row) := by
  unfold checkRules Checked
  refine Task.Keeps.bind .database ?_
  rintro db rfl
  cases validated && db.config.validateOnWrite with
  | false => exact .pure fun asked => nomatch asked
  | true =>
    intro s held
    obtain ⟨kept, passed⟩ := Task.Keeps.ofExcept (m.validator.validate row mode) s held
    exact ⟨kept, fun a answered _ => passed a answered⟩

theorem keeps_reread (id : Int) (action : String) :
    (m.reread id action).Keeps db P (fun _ => True) := by
  unfold reread
  refine .bind (.selectFirst _) fun found _ => ?_
  cases found with
  | none => exact .throw _
  | some row => exact .pure trivial

variable (guards : m.Guards P V A)
include guards

/-- A row is checked before identifier and stamps are set. -/
theorem keeps_prepareRow {row : Row} (checked : m.Checked db .create validated row → V row) :
    (m.prepareRow validated row).Keeps db P V := by
  unfold prepareRow
  refine Task.Keeps.bind (keeps_checkRules row .create) ?_
  intro _ passed
  have holds : V row := checked passed
  have stamped : ∀ row, V row →
      (if m.traits.timestamps then stampCreation row else Pure.pure row : Task Row).Keeps db P V := by
    intro row holds
    refine .ite (fun stamps => ?_) fun _ => .pure holds
    unfold stampCreation
    refine .bind .stamp fun stamp _ => .pure ?_
    exact guards.change stamps _ stamp (guards.creation stamps _ stamp holds)
  refine Task.Keeps.ite (fun uuid => ?_) fun _ => .bind (.pure holds) stamped
  refine .bind .freshNumber fun number _ => .bind (.pure ?_) stamped
  exact guards.identifier uuid _ _ holds

theorem keeps_insertRows (checked : ∀ row, m.Checked db .create validated row → V row)
    (rows : List Row) : (m.insertRows rows validated).Keeps db P (fun _ => True) := by
  unfold insertRows
  refine .ite (fun _ => .pure trivial) fun _ => ?_
  refine Task.Keeps.bind (.mapM fun row => keeps_prepareRow guards (checked row)) ?_
  intro prepared hold
  refine .bind (.insert (guards.inserts prepared hold)) fun keys _ => ?_
  refine .bind (.select _) fun fetched _ => .bind (.ofExcept _) fun stored _ => ?_
  exact .bind (.forM fun i => .announce m .created _) fun _ _ => .pure trivial

theorem keeps_insertOne (checked : ∀ row, m.Checked db .create validated row → V row) (row : Row) :
    (m.insertOne row validated).Keeps db P (fun _ => True) := by
  unfold insertOne
  refine .bind (keeps_insertRows guards checked [row]) fun made _ => ?_
  cases made.head? with
  | none => exact .throw _
  | some i => exact .pure trivial

/-- The checks of a change and its stamp, in front of what is then done with the values. -/
theorem keeps_change {values : Row} (checked : m.Checked db .update validated values → A values)
    {α : Type} {R : α → Prop} {next : Row → Task α}
    (rest : ∀ values, A values → (next values).Keeps db P R) :
    (do
      m.checkRules values .update validated
      let values ← if m.traits.timestamps then stampChange values else Pure.pure values
      next values).Keeps db P R := by
  refine Task.Keeps.bind (keeps_checkRules values .update) ?_
  intro _ passed
  have admitted : A values := checked passed
  refine Task.Keeps.ite (fun stamps => ?_) fun _ => .bind (.pure admitted) rest
  refine Task.Keeps.bind (Q := A) ?_ rest
  unfold stampChange
  refine .ite (fun _ => .pure admitted) fun _ => ?_
  exact .bind .stamp fun stamp _ => .pure (guards.stamp stamps _ stamp admitted)

theorem keeps_updateRow (id : Int) {values : Row}
    (checked : m.Checked db .update validated values → A values) :
    (m.updateRow id values validated).Keeps db P (fun _ => True) := by
  unfold updateRow
  refine keeps_change guards checked ?_
  intro values admitted
  have reading : (do
      let i := Instance.ofRow m (← m.reread id "updated")
      Task.announce m .updated i.toValue
      return i).Keeps db P (fun _ => True) :=
    .bind (keeps_reread id _) fun _ _ => .bind (.announce _ _ _) fun _ _ => .pure trivial
  refine .ite (fun _ => ?_) fun _ => reading
  exact .bind (.update (guards.updates values _ admitted)) fun _ _ => reading

end Model

section Saved

variable {m : Model} {db : Database} {P : Store → Prop} {V A : Row → Prop}
  (guards : m.Guards P V A)
include guards

theorem Instance.keeps_writeValues {i : Instance} (own : i.model = m) {values : Row}
    {validated : Bool} (checked : m.Checked db .update validated values → A values) :
    (i.writeValues values validated).Keeps db P (fun _ => True) := by
  subst own
  unfold writeValues
  refine .bind (.ofExcept _) fun id _ => ?_
  exact .bind (Model.keeps_updateRow guards id checked) fun _ _ => .pure trivial

/-- A new instance is inserted whole; of a loaded one only what was set since is written. -/
theorem Instance.keeps_save {i : Instance} (own : i.model = m)
    (new : i.stored = false → ∀ row, m.Checked db .create true row → V row)
    (loaded : i.stored = true →
      m.Checked db .update true (m.filterColumns i.dirty) → A (m.filterColumns i.dirty)) :
    i.save.Keeps db P (fun _ => True) := by
  subst own
  unfold save
  refine .ite (fun absent => ?_) fun present => ?_
  · have absent : i.stored = false := by simpa using absent
    refine .bind (Model.keeps_insertRows guards (new absent) _) fun made _ => ?_
    cases made.head? with
    | none => exact .pure trivial
    | some created => exact .pure trivial
  · have present : i.stored = true := by simpa using present
    refine .ite (fun _ => .pure trivial) fun _ => ?_
    refine .bind (.ofExcept _) fun id _ => ?_
    exact .bind (Model.keeps_updateRow guards id (loaded present)) fun _ _ => .pure trivial

theorem Query.keeps_setAll {q : Query} (own : q.model = m) {values : Row} {validated : Bool}
    (checked : m.Checked db .update validated values → A values) :
    (q.setAll values validated).Keeps db P (fun _ => True) := by
  subst own
  unfold setAll
  refine .ite (fun _ => .pure trivial) fun _ => ?_
  exact Model.keeps_change guards checked fun values admitted =>
    .update (guards.updates values _ admitted)

end Saved

end EntityStore
