import EntityStore.Proofs.Billing
import EntityStore.Proofs.StaleSaves

/-!
# The customer that a row keeps

A billable instance and its row both hold the identifier of the customer. They are in step
(`Billing.InStep`) when they hold the same one and the row is the only one that queries find under the
key of the instance. Keeping another identifier leaves them in step
(`Billing.InStep.exists_storeColumn`): the update reaches that row, finds it again, and asks no
provider for anything.
-/

namespace EntityStore

/-- The task makes no request of a provider. -/
def Task.Unasking {α : Type} (work : Task α) : Prop :=
  ∀ db s, (work db s).2.requests = s.requests

namespace Task.Unasking

variable {α β : Type}

theorem pure (a : α) : Unasking (Pure.pure a : Task α) :=
  fun _ _ => rfl

theorem throw (e : Error) : Unasking (MonadExcept.throw e : Task α) :=
  fun _ _ => rfl

theorem ofExcept (answer : Except Error α) : Unasking (Work.ofExcept answer : Task α) :=
  fun _ _ => rfl

theorem database : Unasking (Work.database : Task Database) :=
  fun _ _ => rfl

theorem stamp : Task.stamp.Unasking :=
  fun _ _ => rfl

theorem select (statement : Select) : (Task.select statement).Unasking :=
  fun _ _ => rfl

theorem write (w : Write) : (Task.write w).Unasking :=
  fun _ _ => rfl

theorem announce (m : Model) (event : LifecycleEvent) (payload : Value) :
    (Task.announce m event payload).Unasking := by
  intro db s
  unfold Task.announce
  split <;> rfl

theorem bind {work : Task α} {next : α → Task β} (first : work.Unasking)
    (rest : ∀ a, (next a).Unasking) : (work >>= next).Unasking := by
  intro db s
  have before := first db s
  rw [Work.run_bind]
  generalize work db s = outcome at before ⊢
  obtain ⟨answer, s'⟩ := outcome
  cases answer with
  | error e => exact before
  | ok a => exact (rest a db s').trans before

theorem ite {c : Prop} [Decidable c] {work other : Task α} (yes : work.Unasking)
    (no : other.Unasking) : (if c then work else other).Unasking := by
  split
  · exact yes
  · exact no

end Task.Unasking

namespace Model

theorem unasking_checkRules (m : Model) (row : Row) (mode : WriteMode) (validated : Bool) :
    (m.checkRules row mode validated).Unasking :=
  .bind .database fun _ => .ite (.ofExcept _) (.pure _)

theorem unasking_reread (m : Model) (id : Int) (action : String) :
    (m.reread id action).Unasking := by
  refine .bind (.bind (.select _) fun _ => .pure _) fun row => ?_
  cases row with
  | none => exact .throw _
  | some row => exact .pure _

theorem unasking_reading (m : Model) (id : Int) : (m.reading id).Unasking :=
  .bind (m.unasking_reread id _) fun _ => .bind (.announce _ _ _) fun _ => .pure _

/-- Updating a row asks no provider for anything. -/
theorem unasking_updateRow (m : Model) (id : Int) (values : Row) (validated : Bool) :
    (m.updateRow id values validated).Unasking := by
  have writing (values : Row) : (do
      if !values.isEmpty then
        let _ ← Task.update { table := m.table, values, conditions := [(.and, m.keyIs id)] }
      m.reading id : Task Instance).Unasking :=
    .ite (.bind (.bind (.write _) fun _ => .pure _) fun _ => m.unasking_reading id)
      (m.unasking_reading id)
  have stamping : (stampChange values).Unasking :=
    .ite (.pure _) (.bind .stamp fun _ => .pure _)
  refine .bind (m.unasking_checkRules values .update validated) fun _ => ?_
  exact .ite (.bind stamping writing) (.bind (.pure _) writing)

end Model

/-- Writing values into the row of an instance asks no provider for anything. -/
theorem Instance.unasking_writeValues (i : Instance) (values : Row) (validated : Bool) :
    (i.writeValues values validated).Unasking :=
  .bind (.ofExcept _) fun _ => .bind (i.model.unasking_updateRow _ _ _) fun _ => .pure _

/-- A change of the rows changes each in its place. -/
theorem Engine.Rewritten.rowAt?_eq {before after : Engine} {handle : Handle} {table : String}
    {change : Row → Row} (rewritten : before.Rewritten after handle table change) (n : Nat) :
    after.rowAt? handle table n = (before.rowAt? handle table n).map change := by
  unfold Engine.rowAt?
  rw [rewritten.rows]
  cases before.tableOf handle table with
  | error e => rfl
  | ok rows => exact List.getElem?_map ..

namespace Billing

/-- The identifier of the customer that a row keeps: a text that is not empty. -/
def keptCustomer? (row : Row) : Option String :=
  ((row.get? customerColumn).bind Value.asText?).filter fun s => !s.isEmpty

/-- The identifier of the customer that is stored in the row in the place. -/
def stored? (m : Model) (n : Nat) (db : Database) (s : Session) : Option String :=
  (s.engine.rowAt? db.handle m.table n).bind keptCustomer?

/-- The instance is in step with the row in the place: it carries the key of the row, which no other
row shows queries, and the customer that it holds is the one in the row. -/
structure InStep (m : Model) (key : Int) (n : Nat) (db : Database) (state : Instance × Session) :
    Prop where
  model : state.1.model = m
  keyed : state.1.id? = some key
  placed : ∃ row, state.2.engine.rowAt? db.handle m.table n = some row ∧
    Store.keyOf? m.primaryKey row = some key ∧
    state.1.get? customerColumn = row.get? customerColumn
  distinct : ∀ n' row, n' ≠ n → state.2.engine.rowAt? db.handle m.table n' = some row →
    (row.value m.primaryKey).looseEq (.int key) = false

variable {m : Model} {key : Int} {n : Nat} {db : Database} {i : Instance} {s : Session}

namespace InStep

/-- The instance is the customer that is stored. -/
theorem customerId?_eq {state : Instance × Session} (inStep : InStep m key n db state) :
    customerId? state.1 = stored? m n db state.2 := by
  obtain ⟨row, there, -, same⟩ := inStep.placed
  unfold stored? customerId? Instance.filledText?
  rw [there, same]
  rfl

/-- Requests leave the instance in step. -/
theorem asked (inStep : InStep m key n db (i, s)) (made : List PaymentsRequest) :
    InStep m key n db (i, s.asked made) :=
  ⟨inStep.model, inStep.keyed, inStep.placed, inStep.distinct⟩

/-- An instance of a row as it was loaded is in step with it. -/
theorem ofRow {row : Row} (there : s.engine.rowAt? db.handle m.table n = some row)
    (keyed : Store.keyOf? m.primaryKey row = some key)
    (distinct : ∀ n' row, n' ≠ n → s.engine.rowAt? db.handle m.table n' = some row →
      (row.value m.primaryKey).looseEq (.int key) = false) :
    InStep m key n db (.ofRow m row, s) :=
  ⟨rfl, keyed, ⟨row, there, keyed, rfl⟩, distinct⟩

/-- Under a name without a dot queries find the row in the place under the key, and no other. -/
theorem reads_iff (inStep : InStep m key n db (i, s)) (plain : '.' ∉ m.primaryKey.toList) {n' : Nat}
    {row : Row} (there : s.engine.rowAt? db.handle m.table n' = some row) :
    m.reads key row = true ↔ n' = n := by
  constructor
  · intro has
    rw [Model.reads_plain plain] at has
    refine Decidable.of_not_not fun other => ?_
    exact absurd (has.symm.trans (inStep.distinct n' row other there)) (by decide)
  · rintro rfl
    obtain ⟨own, there', keyed, -⟩ := inStep.placed
    cases there.symm.trans there'
    exact Model.reads_of_keyOf? plain keyed

/-- Whether an instance is in step depends on its attributes. -/
theorem of_attributes (inStep : InStep m key n db (i, s)) {j : Instance} (model : j.model = i.model)
    (same : j.attributes = i.attributes) : InStep m key n db (j, s) := by
  obtain ⟨row, there, keyed, shows⟩ := inStep.placed
  have get (name : String) : j.get? name = i.get? name := congrArg (·.get? name) same
  refine ⟨model.trans inStep.model, ?_, ⟨row, there, keyed, (get _).trans shows⟩, inStep.distinct⟩
  unfold Instance.id?
  rw [get, model]
  exact inStep.keyed

variable {values : Row}

/-- Values without the key that are written under it leave each row in its place, and the one in
step under its key. -/
theorem rewritten (inStep : InStep m key n db (i, s)) (plain : '.' ∉ m.primaryKey.toList)
    (keyless : values.get? m.primaryKey = none) {s' : Session}
    (rewritten : s.engine.Rewritten s'.engine db.handle m.table (m.rewrite key values)) :
    ∃ row : Row, s'.engine.rowAt? db.handle m.table n = some (row.merge values) ∧
      InStep m key n db (.ofRow m (row.merge values), s') := by
  obtain ⟨row, there, keyed, -⟩ := inStep.placed
  have after := rewritten.rowAt? there
  rw [Model.rewrite, if_pos (Model.reads_of_keyOf? plain keyed)] at after
  refine ⟨row, after, .ofRow after ?_ ?_⟩
  · rw [Store.keyOf?, Row.get?_merge, keyless, Option.none_or]
    exact keyed
  · intro n' row' other there'
    rw [rewritten.rowAt?_eq] at there'
    obtain ⟨own, before, rfl⟩ := Option.map_eq_some_iff.1 there'
    have misses : m.reads key own = false :=
      Bool.eq_false_iff.2 fun has => other ((inStep.reads_iff plain before).1 has)
    rw [Model.rewrite, misses]
    exact inStep.distinct n' own other before

/-- An update of the key answers the row in the place. -/
theorem updated (inStep : InStep m key n db (i, s)) (plain : '.' ∉ m.primaryKey.toList)
    (keyless : values.get? m.primaryKey = none) {answer : Except Error Instance} {s' : Session}
    (ends : m.RowUpdated key values db s (answer, s')) :
    ∃ row : Row, answer = .ok (.ofRow m (row.merge values)) ∧
      InStep m key n db (.ofRow m (row.merge values), s') := by
  obtain ⟨row, there, after⟩ := inStep.rewritten plain keyless ends.rewritten
  refine ⟨row, ?_, after⟩
  obtain ⟨rows', seen', placed'⟩ := Engine.rowAt?_eq_some.1 there
  have changed := ends.rewritten.rows
  rw [seen'] at changed
  have has : m.reads key (row.merge values) = true := (after.reads_iff plain there).2 rfl
  cases ends with
  | closed closed =>
    rw [closed] at changed
    cases changed
  | lost seen _ lost =>
    rw [seen] at changed
    cases changed
    rw [List.getElem?_map] at placed'
    obtain ⟨own, placed, same⟩ := Option.map_eq_some_iff.1 placed'
    have misses := lost own (List.mem_of_getElem? placed)
    rw [same, has] at misses
    cases misses
  | @found _ other _ seen _ found =>
    rw [seen] at changed
    cases changed
    -- The row that is found again stands in some place, and no place but the one shows the key.
    obtain ⟨n', placed⟩ := List.getElem?_of_mem (List.mem_of_find?_eq_some found)
    have there' : s'.engine.rowAt? db.handle m.table n' = some other :=
      Engine.rowAt?_eq_some.2 ⟨_, seen', placed⟩
    cases (after.reads_iff plain there').1 (List.find?_some found)
    cases there.symm.trans there'
    rfl

end InStep

/-- What is known of an entity whose instances can be billed, and whose primary key is written
without a dot. -/
structure Chargeable (m : Model) : Prop where
  billable : m.traits.billable = true
  plain : '.' ∉ m.primaryKey.toList
  column : m.hasColumn customerColumn = true
  apart : m.primaryKey ≠ customerColumn
  unstamped : m.traits.timestamps = true → m.primaryKey ≠ "updated_at"

theorem chargeable_of_compile {schema : Schema} {resolver : RelationResolver}
    (compiled : schema.compile resolver = .ok m) (billable : m.traits.billable = true)
    (plain : '.' ∉ m.primaryKey.toList) : Chargeable m := by
  have compiles := Schema.compile_eq_ok compiled
  have on := billable
  rw [compiles.traits] at on
  refine ⟨billable, plain, ?_, ?_, compiles.key_ne_updated⟩
  · obtain ⟨all, -⟩ := Schema.columns_eq_ok compiles.columns
    unfold Model.hasColumn
    simp [all, Schema.allColumns, Schema.columnIf, on, customerColumn]
  · exact compiles.key_ne (by simp [Schema.allColumns, Schema.columnIf, on, customerColumn])

/-- Keeping an identifier, or none, succeeds, leaves the instance in step, and makes no request. -/
theorem InStep.exists_storeColumn (chargeable : Chargeable m) (inStep : InStep m key n db (i, s))
    (value : Value) : ∃ j s', Instance.storeColumn customerColumn value db (i, s) = (.ok (), (j, s')) ∧
      InStep m key n db (j, s') ∧ j.get? customerColumn = some value ∧ s'.requests = s.requests := by
  obtain rfl : i.model = m := inStep.model
  let values := i.model.filterColumns (Row.empty.insert customerColumn value)
  let stamped := i.model.stamped s values
  have carried (name : String) :
      values.get? name = if name = customerColumn then some value else none := by
    have known : i.model.hasColumn customerColumn = true := chargeable.column
    change Row.get? (Row.filter _ _) name = _
    rw [Row.get?_filter, Row.get?_insert, Row.get?_empty]
    split
    · next same => rw [same, Option.filter_some, known, if_pos rfl]
    · rfl
  have written (name : String) (unstamped : i.model.traits.timestamps = true → name ≠ "updated_at") :
      stamped.get? name = if name = customerColumn then some value else none :=
    (i.model.get?_stamped s values unstamped).trans (carried name)
  have keyless : stamped.get? i.model.primaryKey = none := by
    rw [written _ chargeable.unstamped, if_neg chargeable.apart]
  have ends : i.model.RowUpdated key stamped db s (i.model.updateRow key values false db s) :=
    Model.rowUpdated_updateRow (by rw [Model.run_checkRules]; rfl)
  have silent := i.unasking_writeValues values false db s
  generalize updated : i.model.updateRow key values false db s = outcome at ends
  obtain ⟨answer, s'⟩ := outcome
  obtain ⟨row, rfl, after⟩ := inStep.updated chargeable.plain keyless ends
  have ran : i.writeValues values false db s =
      (.ok (i.synchronised (row.merge stamped) values), s') := by
    unfold Instance.writeValues Instance.requireId
    rw [Work.run_bind, show i.id? = some key from inStep.keyed]
    dsimp only [Work.run_ofExcept]
    rw [Work.run_bind, updated]
    rfl
  rw [ran] at silent
  refine ⟨i.synchronised (row.merge stamped) values, s', ?_, after.of_attributes rfl rfl, ?_, silent⟩
  · have forced : i.forceUpdate (Row.empty.insert customerColumn value) db s = _ := ran
    unfold Instance.storeColumn
    rw [Work.run_bind, run_current]
    dsimp only
    rw [Work.run_bind, run_ofTask, forced]
    rfl
  · change Row.get? (row.merge stamped) customerColumn = some value
    rw [Row.get?_merge, written _ fun _ => by decide, if_pos rfl, Option.some_or]

end Billing

end EntityStore
