import EntityStore.Proofs.Handle
import Mathlib.Algebra.Group.Nat.Defs

/-!
# What the terminals of a query run

Every terminal lowers the query to statements on the store behind the handle. Here each of them is
run on a session whose handle is open: fetching and counting answer from the store, and a bulk
change is one update or delete with the scoped conditions of the query, after steps that leave the
store alone.

Relations are loaded by further selections. What selections have and putting work together keeps
(`Task.SelectionProperty`), a query has with all the relations that it loads
(`Task.SelectionProperty.get`), so long as the errors do no harm that end it where a relation is not
declared or names something that is not there.

A count that 64 bits do not hold passes through binary64 and is clamped. Rounding never takes a
magnitude below a power of two that it has reached (`Binary64.pow_le_roundUnits`), so a clamped
count is the greatest integer of 64 bits (`Query.countOf_natCast`).
-/

namespace EntityStore

/-! ### Counts as 64-bit integers -/

namespace Binary64

/-- Rounding to 53 significant bits does not fall below a power of two. -/
theorem pow_le_roundUnits {exponent units : Nat} (h : 2 ^ exponent ≤ units) :
    2 ^ exponent ≤ roundUnits units 1 := by
  have positive : units ≠ 0 := by
    have := Nat.two_pow_pos exponent
    omega
  have lead : 2 ^ units.log2 ≤ units := Nat.log2_self_le positive
  have exponentLe : exponent ≤ units.log2 := (Nat.le_log2 positive).2 h
  have divides : spacing units ∣ 2 ^ units.log2 := by
    unfold spacing precision
    exact Nat.pow_dvd_pow 2 (by omega)
  unfold roundUnits roundTo
  simp only [Nat.div_one, Nat.one_mul]
  generalize spacing units = step at divides
  have kept : 2 ^ units.log2 ≤ units / step * step := by
    obtain ⟨factor, hfactor⟩ := divides
    have stepPositive : 0 < step := by
      rcases Nat.eq_zero_or_pos step with zero | pos
      · rw [zero, Nat.zero_mul] at hfactor
        exact absurd hfactor (Nat.ne_of_gt (Nat.two_pow_pos _))
      · exact pos
    have below : factor ≤ units / step := by
      rw [Nat.le_div_iff_mul_le stepPositive, Nat.mul_comm, ← hfactor]
      exact lead
    calc 2 ^ units.log2 = factor * step := by rw [hfactor, Nat.mul_comm]
      _ ≤ units / step * step := Nat.mul_le_mul_right step below
  have grown : 2 ^ exponent ≤ units / step * step :=
    Nat.le_trans (Nat.pow_le_pow_right (by decide) exponentLe) kept
  split
  · exact Nat.le_trans grown (Nat.mul_le_mul_right step (Nat.le_succ _))
  · exact grown

/-- One is a power of two; which one does not matter. -/
theorem one_eq_pow : ∃ exponent, one = 2 ^ exponent := by
  unfold one
  generalize 1074 = exponent
  exact ⟨exponent, Nat.pow_eq⟩

/-- An integer that 64 bits do not hold is clamped to the greatest one that they do. -/
theorem toInt64_ofInt {n : Nat} (large : 2 ^ 63 ≤ n) : (ofInt n).toInt64 = maxInt64 := by
  obtain ⟨exponent, hone⟩ := one_eq_pow
  have scaled : 2 ^ (63 + exponent) ≤ n * one := by
    rw [Nat.pow_add, hone]
    exact Nat.mul_le_mul_right _ large
  have rounded := pow_le_roundUnits scaled
  have notNegative : decide ((n : Int) < 0) = false := by simp
  unfold ofInt ofRatio
  rw [notNegative, Int.natAbs_natCast]
  generalize roundUnits (n * one) 1 = units at rounded
  unfold ofUnits
  split
  · rfl
  · have positive : units ≠ 0 := by
      have := Nat.two_pow_pos (63 + exponent)
      omega
    rw [if_neg positive]
    unfold toInt64
    simp only [Bool.false_eq_true, if_false, Binary64.units]
    have whole : 2 ^ 63 ≤ units / one := by
      rw [hone, Nat.le_div_iff_mul_le (Nat.two_pow_pos exponent), ← Nat.pow_add]
      exact rounded
    have quotient : Int.tdiv (units : Int) one = ((units / one : Nat) : Int) := by
      rw [Int.ofNat_tdiv]
    rw [quotient]
    unfold maxInt64 minInt64
    omega

end Binary64

namespace Query

/-- A count is answered as far as 64 bits hold it. -/
theorem countOf_natCast (n : Nat) : countOf (.int n) = Min.min (n : Int) maxInt64 := by
  unfold countOf Value.int
  simp only
  split
  · next fits =>
    unfold fitsInt64 at fits
    simp only [Bool.and_eq_true, decide_eq_true_eq] at fits
    omega
  · next large =>
    have beyond : 2 ^ 63 ≤ n := by
      unfold fitsInt64 minInt64 maxInt64 at large
      simp only [Bool.and_eq_true, decide_eq_true_eq] at large
      omega
    rw [Binary64.toInt64_ofInt beyond]
    unfold maxInt64
    omega

end Query

/-! ### Queries with relations only select -/

/-- A property of work on some databases that selections have and that putting work together
keeps. -/
structure Task.SelectionProperty (on : Database → Prop) (P : {α : Type} → Task α → Prop) :
    Prop where
  pure : ∀ {α : Type} (a : α), P (Pure.pure a : Task α)
  select : ∀ statement : Select, P (Task.select statement)
  bind : ∀ {α β : Type} {work : Task α} {next : α → Task β}, P work → (∀ a, P (next a)) →
    P (work >>= next)
  database : ∀ {α : Type} {next : Database → Task α}, (∀ db, on db → P (next db)) →
    P (Work.database >>= next)

/-- Ending in the error is no harm to the property. -/
def Task.Admits (P : {α : Type} → Task α → Prop) (e : Error) : Prop :=
  ∀ α : Type, P (throw e : Task α)

/-- Something that a relation names is not there, in one of some databases; the error says so. -/
inductive Relation.Dangles (relation : Relation) (on : Database → Prop) (e : Error) : Prop where
  | target {db : Database} (here : on db) (missing : db.registry.get relation.targetEntity = .error e)
  | pivot (mechanism : relation.mechanism = .belongsToMany)
    (missing : relation.requirePivot = .error e)
  | through (mechanism : relation.mechanism = .through)
    (missing : relation.requireThrough = .error e)
  | intermediate {db : Database} (here : on db) (mechanism : relation.mechanism = .through)
    {step : Intermediate} (required : relation.requireThrough = .ok step)
    (missing : db.registry.get step.entity = .error e)

/-- A relation of the name is not declared, or something that it names is not there. -/
inductive Model.Dangles (m : Model) (on : Database → Prop) (name : String) (e : Error) : Prop where
  | undeclared (missing : m.relation name = .error e)
  | named {relation : Relation} (declared : m.relation name = .ok relation)
    (missing : relation.Dangles on e)

namespace Task.SelectionProperty

variable {on : Database → Prop} {P : {α : Type} → Task α → Prop} {α β : Type}

/-- Looking something up goes on with what is found, or ends in an error that does no harm. -/
theorem lookUp {answer : Except Error α} {next : α → Task β}
    (admits : ∀ e, answer = .error e → Admits P e) (rest : ∀ a, answer = .ok a → P (next a)) :
    P (Work.ofExcept answer >>= next) := by
  cases answer with
  | error e => exact admits e rfl β
  | ok a => exact rest a rfl

variable (kept : SelectionProperty on P)
include kept

theorem fetch (q : Query) : P q.fetch :=
  kept.bind (kept.select _) fun _ => kept.pure _

theorem fetchFirst (q : Query) : P q.fetchFirst :=
  kept.bind (kept.fetch _) fun _ => kept.pure _

theorem foldlM {step : β → α → Task β} {items : List α}
    (each : ∀ b, ∀ item ∈ items, P (step b item)) (b : β) : P (items.foldlM step b) := by
  induction items generalizing b with
  | nil => exact kept.pure b
  | cons item rest ih =>
    rw [List.foldlM_cons]
    refine kept.bind (each b item List.mem_cons_self) fun b' => ih ?_ b'
    exact fun b item mem => each b item (List.mem_cons_of_mem _ mem)

section Relation

variable {relation : Relation} (admits : ∀ e, relation.Dangles on e → Admits P e)
include admits

theorem targetQuery : P relation.targetQuery := by
  refine kept.database fun db here => lookUp (fun e missing => ?_) fun _ _ => kept.pure _
  exact admits e (.target here missing)

theorem fetchOrdered (keys : List Value) : P (relation.fetchOrdered keys) := by
  unfold Relation.fetchOrdered
  split
  · exact kept.pure _
  · exact kept.bind (kept.targetQuery admits) fun _ => kept.fetch _

/-- A relation is loaded onto its owners by selections, if what it names is there. -/
theorem loadOnto (owners : List Instance) : P (relation.loadOnto owners) := by
  have target := kept.targetQuery admits
  unfold Relation.loadOnto
  cases mechanism : relation.mechanism with
  | belongsTo =>
    change P (relation.loadParents owners)
    unfold Relation.loadParents
    dsimp only
    split
    · exact kept.pure _
    · exact kept.bind target fun _ => kept.bind (kept.fetch _) fun _ => kept.pure _
  | hasMany | hasOne =>
    exact kept.bind (kept.fetchOrdered admits _) fun _ => kept.pure _
  | belongsToMany =>
    change P (relation.loadLinked owners)
    unfold Relation.loadLinked
    refine lookUp (fun e missing => admits e (.pivot mechanism missing)) fun pivot _ => ?_
    refine kept.bind ?_ fun links => ?_
    · unfold Relation.links
      split
      · exact kept.pure _
      · exact kept.bind (kept.select _) fun _ => kept.pure _
    · split
      · exact kept.bind (kept.pure _) fun _ => kept.pure _
      · exact kept.bind target fun _ => kept.bind (kept.fetch _) fun _ => kept.pure _
  | through =>
    change P (relation.loadThrough owners)
    unfold Relation.loadThrough
    refine lookUp (fun e missing => admits e (.through mechanism missing)) fun step required => ?_
    refine kept.bind ?_ fun steps => kept.bind (kept.fetchOrdered admits _) fun _ => kept.pure _
    unfold Relation.steps
    split
    · exact kept.pure _
    · refine kept.database fun db here => lookUp (fun e missing => ?_) fun _ _ => ?_
      · exact admits e (.intermediate here mechanism required missing)
      · exact kept.bind (kept.fetch _) fun _ => kept.pure _

end Relation

section Query

variable {m : Model} {names : List String}

theorem loadRelations (admits : ∀ name ∈ names, ∀ e, m.Dangles on name e → Admits P e)
    (owners : List Instance) : P (m.loadRelations names owners) := by
  refine kept.foldlM (fun owners name mem => ?_) owners
  refine lookUp (fun e missing => admits name mem e (.undeclared missing)) fun relation declared => ?_
  exact kept.loadOnto (fun e missing => admits name mem e (.named declared missing)) owners

/-- A query is run by selections, if the relations that it loads and what they name are there. -/
theorem get {q : Query} (admits : ∀ name ∈ q.loads, ∀ e, q.model.Dangles on name e → Admits P e) :
    P q.get := by
  unfold Query.get
  refine kept.bind (kept.fetch q) fun rows => ?_
  split
  · exact kept.pure _
  · exact kept.loadRelations admits rows

end Query

end Task.SelectionProperty

/-! ### Running a terminal -/

namespace Model

/-- An entity of a table with the given columns and traits; nothing else is declared of it. -/
def bare (name table : String) (columns : List Column) (traits : Traits) : Model :=
  { name, table, columns, traits
    primaryKey := "id"
    attributes := []
    fillable := []
    guarded := []
    hidden := []
    relations := []
    validator := {}
    search := ⟨false, [], [], [], []⟩ }

variable (m : Model) (db : Database) (s : Session)

theorem run_checkRules (row : Row) (mode : WriteMode) (validated : Bool) :
    m.checkRules row mode validated db s =
      (if validated && db.config.validateOnWrite then m.validator.validate row mode else .ok (),
        s) := by
  unfold checkRules
  rw [Work.run_bind]
  simp only [Work.run_database]
  split <;> rfl

/-- The values of a change with the stamp that the entity keeps. -/
def stamped (values : Row) : Row :=
  if m.traits.timestamps then values.insertNew "updated_at" (.text s.clock.text) else values

theorem run_stampChange (values : Row) :
    ∃ s', s'.engine = s.engine ∧
      stampChange values db s = (.ok (values.insertNew "updated_at" (.text s.clock.text)), s') := by
  unfold stampChange Row.insertNew
  split
  · exact ⟨s, rfl, rfl⟩
  · exact ⟨{ s with clock := s.clock.next }, rfl, rfl⟩

end Model

namespace Query

variable {db : Database} {s : Session} {store : Store}

/-- Without relations to load, the rows of the selection are the answer. -/
theorem run_get (q : Query) (unloaded : q.loads = [])
    (opened : s.engine.storeOf db.handle = .ok store) :
    (q.get db s).1 = .ok ((store.select q.statement).map (Instance.ofRow q.model)) := by
  unfold get fetch
  simp only [Work.run_bind, Task.run_select, Engine.select_eq, opened, unloaded, Except.map,
    Work.run_pure]
  split <;> rfl

/-- A count is the number of rows that the selection answers, as far as 64 bits hold it. -/
theorem run_count (q : Query) (whole : q.statement.Whole)
    (opened : s.engine.storeOf db.handle = .ok store) :
    (q.count db s).1 = .ok (Min.min ((store.select q.statement).length : Int) maxInt64) := by
  let statement : Select :=
    { q.statement with
      projection := .aggregate .count none, orderBy := [], limit := some 1, offset := none }
  have ungrouped : q.groupBy = [] := whole.groupBy
  have counted : store.select statement = _ := store.select_count ungrouped rfl
  simp only [statement] at counted
  unfold count aggregate Task.selectFirst
  simp only [ungrouped, List.isEmpty_nil, if_true, Work.run_bind, Task.run_select,
    Engine.select_eq, opened, Except.map, counted]
  rw [store.length_select whole, ← countOf_natCast]
  rfl

/-- A bulk change of allowed values is one update of the table. -/
theorem run_setAll (q : Query) {values : Row} {validated : Bool} (given : values.isEmpty = false)
    (allowed : (q.model.checkRules values .update validated db s).1 = .ok ()) :
    ∃ s', s'.engine = s.engine ∧ q.setAll values validated db s =
      Task.update { table := q.model.table, values := q.model.stamped s values,
                    conditions := q.scopedConditions } db s' := by
  rw [Model.run_checkRules] at allowed
  unfold setAll
  rw [given, if_neg (by decide), Work.run_bind, Model.run_checkRules]
  simp only at allowed
  rw [allowed]
  unfold Model.stamped
  by_cases stamps : q.model.traits.timestamps = true
  · obtain ⟨s', sameEngine, stamped⟩ := Model.run_stampChange db s values
    refine ⟨s', sameEngine, ?_⟩
    simp only [stamps, if_true, Work.run_bind, stamped]
  · refine ⟨s, rfl, ?_⟩
    simp only [stamps, Bool.false_eq_true, if_false, Work.run_bind, Work.run_pure]

/-- A bulk change that sets nothing or breaks a rule leaves the store alone. -/
theorem setAll_refused (q : Query) {values : Row} {validated : Bool}
    (refused : values.isEmpty = true ∨
      ∃ e, (q.model.checkRules values .update validated db s).1 = .error e) :
    (q.setAll values validated db s).2.engine = s.engine := by
  unfold setAll
  rcases refused with none | ⟨e, broken⟩
  · rw [none, if_pos rfl]
    rfl
  · split
    · rfl
    · rw [Model.run_checkRules] at broken
      rw [Work.run_bind, Model.run_checkRules]
      simp only at broken
      rw [broken]

/-- With a trash, a bulk delete is one update that sets the time of the deletion. -/
theorem run_delete_soft (q : Query) (db : Database) (s : Session)
    (soft : q.model.traits.softDeletes = true) :
    ∃ s', s'.engine = s.engine ∧ q.delete db s =
      Task.update { table := q.model.table,
                    values := Row.empty.insert "deleted_at" (.text s.clock.text),
                    conditions := q.scopedConditions } db s' := by
  refine ⟨{ s with clock := s.clock.next }, rfl, ?_⟩
  unfold delete
  rw [soft, if_pos rfl]
  rfl

/-- Without a trash, a bulk delete is one delete. -/
theorem run_delete_hard (q : Query) (hard : q.model.traits.softDeletes = false) :
    q.delete db s =
      Task.delete { table := q.model.table, conditions := q.scopedConditions } db s := by
  unfold delete
  rw [hard, if_neg (by decide)]

end Query

end EntityStore
