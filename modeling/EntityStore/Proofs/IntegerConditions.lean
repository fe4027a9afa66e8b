import EntityStore.Proofs.RowUpdates
import EntityStore.Proofs.Rounding

/-!
# Conditions on integers

Conditions compare integers as binary64 numbers, so what they see of an integer is what it is
rounded to (`Value.compare?_fits`). Two integers are compared as integers exactly when they are not
rounded together, and then no write by the one as a key touches a row of the other. Main result:
which integers of 64 bits are compared exactly, with each other and with all others
(`Store.comparesExactly_iff`).
-/

namespace EntityStore

open Binary64 (Fits64 rounded)

theorem Operator.holds_lt (v w : Value) : Operator.lt.holds v w = (v.compare? w == some .lt) := by
  change ((v.compare? w).map Operator.lt.accepts).getD false = _
  cases v.compare? w with
  | none => rfl
  | some o => cases o <;> rfl

/-- Integers of 64 bits meet as what they are rounded to. -/
theorem Value.compare?_fits {a b : Int} (ha : Fits64 a) (hb : Fits64 b) :
    (Value.int a).compare? (.int b) = some (Ord.compare (rounded a) (rounded b)) := by
  unfold Value.int
  rw [compare?_number]
  exact Binary64.compare?_rounded ha hb

/-- The statements of the entity see the key in the row. -/
def Model.SeesKey (m : Model) (key : Int) (row : Row) : Prop :=
  (Scope.ofRow m.table row).lookup m.primaryKey = .int key

instance (m : Model) (key : Int) (row : Row) : Decidable (m.SeesKey key row) :=
  inferInstanceAs (Decidable (_ = _))

namespace Store

/-- Where a column holds the one integer, conditions compare it with the other as integers are
compared, and writes by the other as a key leave the rows of the one as they are. -/
structure ComparesExactly (a b : Int) : Prop where
  equal : ∀ (store : Store) (scope : Scope) (column : String), scope.lookup column = .int a →
    (store.satisfies scope (.compare column .eq (.int b)) = true ↔ a = b)
  less : ∀ (store : Store) (scope : Scope) (column : String), scope.lookup column = .int a →
    (store.satisfies scope (.compare column .lt (.int b)) = true ↔ a < b)
  updates : a ≠ b → ∀ (m : Model) (store : Store) (values row : Row) (place : Nat),
    (store.rows m.table)[place]? = some row → m.SeesKey a row →
      ((store.update (m.updateOf b values)).2.rows m.table)[place]? = some row
  deletes : a ≠ b → ∀ (m : Model) (store : Store),
    ((store.delete (m.deleteOf b)).2.rows m.table).filter (m.SeesKey a) =
      (store.rows m.table).filter (m.SeesKey a)

variable {a b : Int}

/-- An equality of integers holds where they are rounded together. -/
theorem satisfies_eq_iff (ha : Fits64 a) (hb : Fits64 b) (store : Store) {scope : Scope}
    {column : String} (held : scope.lookup column = .int a) :
    store.satisfies scope (.compare column .eq (.int b)) = true ↔ rounded a = rounded b := by
  rw [satisfies, held, Operator.holds_eq, Value.looseEq, Value.compare?_fits ha hb]
  simp

theorem satisfies_lt_iff (ha : Fits64 a) (hb : Fits64 b) (store : Store) {scope : Scope}
    {column : String} (held : scope.lookup column = .int a) :
    store.satisfies scope (.compare column .lt (.int b)) = true ↔ rounded a < rounded b := by
  rw [satisfies, held, Operator.holds_lt, Value.compare?_fits ha hb]
  simp [compare_lt_iff_lt]

/-- The statements on a key leave alone what is not rounded together with it. -/
theorem reads_eq_false (ha : Fits64 a) (hb : Fits64 b) (apart : rounded a ≠ rounded b) {m : Model}
    {row : Row} (seen : m.SeesKey a row) : m.reads b row = false := by
  rw [Model.reads, seen, Value.looseEq, Value.compare?_fits ha hb]
  simp [apart]

/-- Integers that are not rounded together are compared exactly. -/
theorem comparesExactly_of_apart (ha : Fits64 a) (hb : Fits64 b)
    (apart : rounded a = rounded b → a = b) : ComparesExactly a b where
  equal store scope column held := by
    rw [satisfies_eq_iff ha hb store held]
    exact ⟨apart, congrArg rounded⟩
  less store scope column held := by
    rw [satisfies_lt_iff ha hb store held]
    constructor
    · intro below
      by_contra atLeast
      exact absurd (Binary64.rounded_mono (not_lt.1 atLeast)) (not_le.2 below)
    · intro below
      have together := mt apart (ne_of_lt below)
      exact lt_of_le_of_ne (Binary64.rounded_mono below.le) together
  updates different m store values row place there seen := by
    have unread := reads_eq_false ha hb (mt apart different) seen
    rw [m.rows_updateOf, List.getElem?_map, there, Option.map_some, Model.rewrite, unread]
    rfl
  deletes different m store := by
    rw [m.rows_deleteOf, List.filter_filter]
    refine List.filter_congr fun row _ => ?_
    by_cases seen : m.SeesKey a row
    · rw [reads_eq_false ha hb (mt apart different) seen, Bool.not_false, Bool.and_true]
    · rw [decide_eq_false seen, Bool.false_and]

/-- Integers that are rounded together meet any equality, so they are compared exactly only if they
are the same. -/
theorem ComparesExactly.apart (ha : Fits64 a) (hb : Fits64 b) (exact : ComparesExactly a b)
    (together : rounded a = rounded b) : a = b := by
  have held : (Scope.ofRow "" (Row.empty.insert "id" (.int a))).lookup "id" = .int a := by
    rw [Scope.lookup_ofRow _ _ (by decide), Row.value, Row.get?_insert_self]
    rfl
  exact (exact.equal {} _ "id" held).1 ((satisfies_eq_iff ha hb {} held).2 together)

/-- Integers of 64 bits are compared exactly unless they differ and are rounded together. So those
that are compared exactly with all others have at most 53 bits, or 54 and are twice an odd
number. -/
theorem comparesExactly_iff (ha : Fits64 a) (hb : Fits64 b) :
    (ComparesExactly a b ↔ (rounded a = rounded b → a = b)) ∧
      ((∀ c, Fits64 c → ComparesExactly a c) ↔
        a.natAbs < 2 ^ 53 ∨ a.natAbs < 2 ^ 54 ∧ a % 4 = 2) := by
  have pair {c : Int} (hc : Fits64 c) : ComparesExactly a c ↔ (rounded a = rounded c → a = c) :=
    ⟨fun exact => exact.apart ha hc, comparesExactly_of_apart ha hc⟩
  refine ⟨pair hb, ?_⟩
  rw [← Binary64.rounded_apart_iff ha]
  constructor
  · intro all c hc same
    exact ((pair hc).1 (all c hc) same.symm).symm
  · intro alone c hc
    exact (pair hc).2 fun same => (alone c hc same.symm).symm

/-- Twice an odd number of 53 bits is compared exactly, with its neighbours too. -/
theorem comparesExactly_twiceOdd :
    Fits64 9007199254740994 ∧ Fits64 9007199254740993 ∧
      ComparesExactly 9007199254740994 9007199254740993 ∧
      ∀ c, Fits64 c → ComparesExactly 9007199254740994 c := by
  obtain ⟨pair, all⟩ :=
    comparesExactly_iff (a := 9007199254740994) (b := 9007199254740993) (by decide) (by decide)
  exact ⟨by decide, by decide, pair.2 (by decide +kernel), all.2 (by decide)⟩

/-- The first integer of 54 bits and the one behind it are not. -/
theorem not_comparesExactly_successor :
    ¬ ComparesExactly 9007199254740992 9007199254740993 := by
  intro exact
  have same := exact.apart (by decide) (by decide) (by decide +kernel)
  exact absurd same (by decide)

end Store

end EntityStore
