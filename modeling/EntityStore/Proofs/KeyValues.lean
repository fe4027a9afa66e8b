import EntityStore.Proofs.Terminals
import EntityStore.Proofs.Traversal
import EntityStore.Relation.Eager
import Mathlib

/-!
# Integers as keys

Integers are compared as binary64 numbers, and rows are handed out by the text of their keys. For
integers of at most 53 bits neither loses anything: the comparison is that of integers
(`Binary64.compare?_ofInt`), and keys that are null or such an integer meet exactly when they are
the same (`Value.IsKey.looseEq_eq_true`, `Value.IsKey.eq_of_keyText?`).
-/

namespace EntityStore

namespace Binary64

/-- The integer has at most 53 significant bits. -/
def IsSmall (n : Int) : Prop :=
  n.natAbs < 2 ^ precision

instance (n : Int) : Decidable (IsSmall n) :=
  inferInstanceAs (Decidable (_ < _))

theorem IsSmall.of_le {m n : Int} (small : IsSmall n) (nonneg : 0 ≤ m) (le : m ≤ n) :
    IsSmall m := by
  unfold IsSmall at small ⊢
  omega

theorem one_pos : 0 < one := by
  obtain ⟨exponent, hone⟩ := one_eq_pow
  rw [hone]
  exact Nat.two_pow_pos exponent

/-- A magnitude of at most 53 bits is not rounded. -/
theorem roundUnits_small {n : Nat} (small : n < 2 ^ precision) :
    roundUnits (n * one) 1 = n * one := by
  obtain ⟨exponent, hone⟩ := one_eq_pow
  have divides : spacing (n * one) ∣ n * one := by
    have step : spacing (n * one) ∣ one := by
      unfold spacing
      rw [hone]
      apply Nat.pow_dvd_pow 2
      rcases Nat.eq_zero_or_pos n with rfl | positive
      · simp [precision]
      · have nonzero : n * 2 ^ exponent ≠ 0 :=
          Nat.mul_ne_zero (by omega) (Nat.ne_of_gt (Nat.two_pow_pos _))
        have below : n * 2 ^ exponent < 2 ^ (precision + exponent) := by
          rw [Nat.pow_add]
          exact Nat.mul_lt_mul_of_pos_right small (Nat.two_pow_pos _)
        have bits := (Nat.log2_lt nonzero).2 below
        omega
    exact Nat.dvd_mul_left_of_dvd step n
  unfold roundUnits roundTo
  simp only [Nat.div_one, Nat.one_mul, Nat.mod_eq_zero_of_dvd divides]
  have positive : 0 < spacing (n * one) := by
    unfold spacing
    exact Nat.two_pow_pos _
  have below : ¬ (spacing (n * one) < 2 * 0 ∨
      2 * 0 = spacing (n * one) ∧ n * one / spacing (n * one) % 2 = 1) := by
    omega
  rw [if_neg below, Nat.div_mul_cancel divides]

/-- A small integer is a binary64 number. -/
theorem ofInt_small {n : Int} (small : IsSmall n) : ofInt n = .finite (n * one) := by
  have finite : ¬ overflowUnits ≤ n.natAbs * one := by
    have bound : 2 ^ precision * one ≤ overflowUnits := by decide +kernel
    have below := Nat.mul_lt_mul_of_pos_right small one_pos
    omega
  unfold ofInt ofRatio ofUnits
  rw [roundUnits_small small, if_neg finite]
  have positive := one_pos
  by_cases zero : n.natAbs * one = 0
  · have none : n = 0 := by
      rcases Nat.mul_eq_zero.1 zero with h | h
      · omega
      · omega
    rw [if_pos zero, none, Int.zero_mul]
    rfl
  · rw [if_neg zero, Int.natCast_mul]
    congr 1
    by_cases negative : n < 0
    · have magnitude : (n.natAbs : Int) = -n := by omega
      simp only [negative, decide_true, if_true]
      rw [magnitude, Int.neg_mul, Int.neg_neg]
    · have magnitude : (n.natAbs : Int) = n := by omega
      simp only [negative, decide_false, Bool.false_eq_true, if_false]
      rw [magnitude]

/-- Whole numbers are compared as integers. -/
theorem compare?_whole (m n : Int) :
    (finite (m * one)).compare? (finite (n * one)) = some (Ord.compare m n) := by
  have positive : 0 < (one : Int) := by
    have := one_pos
    omega
  have less : m * (one : Int) < n * one ↔ m < n := Int.mul_lt_mul_right positive
  have equal : m * (one : Int) = n * one ↔ m = n :=
    Int.mul_eq_mul_right_iff (Int.ne_of_gt positive)
  unfold compare?
  simp only [units]
  unfold Ord.compare instOrdInt compareOfLessAndEq
  simp only [less, equal]

/-- Small integers meet as integers. -/
theorem compare?_ofInt {m n : Int} (hm : IsSmall m) (hn : IsSmall n) :
    (ofInt m).compare? (ofInt n) = some (Ord.compare m n) := by
  rw [ofInt_small hm, ofInt_small hn, compare?_whole]

/-- An integer of more than 53 bits is not rounded into the small ones. -/
theorem ofInt_large {n : Int} (large : ¬IsSmall n) :
    (∃ negative, ofInt n = .infinite negative) ∨
      ∃ units : Int, ofInt n = .finite units ∧ 2 ^ precision * one ≤ units.natAbs := by
  have wide : 2 ^ precision ≤ n.natAbs := Nat.le_of_not_lt large
  have rounded : 2 ^ precision * one ≤ roundUnits (n.natAbs * one) 1 := by
    obtain ⟨exponent, hone⟩ := one_eq_pow
    have reached : 2 ^ (precision + exponent) ≤ n.natAbs * 2 ^ exponent := by
      rw [Nat.pow_add]
      exact Nat.mul_le_mul_right _ wide
    rw [hone, ← Nat.pow_add]
    exact pow_le_roundUnits reached
  have positive : 0 < 2 ^ precision * one := Nat.mul_pos (Nat.two_pow_pos _) one_pos
  unfold ofInt ofRatio
  generalize roundUnits (n.natAbs * one) 1 = magnitude at rounded ⊢
  generalize 2 ^ precision * one = bound at rounded positive ⊢
  unfold ofUnits
  split
  · exact Or.inl ⟨_, rfl⟩
  · right
    rw [if_neg (by omega)]
    refine ⟨_, rfl, ?_⟩
    split <;> omega

end Binary64

namespace Value

/-- The value is null or an integer of at most 53 bits, as the values of keys are. -/
inductive IsKey : Value → Prop
  | null : IsKey .null
  | int {n : Int} : Binary64.IsSmall n → IsKey (.int n)

/-- Whether a value can be one of a key. -/
def isKey : Value → Bool
  | .null => true
  | .number (.int n) => decide (Binary64.IsSmall n)
  | _ => false

theorem isKey_iff (v : Value) : v.isKey = true ↔ v.IsKey := by
  constructor
  · intro h
    match v, h with
    | .null, _ => exact .null
    | .number (.int n), h => exact .int (of_decide_eq_true h)
  · intro h
    cases h with
    | null => rfl
    | int small => exact decide_eq_true small

instance (v : Value) : Decidable v.IsKey :=
  decidable_of_iff _ v.isKey_iff

theorem compare?_number (m n : Number) :
    (Value.number m).compare? (.number n) = m.toFloat.compare? n.toFloat := rfl

theorem compare?_int {m n : Int} (hm : Binary64.IsSmall m) (hn : Binary64.IsSmall n) :
    (Value.int m).compare? (.int n) = some (Ord.compare m n) := by
  unfold Value.int
  rw [compare?_number]
  exact Binary64.compare?_ofInt hm hn

theorem looseEq_int (m n : Int) :
    (Value.int m).looseEq (.int n) =
      ((Binary64.ofInt m).compare? (Binary64.ofInt n) == some .eq) := by
  unfold looseEq Value.int
  rw [compare?_number]
  rfl

/-- An integer of at most 53 bits is loosely equal to no other integer. -/
theorem looseEq_int_small {m n : Int} (small : Binary64.IsSmall m) :
    (Value.int m).looseEq (.int n) = decide (m = n) := by
  rw [looseEq_int]
  by_cases smallToo : Binary64.IsSmall n
  · rw [Binary64.compare?_ofInt small smallToo]
    by_cases same : m = n
    · simp [same]
    · have apart : Ord.compare m n ≠ .eq := fun h => same (compare_eq_iff_eq.1 h)
      simp [same, apart]
  · have different : m ≠ n := fun same => smallToo (same ▸ small)
    have below : (m * Binary64.one).natAbs < 2 ^ Binary64.precision * Binary64.one := by
      rw [Int.natAbs_mul, Int.natAbs_natCast]
      exact Nat.mul_lt_mul_of_pos_right small Binary64.one_pos
    rw [Binary64.ofInt_small small, decide_eq_false different]
    have large := Binary64.ofInt_large smallToo
    generalize 2 ^ Binary64.precision * Binary64.one = bound at below large
    generalize m * (Binary64.one : Int) = value at below ⊢
    rcases large with ⟨negative, infinite⟩ | ⟨units, finite, above⟩
    · rw [infinite]
      cases negative <;> rfl
    · rw [finite]
      have apart : Ord.compare value units ≠ .eq := fun h => by
        have := compare_eq_iff_eq.1 h
        omega
      change (some (Ord.compare value units) == some .eq) = false
      simp [apart]

/-- Every integer is loosely equal to itself. -/
theorem looseEq_int_self (n : Int) : (Value.int n).looseEq (.int n) = true := by
  rw [looseEq_int]
  by_cases small : Binary64.IsSmall n
  · rw [Binary64.compare?_ofInt small small, compare_eq_iff_eq.2 rfl]
    rfl
  · rcases Binary64.ofInt_large small with ⟨negative, infinite⟩ | ⟨units, finite, -⟩
    · rw [infinite]
      cases negative <;> rfl
    · rw [finite]
      change (some (Ord.compare units units) == some .eq) = true
      rw [compare_eq_iff_eq.2 rfl]
      rfl

/-- Texts meet as texts. -/
theorem looseEq_text (a b : String) : (Value.text a).looseEq (.text b) = decide (a = b) := by
  change (some (Ord.compare a b) == some .eq) = _
  by_cases same : a = b
  · simp [same]
  · have apart : Ord.compare a b ≠ .eq := fun h => same (compare_eq_iff_eq.1 h)
    simp [same, apart]

/-- The place of a value in sorted answers, by what it holds: null comes last. -/
def place {α : Type} (content : Value → α) (v : Value) : WithTop α :=
  if v.isNull then ⊤ else (content v : WithTop α)

/-- Where values are compared by what they hold, they are ordered by their places. -/
theorem order_eq_place {α : Type} [LinearOrder α] {content : Value → α} {v w : Value}
    (compared : v ≠ .null → w ≠ .null →
      v.compare? w = some (compare (content v) (content w))) :
    v.order w = compare (v.place content) (w.place content) := by
  have coe_compare : ∀ x y : α, compare (x : WithTop α) y = compare x y := by
    intro x y
    rcases lt_trichotomy x y with less | same | more
    · rw [compare_lt_iff_lt.2 less, compare_lt_iff_lt.2 (WithTop.coe_lt_coe.2 less)]
    · rw [compare_eq_iff_eq.2 same, compare_eq_iff_eq.2 (congrArg _ same)]
    · rw [compare_gt_iff_gt.2 more, compare_gt_iff_gt.2 (WithTop.coe_lt_coe.2 more)]
  unfold order place
  cases hv : v.isNull <;> cases hw : w.isNull
  · have present : ∀ u : Value, u.isNull = false → u ≠ .null := by
      rintro u hu rfl
      cases hu
    rw [compared (present v hv) (present w hw)]
    exact (coe_compare _ _).symm
  · exact (compare_lt_iff_lt.2 (WithTop.coe_lt_top _)).symm
  · exact (compare_gt_iff_gt.2 (WithTop.coe_lt_top _)).symm
  · exact (compare_eq_iff_eq.2 rfl).symm

/-- The integer that a value is, 0 for any other one. -/
def integer : Value → Int
  | .number (.int n) => n
  | _ => 0

/-- The place of a key in sorted answers: integers ascend and null comes last. -/
def keyRank : Value → WithTop Int
  | .number (.int n) => n
  | _ => ⊤

namespace IsKey

variable {v w : Value}

/-- Keys compare as equal exactly when they are the same and not null. -/
theorem looseEq_eq_true (hv : v.IsKey) (hw : w.IsKey) :
    v.looseEq w = true ↔ v ≠ .null ∧ v = w := by
  cases hv with
  | null => simp [null_looseEq]
  | int hm =>
    cases hw with
    | null => simp [looseEq_null, Value.int]
    | int hn =>
      unfold looseEq
      rw [compare?_int hm hn]
      simp [Value.int]

theorem keyRank_eq (hv : v.IsKey) : v.keyRank = v.place integer := by
  cases hv <;> rfl

/-- Sorting by keys is sorting by their ranks. -/
theorem order_eq (hv : v.IsKey) (hw : w.IsKey) : v.order w = compare v.keyRank w.keyRank := by
  rw [hv.keyRank_eq, hw.keyRank_eq]
  apply order_eq_place
  intro presentV presentW
  cases hv with
  | null => exact absurd rfl presentV
  | int hm =>
    cases hw with
    | null => exact absurd rfl presentW
    | int hn => exact compare?_int hm hn

/-- Keys of one text are the same key. -/
theorem eq_of_keyText? (hv : v.IsKey) (hw : w.IsKey) {text : String}
    (ofV : v.keyText? = some text) (ofW : w.keyText? = some text) : v = w := by
  cases hv with
  | null => cases ofV
  | @int m _ =>
    cases hw with
    | null => cases ofW
    | @int n _ =>
      have same : toString m = toString n := Option.some.inj (ofV.trans ofW.symm)
      rw [Int.toString_eq_repr, Int.toString_eq_repr, Int.repr_inj] at same
      rw [same]

/-- Keys meet exactly when they have one text. -/
theorem looseEq_iff_keyText? (hv : v.IsKey) (hw : w.IsKey) {text : String}
    (labelled : w.keyText? = some text) : v.looseEq w = true ↔ v.keyText? = some text := by
  rw [hv.looseEq_eq_true hw]
  constructor
  · rintro ⟨-, same⟩
    rw [same, labelled]
  · intro sameText
    refine ⟨fun null => ?_, hv.eq_of_keyText? hw sameText labelled⟩
    rw [null] at sameText
    cases sameText

end IsKey

/-- Only null has no text as a key. -/
theorem keyText?_eq_none (v : Value) : v.keyText? = none ↔ v = .null := by
  cases v <;> simp [keyText?]

theorem exists_keyText? {v : Value} (present : v ≠ .null) : ∃ text, v.keyText? = some text :=
  Option.ne_none_iff_exists'.1 fun none => present (v.keyText?_eq_none.1 none)

end Value

end EntityStore
