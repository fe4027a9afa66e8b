import EntityStore.Proofs.KeyValues

/-!
# Rounding to 53 significant bits

A whole number of at least 53 bits is a significand of 53 bits, shifted, and a rest
(`Binary64.exists_split`); rounding drops the rest or counts the significand up
(`Binary64.roundUnits_split`). So rounding keeps the order (`Binary64.roundUnits_mono`) and commutes
with shifts, and an integer is rounded to the same number in units of one (`Binary64.ofInt_eq`).
Main result: which integers are rounded together with no other one of 64 bits
(`Binary64.rounded_apart_iff`).
-/

namespace EntityStore

namespace Binary64

/-- The integer rounded to 53 significant bits. -/
def rounded (n : Int) : Int :=
  n.sign * roundUnits n.natAbs 1

/-- A significand of 53 bits, shifted, and a rest: the rest rounds it up or not. -/
theorem roundUnits_split {k q r : Nat} (low : 2 ^ 52 ≤ q) (high : q < 2 ^ 53) (rest : r < 2 ^ k) :
    roundUnits (q * 2 ^ k + r) 1 =
      (if 2 ^ k < 2 * r ∨ 2 * r = 2 ^ k ∧ q % 2 = 1 then q + 1 else q) * 2 ^ k := by
  have positive : 0 < 2 ^ k := Nat.two_pow_pos k
  have bits : (q * 2 ^ k + r).log2 = 52 + k := by
    have above : 2 ^ 52 * 2 ^ k ≤ q * 2 ^ k := Nat.mul_le_mul_right _ low
    have below : (q + 1) * 2 ^ k ≤ 2 ^ 53 * 2 ^ k := Nat.mul_le_mul_right _ high
    have wide : 2 ^ (52 + k + 1) = 2 ^ 53 * 2 ^ k := by rw [← Nat.pow_add]; congr 1; omega
    rw [Nat.add_mul] at below
    refine (Nat.log2_eq_iff (by omega)).2 ⟨?_, ?_⟩
    · rw [Nat.pow_add]
      omega
    · omega
  have step : spacing (q * 2 ^ k + r) = 2 ^ k := by
    unfold spacing precision
    rw [bits, Nat.pow_eq]
    congr 1
    omega
  have whole : (q * 2 ^ k + r) / 2 ^ k = q := by
    rw [Nat.mul_comm, Nat.mul_add_div positive, Nat.div_eq_of_lt rest, Nat.add_zero]
  have part : (q * 2 ^ k + r) % 2 ^ k = r := by
    rw [Nat.mul_comm, Nat.mul_add_mod, Nat.mod_eq_of_lt rest]
  unfold roundUnits roundTo
  simp only [Nat.div_one, Nat.one_mul, step, whole, part]

/-- A number of more than 52 bits is a significand of 53 bits, shifted, and a rest. -/
theorem exists_split {n : Nat} (large : 2 ^ 52 ≤ n) :
    ∃ k q r, 2 ^ 52 ≤ q ∧ q < 2 ^ 53 ∧ r < 2 ^ k ∧ n = q * 2 ^ k + r := by
  have nonzero : n ≠ 0 := by omega
  have bits : 52 ≤ n.log2 := (Nat.le_log2 nonzero).2 large
  obtain ⟨k, hk⟩ := Nat.exists_eq_add_of_le bits
  obtain ⟨low, high⟩ := (Nat.log2_eq_iff nonzero).1 hk
  have positive : 0 < 2 ^ k := Nat.two_pow_pos k
  refine ⟨k, n / 2 ^ k, n % 2 ^ k, ?_, ?_, Nat.mod_lt _ positive, ?_⟩
  · rwa [Nat.le_div_iff_mul_le positive, ← Nat.pow_add]
  · rw [Nat.div_lt_iff_lt_mul positive, ← Nat.pow_add]
    rwa [show 53 + k = 52 + k + 1 by omega]
  · rw [Nat.mul_comm, Nat.div_add_mod]

/-- Rounding goes to one of the two neighbours that 53 bits hold. -/
theorem roundUnits_split_bounds {k q r : Nat} (low : 2 ^ 52 ≤ q) (high : q < 2 ^ 53)
    (rest : r < 2 ^ k) : q * 2 ^ k ≤ roundUnits (q * 2 ^ k + r) 1 ∧
      roundUnits (q * 2 ^ k + r) 1 ≤ (q + 1) * 2 ^ k := by
  rw [roundUnits_split low high rest]
  split
  · exact ⟨Nat.mul_le_mul_right _ (Nat.le_succ q), Nat.le_refl _⟩
  · exact ⟨Nat.le_refl _, Nat.mul_le_mul_right _ (Nat.le_succ q)⟩

/-- A number of at most 53 bits is not rounded. -/
theorem roundUnits_of_lt {n : Nat} (small : n < 2 ^ 53) : roundUnits n 1 = n := by
  have step : spacing n = 1 := by
    have bits : n.log2 < 53 := by
      rcases Nat.eq_zero_or_pos n with rfl | positive
      · decide
      · exact (Nat.log2_lt (Nat.ne_of_gt positive)).2 small
    unfold spacing precision
    rw [show n.log2 + 1 - 53 = 0 by omega]
  unfold roundUnits roundTo
  simp only [Nat.div_one, step, Nat.mul_one, Nat.mod_one]
  rw [if_neg (by omega)]

/-- A significand of 53 bits, or the first of 54 bits, shifted, is not rounded. -/
theorem roundUnits_mul_pow {q : Nat} (low : 2 ^ 52 ≤ q) (high : q ≤ 2 ^ 53) (k : Nat) :
    roundUnits (q * 2 ^ k) 1 = q * 2 ^ k := by
  have exact {q k : Nat} (low : 2 ^ 52 ≤ q) (high : q < 2 ^ 53) :
      roundUnits (q * 2 ^ k) 1 = q * 2 ^ k := by
    have positive : 0 < 2 ^ k := Nat.two_pow_pos k
    have kept := roundUnits_split low high positive
    rwa [Nat.add_zero, if_neg (by omega)] at kept
  rcases Nat.lt_or_eq_of_le high with below | rfl
  · exact exact low below
  · have shifted : 2 ^ 53 * 2 ^ k = 2 ^ 52 * 2 ^ (k + 1) := by omega
    rw [shifted]
    exact exact (Nat.le_refl _) (by decide)

/-- A power of two lies between significands that are shifted by different widths. -/
theorem le_of_shift_lt {q k k' : Nat} (high : q < 2 ^ 53) (less : k < k') :
    (q + 1) * 2 ^ k ≤ 2 ^ 52 * 2 ^ k' := by
  calc (q + 1) * 2 ^ k ≤ 2 ^ 53 * 2 ^ k := Nat.mul_le_mul_right _ high
    _ = 2 ^ 52 * 2 ^ (k + 1) := by omega
    _ ≤ 2 ^ 52 * 2 ^ k' := Nat.mul_le_mul_left _ (Nat.pow_le_pow_right (by decide) less)

/-- Rounding keeps the order. -/
theorem roundUnits_mono {m n : Nat} (le : m ≤ n) : roundUnits m 1 ≤ roundUnits n 1 := by
  by_cases small : m < 2 ^ 53
  · rw [roundUnits_of_lt small]
    by_cases smallToo : n < 2 ^ 53
    · rwa [roundUnits_of_lt smallToo]
    · have reached := pow_le_roundUnits (Nat.le_of_not_lt smallToo)
      omega
  · obtain ⟨k, q, r, low, high, rest, rfl⟩ := exists_split (n := m) (by omega)
    obtain ⟨k', q', r', low', high', rest', rfl⟩ := exists_split (n := n) (by omega)
    obtain ⟨-, atMost⟩ := roundUnits_split_bounds low high rest
    obtain ⟨atLeast, -⟩ := roundUnits_split_bounds low' high' rest'
    have above : 2 ^ 52 * 2 ^ k ≤ q * 2 ^ k := Nat.mul_le_mul_right _ low
    have above' : 2 ^ 52 * 2 ^ k' ≤ q' * 2 ^ k' := Nat.mul_le_mul_right _ low'
    rcases Nat.lt_trichotomy k k' with less | rfl | more
    · have between := le_of_shift_lt high less
      omega
    · rcases Nat.lt_trichotomy q q' with less | rfl | more
      · have next : (q + 1) * 2 ^ k ≤ q' * 2 ^ k := Nat.mul_le_mul_right _ less
        omega
      · rw [roundUnits_split low high rest, roundUnits_split low high rest']
        refine Nat.mul_le_mul_right _ ?_
        split <;> split <;> omega
      · have next : (q' + 1) * 2 ^ k ≤ q * 2 ^ k := Nat.mul_le_mul_right _ more
        rw [Nat.add_mul] at next
        omega
    · have between := le_of_shift_lt high' more
      rw [Nat.add_mul] at between
      omega

/-- Rounding commutes with shifts of a number of more than 52 bits. -/
theorem roundUnits_shift {n : Nat} (large : 2 ^ 52 ≤ n) (j : Nat) :
    roundUnits (n * 2 ^ j) 1 = roundUnits n 1 * 2 ^ j := by
  obtain ⟨k, q, r, low, high, rest, rfl⟩ := exists_split large
  have positive : 0 < 2 ^ j := Nat.two_pow_pos j
  have shifted : (q * 2 ^ k + r) * 2 ^ j = q * 2 ^ (k + j) + r * 2 ^ j := by
    rw [Nat.add_mul, Nat.mul_assoc, ← Nat.pow_add]
  have rest' : r * 2 ^ j < 2 ^ (k + j) := by
    rw [Nat.pow_add]
    exact Nat.mul_lt_mul_of_pos_right rest positive
  have above : 2 ^ (k + j) < 2 * (r * 2 ^ j) ↔ 2 ^ k < 2 * r := by
    rw [Nat.pow_add, ← Nat.mul_assoc]
    exact Nat.mul_lt_mul_right positive
  have tie : 2 * (r * 2 ^ j) = 2 ^ (k + j) ↔ 2 * r = 2 ^ k := by
    rw [Nat.pow_add, ← Nat.mul_assoc]
    exact Nat.mul_right_cancel_iff positive
  rw [shifted, roundUnits_split low high rest, roundUnits_split low high rest', Nat.mul_assoc,
    ← Nat.pow_add]
  simp only [above, tie]

/-- Rounding in units of one is rounding in the smallest units. -/
theorem roundUnits_mul_one (n : Nat) : roundUnits (n * one) 1 = roundUnits n 1 * one := by
  by_cases small : n < 2 ^ 53
  · rw [roundUnits_of_lt small]
    exact roundUnits_small small
  · obtain ⟨exponent, hone⟩ := one_eq_pow
    rw [hone]
    exact roundUnits_shift (by omega) exponent

theorem one_le_roundUnits {n : Nat} (positive : 1 ≤ n) : 1 ≤ roundUnits n 1 :=
  @pow_le_roundUnits 0 n positive

/-! ### Integers of 64 bits -/

theorem rounded_of_nonneg {n : Int} (nonneg : 0 ≤ n) : rounded n = roundUnits n.natAbs 1 := by
  unfold rounded
  rcases Int.lt_or_eq_of_le nonneg with positive | rfl
  · rw [Int.sign_eq_one_of_pos positive, Int.one_mul]
  · rfl

theorem rounded_neg (n : Int) : rounded (-n) = -rounded n := by
  unfold rounded
  rw [Int.sign_neg, Int.natAbs_neg, Int.neg_mul]

theorem natAbs_rounded (n : Int) : (rounded n).natAbs = roundUnits n.natAbs 1 := by
  rcases Int.le_total 0 n with nonneg | nonpos
  · rw [rounded_of_nonneg nonneg, Int.natAbs_natCast]
  · rw [← Int.natAbs_neg, ← rounded_neg, rounded_of_nonneg (by omega), Int.natAbs_natCast,
      Int.natAbs_neg]

theorem rounded_mono {m n : Int} (le : m ≤ n) : rounded m ≤ rounded n := by
  have ofNonneg {m n : Int} (nonneg : 0 ≤ m) (le : m ≤ n) : rounded m ≤ rounded n := by
    rw [rounded_of_nonneg nonneg, rounded_of_nonneg (nonneg.trans le)]
    exact Int.ofNat_le.2 (roundUnits_mono (by omega))
  rcases Int.le_total 0 m with nonneg | nonpos
  · exact ofNonneg nonneg le
  · rcases Int.le_total 0 n with nonneg' | nonpos'
    · have below : 0 ≤ rounded (-m) := by
        rw [rounded_of_nonneg (by omega)]
        exact Int.natCast_nonneg _
      have above : 0 ≤ rounded n := by
        rw [rounded_of_nonneg nonneg']
        exact Int.natCast_nonneg _
      rw [rounded_neg] at below
      omega
    · have swapped := ofNonneg (m := -n) (n := -m) (by omega) (by omega)
      rw [rounded_neg, rounded_neg] at swapped
      omega

/-- An integer of 64 bits, with or without a sign. -/
def Fits64 (n : Int) : Prop :=
  fitsInt64 n = true ∨ fitsUInt64 n = true

instance (n : Int) : Decidable (Fits64 n) :=
  inferInstanceAs (Decidable (_ ∨ _))

theorem fits64_iff (n : Int) : Fits64 n ↔ -2 ^ 63 ≤ n ∧ n < 2 ^ 64 := by
  unfold Fits64 fitsInt64 fitsUInt64 minInt64 maxInt64 maxUInt64
  simp only [Bool.and_eq_true, decide_eq_true_eq]
  omega

/-- An integer of 64 bits as a binary64 number. -/
theorem ofInt_eq {n : Int} (fits : Fits64 n) : ofInt n = .finite (rounded n * one) := by
  rw [fits64_iff] at fits
  have bound : roundUnits n.natAbs 1 ≤ 2 ^ 64 := by
    have top := roundUnits_mul_pow (q := 2 ^ 52) (Nat.le_refl _) (by decide) 12
    calc roundUnits n.natAbs 1 ≤ roundUnits (2 ^ 52 * 2 ^ 12) 1 := roundUnits_mono (by omega)
      _ = 2 ^ 64 := top
  have finite : ¬ overflowUnits ≤ roundUnits n.natAbs 1 * one := by
    have room : 2 ^ 64 * one < overflowUnits := by decide +kernel
    have below := Nat.mul_le_mul_right one bound
    omega
  unfold ofInt ofRatio ofUnits
  rw [roundUnits_mul_one, if_neg finite]
  by_cases zero : n = 0
  · subst zero
    have none : roundUnits (Int.natAbs 0) 1 * one = 0 := by
      rw [Int.natAbs_zero, roundUnits_of_lt (by decide), Nat.zero_mul]
    rw [none, rounded_of_nonneg (Int.le_refl 0), ← Int.natCast_mul, none]
    rfl
  · have reached : 1 ≤ roundUnits n.natAbs 1 := one_le_roundUnits (by omega)
    have nonzero : roundUnits n.natAbs 1 * one ≠ 0 :=
      Nat.mul_ne_zero (by omega) (Nat.ne_of_gt one_pos)
    rw [if_neg nonzero]
    unfold rounded
    by_cases negative : n < 0
    · rw [Int.sign_eq_neg_one_of_neg negative, decide_eq_true negative, if_pos rfl,
        Int.natCast_mul, Int.neg_one_mul, Int.neg_mul]
    · rw [Int.sign_eq_one_of_pos (by omega), decide_eq_false negative, if_neg Bool.false_ne_true,
        Int.natCast_mul, Int.one_mul]

/-- Integers of 64 bits are compared as what they are rounded to. -/
theorem compare?_rounded {m n : Int} (hm : Fits64 m) (hn : Fits64 n) :
    (ofInt m).compare? (ofInt n) = some (Ord.compare (rounded m) (rounded n)) := by
  rw [ofInt_eq hm, ofInt_eq hn, compare?_whole]

/-! ### Integers that are rounded alone -/

/-- No other magnitude is rounded to the same one: it has at most 53 bits, or it is a 54-bit number
between two ties that both go away from it. -/
theorem eq_of_roundUnits_eq {n m : Nat} (alone : n < 2 ^ 53 ∨ n < 2 ^ 54 ∧ n % 4 = 2)
    (same : roundUnits m 1 = roundUnits n 1) : m = n := by
  by_cases small : n < 2 ^ 53
  · rw [roundUnits_of_lt small] at same
    by_cases smallToo : m < 2 ^ 53
    · rwa [roundUnits_of_lt smallToo] at same
    · have reached := pow_le_roundUnits (Nat.le_of_not_lt smallToo)
      omega
  · obtain ⟨below, place⟩ := alone.resolve_left small
    obtain ⟨q, rfl⟩ : ∃ q, n = q * 2 := ⟨n / 2, by omega⟩
    have itself : roundUnits (q * 2) 1 = q * 2 :=
      roundUnits_mul_pow (q := q) (by omega) (by omega) 1
    have above : roundUnits (q * 2 + 1) 1 = (q + 1) * 2 := by
      have tie := roundUnits_split (k := 1) (r := 1) (q := q) (by omega) (by omega) (by decide)
      rwa [if_pos (by omega)] at tie
    have under : roundUnits ((q - 1) * 2 + 1) 1 = (q - 1) * 2 := by
      have tie := roundUnits_split (k := 1) (r := 1) (q := q - 1) (by omega) (by omega) (by decide)
      rwa [if_neg (by omega)] at tie
    rw [itself] at same
    rcases Nat.lt_trichotomy m (q * 2) with less | equal | more
    · have le := roundUnits_mono (m := m) (n := (q - 1) * 2 + 1) (by omega)
      rw [under, same] at le
      omega
    · exact equal
    · have le := roundUnits_mono (m := q * 2 + 1) (n := m) (by omega)
      rw [above, same] at le
      omega

/-- A rest in the lower half is dropped. -/
theorem roundUnits_lower {k q r : Nat} (low : 2 ^ 52 ≤ q) (high : q < 2 ^ 53)
    (lower : 2 * r < 2 ^ k ∨ 2 * r = 2 ^ k ∧ q % 2 = 0) :
    roundUnits (q * 2 ^ k + r) 1 = q * 2 ^ k := by
  have positive : 0 < 2 ^ k := Nat.two_pow_pos k
  rw [roundUnits_split low high (by omega), if_neg (by omega)]

/-- A rest in the upper half counts the significand up. -/
theorem roundUnits_upper {k q r : Nat} (low : 2 ^ 52 ≤ q) (high : q < 2 ^ 53) (rest : r ≤ 2 ^ k)
    (upper : 2 ^ k < 2 * r ∨ 2 * r = 2 ^ k ∧ q % 2 = 1) :
    roundUnits (q * 2 ^ k + r) 1 = (q + 1) * 2 ^ k := by
  rcases Nat.lt_or_eq_of_le rest with less | rfl
  · rw [roundUnits_split low high less, if_pos upper]
  · rw [← Nat.succ_mul]
    exact roundUnits_mul_pow (by omega) high k

/-- Any other magnitude is rounded to the same one as a neighbour. -/
theorem roundUnits_eq_neighbour {n : Nat} (large : 2 ^ 53 ≤ n)
    (shared : ¬(n < 2 ^ 54 ∧ n % 4 = 2)) :
    roundUnits (n - 1) 1 = roundUnits n 1 ∨ roundUnits (n + 1) 1 = roundUnits n 1 := by
  obtain ⟨k, q, r, low, high, rest, rfl⟩ := exists_split (n := n) (by omega)
  have lower := fun r => roundUnits_lower (k := k) (r := r) low high
  have upper := fun r => roundUnits_upper (k := k) (r := r) low high
  -- At least one bit is cut off, and where it is the only one, the number is odd or the significand
  -- even.
  obtain ⟨half, halves, single⟩ :
      ∃ half, 2 ^ k = 2 * half ∧ (half ≤ 1 → q % 2 = 0 ∨ r ≠ 0) := by
    cases k with
    | zero => omega
    | succ k =>
      refine ⟨2 ^ k, Nat.pow_succ', fun single => ?_⟩
      have least : 2 ^ k = 1 := Nat.le_antisymm single (Nat.two_pow_pos k)
      rw [Nat.pow_succ', least] at rest shared
      omega
  have positive : 0 < 2 ^ k := Nat.two_pow_pos k
  rcases Nat.eq_zero_or_pos r with rfl | some
  · right
    rw [Nat.add_assoc, lower 0 (by omega), lower (0 + 1) (by omega)]
  · by_cases dropped : 2 * r < 2 ^ k ∨ 2 * r = 2 ^ k ∧ q % 2 = 0
    · left
      rw [Nat.add_sub_assoc some, lower r dropped, lower (r - 1) (by omega)]
    · by_cases already : 2 ^ k < 2 * (r - 1) ∨ 2 * (r - 1) = 2 ^ k ∧ q % 2 = 1
      · left
        rw [Nat.add_sub_assoc some, upper r (by omega) (by omega), upper (r - 1) (by omega) already]
      · right
        rw [Nat.add_assoc, upper r (by omega) (by omega), upper (r + 1) (by omega) (by omega)]

/-- The integer that is rounded to the same one as a magnitude with the sign of another. -/
theorem exists_rounded_eq {n : Int} {m : Nat} (other : m ≠ n.natAbs)
    (same : roundUnits m 1 = roundUnits n.natAbs 1)
    (room : (m : Int) < 2 ^ 64 ∧ (n < 0 → (m : Int) ≤ 2 ^ 63)) :
    ∃ m, Fits64 m ∧ rounded m = rounded n ∧ m ≠ n := by
  simp only [fits64_iff]
  rcases lt_or_ge n 0 with negative | nonneg
  · refine ⟨-m, by omega, ?_, by omega⟩
    have opposite : rounded (-n) = rounded m := by
      rw [rounded_of_nonneg (by omega), rounded_of_nonneg (Int.natCast_nonneg m), Int.natAbs_neg,
        Int.natAbs_natCast, same]
    rw [rounded_neg, ← opposite, rounded_neg, Int.neg_neg]
  · refine ⟨m, by omega, ?_, by omega⟩
    rw [rounded_of_nonneg (Int.natCast_nonneg m), rounded_of_nonneg nonneg, Int.natAbs_natCast,
      same]

/-- The integers of 64 bits that are rounded together with no other one: those of at most 53 bits,
and of those with 54 bits the even ones with an odd half. -/
theorem rounded_apart_iff {n : Int} (fits : Fits64 n) :
    (∀ m, Fits64 m → rounded m = rounded n → m = n) ↔
      n.natAbs < 2 ^ 53 ∨ n.natAbs < 2 ^ 54 ∧ n % 4 = 2 := by
  have range := (fits64_iff n).1 fits
  have place : n % 4 = 2 ↔ n.natAbs % 4 = 2 := by omega
  rw [place]
  constructor
  · intro apart
    by_contra beyond
    obtain ⟨m, fitsToo, same, other⟩ : ∃ m, Fits64 m ∧ rounded m = rounded n ∧ m ≠ n := by
      -- The last integers of the range share with the one before them.
      by_cases last : n.natAbs = 2 ^ 64 - 1
      · refine exists_rounded_eq (m := 2 ^ 64 - 2) (by omega) ?_ (by omega)
        rw [last]
        decide +kernel
      by_cases first : n = -2 ^ 63
      · refine exists_rounded_eq (m := 2 ^ 63 - 1) (by omega) ?_ (by omega)
        rw [first]
        decide +kernel
      rcases roundUnits_eq_neighbour (n := n.natAbs) (by omega) (by omega) with same | same
      · exact exists_rounded_eq (by omega) same (by omega)
      · exact exists_rounded_eq (by omega) same (by omega)
    exact other (apart m fitsToo same)
  · intro alone m _ same
    have sameSize : m.natAbs = n.natAbs := by
      refine eq_of_roundUnits_eq alone ?_
      rw [← natAbs_rounded, same, natAbs_rounded]
    rcases Int.natAbs_eq_natAbs_iff.1 sameSize with equal | opposite
    · exact equal
    · rw [opposite, rounded_neg] at same
      have none : roundUnits n.natAbs 1 = 0 := by
        rw [← natAbs_rounded]
        omega
      have zero : n = 0 := by
        by_contra nonzero
        have := one_le_roundUnits (n := n.natAbs) (by omega)
        omega
      rw [opposite, zero]
      rfl

end Binary64

end EntityStore
