import EntityStore.Store.Compare
import Mathlib.Data.List.Forall2

/-!
# Patterns with wildcards

A pattern matches a text if its characters stand, one after the other, for runs that make up the
text (`Wildcard.Matches`). The matcher reads the pattern from the left and keeps, for every beginning
of the text, whether the characters that it has read match that beginning (`Wildcard.Reached`). One
more character leads from one such list to the next (`Wildcard.Reached.step`), and the last entry is
the answer for the whole text. Main result: it finds exactly the texts that match
(`likeMatch_iff`).
-/

namespace EntityStore

namespace Wildcard

/-- A character of a pattern stands for a run of characters. -/
inductive Stands : Char → List Char → Prop
  | many (run : List Char) : Stands '%' run
  | one (d : Char) : Stands '_' [d]
  | itself {c : Char} (notMany : c ≠ '%') (notOne : c ≠ '_') : Stands c [c]

/-- The characters of the pattern stand, in order, for runs that make up the text. -/
def Matches (pattern text : List Char) : Prop :=
  ∃ runs, List.Forall₂ Stands pattern runs ∧ runs.flatten = text

/-- The entry behind the first `i` characters of the text says whether they match the pattern. -/
structure Reached (text pattern : List Char) (reach : List Bool) : Prop where
  length : reach.length = text.length + 1
  entry : ∀ i ≤ text.length, reach[i]? = some true ↔ Matches pattern (text.take i)

variable {pattern text before : List Char} {c : Char}

theorem matches_nil : Matches [] text ↔ text = [] := by
  constructor
  · rintro ⟨runs, stands, rfl⟩
    cases stands
    rfl
  · rintro rfl
    exact ⟨[], .nil, rfl⟩

/-- The last character of a pattern stands for the end of the text. -/
theorem matches_concat : Matches (pattern ++ [c]) text ↔
    ∃ before run, Matches pattern before ∧ Stands c run ∧ before ++ run = text := by
  constructor
  · rintro ⟨runs, stands, rfl⟩
    have flipped : List.Forall₂ (flip Stands) runs (pattern ++ [c]) := .flip stands
    have first := (List.forall₂_take_append _ _ _ flipped).flip
    have last := (List.forall₂_drop_append _ _ _ flipped).flip
    generalize split : runs.drop pattern.length = rest at last
    obtain ⟨run, _, stand, none, rfl⟩ := List.forall₂_cons_left_iff.1 last
    cases none
    refine ⟨(runs.take pattern.length).flatten, run, ⟨_, first, rfl⟩, stand, ?_⟩
    calc (runs.take pattern.length).flatten ++ run
        = (runs.take pattern.length ++ runs.drop pattern.length).flatten := by simp [split]
      _ = runs.flatten := by rw [List.take_append_drop]
  · rintro ⟨_, run, ⟨runs, stands, rfl⟩, stand, rfl⟩
    exact ⟨runs ++ [run], List.rel_append stands (.cons stand .nil), by simp⟩

/-- A character other than the wildcard for a run stands for one character. -/
theorem stands_iff_of_ne (notMany : c ≠ '%') {run : List Char} :
    Stands c run ↔ ∃ d, (c = '_' ∨ c = d) ∧ run = [d] := by
  constructor
  · intro stand
    cases stand with
    | many => exact absurd rfl notMany
    | one d => exact ⟨d, .inl rfl, rfl⟩
    | itself _ notOne => exact ⟨c, .inr rfl, rfl⟩
  · rintro ⟨d, fits, rfl⟩
    by_cases any : c = '_'
    · subst any
      exact .one d
    · obtain rfl : c = d := fits.resolve_left any
      exact .itself notMany any

/-- The wildcard for a run matches behind everything that the pattern in front of it matches. -/
theorem matches_many {i : Nat} (inside : i ≤ text.length) :
    Matches (pattern ++ ['%']) (text.take i) ↔ ∃ j ≤ i, Matches pattern (text.take j) := by
  rw [matches_concat]
  constructor
  · rintro ⟨before, run, matched, -, whole⟩
    have shorter : before.length ≤ i := by
      have := congrArg List.length whole
      simp only [List.length_append, List.length_take] at this
      omega
    have start : before = text.take before.length := by
      have := congrArg (List.take before.length) whole
      rwa [List.take_left, List.take_take, Nat.min_eq_left shorter] at this
    exact ⟨before.length, shorter, start ▸ matched⟩
  · rintro ⟨j, le, matched⟩
    refine ⟨text.take j, (text.take i).drop j, matched, .many _, ?_⟩
    rw [← Nat.min_eq_left le, ← List.take_take, Nat.min_eq_left le, List.take_append_drop]

/-- Any other character matches one character behind what the pattern in front of it matches. -/
theorem matches_single (notMany : c ≠ '%') {i : Nat} {d : Char} (here : text[i]? = some d) :
    Matches (pattern ++ [c]) (text.take (i + 1)) ↔
      Matches pattern (text.take i) ∧ (c = '_' ∨ c = d) := by
  have cut : text.take (i + 1) = text.take i ++ [d] := by
    rw [List.take_add_one, here]
    rfl
  rw [matches_concat, cut]
  constructor
  · rintro ⟨before, run, matched, stand, whole⟩
    obtain ⟨e, fits, rfl⟩ := (stands_iff_of_ne notMany).1 stand
    obtain ⟨rfl, same⟩ := List.append_inj' whole rfl
    cases same
    exact ⟨matched, fits⟩
  · rintro ⟨matched, fits⟩
    exact ⟨text.take i, [d], matched, (stands_iff_of_ne notMany).2 ⟨d, fits, rfl⟩, rfl⟩

theorem not_matches_single_nil (notMany : c ≠ '%') : ¬ Matches (pattern ++ [c]) [] := by
  rw [matches_concat]
  rintro ⟨before, run, -, stand, whole⟩
  obtain ⟨d, -, rfl⟩ := (stands_iff_of_ne notMany).1 stand
  exact absurd whole (by simp)

/-- An entry of a running disjunction is true if it or one before it was. -/
theorem runningOr_eq_true (bs : List Bool) (seen : Bool) (i : Nat) :
    (runningOr seen bs)[i]? = some true ↔
      i < bs.length ∧ (seen = true ∨ ∃ j ≤ i, bs[j]? = some true) := by
  induction bs generalizing seen i with
  | nil => simp [runningOr]
  | cons b rest ih =>
    cases i with
    | zero => simp [runningOr]
    | succ i =>
      have split : (∃ j ≤ i + 1, (b :: rest)[j]? = some true) ↔
          b = true ∨ ∃ j ≤ i, rest[j]? = some true := by
        constructor
        · rintro ⟨j, le, found⟩
          cases j with
          | zero => exact .inl (Option.some.inj found)
          | succ j => exact .inr ⟨j, by omega, found⟩
        · rintro (here | ⟨j, le, found⟩)
          · exact ⟨0, by omega, congrArg some here⟩
          · exact ⟨j + 1, by omega, found⟩
      rw [runningOr, List.getElem?_cons_succ, ih, split, Bool.or_eq_true, List.length_cons,
        or_assoc]
      exact and_congr_left fun _ => Nat.succ_lt_succ_iff.symm

theorem length_runningOr (seen : Bool) (bs : List Bool) :
    (runningOr seen bs).length = bs.length := by
  induction bs generalizing seen with
  | nil => rfl
  | cons b rest ih => rw [runningOr, List.length_cons, List.length_cons, ih]

namespace Reached

variable {reach : List Bool}

/-- Before a character is read, the pattern matches the empty beginning only. -/
theorem start (text : List Char) :
    Reached text [] (true :: List.replicate text.length false) where
  length := by simp
  entry i inside := by
    rw [matches_nil]
    cases i with
    | zero => simp
    | succ i =>
      have nonempty : text.take (i + 1) ≠ [] := by
        intro none
        have := congrArg List.length none
        simp only [List.length_take, List.length_nil] at this
        omega
      simp [nonempty, List.getElem?_replicate]

/-- One more character of the pattern. -/
theorem step (reached : Reached text pattern reach) (c : Char) :
    Reached text (pattern ++ [c]) (likeStep text reach c) := by
  unfold likeStep
  by_cases many : c = '%'
  -- From the first beginning that matched, all do.
  · subst many
    rw [if_pos rfl]
    refine ⟨(length_runningOr _ _).trans reached.length, fun i inside => ?_⟩
    rw [runningOr_eq_true, matches_many inside, reached.length]
    constructor
    · rintro ⟨-, absurd | ⟨j, le, found⟩⟩
      · cases absurd
      · exact ⟨j, le, (reached.entry j (Nat.le_trans le inside)).1 found⟩
    · rintro ⟨j, le, matched⟩
      exact ⟨by omega, .inr ⟨j, le, (reached.entry j (Nat.le_trans le inside)).2 matched⟩⟩
  -- Matches move on by one character, so the empty beginning matches no more.
  · rw [if_neg many]
    refine ⟨by simp [reached.length], fun i inside => ?_⟩
    cases i with
    | zero => simp [not_matches_single_nil many]
    | succ i =>
      obtain ⟨d, here⟩ : ∃ d, text[i]? = some d := ⟨_, List.getElem?_eq_getElem inside⟩
      obtain ⟨r, entry⟩ : ∃ r, reach[i]? = some r :=
        ⟨_, List.getElem?_eq_getElem (by rw [reached.length]; omega)⟩
      rw [matches_single many here, ← reached.entry i (Nat.le_of_succ_le inside),
        List.getElem?_cons_succ, List.getElem?_zipWith, here, entry]
      simp

/-- The characters of a pattern, one after the other. -/
theorem run (reached : Reached text pattern reach) (rest : List Char) :
    Reached text (pattern ++ rest) (rest.foldl (likeStep text) reach) := by
  induction rest generalizing pattern reach with
  | nil => rwa [List.append_nil]
  | cons c rest ih =>
    rw [List.append_cons]
    exact ih (reached.step c)

/-- The last entry is about the whole text. -/
theorem getLast? (reached : Reached text pattern reach) :
    reach.getLast? = some true ↔ Matches pattern text := by
  have last := reached.entry text.length (Nat.le_refl _)
  rwa [List.take_length, ← Nat.add_sub_cancel (n := text.length) (m := 1), ← reached.length,
    ← List.getLast?_eq_getElem?] at last

end Reached

end Wildcard

/-- A text matches a pattern exactly when the characters of the pattern stand, in order, for runs
that make up the text. -/
theorem likeMatch_iff (text pattern : String) :
    likeMatch text pattern = true ↔ Wildcard.Matches pattern.toList text.toList := by
  have reached := (Wildcard.Reached.start text.toList).run pattern.toList
  unfold likeMatch
  rw [beq_iff_eq, reached.getLast?, List.nil_append]

example : likeMatch "GIFT-2024" "%_20%4" = true := by decide +kernel

end EntityStore
