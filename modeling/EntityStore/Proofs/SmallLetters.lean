import EntityStore.Proofs.DerivedNames
import EntityStore.Query.ColumnName

/-!
# Texts in small letters

ASCII is put into small letters in its place (`Text.lowerAfter_ascii`), and no capital letter of
ASCII is left (`Text.not_isUpper_of_mem_lower`). Characters beyond ASCII may give several, but none of
those that announce a label (`Text.IsMark`).
-/

namespace EntityStore

namespace Text

/-- Only the letters themselves and their capitals are these small letters. -/
theorem shifted_letter {n letter : Nat} (one : letter = 97 ∨ letter = 115) :
    shifted lowerShifts n = letter ↔ n = letter ∨ n + 32 = letter := by
  have apart : ∀ entry ∈ lowerShifts,
      (entry.1.first = 65 ∧ entry.1.last = 90 ∧ entry.2 = 32) ∨ 115 < entry.1.first + entry.2 ∨
        (97 < entry.1.first + entry.2 ∧ entry.1.last + entry.2 < 115) := by
    decide +kernel
  constructor
  · unfold shifted
    split
    · next run distance found =>
      have own := apart _ (List.mem_of_find?_eq_some found)
      have held := List.find?_some found
      simp only [Run.holds, Bool.and_eq_true, decide_eq_true_eq] at held own
      omega
    · exact .inl
  · intro same
    have small : shifted lowerShifts 97 = 97 ∧ shifted lowerShifts 65 = 97 ∧
        shifted lowerShifts 115 = 115 ∧ shifted lowerShifts 83 = 115 := by
      decide +kernel
    rcases one with rfl | rfl <;> rcases same with rfl | same
    · exact small.1
    · obtain rfl : n = 65 := by omega
      exact small.2.1
    · exact small.2.2.1
    · obtain rfl : n = 83 := by omega
      exact small.2.2.2

/-- What holds of the first 128 characters, one by one, holds of every ASCII character. -/
theorem forall_ascii {P : Char → Prop} (each : ∀ n < 128, P (Char.ofNat n)) {c : Char}
    (ascii : c.toNat < 128) : P c := by
  have own := each c.toNat ascii
  rwa [Char.ofNat_toNat] at own

theorem lowerChar_ascii {c : Char} (ascii : c.toNat < 128) : lowerChar c = [c.toLower] := by
  have each : ∀ n < 128, lowerChar (Char.ofNat n) = [(Char.ofNat n).toLower] := by decide +kernel
  exact forall_ascii (P := fun c => lowerChar c = [c.toLower]) each ascii

theorem toLower_of_le {c : Char} (large : 128 ≤ c.toNat) : c.toLower = c := by
  unfold Char.toLower
  split
  · next capital =>
    have bound : c.toNat ≤ 90 := capital.2
    omega
  · rfl

/-- What a label is announced with. -/
def IsMark (x : Char) : Prop :=
  x = ' ' ∨ x = 'a' ∨ x = 's'

theorem IsMark.lt {x : Char} (mark : IsMark x) : x.toNat < 128 := by
  rcases mark with rfl | rfl | rfl <;> decide

/-- No character beyond ASCII has a blank or one of the two letters in its small form. -/
theorem not_mem_lowerChar_of_le {c x : Char} (large : 128 ≤ c.toNat) (mark : IsMark x) :
    x ∉ lowerChar c := by
  rcases mark with rfl | letter
  · refine not_mem_lowerChar (by decide) ?_
    rintro rfl
    exact absurd large (by decide)
  · unfold lowerChar
    split
    · rcases letter with rfl | rfl <;> decide
    · intro mem
      have point := congrArg Char.toNat (List.mem_singleton.1 mem)
      have code : x.toNat = 97 ∨ x.toNat = 115 :=
        letter.imp (congrArg Char.toNat) (congrArg Char.toNat)
      have moved : x.toNat ≠ shifted lowerShifts c.toNat := by
        intro same
        rcases (shifted_letter code).1 same.symm with here | here <;> omega
      unfold Char.ofNat at point
      by_cases valid : (shifted lowerShifts c.toNat).isValidChar
      · rw [dif_pos valid] at point
        exact moved point
      · rw [dif_neg valid] at point
        change x.toNat = 0 at point
        omega

/-- The small form of a character in its place. -/
theorem lowerAfter_cons (before : List Char) (c : Char) (rest : List Char) :
    (c.toNat < 128 ∧ lowerAfter before (c :: rest) = c.toLower :: lowerAfter (c :: before) rest) ∨
      (128 ≤ c.toNat ∧ ∃ first small, (∀ x ∈ first :: small, ¬IsMark x) ∧
        lowerAfter before (c :: rest) = first :: small ++ lowerAfter (c :: before) rest) := by
  rw [lowerAfter]
  by_cases ascii : c.toNat < 128
  · have other : c ≠ 'Σ' := by
      rintro rfl
      exact absurd ascii (by decide)
    rw [if_neg other, lowerChar_ascii ascii]
    exact .inl ⟨ascii, rfl⟩
  · refine .inr ⟨Nat.le_of_not_lt ascii, ?_⟩
    split
    · refine ⟨_, [], fun x mem mark => ?_, rfl⟩
      rw [List.mem_singleton] at mem
      split at mem <;>
      · rw [mem] at mark
        exact absurd mark.lt (by decide)
    · have unmarked : ∀ x ∈ lowerChar c, ¬IsMark x := fun x mem mark =>
        not_mem_lowerChar_of_le (Nat.le_of_not_lt ascii) mark mem
      cases small : lowerChar c with
      | nil =>
        unfold lowerChar at small
        split at small <;> cases small
      | cons first small' => exact ⟨first, small', small ▸ unmarked, rfl⟩

/-- A piece of blanks and the two letters begins the small form of a text where it begins the text,
whatever the case of its letters. -/
theorem isPrefixOf_lowerAfter {piece : List Char} (marks : ∀ x ∈ piece, IsMark x)
    (before cs : List Char) :
    piece.isPrefixOf (lowerAfter before cs) = piece.isPrefixOf (cs.map Char.toLower) := by
  induction piece generalizing before cs with
  | nil => rw [List.isPrefixOf_nil_left, List.isPrefixOf_nil_left]
  | cons x piece ih =>
    rw [List.forall_mem_cons] at marks
    cases cs with
    | nil => rfl
    | cons c rest =>
      rw [List.map_cons, List.isPrefixOf_cons_cons]
      rcases lowerAfter_cons before c rest with ⟨-, small⟩ | ⟨large, first, others, unmarked, small⟩
      · rw [small, List.isPrefixOf_cons_cons, ih marks.2]
      · have different : (x == first) = false := by
          rw [beq_eq_false_iff_ne]
          rintro rfl
          exact unmarked x List.mem_cons_self marks.1
        have different' : (x == c.toLower) = false := by
          rw [beq_eq_false_iff_ne, toLower_of_le large]
          rintro rfl
          exact absurd marks.1.lt (Nat.not_lt.2 large)
        rw [small, List.cons_append, List.isPrefixOf_cons_cons, different, different',
          Bool.false_and, Bool.false_and]

/-- Of ASCII alone, every letter becomes small in its place. -/
theorem lowerAfter_ascii (before : List Char) {cs : List Char} (ascii : ∀ c ∈ cs, c.toNat < 128) :
    lowerAfter before cs = cs.map Char.toLower := by
  induction cs generalizing before with
  | nil => rfl
  | cons c rest ih =>
    rw [List.forall_mem_cons] at ascii
    rcases lowerAfter_cons before c rest with ⟨-, small⟩ | ⟨large, -⟩
    · rw [small, ih _ ascii.2, List.map_cons]
    · exact absurd ascii.1 (Nat.not_lt.2 large)

theorem toNat_toLower_lt {c : Char} (ascii : c.toNat < 128) : c.toLower.toNat < 128 := by
  have each : ∀ n < 128, (Char.ofNat n).toLower.toNat < 128 := by decide +kernel
  exact forall_ascii (P := fun c => c.toLower.toNat < 128) each ascii

theorem utf8Size_ascii {c : Char} (ascii : c.toNat < 128) : c.utf8Size = 1 :=
  Char.utf8Size_eq_one_iff.2 (Nat.le_of_lt_succ ascii)

theorem byteLength_ascii {cs : List Char} (ascii : ∀ c ∈ cs, c.toNat < 128) :
    Naming.byteLength cs = cs.length := by
  induction cs with
  | nil => rfl
  | cons c rest ih =>
    rw [List.forall_mem_cons] at ascii
    change c.utf8Size + Naming.byteLength rest = _
    rw [utf8Size_ascii ascii.1, ih ascii.2, List.length_cons, Nat.add_comm]

theorem not_isUpper_of_mem_lowerChar {c d : Char} (mem : d ∈ lowerChar c) : d.isUpper = false := by
  rw [← Bool.not_eq_true]
  intro capital
  have range : 65 ≤ d.toNat ∧ d.toNat ≤ 90 := of_decide_eq_true capital
  by_cases same : c = d
  · subst same
    have moves : ∀ n < 128, (Char.ofNat n).isUpper = true →
        (Char.ofNat n).toLower ≠ Char.ofNat n := by decide +kernel
    have ascii : c.toNat < 128 := by omega
    rw [lowerChar_ascii ascii, List.mem_singleton] at mem
    exact forall_ascii (P := fun c => c.isUpper = true → c.toLower ≠ c) moves ascii capital mem.symm
  · exact not_mem_lowerChar (by omega) same mem

/-- No capital letter of ASCII is left. -/
theorem not_isUpper_of_mem_lower {text : String} {d : Char} (mem : d ∈ (lower text).toList) :
    d.isUpper = false := by
  rw [lower, String.toList_ofList] at mem
  generalize text.toList = cs, ([] : List Char) = before at mem
  induction cs generalizing before with
  | nil => cases mem
  | cons c rest ih =>
    rw [lowerAfter] at mem
    rcases List.mem_append.1 mem with here | later
    · split at here
      · rw [List.mem_singleton] at here
        split at here <;> rw [here] <;> decide
      · exact not_isUpper_of_mem_lowerChar here
    · exact ih _ later

end Text

end EntityStore
