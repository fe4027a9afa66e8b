import EntityStore.Naming
import Mathlib.Data.List.Basic

/-!
# Names that follow from entity names

The words of a name hold letters and numbers only, and small letters have no marks of punctuation
among them (`Text.not_mem_snakeCase`), so the column that points at an entity is written without a
dot, whatever the entity is called (`Naming.foreignKey_undotted`). Both sides of a link find one
pivot table (`Naming.pivotTable_comm`).
-/

namespace EntityStore

namespace Text

theorem mem_intercalate {α : Type} {mark : List α} {parts : List (List α)} {a : α}
    (mem : a ∈ List.intercalate mark parts) : a ∈ mark ∨ ∃ part ∈ parts, a ∈ part := by
  induction parts with
  | nil => cases mem
  | cons first rest ih =>
    cases rest with
    | nil =>
      have here : a ∈ first := by simpa [List.intercalate] using mem
      exact Or.inr ⟨first, List.mem_cons_self, here⟩
    | cons second rest =>
      have joined : List.intercalate mark (first :: second :: rest) =
          first ++ (mark ++ List.intercalate mark (second :: rest)) := rfl
      rw [joined, List.mem_append, List.mem_append] at mem
      rcases mem with here | between | later
      · exact Or.inr ⟨first, List.mem_cons_self, here⟩
      · exact Or.inl between
      · rcases ih later with between | ⟨part, there, inside⟩
        · exact Or.inl between
        · exact Or.inr ⟨part, List.mem_cons_of_mem _ there, inside⟩

/-- The runs hold only characters that are kept. -/
theorem kept_of_mem_runsOf {keep : Char → Bool} {run cs part : List Char}
    (kept : ∀ c ∈ run, keep c = true) (mem : part ∈ runsOf keep run cs) :
    ∀ c ∈ part, keep c = true := by
  induction cs generalizing run with
  | nil =>
    unfold runsOf at mem
    split at mem
    · cases mem
    · rwa [List.mem_singleton.1 mem]
  | cons first rest ih =>
    unfold runsOf at mem
    split at mem
    · next taken =>
      refine ih ?_ mem
      intro c there
      rcases List.mem_append.1 there with before | here
      · exact kept c before
      · rwa [List.mem_singleton.1 here]
    · split at mem
      · exact ih (fun _ none => absurd none List.not_mem_nil) mem
      · rcases List.mem_cons.1 mem with rfl | mem
        · exact kept
        · exact ih (fun _ none => absurd none List.not_mem_nil) mem

/-- Cutting a run into words adds no character. -/
theorem mem_of_mem_cutWords {run : LetterRun} {word cs part : List Char} {c : Char}
    (mem : part ∈ cutWords run word cs) (inside : c ∈ part) : c ∈ word ∨ c ∈ cs := by
  induction run, word, cs using cutWords.induct with
  | case1 run word => cases mem
  | case2 run word first =>
    rw [cutWords, List.mem_singleton] at mem
    rw [mem] at inside
    exact List.mem_append.1 inside
  | case3 run word first next rest falls ih =>
    rw [cutWords, if_pos falls] at mem
    rcases List.mem_cons.1 mem with rfl | mem
    · rcases List.mem_append.1 inside with before | here
      · exact Or.inl before
      · exact Or.inr (List.mem_cons.2 (Or.inl (List.mem_singleton.1 here)))
    · rcases ih mem with none | later
      · cases none
      · exact Or.inr (List.mem_cons_of_mem _ later)
  | case4 run word first next rest stays rises ih =>
    rw [cutWords, if_neg stays, if_pos rises] at mem
    rcases List.mem_cons.1 mem with rfl | mem
    · exact Or.inl inside
    · rcases ih mem with here | later
      · exact Or.inr (List.mem_cons.2 (Or.inl (List.mem_singleton.1 here)))
      · exact Or.inr (List.mem_cons_of_mem _ later)
  | case5 run word first next rest stays level ih =>
    rw [cutWords, if_neg stays, if_neg level] at mem
    rcases ih mem with before | later
    · rcases List.mem_append.1 before with before | here
      · exact Or.inl before
      · exact Or.inr (List.mem_cons.2 (Or.inl (List.mem_singleton.1 here)))
    · exact Or.inr (List.mem_cons_of_mem _ later)

/-- The least small letter stands behind the character, so no letter becomes it. -/
theorem shifted_ne {n mark : Nat} (low : mark < 97) (other : n ≠ mark) :
    shifted lowerShifts n ≠ mark := by
  have above : ∀ entry ∈ lowerShifts, (97 : Int) ≤ entry.1.first + entry.2 := by decide +kernel
  unfold shifted
  split
  · next run distance found =>
    have held := List.find?_some found
    have bound : (97 : Int) ≤ run.first + distance := above _ (List.mem_of_find?_eq_some found)
    have first : run.first ≤ n := by
      simp only [Run.holds, Bool.and_eq_true, decide_eq_true_eq] at held
      exact held.1.1
    omega
  · exact other

section

variable {mark : Char} (range : 0 < mark.toNat ∧ mark.toNat < 97)

include range

theorem not_mem_lowerChar {c : Char} (other : c ≠ mark) : mark ∉ lowerChar c := by
  unfold lowerChar
  split
  · intro mem
    simp only [List.mem_cons, List.not_mem_nil, or_false] at mem
    rcases mem with rfl | rfl <;> exact absurd range.2 (by decide)
  · intro mem
    have same : Char.ofNat (shifted lowerShifts c.toNat) = mark := (List.mem_singleton.1 mem).symm
    have moved : shifted lowerShifts c.toNat ≠ mark.toNat := by
      apply shifted_ne range.2
      intro here
      exact other (Char.toNat_inj.1 here)
    have point : (Char.ofNat (shifted lowerShifts c.toNat)).toNat = mark.toNat :=
      congrArg Char.toNat same
    unfold Char.ofNat at point
    by_cases valid : (shifted lowerShifts c.toNat).isValidChar
    · rw [dif_pos valid] at point
      exact moved point
    · rw [dif_neg valid] at point
      exact absurd (point ▸ range.1) (by decide)

theorem not_mem_lowerWord {word : List Char} (plain : mark ∉ word) : mark ∉ lowerWord word := by
  induction word using lowerWord.induct with
  | case1 => exact plain
  | case2 =>
    rw [lowerWord]
    intro mem
    rw [List.mem_singleton.1 mem] at range
    exact absurd range.2 (by decide)
  | case3 c rest notFinal ih =>
    rw [lowerWord.eq_3 c rest notFinal]
    intro mem
    rcases List.mem_append.1 mem with here | later
    · exact not_mem_lowerChar range (fun same => plain (same ▸ List.mem_cons_self)) here
    · exact ih (fun there => plain (List.mem_cons_of_mem _ there)) later

/-- A mark that belongs to no word is in no name in small letters. -/
theorem not_mem_snakeCase (outside : isNameLetter mark = false) (joins : mark ≠ '_')
    (name : String) :
    mark ∉ (snakeCase name).toList := by
  unfold snakeCase
  rw [String.toList_ofList]
  intro mem
  rcases mem_intercalate mem with between | ⟨part, there, inside⟩
  · exact joins (List.mem_singleton.1 between)
  · obtain ⟨word, among, rfl⟩ := List.mem_map.1 there
    refine not_mem_lowerWord range ?_ inside
    intro here
    obtain ⟨run, found, cut⟩ := List.mem_flatMap.1 among
    rcases mem_of_mem_cutWords cut here with none | letter
    · cases none
    · have kept := kept_of_mem_runsOf (fun _ none => absurd none List.not_mem_nil) found mark letter
      rw [outside] at kept
      cases kept

end

theorem snakeCase_undotted (name : String) : '.' ∉ (snakeCase name).toList :=
  not_mem_snakeCase (by decide) (by decide +kernel) (by decide) name

end Text

namespace Naming

theorem foreignKey_undotted (entity : String) : '.' ∉ (foreignKey entity).toList := by
  unfold foreignKey
  rw [String.toList_append, List.mem_append, not_or]
  exact ⟨Text.snakeCase_undotted entity, by decide⟩

/-- Both sides of a link find the same pivot table. -/
theorem pivotTable_comm (left right : String) : pivotTable left right = pivotTable right left := by
  unfold pivotTable
  by_cases below : Text.snakeCase left < Text.snakeCase right
  · have notAbove : ¬Text.snakeCase right < Text.snakeCase left := String.lt_asymm below
    rw [if_neg notAbove, if_pos below]
  · by_cases above : Text.snakeCase right < Text.snakeCase left
    · rw [if_pos above, if_neg below]
    · have same : Text.snakeCase left = Text.snakeCase right :=
        String.le_antisymm (String.not_lt.1 above) (String.not_lt.1 below)
      rw [same]

end Naming

end EntityStore
