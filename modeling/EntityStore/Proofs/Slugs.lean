import EntityStore.Proofs.SmallLetters

/-!
# Slugs

A slug is built character by character: a letter or digit is put behind what there is, and anything
else becomes a hyphen unless there is one already or nothing to divide. So at every place the slug
holds the runs that have been read, a hyphen between each two, and perhaps one behind the last, which
is cut off in the end (`Naming.slugChars_eq`). The runs are those that a reader of the text would mark
(`Text.MaximalRuns`), and the reading of a slug marks the runs that it was joined of. Main result:
`Naming.slugify_canonical`.
-/

namespace EntityStore

namespace Text

/-! ### Runs -/

/-- The maximal runs of kept characters in a text, in order. Other characters may stand in front of
each run and behind the last one; a run ends at one of them or with the text. -/
inductive MaximalRuns (keep : Char → Bool) : List Char → List (List Char) → Prop
  | none {gap : List Char} (skipped : ∀ c ∈ gap, keep c = false) : MaximalRuns keep gap []
  | next {gap run rest : List Char} {runs : List (List Char)} (skipped : ∀ c ∈ gap, keep c = false)
      (present : run ≠ []) (kept : ∀ c ∈ run, keep c = true) (ends : ∀ c ∈ rest.head?, keep c = false)
      (later : MaximalRuns keep rest runs) : MaximalRuns keep (gap ++ (run ++ rest)) (run :: runs)

variable {keep : Char → Bool} {cs : List Char} {runs : List (List Char)}

namespace MaximalRuns

theorem skip {c : Char} (skipped : keep c = false) (marked : MaximalRuns keep cs runs) :
    MaximalRuns keep (c :: cs) runs := by
  cases marked with
  | none gap => exact .none (List.forall_mem_cons.2 ⟨skipped, gap⟩)
  | next gap present kept ends later =>
    rw [← List.cons_append]
    exact .next (List.forall_mem_cons.2 ⟨skipped, gap⟩) present kept ends later

/-- A run that nothing stands in front of. -/
theorem first {run rest : List Char} (present : run ≠ []) (kept : ∀ c ∈ run, keep c = true)
    (ends : ∀ c ∈ rest.head?, keep c = false) (later : MaximalRuns keep rest runs) :
    MaximalRuns keep (run ++ rest) (run :: runs) := by
  rw [← List.nil_append (run ++ rest)]
  exact .next (List.forall_mem_nil _) present kept ends later

theorem present (marked : MaximalRuns keep cs runs) : ∀ run ∈ runs, run ≠ [] := by
  induction marked with
  | none => exact List.forall_mem_nil _
  | next _ present _ _ _ ih => exact List.forall_mem_cons.2 ⟨present, ih⟩

theorem kept (marked : MaximalRuns keep cs runs) :
    ∀ run ∈ runs, ∀ c ∈ run, keep c = true ∧ c ∈ cs := by
  induction marked with
  | none => exact List.forall_mem_nil _
  | next _ _ kept _ _ ih =>
    refine List.forall_mem_cons.2 ⟨fun c mem => ⟨kept c mem, by simp [mem]⟩, ?_⟩
    intro run among c mem
    obtain ⟨own, later⟩ := ih run among c mem
    exact ⟨own, by simp [later]⟩

end MaximalRuns

/-- Cutting a text finds its maximal runs. -/
theorem maximalRuns_runsOf {run : List Char} (kept : ∀ c ∈ run, keep c = true) (cs : List Char) :
    MaximalRuns keep (run ++ cs) (runsOf keep run cs) := by
  have nothing : ∀ c ∈ ([] : List Char), keep c = true := List.forall_mem_nil _
  induction cs generalizing run with
  | nil =>
    rw [runsOf]
    split
    · next empty =>
      rw [List.isEmpty_iff.1 empty]
      exact .none (List.forall_mem_nil _)
    · next present =>
      refine .first (by simpa using present) kept ?_ (.none ?_) <;> simp
  | cons c rest ih =>
    rw [runsOf]
    split
    · next taken =>
      rw [List.append_cons]
      exact ih (List.forall_mem_append.2 ⟨kept, by simpa using taken⟩)
    · next skipped =>
      have skipped : keep c = false := by simpa using skipped
      have behind : MaximalRuns keep (c :: rest) (runsOf keep [] rest) := .skip skipped (ih nothing)
      split
      · next empty =>
        rw [List.isEmpty_iff.1 empty]
        exact behind
      · next present =>
        exact .first (by simpa using present) kept (by simpa using skipped) behind

/-- A run that was begun is among the runs. -/
theorem runsOf_ne_nil {run : List Char} (present : run ≠ []) (cs : List Char) :
    runsOf keep run cs ≠ [] := by
  induction cs generalizing run with
  | nil => simp [runsOf, present]
  | cons c rest ih =>
    rw [runsOf]
    split
    · exact ih (List.append_ne_nil_of_right_ne_nil _ (List.cons_ne_nil _ _))
    · rw [if_neg (by simp [present])]
      exact List.cons_ne_nil _ _

theorem runsOf_skip {gap : List Char} (skipped : ∀ c ∈ gap, keep c = false) (cs : List Char) :
    runsOf keep [] (gap ++ cs) = runsOf keep [] cs := by
  induction gap with
  | nil => rfl
  | cons c rest ih =>
    rw [List.forall_mem_cons] at skipped
    rw [List.cons_append, runsOf, skipped.1, if_neg Bool.false_ne_true, if_pos List.isEmpty_nil,
      ih skipped.2]

theorem runsOf_keep {part : List Char} (kept : ∀ c ∈ part, keep c = true) (run cs : List Char) :
    runsOf keep run (part ++ cs) = runsOf keep (run ++ part) cs := by
  induction part generalizing run with
  | nil => rw [List.nil_append, List.append_nil]
  | cons c rest ih =>
    rw [List.forall_mem_cons] at kept
    rw [List.cons_append, runsOf, kept.1, if_pos rfl, ih kept.2, ← List.append_cons]

theorem runsOf_end {run : List Char} (present : run ≠ []) (ends : ∀ c ∈ cs.head?, keep c = false) :
    runsOf keep run cs = run :: runsOf keep [] cs := by
  have filled : ¬run.isEmpty = true := by simpa using present
  cases cs with
  | nil => rw [runsOf, runsOf, if_neg filled, if_pos List.isEmpty_nil]
  | cons c rest =>
    have skipped : keep c = false := ends c rfl
    rw [runsOf, runsOf, skipped, if_neg Bool.false_ne_true, if_neg Bool.false_ne_true,
      if_neg filled, if_pos List.isEmpty_nil]

/-- A text has its maximal runs in one way only. -/
theorem MaximalRuns.eq_runsOf (marked : MaximalRuns keep cs runs) : runs = runsOf keep [] cs := by
  induction marked with
  | none skipped =>
    have cut := runsOf_skip skipped []
    rw [List.append_nil] at cut
    rw [cut, runsOf, if_pos List.isEmpty_nil]
  | next skipped present kept ends _ ih =>
    rw [runsOf_skip skipped, runsOf_keep kept, List.nil_append, runsOf_end present ends, ← ih]

end Text

namespace Naming

open Text

/-! ### Building a slug -/

/-- Runs with a hyphen between each two. -/
def hyphenated (runs : List (List Char)) : List Char :=
  List.intercalate ['-'] runs

theorem hyphenated_cons {runs : List (List Char)} (run : List Char) (more : runs ≠ []) :
    hyphenated (run :: runs) = run ++ ['-'] ++ hyphenated runs := by
  obtain ⟨next, rest, rfl⟩ := List.exists_cons_of_ne_nil more
  rw [hyphenated, List.intercalate_cons_cons]
  rfl

theorem hyphenated_append_cons (front run : List Char) (runs : List (List Char)) :
    hyphenated ((front ++ run) :: runs) = front ++ hyphenated (run :: runs) := by
  by_cases more : runs = []
  · subst more
    simp [hyphenated]
  · rw [hyphenated_cons _ more, hyphenated_cons _ more, List.append_assoc, List.append_assoc,
      List.append_assoc]

/-- What stands in front of the run that is being read stays in front of it. -/
theorem hyphenated_runsOf_append {keep : Char → Bool} (front : List Char) {run : List Char}
    (present : run ≠ []) (cs : List Char) :
    hyphenated (runsOf keep (front ++ run) cs) = front ++ hyphenated (runsOf keep run cs) := by
  induction cs generalizing run with
  | nil => simp [runsOf, present, hyphenated]
  | cons c rest ih =>
    rw [runsOf, runsOf]
    split
    · rw [List.append_assoc]
      exact ih (List.append_ne_nil_of_right_ne_nil _ (List.cons_ne_nil _ _))
    · rw [if_neg (by simp [present]), if_neg (by simp [present])]
      exact hyphenated_append_cons front run _

/-- A slug without the hyphens at its end. -/
def trimmed (slug : List Char) : List Char :=
  (slug.reverse.dropWhile (· == '-')).reverse

/-- The last character read is part of the slug. -/
structure Settled (slug : List Char) : Prop where
  present : slug ≠ []
  last : slug.getLast? ≠ some '-'

theorem settled_append (slug : List Char) {c : Char} (letter : isSlugChar c = true) :
    Settled (slug ++ [c]) where
  present := by simp
  last := by
    rw [List.getLast?_concat]
    rintro ⟨⟩
    exact absurd letter (by decide)

theorem trimmed_settled {slug : List Char} (settled : Settled slug) : trimmed slug = slug := by
  have last : slug.reverse.head? ≠ some '-' := by
    rw [List.head?_reverse]
    exact settled.last
  unfold trimmed
  cases back : slug.reverse with
  | nil => exact absurd (List.reverse_eq_nil_iff.1 back) settled.present
  | cons c rest =>
    have other : (c == '-') = false := by
      rw [beq_eq_false_iff_ne]
      rintro rfl
      exact last (by rw [back]; rfl)
    rw [List.dropWhile_cons_of_neg (by simp [other]), ← back, List.reverse_reverse]

theorem trimmed_hyphen {slug : List Char} (settled : Settled slug) :
    trimmed (slug ++ ['-']) = slug := by
  rw [trimmed, List.reverse_append, List.reverse_singleton, List.singleton_append,
    List.dropWhile_cons_of_pos (by rfl)]
  exact trimmed_settled settled

theorem isSlugChar_eq (c : Char) : isSlugChar c = (c.isUpper || c.isLower || c.isDigit) :=
  rfl

theorem slugStep_letter {c : Char} (letter : isSlugChar c = true) (slug : List Char) :
    slugStep slug c = slug ++ [c] :=
  if_pos letter

theorem slugStep_settled {c : Char} (other : isSlugChar c = false) {slug : List Char}
    (settled : Settled slug) : slugStep slug c = slug ++ ['-'] := by
  have open' : ¬(slug.isEmpty || slug.getLast? == some '-') = true := by
    simp [settled.present, settled.last]
  rw [slugStep, other, if_neg Bool.false_ne_true, if_neg open']

theorem slugStep_hyphen {c : Char} (other : isSlugChar c = false) (slug : List Char) :
    slugStep (slug ++ ['-']) c = slug ++ ['-'] := by
  have closed : ((slug ++ ['-']).isEmpty || (slug ++ ['-']).getLast? == some '-') = true := by
    simp
  rw [slugStep, other, if_neg Bool.false_ne_true, if_pos closed]

theorem slugStep_nil {c : Char} (other : isSlugChar c = false) : slugStep [] c = [] := by
  rw [slugStep, other, if_neg Bool.false_ne_true]
  rfl

/-- What reading on makes of a slug: nothing has been read, or the last run of the slug goes on, or
there is a hyphen behind it. -/
structure Continues (cs : List Char) : Prop where
  fresh : trimmed (cs.foldl slugStep []) = hyphenated (runsOf isSlugChar [] cs)
  inside {slug : List Char} (settled : Settled slug) :
    trimmed (cs.foldl slugStep slug) = hyphenated (runsOf isSlugChar slug cs)
  behind {slug : List Char} (settled : Settled slug) :
    trimmed (cs.foldl slugStep (slug ++ ['-'])) = hyphenated (slug :: runsOf isSlugChar [] cs)

namespace Continues

theorem nil : Continues [] where
  fresh := rfl
  inside {slug} settled := by
    rw [List.foldl_nil, trimmed_settled settled, runsOf, if_neg (by simp [settled.present])]
    simp [hyphenated]
  behind settled := by
    rw [List.foldl_nil, trimmed_hyphen settled, runsOf, if_pos List.isEmpty_nil]
    simp [hyphenated]

/-- A letter or digit starts a run or is added to the last one. -/
theorem letter {c : Char} {cs : List Char} (continues : Continues cs)
    (letter : isSlugChar c = true) : Continues (c :: cs) where
  fresh := by
    rw [List.foldl_cons, slugStep_letter letter, runsOf, if_pos letter]
    exact continues.inside (settled_append [] letter)
  inside {slug} _ := by
    rw [List.foldl_cons, slugStep_letter letter, runsOf, if_pos letter]
    exact continues.inside (settled_append slug letter)
  behind {slug} _ := by
    have started : runsOf isSlugChar [c] cs ≠ [] := runsOf_ne_nil (List.cons_ne_nil _ _) cs
    rw [List.foldl_cons, slugStep_letter letter, runsOf, if_pos letter, List.nil_append,
      continues.inside (settled_append _ letter), hyphenated_runsOf_append _ (List.cons_ne_nil _ _),
      hyphenated_cons _ started]

/-- Anything else ends the run and leaves one hyphen behind it. -/
theorem other {c : Char} {cs : List Char} (continues : Continues cs)
    (other : isSlugChar c = false) : Continues (c :: cs) where
  fresh := by
    rw [List.foldl_cons, slugStep_nil other, runsOf, other, if_neg Bool.false_ne_true,
      if_pos List.isEmpty_nil]
    exact continues.fresh
  inside {slug} settled := by
    rw [List.foldl_cons, slugStep_settled other settled, runsOf, other, if_neg Bool.false_ne_true,
      if_neg (by simp [settled.present])]
    exact continues.behind settled
  behind {slug} settled := by
    rw [List.foldl_cons, slugStep_hyphen other, runsOf, other, if_neg Bool.false_ne_true,
      if_pos List.isEmpty_nil]
    exact continues.behind settled

end Continues

theorem continues (cs : List Char) : Continues cs := by
  induction cs with
  | nil => exact .nil
  | cons c rest ih =>
    cases kind : isSlugChar c with
    | true => exact ih.letter kind
    | false => exact ih.other kind

/-- The slug of a text in small letters is made of its runs of letters and digits. -/
theorem slugChars_eq {cs : List Char} {runs : List (List Char)}
    (marked : MaximalRuns isSlugChar cs runs) : slugChars cs = hyphenated runs := by
  rw [marked.eq_runsOf]
  exact (continues cs).fresh

/-! ### Slugs of slugs -/

/-- A small letter or a digit is ASCII, and small. -/
theorem toLower_of_plain {c : Char} (plain : c.isLower = true ∨ c.isDigit = true) :
    c.toNat < 128 ∧ c.toLower = c := by
  have ascii : c.toNat < 128 := by
    rcases plain with letter | digit
    · have bound : c.toNat ≤ 122 := of_decide_eq_true (Bool.and_eq_true_iff.1 letter).2
      omega
    · have bound : c.toNat ≤ 57 := of_decide_eq_true (Bool.and_eq_true_iff.1 digit).2
      omega
  have each : ∀ n < 128, (Char.ofNat n).isLower = true ∨ (Char.ofNat n).isDigit = true →
      (Char.ofNat n).toLower = Char.ofNat n := by decide +kernel
  exact ⟨ascii, forall_ascii (P := fun c => c.isLower = true ∨ c.isDigit = true → c.toLower = c)
    each ascii plain⟩

/-- A slug: runs of small letters and digits with a hyphen between each two, so that it neither begins
nor ends with one. -/
structure IsSlug (slug : String) (runs : List (List Char)) : Prop where
  present : ∀ run ∈ runs, run ≠ []
  plain : ∀ run ∈ runs, ∀ c ∈ run, c.isLower = true ∨ c.isDigit = true
  joined : slug.toList = hyphenated runs

/-- The runs of a slug are found in it. -/
theorem maximalRuns_hyphenated {runs : List (List Char)} (present : ∀ run ∈ runs, run ≠ [])
    (plain : ∀ run ∈ runs, ∀ c ∈ run, isSlugChar c = true) :
    MaximalRuns isSlugChar (hyphenated runs) runs := by
  induction runs with
  | nil => exact .none (List.forall_mem_nil _)
  | cons run rest ih =>
    rw [List.forall_mem_cons] at present plain
    have later := ih present.2 plain.2
    by_cases more : rest = []
    · subst more
      have alone : hyphenated [run] = run ++ [] := by simp [hyphenated]
      rw [alone]
      exact .first present.1 plain.1 (by simp) later
    · rw [hyphenated_cons _ more, List.append_assoc]
      exact .first present.1 plain.1 (by simp; decide) (later.skip (by decide))

namespace IsSlug

variable {slug : String} {runs : List (List Char)}

theorem isSlugChar_of_mem (canonical : IsSlug slug runs) :
    ∀ run ∈ runs, ∀ c ∈ run, isSlugChar c = true := by
  intro run among c mem
  have own := canonical.plain run among c mem
  rw [isSlugChar_eq, Bool.or_eq_true, Bool.or_eq_true]
  exact own.imp_left .inr

/-- There is nothing in a slug to be put into small letters. -/
theorem lower_eq (canonical : IsSlug slug runs) : lower slug = slug := by
  have small : ∀ c ∈ slug.toList, c.toNat < 128 ∧ c.toLower = c := by
    intro c mem
    rw [canonical.joined] at mem
    rcases mem_intercalate mem with between | ⟨run, among, inside⟩
    · rw [List.mem_singleton.1 between]
      decide
    · exact toLower_of_plain (canonical.plain run among c inside)
  have ascii : ∀ c ∈ slug.toList, c.toNat < 128 := fun c mem => (small c mem).1
  have fixed : ∀ c ∈ slug.toList, c.toLower = c := fun c mem => (small c mem).2
  rw [lower, lowerAfter_ascii [] ascii, List.map_congr_left fixed, List.map_id', String.ofList_toList]

/-- A slug is its own slug. -/
theorem slugify_eq (canonical : IsSlug slug runs) : slugify slug = slug := by
  have marked := maximalRuns_hyphenated canonical.present canonical.isSlugChar_of_mem
  rw [← canonical.joined] at marked
  rw [slugify, canonical.lower_eq, slugChars_eq marked, ← canonical.joined, String.ofList_toList]

end IsSlug

/-- The slug of a text is made of the runs of its small form. -/
theorem isSlug_slugify {text : String} {runs : List (List Char)}
    (marked : MaximalRuns isSlugChar (lower text).toList runs) : IsSlug (slugify text) runs where
  present := marked.present
  plain run among c mem := by
    obtain ⟨kept, there⟩ := marked.kept run among c mem
    rw [isSlugChar_eq, not_isUpper_of_mem_lower there, Bool.false_or,
      Bool.or_eq_true] at kept
    exact kept
  joined := by rw [slugify, slugChars_eq marked, String.toList_ofList]

/-- **The slug of a text joins the maximal runs of letters and digits of its small form, in order,
with single hyphens. A slug is its own slug, and nothing else is.** -/
theorem slugify_canonical (text : String) :
    (∃ runs, MaximalRuns Char.isAlphanum (lower text).toList runs ∧ IsSlug (slugify text) runs) ∧
    slugify (slugify text) = slugify text ∧
    (slugify text = text ↔ ∃ runs, IsSlug text runs) := by
  have marked := @maximalRuns_runsOf isSlugChar [] (List.forall_mem_nil _)
    (lower text).toList
  have canonical := isSlug_slugify marked
  refine ⟨⟨_, marked, canonical⟩, canonical.slugify_eq, fun same => ?_, ?_⟩
  · rw [same] at canonical
    exact ⟨_, canonical⟩
  · rintro ⟨runs, own⟩
    exact own.slugify_eq

example : slugify "  Summer--Sale 2024! " = "summer-sale-2024" := by decide +kernel

end Naming

end EntityStore
