import EntityStore.Proofs.Merging

/-!
# Texts with several blocks

A new text can hold several blocks, one after the other (`Block.woven`). It is well formed when
every marker in it is one of theirs, and each name is there once (`Block.WellFormed`); gaps, bodies
and a tail without the beginning of a marker make such a text (`Block.wellFormed_of_plain`). What
the markers of each block find then is a matter of the block alone (`Block.Slot.Sound`,
`Block.Slot.Clear`), and stays so when its body is exchanged for one that has been read from another
text.
-/

namespace EntityStore

namespace Block

/-- A block of a new text, with what stands in front of it. -/
structure Slot where
  gap : List Char
  name : List Char
  body : List Char
deriving DecidableEq, Repr

/-- The block as it is written. -/
def Slot.text (slot : Slot) : List Char :=
  slot.gap ++ (marker "BEGIN" slot.name ++ (slot.body ++ marker "END" slot.name))

/-- Blocks one after the other, and what follows the last one. -/
def woven (slots : List Slot) (tail : List Char) : List Char :=
  slots.flatMap Slot.text ++ tail

/-- What stands before the begin markers. -/
def openings : List Slot → List (List Char)
  | [] => []
  | slot :: slots => slot.gap :: (openings slots).map (slot.text ++ ·)

/-- What stands before the end markers. -/
def closings : List Slot → List (List Char)
  | [] => []
  | slot :: slots =>
    (slot.gap ++ (marker "BEGIN" slot.name ++ slot.body)) :: (closings slots).map (slot.text ++ ·)

/-- Every marker in the text is one of a block, and no two blocks have one name. -/
structure WellFormed (slots : List Slot) (tail : List Char) : Prop where
  isName : ∀ slot ∈ slots, IsName slot.name
  nodup : (slots.map (·.name)).Nodup
  begins : ∀ name before rest, IsName name →
    woven slots tail = before ++ (marker "BEGIN" name ++ rest) → before ∈ openings slots
  ends : ∀ name before rest, IsName name →
    woven slots tail = before ++ (marker "END" name ++ rest) → before ∈ closings slots

theorem woven_cons (slot : Slot) (slots : List Slot) (tail : List Char) :
    woven (slot :: slots) tail = slot.text ++ woven slots tail := by
  rw [woven, List.flatMap_cons, List.append_assoc]
  rfl

theorem woven_append (before after : List Slot) (tail : List Char) :
    woven (before ++ after) tail = woven before (woven after tail) := by
  rw [woven, List.flatMap_append, List.append_assoc]
  rfl

/-! ### What the markers of a block find -/

namespace Absent

variable {piece x y t : List Char}

/-- A piece that is absent from the beginning of a text occurs behind it. -/
theorem past {before rest : List Char} (absent : Absent piece x y)
    (same : x ++ y = before ++ (piece ++ rest)) :
    ∃ more, before = x ++ more ∧ y = more ++ (piece ++ rest) := by
  obtain ⟨more, rfl⟩ := absent_iff.1 absent before rest same
  rw [List.append_assoc, List.append_cancel_left_eq] at same
  exact ⟨more, rfl, same⟩

/-- Whether a marker begins in front of another one does not depend on what follows that. -/
theorem beyond {word word' : String} {name name' t' : List Char} (plain : '>' ∉ name)
    (wordPlain : '>' ∉ markerHead word)
    (absent : Absent (marker word name) x (marker word' name' ++ t)) :
    Absent (marker word name) x (marker word' name' ++ t') := by
  intro s suffix nonempty h
  refine absent s suffix nonempty ?_
  rw [marker.eq_def word' name', ← List.append_assoc, ← List.append_assoc] at h ⊢
  exact (marker_prefix_of_append plain wordPlain h).trans (List.prefix_append _ _)

end Absent

namespace Slot

/-- The markers of the block are found where they stand, unless they have been found before. -/
structure Sound (slot : Slot) : Prop where
  isName : IsName slot.name
  begins : ∀ t, Absent (marker "BEGIN" slot.name) slot.gap (marker "BEGIN" slot.name ++ t)
  opening : ∀ name, IsName name → ∀ t,
    Absent (marker "END" name) (slot.gap ++ marker "BEGIN" slot.name) t
  sealed_ : Sealed slot.name slot.body
  closing : ∀ name, IsName name → name ≠ slot.name → ∀ t,
    Absent (marker "END" name) (marker "END" slot.name) t

/-- The begin marker of the name is not in the block. -/
def Clear (slot : Slot) (name : List Char) : Prop :=
  ∀ t, Absent (marker "BEGIN" name) slot.text t

variable {slot : Slot} {name : List Char}

theorem text_eq (slot : Slot) : slot.text =
    (slot.gap ++ marker "BEGIN" slot.name) ++ (slot.body ++ marker "END" slot.name) := by
  rw [text, List.append_assoc]

/-- End markers of other names are not in the block. -/
theorem Sound.absent_end (sound : slot.Sound) (isName : IsName name) (other : name ≠ slot.name)
    (t : List Char) : Absent (marker "END" name) slot.text t := by
  rw [text_eq]
  exact .append (sound.opening name isName _)
    (.append (sound.sealed_ name t isName) (sound.closing name isName other t))

/-- The block with another body, if there is one for its name. -/
def filled (found : List Char → Option (List Char)) (slot : Slot) : Slot :=
  { slot with body := (found slot.name).getD slot.body }

variable {found : List Char → Option (List Char)}

theorem filled_of_none (none : found slot.name = none) : slot.filled found = slot := by
  rw [filled, none]
  rfl

theorem filled_of_some {body : List Char} (some : found slot.name = some body) :
    slot.filled found = { slot with body } := by
  rw [filled, some]
  rfl

theorem Sound.filled (sound : slot.Sound)
    (each : ∀ body, found slot.name = some body → Sealed slot.name body) :
    (slot.filled found).Sound := by
  cases last : found slot.name with
  | none =>
    rw [filled_of_none last]
    exact sound
  | some body =>
    rw [filled_of_some last]
    exact ⟨sound.isName, sound.begins, sound.opening, each body last, sound.closing⟩

theorem Clear.opening (clear : slot.Clear name) (isName : IsName name) (t : List Char) :
    Absent (marker "BEGIN" name) (slot.gap ++ marker "BEGIN" slot.name) t := by
  have whole := clear []
  rw [text_eq] at whole
  exact whole.left.follow isName.open_ (by decide)

theorem Clear.filled (clear : slot.Clear name) (isName : IsName name)
    (harmless : ∀ body, found slot.name = some body →
      Absent (marker "BEGIN" name) body (marker "END" slot.name)) :
    (slot.filled found).Clear name := by
  cases last : found slot.name with
  | none =>
    rw [filled_of_none last]
    exact clear
  | some body =>
    rw [filled_of_some last]
    intro t
    have behind := clear t
    rw [text_eq] at behind ⊢
    have inside := harmless body last
    rw [← List.append_nil (marker "END" slot.name)] at inside
    exact .append (clear.opening isName _)
      (.append (inside.beyond isName.open_ (by decide)) behind.right.right)

end Slot

/-- The markers of each block are found where they stand: no block before it has its name or holds
its begin marker. -/
structure Placed (slots : List Slot) : Prop where
  sound : ∀ slot ∈ slots, slot.Sound
  clear : slots.Pairwise fun slot later => slot.Clear later.name
  nodup : (slots.map (·.name)).Nodup

theorem Placed.sublist {slots slots' : List Slot} (placed : Placed slots)
    (part : slots'.Sublist slots) : Placed slots' where
  sound slot mem := placed.sound slot (part.subset mem)
  clear := placed.clear.sublist part
  nodup := placed.nodup.sublist (part.map _)

theorem Placed.around {before after : List Slot} {slot : Slot}
    (placed : Placed (before ++ slot :: after)) :
    slot.Sound ∧ (∀ earlier ∈ before, earlier.Sound ∧ earlier.Clear slot.name) ∧
      slot.name ∉ before.map (·.name) ∧ slot.name ∉ after.map (·.name) := by
  have names := placed.nodup
  rw [List.map_append, List.map_cons, List.nodup_append, List.nodup_cons] at names
  obtain ⟨-, ⟨notAfter, -⟩, apart⟩ := names
  refine ⟨placed.sound slot (by simp), fun earlier mem => ⟨?_, ?_⟩, fun mem => ?_, notAfter⟩
  · exact placed.sound earlier (List.mem_append_left _ mem)
  · exact (List.pairwise_append.1 placed.clear).2.2 earlier mem slot List.mem_cons_self
  · exact apart _ mem _ List.mem_cons_self rfl

theorem absent_flatMap {piece : List Char} {slots : List Slot}
    (each : ∀ slot ∈ slots, ∀ t, Absent piece slot.text t) (t : List Char) :
    Absent piece (slots.flatMap Slot.text) t := by
  induction slots with
  | nil => exact .nil _ _
  | cons slot slots ih =>
    rw [List.flatMap_cons]
    exact .append (each slot List.mem_cons_self _)
      (ih fun slot mem => each slot (List.mem_cons_of_mem _ mem))

namespace WellFormed

variable {slot : Slot} {slots : List Slot} {name tail : List Char}

theorem rest (formed : WellFormed (slot :: slots) tail) : WellFormed slots tail := by
  have longer (before : List Char) : slot.text ++ before ≠ slot.gap ∧
      slot.text ++ before ≠ slot.gap ++ (marker "BEGIN" slot.name ++ slot.body) := by
    have opening := List.length_pos_of_ne_nil (marker_ne_nil "BEGIN" slot.name)
    have closing := List.length_pos_of_ne_nil (marker_ne_nil "END" slot.name)
    constructor <;>
    · intro same
      have size := congrArg List.length same
      simp only [Slot.text, List.length_append] at size
      omega
  refine ⟨fun slot mem => formed.isName slot (List.mem_cons_of_mem _ mem),
    (List.nodup_cons.1 formed.nodup).2, fun name before rest isName same => ?_,
    fun name before rest isName same => ?_⟩
  · have place := formed.begins name (slot.text ++ before) rest isName
      (by rw [woven_cons, same, List.append_assoc])
    rcases List.mem_cons.1 place with first | later
    · exact absurd first (longer before).1
    · obtain ⟨before', mem, same⟩ := List.mem_map.1 later
      rwa [← List.append_cancel_left same]
  · have place := formed.ends name (slot.text ++ before) rest isName
      (by rw [woven_cons, same, List.append_assoc])
    rcases List.mem_cons.1 place with first | later
    · exact absurd first (longer before).2
    · obtain ⟨before', mem, same⟩ := List.mem_map.1 later
      rwa [← List.append_cancel_left same]

/-- The first begin marker stands behind the first gap. -/
theorem absent_begin (formed : WellFormed (slot :: slots) tail) (isName : IsName name) :
    Absent (marker "BEGIN" name) slot.gap
      (marker "BEGIN" slot.name ++ (slot.body ++ marker "END" slot.name ++ woven slots tail)) := by
  refine absent_iff.2 fun before rest same => ?_
  have place := formed.begins name before rest isName
    (by rw [← same, woven_cons, Slot.text]; simp only [List.append_assoc])
  rcases List.mem_cons.1 place with rfl | later
  · exact List.prefix_refl _
  · obtain ⟨before', -, rfl⟩ := List.mem_map.1 later
    rw [Slot.text, List.append_assoc]
    exact List.prefix_append _ _

/-- The first end marker stands behind the first body. -/
theorem absent_end (formed : WellFormed (slot :: slots) tail) (isName : IsName name) :
    Absent (marker "END" name) (slot.gap ++ (marker "BEGIN" slot.name ++ slot.body))
      (marker "END" slot.name ++ woven slots tail) := by
  refine absent_iff.2 fun before rest same => ?_
  have place := formed.ends name before rest isName
    (by rw [← same, woven_cons, Slot.text]; simp only [List.append_assoc])
  rcases List.mem_cons.1 place with rfl | later
  · exact List.prefix_refl _
  · obtain ⟨before', -, rfl⟩ := List.mem_map.1 later
    rw [Slot.text, List.append_assoc, List.append_assoc, List.append_assoc,
      List.prefix_append_right_inj, List.prefix_append_right_inj]
    exact List.prefix_append _ _

/-- Markers of other names stand behind the first block. -/
theorem absent_other (formed : WellFormed (slot :: slots) tail) (isName : IsName name)
    (other : name ≠ slot.name) :
    Absent (marker "BEGIN" name) slot.text (woven slots tail) ∧
      Absent (marker "END" name) slot.text (woven slots tail) := by
  have own := formed.isName slot List.mem_cons_self
  constructor
  · refine absent_iff.2 fun before rest same => ?_
    rcases List.mem_cons.1 (formed.begins name before rest isName
      (by rw [woven_cons, same])) with rfl | later
    · rw [Slot.text, List.append_assoc, List.append_cancel_left_eq, List.append_assoc] at same
      exact absurd (name_of_marker_begins isName.open_ own.open_ ⟨rest, same.symm⟩) other
    · obtain ⟨before', -, rfl⟩ := List.mem_map.1 later
      exact List.prefix_append _ _
  · refine absent_iff.2 fun before rest same => ?_
    rcases List.mem_cons.1 (formed.ends name before rest isName
      (by rw [woven_cons, same])) with rfl | later
    · simp only [Slot.text, List.append_assoc, List.append_cancel_left_eq] at same
      exact absurd (name_of_marker_begins isName.open_ own.open_ ⟨rest, same.symm⟩) other
    · obtain ⟨before', -, rfl⟩ := List.mem_map.1 later
      exact List.prefix_append _ _

theorem sound_first (formed : WellFormed (slot :: slots) tail) : slot.Sound where
  isName := formed.isName slot List.mem_cons_self
  begins _ :=
    have own := formed.isName slot List.mem_cons_self
    (formed.absent_begin own).beyond own.open_ (by decide)
  opening name isName _ := by
    have absent := formed.absent_end isName
    rw [← List.append_assoc] at absent
    exact absent.left.follow isName.open_ (by decide)
  sealed_ := sealed_of_absent fun other isOther => (formed.absent_end isOther).right.right
  closing name isName other t := by
    have absent := (formed.absent_other isName other).2.right.right.right
    rw [← List.nil_append (marker "END" slot.name)] at absent ⊢
    exact absent.follow isName.open_ (by decide)

theorem clear_first (formed : WellFormed (slot :: slots) tail) (isName : IsName name)
    (other : name ≠ slot.name) : slot.Clear name := by
  intro t
  have absent := (formed.absent_other isName other).1
  rw [Slot.text, ← List.append_assoc, ← List.append_assoc] at absent ⊢
  exact absent.follow isName.open_ (by decide)

theorem placed (formed : WellFormed slots tail) : Placed slots := by
  refine ⟨?_, ?_, formed.nodup⟩
  · induction slots with
    | nil => exact fun _ none => nomatch none
    | cons slot slots ih => exact List.forall_mem_cons.2 ⟨formed.sound_first, ih formed.rest⟩
  · induction slots with
    | nil => exact .nil
    | cons slot slots ih =>
      refine .cons (fun later mem => ?_) (ih formed.rest)
      refine formed.clear_first (formed.isName later (List.mem_cons_of_mem _ mem)) fun same => ?_
      exact (List.nodup_cons.1 formed.nodup).1 (List.mem_map.2 ⟨later, mem, same⟩)

/-- No end marker is in what follows the blocks. -/
theorem absent_tail (formed : WellFormed slots tail) (isName : IsName name) :
    Absent (marker "END" name) tail [] := by
  induction slots with
  | nil =>
    refine absent_iff.2 fun before rest same => ?_
    rw [List.append_nil] at same
    cases formed.ends name before rest isName same
  | cons slot slots ih => exact ih formed.rest

end WellFormed

/-! ### Plain texts -/

/-- No marker begins in the gap and in the body, and the name can be written into a marker. -/
structure Slot.Plain (slot : Slot) : Prop where
  isName : IsName slot.name
  unslashed : '/' ∉ slot.name
  gap : ¬markerStart <:+: slot.gap
  body : ¬markerStart <:+: slot.body

instance (slot : Slot) : Decidable slot.Plain :=
  decidable_of_iff ((slot.name ≠ [] ∧ '>' ∉ slot.name) ∧ '/' ∉ slot.name ∧
      ¬markerStart <:+: slot.gap ∧ ¬markerStart <:+: slot.body)
    ⟨fun ⟨⟨nonempty, open_⟩, unslashed, gap, body⟩ => ⟨⟨nonempty, open_⟩, unslashed, gap, body⟩,
      fun ⟨⟨nonempty, open_⟩, unslashed, gap, body⟩ => ⟨⟨nonempty, open_⟩, unslashed, gap, body⟩⟩

/-- What begins as markers do stands where a marker does, or behind it. -/
theorem first_or_past {word : String} {name piece t before rest : List Char}
    (wordPlain : '/' ∉ word.toList) (namePlain : '/' ∉ name) (starts : markerStart <+: piece)
    (same : marker word name ++ t = before ++ (piece ++ rest)) :
    before = [] ∨ ∃ more, before = marker word name ++ more ∧ t = more ++ (piece ++ rest) := by
  cases before with
  | nil => exact .inl rfl
  | cons c before =>
    have tail := absent_marker_tail (t := t) wordPlain namePlain starts
    obtain ⟨d, behind, written⟩ := List.exists_cons_of_ne_nil (marker_ne_nil word name)
    rw [written, List.tail_cons] at tail
    rw [written, List.cons_append, List.cons_append, List.cons.injEq] at same
    obtain ⟨rfl, inside⟩ := same
    obtain ⟨more, rfl, behindMarker⟩ := tail.past inside
    exact .inr ⟨more, by rw [written]; rfl, behindMarker⟩

namespace Slot.Plain

variable {slot : Slot} {name : List Char}

/-- The begin marker of the block is the only one in it. -/
theorem begins (plain : slot.Plain) {before rest t : List Char}
    (same : slot.text ++ t = before ++ (marker "BEGIN" name ++ rest)) :
    before = slot.gap ∨
      ∃ more, before = slot.text ++ more ∧ t = more ++ (marker "BEGIN" name ++ rest) := by
  have starts := markerStart_begins "BEGIN" name
  have closing : Absent (marker "BEGIN" name) (marker "END" slot.name) t :=
    absent_marker (by decide) plain.unslashed starts (not_begin_prefix_end name slot.name t)
  simp only [text, List.append_assoc] at same
  obtain ⟨more, rfl, behindGap⟩ := ((absent_head plain.gap _ _ _).longer starts).past same
  rcases first_or_past (by decide) plain.unslashed starts behindGap with
    rfl | ⟨more, rfl, behindMarker⟩
  · exact .inl (List.append_nil _)
  · obtain ⟨more, rfl, behindBody⟩ :=
      ((absent_head plain.body _ _ _).longer starts).past behindMarker
    obtain ⟨more, rfl, behind⟩ := closing.past behindBody
    exact .inr ⟨more, by simp only [text, List.append_assoc], behind⟩

/-- The end marker of the block is the only one in it. -/
theorem ends (plain : slot.Plain) {before rest t : List Char}
    (same : slot.text ++ t = before ++ (marker "END" name ++ rest)) :
    before = slot.gap ++ (marker "BEGIN" slot.name ++ slot.body) ∨
      ∃ more, before = slot.text ++ more ∧ t = more ++ (marker "END" name ++ rest) := by
  have starts := markerStart_begins "END" name
  have opening (t : List Char) : Absent (marker "END" name) (marker "BEGIN" slot.name) t :=
    absent_marker (by decide) plain.unslashed starts (not_end_prefix_begin name slot.name t)
  simp only [text, List.append_assoc] at same
  obtain ⟨more, rfl, behindGap⟩ := ((absent_head plain.gap _ _ _).longer starts).past same
  obtain ⟨more, rfl, behindMarker⟩ := (opening _).past behindGap
  obtain ⟨more, rfl, behindBody⟩ := ((absent_head plain.body _ _ _).longer starts).past behindMarker
  rcases first_or_past (by decide) plain.unslashed starts behindBody with rfl | ⟨more, rfl, behind⟩
  · exact .inl (by rw [List.append_nil])
  · exact .inr ⟨more, by simp only [text, List.append_assoc], behind⟩

end Slot.Plain

section

variable {slots : List Slot} {tail : List Char} (plain : ∀ slot ∈ slots, slot.Plain)
  (plainTail : ¬markerStart <:+: tail) {name before rest : List Char}

include plain plainTail

theorem mem_openings_of_plain (same : woven slots tail = before ++ (marker "BEGIN" name ++ rest)) :
    before ∈ openings slots := by
  induction slots generalizing before with
  | nil =>
    have inside : marker "BEGIN" name <:+: tail :=
      ⟨before, rest, (List.append_assoc _ _ _).trans same.symm⟩
    exact absurd ((markerStart_begins _ _).isInfix.trans inside) plainTail
  | cons slot slots ih =>
    rw [woven_cons] at same
    rcases (plain slot List.mem_cons_self).begins same with rfl | ⟨more, rfl, behind⟩
    · exact List.mem_cons_self
    · have later := ih (fun slot mem => plain slot (List.mem_cons_of_mem _ mem)) behind
      exact List.mem_cons_of_mem _ (List.mem_map_of_mem later)

theorem mem_closings_of_plain (same : woven slots tail = before ++ (marker "END" name ++ rest)) :
    before ∈ closings slots := by
  induction slots generalizing before with
  | nil =>
    have inside : marker "END" name <:+: tail :=
      ⟨before, rest, (List.append_assoc _ _ _).trans same.symm⟩
    exact absurd ((markerStart_begins _ _).isInfix.trans inside) plainTail
  | cons slot slots ih =>
    rw [woven_cons] at same
    rcases (plain slot List.mem_cons_self).ends same with rfl | ⟨more, rfl, behind⟩
    · exact List.mem_cons_self
    · have later := ih (fun slot mem => plain slot (List.mem_cons_of_mem _ mem)) behind
      exact List.mem_cons_of_mem _ (List.mem_map_of_mem later)

/-- Blocks without the beginning of a marker in what is not a marker make a well-formed text. -/
theorem wellFormed_of_plain (nodup : (slots.map (·.name)).Nodup) : WellFormed slots tail where
  isName slot mem := (plain slot mem).isName
  nodup := nodup
  begins _ _ _ _ same := mem_openings_of_plain plain plainTail same
  ends _ _ _ _ same := mem_closings_of_plain plain plainTail same

end

end Block

end EntityStore
