import EntityStore.Proofs.Declared
import EntityStore.Proofs.Markers

/-!
# Which body is carried over

A text is read from left to right (`Block.Scans`): a block begins at the first begin marker that an
end marker follows, it ends at the first end marker, and the reading goes on behind it, so what
stands inside a body is never read as a marker. Every text has exactly one reading, the one that
`scan` computes (`Block.scans_iff`). Of the blocks of a reading the last one of each name is carried
over; they are kept by name and handed over in any order (`Block.Collects`).

The new text holds one block (`Block.SoleBlock`). A block of another name finds no end marker in it,
before its own body is put in and after, so only the own block counts, wherever it comes in the
order: main result `Block.merge_sole`.
-/

namespace EntityStore

namespace Block

theorem absent_iff {piece x t : List Char} :
    Absent piece x t ↔ ∀ before rest, x ++ t = before ++ (piece ++ rest) → x <+: before := by
  constructor
  · intro absent before rest same
    rcases List.append_eq_append_iff.1 same with ⟨more, rfl, -⟩ | ⟨s, rfl, begun⟩
    · exact List.prefix_append _ _
    · by_cases empty : s = []
      · rw [empty, List.append_nil]
      · exact absurd ⟨rest, begun⟩ (absent s (List.suffix_append _ _) empty)
  · rintro behind s ⟨before, rfl⟩ nonempty ⟨rest, begun⟩
    have short := (behind before rest (by rw [List.append_assoc, begun])).length_le
    rw [List.length_append] at short
    exact nonempty (List.eq_nil_of_length_eq_zero (by omega))

/-- A piece that begins neither before a place nor behind it occurs at that place only. -/
theorem only_occurrence {piece x y before rest : List Char} (nonempty : piece ≠ [])
    (absent : Absent piece x y) (behind : Absent piece y.tail [])
    (same : x ++ y = before ++ (piece ++ rest)) : before = x := by
  obtain ⟨more, rfl⟩ := absent_iff.1 absent before rest same
  rw [List.append_assoc, List.append_cancel_left_eq] at same
  cases more with
  | nil => exact List.append_nil x
  | cons c more =>
    rw [same, List.cons_append, List.tail_cons] at behind
    have short := (absent_iff.1 behind more rest (List.append_nil _)).length_le
    have long := List.length_pos_of_ne_nil nonempty
    rw [List.length_append, List.length_append] at short
    omega

namespace Absent

variable {piece x y t : List Char}

theorem left (absent : Absent piece (x ++ y) t) : Absent piece x (y ++ t) := by
  rintro s ⟨before, rfl⟩ nonempty h
  refine absent (s ++ y) ⟨before, by rw [List.append_assoc]⟩ (by simp [nonempty]) ?_
  rwa [List.append_assoc]

theorem right (absent : Absent piece (x ++ y) t) : Absent piece y t :=
  fun s suffix nonempty => absent s (suffix.trans (List.suffix_append _ _)) nonempty

/-- Whether a marker begins in a text that ends with a marker does not depend on what follows. -/
theorem follow {word word' : String} {name name' t' : List Char} (plain : '>' ∉ name)
    (wordPlain : '>' ∉ markerHead word)
    (absent : Absent (marker word name) (x ++ marker word' name') t) :
    Absent (marker word name) (x ++ marker word' name') t' := by
  rw [marker.eq_def word' name', ← List.append_assoc] at absent ⊢
  intro s suffix nonempty h
  refine absent s suffix nonempty ?_
  rcases List.suffix_or_suffix_of_suffix suffix (List.suffix_append _ markerTail) with
    brackets | ⟨s, rfl⟩
  · -- A marker does not begin with a bracket.
    obtain ⟨c, s, rfl⟩ := List.exists_cons_of_ne_nil nonempty
    have bracket : c = '>' :=
      List.eq_of_mem_replicate (n := 3) (brackets.subset List.mem_cons_self)
    have slash := (markerStart_begins word name).trans h
    exact absurd (List.cons_prefix_cons.1 slash).1 (by rw [bracket]; decide)
  · exact (marker_prefix_of_append plain wordPlain h).trans (List.prefix_append _ _)

end Absent

/-! ### Reading a text -/

/-- A block as it is written. -/
def text (block : Block) : List Char :=
  marker "BEGIN" block.opened ++ (block.body ++ marker "END" block.closed)

/-- The text is read as the block and a rest: both markers have names, and no end marker begins
inside the body. -/
structure Stands (cs : List Char) (block : Block) (rest : List Char) : Prop where
  written : cs = block.text ++ rest
  opened : IsName block.opened
  closed : IsName block.closed
  first : ∀ other, IsName other →
    Absent (marker "END" other) block.body (marker "END" block.closed ++ rest)

/-- The text begins with a block. -/
def Begins (cs : List Char) : Prop :=
  ∃ block rest, Stands cs block rest

/-- The blocks of a text, read from left to right. -/
inductive Scans : List Char → List Block → Prop
  /-- No block begins anywhere. -/
  | done {cs : List Char} (none : ∀ s, s <:+ cs → ¬Begins s) : Scans cs []
  /-- No block begins before the first one, and the reading goes on behind it. -/
  | next {before cs rest : List Char} {block : Block} {blocks : List Block}
    (none : ∀ s, s <:+ before → s ≠ [] → ¬Begins (s ++ cs)) (first : Stands cs block rest)
    (later : Scans rest blocks) : Scans (before ++ cs) (block :: blocks)

theorem stands_iff {cs rest : List Char} {block : Block} :
    Stands cs block rest ↔ blockAt? cs = some (block, rest) := by
  rw [blockAt?_eq_some]
  constructor
  · rintro ⟨written, opened, closed, first⟩
    rw [text, List.append_assoc, List.append_assoc] at written
    exact ⟨written, opened, closed, first⟩
  · rintro ⟨written, opened, closed, first⟩
    refine ⟨?_, opened, closed, first⟩
    rw [text, List.append_assoc, List.append_assoc]
    exact written

theorem not_begins_iff {cs : List Char} : ¬Begins cs ↔ blockAt? cs = none := by
  rw [← Option.not_isSome_iff_eq_none, Option.isSome_iff_exists]
  simp only [Begins, stands_iff, Prod.exists]

theorem not_begins_nil : ¬Begins [] := by
  rw [not_begins_iff]
  rfl

theorem scan_of_stands {cs rest : List Char} {block : Block} (h : Stands cs block rest) :
    scan cs = block :: scan rest := by
  cases cs with
  | nil => exact absurd ⟨block, rest, h⟩ not_begins_nil
  | cons c cs =>
    rw [scan]
    split
    · next found =>
      rw [stands_iff.1 h] at found
      cases found
      rfl
    · next found =>
      rw [stands_iff.1 h] at found
      cases found

theorem scan_of_not_begins {c : Char} {cs : List Char} (none : ¬Begins (c :: cs)) :
    scan (c :: cs) = scan cs := by
  rw [scan]
  split
  · next found =>
    rw [not_begins_iff.1 none] at found
    cases found
  · rfl

/-- What stands in front of a block, or behind the last one, is passed over. -/
theorem scan_skip {before cs : List Char}
    (none : ∀ s, s <:+ before → s ≠ [] → ¬Begins (s ++ cs)) : scan (before ++ cs) = scan cs := by
  induction before with
  | nil => rfl
  | cons c before ih =>
    have here := none _ (List.suffix_refl _) (List.cons_ne_nil _ _)
    rw [List.cons_append] at here ⊢
    rw [scan_of_not_begins here]
    exact ih fun s suffix => none s (suffix.trans (List.suffix_cons _ _))

theorem Scans.cons {c : Char} {cs : List Char} {blocks : List Block} (none : ¬Begins (c :: cs))
    (h : Scans cs blocks) : Scans (c :: cs) blocks := by
  cases h with
  | done later =>
    refine .done fun s suffix => ?_
    rcases List.suffix_cons_iff.1 suffix with rfl | suffix
    · exact none
    · exact later s suffix
  | @next before cs rest block blocks skipped first later =>
    have passed : ∀ s, s <:+ c :: before → s ≠ [] → ¬Begins (s ++ cs) := by
      intro s suffix nonempty
      rcases List.suffix_cons_iff.1 suffix with rfl | suffix
      · exact none
      · exact skipped s suffix nonempty
    exact .next passed first later

theorem scans_scan (cs : List Char) : Scans cs (scan cs) := by
  induction cs using scan.induct with
  | case1 =>
    rw [scan]
    refine .done fun s suffix => ?_
    rw [List.suffix_nil.1 suffix]
    exact not_begins_nil
  | case2 c cs block rest found ih =>
    have first := stands_iff.2 found
    rw [scan_of_stands first]
    have passed : ∀ s, s <:+ [] → s ≠ [] → ¬Begins (s ++ c :: cs) :=
      fun s suffix nonempty => absurd (List.suffix_nil.1 suffix) nonempty
    exact .next passed first ih
  | case3 c cs found ih =>
    have none := not_begins_iff.2 found
    rw [scan_of_not_begins none]
    exact ih.cons none

/-- Every text has one reading. -/
theorem scans_iff {cs : List Char} {blocks : List Block} : Scans cs blocks ↔ blocks = scan cs := by
  constructor
  · intro h
    induction h with
    | @done cs none =>
      have passed : ∀ s, s <:+ cs → s ≠ [] → ¬Begins (s ++ []) := by
        intro s suffix _
        rw [List.append_nil]
        exact none s suffix
      have skipped := scan_skip passed
      rw [List.append_nil] at skipped
      rw [skipped, scan]
    | next none first later ih => rw [scan_skip none, scan_of_stands first, ih]
  · rintro rfl
    exact scans_scan cs

/-! ### The last block of a name -/

/-- The body of the last block of the name. -/
def lastBody? (name : List Char) (blocks : List Block) : Option (List Char) :=
  (blocks.filter (·.opened = name)).getLast?.map (·.body)

/-- The last bodies by their names, each name once, in any order. -/
structure Collects (blocks : List Block) (order : List (List Char × List Char)) : Prop where
  nodup : (order.map Prod.fst).Nodup
  mem_iff : ∀ name body, (name, body) ∈ order ↔ lastBody? name blocks = some body

theorem lastBody?_concat (name : List Char) (blocks : List Block) (block : Block) :
    lastBody? name (blocks ++ [block]) =
      if block.opened = name then some block.body else lastBody? name blocks := by
  unfold lastBody?
  split
  · next same => simp [List.filter_append, same]
  · next other => simp [List.filter_append, other]

theorem exists_of_lastBody? {name body : List Char} {blocks : List Block}
    (h : lastBody? name blocks = some body) :
    ∃ block ∈ blocks, block.opened = name ∧ block.body = body := by
  obtain ⟨block, last, same⟩ := Option.map_eq_some_iff.1 h
  have mem := List.mem_filter.1 (List.mem_of_getLast? last)
  exact ⟨block, mem.1, of_decide_eq_true mem.2, same⟩

/-- A block takes the place of an earlier one of its name. -/
def put (done : List (List Char × List Char)) (block : Block) : List (List Char × List Char) :=
  done.filter (·.1 != block.opened) ++ [(block.opened, block.body)]

/-- A block that is closed under its own name is put to the others. -/
def put? (done : List (List Char × List Char)) (block : Block) :
    Except UnmatchedBlock (List (List Char × List Char)) :=
  if block.opened = block.closed then .ok (put done block)
  else .error ⟨String.ofList block.opened, String.ofList block.closed⟩

theorem bodies_eq (blocks : List Block) : bodies blocks = blocks.foldlM put? [] :=
  rfl

/-- One more block is collected. -/
theorem Collects.put {blocks : List Block} {done : List (List Char × List Char)}
    (collects : Collects blocks done) (block : Block) :
    Collects (blocks ++ [block]) (put done block) where
  nodup := by
    have others := collects.nodup.sublist
      ((List.filter_sublist (p := (·.1 != block.opened))).map Prod.fst)
    refine List.nodup_map_concat others fun pair mem => ?_
    exact bne_iff_ne.1 (List.mem_filter.1 mem).2
  mem_iff name body := by
    rw [Block.put, List.mem_append, List.mem_filter, collects.mem_iff, List.mem_singleton,
      Prod.mk.injEq, bne_iff_ne, lastBody?_concat]
    split
    · next same => simp [same, eq_comm]
    · next other => simp [Ne.symm other]

theorem collects_foldl (blocks : List Block) : Collects blocks (blocks.foldl put []) := by
  induction blocks using List.reverseRecOn with
  | nil => exact ⟨List.nodup_nil, fun _ _ => ⟨nofun, nofun⟩⟩
  | append_singleton blocks block ih =>
    rw [List.foldl_append]
    exact ih.put block

theorem foldlM_put? {blocks : List Block} (closed : ∀ block ∈ blocks, block.opened = block.closed)
    (done : List (List Char × List Char)) :
    blocks.foldlM put? done = .ok (blocks.foldl put done) := by
  induction blocks generalizing done with
  | nil => rfl
  | cons block blocks ih =>
    rw [List.foldlM_cons, put?, if_pos (closed block List.mem_cons_self)]
    exact ih (fun block mem => closed block (List.mem_cons_of_mem _ mem)) _

theorem foldlM_put?_error {blocks : List Block} {block : Block} (mem : block ∈ blocks)
    (unmatched : block.opened ≠ block.closed) (done : List (List Char × List Char)) :
    ∃ refusal, blocks.foldlM put? done = .error refusal := by
  induction blocks generalizing done with
  | nil => cases mem
  | cons first blocks ih =>
    rw [List.foldlM_cons, put?]
    by_cases same : first.opened = first.closed
    · rw [if_pos same]
      rcases List.mem_cons.1 mem with rfl | mem
      · exact absurd same unmatched
      · exact ih mem _
    · rw [if_neg same]
      exact ⟨_, rfl⟩

/-! ### A text with one block -/

/-- The text holds the begin marker and the end marker of the name and no further marker. -/
structure SoleBlock (head id old tail : List Char) : Prop where
  isName : IsName id
  begins : ∀ name before rest, IsName name →
    around head id old tail = before ++ (marker "BEGIN" name ++ rest) → before = head
  ends : ∀ name before rest, IsName name →
    around head id old tail = before ++ (marker "END" name ++ rest) →
      before = head ++ (marker "BEGIN" id ++ old)

section

variable {head id old body tail : List Char}

/-- No begin marker begins before the block. -/
theorem SoleBlock.absent_begin (sole : SoleBlock head id old tail) {name : List Char}
    (isName : IsName name) :
    Absent (marker "BEGIN" name) head (marker "BEGIN" id ++ (old ++ (marker "END" id ++ tail))) :=
  absent_iff.2 fun before rest same =>
    (sole.begins name before rest isName same).symm ▸ List.prefix_refl _

/-- No end marker begins before the one of the block. -/
theorem SoleBlock.absent_end (sole : SoleBlock head id old tail) {name : List Char}
    (isName : IsName name) :
    Absent (marker "END" name) (head ++ (marker "BEGIN" id ++ old)) (marker "END" id ++ tail) := by
  refine absent_iff.2 fun before rest same => ?_
  rw [List.append_assoc, List.append_assoc] at same
  exact (sole.ends name before rest isName same).symm ▸ List.prefix_refl _

/-- The end marker of another name is nowhere in the text. -/
theorem SoleBlock.absent_other (sole : SoleBlock head id old tail) {name : List Char}
    (isName : IsName name) (other : name ≠ id) :
    Absent (marker "END" name) (around head id old tail) [] := by
  refine absent_iff.2 fun before rest same => ?_
  rw [List.append_nil] at same
  have place := sole.ends name before rest isName same
  rw [place, around] at same
  simp only [List.append_assoc, List.append_cancel_left_eq] at same
  exact absurd (name_of_marker_begins isName.open_ sole.isName.open_ ⟨rest, same.symm⟩) other

/-- Nor is it when the body of a block of the name has been put in. -/
theorem SoleBlock.absent_carried (sole : SoleBlock head id old tail) (sealed_ : Sealed id body)
    {name : List Char} (isName : IsName name) (other : name ≠ id) :
    Absent (marker "END" name) (around head id body tail) [] := by
  have absent := sole.absent_other isName other
  rw [around, ← List.append_assoc] at absent ⊢
  have behind : Absent (marker "END" name) (marker "END" id ++ tail) [] := absent.right.right
  refine .append (absent.left.follow isName.open_ (by decide)) (.append ?_ behind)
  rw [List.append_nil]
  exact sealed_ name tail isName

/-- Blocks of other names change nothing. -/
theorem foldl_carry_others {text : List Char}
    (absent : ∀ name, IsName name → name ≠ id → Absent (marker "END" name) text [])
    {order : List (List Char × List Char)}
    (others : ∀ pair ∈ order, IsName pair.1 ∧ pair.1 ≠ id) : order.foldl carry text = text := by
  induction order with
  | nil => rfl
  | cons pair order ih =>
    obtain ⟨isName, other⟩ := others pair List.mem_cons_self
    rw [List.foldl_cons, carry_of_absent (absent pair.1 isName other)]
    exact ih fun pair mem => others pair (List.mem_cons_of_mem _ mem)

/-- Wherever the own block comes, its body is the one that is put in. -/
theorem SoleBlock.foldl_carry (sole : SoleBlock head id old tail) {blocks : List Block}
    (read : ∀ block ∈ blocks, IsName block.opened ∧ Sealed block.opened block.body)
    {order : List (List Char × List Char)} (collects : Collects blocks order) :
    order.foldl carry (around head id old tail) =
      around head id ((lastBody? id blocks).getD old) tail := by
  have each : ∀ pair ∈ order, IsName pair.1 ∧ Sealed pair.1 pair.2 := by
    intro pair mem
    obtain ⟨block, mem, same, same'⟩ := exists_of_lastBody? ((collects.mem_iff _ _).1 mem)
    rw [← same, ← same']
    exact read block mem
  cases last : lastBody? id blocks with
  | none =>
    refine foldl_carry_others (fun name => sole.absent_other) fun pair mem => ?_
    refine ⟨(each pair mem).1, ?_⟩
    rintro rfl
    have found := (collects.mem_iff pair.1 pair.2).1 mem
    rw [last] at found
    cases found
  | some body =>
    have mem := (collects.mem_iff id body).2 last
    obtain ⟨before, after, rfl⟩ := List.append_of_mem mem
    have once := (List.perm_middle.map Prod.fst).nodup_iff.1 collects.nodup
    rw [List.map_cons, List.nodup_cons] at once
    have others : ∀ pair ∈ before ++ after, IsName pair.1 ∧ pair.1 ≠ id := by
      intro pair mem
      have mem' : pair ∈ before ++ (id, body) :: after := by
        rcases List.mem_append.1 mem with mem | mem
        · exact List.mem_append_left _ mem
        · exact List.mem_append_right _ (List.mem_cons_of_mem _ mem)
      exact ⟨(each pair mem').1, fun own => once.1 (List.mem_map.2 ⟨pair, mem, own⟩)⟩
    rw [List.foldl_append, List.foldl_cons,
      foldl_carry_others (fun name => sole.absent_other)
        fun pair mem => others pair (List.mem_append_left _ mem),
      carry_around (sole.absent_begin sole.isName) (sole.absent_end sole.isName),
      foldl_carry_others (fun name => sole.absent_carried (each _ mem).2)
        fun pair mem => others pair (List.mem_append_right _ mem)]
    rfl

/-- The new text of a file has one block. -/
theorem soleBlock_of_frame (isFrame : IsFrame head id) (isName : IsName id) :
    SoleBlock head id ['\n'] ['\n'] := by
  have slashless (word : String) (wordPlain : '/' ∉ word.toList) (name t : List Char) :=
    absent_marker_tail (t := t) wordPlain isFrame.unslashed (markerStart_begins word name)
  refine ⟨isName, fun name before rest isName' same => ?_, fun name before rest isName' same => ?_⟩
  · refine only_occurrence (marker_ne_nil _ _)
      ((absent_head isFrame.plain _ _ _).longer (markerStart_begins _ _)) ?_ same
    rw [List.tail_append_of_ne_nil (marker_ne_nil _ _)]
    refine .append (slashless "BEGIN" (by decide) _ _) (.append (absent_newline ?_ _)
      (.append ?_ (absent_newline ?_ _)))
    · exact markerStart_begins _ _
    · exact absent_marker (by decide) isFrame.unslashed (markerStart_begins _ _)
        (not_begin_prefix_end _ _ _)
    · exact markerStart_begins _ _
  · have same' : (head ++ (marker "BEGIN" id ++ ['\n'])) ++ (marker "END" id ++ ['\n']) =
        before ++ (marker "END" name ++ rest) := by
      rw [← same, around]
      simp only [List.append_assoc]
    refine only_occurrence (marker_ne_nil _ _) ?_ ?_ same'
    · rw [← List.append_assoc]
      exact (isFrame.absent_end name _).append (absent_newline (markerStart_begins _ _) _)
    · rw [List.tail_append_of_ne_nil (marker_ne_nil _ _)]
      exact .append (slashless "END" (by decide) _ _) (absent_newline (markerStart_begins _ _) _)

/-- **What is carried over.** The merge of a new text with one block fails exactly when some block
of the present text is closed under another name. Otherwise the new text gets the body of the last
block of its name, whatever else the present text holds and in whatever order the blocks of the
present text are handed over, and keeps its own body when there is none. -/
theorem merge_sole (sole : SoleBlock head id old tail) (present : List Char) :
    ∃ blocks, (∀ found, Scans present found ↔ found = blocks) ∧
      ((∃ refusal, merge present (around head id old tail) = .error refusal) ↔
        ∃ block ∈ blocks, block.opened ≠ block.closed) ∧
      ((∀ block ∈ blocks, block.opened = block.closed) →
        merge present (around head id old tail) =
            .ok (around head id ((lastBody? id blocks).getD old) tail) ∧
          ∀ order, Collects blocks order →
            order.foldl carry (around head id old tail) =
              around head id ((lastBody? id blocks).getD old) tail) := by
  have merged : (∀ block ∈ scan present, block.opened = block.closed) →
      ∀ order, Collects (scan present) order →
        order.foldl carry (around head id old tail) =
          around head id ((lastBody? id (scan present)).getD old) tail := by
    intro closed order collects
    refine sole.foldl_carry (fun block mem => ?_) collects
    have ⟨isName, sealed_⟩ := sealed_of_mem_scan mem
    exact ⟨isName, closed block mem ▸ sealed_⟩
  have succeeds : (∀ block ∈ scan present, block.opened = block.closed) →
      merge present (around head id old tail) =
        .ok (around head id ((lastBody? id (scan present)).getD old) tail) := by
    intro closed
    rw [merge, bodies_eq, foldlM_put? closed]
    exact congrArg Except.ok (merged closed _ (collects_foldl _))
  refine ⟨scan present, fun found => scans_iff, ⟨?_, ?_⟩,
    fun closed => ⟨succeeds closed, merged closed⟩⟩
  · rintro ⟨refusal, failed⟩
    by_contra none
    have closed : ∀ block ∈ scan present, block.opened = block.closed := fun block mem =>
      by_contra fun unmatched => none ⟨block, mem, unmatched⟩
    rw [succeeds closed] at failed
    cases failed
  · rintro ⟨block, mem, unmatched⟩
    obtain ⟨refusal, failed⟩ := foldlM_put?_error mem unmatched []
    refine ⟨refusal, ?_⟩
    rw [merge, bodies_eq, failed]
    rfl

end

/-- An end marker that closes nothing, a begin marker inside a body and an earlier block of the same
name do not matter. -/
theorem merge_sole_pinned :
    SoleBlock "new\n".toList ['a'] ['\n'] ['\n'] ∧
      merge ("// <<<FORGE:END custom:a>>> // <<<FORGE:BEGIN custom:a>>>one" ++
          "// <<<FORGE:BEGIN custom:b>>>// <<<FORGE:END custom:a>>>" ++
          "// <<<FORGE:BEGIN custom:a>>>two// <<<FORGE:END custom:a>>>").toList
        (around "new\n".toList ['a'] ['\n'] ['\n']) =
        .ok (around "new\n".toList ['a'] "two".toList ['\n']) := by
  have sole : SoleBlock "new\n".toList ['a'] ['\n'] ['\n'] :=
    soleBlock_of_frame ⟨by decide, by decide, by decide⟩ ⟨by decide, by decide⟩
  have carried : ∀ present,
      scan present = [⟨['a'], "one// <<<FORGE:BEGIN custom:b>>>".toList, ['a']⟩,
        ⟨['a'], "two".toList, ['a']⟩] →
      merge present (around "new\n".toList ['a'] ['\n'] ['\n']) =
        .ok (around "new\n".toList ['a'] "two".toList ['\n']) := by
    intro present read
    obtain ⟨blocks, reading, -, succeeds⟩ := merge_sole sole present
    obtain rfl := (reading _).1 (scans_iff.2 read.symm)
    exact (succeeds (by decide)).1
  exact ⟨sole, carried _ (by decide +kernel)⟩

end Block

end EntityStore
