import EntityStore.Facade.Block
import Mathlib.Data.List.Infix
import Mathlib.Data.List.TakeWhile

/-!
# Blocks that are carried over

A marker is known by its name (`Block.markerAt?_eq_some`), and a block ends at the first end marker
behind its beginning. Whether an end marker begins inside a body is decided before the marker that
closes the body ends (`Block.Sealed`), so a body that was found in one text is found again in every
text that it is carried to. The new text of a file is a head without markers and an empty block
(`Block.frame`); carrying over the blocks of any text gives the head with one body
(`Block.Settled`), and carrying over the blocks of that gives it again: main result
`Block.merge_settled`.
-/

namespace EntityStore

namespace Block

theorem dropPiece?_eq_some {piece cs rest : List Char} :
    dropPiece? piece cs = some rest ↔ cs = piece ++ rest := by
  induction piece generalizing cs with
  | nil =>
    rw [dropPiece?, Option.some.injEq]
    rfl
  | cons p piece ih =>
    cases cs with
    | nil => simp [dropPiece?]
    | cons c cs =>
      rw [dropPiece?]
      split
      · next same => rw [ih, same, List.cons_append, List.cons.injEq, and_iff_right rfl]
      · next different =>
        constructor
        · intro none
          cases none
        · intro same
          rw [List.cons_append, List.cons.injEq] at same
          exact absurd same.1.symm different

theorem dropPiece?_isSome {piece cs : List Char} : (dropPiece? piece cs).isSome ↔ piece <+: cs := by
  rw [Option.isSome_iff_exists]
  simp only [dropPiece?_eq_some]
  exact ⟨fun ⟨rest, same⟩ => ⟨rest, same.symm⟩, fun ⟨rest, same⟩ => ⟨rest, same.symm⟩⟩

/-! ### Markers -/

/-- A name that a marker can be read with. -/
structure IsName (name : List Char) : Prop where
  nonempty : name ≠ []
  open_ : '>' ∉ name

theorem takeWhile_name {name : List Char} (plain : '>' ∉ name) (rest : List Char) :
    (name ++ '>' :: rest).takeWhile (· != '>') = name ∧
      (name ++ '>' :: rest).dropWhile (· != '>') = '>' :: rest := by
  have inside : ∀ c ∈ name, (c != '>') = true := by
    intro c mem
    rw [bne_iff_ne]
    rintro rfl
    exact plain mem
  rw [List.takeWhile_append_of_pos inside, List.dropWhile_append_of_pos inside]
  simp

/-- A marker is read when it stands at the head of the text. -/
theorem markerAt?_eq_some {word : String} {cs name rest : List Char} :
    markerAt? word cs = some (name, rest) ↔ cs = marker word name ++ rest ∧ IsName name := by
  unfold markerAt?
  constructor
  · intro h
    cases begun : dropPiece? (markerHead word) cs with
    | none =>
      rw [begun] at h
      cases h
    | some named =>
      simp only [begun] at h
      split at h
      · cases h
      · next nonempty =>
        obtain ⟨rest', closed, same⟩ := Option.map_eq_some_iff.1 h
        cases same
        have parts := List.takeWhile_append_dropWhile (p := (· != '>')) (l := named)
        rw [dropPiece?_eq_some] at begun closed
        rw [closed] at parts
        refine ⟨?_, fun none => nonempty (List.isEmpty_iff.2 none), fun mem => ?_⟩
        · rw [marker, List.append_assoc, List.append_assoc, parts, begun]
        · exact absurd (List.mem_takeWhile_imp mem) (by decide)
  · rintro ⟨rfl, nonempty, plain⟩
    have begun : dropPiece? (markerHead word) (marker word name ++ rest) =
        some (name ++ '>' :: ('>' :: '>' :: rest)) := by
      rw [dropPiece?_eq_some, marker, markerTail]
      simp
    obtain ⟨taken, dropped⟩ := takeWhile_name plain ('>' :: '>' :: rest)
    have closed : dropPiece? markerTail ('>' :: '>' :: '>' :: rest) = some rest :=
      dropPiece?_eq_some.2 rfl
    simp only [begun, taken, dropped, closed]
    rw [if_neg fun none => nonempty (List.isEmpty_iff.1 none)]
    rfl

/-- A marker that stands at the head of another one and its rest is this marker. -/
theorem name_of_marker_begins {word : String} {name name' rest : List Char} (plain : '>' ∉ name)
    (plain' : '>' ∉ name') (h : marker word name <+: marker word name' ++ rest) : name = name' := by
  obtain ⟨after, same⟩ := h
  simp only [marker, List.append_assoc, List.append_cancel_left_eq, markerTail, List.cons_append,
    List.nil_append] at same
  have taken := congrArg (List.takeWhile (· != '>')) same
  rwa [(takeWhile_name plain _).1, (takeWhile_name plain' _).1] at taken

/-! ### Pieces that are absent -/

/-- The piece does not begin inside the first text when the second follows. -/
def Absent (piece x t : List Char) : Prop :=
  ∀ s, s <:+ x → s ≠ [] → ¬piece <+: s ++ t

namespace Absent

variable {piece x y t : List Char}

theorem nil (piece t : List Char) : Absent piece [] t := by
  intro s suffix nonempty
  exact absurd (List.suffix_nil.1 suffix) nonempty

theorem cons {c : Char} (first : ¬piece <+: c :: x ++ t) (rest : Absent piece x t) :
    Absent piece (c :: x) t := by
  intro s suffix nonempty
  rcases List.suffix_cons_iff.1 suffix with rfl | suffix
  · exact first
  · exact rest s suffix nonempty

theorem head {c : Char} (absent : Absent piece (c :: x) t) : ¬piece <+: c :: x ++ t :=
  absent _ (List.suffix_refl _) (by simp)

theorem tail {c : Char} (absent : Absent piece (c :: x) t) : Absent piece x t :=
  fun s suffix nonempty => absent s (suffix.trans (List.suffix_cons _ _)) nonempty

theorem append (left : Absent piece x (y ++ t)) (right : Absent piece y t) :
    Absent piece (x ++ y) t := by
  induction x with
  | nil => exact right
  | cons c x ih =>
    have first := left.head
    rw [← List.append_assoc] at first
    exact .cons first (ih left.tail)

/-- A longer piece is absent too. -/
theorem longer {piece' : List Char} (absent : Absent piece x t) (part : piece <+: piece') :
    Absent piece' x t :=
  fun s suffix nonempty h => absent s suffix nonempty (part.trans h)

/-- A piece cannot begin where its first character does not occur. -/
theorem of_not_mem {c : Char} (not_mem : c ∉ x) : Absent (c :: piece) x t := by
  intro s suffix nonempty h
  cases s with
  | nil => exact nonempty rfl
  | cons d s =>
    rw [List.cons_append, List.cons_prefix_cons] at h
    exact not_mem (h.1 ▸ suffix.subset List.mem_cons_self)

/-- A piece that is not in a text begins in it neither when no rest of the piece follows. -/
theorem of_not_inside (plain : ¬piece <:+: x)
    (apart : ∀ k, 0 < k → k < piece.length → ¬piece.drop k <+: t) : Absent piece x t := by
  intro s suffix nonempty h
  by_cases long : piece.length ≤ s.length
  · have inside : piece <+: s := List.prefix_of_prefix_length_le h (List.prefix_append _ _) long
    exact plain (inside.isInfix.trans suffix.isInfix)
  · obtain ⟨rest, rfl⟩ : s <+: piece :=
      List.prefix_of_prefix_length_le (List.prefix_append _ _) h (by omega)
    rw [List.prefix_append_right_inj] at h
    refine apart s.length (List.length_pos_iff.2 nonempty) (by omega) ?_
    rwa [List.drop_left]

end Absent

variable {x t : List Char}

/-- What stands before the first occurrence begins with what the piece is absent from. -/
theorem splitAtPiece?_append {piece : List Char} (absent : Absent piece x t) :
    splitAtPiece? piece (x ++ t) =
      (splitAtPiece? piece t).map fun (before, rest) => (x ++ before, rest) := by
  induction x with
  | nil =>
    rw [List.nil_append]
    simp only [List.nil_append, Option.map_id_fun', id_eq]
  | cons c x ih =>
    have first : ¬(dropPiece? piece (c :: (x ++ t))).isSome = true :=
      fun h => absent.head (dropPiece?_isSome.1 h)
    rw [List.cons_append, splitAtPiece?, if_neg first, ih absent.tail, Option.map_map]
    rfl

/-- The first occurrence of a piece is behind what it is absent from. -/
theorem splitAtPiece?_eq_some {piece : List Char} (nonempty : piece ≠ [])
    (absent : Absent piece x (piece ++ t)) :
    splitAtPiece? piece (x ++ (piece ++ t)) = some (x, piece ++ t) := by
  have here : splitAtPiece? piece (piece ++ t) = some ([], piece ++ t) := by
    cases piece with
    | nil => exact absurd rfl nonempty
    | cons c piece =>
      rw [List.cons_append, splitAtPiece?, if_pos]
      exact dropPiece?_isSome.2 (List.prefix_append _ _)
  rw [splitAtPiece?_append absent, here]
  simp

/-- A piece that is absent from all of a text is not found. -/
theorem splitAtPiece?_eq_none {piece : List Char} (nonempty : piece ≠ [])
    (absent : Absent piece x []) :
    splitAtPiece? piece x = none := by
  have split := splitAtPiece?_append absent
  rw [List.append_nil, splitAtPiece?, if_neg fun none => nonempty (List.isEmpty_iff.1 none)]
    at split
  exact split

/-- Where no begin marker begins there is no block. -/
theorem scan_append (absent : ∀ name, IsName name → Absent (marker "BEGIN" name) x t) :
    scan (x ++ t) = scan t := by
  induction x with
  | nil => rfl
  | cons c x ih =>
    have none : blockAt? (c :: (x ++ t)) = none := by
      cases begun : markerAt? "BEGIN" (c :: (x ++ t)) with
      | none => rw [blockAt?, begun, Option.bind_none]
      | some found =>
        obtain ⟨name, rest⟩ := found
        obtain ⟨same, isName⟩ := markerAt?_eq_some.1 begun
        exact absurd ⟨rest, same.symm⟩ (absent name isName).head
    rw [List.cons_append, scan]
    split
    · next found =>
      rw [none] at found
      cases found
    · exact ih fun name isName => (absent name isName).tail

/-! ### The end of a block -/

/-- No end marker begins inside the body when the marker of the name follows, whatever comes after
it. -/
def Sealed (name body : List Char) : Prop :=
  ∀ other rest, IsName other → Absent (marker "END" other) body (marker "END" name ++ rest)

/-- A marker that begins in front of the brackets that close another one ends with them at the
latest: they close it too. -/
theorem marker_prefix_of_append {word : String} {other x rest : List Char} (plain : '>' ∉ other)
    (wordPlain : '>' ∉ markerHead word) (h : marker word other <+: x ++ markerTail ++ rest) :
    marker word other <+: x ++ markerTail := by
  rcases List.prefix_or_prefix_of_prefix h (List.prefix_append _ rest) with inside | ⟨z, longer⟩
  · exact inside
  · have closes : (marker word other).count '>' = 3 := by
      rw [marker, List.count_append, List.count_append, List.count_eq_zero.2 plain,
        List.count_eq_zero.2 wordPlain]
      rfl
    have none : '>' ∉ z := by
      have more : 3 ≤ (x ++ markerTail).count '>' := by
        rw [List.count_append]
        exact Nat.le_add_left _ _
      have total := congrArg (List.count '>') longer
      rw [List.count_append, closes] at total
      exact List.count_eq_zero.1 (by omega)
    cases z using List.reverseRecOn with
    | nil => exact ⟨[], by rw [List.append_nil, ← longer, List.append_nil]⟩
    | append_singleton z c =>
      have last := congrArg List.getLast? longer
      rw [← List.append_assoc, List.getLast?_concat, marker, markerTail] at last
      simp at last
      exact absurd (by simp [last]) none

/-- What follows the end marker of a body does not matter. -/
theorem sealed_of_absent {name body rest : List Char}
    (absent : ∀ other, IsName other →
      Absent (marker "END" other) body (marker "END" name ++ rest)) :
    Sealed name body := by
  intro other rest' isOther s suffix nonempty h
  have written : marker "END" name = markerHead "END" ++ name ++ markerTail := rfl
  rw [written, ← List.append_assoc, ← List.append_assoc] at h
  have inside := marker_prefix_of_append isOther.open_ (by decide) h
  refine absent other isOther s suffix nonempty ?_
  rw [written, ← List.append_assoc, ← List.append_assoc]
  exact inside.trans (List.prefix_append _ _)

/-- A block ends at its first end marker. -/
theorem closing?_eq_some {cs body name rest : List Char} :
    closing? cs = some (body, name, rest) ↔
      cs = body ++ (marker "END" name ++ rest) ∧ IsName name ∧
        ∀ other, IsName other → Absent (marker "END" other) body (marker "END" name ++ rest) := by
  induction cs generalizing body with
  | nil =>
    refine ⟨nofun, fun h => ?_⟩
    have impossible := congrArg List.length h.1
    simp [marker, markerTail] at impossible
  | cons c cs ih =>
    rw [closing?]
    cases ended : markerAt? "END" (c :: cs) with
    | some found =>
      obtain ⟨name', rest'⟩ := found
      obtain ⟨same, isName'⟩ := markerAt?_eq_some.1 ended
      constructor
      · rintro ⟨⟩
        exact ⟨same, isName', fun _ _ => .nil _ _⟩
      · rintro ⟨same', isName, absent⟩
        cases body with
        | nil =>
          have again := markerAt?_eq_some.2 ⟨same', isName⟩
          rw [ended] at again
          cases again
          rfl
        | cons d body =>
          have here := (absent name' isName').head
          rw [List.cons_append, ← List.cons_append, ← same', same] at here
          exact absurd (List.prefix_append _ _) here
    | none =>
      rw [Option.map_eq_some_iff]
      constructor
      · rintro ⟨⟨body', name', rest'⟩, closed, same⟩
        cases same
        obtain ⟨rfl, isName, absent⟩ := ih.1 closed
        refine ⟨rfl, isName, fun other isOther => .cons ?_ (absent other isOther)⟩
        rintro ⟨after, begun⟩
        have read := markerAt?_eq_some.2 ⟨begun.symm, isOther⟩
        rw [List.cons_append, ended] at read
        cases read
      · rintro ⟨same, isName, absent⟩
        cases body with
        | nil =>
          have read := markerAt?_eq_some.2 ⟨same, isName⟩
          rw [ended] at read
          cases read
        | cons d body =>
          rw [List.cons_append, List.cons.injEq] at same
          obtain ⟨rfl, rfl⟩ := same
          exact ⟨_, ih.2 ⟨rfl, isName, fun other isOther => (absent other isOther).tail⟩, rfl⟩

theorem blockAt?_eq_some {cs rest : List Char} {block : Block} :
    blockAt? cs = some (block, rest) ↔
      cs = marker "BEGIN" block.opened ++
        (block.body ++ (marker "END" block.closed ++ rest)) ∧
      IsName block.opened ∧ IsName block.closed ∧ ∀ other, IsName other →
        Absent (marker "END" other) block.body (marker "END" block.closed ++ rest) := by
  rw [blockAt?, Option.bind_eq_some_iff]
  constructor
  · rintro ⟨⟨opened, inside⟩, begun, ended⟩
    obtain ⟨⟨body, closed, after⟩, closes, same⟩ := Option.map_eq_some_iff.1 ended
    cases same
    obtain ⟨rfl, isOpened⟩ := markerAt?_eq_some.1 begun
    obtain ⟨rfl, isClosed, absent⟩ := closing?_eq_some.1 closes
    exact ⟨rfl, isOpened, isClosed, absent⟩
  · rintro ⟨rfl, isOpened, isClosed, absent⟩
    exact ⟨_, markerAt?_eq_some.2 ⟨rfl, isOpened⟩,
      Option.map_eq_some_iff.2 ⟨_, closing?_eq_some.2 ⟨rfl, isClosed, absent⟩, rfl⟩⟩

/-- Every block of a text has a name, and its body is sealed by the marker that closes it. -/
theorem sealed_of_mem_scan {cs : List Char} {block : Block} (mem : block ∈ scan cs) :
    IsName block.opened ∧ Sealed block.closed block.body := by
  induction cs using scan.induct with
  | case1 =>
    rw [scan] at mem
    cases mem
  | case2 c cs first rest found ih =>
    rw [scan] at mem
    split at mem
    · next first' rest' found' =>
      rw [found] at found'
      cases found'
      rcases List.mem_cons.1 mem with rfl | mem
      · obtain ⟨-, isOpened, -, absent⟩ := blockAt?_eq_some.1 found
        exact ⟨isOpened, sealed_of_absent absent⟩
      · exact ih mem
    · next none =>
      rw [found] at none
      cases none
  | case3 c cs none ih =>
    rw [scan] at mem
    split at mem
    · next found =>
      rw [none] at found
      cases found
    · exact ih mem

/-- The bodies that are carried over are those of blocks of the text. -/
theorem sealed_of_bodies {cs : List Char} {blocks : List (List Char × List Char)}
    (h : bodies (scan cs) = .ok blocks) :
    ∀ block ∈ blocks, IsName block.1 ∧ Sealed block.1 block.2 := by
  have each : ∀ block ∈ scan cs, IsName block.opened ∧ Sealed block.closed block.body :=
    fun block mem => sealed_of_mem_scan mem
  unfold bodies at h
  generalize scan cs = found at h each
  suffices carried : ∀ done : List (List Char × List Char),
      (∀ block ∈ done, IsName block.1 ∧ Sealed block.1 block.2) →
      found.foldlM (fun done block =>
        if block.opened = block.closed then
          (.ok (done.filter (·.1 != block.opened) ++ [(block.opened, block.body)]) :
            Except UnmatchedBlock _)
        else .error ⟨String.ofList block.opened, String.ofList block.closed⟩) done = .ok blocks →
      ∀ block ∈ blocks, IsName block.1 ∧ Sealed block.1 block.2 from
    carried [] (fun _ none => nomatch none) h
  clear h
  induction found with
  | nil =>
    rintro done before ⟨⟩
    exact before
  | cons first rest ih =>
    intro done before h
    obtain ⟨isName, sealed_⟩ := each first List.mem_cons_self
    rw [List.foldlM_cons] at h
    by_cases same : first.opened = first.closed
    · rw [if_pos same] at h
      refine ih (fun block mem => each block (List.mem_cons_of_mem _ mem)) _ ?_ h
      intro block mem
      rcases List.mem_append.1 mem with mem | mem
      · exact before block (List.mem_filter.1 mem).1
      · rw [List.mem_singleton.1 mem]
        exact ⟨isName, same ▸ sealed_⟩
    · rw [if_neg same] at h
      cases h

/-! ### Where markers begin -/

/-- What every marker begins with. -/
def markerStart : List Char := ['/', '/', ' ', '<', '<', '<', 'F', 'O', 'R', 'G', 'E', ':']

theorem marker_eq (word : String) (name : List Char) :
    marker word name = markerStart ++
      (word.toList ++ (" custom:".toList ++ (name ++ markerTail))) := by
  have start : "// <<<FORGE:".toList = markerStart := by decide
  rw [marker, markerHead, String.toList_append, String.toList_append, start]
  simp only [List.append_assoc]

theorem markerStart_begins (word : String) (name : List Char) : markerStart <+: marker word name :=
  ⟨_, (marker_eq word name).symm⟩

/-- No marker begins in a head without the beginning of one, also when a marker follows. -/
theorem absent_head {head : List Char} (plain : ¬markerStart <:+: head) (word : String)
    (name t : List Char) : Absent markerStart head (marker word name ++ t) := by
  refine .of_not_inside plain fun k positive short => ?_
  -- An occurrence that reaches into the marker would make the beginning overlap itself.
  have unbordered : ∀ k ∈ List.range 12, 0 < k →
      ¬(markerStart.drop k).isPrefixOf markerStart = true := by decide
  intro h
  obtain ⟨more, same⟩ := markerStart_begins word name
  rw [← same, List.append_assoc] at h
  have overlap : markerStart.drop k <+: markerStart :=
    List.prefix_of_prefix_length_le h (List.prefix_append _ _) (by rw [List.length_drop]; omega)
  exact unbordered k (List.mem_range.2 short) positive (List.isPrefixOf_iff_prefix.2 overlap)

/-- No marker begins behind the first slash of a marker whose name has none. -/
theorem absent_marker_tail {word : String} {name piece t : List Char}
    (wordPlain : '/' ∉ word.toList) (namePlain : '/' ∉ name) (begins : markerStart <+: piece) :
    Absent piece (marker word name).tail t := by
  rw [marker_eq]
  refine .cons (fun h => ?_) ?_
  · exact absurd (List.cons_prefix_cons.1 (List.cons_prefix_cons.1 (begins.trans h)).2).1
      (by decide)
  · refine Absent.longer (.of_not_mem (c := '/') ?_) begins
    change '/' ∉ [' ', '<', '<', '<', 'F', 'O', 'R', 'G', 'E', ':'] ++ (word.toList ++
      (" custom:".toList ++ (name ++ markerTail)))
    simp only [List.mem_append, not_or]
    exact ⟨by decide, wordPlain, by decide, namePlain, by decide⟩

/-- No marker begins inside a marker whose name has no slash. -/
theorem absent_marker {word : String} {name piece t : List Char} (wordPlain : '/' ∉ word.toList)
    (namePlain : '/' ∉ name) (begins : markerStart <+: piece)
    (first : ¬piece <+: marker word name ++ t) : Absent piece (marker word name) t := by
  have behind := absent_marker_tail (t := t) wordPlain namePlain begins
  rw [marker_eq] at first behind ⊢
  exact .cons first behind

theorem marker_ne_nil (word : String) (name : List Char) : marker word name ≠ [] := by
  rw [marker_eq]
  exact List.cons_ne_nil _ _

theorem not_end_prefix_begin (name id t : List Char) :
    ¬marker "END" name <+: marker "BEGIN" id ++ t := by
  have ending : "END".toList = ['E', 'N', 'D'] := by decide
  have beginning : "BEGIN".toList = ['B', 'E', 'G', 'I', 'N'] := by decide
  rw [marker_eq, marker_eq, List.append_assoc, List.prefix_append_right_inj, ending, beginning]
  exact fun h => absurd (List.cons_prefix_cons.1 h).1 (by decide)

theorem not_begin_prefix_end (name id t : List Char) :
    ¬marker "BEGIN" name <+: marker "END" id ++ t := by
  have ending : "END".toList = ['E', 'N', 'D'] := by decide
  have beginning : "BEGIN".toList = ['B', 'E', 'G', 'I', 'N'] := by decide
  rw [marker_eq, marker_eq, List.append_assoc, List.prefix_append_right_inj, ending, beginning]
  exact fun h => absurd (List.cons_prefix_cons.1 h).1 (by decide)

theorem absent_newline {piece : List Char} (begins : markerStart <+: piece) (t : List Char) :
    Absent piece ['\n'] t :=
  Absent.longer (Absent.of_not_mem (c := '/') (by decide)) begins

theorem sealed_newline (id : List Char) : Sealed id ['\n'] :=
  fun other _ _ => absent_newline (markerStart_begins "END" other) _

/-! ### Carrying a body over -/

/-- A body between the markers of a name. -/
def around (head id body tail : List Char) : List Char :=
  head ++ (marker "BEGIN" id ++ (body ++ (marker "END" id ++ tail)))

/-- A new body takes the place of the old one between the first markers of its name. -/
theorem carry_around {head id body tail : List Char}
    (begins : Absent (marker "BEGIN" id) head
      (marker "BEGIN" id ++ (body ++ (marker "END" id ++ tail))))
    (ends : Absent (marker "END" id) (head ++ (marker "BEGIN" id ++ body))
      (marker "END" id ++ tail)) (body' : List Char) :
    carry (around head id body tail) (id, body') = around head id body' tail := by
  have opening : splitAtPiece? (marker "BEGIN" id) (around head id body tail) =
      some (head, marker "BEGIN" id ++ (body ++ (marker "END" id ++ tail))) :=
    splitAtPiece?_eq_some (marker_ne_nil _ _) begins
  have closing : splitAtPiece? (marker "END" id) (around head id body tail) =
      some (head ++ (marker "BEGIN" id ++ body), marker "END" id ++ tail) := by
    have found := splitAtPiece?_eq_some (marker_ne_nil _ _) ends
    rwa [List.append_assoc, List.append_assoc] at found
  have later : head.length < (head ++ (marker "BEGIN" id ++ body)).length := by
    have := List.length_pos_of_ne_nil (marker_ne_nil "BEGIN" id)
    rw [List.length_append, List.length_append]
    omega
  rw [carry, opening, closing]
  refine (if_pos later).trans ?_
  simp only [around, List.append_assoc]

/-- A block has no place in a text without its end marker. -/
theorem carry_of_absent {text name : List Char} (absent : Absent (marker "END" name) text [])
    (body : List Char) : carry text (name, body) = text := by
  rw [carry, splitAtPiece?_eq_none (marker_ne_nil _ _) absent]
  cases splitAtPiece? (marker "BEGIN" name) text <;> rfl

/-! ### The new text of a file -/

/-- A head in which no marker begins, and a name that can be written into a marker. -/
structure IsFrame (head id : List Char) : Prop where
  plain : ¬markerStart <:+: head
  unslashed : '/' ∉ id
  open_ : '>' ∉ id

/-- The head and the block of the name, with a body. -/
def frame (head id body : List Char) : List Char :=
  head ++ (marker "BEGIN" id ++ (body ++ (marker "END" id ++ ['\n'])))

section

variable {head id body : List Char}

/-- No end marker begins before the body. -/
theorem IsFrame.absent_end (isFrame : IsFrame head id) (name t : List Char) :
    Absent (marker "END" name) (head ++ marker "BEGIN" id) t :=
  .append ((absent_head isFrame.plain _ _ _).longer (markerStart_begins _ _))
    (absent_marker (by decide) isFrame.unslashed (markerStart_begins _ _)
      (not_end_prefix_begin _ _ _))

/-- A new body takes the place of the old one. -/
theorem carry_frame (isFrame : IsFrame head id) (isName : IsName id) (sealed_ : Sealed id body)
    (body' : List Char) : carry (frame head id body) (id, body') = frame head id body' := by
  have ends : Absent (marker "END" id) (head ++ (marker "BEGIN" id ++ body))
      (marker "END" id ++ ['\n']) := by
    rw [← List.append_assoc]
    exact (isFrame.absent_end id _).append (sealed_ id _ isName)
  exact carry_around ((absent_head isFrame.plain _ _ _).longer (markerStart_begins _ _)) ends body'

/-- A block of another name has no place in the text. -/
theorem carry_frame_other (isFrame : IsFrame head id) (sealed_ : Sealed id body)
    {name : List Char} (isName : IsName name) (other : name ≠ id) (body' : List Char) :
    carry (frame head id body) (name, body') = frame head id body := by
  refine carry_of_absent ?_ body'
  rw [frame, ← List.append_assoc]
  refine (isFrame.absent_end name _).append (Absent.append ?_ (Absent.append ?_ ?_))
  · rw [List.append_nil]
    exact sealed_ name _ isName
  · refine absent_marker (by decide) isFrame.unslashed (markerStart_begins _ _) fun h => ?_
    exact other (name_of_marker_begins isName.open_ isFrame.open_ h)
  · exact absent_newline (markerStart_begins _ _) _

/-- Carrying over any blocks leaves the head and one body, which no block changes whose name cannot
be read. -/
theorem foldl_carry (isFrame : IsFrame head id) {blocks : List (List Char × List Char)}
    (each : ∀ block ∈ blocks, IsName block.1 ∧ Sealed block.1 block.2) (sealed_ : Sealed id body) :
    ∃ body', Sealed id body' ∧ (¬IsName id → body' = body) ∧
      blocks.foldl carry (frame head id body) = frame head id body' := by
  induction blocks generalizing body with
  | nil => exact ⟨body, sealed_, fun _ => rfl, rfl⟩
  | cons first rest ih =>
    obtain ⟨name, body'⟩ := first
    obtain ⟨isName, sealedToo⟩ := each _ List.mem_cons_self
    have later := fun block mem => each block (List.mem_cons_of_mem _ mem)
    rw [List.foldl_cons]
    by_cases own : name = id
    · subst own
      rw [carry_frame isFrame isName sealed_]
      obtain ⟨final, sealedFinal, -, same⟩ := ih later sealedToo
      exact ⟨final, sealedFinal, fun unnamed => absurd isName unnamed, same⟩
    · rw [carry_frame_other isFrame sealed_ isName own]
      exact ih later sealed_

theorem scan_newline (t : List Char) : scan (['\n'] ++ t) = scan t :=
  scan_append fun name _ => absent_newline (markerStart_begins "BEGIN" name) _

/-- The block of the text is found again, with its body. -/
theorem scan_frame (isFrame : IsFrame head id) (isName : IsName id) (sealed_ : Sealed id body) :
    scan (frame head id body) = [⟨id, body, id⟩] := by
  have found : blockAt? (marker "BEGIN" id ++ (body ++ (marker "END" id ++ ['\n']))) =
      some (⟨id, body, id⟩, ['\n']) :=
    blockAt?_eq_some.2 ⟨rfl, isName, isName, fun other isOther => sealed_ other _ isOther⟩
  have rest : scan ['\n'] = [] := (scan_newline []).trans scan.eq_1
  rw [frame, scan_append fun name _ => (absent_head isFrame.plain _ _ _).longer
    (markerStart_begins _ _)]
  generalize marker "BEGIN" id ++ (body ++ (marker "END" id ++ ['\n'])) = text at found
  cases text with
  | nil => cases found
  | cons c cs =>
    rw [scan]
    split
    · next again =>
      rw [found] at again
      cases again
      rw [rest]
    · next none =>
      rw [found] at none
      cases none

/-- Without a name that can be read there is no block. -/
theorem scan_frame_unnamed (isFrame : IsFrame head id) (unnamed : ¬IsName id) :
    scan (frame head id ['\n']) = [] := by
  have first : ∀ name, IsName name → ∀ t, ¬marker "BEGIN" name <+: marker "BEGIN" id ++ t := by
    intro name isName t h
    exact unnamed (name_of_marker_begins isName.open_ isFrame.open_ h ▸ isName)
  rw [frame, scan_append fun name _ => (absent_head isFrame.plain _ _ _).longer
      (markerStart_begins _ name),
    scan_append fun name isName => absent_marker (by decide) isFrame.unslashed
      (markerStart_begins _ name) (first name isName _),
    scan_newline,
    scan_append fun name _ => absent_marker (by decide) isFrame.unslashed
      (markerStart_begins _ name) (not_begin_prefix_end name _ _)]
  exact (scan_newline []).trans scan.eq_1

/-- A text that has come from carrying blocks over into the new text. -/
inductive Settled (head id : List Char) : List Char → Prop
  | mk (body : List Char) (sealed_ : Sealed id body) (unnamed : ¬IsName id → body = ['\n']) :
    Settled head id (frame head id body)

theorem settled_new (head id : List Char) : Settled head id (frame head id ['\n']) :=
  ⟨_, sealed_newline id, fun _ => rfl⟩

/-- Whatever a file holds, its blocks are carried over into a settled text. -/
theorem settled_of_merge (isFrame : IsFrame head id) {present merged : List Char}
    (h : merge present (frame head id ['\n']) = .ok merged) : Settled head id merged := by
  cases carried : bodies (scan present) with
  | error block =>
    rw [merge, carried] at h
    cases h
  | ok blocks =>
    rw [merge, carried] at h
    obtain ⟨body, sealed_, unnamed, same⟩ :=
      foldl_carry isFrame (sealed_of_bodies carried) (sealed_newline id)
    have same' : merged = frame head id body := (Except.ok.inj h).symm.trans same
    rw [same']
    exact ⟨body, sealed_, unnamed⟩

/-- **Carrying over the blocks of a settled text changes nothing.** -/
theorem merge_settled (isFrame : IsFrame head id) {text : List Char}
    (settled : Settled head id text) :
    merge text (frame head id ['\n']) = .ok text := by
  obtain ⟨body, sealed_, unnamed⟩ := settled
  by_cases isName : IsName id
  · have found : bodies (scan (frame head id body)) = .ok [(id, body)] := by
      rw [scan_frame isFrame isName sealed_, bodies, List.foldlM_cons, if_pos rfl]
      rfl
    rw [merge, found]
    exact congrArg Except.ok (carry_frame isFrame isName (sealed_newline id) body)
  · rw [unnamed isName, merge, scan_frame_unnamed isFrame isName]
    rfl

end

end Block

end EntityStore
