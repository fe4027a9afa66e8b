import EntityStore.Document.Decode

/-!
# Blocks of code written by hand

A generated file can hold blocks between a line `// <<<FORGE:BEGIN custom:id>>>` and a line
`// <<<FORGE:END custom:id>>>`. What stands in them is carried over into the next generation of the
file. Blocks are found by scanning a text from left to right; a block ends at the first end marker
after its beginning, which must carry the same name.
-/

namespace EntityStore

/-- A block as it stands in a text: the name it is opened with, what it holds, and the name it is
closed with. -/
structure Block where
  opened : List Char
  body : List Char
  closed : List Char
deriving DecidableEq, Repr

/-- A block that is closed under another name. -/
structure UnmatchedBlock where
  opened : String
  closed : String
deriving DecidableEq, Repr

namespace Block

/-- The beginning of a marker, up to its name. -/
def markerHead (word : String) : List Char :=
  ("// <<<FORGE:" ++ word ++ " custom:").toList

/-- The end of a marker. -/
def markerTail : List Char := ['>', '>', '>']

/-- The marker of a name. -/
def marker (word : String) (name : List Char) : List Char :=
  markerHead word ++ name ++ markerTail

/-- What follows a piece of text at the head of another. -/
def dropPiece? : List Char → List Char → Option (List Char)
  | [], cs => some cs
  | _ :: _, [] => none
  | p :: piece, c :: cs => if p = c then dropPiece? piece cs else none

theorem length_of_dropPiece? {piece cs rest : List Char} (h : dropPiece? piece cs = some rest) :
    rest.length + piece.length = cs.length := by
  induction piece generalizing cs with
  | nil => simp_all [dropPiece?]
  | cons p piece ih =>
    cases cs with
    | nil => simp [dropPiece?] at h
    | cons c cs =>
      simp only [dropPiece?] at h
      split at h
      · have := ih h; simp only [List.length_cons]; omega
      · simp at h

/-- The name of the marker that stands at the head of a text, and what follows the marker. A name is
not empty and holds no `>`. -/
def markerAt? (word : String) (cs : List Char) : Option (List Char × List Char) :=
  match dropPiece? (markerHead word) cs with
  | none => none
  | some named =>
    let name := named.takeWhile (· != '>')
    if name.isEmpty then none
    else (dropPiece? markerTail (named.dropWhile (· != '>'))).map fun rest => (name, rest)

/-- What stands before the first end marker, the name of that marker, and what follows it. -/
def closing? : List Char → Option (List Char × List Char × List Char)
  | [] => none
  | c :: cs =>
    match markerAt? "END" (c :: cs) with
    | some (name, rest) => some ([], name, rest)
    | none => (closing? cs).map fun (body, name, rest) => (c :: body, name, rest)

/-- The block that begins at the head of a text, and what follows it. -/
def blockAt? (cs : List Char) : Option (Block × List Char) :=
  (markerAt? "BEGIN" cs).bind fun (opened, inside) =>
    (closing? inside).map fun (body, closed, rest) => (⟨opened, body, closed⟩, rest)

theorem length_of_markerAt? {word : String} {cs name rest : List Char}
    (h : markerAt? word cs = some (name, rest)) : rest.length < cs.length := by
  simp only [markerAt?] at h
  split at h
  · simp at h
  · rename_i named hnamed
    split at h
    · simp at h
    · simp only [Option.map_eq_some_iff, Prod.mk.injEq] at h
      obtain ⟨_, hrest, -, rfl⟩ := h
      have h1 := length_of_dropPiece? hnamed
      have h2 := length_of_dropPiece? hrest
      have h3 : (named.dropWhile (· != '>')).length ≤ named.length :=
        (List.dropWhile_sublist _).length_le
      simp only [markerTail, List.length_cons, List.length_nil] at h2
      omega

theorem length_of_closing? {cs body name rest : List Char}
    (h : closing? cs = some (body, name, rest)) : rest.length < cs.length := by
  induction cs generalizing body with
  | nil => simp [closing?] at h
  | cons c cs ih =>
    simp only [closing?] at h
    split at h
    · rename_i hm
      simp only [Option.some.injEq, Prod.mk.injEq] at h
      obtain ⟨-, -, rfl⟩ := h
      exact length_of_markerAt? hm
    · simp only [Option.map_eq_some_iff, Prod.mk.injEq] at h
      obtain ⟨⟨b, n, r⟩, hc, -, rfl, rfl⟩ := h
      exact Nat.lt_succ_of_lt (ih hc)

theorem length_of_blockAt? {cs rest : List Char} {block : Block}
    (h : blockAt? cs = some (block, rest)) : rest.length < cs.length := by
  simp only [blockAt?, Option.bind_eq_some_iff, Option.map_eq_some_iff, Prod.mk.injEq] at h
  obtain ⟨⟨opened, inside⟩, hm, ⟨body, closed, rest'⟩, hc, -, hr⟩ := h
  subst hr
  exact Nat.lt_trans (length_of_closing? hc) (length_of_markerAt? hm)

/-- The blocks of a text, from left to right. -/
def scan : List Char → List Block
  | [] => []
  | c :: cs =>
    match _h : blockAt? (c :: cs) with
    | some (block, rest) => block :: scan rest
    | none => scan cs
termination_by cs => cs.length
decreasing_by
  · exact length_of_blockAt? _h
  · simp

/-- The bodies of the blocks by their names. Of two blocks of one name the later one counts; a block
that is closed under another name is refused. -/
def bodies (blocks : List Block) : Except UnmatchedBlock (List (List Char × List Char)) :=
  blocks.foldlM (fun done block =>
    if block.opened = block.closed then
      .ok (done.filter (·.1 != block.opened) ++ [(block.opened, block.body)])
    else .error ⟨String.ofList block.opened, String.ofList block.closed⟩) []

/-- What stands before the first occurrence of a piece in a text, and the text from there on. -/
def splitAtPiece? (piece : List Char) : List Char → Option (List Char × List Char)
  | [] => if piece.isEmpty then some ([], []) else none
  | c :: cs =>
    if (dropPiece? piece (c :: cs)).isSome then some ([], c :: cs)
    else (splitAtPiece? piece cs).map fun (before, rest) => (c :: before, rest)

/-- Puts a body between the first markers of a name, if the end marker stands after the begin
marker. -/
def carry (text : List Char) (block : List Char × List Char) : List Char :=
  let opening := marker "BEGIN" block.1
  match splitAtPiece? opening text, splitAtPiece? (marker "END" block.1) text with
  | some (before, _), some (untilEnd, fromEnd) =>
    if before.length < untilEnd.length then before ++ opening ++ block.2 ++ fromEnd else text
  | _, _ => text

/-- The new text of a file with the blocks of its present text carried over. -/
def merge (present new : List Char) : Except UnmatchedBlock (List Char) :=
  (bodies (scan present)).map fun blocks => blocks.foldl carry new

end Block

end EntityStore
