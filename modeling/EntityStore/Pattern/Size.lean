import EntityStore.Pattern.Basic

/-!
# The size of patterns

Patterns are limited by the size of the machine that would recognise their matches in the bytes of
a text. `Pattern.size` counts the bytes of its states: 32 for a state, and more where it leads to
several others. It is counted for the machine that reads a text onwards, which also notes the
groups, and for the one that reads it backwards. Counted repetitions repeat the states of their
body, so short patterns may exceed the limit.
-/

namespace EntityStore

open Text (CharSet)

/-- An interval of bytes. -/
abbrev ByteRange := Nat × Nat

namespace Utf8

/-- The bytes of a code point, the last one first. -/
def tail : Nat → Nat → List Nat
  | 0, _ => []
  | count + 1, n => (0x80 + n % 64) :: tail count (n / 64)

/-- The bytes of a code point. -/
def bytes (n : Nat) : List Nat :=
  if n < 0x80 then [n]
  else if n < 0x800 then (0xC0 + n / 64) :: (tail 1 n).reverse
  else if n < 0x10000 then (0xE0 + n / 4096) :: (tail 2 n).reverse
  else (0xF0 + n / 262144) :: (tail 3 n).reverse

/-- Where the range has to be cut for its bytes to vary on their own: the surrogates are left out,
all code points have as many bytes, and below a byte that varies the lower ones take all values. -/
def cut? (low high : Nat) : Option ((Nat × Nat) × (Nat × Nat)) :=
  if low ≤ 0xDFFF ∧ 0xD800 ≤ high then some ((low, 0xD7FF), (0xE000, high))
  else
    match [0x7F, 0x7FF, 0xFFFF].find? fun last => decide (low ≤ last ∧ last < high) with
    | some last => some ((low, last), (last + 1, high))
    | none =>
      if high < 0x80 then none
      else
        match [64, 4096, 262144].find? fun block => decide (low / block ≠ high / block ∧
            (low % block ≠ 0 ∨ high % block ≠ block - 1)) with
        | some block =>
          if low % block ≠ 0 then
            let last := low - low % block + block - 1
            some ((low, last), (last + 1, high))
          else
            let first := high - high % block
            some ((low, first - 1), (first, high))
        | none => none

/-- The code points from `low` to `high` as sequences of byte ranges, in ascending order. -/
def sequences : Nat → Nat → Nat → List (List ByteRange)
  | 0, _, _ => []
  | cuts + 1, low, high =>
    if high < low then []
    else
      match cut? low high with
      | some ((a, b), (c, d)) => sequences cuts a b ++ sequences cuts c d
      | none => [(bytes low).zip (bytes high)]

/-- The characters of a set as sequences of byte ranges. No range is cut more than 32 times on the
way to a sequence. -/
def sequencesOf (set : CharSet) : List (List ByteRange) :=
  set.ranges.flatMap fun (low, high) => sequences 32 low high

/-- The states of a machine that reads sequences: to each byte range the number of the next state,
counted from 1; 0 ends a sequence. -/
abbrev States := List (List (ByteRange × Nat))

/-- The number of `state`, which joins the others when it is not among them. -/
def States.intern (states : States) (state : List (ByteRange × Nat)) : States × Nat :=
  match states.idxOf? state with
  | some i => (states, i + 1)
  | none => (states ++ [state], states.length + 1)

/-- The states that read the sequences, equal ones only once. -/
def intern : Nat → States → List (List ByteRange) → States × Nat
  | 0, states, _ => (states, 0)
  | length + 1, states, sequences =>
    if sequences.all List.isEmpty then (states, 0)
    else
      let groups := sequences.splitBy fun a b => a.head? == b.head?
      let (states, branches) := groups.foldl (fun (states, branches) group =>
        match group with
        | (range :: _) :: _ =>
          let (states, next) := intern length states (group.map List.tail)
          (states, branches ++ [(range, next)])
        | _ => (states, branches)) (states, [])
      states.intern branches

/-- The number of sequences' beginnings that are not also beginnings of the sequence before. -/
def beginnings (before : List ByteRange) : List (List ByteRange) → Nat
  | [] => 0
  | s :: rest => s.length - common before s + beginnings s rest
where
  /-- How long two sequences agree. -/
  common : List ByteRange → List ByteRange → Nat
    | a :: as, b :: bs => if a = b then common as bs + 1 else 0
    | _, _ => 0

end Utf8

namespace Pattern

/-- A state, and each of the others that it leads to when it leads to several by reading a byte. -/
def stateSize : Nat := 32

/-- A way out of a state that reads a byte. -/
def waySize : Nat := 8

/-- A way out of a state that reads nothing. -/
def branchSize : Nat := 4

/-- The states for a choice of byte ranges. -/
def choiceSize (ranges : Nat) : Nat :=
  stateSize + (if ranges = 1 then 0 else waySize * ranges)

/-- The states for one character of a set. -/
def setSize (backward : Bool) (set : CharSet) : Nat :=
  match set.ranges with
  | [(low, high)] =>
    if low = high then stateSize * (Utf8.bytes low).length else ofRanges [(low, high)]
  | ranges => ofRanges ranges
where
  ofRanges (ranges : List (Nat × Nat)) : Nat :=
    if ranges.all fun (_, high) => high < 0x80 then stateSize + choiceSize ranges.length
    else
      let sequences := Utf8.sequencesOf set
      if backward then
        2 * stateSize + branchSize * sequences.length + stateSize * Utf8.beginnings [] sequences
      else
        let states := (Utf8.intern 4 [] sequences).1
        states.foldl (fun sum state => sum + choiceSize state.length) stateSize

/-- The pattern matches at most the empty text. -/
def takesNothing : Pattern → Bool
  | .empty => true
  | .leaf (.one _) => false
  | .leaf (.edge _) => true
  | .seq first second | .alt first second => takesNothing first && takesNothing second
  | .group body => takesNothing body
  | .many body _ high => high == some 0 || takesNothing body

/-- The pattern may match the empty text. -/
def mayBeEmpty : Pattern → Bool
  | .empty => true
  | .leaf (.one _) => false
  | .leaf (.edge _) => true
  | .seq first second => mayBeEmpty first && mayBeEmpty second
  | .alt first second => mayBeEmpty first || mayBeEmpty second
  | .group body => mayBeEmpty body
  | .many body low _ => low == 0 || mayBeEmpty body

/-- The single characters that the pattern matches, when it matches nothing else. -/
def single? : Pattern → Option CharSet
  | .leaf (.one set) => some set
  | .alt first second =>
    match single? first, single? second with
    | some a, some b => some (a.union b)
    | _, _ => none
  | _ => none

/-- The states for `body`, whose own states take `size`, from `low` to `high` times. -/
def manySize (size : Nat) (mayBeEmpty : Bool) (low : Nat) : Option Nat → Nat
  | none =>
    if low = 0 then
      size + stateSize + 2 * branchSize +
        (if mayBeEmpty then 2 * stateSize + 2 * branchSize else 0)
    else low * size + stateSize + 2 * branchSize
  | some high =>
    if high = 0 then stateSize
    else if low = high then low * size
    else if low = 0 ∧ high = 1 then size + 2 * stateSize + 2 * branchSize
    else
      max (low * size) stateSize + stateSize +
        (high - low) * (size + stateSize + 2 * branchSize)

/-- A choice between alternatives that are not all single characters. -/
def isChoice : Pattern → Bool
  | .alt first second => (single? (.alt first second)).isNone
  | _ => false

/-- The states for `p`, whose own states take `size`, as one of several alternatives. A choice
within a choice shares the first and the last state with it. -/
def branchOf (p : Pattern) (size : Nat) : Nat :=
  if p.isChoice then size - 2 * stateSize else branchSize + size

/-- The states for a pattern. -/
def statesSize (backward : Bool) : Pattern → Nat
  | .empty => stateSize
  | .leaf (.one set) => setSize backward set
  | .leaf (.edge _) => stateSize
  | .seq first second => statesSize backward first + statesSize backward second
  | .alt first second =>
    match single? (.alt first second) with
    | some set => setSize backward set
    | none =>
      2 * stateSize + branchOf first (statesSize backward first) +
        branchOf second (statesSize backward second)
  | .group body => (if backward then 0 else 2 * stateSize) + statesSize backward body
  | .many body low high =>
    let size := statesSize backward body
    if takesNothing body then
      manySize size (mayBeEmpty body) (min low 1) (some ((high.map (min · 1)).getD 1))
    else manySize size (mayBeEmpty body) low high

/-- The bytes of the machine: the states for the pattern, for skipping what precedes a match, and
for the whole match as a group. -/
def size (backward : Bool) (p : Pattern) : Nat :=
  statesSize backward (.group p) + 4 * stateSize + 2 * branchSize

/-- The greatest size of a pattern. -/
def sizeLimit : Nat := 10 * 1024 * 1024

/-- The pattern is small enough in both directions. -/
def isSmall (p : Pattern) : Bool :=
  p.size false ≤ sizeLimit && p.size true ≤ sizeLimit

end Pattern

end EntityStore
