import EntityStore.Text.Hexadecimal

/-!
# Sets of characters

A set of characters is kept as the ascending code points at which membership changes: it begins
outside, and every bound switches between outside and inside. Complement, union, intersection and
the differences of two sets are then one sweep over the bounds of both.
-/

namespace EntityStore.Text

/-- A set of characters by the code points where membership changes. -/
structure CharSet where
  bounds : List Nat
deriving DecidableEq, Repr, Inhabited

namespace CharSet

/-- One more than the greatest code point. -/
def codePoints : Nat := 0x110000

/-- Membership of `n` after the bounds, when it is `inside` before them. -/
def holdsAfter (n : Nat) (inside : Bool) : List Nat → Bool
  | [] => inside
  | bound :: rest => if n < bound then inside else holdsAfter n (!inside) rest

/-- The set holds the code point `n`. -/
def holds (s : CharSet) (n : Nat) : Bool :=
  holdsAfter n false s.bounds

def contains (s : CharSet) (c : Char) : Bool :=
  s.holds c.toNat

def empty : CharSet := ⟨[]⟩

/-- The code points from `low` to `high`, both included. -/
def range (low high : Nat) : CharSet :=
  if low ≤ high then ⟨[low, high + 1]⟩ else empty

def char (c : Char) : CharSet :=
  range c.toNat c.toNat

/-- Every character. -/
def full : CharSet := ⟨[0, codePoints]⟩

def isEmpty (s : CharSet) : Bool :=
  s.bounds.isEmpty

/-- The bounds of the set whose membership is `op` of that in two sets, between the bounds of both;
`a` and `b` tell the membership in each before the bounds that are left. -/
def sweep (op : Bool → Bool → Bool) (a b : Bool) : List Nat → List Nat → List Nat
  | [], [] => []
  | x :: xs, [] => mark x (op a b) (op (!a) b) (sweep op (!a) b xs [])
  | [], y :: ys => mark y (op a b) (op a (!b)) (sweep op a (!b) [] ys)
  | x :: xs, y :: ys =>
    if x < y then mark x (op a b) (op (!a) b) (sweep op (!a) b xs (y :: ys))
    else if y < x then mark y (op a b) (op a (!b)) (sweep op a (!b) (x :: xs) ys)
    else mark x (op a b) (op (!a) (!b)) (sweep op (!a) (!b) xs ys)
termination_by xs ys => xs.length + ys.length
where
  /-- `bound` counts when membership differs before and after it. -/
  mark (bound : Nat) (before after : Bool) (rest : List Nat) : List Nat :=
    if before = after then rest else bound :: rest

/-- The characters for which `op` holds of membership in `s` and in `t`. -/
def combine (op : Bool → Bool → Bool) (s t : CharSet) : CharSet :=
  ⟨sweep op false false s.bounds t.bounds⟩

def union (s t : CharSet) : CharSet := combine (· || ·) s t

def inter (s t : CharSet) : CharSet := combine (· && ·) s t

/-- The characters of `s` that are not in `t`. -/
def diff (s t : CharSet) : CharSet := combine (fun a b => a && !b) s t

/-- The characters in one of the sets but not in both. -/
def symmDiff (s t : CharSet) : CharSet := combine (· != ·) s t

def compl (s : CharSet) : CharSet := diff full s

/-- The union of sets, two by two, so that long lists do not cost more than their length times its
logarithm. -/
def unions : Nat → List CharSet → CharSet
  | 0, sets => sets.foldl union empty
  | _ + 1, [] => empty
  | _ + 1, [s] => s
  | fuel + 1, sets => unions fuel (pairs sets)
where
  pairs : List CharSet → List CharSet
    | s :: t :: rest => union s t :: pairs rest
    | rest => rest

/-- The union of a list of sets. -/
def ofList (sets : List CharSet) : CharSet :=
  unions sets.length sets

/-- The first and last code points of the parts of the set. -/
def ranges (s : CharSet) : List (Nat × Nat) :=
  go s.bounds
where
  go : List Nat → List (Nat × Nat)
    | low :: next :: rest => (low, next - 1) :: go rest
    | _ => []

/-- A code point or two with a hyphen between them, in hexadecimal. -/
def rangeOfWord (word : List Char) : Nat × Nat :=
  match word.span (· != '-') with
  | (low, _ :: high) => (hexNumber low, hexNumber high)
  | (low, []) => (hexNumber low, hexNumber low)

/-- The words of a text, which blanks and line breaks separate. -/
def wordsOf (text : String) : List (List Char) :=
  (text.toList.splitBy fun a b => !a.isWhitespace && !b.isWhitespace).filter
    fun word => !(word.head?.map Char.isWhitespace).getD true

/-- A set written as ascending ranges that do not touch: `41-5A 61-7A AA`. -/
def ofText (text : String) : CharSet :=
  ⟨(wordsOf text).flatMap fun word =>
    let (low, high) := rangeOfWord word
    [low, high + 1]⟩

/-- A set written on several lines, the ranges of each above those of the lines before it. Looking up
a character reads no line behind the one that settles it. -/
def ofLines (lines : List String) : CharSet :=
  ⟨lines.flatMap fun line => (ofText line).bounds⟩

end CharSet

end EntityStore.Text
