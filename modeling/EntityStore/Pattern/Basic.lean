import EntityStore.Pattern.Shape
import EntityStore.Text.Property

/-!
# Patterns

A pattern describes texts: it is a shape whose leaves are sets of characters and edges, which are
places between characters. `Pattern.occursIn` asks for a match anywhere in a text. Which of several
matches a search would prefer plays no role here.
-/

namespace EntityStore

open Text (CharSet)

/-- Where a place lies as to the words of the text. -/
inductive WordPlace where
  | edge
  | noEdge
  | start
  | finish
  | notAfter
  | notBefore
deriving DecidableEq, Repr

/-- Places of a text that hold no character. Lines end before a line feed, with `wide` before a
carriage return too, but not between the two. -/
inductive Edge where
  | textStart
  | textEnd
  | lineStart (wide : Bool)
  | lineEnd (wide : Bool)
  | word (place : WordPlace) (letters : CharSet)
deriving DecidableEq, Repr

/-- What a pattern is made of. -/
inductive Leaf where
  | one (set : CharSet)
  | edge (e : Edge)
deriving DecidableEq, Repr

/-- The shape of the texts that match. -/
abbrev Pattern := Shape Leaf

namespace WordPlace

/-- The place has a word `before` and `after` it as told. -/
def fits (before after : Bool) : WordPlace → Bool
  | .edge => before != after
  | .noEdge => before == after
  | .start => !before && after
  | .finish => before && !after
  | .notAfter => !before
  | .notBefore => !after

end WordPlace

namespace Edge

/-- The edge lies between the characters `before` and `after` of a text, which are missing at its
ends. -/
def liesBetween (before after : Option Char) : Edge → Bool
  | .textStart => before.isNone
  | .textEnd => after.isNone
  | .lineStart wide =>
    before.isNone || before == some '\n' || wide && before == some '\r' && after != some '\n'
  | .lineEnd wide =>
    after.isNone || wide && after == some '\r' ||
      after == some '\n' && !(wide && before == some '\r')
  | .word place letters => place.fits (before.any letters.contains) (after.any letters.contains)

end Edge

/-- What a leaf does to the positions of one text: it keeps those in `kept` and moves them on by
`length`. -/
structure Passage where
  kept : Nat
  length : Nat

namespace Passage

def carry (p : Passage) (found : Nat) : Nat :=
  (found &&& p.kept) <<< p.length

end Passage

/-- The characters of a text, each with the positions that it follows. -/
abbrev Spread := List (Char × Nat)

namespace Spread

/-- The character `c` follows the position `i` too. -/
def put (c : Char) (i : Nat) : Spread → Spread
  | [] => [(c, 1 <<< i)]
  | (d, places) :: rest =>
    if d = c then (d, places ||| 1 <<< i) :: rest else (d, places) :: put c i rest

/-- The characters of a text that begins at the position `i`. -/
def ofText (i : Nat) (spread : Spread) : List Char → Spread
  | [] => spread
  | c :: rest => ofText (i + 1) (spread.put c i) rest

/-- The positions that a character of the set follows. -/
def places (spread : Spread) (set : CharSet) : Nat :=
  spread.foldl (fun found (c, places) => if set.contains c then found ||| places else found) 0

end Spread

namespace Edge

/-- The positions of the edge in a text that begins at the position `i`, after the character
`before`. -/
def places (e : Edge) (i : Nat) (before : Option Char) : List Char → Nat
  | [] => if e.liesBetween before none then 1 <<< i else 0
  | c :: rest =>
    (if e.liesBetween before (some c) then 1 <<< i else 0) ||| places e (i + 1) (some c) rest

end Edge

namespace Leaf

/-- What the leaf does in a text with the characters `spread`. -/
def passage (text : List Char) (spread : Spread) : Leaf → Passage
  | .one set => ⟨spread.places set, 1⟩
  | .edge e => ⟨e.places 0 none text, 0⟩

end Leaf

namespace Pattern

/-- Some part of the text matches: from the set of all positions some position is reached. -/
def occursIn (p : Pattern) (text : String) : Bool :=
  let chars := text.toList
  let places := chars.length + 1
  let leaves := p.map (Leaf.passage chars (Spread.ofText 0 [] chars))
  leaves.reach Passage.carry places ((1 <<< places) - 1) != 0

end Pattern

end EntityStore
