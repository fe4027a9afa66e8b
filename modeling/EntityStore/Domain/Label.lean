import EntityStore.Domain.Joining
import EntityStore.Domain.Mapping
import EntityStore.Domain.Punycode

/-!
# Labels of domain names

A label is what stands between the points of a domain name. One that begins with `xn--` is written
in ASCII for other characters, which it has to hold. -/

namespace EntityStore.Domain

/-- A label as it is written, and the characters that it stands for. -/
structure Label where
  written : List Nat
  letters : List Nat
deriving DecidableEq, Repr

namespace Label

/-- What labels that are written in ASCII for other characters begin with. -/
def asciiMark : List Nat := "xn--".toList.map Char.toNat

/-- The greatest number of characters of a label that holds others than ASCII, and of what follows
the mark of one that is written in ASCII. -/
def maxLetters : Nat := 1000

def maxWritten : Nat := 2000

/-- No character is forbidden, the first is no mark, and every joiner has an effect. -/
def isWellFormed (letters : List Nat) : Bool :=
  letters.all (fun n => !isForbidden n) && !letters.head?.any marks.holds && allJoinWell [] letters

/-- A label that is written in ASCII stands for others than ASCII characters, in their composed form
and each for itself. -/
def ofAscii? (written : List Nat) (marked : List Nat) : Option Label :=
  if maxWritten < marked.length then none
  else
    (Punycode.decode? (marked.map Char.ofNat)).bind fun letters =>
      if letters.any (128 ≤ ·) && letters.all isPlain && Text.compose letters == letters &&
          !asciiMark.isPrefixOf letters && isWellFormed letters then
        some ⟨written, letters⟩
      else none

/-- The label of characters that stand for themselves, in their composed form. -/
def ofLetters? (letters : List Nat) : Option Label :=
  if asciiMark.isPrefixOf letters then ofAscii? letters (letters.drop asciiMark.length)
  else if isWellFormed letters && (letters.all (· < 128) || letters.length ≤ maxLetters) then
    some ⟨letters, letters⟩
  else none

end Label

end EntityStore.Domain
