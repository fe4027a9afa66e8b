/-!
# Labels in ASCII

A label of a domain name that holds other than ASCII characters is also written in ASCII: the ASCII
characters come first, and after a hyphen numbers tell which other characters stand where. A number
is written with the least digit first, and a digit below the threshold of its place ends it.
-/

namespace EntityStore.Domain.Punycode

/-- The value of a digit: letters of any case, then decimal digits. -/
def digit? (c : Char) : Option Nat :=
  if c.isLower then some (c.toNat - 'a'.toNat)
  else if c.isUpper then some (c.toNat - 'A'.toNat)
  else if c.isDigit then some (c.toNat - '0'.toNat + 26)
  else none

/-- The threshold of the digit at a place, where places are counted by 36. -/
def threshold (place bias : Nat) : Nat :=
  if place ≤ bias then 1 else if bias + 26 ≤ place then 26 else place - bias

/-- Divides by 35 until the rest is small; every division counts 36. -/
def shrink : Nat → Nat → Nat → Nat
  | 0, delta, counted => counted + 36 * delta / (delta + 38)
  | times + 1, delta, counted =>
    if 455 < delta then shrink times (delta / 35) (counted + 36)
    else counted + 36 * delta / (delta + 38)

/-- The bias for the next number after one of the size `delta` for a label of `length` characters. A
number below 35 times itself `delta` times is small after at most `delta` divisions. -/
def adapt (delta length : Nat) (isFirst : Bool) : Nat :=
  let delta := if isFirst then delta / 700 else delta / 2
  let delta := delta + delta / length
  shrink delta delta 0

/-- What has been read: the characters so far, the code point and the position of the last number,
the position before it, and the weight and place of the next digit of the number being read. -/
structure Reading where
  points : List Nat
  code : Nat := 128
  position : Nat := 0
  start : Nat := 0
  weight : Nat := 1
  place : Nat := 36
  bias : Nat := 72

/-- The greatest number. -/
def maxNumber : Nat := 0xFFFFFFFF

namespace Reading

/-- A number has been read: it counts positions through the whole label, code point after code
point. -/
def insert (r : Reading) : Option Reading :=
  let length := r.points.length + 1
  let code := r.code + r.position / length
  let position := r.position % length
  if code.isValidChar then
    some
      { points := r.points.insertIdx position code
        code
        position := position + 1
        start := position + 1
        bias := adapt (r.position - r.start) length (r.start == 0) }
  else none

/-- Reads a digit. -/
def next (r : Reading) (c : Char) : Option Reading :=
  (digit? c).bind fun digit =>
    if (maxNumber - r.position) / r.weight < digit then none
    else
      let read := { r with position := r.position + digit * r.weight }
      let bound := threshold r.place r.bias
      if digit < bound then read.insert
      else if maxNumber / (36 - bound) < r.weight then none
      else some { read with weight := r.weight * (36 - bound), place := r.place + 36 }

end Reading

/-- The characters before the last hyphen and those after it. A hyphen in the first place separates
nothing. -/
def splitPlain (cs : List Char) : List Char × List Char :=
  match cs.reverse.span (· != '-') with
  | (after, _ :: before@(_ :: _)) => (before.reverse, after.reverse)
  | _ => ([], cs)

/-- The label that is written in ASCII, as code points. -/
def decode? (cs : List Char) : Option (List Nat) :=
  let (plain, numbers) := splitPlain cs
  if plain.all (·.toNat < 128) then
    (numbers.foldlM Reading.next { points := plain.map Char.toNat }).bind fun r =>
      if r.weight = 1 ∧ r.place = 36 then some r.points else none
  else none

end EntityStore.Domain.Punycode
