/-!
# Hexadecimal digits

Numbers written in hexadecimal, in letters of either case.
-/

namespace EntityStore.Text

/-- The value of a hexadecimal digit. -/
def hexValue? (c : Char) : Option Nat :=
  if c.isDigit then some (c.toNat - '0'.toNat)
  else if 'a' ≤ c ∧ c ≤ 'f' then some (c.toNat - 'a'.toNat + 10)
  else if 'A' ≤ c ∧ c ≤ 'F' then some (c.toNat - 'A'.toNat + 10)
  else none

def isHexDigit (c : Char) : Bool :=
  (hexValue? c).isSome

/-- The number written by the first `count` characters in hexadecimal, and the rest. -/
def hexDigits? : Nat → Nat → List Char → Option (Nat × List Char)
  | 0, value, rest => some (value, rest)
  | count + 1, value, c :: rest =>
    (hexValue? c).bind fun digit => hexDigits? count (16 * value + digit) rest
  | _ + 1, _, [] => none

/-- The number that hexadecimal digits write; other characters count as zeros. -/
def hexNumber (cs : List Char) : Nat :=
  cs.foldl (fun n c => 16 * n + (hexValue? c).getD 0) 0

end EntityStore.Text
