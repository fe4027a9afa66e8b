import EntityStore.Number.Decimal

/-!
# What plain scalars stand for

A plain scalar without a tag is null, a boolean or a number if it is written like one, and a text
otherwise.
-/

namespace EntityStore.Yaml

def isNullWord (s : String) : Bool :=
  ["~", "null", "Null", "NULL"].contains s

def boolean? (s : String) : Option Bool :=
  if ["true", "True", "TRUE"].contains s then some true
  else if ["false", "False", "FALSE"].contains s then some false
  else none

/-- The number that digits write in a base of at most 36. -/
def digitsInBase? (base : Nat) (cs : List Char) : Option Nat :=
  let value (c : Char) : Nat :=
    if c.isDigit then c.toNat - '0'.toNat
    else if c.isAlpha then c.toLower.toNat - 'a'.toNat + 10
    else base
  if cs.isEmpty || cs.any fun c => base ≤ value c then none
  else some (cs.foldl (fun n c => base * n + value c) 0)

/-- An integer: decimal without leading zeros, hexadecimal, octal or binary. -/
def integer? (s : String) : Option Int :=
  let (negative, body) := Binary64.splitSign s.toList
  let magnitude :=
    match body with
    | '0' :: 'x' :: rest => digitsInBase? 16 rest
    | '0' :: 'o' :: rest => digitsInBase? 8 rest
    | '0' :: 'b' :: rest => digitsInBase? 2 rest
    | '0' :: _ :: _ => none
    | _ => digitsInBase? 10 body
  magnitude.map fun n => if negative then -(n : Int) else n

/-- A binary64 number; infinities and NaN are written with a leading point, and a decimal beyond the
range is none. -/
def float? (s : String) : Option Binary64 :=
  let (negative, body) := Binary64.splitSign s.toList
  if [".inf", ".Inf", ".INF"].contains (String.ofList body) then some (.infinite negative)
  else if [".nan", ".NaN", ".NAN"].contains s then some .nan
  else if body.head?.any fun c => c.isDigit || c == '.' then
    (Binary64.ofText? s).filter Binary64.isFinite
  else none

/-- Several digits with a zero in front are no number. -/
def isPaddedDigits (s : String) : Bool :=
  match (Binary64.splitSign s.toList).2 with
  | '0' :: c :: rest => (c :: rest).all Char.isDigit
  | _ => false

end EntityStore.Yaml
