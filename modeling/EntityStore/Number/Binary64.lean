import EntityStore.Number.Range

/-!
# Binary64 numbers

Every finite binary64 number is a whole multiple of the smallest positive one, 2 ^ -1074, so a
finite number is kept as that multiple. Comparison is then comparison of integers, and each
operation computes exactly and rounds once: `roundUnits` keeps 53 significant bits and sends a tie
to the even neighbour.
-/

namespace EntityStore

/-- A binary64 number; `finite n` is `n * 2 ^ -1074`. Zero with a minus sign is a number of its
own that compares equal to `finite 0`. -/
inductive Binary64 where
  | finite (units : Int)
  | negativeZero
  | infinite (negative : Bool)
  | nan
deriving DecidableEq, Repr, Inhabited

namespace Binary64

/-- The number of units in one. -/
def one : Nat := Nat.pow 2 1074

/-- The number of significant bits. -/
def precision : Nat := 53

/-- The first number of units that is too large for a finite number. -/
def overflowUnits : Nat := Nat.pow 2 2098

/-- The distance between neighbouring numbers at a magnitude of `units`. -/
def spacing (units : Nat) : Nat :=
  Nat.pow 2 (units.log2 + 1 - precision)

/-- The multiple of `step` nearest to `num / den`, the even multiple on a tie. -/
def roundTo (step num den : Nat) : Nat :=
  let width := den * step
  let below := num / width
  let rest := num % width
  (if width < 2 * rest ∨ (2 * rest = width ∧ below % 2 = 1) then below + 1 else below) * step

/-- `num / den` units rounded to a number of units that has at most 53 significant bits. -/
def roundUnits (num den : Nat) : Nat :=
  roundTo (spacing (num / den)) num den

/-- The number with the given sign and magnitude in units. -/
def ofUnits (negative : Bool) (units : Nat) : Binary64 :=
  if overflowUnits ≤ units then .infinite negative
  else if units = 0 then (if negative then .negativeZero else .finite 0)
  else .finite (if negative then -units else units)

/-- The number nearest to `± num / den`. -/
def ofRatio (negative : Bool) (num den : Nat) : Binary64 :=
  ofUnits negative (roundUnits (num * one) den)

/-- The number nearest to an integer. -/
def ofInt (n : Int) : Binary64 :=
  ofRatio (n < 0) n.natAbs 1

def zero : Binary64 := .finite 0

/-- The number carries a minus sign. -/
def isNegative : Binary64 → Bool
  | .finite n => n < 0
  | .negativeZero => true
  | .infinite negative => negative
  | .nan => false

/-- Neither infinite nor NaN. -/
def isFinite : Binary64 → Bool
  | .finite _ | .negativeZero => true
  | .infinite _ | .nan => false

/-- The multiple of 2 ^ -1074 that a finite number is. -/
def units : Binary64 → Int
  | .finite n => n
  | _ => 0

/-- The order of two numbers; NaN is comparable to nothing. -/
def compare? : Binary64 → Binary64 → Option Ordering
  | .nan, _ | _, .nan => none
  | .infinite a, .infinite b => some (Ord.compare b a)
  | .infinite a, _ => some (if a then .lt else .gt)
  | _, .infinite b => some (if b then .gt else .lt)
  | x, y => some (Ord.compare x.units y.units)

/-- Equality as numbers: both zeros are equal, NaN is not equal to itself. -/
def same (x y : Binary64) : Bool :=
  x.compare? y == some .eq

def lt (x y : Binary64) : Bool :=
  x.compare? y == some .lt

/-- The sum, rounded once. -/
def add : Binary64 → Binary64 → Binary64
  | .nan, _ | _, .nan => .nan
  | .infinite a, .infinite b => if a = b then .infinite a else .nan
  | .infinite a, _ => .infinite a
  | _, .infinite b => .infinite b
  | .negativeZero, .negativeZero => .negativeZero
  | x, y =>
    let sum := x.units + y.units
    ofUnits (sum < 0) (roundUnits sum.natAbs 1)

/-- The product, rounded once. -/
def mul (x y : Binary64) : Binary64 :=
  let negative := x.isNegative != y.isNegative
  match x, y with
  | .nan, _ | _, .nan => .nan
  | .infinite _, .infinite _ => .infinite negative
  | .infinite _, z | z, .infinite _ => if z.units = 0 then .nan else .infinite negative
  | x, y => ofUnits negative (roundUnits (x.units.natAbs * y.units.natAbs) one)

/-- The quotient, rounded once. -/
def div (x y : Binary64) : Binary64 :=
  let negative := x.isNegative != y.isNegative
  match x, y with
  | .nan, _ | _, .nan => .nan
  | .infinite _, .infinite _ => .nan
  | .infinite _, _ => .infinite negative
  | _, .infinite _ => ofUnits negative 0
  | x, y =>
    if y.units = 0 then (if x.units = 0 then .nan else .infinite negative)
    else ofRatio negative x.units.natAbs y.units.natAbs

/-- The integer part, clamped to the signed 64-bit integers; zero for NaN. -/
def toInt64 : Binary64 → Int
  | .nan => 0
  | .infinite negative => if negative then minInt64 else maxInt64
  | x => max minInt64 (min maxInt64 (Int.tdiv x.units one))

/-- The sum of a list, added up from the left. It starts from negative zero, which changes no
number that is added to it. -/
def sum (xs : List Binary64) : Binary64 :=
  xs.foldl add .negativeZero

end Binary64

end EntityStore
