import EntityStore.Number.Binary64

/-!
# Decimal text of numbers

The shortest decimal that reads back as a given binary64 number (`Binary64.shortest`), the two ways
the library writes it (`Binary64.dataText` inside data, `Binary64.plainText` inside messages), and
the two ways it reads decimals: `Binary64.ofText?` rounds a text once, and `Binary64.ofScaled`
rounds a significand and then its product with a power of ten.
-/

namespace EntityStore

/-- A decimal number `digits * 10 ^ exponent`. -/
structure Decimal where
  digits : Nat
  exponent : Int
deriving DecidableEq, Repr

/-- The decimal digits of a natural number. -/
def digitChars (n : Nat) : List Char :=
  Nat.toDigits 10 n

/-- The value of a list of decimal digits. -/
def digitsValue (cs : List Char) : Nat :=
  cs.foldl (fun n c => 10 * n + (c.toNat - '0'.toNat)) 0

namespace Binary64

/-- The numbers that round to `units`, as bounds in quarter units. -/
def roundingBounds (units : Nat) : Nat × Nat :=
  let step := spacing units
  let below := if units = Nat.pow 2 (precision - 1) * step ∧ 1 < step then step else 2 * step
  (4 * units - below, 4 * units + 2 * step)

/-- The bounds themselves round to `units`. -/
def boundsIncluded (units : Nat) : Bool :=
  units / spacing units % 2 == 0

/-- `decimal` lies among the numbers that round to `units`. -/
def readsBack (units : Nat) (decimal : Decimal) : Bool :=
  let (low, high) := roundingBounds units
  let scaled := 4 * one * decimal.digits * Nat.pow 10 decimal.exponent.toNat
  let divisor := Nat.pow 10 (-decimal.exponent).toNat
  if boundsIncluded units then low * divisor ≤ scaled && scaled ≤ high * divisor
  else low * divisor < scaled && scaled < high * divisor

/-- The exponent of the leading decimal digit. -/
def leadingExponent (units : Nat) : Int :=
  (digitChars (units * Nat.pow 10 340 / one)).length - 341

/-- The nearest decimal with the given last place that reads back as `units`, if one does. -/
def decimalAt? (units : Nat) (place : Int) : Option Decimal :=
  let num := units * Nat.pow 10 (-place).toNat
  let den := one * Nat.pow 10 place.toNat
  let below : Decimal := ⟨num / den, place⟩
  let above : Decimal := ⟨num / den + 1, place⟩
  let rest := num % den
  let aboveIsNearer := den < 2 * rest ∨ (2 * rest = den ∧ below.digits % 2 = 1)
  match readsBack units below, readsBack units above with
  | true, true => some (if aboveIsNearer then above else below)
  | true, false => some below
  | false, true => some above
  | false, false => none

/-- The shortest decimal that reads back as `units`, the nearest one among those. The search starts
one place above the leading digit, where a number just below a power of ten is one digit long. -/
def shortest (units : Nat) : Decimal :=
  let top := leadingExponent units + 1
  ((List.range 18).findSome? fun (n : Nat) => decimalAt? units (top - n)).getD ⟨units, 0⟩

/-- A decimal in positional notation; a whole number ends in `whole`. -/
def positional (decimal : Decimal) (whole : String) : String :=
  let digits := digitChars decimal.digits
  if 0 ≤ decimal.exponent then
    String.ofList (digits ++ List.replicate decimal.exponent.toNat '0') ++ whole
  else
    let places := (-decimal.exponent).toNat
    let padded := List.replicate (places + 1 - digits.length) '0' ++ digits
    String.ofList (padded.take (padded.length - places)) ++ "." ++
      String.ofList (padded.drop (padded.length - places))

/-- A decimal in scientific notation, the exponent with its sign. -/
def scientific (decimal : Decimal) : String :=
  let digits := digitChars decimal.digits
  let exponent := decimal.exponent + (digits.length - 1 : Nat)
  let fraction := if digits.length = 1 then "" else "." ++ String.ofList (digits.drop 1)
  let sign := if exponent < 0 then "-" else "+"
  String.ofList (digits.take 1) ++ fraction ++ "e" ++ sign ++ toString exponent.natAbs

/-- The text of a magnitude inside data: positional from 0.00001 up to sixteen digits before the
point, scientific elsewhere. -/
def magnitudeText (units : Nat) : String :=
  if units = 0 then "0.0"
  else
    let decimal := shortest units
    let point := decimal.exponent + (digitChars decimal.digits).length
    if -5 < point ∧ point ≤ 16 then positional decimal ".0" else scientific decimal

/-- The text of a number inside data; whole numbers keep one decimal place. -/
def dataText : Binary64 → String
  | .finite n => (if n < 0 then "-" else "") ++ magnitudeText n.natAbs
  | .negativeZero => "-0.0"
  | .infinite negative => if negative then "-inf" else "inf"
  | .nan => "NaN"

/-- The text of a number inside a message: always positional, whole numbers without a point. -/
def plainText : Binary64 → String
  | .finite n =>
    if n = 0 then "0"
    else (if n < 0 then "-" else "") ++ positional (shortest n.natAbs) ""
  | .negativeZero => "-0"
  | .infinite negative => if negative then "-inf" else "inf"
  | .nan => "NaN"

/-- The number nearest to `± digits * 10 ^ exponent`. Magnitudes far outside the range of binary64
are settled without computing the power. -/
def ofDecimal (negative : Bool) (decimal : Decimal) : Binary64 :=
  let point := decimal.exponent + (digitChars decimal.digits).length
  if decimal.digits = 0 ∨ point < -330 then ofUnits negative 0
  else if 310 < point then .infinite negative
  else
    ofRatio negative (decimal.digits * Nat.pow 10 decimal.exponent.toNat)
      (Nat.pow 10 (-decimal.exponent).toNat)

/-- The sign in front of a number and the text after it. -/
def splitSign : List Char → Bool × List Char
  | '-' :: rest => (true, rest)
  | '+' :: rest => (false, rest)
  | rest => (false, rest)

/-- An optional exponent that ends the text. -/
def exponentOf? : List Char → Option Int
  | [] => some 0
  | mark :: rest =>
    if mark = 'e' ∨ mark = 'E' then
      let (negative, digits) := splitSign rest
      if digits.isEmpty || !digits.all Char.isDigit then none
      else some (if negative then -digitsValue digits else digitsValue digits)
    else none

/-- Digits with an optional point among, before or after them, then an optional exponent. -/
def decimalOf? (cs : List Char) : Option Decimal :=
  let whole := cs.takeWhile Char.isDigit
  let rest := cs.dropWhile Char.isDigit
  let (fraction, rest) :=
    match rest with
    | '.' :: rest => (rest.takeWhile Char.isDigit, rest.dropWhile Char.isDigit)
    | rest => ([], rest)
  if whole.isEmpty && fraction.isEmpty then none
  else
    (exponentOf? rest).map fun exponent =>
      ⟨digitsValue (whole ++ fraction), exponent - fraction.length⟩

/-- Reads a number text: a decimal, an infinity or NaN, with an optional sign in front. -/
def ofText? (text : String) : Option Binary64 :=
  let (negative, body) := splitSign text.toList
  let word := String.ofList (body.map Char.toLower)
  if word = "inf" ∨ word = "infinity" then some (.infinite negative)
  else if word = "nan" then some .nan
  else (decimalOf? body).map (ofDecimal negative)

/-- The number nearest to a power of ten. -/
def powerOfTen (n : Nat) : Binary64 :=
  ofRatio false (Nat.pow 10 n) 1

/-- `x` divided by `10 ^ n`, in steps of at most 308 powers. -/
def divPowerOfTen (x : Binary64) (n : Nat) : Binary64 :=
  if n ≤ 308 then x.div (powerOfTen n)
  else if x.units = 0 then x
  else divPowerOfTen (x.div (powerOfTen 308)) (n - 308)
termination_by n

/-- `± significand * 10 ^ exponent` with a rounding of the significand, then one of the product;
nothing when the product leaves the range. -/
def ofScaled? (negative : Bool) (significand : Nat) (exponent : Int) : Option Binary64 :=
  let x := ofRatio negative significand 1
  if 0 ≤ exponent then
    if significand = 0 then some x
    else if 308 < exponent then none
    else
      let y := x.mul (powerOfTen exponent.toNat)
      if y.isFinite then some y else none
  else some (divPowerOfTen x (-exponent).toNat)

end Binary64

end EntityStore
