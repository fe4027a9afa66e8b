import EntityStore.Document.Basic
import EntityStore.Text.Hexadecimal

/-!
# Reading JSON

`Document.ofJson?` reads a JSON text into a document and keeps the order of object members. An
integer literal that fits 64 bits is an integer; every other number is binary64, read as its
significand times a power of ten.
-/

namespace EntityStore.Document

/-- The text after blanks. -/
def skipBlanks : List Char → List Char
  | [] => []
  | c :: rest => if c = ' ' ∨ c = '\n' ∨ c = '\t' ∨ c = '\r' then skipBlanks rest else c :: rest

/-- The character of a `\u` escape, whose four digits stand at the head; a leading surrogate takes
the trailing one that must follow. -/
def unicodeEscape? (cs : List Char) : Option (Char × List Char) :=
  (Text.hexDigits? 4 0 cs).bind fun (unit, rest) =>
    if unit < 0xD800 ∨ 0xDFFF < unit then some (Char.ofNat unit, rest)
    else if 0xDBFF < unit then none
    else
      match rest with
      | '\\' :: 'u' :: rest =>
        (Text.hexDigits? 4 0 rest).bind fun (low, rest) =>
          if 0xDC00 ≤ low ∧ low ≤ 0xDFFF then
            some (Char.ofNat (0x10000 + (unit - 0xD800) * 0x400 + (low - 0xDC00)), rest)
          else none
      | _ => none

/-- The character that a simple escape stands for. -/
def simpleEscape? (c : Char) : Option Char :=
  if c = '"' ∨ c = '\\' ∨ c = '/' then some c
  else if c = 'n' then some '\n'
  else if c = 't' then some '\t'
  else if c = 'r' then some '\r'
  else if c = 'b' then some (Char.ofNat 8)
  else if c = 'f' then some (Char.ofNat 12)
  else none

/-- A quoted text after its opening quote; `done` holds the characters read, last first. -/
def readQuoted : Nat → List Char → List Char → Option (String × List Char)
  | 0, _, _ => none
  | fuel + 1, done, cs =>
    match cs with
    | '"' :: rest => some (String.ofList done.reverse, rest)
    | '\\' :: 'u' :: rest =>
      (unicodeEscape? rest).bind fun (c, rest) => readQuoted fuel (c :: done) rest
    | '\\' :: c :: rest => (simpleEscape? c).bind fun c => readQuoted fuel (c :: done) rest
    | c :: rest => if c.toNat < 32 then none else readQuoted fuel (c :: done) rest
    | [] => none

/-- An optional exponent and the rest. -/
def readExponent? : List Char → Option (Int × List Char)
  | c :: rest =>
    if c = 'e' ∨ c = 'E' then
      let (negative, rest) := Binary64.splitSign rest
      let digits := rest.takeWhile Char.isDigit
      if digits.isEmpty then none
      else
        let value : Int := digitsValue digits
        some (if negative then -value else value, rest.dropWhile Char.isDigit)
    else some (0, c :: rest)
  | [] => some (0, [])

/-- The significand that fits 64 bits, and how many of the digits it holds. -/
def significand : Nat → Nat → List Char → Nat × Nat
  | value, held, [] => (value, held)
  | value, held, c :: rest =>
    let next := 10 * value + (c.toNat - '0'.toNat)
    if maxUInt64 < next then (value, held) else significand next (held + 1) rest

/-- A number and the rest. -/
def readNumber? (cs : List Char) : Option (Number × List Char) :=
  let (negative, cs) :=
    match cs with
    | '-' :: rest => (true, rest)
    | rest => (false, rest)
  let whole := cs.takeWhile Char.isDigit
  let rest := cs.dropWhile Char.isDigit
  if whole.isEmpty || (whole.head? == some '0' && 1 < whole.length) then none
  else
    let pointed :=
      match rest with
      | '.' :: rest => some (rest.takeWhile Char.isDigit, rest.dropWhile Char.isDigit)
      | _ => none
    let fraction := (pointed.map (·.1)).getD []
    let rest := (pointed.map (·.2)).getD rest
    if pointed.isSome && fraction.isEmpty then none
    else
      let scaled := rest.head? == some 'e' || rest.head? == some 'E'
      (readExponent? rest).bind fun (exponent, rest) =>
        let n : Int := digitsValue whole
        if pointed.isNone && !scaled && !negative && fitsUInt64 n then some (.int n, rest)
        else if pointed.isNone && !scaled && negative && fitsInt64 (-n) && n ≠ 0 then
          some (.int (-n), rest)
        else
          let (digits, held) := significand 0 0 (whole ++ fraction)
          let place : Int := (whole.length : Int) - held
          (Binary64.ofScaled? negative digits (place + exponent)).map fun x => (.float x, rest)

mutual

/-- A value and the rest. -/
def readJson : Nat → List Char → Option (Document × List Char)
  | 0, _ => none
  | fuel + 1, cs =>
    match skipBlanks cs with
    | '{' :: rest =>
      match skipBlanks rest with
      | '}' :: rest => some (.record [], rest)
      | rest => (readMembers fuel rest).map fun (fields, rest) => (.record fields, rest)
    | '[' :: rest =>
      match skipBlanks rest with
      | ']' :: rest => some (.list [], rest)
      | rest => (readItems fuel rest).map fun (items, rest) => (.list items, rest)
    | '"' :: rest =>
      (readQuoted (rest.length + 1) [] rest).map fun (s, rest) => (.text s, rest)
    | 'n' :: 'u' :: 'l' :: 'l' :: rest => some (.null, rest)
    | 't' :: 'r' :: 'u' :: 'e' :: rest => some (.bool true, rest)
    | 'f' :: 'a' :: 'l' :: 's' :: 'e' :: rest => some (.bool false, rest)
    | rest => (readNumber? rest).map fun (n, rest) => (.number n, rest)

/-- The members of an object up to its closing brace. -/
def readMembers : Nat → List Char → Option (List (String × Document) × List Char)
  | 0, _ => none
  | fuel + 1, cs =>
    match skipBlanks cs with
    | '"' :: rest =>
      (readQuoted (rest.length + 1) [] rest).bind fun (name, rest) =>
        match skipBlanks rest with
        | ':' :: rest =>
          (readJson fuel rest).bind fun (value, rest) =>
            match skipBlanks rest with
            | ',' :: rest =>
              (readMembers fuel rest).map fun (fields, rest) => ((name, value) :: fields, rest)
            | '}' :: rest => some ([(name, value)], rest)
            | _ => none
        | _ => none
    | _ => none

/-- The items of a list up to its closing bracket. -/
def readItems : Nat → List Char → Option (List Document × List Char)
  | 0, _ => none
  | fuel + 1, cs =>
    (readJson fuel cs).bind fun (value, rest) =>
      match skipBlanks rest with
      | ',' :: rest => (readItems fuel rest).map fun (items, rest) => (value :: items, rest)
      | ']' :: rest => some ([value], rest)
      | _ => none

end

/-- Reads a JSON text. -/
def ofJson? (source : String) : Option Document :=
  let cs := source.toList
  match readJson (cs.length + 1) cs with
  | some (d, rest) => if (skipBlanks rest).isEmpty then some d else none
  | none => none

end EntityStore.Document
