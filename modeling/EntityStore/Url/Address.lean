import EntityStore.Number.Decimal
import EntityStore.Text.Hexadecimal

/-!
# Numeric addresses

The addresses of hosts that are written as numbers: four bytes, of which the last number may stand
for several, and eight groups of sixteen bits, of which a run of zeros may be left out.
-/

namespace EntityStore.Url

/-- A number in the notation of addresses: hexadecimal after `0x`, octal after another zero. The
prefix alone is a zero. -/
def addressNumber? (cs : List Char) : Option Nat :=
  match cs with
  | [] => none
  | '0' :: 'x' :: digits | '0' :: 'X' :: digits =>
    if digits.all Text.isHexDigit then some (Text.hexNumber digits) else none
  | '0' :: digit :: digits =>
    if (digit :: digits).all fun c => '0' ≤ c && c ≤ '7' then
      some ((digit :: digits).foldl (fun n c => 8 * n + (c.toNat - '0'.toNat)) 0)
    else none
  | digits => if digits.all Char.isDigit then some (digitsValue digits) else none

/-- A last empty part does not count. -/
def withoutRoot (parts : List (List Char)) : List (List Char) :=
  if parts.getLast? == some [] then parts.dropLast else parts

/-- The parts of a name are meant for an address: the last of them is a number, or only digits. -/
def endsInNumber (parts : List (List Char)) : Bool :=
  match (withoutRoot parts).getLast? with
  | none => false
  | some last => !last.isEmpty && last.all Char.isDigit || (addressNumber? last).isSome

/-- At most four numbers: bytes, and a last one for the bytes that are left. -/
def isIpv4 (parts : List (List Char)) : Bool :=
  match (withoutRoot parts).mapM addressNumber? with
  | none => false
  | some numbers =>
    let leading := numbers.dropLast
    leading.length < 4 && leading.all (· < 256) &&
      numbers.getLastD 0 < Nat.pow 256 (4 - leading.length)

/-- Four numbers below 256 without leading zeros, with points between them. -/
def isDotted (text : String) : Bool :=
  let parts := text.splitOn "."
  parts.length == 4 && parts.all fun part =>
    let cs := part.toList
    !cs.isEmpty && cs.all Char.isDigit && digitsValue cs < 256 &&
      (cs.length == 1 || cs.head? != some '0')

/-- The number of 16-bit groups that a text spells; the last two may be four dotted numbers. -/
def groupCount? (text : String) : Option Nat :=
  if text.isEmpty then some 0
  else
    let pieces := text.splitOn ":"
    let isGroup (piece : String) : Bool :=
      1 ≤ piece.length && piece.length ≤ 4 && piece.toList.all Text.isHexDigit
    if pieces.all isGroup then some pieces.length
    else if pieces.dropLast.all isGroup && isDotted (pieces.getLastD "") then
      some (pieces.length + 1)
    else none

/-- Eight groups, or fewer with two colons for the groups of zeros left out. -/
def isIpv6 (text : String) : Bool :=
  match text.splitOn "::" with
  | [whole] => groupCount? whole == some 8
  | [before, after] =>
    match groupCount? before, groupCount? after with
    | some m, some n => m + n ≤ 7 && !before.contains '.'
    | _, _ => false
  | _ => false

end EntityStore.Url
