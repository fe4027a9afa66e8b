import EntityStore.Pattern.Blank
import EntityStore.Pattern.Expression
import EntityStore.Text.Hexadecimal

/-!
# Escapes

What a backslash and the characters after it stand for: classes, edges, characters by their number,
and punctuation that would otherwise have a meaning.
-/

namespace EntityStore.Pattern

/-- The class that an escape letter names, and whether it is negated. -/
def shortClass? (c : Char) : Option (ShortClass × Bool) :=
  if c = 'd' then some (.digit, false)
  else if c = 'D' then some (.digit, true)
  else if c = 's' then some (.blank, false)
  else if c = 'S' then some (.blank, true)
  else if c = 'w' then some (.word, false)
  else if c = 'W' then some (.word, true)
  else none

/-- The edge that an escape letter names. -/
def edgeLetter? (c : Char) : Option Assertion :=
  if c = 'A' then some .textStart
  else if c = 'z' then some .textEnd
  else if c = 'b' then some (.word .edge)
  else if c = 'B' then some (.word .noEdge)
  else if c = '<' then some (.word .start)
  else if c = '>' then some (.word .finish)
  else none

/-- The control character that an escape letter names. -/
def controlLetter? (c : Char) : Option Char :=
  if c = 'a' then some (Char.ofNat 7)
  else if c = 'f' then some (Char.ofNat 12)
  else if c = 't' then some '\t'
  else if c = 'n' then some '\n'
  else if c = 'r' then some '\r'
  else if c = 'v' then some (Char.ofNat 11)
  else none

/-- The characters that stand for themselves when they are escaped: those of ASCII but letters,
digits and angles. -/
def isEscapable (c : Char) : Bool :=
  c.toNat < 128 && !c.isAlphanum && c != '<' && c != '>'

/-- The place that the name of a special edge of words stands for. -/
def wordPlace? (name : String) : Option WordPlace :=
  if name = "start" then some .start
  else if name = "end" then some .finish
  else if name = "start-half" then some .notAfter
  else if name = "end-half" then some .notBefore
  else none

/-- The edge of words after its letter. A name in braces makes it special; braces that do not begin
with a letter or a hyphen are left to a repetition. -/
def wordEdge? (verbose : Bool) (cs : List Char) : Option (Atom × List Char) :=
  match cs with
  | '{' :: inner =>
    match passBlanks verbose inner with
    | [] => none
    | c :: _ =>
      if c.isAlpha || c == '-' then
        (upTo? verbose '}' false inner).bind fun (name, rest) =>
          (wordPlace? (String.ofList name)).map fun place => (.assertion (.word place), rest)
      else some (.assertion (.word .edge), cs)
  | _ => some (.assertion (.word .edge), cs)

/-- The character with a number. -/
def codePoint? (n : Nat) : Option Char :=
  if n.isValidChar then some (Char.ofNat n) else none

/-- The number that `count` hexadecimal digits write. -/
def fixedHex? (verbose : Bool) : Nat → Nat → List Char → Option (Nat × List Char)
  | 0, value, cs => some (value, cs)
  | count + 1, value, c :: rest =>
    (Text.hexValue? c).bind fun digit =>
      fixedHex? verbose count (16 * value + digit) (passBlanks verbose rest)
  | _ + 1, _, [] => none

/-- A character by its number: any hexadecimal digits in braces, or as many as the letter asks for.
Two digits may write a byte. -/
def hexEscape? (verbose : Bool) (count : Nat) (cs : List Char) : Option (Atom × List Char) :=
  match passBlanks verbose cs with
  | '{' :: rest =>
    (upTo? verbose '}' false rest).bind fun (number, rest) =>
      if number.isEmpty || !number.all Text.isHexDigit then none
      else (codePoint? (Text.hexNumber number)).map fun c =>
        (.char c false, passBlanks verbose rest)
  | cs =>
    (fixedHex? verbose count 0 cs).bind fun (n, rest) =>
      (codePoint? n).map fun c => (.char c (count == 2), rest)

/-- The number of hexadecimal digits after an escape letter. -/
def hexCount? (c : Char) : Option Nat :=
  if c = 'x' then some 2 else if c = 'u' then some 4 else if c = 'U' then some 8 else none

/-- The first place where `mark` stands in the text, as what is before and after it. -/
def cutAt? (mark : List Char) : List Char → Option (List Char × List Char)
  | [] => none
  | c :: rest =>
    if mark.isPrefixOf (c :: rest) then some ([], (c :: rest).drop mark.length)
    else (cutAt? mark rest).map fun (before, after) => (c :: before, after)

/-- The property that is asked for in braces: a name, or a name and a value. -/
def propertyQuery (text : List Char) : PropertyQuery :=
  match cutAt? ['!', '='] text <|> cutAt? [':'] text <|> cutAt? ['='] text with
  | some (property, value) => .valued (String.ofList property) (String.ofList value)
  | none => .called (String.ofList text)

/-- A class of the characters with a property: its name in braces, or one letter. -/
def propertyEscape? (verbose negated : Bool) (cs : List Char) : Option (Atom × List Char) :=
  match passBlanks verbose cs with
  | [] => none
  | '{' :: rest =>
    (upTo? verbose '}' false rest).map fun (text, rest) =>
      (.property (propertyQuery text) negated, rest)
  | c :: rest =>
    if c = '\\' then none
    else some (.property (.called (String.ofList [c])) negated, passBlanks verbose rest)

/-- What stands after a backslash. -/
def escape? (verbose : Bool) : List Char → Option (Atom × List Char)
  | [] => none
  | c :: rest =>
    match shortClass? c, controlLetter? c, hexCount? c with
    | some (kind, negated), _, _ => some (.short kind negated, rest)
    | _, some control, _ => some (.char control false, rest)
    | _, _, some count => hexEscape? verbose count rest
    | _, _, _ =>
      if c = 'p' ∨ c = 'P' then propertyEscape? verbose (c == 'P') rest
      else if c = 'b' then wordEdge? verbose rest
      else
        match edgeLetter? c with
        | some a => some (.assertion a, rest)
        | none => if isEscapable c then some (.char c false, rest) else none

/-- What stands outside of classes and groups for itself or for a leaf. -/
def atom? (verbose : Bool) : List Char → Option (Atom × List Char)
  | [] => none
  | '\\' :: rest => escape? verbose rest
  | '.' :: rest => some (.dot, rest)
  | '^' :: rest => some (.assertion .lineStart, rest)
  | '$' :: rest => some (.assertion .lineEnd, rest)
  | c :: rest => some (.char c false, rest)

end EntityStore.Pattern
