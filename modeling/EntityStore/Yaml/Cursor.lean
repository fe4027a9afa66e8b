/-!
# Places in a text

A cursor is a place in a text of YAML: what is still to be read, and how far it is from the
beginning of the text and of its line. Five characters break lines; a carriage return and the line
feed after it are one break.
-/

namespace EntityStore.Yaml

/-- The characters that a text may hold: no controls but tab and breaks, and no noncharacters at the
end of the first plane. -/
def isAllowed (c : Char) : Bool :=
  let n := c.toNat
  n == 0x9 || n == 0xA || n == 0xD || (0x20 ≤ n && n ≤ 0x7E) || n == 0x85 ||
    (0xA0 ≤ n && n ≤ 0xFFFD) || 0x10000 ≤ n

/-- A character that breaks lines. -/
def isBreak (c : Char) : Bool :=
  c == '\n' || c == '\r' || c.toNat == 0x85 || c.toNat == 0x2028 || c.toNat == 0x2029

/-- A space or a tab. -/
def isBlank (c : Char) : Bool :=
  c == ' ' || c == '\t'

/-- A character of a name: an ASCII letter or digit, an underscore or a hyphen. -/
def isNameChar (c : Char) : Bool :=
  c.isAlphanum || c == '_' || c == '-'

/-- A place in a text. -/
structure Cursor where
  rest : List Char
  index : Nat := 0
  line : Nat := 0
  column : Nat := 0
deriving Repr

namespace Cursor

/-- The character at a distance from the cursor. -/
def peek? (c : Cursor) (distance : Nat) : Option Char :=
  c.rest[distance]?

/-- The next character is `x`. -/
def startsWith (c : Cursor) (x : Char) : Bool :=
  c.rest.head? == some x

/-- The text ends here. -/
def atEnd (c : Cursor) : Bool :=
  c.rest.isEmpty

/-- A line break stands here. -/
def atBreak (c : Cursor) : Bool :=
  c.rest.head?.any isBreak

/-- A space or tab stands here. -/
def atBlank (c : Cursor) : Bool :=
  c.rest.head?.any isBlank

/-- The line ends here. -/
def atLineEnd (c : Cursor) : Bool :=
  c.rest.head?.all isBreak

/-- At a distance from the cursor stands a blank or a break, or nothing. -/
def isGapAt (c : Cursor) (distance : Nat) : Bool :=
  (c.peek? distance).all fun x => isBlank x || isBreak x

/-- The cursor after `n` characters of one line. -/
def skip (c : Cursor) (n : Nat) : Cursor :=
  { c with rest := c.rest.drop n, index := c.index + n, column := c.column + n }

/-- The text of a line break and the cursor after it: a line feed, except for the two separators
of Unicode, which stand for themselves. Elsewhere nothing is read. -/
def readBreak (c : Cursor) : List Char × Cursor :=
  let after (text : List Char) (n : Nat) : List Char × Cursor :=
    (text, ⟨c.rest.drop n, c.index + n, c.line + 1, 0⟩)
  match c.rest with
  | '\r' :: '\n' :: _ => after ['\n'] 2
  | x :: _ =>
    if !isBreak x then ([], c)
    else after [if 0x2028 ≤ x.toNat then x else '\n'] 1
  | [] => ([], c)

/-- The characters before the first that `p` refuses, and the cursor there. -/
def span (c : Cursor) (p : Char → Bool) : List Char × Cursor :=
  let text := c.rest.takeWhile p
  (text, c.skip text.length)

/-- The cursor at the first character that `p` refuses. -/
def skipWhile (c : Cursor) (p : Char → Bool) : Cursor :=
  (c.span p).2

/-- The cursor after the comment that stands here, if one does. -/
def skipComment (c : Cursor) : Cursor :=
  if c.startsWith '#' then c.skipWhile fun x => !isBreak x else c

/-- The cursor after the blanks and the comment that end a line. -/
def endLine? (c : Cursor) : Option Cursor :=
  let c := (c.skipWhile isBlank).skipComment
  if c.atLineEnd then some c.readBreak.2 else none

/-- A mark of three characters that opens or closes a document stands here. -/
def atMark (c : Cursor) (mark : List Char) : Bool :=
  c.column == 0 && mark.isPrefixOf c.rest && c.isGapAt 3

/-- A document opens or closes here. -/
def atDocumentEdge (c : Cursor) : Bool :=
  c.atMark ['-', '-', '-'] || c.atMark ['.', '.', '.']

end Cursor

end EntityStore.Yaml
