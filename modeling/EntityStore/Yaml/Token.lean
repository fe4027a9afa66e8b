import EntityStore.Yaml.Scalar

/-!
# Tokens

The parts that a text of YAML is made of. Indentation becomes tokens that open and close block
collections. A mapping key is known as one only when the colon after it is read: until then the
place before it is remembered, and the tokens that announce a key are put in there.
-/

namespace EntityStore.Yaml

/-- A part of a text. -/
inductive Token where
  | version (major minor : Nat)
  | handle (name uri : String)
  | documentStart
  | documentEnd
  | blockSequence
  | blockMapping
  | blockEnd
  | flowSequence
  | flowSequenceEnd
  | flowMapping
  | flowMappingEnd
  | item
  | comma
  | key
  | value
  | alias (name : String)
  | anchor (name : String)
  | tag (handle suffix : String)
  | scalar (style : Style) (text : String)
deriving DecidableEq, Repr

/-- A place where a key may begin. A required key must turn out to be one. -/
structure KeyPlace where
  required : Bool
  tokens : Nat
  line : Nat
  index : Nat
  column : Nat

/-- What is known while a text is taken apart: the tokens so far, last first, with their number; the
indentation of the open block collections, innermost first; and for every open flow collection, and
the block around them, the place where a key may have begun, innermost first. -/
structure Lexer where
  cursor : Cursor
  tokens : List Token := []
  count : Nat := 0
  indents : List Nat := []
  places : List (Option KeyPlace) := [none]
  keyAllowed : Bool := true

namespace Lexer

/-- Some flow collection is open. -/
def inFlow (s : Lexer) : Bool :=
  1 < s.places.length

/-- The indentation of the innermost block collection. -/
def indent? (s : Lexer) : Option Nat :=
  s.indents.head?

/-- The column that a further line of the innermost block collection has at least. -/
def nextIndent (s : Lexer) : Nat :=
  (s.indent?.map (· + 1)).getD 0

def emit (s : Lexer) (t : Token) : Lexer :=
  { s with tokens := t :: s.tokens, count := s.count + 1 }

/-- Puts a token in after the first `place` tokens. -/
def insert (s : Lexer) (place : Nat) (t : Token) : Lexer :=
  let later := s.count - place
  { s with tokens := s.tokens.take later ++ t :: s.tokens.drop later, count := s.count + 1 }

/-- Emits a token and moves the cursor over the `n` characters that it is written with. -/
def emitOver (s : Lexer) (t : Token) (n : Nat) : Lexer :=
  { s.emit t with cursor := s.cursor.skip n }

/-- Gives up the place where a key may have begun, unless the key is required. -/
def dropPlace (s : Lexer) : Option Lexer :=
  match s.places with
  | some place :: outer =>
    if place.required then none else some { s with places := none :: outer }
  | _ => some s

/-- Remembers the place of the cursor, if a key may begin there. -/
def notePlace (s : Lexer) : Option Lexer :=
  if !s.keyAllowed then some s
  else
    s.dropPlace.map fun s =>
      let place : KeyPlace :=
        { required := !s.inFlow && s.indent? = some s.cursor.column, tokens := s.count
          line := s.cursor.line, index := s.cursor.index, column := s.cursor.column }
      { s with places := some place :: s.places.tail }

/-- A key stands on one line and is at most 1024 characters long: gives up the places for which that
can no longer be. -/
def dropStale (s : Lexer) : Option Lexer :=
  (s.places.mapM fun (place : Option KeyPlace) =>
    match place with
    | none => some none
    | some p =>
      if p.line < s.cursor.line || p.index + 1024 < s.cursor.index then
        if p.required then none else some none
      else some (some p)).map fun places => { s with places }

/-- Closes the block collections that are indented further than `column`, or all of them. -/
def unindent (s : Lexer) (column : Option Nat) : Lexer :=
  if s.inFlow then s
  else
    let closed := s.indents.takeWhile fun indent => column.all (· < indent)
    { closed.foldl (fun s _ => s.emit .blockEnd) s with indents := s.indents.drop closed.length }

/-- Opens a block collection in a column, unless one is open there. Its token goes to the end or
after the first `place` tokens. -/
def indent (s : Lexer) (column : Nat) (place : Option Nat) (opening : Token) : Lexer :=
  if s.inFlow || s.indent?.any (column ≤ ·) then s
  else
    let s := { s with indents := column :: s.indents }
    match place with
    | some place => s.insert place opening
    | none => s.emit opening

/-- The cursor at the next token: blanks, comments and breaks are skipped, and a byte order mark
that begins a line. A tab may not stand where it could pass for indentation. -/
def toToken : Nat → Lexer → Lexer
  | 0, s => s
  | fuel + 1, s =>
    let c := s.cursor
    let c := if c.column = 0 && c.rest.head?.any (·.toNat == 0xFEFF) then c.skip 1 else c
    let tabs := s.inFlow || !s.keyAllowed
    let c := (c.skipWhile fun x => x == ' ' || (tabs && x == '\t')).skipComment
    if c.atBreak then
      toToken fuel { s with cursor := c.readBreak.2, keyAllowed := s.keyAllowed || !s.inFlow }
    else { s with cursor := c }

/-! ## Directives, anchors and tags -/

/-- A number of at most nine digits. -/
def number? (c : Cursor) : Option (Nat × Cursor) :=
  let (digits, c) := c.span Char.isDigit
  if digits.isEmpty || 9 < digits.length then none
  else some (digits.foldl (fun n x => 10 * n + (x.toNat - '0'.toNat)) 0, c)

/-- The handle of a tag: an exclamation mark, and perhaps a name with one after it. -/
def handle? (c : Cursor) : Option (List Char × Cursor) :=
  if !c.startsWith '!' then none
  else
    let (name, c) := (c.skip 1).span isNameChar
    if c.startsWith '!' then some ('!' :: name ++ ['!'], c.skip 1) else some ('!' :: name, c)

/-- A character of a tag; commas and square brackets only in a tag between angles. -/
def isTagChar (angled : Bool) (x : Char) : Bool :=
  isNameChar x || ";/?:@&=+$.%!~*'()".toList.contains x || (angled && ",[]".toList.contains x)

/-- The number of bytes of the UTF-8 character that begins with a byte. -/
def utf8Length? (byte : Nat) : Option Nat :=
  if byte < 0x80 then some 1
  else if 0xC0 ≤ byte && byte < 0xE0 then some 2
  else if 0xE0 ≤ byte && byte < 0xF0 then some 3
  else if 0xF0 ≤ byte && byte < 0xF8 then some 4
  else none

/-- A byte that is escaped by a percent sign. -/
def escapedByte? : List Char → Option (Nat × List Char)
  | '%' :: rest => Text.hexDigits? 2 0 rest
  | _ => none

/-- `count` escaped bytes that continue a character, appended to its bits. -/
def continuation? : Nat → Nat → List Char → Option (Nat × List Char)
  | 0, bits, cs => some (bits, cs)
  | count + 1, bits, cs =>
    (escapedByte? cs).bind fun (byte, rest) =>
      if byte / 0x40 = 2 then continuation? count (bits * 0x40 + byte % 0x40) rest else none

/-- The characters of a tag with those that are escaped. -/
def unescapeTag : Nat → List Char → Option (List Char)
  | 0, _ => none
  | _ + 1, [] => some []
  | fuel + 1, x :: rest =>
    if x != '%' then (unescapeTag fuel rest).map (x :: ·)
    else do
      let (byte, rest) ← escapedByte? (x :: rest)
      let length ← utf8Length? byte
      let lead := if length = 1 then byte else byte % Nat.pow 2 (7 - length)
      let (bits, rest) ← continuation? (length - 1) lead rest
      let text ← unescapeTag fuel rest
      return Char.ofNat bits :: text

/-- The text of a tag, which may be empty only when `known` of it was read before. -/
def tagText? (angled known : Bool) (c : Cursor) : Option (List Char × Cursor) :=
  let (text, c) := c.span (isTagChar angled)
  if text.isEmpty && !known then none
  else (unescapeTag (text.length + 1) text).map fun text => (text, c)

/-- A directive after its percent sign: the version of YAML, or what a handle of tags stands for. -/
def directive? (c : Cursor) : Option (Token × Cursor) := do
  let (name, c) := c.span isNameChar
  let blank := c.skipWhile isBlank
  if !c.isGapAt 0 then none
  else if name = "YAML".toList then
    let (major, c) ← number? blank
    if !c.startsWith '.' then none
    let (minor, c) ← number? (c.skip 1)
    return (.version major minor, ← c.endLine?)
  else if name = "TAG".toList then
    let (handle, c) ← handle? blank
    if handle.getLast? != some '!' then none
    if !c.atBlank then none
    let (uri, c) ← tagText? true false (c.skipWhile isBlank)
    if !c.isGapAt 0 then none
    return (.handle (String.ofList handle) (String.ofList uri), ← c.endLine?)
  else none

/-- The name of an anchor or alias. -/
def anchorName? (c : Cursor) : Option (String × Cursor) :=
  let (name, c) := c.span isNameChar
  if name.isEmpty || !(c.isGapAt 0 || c.rest.head?.any "?:,]\x7d%@\x60".toList.contains) then none
  else some (String.ofList name, c)

/-- A tag at its exclamation mark: between angles as it stands, or a suffix to a handle. -/
def tag? (inFlow : Bool) (c : Cursor) : Option (Token × Cursor) := do
  let (token, c) ←
    if c.peek? 1 = some '<' then do
      let (text, c) ← tagText? true false (c.skip 2)
      if !c.startsWith '>' then none
      pure (Token.tag "" (String.ofList text), c.skip 1)
    else do
      let (handle, c) ← handle? c
      if 1 < handle.length && handle.getLast? = some '!' then
        let (suffix, c) ← tagText? false false c
        pure (Token.tag (String.ofList handle) (String.ofList suffix), c)
      else
        let (text, c) ← tagText? false true c
        let suffix := handle.drop 1 ++ text
        pure (if suffix.isEmpty then .tag "" "!" else .tag "!" (String.ofList suffix), c)
  if c.isGapAt 0 || (inFlow && c.startsWith ',') then return (token, c) else none

/-! ## One token -/

/-- A directive or the mark of a document closes every block collection. -/
def atDocumentLevel (s : Lexer) : Option Lexer :=
  (s.unindent none).dropPlace.map fun s => { s with keyAllowed := false }

/-- A token read at a place where a key may begin. -/
def node (s : Lexer) (read : Cursor → Option (Token × Cursor)) : Option Lexer :=
  s.notePlace.bind fun s =>
    (read s.cursor).map fun (t, c) => { s.emit t with cursor := c, keyAllowed := false }

/-- The start of a flow collection. -/
def openFlow (s : Lexer) (t : Token) : Option Lexer :=
  s.notePlace.map fun s =>
    { s.emitOver t 1 with places := none :: s.places, keyAllowed := true }

/-- The end of a flow collection. -/
def closeFlow (s : Lexer) (t : Token) : Option Lexer :=
  s.dropPlace.map fun s =>
    { s.emitOver t 1 with
      places := if s.inFlow then s.places.tail else s.places
      keyAllowed := false }

/-- A mark after which a key may begin: in a block, an item or a key with a mark of its own opens
the collection it belongs to. -/
def mark (s : Lexer) (t : Token) (opening : Option Token) (keyAllowed : Bool) : Option Lexer := do
  if opening.isSome && !s.inFlow && !s.keyAllowed then none
  let s := match opening with
    | some opening => s.indent s.cursor.column none opening
    | none => s
  let s ← s.dropPlace
  return { s.emitOver t 1 with keyAllowed }

/-- A colon: what stands at the remembered place is a key, which opens a mapping if it is the
first. -/
def colon (s : Lexer) : Option Lexer :=
  match s.places with
  | some place :: outer =>
    let s := (s.insert place.tokens .key).indent place.column (some place.tokens) .blockMapping
    some { s.emitOver .value 1 with places := none :: outer, keyAllowed := false }
  | _ =>
    if !s.inFlow && !s.keyAllowed then none
    else
      let s := s.indent s.cursor.column none .blockMapping
      some { s.emitOver .value 1 with keyAllowed := !s.inFlow }

/-- A scalar as a block of lines. -/
def block (s : Lexer) (folded : Bool) : Option Lexer := do
  let s ← s.dropPlace
  let (text, c) ← readBlock folded s.indent? (s.cursor.skip 1)
  let style := if folded then .quoted else .literal
  return { s.emit (.scalar style (String.ofList text)) with cursor := c, keyAllowed := true }

/-- A scalar in quotes. -/
def quoted (s : Lexer) (single : Bool) : Option Lexer :=
  s.node fun c =>
    (readQuoted single (c.rest.length + 1) [] (c.skip 1)).map fun (text, c) =>
      (.scalar .quoted (String.ofList text), c)

/-- A plain scalar. After a break that follows it, a key may begin. -/
def plain (s : Lexer) : Option Lexer := do
  let s ← s.notePlace
  let c := s.cursor
  let (text, broken, c) ← readPlain s.inFlow s.nextIndent (c.rest.length + 1) [] {} c
  return { s.emit (.scalar .plain (String.ofList text)) with cursor := c, keyAllowed := broken }

/-- A character that begins no plain scalar by itself. -/
def isIndicator (x : Char) : Bool :=
  "-?:,[]\x7b\x7d#&*!|>'\"%@\x60".toList.contains x

/-- A plain scalar begins here. -/
def startsPlain (s : Lexer) : Bool :=
  let next := s.cursor.peek? 1
  match s.cursor.rest with
  | [] => false
  | x :: _ =>
    (!isIndicator x && !isBlank x && !isBreak x) || (x == '-' && !next.any isBlank) ||
      (!s.inFlow && (x == '?' || x == ':') && !s.cursor.isGapAt 1)

/-- Reads the token at the cursor. -/
def readToken (s : Lexer) : Option Lexer :=
  let c := s.cursor
  let inBlock := !s.inFlow
  let marks := s.inFlow || c.isGapAt 1
  let first := c.rest.headD ' '
  if c.column = 0 && first == '%' then
    s.atDocumentLevel.bind fun s =>
      (directive? (s.cursor.skip 1)).map fun (t, c) => { s.emit t with cursor := c }
  else if c.atMark ['-', '-', '-'] then s.atDocumentLevel.map (·.emitOver .documentStart 3)
  else if c.atMark ['.', '.', '.'] then s.atDocumentLevel.map (·.emitOver .documentEnd 3)
  else if first == '[' then s.openFlow .flowSequence
  else if first == '{' then s.openFlow .flowMapping
  else if first == ']' then s.closeFlow .flowSequenceEnd
  else if first == '}' then s.closeFlow .flowMappingEnd
  else if first == ',' then s.mark .comma none true
  else if first == '-' && c.isGapAt 1 then s.mark .item (some .blockSequence) true
  else if first == '?' && marks then s.mark .key (some .blockMapping) inBlock
  else if first == ':' && marks then s.colon
  else if first == '*' then
    s.node fun c => (anchorName? (c.skip 1)).map fun (name, c) => (.alias name, c)
  else if first == '&' then
    s.node fun c => (anchorName? (c.skip 1)).map fun (name, c) => (.anchor name, c)
  else if first == '!' then s.node (tag? s.inFlow)
  else if first == '|' && inBlock then s.block false
  else if first == '>' && inBlock then s.block true
  else if first == '\'' then s.quoted true
  else if first == '"' then s.quoted false
  else if s.startsPlain then s.plain
  else none

/-- Reads every token. -/
def readAll : Nat → Lexer → Option Lexer
  | 0, _ => none
  | fuel + 1, s =>
    let s := s.toToken (s.cursor.rest.length + 1)
    s.dropStale.bind fun s =>
      let s := s.unindent (some s.cursor.column)
      if s.cursor.atEnd then s.atDocumentLevel else s.readToken.bind (readAll fuel)

end Lexer

/-- The tokens of a text. -/
def Token.ofText? (text : String) : Option (List Token) :=
  let cs := text.toList
  if cs.all isAllowed then
    (Lexer.readAll (cs.length + 1) { cursor := { rest := cs } }).map (·.tokens.reverse)
  else none

end EntityStore.Yaml
