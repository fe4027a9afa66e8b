import EntityStore.Text.Hexadecimal
import EntityStore.Yaml.Cursor

/-!
# Scalars

The written forms of a text in YAML: plain, in single or double quotes, and as a block of lines
that is kept or folded. A form is read from the cursor at its first character; what is read is the
text it stands for and the cursor after it. In all but the kept block, a single break between two
lines of text becomes a space.
-/

namespace EntityStore.Yaml

/-- How a scalar is written. Only plain scalars can stand for something other than a text; the form
of a block is told apart since a tag can make data of it. -/
inductive Style where
  | plain
  | quoted
  | literal
deriving DecidableEq, Repr

/-- Blanks and breaks between two parts of a scalar. -/
structure Gap where
  broken : Bool := false
  blanks : List Char := []
  first : List Char := []
  others : List Char := []

namespace Gap

/-- What the gap leaves in the text: blanks on one line stay; of several breaks the first goes. -/
def text (g : Gap) : List Char :=
  if !g.broken then g.blanks
  else if g.first = ['\n'] then (if g.others.isEmpty then [' '] else g.others)
  else g.first ++ g.others

/-- Reads on to the next character that is neither blank nor break. After a break, no tab may stand
in a column before `indent`. -/
def read (indent : Nat) : Nat → Gap → Cursor → Option (Gap × Cursor)
  | 0, _, _ => none
  | fuel + 1, g, c =>
    if c.atBlank then
      if g.broken then
        if c.column < indent && c.startsWith '\t' then none else read indent fuel g (c.skip 1)
      else read indent fuel { g with blanks := g.blanks ++ c.rest.take 1 } (c.skip 1)
    else if c.atBreak then
      let (text, next) := c.readBreak
      if g.broken then read indent fuel { g with others := g.others ++ text } next
      else read indent fuel { broken := true, first := text } next
    else some (g, c)

end Gap

/-! ## Quotes -/

/-- The character that an escape letter stands for. -/
def escapes : List (Char × Nat) :=
  [('0', 0), ('a', 7), ('b', 8), ('t', 9), ('\t', 9), ('n', 10), ('v', 11), ('f', 12), ('r', 13),
    ('e', 27), (' ', 32), ('"', 34), ('/', 47), ('\\', 92), ('N', 0x85), ('_', 0xA0),
    ('L', 0x2028), ('P', 0x2029)]

/-- How many hexadecimal digits follow an escape letter. -/
def escapeDigits? (x : Char) : Option Nat :=
  if x == 'x' then some 2 else if x == 'u' then some 4 else if x == 'U' then some 8 else none

/-- The character that the escape letter `x` stands for, at the cursor after the letter. -/
def readEscape (x : Char) (c : Cursor) : Option (Char × Cursor) :=
  match escapeDigits? x with
  | none => (escapes.lookup x).map fun n => (Char.ofNat n, c)
  | some count =>
    (Text.hexDigits? count 0 c.rest).bind fun (n, _) =>
      if n.isValidChar then some (Char.ofNat n, c.skip count) else none

/-- The characters up to the next gap or the closing quote. An escaped break, which is the start of
a gap without a break to keep, ends them too. -/
def quotedRun (single : Bool) : Nat → List Char → Cursor → Option (List Char × Gap × Cursor)
  | 0, _, _ => none
  | fuel + 1, done, c =>
    match c.rest with
    | [] => some (done.reverse, {}, c)
    | x :: rest =>
      if isBlank x || isBreak x then some (done.reverse, {}, c)
      else if single then
        if x != '\'' then quotedRun single fuel (x :: done) (c.skip 1)
        else if rest.head? == some '\'' then quotedRun single fuel (x :: done) (c.skip 2)
        else some (done.reverse, {}, c)
      else if x == '"' then some (done.reverse, {}, c)
      else if x == '\\' then
        if (c.skip 1).atBreak then
          some (done.reverse, { broken := true }, (c.skip 1).readBreak.2)
        else
          rest.head?.bind fun letter =>
            (readEscape letter (c.skip 2)).bind fun (y, c) => quotedRun single fuel (y :: done) c
      else quotedRun single fuel (x :: done) (c.skip 1)

/-- A scalar in quotes, after the opening quote. No document may open or close inside it. -/
def readQuoted (single : Bool) : Nat → List Char → Cursor → Option (List Char × Cursor)
  | 0, _, _ => none
  | fuel + 1, done, c =>
    if c.atDocumentEdge || c.atEnd then none
    else
      (quotedRun single (c.rest.length + 1) [] c).bind fun (run, gap, c) =>
        if c.startsWith (if single then '\'' else '"') then
          some (done ++ run, c.skip 1)
        else
          (gap.read 0 (c.rest.length + 1) c).bind fun (gap, c) =>
            readQuoted single fuel (done ++ run ++ gap.text) c

/-! ## Plain scalars -/

/-- The characters that end a plain scalar inside a flow collection. -/
def isFlowMark (x : Char) : Bool :=
  x == ',' || x == '[' || x == ']' || x == '{' || x == '}'

/-- The characters of a plain scalar up to the next gap or the character that ends it. Inside a flow
collection, a colon right before a mark of the collection is refused. -/
def plainRun (inFlow : Bool) : List Char → Option (List Char)
  | [] => some []
  | x :: rest =>
    let colon := x == ':'
    if isBlank x || isBreak x then some []
    else if inFlow && colon && rest.head?.any (fun y => isFlowMark y || y == '?') then none
    else if colon && rest.head?.all (fun y => isBlank y || isBreak y) then some []
    else if inFlow && isFlowMark x then some []
    else (plainRun inFlow rest).map (x :: ·)

/-- A plain scalar, and whether a break follows it. The lines after the first stand in a block
indented by at least `indent`. -/
def readPlain (inFlow : Bool) (indent : Nat) :
    Nat → List Char → Gap → Cursor → Option (List Char × Bool × Cursor)
  | 0, _, _, _ => none
  | fuel + 1, done, gap, c =>
    if c.atDocumentEdge || c.startsWith '#' then some (done, gap.broken, c)
    else
      (plainRun inFlow c.rest).bind fun run =>
        let (done, gap) := if run.isEmpty then (done, gap) else (done ++ gap.text ++ run, {})
        let c := c.skip run.length
        if !c.atBlank && !c.atBreak then some (done, gap.broken, c)
        else
          (gap.read indent (c.rest.length + 1) c).bind fun (gap, c) =>
            if !inFlow && c.column < indent then some (done, gap.broken, c)
            else readPlain inFlow indent fuel done gap c

/-! ## Blocks -/

/-- What becomes of the breaks at the end of a block. -/
inductive Chomp where
  | strip
  | clip
  | keep
deriving DecidableEq

/-- The marks after the one that opens a block: what becomes of its end, and how far it is indented.
They come in any order. -/
def readHeader (c : Cursor) : Option (Chomp × Option Nat × Cursor) :=
  let chomp? (c : Cursor) : Option (Chomp × Cursor) :=
    if c.startsWith '+' then some (.keep, c.skip 1)
    else if c.startsWith '-' then some (.strip, c.skip 1)
    else none
  let digit? (c : Cursor) : Option (Nat × Cursor) :=
    match c.rest with
    | x :: _ => if x.isDigit then some (x.toNat - '0'.toNat, c.skip 1) else none
    | [] => none
  let (chomp, digit, c) : Chomp × Option Nat × Cursor :=
    match chomp? c with
    | some (chomp, c) =>
      match digit? c with
      | some (n, c) => (chomp, some n, c)
      | none => (chomp, none, c)
    | none =>
      match digit? c with
      | none => (.clip, none, c)
      | some (n, c) =>
        match chomp? c with
        | some (chomp, c) => (chomp, some n, c)
        | none => (.clip, some n, c)
  if digit = some 0 then none else some (chomp, digit, c)

/-- Indentation and breaks before a line of a block: the breaks, the widest indentation, and the
cursor at the line. Without a known indentation all spaces are skipped. No tab may stand where a
space of the indentation is wanted. -/
def blockBreaks (indent : Option Nat) :
    Nat → Nat → List Char → Cursor → Option (List Char × Nat × Cursor)
  | 0, _, _, _ => none
  | fuel + 1, widest, breaks, c =>
    let spaces := c.rest.takeWhile (· == ' ')
    let wanted :=
      match indent with
      | some n => min spaces.length (n - c.column)
      | none => spaces.length
    let c := c.skip wanted
    let widest := max widest c.column
    if indent.all (c.column < ·) && c.startsWith '\t' then none
    else if c.atBreak then
      let (text, c) := c.readBreak
      blockBreaks indent fuel widest (breaks ++ text) c
    else some (breaks, widest, c)

/-- The lines of a block indented by `indent`. `ending` is the break after the last line and
`breaks` the breaks after that; `blank` tells that the last line starts with a blank. -/
def blockLines (folded : Bool) (indent : Nat) :
    Nat → List Char → List Char → List Char → Bool → Cursor →
      Option (List Char × List Char × List Char × Cursor)
  | 0, _, _, _, _, _ => none
  | fuel + 1, done, ending, breaks, blank, c =>
    if c.column != indent || c.atEnd then some (done, ending, breaks, c)
    else
      let joined := folded && ending = ['\n'] && !blank && !c.atBlank
      let between := if joined then (if breaks.isEmpty then [' '] else breaks) else ending ++ breaks
      let (line, next) := c.span fun x => !isBreak x
      let (ending, next) := next.readBreak
      (blockBreaks (some indent) (next.rest.length + 1) 0 [] next).bind fun (breaks, _, next) =>
        blockLines folded indent fuel (done ++ between ++ line) ending breaks c.atBlank next

/-- A block after the mark that opens it, in a collection indented by `parent`. -/
def readBlock (folded : Bool) (parent : Option Nat) (c : Cursor) : Option (List Char × Cursor) := do
  let (chomp, digit, c) ← readHeader c
  let c ← c.endLine?
  let given := digit.map fun n => parent.getD 0 + n
  let (breaks, widest, c) ← blockBreaks given (c.rest.length + 1) 0 [] c
  let least := max 1 ((parent.map (· + 1)).getD 0)
  let indent := given.getD (max widest least)
  let (text, ending, breaks, c) ←
    blockLines folded indent (c.rest.length + 1) [] [] breaks false c
  let kept := match chomp with
    | .strip => []
    | .clip => ending
    | .keep => ending ++ breaks
  return (text ++ kept, c)

end EntityStore.Yaml
