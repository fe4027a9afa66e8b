import EntityStore.Yaml.Token

/-!
# Nodes

The data of a text of YAML as it is written: scalars, sequences and mappings with their tags, and
the aliases that stand for a node with an anchor. `Node.ofText?` reads a text that holds exactly one
document.
-/

namespace EntityStore.Yaml

/-- What may be written in front of a node: a number for its anchor, and its tag in full. -/
structure Properties where
  anchor : Option Nat := none
  tag : Option String := none
deriving DecidableEq, Repr

/-- The data of a document as it is written. -/
inductive Node where
  | scalar (properties : Properties) (style : Style) (text : String)
  | sequence (properties : Properties) (items : List Node)
  | mapping (properties : Properties) (entries : List (Node × Node))
  | alias (anchor : Nat)
deriving Repr, Inhabited

namespace Node

/-- A node that is left out. -/
def missing : Node := .scalar {} .plain ""

def tag? : Node → Option String
  | .scalar p _ _ | .sequence p _ | .mapping p _ => p.tag
  | .alias _ => none

/-- The tags of the types that scalars can have. -/
def coreTag (type : String) : String := "tag:yaml.org,2002:" ++ type

mutual

/-- The number of parts that a node is written with: one for a scalar or an alias, and two around
those of a collection. -/
def size : Node → Nat
  | .scalar .. | .alias _ => 1
  | .sequence _ items => sizeOfItems items + 2
  | .mapping _ entries => sizeOfEntries entries + 2

/-- The parts of the items of a sequence. -/
def sizeOfItems : List Node → Nat
  | [] => 0
  | item :: rest => size item + sizeOfItems rest

/-- The parts of the entries of a mapping. -/
def sizeOfEntries : List (Node × Node) → Nat
  | [] => 0
  | (key, value) :: rest => size key + size value + sizeOfEntries rest

end

/-- The node under the number of its anchor, if it has one. -/
def named (p : Properties) (node : Node) : List (Nat × Node) :=
  match p.anchor with
  | some n => [(n, node)]
  | none => []

mutual

/-- The nodes with an anchor, in the order in which they begin. -/
def anchored : Node → List (Nat × Node)
  | .scalar p style text => named p (.scalar p style text)
  | .sequence p items => named p (.sequence p items) ++ anchoredItems items
  | .mapping p entries => named p (.mapping p entries) ++ anchoredEntries entries
  | .alias _ => []

/-- The anchored nodes of the items of a sequence. -/
def anchoredItems : List Node → List (Nat × Node)
  | [] => []
  | item :: rest => anchored item ++ anchoredItems rest

/-- The anchored nodes of the entries of a mapping. -/
def anchoredEntries : List (Node × Node) → List (Nat × Node)
  | [] => []
  | (key, value) :: rest => anchored key ++ anchored value ++ anchoredEntries rest

end

end Node

/-- What is known while nodes are made of tokens: the tokens that are left, the numbers of the
anchors by their names, and what the handles of tags stand for. -/
structure Source where
  tokens : List Token
  anchors : List (String × Nat) := []
  handles : List (String × String) := []

/-- A step that makes something of tokens. -/
abbrev Source.Step := StateT Source Option

namespace Source

/-- The next token, none at the end of the text. -/
def peek? : Step (Option Token) :=
  fun s => some (s.tokens.head?, s)

/-- Goes on to the token after the next. -/
def advance : Step Unit :=
  fun s => some ((), { s with tokens := s.tokens.tail })

/-- Takes the next token if it is `t`. -/
def take (t : Token) : Step Bool := do
  if (← peek?) = some t then
    advance
    return true
  else return false

/-- The next token is one of the given ones, or the text ends and `orEnd` holds. -/
def isNext (tokens : List Token) (orEnd : Bool) : Step Bool := do
  match ← peek? with
  | some t => return tokens.contains t
  | none => return orEnd

/-- Numbers an anchor by the count of names so far; a name that is used again is counted once. -/
def nameAnchor (name : String) : Step Nat :=
  fun s =>
    let n := s.anchors.length
    some (n, { s with anchors := (name, n) :: s.anchors.filter (·.1 != name) })

/-- A tag in full. -/
def fullTag (handle suffix : String) : Step String :=
  fun s =>
    if handle.isEmpty then some (suffix, s)
    else (s.handles.lookup handle).map fun uri => (uri ++ suffix, s)

/-- The anchor and the tag in front of a node, in any order. -/
def properties : Step Properties := do
  let anchor : Step (Option Nat) := do
    match ← peek? with
    | some (.anchor name) =>
      advance
      some <$> nameAnchor name
    | _ => return none
  let tag : Step (Option String) := do
    match ← peek? with
    | some (.tag handle suffix) =>
      advance
      some <$> fullTag handle suffix
    | _ => return none
  let first ← anchor
  let tag ← tag
  let anchor ← if first.isSome then pure first else anchor
  return { anchor, tag }

/-- A scalar; the tag `!` only says that it has no other. -/
def scalar (p : Properties) (style : Style) (text : String) : Node :=
  .scalar (if p.tag = some "!" then { p with tag := none } else p) style text

mutual

/-- A node. Block collections stand only where `block` holds; a sequence whose items stand in the
column of the mapping around it, only where `loose` holds. -/
def node : Nat → Bool → Bool → Step Node
  | 0, _, _ => failure
  | fuel + 1, block, loose => do
    match ← peek? with
    | some (.alias name) =>
      advance
      let some n := (← get).anchors.lookup name | failure
      return .alias n
    | _ =>
      let p ← properties
      match ← peek?, block with
      | some .item, _ =>
        if loose then return .sequence p (← looseItems fuel)
        else if p = {} then failure
        else return .scalar p .plain ""
      | some (.scalar style text), _ =>
        advance
        return scalar p style text
      | some .flowSequence, _ =>
        advance
        return .sequence p (← flowItems fuel true)
      | some .flowMapping, _ =>
        advance
        return .mapping p (← flowEntries fuel true)
      | some .blockSequence, true =>
        advance
        return .sequence p (← blockItems fuel)
      | some .blockMapping, true =>
        advance
        return .mapping p (← blockEntries fuel)
      | _, _ => if p = {} then failure else return .scalar p .plain ""

/-- A node, or nothing in its place when one of the given tokens follows. -/
def nodeUnless : Nat → List Token → Bool → Bool → Step Node
  | 0, _, _, _ => failure
  | fuel + 1, ends, block, loose => do
    if ← isNext ends false then return .missing else node fuel block loose

/-- The items of a block sequence up to its end. -/
def blockItems : Nat → Step (List Node)
  | 0 => failure
  | fuel + 1 => do
    if ← take .blockEnd then return []
    else if ← take .item then
      let item ← nodeUnless fuel [.item, .blockEnd] true false
      return item :: (← blockItems fuel)
    else failure

/-- The items of a sequence in the column of the mapping around it. -/
def looseItems : Nat → Step (List Node)
  | 0 => failure
  | fuel + 1 => do
    if ← take .item then
      let item ← nodeUnless fuel [.item, .key, .value, .blockEnd] true false
      return item :: (← looseItems fuel)
    else return []

/-- The entries of a block mapping up to its end. -/
def blockEntries : Nat → Step (List (Node × Node))
  | 0 => failure
  | fuel + 1 => do
    if ← take .blockEnd then return []
    else if ← take .key then
      let key ← nodeUnless fuel [.key, .value, .blockEnd] true true
      let value ←
        if ← take .value then nodeUnless fuel [.key, .value, .blockEnd] true true
        else pure .missing
      return (key, value) :: (← blockEntries fuel)
    else failure

/-- The items of a flow sequence up to its end. A key among them is a mapping of one entry. -/
def flowItems : Nat → Bool → Step (List Node)
  | 0, _ => failure
  | fuel + 1, first => do
    if ← take .flowSequenceEnd then return []
    if !first then
      if !(← take .comma) then failure
    if ← take .flowSequenceEnd then return []
    let item ← if ← take .key then flowPair fuel else node fuel false false
    return item :: (← flowItems fuel false)

/-- A mapping of one entry inside a flow sequence. Where no key stands, what stands in its place is
passed over. -/
def flowPair : Nat → Step Node
  | 0 => failure
  | fuel + 1 => do
    let key ←
      if ← isNext [.value, .comma, .flowSequenceEnd] false then
        advance
        pure .missing
      else node fuel false false
    let value ←
      if ← take .value then nodeUnless fuel [.comma, .flowSequenceEnd] false false
      else pure .missing
    return .mapping {} [(key, value)]

/-- The entries of a flow mapping up to its end. -/
def flowEntries : Nat → Bool → Step (List (Node × Node))
  | 0, _ => failure
  | fuel + 1, first => do
    if ← take .flowMappingEnd then return []
    if !first then
      if !(← take .comma) then failure
    if ← take .flowMappingEnd then return []
    let entry ←
      if ← take .key then do
        let key ← nodeUnless fuel [.value, .comma, .flowMappingEnd] false false
        let value ←
          if ← take .value then nodeUnless fuel [.comma, .flowMappingEnd] false false
          else pure Node.missing
        pure (key, value)
      else pure (← node fuel false false, .missing)
    return entry :: (← flowEntries fuel false)

end

/-- The directives in front of a document: at most one version, which must be 1.1 or 1.2, and what
handles stand for, each at most once. -/
def directives : Nat → Bool → Step Unit
  | 0, _ => failure
  | fuel + 1, versioned => do
    match ← peek? with
    | some (.version major minor) =>
      if versioned || major != 1 || (minor != 1 && minor != 2) then failure
      advance
      directives fuel true
    | some (.handle name uri) =>
      if ((← get).handles.lookup name).isSome then failure
      modify fun s => { s with handles := (name, uri) :: s.handles }
      advance
      directives fuel versioned
    | _ =>
      modify fun s =>
        { s with handles := s.handles ++ [("!", "!"), ("!!", "tag:yaml.org,2002:")] }

/-- The only document of the text. Without directives it may begin without a mark. -/
def document : Step Node := do
  let fuel := 4 * (← get).tokens.length + 4
  let bare ← do
    match ← peek? with
    | some (.version ..) | some (.handle ..) | some .documentStart | none => pure false
    | _ => pure true
  directives fuel false
  let marked ← take .documentStart
  if !bare && !marked then failure
  let root ←
    if marked then
      let empty ← do
        match ← peek? with
        | some (.version ..) | some (.handle ..) | none => pure true
        | some t => pure (t = .documentStart || t = .documentEnd)
      if empty then pure .missing else node fuel true false
    else node fuel true false
  if ← take .documentEnd then passDocumentEnds fuel
  if (← peek?).isSome then failure
  return root
where
  passDocumentEnds : Nat → Step Unit
    | 0 => failure
    | fuel + 1 => do if ← take .documentEnd then passDocumentEnds fuel

end Source

/-- Reads a text that holds exactly one document. -/
def Node.ofText? (text : String) : Option Node :=
  (Token.ofText? text).bind fun tokens => (Source.document.run { tokens }).map (·.1)

end EntityStore.Yaml
