import EntityStore.Document.Basic
import EntityStore.Document.Error
import EntityStore.Yaml.Node
import EntityStore.Yaml.Plain

/-!
# Nodes as data

What a node of YAML stands for. Aliases are followed where data is wanted; how often, and how deep
collections may stand in one another, is limited.
-/

namespace EntityStore.Yaml

/-- What is fixed while a document is read: the anchored nodes, how many aliases may be followed in
all, and how many collections may still be entered. -/
structure Context where
  anchored : List (Nat × Node)
  jumps : Nat
  depth : Nat

/-- Reading in a document; the number of aliases followed so far is counted. -/
abbrev Reading := ReaderT Context (StateT Nat (Except DecodeError))

/-- What a node is, in the words of a message. -/
def Node.kind : Node → String
  | .scalar _ _ text => "string " ++ text
  | .sequence .. => "sequence"
  | .mapping .. => "map"
  | .alias _ => "alias"

def mismatch {α : Type} (expected : String) (node : Node) : Reading α :=
  throw (.invalidType node.kind expected)

/-- The node that an alias stands for; other nodes stand for themselves. A name used for several
anchors stands for the last of them. -/
def follow (node : Node) : Reading Node := do
  match node with
  | .alias n =>
    let context ← read
    let followed := (← get) + 1
    set followed
    match context.anchored.reverse.lookup n with
    | some found => if context.jumps < followed then mismatch "fewer aliases" node else return found
    | none => mismatch "an anchor" node
  | node => return node

/-- Reads inside a collection. -/
def inside {α : Type} (node : Node) (work : Reading α) : Reading α := do
  match (← read).depth with
  | 0 => mismatch "shallower data" node
  | depth + 1 => withReader (fun context => { context with depth }) work

/-- Reads a document from its root. -/
def Reading.run {α : Type} (work : Node → Reading α) (root : Node) : Except DecodeError α :=
  (work root { anchored := root.anchored, jumps := 100 * root.size, depth := 128 } 0).map (·.1)

/-- A tag of the document's own types, of which data without a type knows nothing. -/
def isOwnTag (tag : Option String) : Bool :=
  tag.any fun t => t.startsWith "!"

/-- An integer as data. One that 64 bits do not hold is refused. -/
def ofInteger (node : Node) (n : Int) : Reading Document :=
  if fitsInt64 n || fitsUInt64 n then return .number (.int n)
  else mismatch "an integer of 64 bits" node

/-- An integer that 128 bits hold, with or without a sign. -/
def fitsWide (n : Int) : Bool :=
  -(Nat.pow 2 127 : Int) ≤ n && n < (Nat.pow 2 128 : Int)

/-- The number that a scalar is written as an integer. -/
def wideInteger? (s : String) : Option Int :=
  (integer? s).filter fitsWide

/-- What a scalar stands for: its tag decides, and without one the form of a plain scalar. -/
def ofScalar (tag : Option String) (style : Style) (s : String) : Reading Document := do
  let node := Node.scalar { tag } style s
  let wanted (type : String) : Reading Document := mismatch type node
  if isOwnTag tag then wanted "data without a type"
  else if tag = some (Node.coreTag "bool") then
    ((boolean? s).map fun b => pure (.bool b)).getD (wanted "a boolean")
  else if tag = some (Node.coreTag "int") then
    ((wideInteger? s).map (ofInteger node)).getD (wanted "an integer")
  else if tag = some (Node.coreTag "float") then
    ((float? s).map fun x => pure (.number (.float x))).getD (wanted "a float")
  else if tag = some (Node.coreTag "null") then
    if isNullWord s then return .null else wanted "null"
  else if tag.isSome || style != .plain then return .text s
  else if s.isEmpty || isNullWord s then return .null
  else
    match boolean? s, wideInteger? s with
    | some b, _ => return .bool b
    | none, some n => ofInteger node n
    | none, none =>
      match float? s with
      | some x => return if isPaddedDigits s then .text s else .number (.float x)
      | none => return .text s

/-- A mapping as data: a record when every key is a text. -/
def ofEntries (entries : List (Document × Document)) : Document :=
  let named := entries.filterMap fun (key, value) =>
    match key with
    | .text name => some (name, value)
    | _ => none
  if named.length = entries.length then .record named
  else
    .table (entries.map fun (key, value) =>
      match key with
      | .text name => (.name name, value)
      | .number (.int (.ofNat n)) => (.place n, value)
      | _ => (.other, value))

/-- The data that a node stands for, when collections are at most `depth` deep. -/
def toData : Nat → Node → Reading Document
  | depth, node => do
    match ← follow node with
    | .scalar p style s => ofScalar p.tag style s
    | .sequence p items =>
      match depth with
      | 0 => mismatch "shallower data" node
      | depth + 1 =>
        if isOwnTag p.tag then mismatch "data without a type" node
        else return .list (← items.mapM (toData depth))
    | .mapping p entries =>
      match depth with
      | 0 => mismatch "shallower data" node
      | depth + 1 =>
        if isOwnTag p.tag then mismatch "data without a type" node
        else
          return ofEntries (← entries.mapM fun (key, value) => do
            return (← toData depth key, ← toData depth value))
    | .alias _ => mismatch "an anchor" node

/-- The data that a node stands for. -/
def data (node : Node) : Reading Document := do
  toData (← read).depth node

end EntityStore.Yaml
