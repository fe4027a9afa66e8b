import EntityStore.Pattern.Basic
import EntityStore.Pattern.Class

/-!
# Expressions

The written form of a pattern as a tree, and the pattern that it stands for (`Expression.pattern?`).
Flags hold from where they are given to the end of the group, across its alternatives.
-/

namespace EntityStore

open Text (CharSet)

/-- The edges that can be written. -/
inductive Assertion where
  | lineStart
  | lineEnd
  | textStart
  | textEnd
  | word (place : WordPlace)
deriving DecidableEq, Repr

/-- The smallest parts of an expression. A character `asByte` is written as two hexadecimal
digits. -/
inductive Atom where
  | char (c : Char) (asByte : Bool)
  | dot
  | assertion (a : Assertion)
  | short (kind : ShortClass) (negated : Bool)
  | property (query : PropertyQuery) (negated : Bool)
deriving DecidableEq, Repr

/-- A written pattern. A group that can be referred to may have a name; one that cannot may change
flags. -/
inductive Expression where
  | atom (a : Atom)
  | bracket (negated : Bool) (body : ClassExpression)
  | flags (changes : FlagChanges)
  | group (name : Option String) (body : Expression)
  | plainGroup (changes : FlagChanges) (body : Expression)
  | repetition (body : Expression) (low : Nat) (high : Option Nat)
  | sequence (items : List Expression)
  | choice (branches : List Expression)
deriving Repr

namespace Assertion

/-- The edge that is meant under the flags. -/
def edge (flags : Flags) : Assertion → Edge
  | .lineStart => if flags.multiLine then .lineStart flags.wideBreaks else .textStart
  | .lineEnd => if flags.multiLine then .lineEnd flags.wideBreaks else .textEnd
  | .textStart => .textStart
  | .textEnd => .textEnd
  | .word place => .word place (ShortClass.word.set flags.unicode)

end Assertion

namespace Flags

/-- What the dot stands for: every character but those that end a line. -/
def dot (flags : Flags) : CharSet :=
  if flags.dotAll then .full
  else if flags.wideBreaks then CharSet.full.diff (.ofText "A D")
  else CharSet.full.diff (.char '\n')

end Flags

namespace Atom

/-- The leaf that the atom stands for. Without the flag for all scripts the dot and single bytes
beyond ASCII stand for what is no character. -/
def leaf? (flags : Flags) : Atom → Option Leaf
  | .char c asByte =>
    if asByte && !flags.unicode && 0x7F < c.toNat then none
    else some (.one (flags.cased (.char c)))
  | .dot => if flags.unicode then some (.one flags.dot) else none
  | .assertion a => some (.edge (a.edge flags))
  | .short kind negated => (flags.negated? negated (kind.set flags.unicode)).map .one
  | .property query negated => (flags.property? query negated).map .one

end Atom

namespace Expression

mutual

/-- The pattern under the flags, and the flags that hold after it. -/
def pattern? (flags : Flags) : Expression → Option (Pattern × Flags)
  | .atom a => (a.leaf? flags).map fun leaf => (.leaf leaf, flags)
  | .bracket negated body =>
    (ClassExpression.set? flags (.nested negated body)).map fun set => (.leaf (.one set), flags)
  | .flags changes => some (.empty, flags.change changes)
  | .group _ body => (body.pattern? flags).map fun (p, _) => (.group p, flags)
  | .plainGroup changes body => (body.pattern? (flags.change changes)).map fun (p, _) => (p, flags)
  | .repetition body low high =>
    (body.pattern? flags).map fun (p, flags) => (.many p low high, flags)
  | .sequence items => (patterns? flags items).map fun (ps, flags) => (.ofList ps, flags)
  | .choice branches =>
    (patterns? flags branches).map fun (ps, flags) =>
      match ps with
      | [] => (.empty, flags)
      | p :: rest => (.anyOf p rest, flags)

/-- The patterns of expressions that follow each other. -/
def patterns? (flags : Flags) : List Expression → Option (List Pattern × Flags)
  | [] => some ([], flags)
  | e :: rest =>
    (e.pattern? flags).bind fun (p, flags) =>
      (patterns? flags rest).map fun (ps, flags) => (p :: ps, flags)

end

mutual

/-- How deep the parts of the expression are nested. -/
def depth : Expression → Nat
  | .atom _ | .flags _ => 0
  | .bracket _ body => body.depth + 1
  | .group _ body | .plainGroup _ body | .repetition body _ _ => body.depth + 1
  | .sequence items => if items.isEmpty then 0 else partsDepth items + 1
  | .choice branches => partsDepth branches + 1

/-- How deep some of the expressions are nested. -/
def partsDepth : List Expression → Nat
  | [] => 0
  | e :: rest => max e.depth (partsDepth rest)

end

mutual

/-- The names of the groups in the expression. -/
def names : Expression → List String
  | .atom _ | .bracket .. | .flags _ => []
  | .group name body => name.toList ++ body.names
  | .plainGroup _ body | .repetition body _ _ => body.names
  | .sequence items => partsNames items
  | .choice branches => partsNames branches

/-- The names of the groups in the expressions. -/
def partsNames : List Expression → List String
  | [] => []
  | e :: rest => e.names ++ partsNames rest

end

/-- One expression after the other; a single one stands for itself. -/
def ofItems : List Expression → Expression
  | [e] => e
  | items => .sequence items

/-- One of the expressions; a single one stands for itself. -/
def ofBranches : List Expression → Expression
  | [e] => e
  | branches => .choice branches

end Expression

end EntityStore
