import EntityStore.Pattern.Flags
import EntityStore.Text.Age
import EntityStore.Text.Alphabet
import EntityStore.Text.Break
import EntityStore.Text.Fold
import EntityStore.Text.Property
import EntityStore.Text.Script

/-!
# Classes of characters

The written classes of a pattern and the sets of characters that they stand for under the flags in
force. Without the flag for all scripts a class holds ASCII characters only, and what would go
beyond them means nothing. -/

namespace EntityStore

open Text (CharSet looseName)

/-- The classes with a letter for a name. -/
inductive ShortClass where
  | digit
  | blank
  | word
deriving DecidableEq, Repr

/-- A property of characters as it is asked for: by its name alone, or as the value of another. -/
inductive PropertyQuery where
  | called (name : String)
  | valued (property value : String)
deriving DecidableEq, Repr

/-- How two classes are combined. -/
inductive ClassOperator where
  | both
  | without
  | onlyOne
deriving DecidableEq, Repr

/-- A written class. -/
inductive ClassExpression where
  | nothing
  | range (low high : Char)
  | ascii (set : CharSet) (negated : Bool)
  | short (kind : ShortClass) (negated : Bool)
  | property (query : PropertyQuery) (negated : Bool)
  | nested (negated : Bool) (body : ClassExpression)
  | union (parts : List ClassExpression)
  | combined (operator : ClassOperator) (left right : ClassExpression)
deriving Repr

namespace ShortClass

/-- The characters of the class, of ASCII alone or of all scripts. -/
def set (unicode : Bool) : ShortClass → CharSet
  | .digit => if unicode then Text.decimalDigits else .range 0x30 0x39
  | .blank => if unicode then Text.blanks else .ofText "9-D 20"
  | .word => if unicode then Text.wordCharacters else .ofText "30-39 41-5A 5F 61-7A"

end ShortClass

namespace PropertyQuery

/-- The characters that the property is true of. A few short names of properties that are not known
here are those of categories. -/
def set? : PropertyQuery → Option CharSet
  | .called name =>
    let key := looseName name
    (if ["cf", "sc", "lc"].contains key then none else Text.property? key) <|>
      Text.category? key <|> Text.script? key
  | .valued property value =>
    let property := looseName property
    let key := looseName value
    if ["gc", "generalcategory"].contains property then Text.category? key
    else if ["sc", "script"].contains property then Text.script? key
    else if ["scx", "scriptextensions"].contains property then Text.scriptExtensions? key
    else if property = "age" then Text.age? key
    else if ["gcb", "graphemeclusterbreak"].contains property then Text.graphemeBreak? key
    else if ["wb", "wordbreak"].contains property then Text.wordBreak? key
    else if ["sb", "sentencebreak"].contains property then Text.sentenceBreak? key
    else none

end PropertyQuery

namespace ClassOperator

def apply : ClassOperator → CharSet → CharSet → CharSet
  | .both => CharSet.inter
  | .without => CharSet.diff
  | .onlyOne => CharSet.symmDiff

end ClassOperator

namespace Flags

/-- The set in any case when the flags ask for it; within ASCII without the flag for all scripts. -/
def cased (flags : Flags) (set : CharSet) : CharSet :=
  if flags.anyCase then
    if flags.unicode then set.anyCase else set.union (set.anyCase.inter (.range 0 0x7F))
  else set

/-- The set, or the other characters. Without the flag for all scripts nothing can be negated, for
the others are not all ASCII. -/
def negated? (flags : Flags) (negated : Bool) (set : CharSet) : Option CharSet :=
  if negated then (if flags.unicode then some set.compl else none) else some set

/-- Characters of the property; negated, those that have it in no case. -/
def property? (flags : Flags) (query : PropertyQuery) (negated : Bool) : Option CharSet :=
  if flags.unicode then query.set?.bind fun set => flags.negated? negated (flags.cased set)
  else none

end Flags

namespace ClassExpression

mutual

/-- The characters of the class. -/
def set? (flags : Flags) : ClassExpression → Option CharSet
  | .nothing => some .empty
  | .range low high =>
    if flags.unicode || high.toNat < 0x80 then some (.range low.toNat high.toNat) else none
  | .ascii set negated => flags.negated? negated (flags.cased set)
  | .short kind negated => flags.negated? negated (kind.set flags.unicode)
  | .property query negated => flags.property? query negated
  | .nested negated body =>
    (body.set? flags).bind fun set => flags.negated? negated (flags.cased set)
  | .union parts => unionSet? flags parts
  | .combined operator left right =>
    (left.set? flags).bind fun left =>
      (right.set? flags).map fun right => operator.apply (flags.cased left) (flags.cased right)

/-- The characters of some of the classes. -/
def unionSet? (flags : Flags) : List ClassExpression → Option CharSet
  | [] => some .empty
  | part :: rest =>
    (part.set? flags).bind fun set => (unionSet? flags rest).map fun others => set.union others

end

mutual

/-- How deep classes are nested in the class. -/
def depth : ClassExpression → Nat
  | .nothing | .range .. | .ascii .. | .short .. | .property .. => 0
  | .nested _ body => body.depth + 1
  | .union parts => partsDepth parts + 1
  | .combined _ left right => max left.depth right.depth + 1

/-- How deep classes are nested in some of the classes. -/
def partsDepth : List ClassExpression → Nat
  | [] => 0
  | part :: rest => max part.depth (partsDepth rest)

end

end ClassExpression

end EntityStore
