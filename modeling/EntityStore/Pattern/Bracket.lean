import EntityStore.Pattern.Escape

/-!
# Bracketed classes

A class in brackets lists characters, ranges and other classes; it may combine what it lists. The
reader keeps what stands on the left of the last operator and the parts that were read after it.
-/

namespace EntityStore.Pattern

open Text (CharSet)

/-- The classes of ASCII characters that are named between colons. -/
def asciiClasses : List Text.NamedSet := [
  ⟨["alnum"], "30-39 41-5A 61-7A"⟩, ⟨["alpha"], "41-5A 61-7A"⟩, ⟨["ascii"], "0-7F"⟩,
  ⟨["blank"], "9 20"⟩, ⟨["cntrl"], "0-1F 7F"⟩, ⟨["digit"], "30-39"⟩, ⟨["graph"], "21-7E"⟩,
  ⟨["lower"], "61-7A"⟩, ⟨["print"], "20-7E"⟩, ⟨["punct"], "21-2F 3A-40 5B-60 7B-7E"⟩,
  ⟨["space"], "9-D 20"⟩, ⟨["upper"], "41-5A"⟩, ⟨["word"], "30-39 41-5A 5F 61-7A"⟩,
  ⟨["xdigit"], "30-39 41-46 61-66"⟩]

/-- A named class of ASCII characters after its opening bracket. -/
def asciiClass? : List Char → Option (ClassExpression × List Char)
  | ':' :: cs =>
    let (negated, cs) :=
      match cs with
      | '^' :: rest => (true, rest)
      | rest => (false, rest)
    match cs.span (· != ':') with
    | (name, ':' :: ']' :: rest) =>
      (asciiClasses.find? (·.names.contains (String.ofList name))).map fun s =>
        (.ascii s.set negated, rest)
    | _ => none
  | _ => none

/-- A character or an escape in a class. -/
def classAtom? (verbose : Bool) : List Char → Option (Atom × List Char)
  | [] => none
  | '\\' :: rest => escape? verbose rest
  | c :: rest => some (.char c false, rest)

/-- The class that an atom stands for by itself. -/
def classOfAtom? : Atom → Option ClassExpression
  | .char c _ => some (.range c c)
  | .short kind negated => some (.short kind negated)
  | .property query negated => some (.property query negated)
  | .dot | .assertion _ => none

/-- A range of characters, or an atom when no range follows it. A hyphen before a closing bracket or
another hyphen makes no range. -/
def classPart? (verbose : Bool) (cs : List Char) : Option (ClassExpression × List Char) :=
  (classAtom? verbose cs).bind fun (low, rest) =>
    let rest := passBlanks verbose rest
    let alone := (classOfAtom? low).map fun part => (part, rest)
    match rest with
    | [] => none
    | '-' :: after =>
      if peek? verbose after == some ']' || peek? verbose after == some '-' then alone
      else
        (classAtom? verbose (passBlanks verbose after)).bind fun (high, rest) =>
          match low, high with
          | .char low _, .char high _ => if low ≤ high then some (.range low high, rest) else none
          | _, _ => none
    | _ => alone

/-- The operator that two equal characters write. -/
def classOperator? : List Char → Option (ClassOperator × List Char)
  | '&' :: '&' :: rest => some (.both, rest)
  | '-' :: '-' :: rest => some (.without, rest)
  | '~' :: '~' :: rest => some (.onlyOne, rest)
  | _ => none

/-- Parts next to each other. -/
def unionOf : List ClassExpression → ClassExpression
  | [] => .nothing
  | [part] => part
  | parts => .union parts

/-- What an operator combines with the parts on its right. -/
def combine (left : Option (ClassOperator × ClassExpression)) (parts : List ClassExpression) :
    ClassExpression :=
  match left with
  | none => unionOf parts
  | some (operator, left) => .combined operator left (unionOf parts)

/-- What stands at the beginning of a class, after its bracket: whether it is negated, and the
hyphens or the closing bracket that stand for themselves there. -/
def classOpening (verbose : Bool) (cs : List Char) : Bool × List ClassExpression × List Char :=
  let (negated, cs) :=
    match passBlanks verbose cs with
    | '^' :: rest => (true, passBlanks verbose rest)
    | rest => (false, rest)
  match hyphens verbose false cs with
  | (0, ']' :: rest) => (negated, [.range ']' ']'], rest)
  | (count, rest) => (negated, List.replicate count (.range '-' '-'), rest)

/-- The class up to its closing bracket. `left` is what the last operator combines, `parts` what was
read after it. -/
def classBody? (verbose : Bool) :
    Nat → Option (ClassOperator × ClassExpression) → List ClassExpression → List Char →
      Option (ClassExpression × List Char)
  | 0, _, _, _ => none
  | fuel + 1, left, parts, cs =>
    match passBlanks verbose cs with
    | [] => none
    | ']' :: rest => some (combine left parts, rest)
    | '[' :: rest =>
      match asciiClass? rest with
      | some (part, rest) => classBody? verbose fuel left (parts ++ [part]) rest
      | none =>
        let (negated, first, rest) := classOpening verbose rest
        (classBody? verbose fuel none first rest).bind fun (body, rest) =>
          classBody? verbose fuel left (parts ++ [.nested negated body]) rest
    | cs =>
      match classOperator? cs with
      | some (operator, rest) =>
        classBody? verbose fuel (some (operator, combine left parts)) [] rest
      | none =>
        (classPart? verbose cs).bind fun (part, rest) =>
          classBody? verbose fuel left (parts ++ [part]) rest

/-- A class after its opening bracket. Every step takes at least one character. -/
def bracket? (verbose : Bool) (cs : List Char) : Option (Expression × List Char) :=
  let (negated, first, rest) := classOpening verbose cs
  (classBody? verbose (cs.length + 1) none first rest).map fun (body, rest) =>
    (.bracket negated body, rest)

end EntityStore.Pattern
