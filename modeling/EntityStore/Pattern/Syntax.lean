import EntityStore.Document.Json
import EntityStore.Pattern.Bracket
import EntityStore.Pattern.Size

/-!
# The syntax of patterns

`Expression.ofSource?` reads the written form of a pattern, and `Pattern.ofSource?` the pattern. A
source that is not well formed is refused, and so is one that is nested too deeply, that has two
groups of one name, that stands for what is no text, or whose pattern is too large.
-/

namespace EntityStore

namespace Pattern

/-- The flags at the beginning of a group up to the character that ends them. A hyphen takes the
flags after it away; `hyphenLast` when it is the last character before `cs`. -/
def flagChanges? (on hyphenLast : Bool) (done : FlagChanges) :
    List Char → Option (FlagChanges × Char × List Char)
  | [] => none
  | c :: rest =>
    if c = ':' ∨ c = ')' then (if hyphenLast then none else some (done, c, rest))
    else if c = '-' then (if on then flagChanges? false true done rest else none)
    else
      (Flag.ofLetter? c).bind fun flag =>
        if (done.lookup flag).isSome then none
        else flagChanges? on false (done ++ [(flag, on)]) rest

/-- A name of a group: a letter or underscore, then also digits, points and brackets. -/
def isGroupName : List Char → Bool
  | [] => false
  | c :: rest =>
    (c == '_' || Text.isLetter c) &&
      rest.all fun d => d == '_' || d == '.' || d == '[' || d == ']' || Text.isNameLetter d

/-- How a group begins. -/
inductive GroupOpening where
  | named (name : String)
  | counted
  | plain (changes : FlagChanges)
  | flags (changes : FlagChanges)

/-- The name of a group after its opening angle. -/
def namedGroup? (cs : List Char) : Option (GroupOpening × List Char) :=
  match cs.span (· != '>') with
  | (name, _ :: rest) => if isGroupName name then some (.named (String.ofList name), rest) else none
  | (_, []) => none

/-- The beginning of a group after its parenthesis. Groups that would look around are refused, and
flags that change nothing when they stand by themselves. -/
def groupOpening? (verbose : Bool) (cs : List Char) : Option (GroupOpening × List Char) :=
  match passBlanks verbose cs with
  | '?' :: '=' :: _ | '?' :: '!' :: _ | '?' :: '<' :: '=' :: _ | '?' :: '<' :: '!' :: _ => none
  | '?' :: 'P' :: '<' :: rest | '?' :: '<' :: rest => namedGroup? rest
  | '?' :: rest =>
    (flagChanges? true false [] rest).bind fun (changes, mark, rest) =>
      if mark = ':' then some (.plain changes, rest)
      else if changes.isEmpty then none
      else some (.flags changes, rest)
  | rest => some (.counted, rest)

/-- A number of repetitions, which may stand between blanks. -/
def count? (verbose : Bool) (cs : List Char) : Option (Nat × List Char) :=
  let (ds, rest) := digits verbose false (cs.dropWhile Text.isBlank)
  if ds.isEmpty || 0xFFFFFFFF < digitsValue ds then none
  else some (digitsValue ds, rest.dropWhile Text.isBlank)

/-- The bounds of a counted repetition after its opening brace. -/
def bounds? (verbose : Bool) (cs : List Char) : Option ((Nat × Option Nat) × List Char) :=
  (count? verbose (passBlanks verbose cs)).bind fun (low, rest) =>
    match rest with
    | '}' :: rest => some ((low, some low), rest)
    | ',' :: rest =>
      match passBlanks verbose rest with
      | '}' :: rest => some ((low, none), rest)
      | rest =>
        (count? verbose rest).bind fun (high, rest) =>
          match rest with
          | '}' :: rest => if low ≤ high then some ((low, some high), rest) else none
          | _ => none
    | _ => none

/-- A question mark after a repetition only changes which match is preferred. -/
def passPreference : List Char → List Char
  | '?' :: rest => rest
  | rest => rest

/-- The bounds that a repetition writes, and what follows it. -/
def repetition? (verbose : Bool) : List Char → Option ((Nat × Option Nat) × List Char)
  | '?' :: rest => some ((0, some 1), passPreference rest)
  | '*' :: rest => some ((0, none), passPreference rest)
  | '+' :: rest => some ((1, none), passPreference rest)
  | '{' :: rest =>
    (bounds? verbose rest).map fun (bounds, rest) =>
      (bounds, passPreference (passBlanks verbose rest))
  | _ => none

/-- The items with the last one repeated. Flags cannot be repeated. -/
def repeatLast? (low : Nat) (high : Option Nat) : List Expression → Option (List Expression)
  | [] | [.flags _] => none
  | [e] => some [.repetition e low high]
  | e :: rest => (repeatLast? low high rest).map (e :: ·)

/-- The expression up to the end of the group or of the source; `branches` and `items` are the
alternatives and the items of the last one that were read before. -/
def body? : Nat → Bool → List Expression → List Expression → List Char →
    Option (Expression × List Char)
  | 0, _, _, _, _ => none
  | fuel + 1, verbose, branches, items, cs =>
    match passBlanks verbose cs with
    | [] => some (.ofBranches (branches ++ [.ofItems items]), [])
    | ')' :: rest => some (.ofBranches (branches ++ [.ofItems items]), ')' :: rest)
    | '|' :: rest => body? fuel verbose (branches ++ [.ofItems items]) [] rest
    | '(' :: rest =>
      (groupOpening? verbose rest).bind fun (opening, rest) =>
        let group (inner : Bool) (whole : Expression → Expression) :
            Option (Expression × List Char) :=
          (body? fuel inner [] [] rest).bind fun (body, rest) =>
            match rest with
            | ')' :: rest => body? fuel verbose branches (items ++ [whole body]) rest
            | _ => none
        match opening with
        | .flags changes =>
          body? fuel (changes.apply .verbose verbose) branches (items ++ [.flags changes]) rest
        | .named name => group verbose (.group (some name))
        | .counted => group verbose (.group none)
        | .plain changes => group (changes.apply .verbose verbose) (.plainGroup changes)
    | '[' :: rest =>
      (bracket? verbose rest).bind fun (e, rest) => body? fuel verbose branches (items ++ [e]) rest
    | c :: rest =>
      if c = '?' ∨ c = '*' ∨ c = '+' ∨ c = '{' then
        (repetition? verbose (c :: rest)).bind fun ((low, high), rest) =>
          (repeatLast? low high items).bind fun items => body? fuel verbose branches items rest
      else
        (atom? verbose (c :: rest)).bind fun (a, rest) =>
          body? fuel verbose branches (items ++ [.atom a]) rest

/-- The deepest nesting of an expression. -/
def depthLimit : Nat := 250

end Pattern

namespace Expression

/-- Reads the written form of a pattern. Every step takes at least one character. -/
def ofSource? (source : String) : Option Expression :=
  let cs := source.toList
  match Pattern.body? (cs.length + 1) false [] [] cs with
  | some (e, []) =>
    if e.depth ≤ Pattern.depthLimit ∧ e.names.Nodup then some e else none
  | _ => none

end Expression

namespace Pattern

/-- The pattern with a written form. -/
def ofSource? (source : String) : Option Pattern :=
  ((Expression.ofSource? source).bind fun e => (e.pattern? {}).map (·.1)).filter isSmall

end Pattern

end EntityStore
