import EntityStore.Query.Operator

/-!
# Comparing stored values

Conditions compare values loosely: a number meets a text or a boolean as a number, two texts meet as
texts, and null is comparable to nothing (`Value.compare?`). Orderings put null after every value
and take values that cannot be compared as equal (`Value.order`).
-/

namespace EntityStore

namespace Value

/-- The value as a number: booleans count as one and zero, texts as what they read as. -/
def asFloat? : Value → Option Binary64
  | .number n => some n.toFloat
  | .bool b => some (if b then .ofInt 1 else .zero)
  | .text s => Binary64.ofText? s
  | _ => none

/-- The order of two values, where they can be compared. -/
def compare? : Value → Value → Option Ordering
  | .null, _ | _, .null => none
  | .text a, .text b => some (Ord.compare a b)
  | .bool a, .bool b => some (Ord.compare a b)
  | a@(.number _), b | a, b@(.number _) =>
    a.asFloat?.bind fun x => b.asFloat?.bind fun y => x.compare? y
  | a, b => if a.same b then some .eq else none

/-- The values compare as equal. -/
def looseEq (a b : Value) : Bool :=
  a.compare? b == some .eq

/-- The order in sorted answers: null after every value. -/
def order (a b : Value) : Ordering :=
  match a.isNull, b.isNull with
  | true, true => .eq
  | true, false => .gt
  | false, true => .lt
  | false, false => (a.compare? b).getD .eq

/-- The text that patterns are matched against. -/
def asText : Value → Option String
  | .text s => some s
  | .number n => some n.dataText
  | .bool b => some (if b then "true" else "false")
  | _ => none

end Value

/-- Every item, or whether one before it is true. -/
def runningOr (seen : Bool) : List Bool → List Bool
  | [] => []
  | b :: rest => (seen || b) :: runningOr (seen || b) rest

/-- Which beginnings of `text` match once `c` is read, given those that match before it. -/
def likeStep (text : List Char) (reach : List Bool) (c : Char) : List Bool :=
  if c = '%' then runningOr false reach
  else false :: List.zipWith (fun r d => r && (c == '_' || c == d)) reach text

/-- Matches a whole text against a pattern in which `%` stands for any characters and `_` for
one. -/
def likeMatch (text pattern : String) : Bool :=
  let cs := text.toList
  let reach := pattern.toList.foldl (likeStep cs) (true :: List.replicate cs.length false)
  reach.getLast? == some true

namespace Operator

/-- The ordering is one that the operator accepts. -/
def accepts (o : Ordering) : Operator → Bool
  | .eq => o = .eq
  | .ne => o ≠ .eq
  | .gt => o = .gt
  | .ge => o ≠ .lt
  | .lt => o = .lt
  | .le => o ≠ .gt
  | .like | .notLike => false

/-- The comparison holds. One with null on either side never does. -/
def holds (operator : Operator) (current expected : Value) : Bool :=
  match operator with
  | .like | .notLike =>
    match current.asText, expected.asText with
    | some text, some pattern => likeMatch text pattern == (operator == .like)
    | _, _ => false
  | _ => ((current.compare? expected).map operator.accepts).getD false

end Operator

end EntityStore
