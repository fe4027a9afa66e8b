/-!
# Shapes

A shape says how texts are put together from leaves: one after the other, one or another, one
several times. What a leaf stands for is left open. Sets of positions in a text are numbers whose
bits tell which positions are in the set, and `Shape.reach` carries a set through a shape.
-/

namespace EntityStore

/-- A way to put leaves together. A group is the same as its body, but can be referred to. -/
inductive Shape (α : Type) where
  | empty
  | leaf (a : α)
  | seq (first second : Shape α)
  | alt (first second : Shape α)
  | group (body : Shape α)
  | many (body : Shape α) (low : Nat) (high : Option Nat)
deriving DecidableEq, Repr

namespace Shape

variable {α β : Type}

/-- The same shape of other leaves. -/
def map (f : α → β) : Shape α → Shape β
  | .empty => .empty
  | .leaf a => .leaf (f a)
  | .seq first second => .seq (first.map f) (second.map f)
  | .alt first second => .alt (first.map f) (second.map f)
  | .group body => .group (body.map f)
  | .many body low high => .many (body.map f) low high

/-- One shape after the other; empty ones are left out. -/
def ofList : List (Shape α) → Shape α
  | [] => .empty
  | .empty :: rest => ofList rest
  | [s] => s
  | s :: rest => .seq s (ofList rest)

/-- One of the shapes; `first` is there in any case. -/
def anyOf (first : Shape α) : List (Shape α) → Shape α
  | [] => first
  | second :: rest => .alt first (anyOf second rest)

/-- `n` steps from a set, fewer when a step leaves the set as it is. -/
def advance (step : Nat → Nat) : Nat → Nat → Nat
  | 0, found => found
  | n + 1, found => if step found = found then found else advance step n (step found)

/-- What at most `n` steps reach from a set. -/
def widen (step : Nat → Nat) : Nat → Nat → Nat
  | 0, found => found
  | n + 1, found =>
    let more := found ||| step found
    if more = found then found else widen step n more

/-- The positions where a match may end that begins at one of the positions `found`. A leaf carries
positions by `step`; no more than `places` positions exist. -/
def reach (step : α → Nat → Nat) (places : Nat) : Shape α → Nat → Nat
  | .empty, found => found
  | .leaf a, found => step a found
  | .seq first second, found => second.reach step places (first.reach step places found)
  | .alt first second, found => first.reach step places found ||| second.reach step places found
  | .group body, found => body.reach step places found
  | .many body low high, found =>
    widen (body.reach step places) ((high.map (· - low)).getD places)
      (advance (body.reach step places) low found)

end Shape

end EntityStore
