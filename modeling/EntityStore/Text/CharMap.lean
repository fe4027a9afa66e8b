import EntityStore.Text.CharSet
import EntityStore.Text.Run

/-!
# Maps of characters

What characters are replaced by, kept as runs of characters. A run that maps to one character maps
each of its members to the one that is as far from it as the member is from the first.
-/

namespace EntityStore.Text

/-- Runs of characters with what their first one is replaced by. -/
structure CharMap where
  entries : List (Run × List Nat)

namespace CharMap

/-- What a run with the target `target` maps its member `n` to. -/
def image (run : Run) (target : List Nat) (n : Nat) : List Nat :=
  match target with
  | [m] => [m + (n - run.first)]
  | target => target

/-- What the code point `n` is replaced by. -/
def find? (m : CharMap) (n : Nat) : Option (List Nat) :=
  (m.entries.find? fun (run, _) => run.holds n).map fun (run, target) => image run target n

/-- The first code point that is replaced by `n` alone. -/
def source? (m : CharMap) (n : Nat) : Option Nat :=
  m.entries.findSome? fun (run, target) =>
    match target with
    | [t] => if t ≤ n ∧ run.holds (run.first + (n - t)) then some (run.first + (n - t)) else none
    | _ => none

/-- The parts of a list that `mark` separates. -/
def split (mark : Char) (cs : List Char) : List (List Char) :=
  (cs.splitBy fun a b => a != mark && b != mark).filter (· != [mark])

/-- A run written as a code point, or as two with a hyphen between them and the step after a
slash. -/
def runOfText (cs : List Char) : Run :=
  match split '/' cs with
  | [range, step] =>
    let (first, last) := CharSet.rangeOfWord range
    ⟨first, last, hexNumber step⟩
  | _ =>
    let (first, last) := CharSet.rangeOfWord cs
    ⟨first, last, 1⟩

/-- A map written as runs and targets: `41-5A=61 BC=31+2044+34 100-12E/2=101`. -/
def ofText (text : String) : CharMap :=
  ⟨(CharSet.wordsOf text).filterMap fun word =>
    match split '=' word with
    | [run, target] => some (runOfText run, (split '+' target).map hexNumber)
    | _ => none⟩

end CharMap

end EntityStore.Text
