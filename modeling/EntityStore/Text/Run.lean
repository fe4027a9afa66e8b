/-!
# Runs of code points

Code points at equal distances from each other: every one, or every second one where capital and
small letters alternate.
-/

namespace EntityStore.Text

/-- The code points `first`, `first + step`, … up to `last`. -/
structure Run where
  first : Nat
  last : Nat
  step : Nat

namespace Run

/-- `n` is one of the code points of the run. -/
def holds (run : Run) (n : Nat) : Bool :=
  run.first ≤ n && n ≤ run.last && (n - run.first) % run.step == 0

/-- The code points of the run. -/
def points (run : Run) : List Nat :=
  (List.range ((run.last - run.first) / run.step + 1)).map fun k => run.first + run.step * k

end Run

end EntityStore.Text
