/-!
# Instants

Points in time with a precision of microseconds, and the text that columns hold for them:
`2026-01-02T03:04:05.678901Z`. Later instants have greater texts.
-/

namespace EntityStore

/-- A point in time, in microseconds since the beginning of 1970 in UTC. -/
structure Instant where
  micros : Nat
deriving DecidableEq, Repr

namespace Instant

/-- The year, month and day of a number of days after the beginning of 1970. Years are counted from
March, so that the leap day ends them, and in cycles of 400 years or 146097 days. -/
def calendarDay (days : Nat) : Nat × Nat × Nat :=
  let shifted := days + 719468
  let cycle := shifted / 146097
  let dayOfCycle := shifted % 146097
  let yearOfCycle :=
    (dayOfCycle - dayOfCycle / 1460 + dayOfCycle / 36524 - dayOfCycle / 146096) / 365
  let dayOfYear := dayOfCycle - (365 * yearOfCycle + yearOfCycle / 4 - yearOfCycle / 100)
  let monthFromMarch := (5 * dayOfYear + 2) / 153
  let day := dayOfYear - (153 * monthFromMarch + 2) / 5 + 1
  let month := if monthFromMarch < 10 then monthFromMarch + 3 else monthFromMarch - 9
  (yearOfCycle + 400 * cycle + (if month ≤ 2 then 1 else 0), month, day)

/-- A number in at least `width` decimal digits. -/
def padded (width n : Nat) : String :=
  let digits := Nat.toDigits 10 n
  String.ofList (List.replicate (width - digits.length) '0' ++ digits)

/-- The text of an instant. -/
def text (t : Instant) : String :=
  let seconds := t.micros / 1000000
  let (year, month, day) := calendarDay (seconds / 86400)
  let second := seconds % 86400
  padded 4 year ++ "-" ++ padded 2 month ++ "-" ++ padded 2 day ++ "T" ++
    padded 2 (second / 3600) ++ ":" ++ padded 2 (second / 60 % 60) ++ ":" ++
    padded 2 (second % 60) ++ "." ++ padded 6 (t.micros % 1000000) ++ "Z"

/-- The next instant. -/
def next (t : Instant) : Instant := ⟨t.micros + 1⟩

end Instant

end EntityStore
