/-!
# Identifiers of rows

Identifiers in the form of a version 4 UUID, drawn from a counter: distinct numbers give distinct
identifiers.
-/

namespace EntityStore.Uuid

/-- The identifier of a number; its last twelve digits are the number in hexadecimal. -/
def ofNumber (n : Nat) : String :=
  let digits := Nat.toDigits 16 n
  "00000000-0000-4000-8000-" ++
    String.ofList (List.replicate (12 - digits.length) '0' ++ digits)

end EntityStore.Uuid
