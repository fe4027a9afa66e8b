/-!
# The range of stored integers

An integer that is stored or bound as one fits 64 bits, with or without a sign.
-/

namespace EntityStore

/-- The least integer of 64 bits with a sign. -/
def minInt64 : Int := -9223372036854775808

/-- The greatest integer of 64 bits with a sign. -/
def maxInt64 : Int := 9223372036854775807

/-- The greatest integer of 64 bits without a sign. -/
def maxUInt64 : Nat := 18446744073709551615

/-- An integer that 64 bits with a sign hold. -/
def fitsInt64 (n : Int) : Bool :=
  minInt64 ≤ n && n ≤ maxInt64

/-- An integer that 64 bits without a sign hold. -/
def fitsUInt64 (n : Int) : Bool :=
  0 ≤ n && n ≤ maxUInt64

end EntityStore
