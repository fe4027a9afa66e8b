/-!
# Data of the wrong shape

The reasons for which data is refused where declarations or records are wanted, and their wording.
-/

namespace EntityStore

/-- Why a document does not have the wanted shape. -/
inductive DecodeError where
  | invalidType (found expected : String)
  | invalidValue (found expected : String)
  | invalidLength (length : Nat) (expected : String)
  | missingField (name : String)
  | duplicateField (name : String)
  | unknownVariant (name : String) (expected : List String)
  | noVariant (type : String)
deriving DecidableEq, Repr

namespace DecodeError

/-- A name in the quotes of messages. -/
def ticked (name : String) : String := "\x60" ++ name ++ "\x60"

/-- The list of the names that were expected. -/
def oneOf : List String → String
  | [] => "there are no variants"
  | [a] => "expected " ++ ticked a
  | [a, b] => "expected " ++ ticked a ++ " or " ++ ticked b
  | names => "expected one of " ++ ", ".intercalate (names.map ticked)

def message : DecodeError → String
  | .invalidType found expected => "invalid type: " ++ found ++ ", expected " ++ expected
  | .invalidValue found expected => "invalid value: " ++ found ++ ", expected " ++ expected
  | .invalidLength n expected =>
    "invalid length " ++ toString n ++ ", expected " ++ expected
  | .missingField name => "missing field " ++ ticked name
  | .duplicateField name => "duplicate field " ++ ticked name
  | .unknownVariant name expected => "unknown variant " ++ ticked name ++ ", " ++ oneOf expected
  | .noVariant type => "data did not match any variant of untagged enum " ++ type

end DecodeError

end EntityStore
