/-!
# Flags

The flags of a pattern change what its parts mean. They are given and taken away within it.
-/

namespace EntityStore

/-- What a flag asks for: letters of any case, edges at every line, the dot on line breaks too,
repetitions that prefer less, all scripts, line breaks with a carriage return, and blanks without
meaning. -/
inductive Flag where
  | anyCase
  | multiLine
  | dotAll
  | lazy
  | unicode
  | wideBreaks
  | verbose
deriving DecidableEq, Repr

/-- Flags that are given (`true`) and taken away (`false`), no flag twice. -/
abbrev FlagChanges := List (Flag × Bool)

/-- The flags in force. -/
structure Flags where
  anyCase : Bool := false
  multiLine : Bool := false
  dotAll : Bool := false
  unicode : Bool := true
  wideBreaks : Bool := false
deriving DecidableEq, Repr

namespace Flag

/-- The flag with a letter for a name. -/
def ofLetter? (c : Char) : Option Flag :=
  if c = 'i' then some .anyCase
  else if c = 'm' then some .multiLine
  else if c = 's' then some .dotAll
  else if c = 'U' then some .lazy
  else if c = 'u' then some .unicode
  else if c = 'R' then some .wideBreaks
  else if c = 'x' then some .verbose
  else none

end Flag

namespace FlagChanges

/-- What the changes make of one flag that is `on` or not before them. -/
def apply (changes : FlagChanges) (flag : Flag) (on : Bool) : Bool :=
  (changes.lookup flag).getD on

end FlagChanges

namespace Flags

/-- The flags after the changes. Which matches are preferred, and which blanks have a meaning, does
not matter to what is read. -/
def change (flags : Flags) (changes : FlagChanges) : Flags where
  anyCase := changes.apply .anyCase flags.anyCase
  multiLine := changes.apply .multiLine flags.multiLine
  dotAll := changes.apply .dotAll flags.dotAll
  unicode := changes.apply .unicode flags.unicode
  wideBreaks := changes.apply .wideBreaks flags.wideBreaks

end Flags

end EntityStore
