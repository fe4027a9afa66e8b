import EntityStore.Text.CharSet

/-!
# Sets of characters by name

The tables of character properties list sets of characters under the names of their properties.
Names are compared loosely: letter case, spaces, hyphens, underscores and a leading "is" make no
difference.
-/

namespace EntityStore.Text

/-- What a name is compared by. The short name of comments on standards, which is `c` after a
leading "is", keeps it, for `c` alone names other characters. -/
def looseName (name : String) : String :=
  let (led, rest) := afterIs name.toList
  let counts (c : Char) : Bool := c.toNat < 128 && c != ' ' && c != '_' && c != '-'
  let key := (rest.filter counts).map Char.toLower
  if led && key == ['c'] then "isc" else String.ofList key
where
  /-- Whether "is" leads in letters of any case, and what follows it. -/
  afterIs : List Char → Bool × List Char
    | first :: second :: rest =>
      if first.toLower = 'i' ∧ second.toLower = 's' then (true, rest)
      else (false, first :: second :: rest)
    | rest => (false, rest)

/-- A set of characters that goes by some names, written as `CharSet.ofText` reads it. -/
structure NamedSet where
  names : List String
  written : String

namespace NamedSet

def set (s : NamedSet) : CharSet :=
  .ofText s.written

/-- The loose form of one of the names is `key`. -/
def goesBy (s : NamedSet) (key : String) : Bool :=
  s.names.any fun name => looseName name == key

/-- The first of the sets that goes by the loose name `key`. -/
def find? (sets : List NamedSet) (key : String) : Option NamedSet :=
  sets.find? (·.goesBy key)

end NamedSet

end EntityStore.Text
