import EntityStore.Naming

/-!
# Column expressions

A projected column is written `column`, `table.column` or `column as alias`, the word `as` in any
letter case. The place of `as` is looked for in the text in small letters and counted in bytes.
-/

namespace EntityStore.ColumnName

/-- The part after the last point of a name. -/
def unqualified (name : String) : String :=
  String.ofList ((name.toList.reverse.takeWhile (· != '.')).reverse)

/-- The number of characters before the first ` as `. -/
def aliasMark? : List Char → Option Nat
  | [] => none
  | c :: rest =>
    if [' ', 'a', 's', ' '].isPrefixOf (c :: rest) then some 0
    else (aliasMark? rest).map (· + 1)

/-- The number of bytes before the first ` as ` in the text in small letters. -/
def aliasPosition? (name : String) : Option Nat :=
  let small := (Text.lower name).toList
  (aliasMark? small).map fun n => Naming.byteLength (small.take n)

/-- The text before and after a byte position, if a character begins there. -/
def splitAtByte? : Nat → List Char → Option (List Char × List Char)
  | 0, cs => some ([], cs)
  | _ + 1, [] => none
  | n + 1, c :: rest =>
    if n + 1 < c.utf8Size then none
    else (splitAtByte? (n + 1 - c.utf8Size) rest).map fun (before, after) => (c :: before, after)

/-- The column that a projected expression reads, and the name its value gets. -/
def splitAlias (name : String) : String × String :=
  let split :=
    (aliasPosition? name).bind fun position =>
      (splitAtByte? position name.toList).bind fun (source, _) =>
        (splitAtByte? (position + 4) name.toList).map fun (_, label) =>
          (String.ofList (Text.trimChars source), String.ofList (Text.trimChars label))
  split.getD (name, unqualified name)

/-- Every character is ASCII. -/
def isAscii (name : String) : Bool :=
  name.toList.all fun c => c.toNat < 128

/-- The name under which the value of a projected expression is looked up. -/
def resultKey (name : String) : String :=
  match aliasPosition? name with
  | some position =>
    if isAscii name then String.ofList (Text.trimChars (name.toList.drop (position + 4)))
    else unqualified name
  | none => unqualified name

end EntityStore.ColumnName
