import EntityStore.Text.Words

/-!
# Names derived from entity names

Table names, foreign keys, pivot tables and slugs all follow from the name of an entity by the
rules of this module, so that they agree wherever they are derived.
-/

namespace EntityStore.Naming

open Text

/-- `cs` ends in the letters of `ending`. -/
def endsIn (ending : String) (cs : List Char) : Bool :=
  ending.toList.isSuffixOf cs

/-- The plural of a noun: `y` after a consonant becomes `ies`, a hissing sound takes `es`, every
other noun takes `s`. -/
def pluralChars (cs : List Char) : List Char :=
  if endsIn "y" cs && ["ay", "ey", "iy", "oy", "uy"].all (!endsIn · cs) then
    cs.dropLast ++ ['i', 'e', 's']
  else if ["s", "sh", "ch", "x", "z"].any (endsIn · cs) then
    cs ++ ['e', 's']
  else
    cs ++ ['s']

/-- The number of bytes that a text occupies in UTF-8. -/
def byteLength (cs : List Char) : Nat :=
  cs.foldr (fun c n => c.utf8Size + n) 0

/-- The singular of a noun, undoing the three ways of `pluralChars`. -/
def singularChars (cs : List Char) : List Char :=
  if endsIn "ies" cs && byteLength cs > 3 then
    cs.take (cs.length - 3) ++ ['y']
  else if ["sses", "ches", "shes", "xes", "zes"].any (endsIn · cs) then
    cs.take (cs.length - 2)
  else if endsIn "s" cs && !endsIn "ss" cs && byteLength cs > 1 then
    cs.dropLast
  else
    cs

def pluralize (noun : String) : String :=
  String.ofList (pluralChars noun.toList)

def singularize (noun : String) : String :=
  String.ofList (singularChars noun.toList)

/-- The table that keeps an entity unless its schema names another: `GiftCard` gives
`gift_cards`. -/
def tableName (entity : String) : String :=
  pluralize (snakeCase entity)

/-- The column that points at an entity: `GiftCard` gives `gift_card_id`. -/
def foreignKey (entity : String) : String :=
  snakeCase entity ++ "_id"

/-- The column that points at the rows of a table: `gift_cards` gives `gift_card_id`. -/
def foreignKeyForTable (table : String) : String :=
  singularize table ++ "_id"

/-- The table that links two entities. The two names are put in order first, so both sides of the
link find the same table. -/
def pivotTable (left right : String) : String :=
  let (first, second) :=
    if snakeCase right < snakeCase left then (snakeCase right, snakeCase left)
    else (snakeCase left, snakeCase right)
  first ++ "_" ++ pluralize second

/-- An ASCII letter or digit. -/
def isSlugChar (c : Char) : Bool :=
  c.isAlphanum

/-- The slug after reading one more character: letters and digits are kept, anything else becomes
one hyphen between them. -/
def slugStep (slug : List Char) (c : Char) : List Char :=
  if isSlugChar c then slug ++ [c]
  else if slug.isEmpty || slug.getLast? == some '-' then slug
  else slug ++ ['-']

/-- The slug of characters that are already in small letters. -/
def slugChars (cs : List Char) : List Char :=
  ((cs.foldl slugStep []).reverse.dropWhile (· == '-')).reverse

/-- Small letters and digits joined by single hyphens: `Summer Sale!` gives `summer-sale`. -/
def slugify (text : String) : String :=
  String.ofList (slugChars (lower text).toList)

end EntityStore.Naming
