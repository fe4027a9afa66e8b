import EntityStore.Text.Alphabet
import EntityStore.Text.Case

/-!
# Words of a name

A name such as `GiftCard`, `giftCard` or `gift-card` is a sequence of words. Everything that is
neither a letter nor a number separates words, and inside a run of letters a new word starts at a
capital that follows a small letter, and at the last of several capitals when a small letter
follows it (`HTTPServer` is `http`, `server`). `snakeCase` and `lowerCamelCase` write the words
out again.
-/

namespace EntityStore.Text

/-- The case of the letters read since the last word started. -/
inductive LetterRun where
  | fresh
  | small
  | capital
deriving DecidableEq

/-- The case after reading `c`; characters without case leave it as it is. -/
def LetterRun.after (run : LetterRun) (c : Char) : LetterRun :=
  if isLowercase c then .small else if isUppercase c then .capital else run

/-- Cuts a run of letters and numbers into words; `word` holds the word read so far. -/
def cutWords (run : LetterRun) (word : List Char) : List Char → List (List Char)
  | [] => []
  | [c] => [word ++ [c]]
  | c :: next :: rest =>
    if run.after c = .small && isUppercase next then
      (word ++ [c]) :: cutWords .fresh [] (next :: rest)
    else if run = .capital && isUppercase c && isLowercase next then
      word :: cutWords .fresh [c] (next :: rest)
    else
      cutWords (run.after c) (word ++ [c]) (next :: rest)

/-- The maximal runs of characters that satisfy `keep`; `run` holds the run read so far. -/
def runsOf (keep : Char → Bool) (run : List Char) : List Char → List (List Char)
  | [] => if run.isEmpty then [] else [run]
  | c :: rest =>
    if keep c then runsOf keep (run ++ [c]) rest
    else if run.isEmpty then runsOf keep [] rest
    else run :: runsOf keep [] rest

/-- The words of a name, in order. -/
def words (name : String) : List (List Char) :=
  (runsOf isNameLetter [] name.toList).flatMap (cutWords .fresh [])

/-- A word in small letters; a capital sigma at its end becomes the final sigma. -/
def lowerWord : List Char → List Char
  | [] => []
  | ['Σ'] => ['ς']
  | c :: rest => lowerChar c ++ lowerWord rest

/-- A word with a capital first letter and small letters after it. -/
def capitalizeWord : List Char → List Char
  | [] => []
  | c :: rest => upperChar c ++ lowerWord rest

/-- Small words joined by underscores: `GiftCard` gives `gift_card`. -/
def snakeCase (name : String) : String :=
  String.ofList (List.intercalate ['_'] ((words name).map lowerWord))

/-- Words joined without a mark, all but the first capitalized: `GiftCard` gives `giftCard`. -/
def lowerCamelCase (name : String) : String :=
  match words name with
  | [] => ""
  | first :: rest => String.ofList (lowerWord first ++ (rest.map capitalizeWord).flatten)

end EntityStore.Text
