import EntityStore.Text.Alphabet

/-!
# Blanks in patterns

In a verbose pattern blanks have no meaning, nor have comments, which go from a hash sign to the end
of the line. Readers of patterns pass them over between the characters that they read.
-/

namespace EntityStore.Pattern

open Text (isBlank)

/-- What follows the blanks and comments at the beginning; `inComment` when a comment has begun. -/
def passComments (inComment : Bool) : List Char → List Char
  | [] => []
  | c :: rest =>
    if inComment then passComments (c != '\n') rest
    else if isBlank c then passComments false rest
    else if c = '#' then passComments true rest
    else c :: rest

/-- What follows the blanks and comments of a verbose pattern. -/
def passBlanks (verbose : Bool) (cs : List Char) : List Char :=
  if verbose then passComments false cs else cs

/-- The character after blanks, or after the blanks that follow a hash sign. Unlike `passBlanks` it
takes what a comment begins with for a character. -/
def peek? (verbose : Bool) (cs : List Char) : Option Char :=
  if verbose then
    match cs.dropWhile isBlank with
    | '#' :: rest => (rest.dropWhile isBlank).head?
    | rest => rest.head?
  else cs.head?

/-- The characters before the first `close`, without the blanks and comments of a verbose pattern,
and what follows it. -/
def upTo? (verbose : Bool) (close : Char) (inComment : Bool) :
    List Char → Option (List Char × List Char)
  | [] => none
  | c :: rest =>
    if inComment then upTo? verbose close (c != '\n') rest
    else if verbose && isBlank c then upTo? verbose close false rest
    else if verbose && c == '#' then upTo? verbose close true rest
    else if c = close then some ([], rest)
    else (upTo? verbose close false rest).map fun (cs, rest) => (c :: cs, rest)

/-- The digits at the beginning, without the blanks and comments of a verbose pattern, and what
follows them. -/
def digits (verbose : Bool) (inComment : Bool) : List Char → List Char × List Char
  | [] => ([], [])
  | c :: rest =>
    if inComment then digits verbose (c != '\n') rest
    else if verbose && isBlank c then digits verbose false rest
    else if verbose && c == '#' then digits verbose true rest
    else if c.isDigit then
      let (ds, rest) := digits verbose false rest
      (c :: ds, rest)
    else ([], c :: rest)

/-- The hyphens at the beginning, counted, without the blanks and comments of a verbose pattern, and
what follows them. -/
def hyphens (verbose : Bool) (inComment : Bool) : List Char → Nat × List Char
  | [] => (0, [])
  | c :: rest =>
    if inComment then hyphens verbose (c != '\n') rest
    else if verbose && isBlank c then hyphens verbose false rest
    else if verbose && c == '#' then hyphens verbose true rest
    else if c = '-' then
      let (count, rest) := hyphens verbose false rest
      (count + 1, rest)
    else (0, c :: rest)

end EntityStore.Pattern
