import EntityStore.Proofs.Declared
import EntityStore.Proofs.Placeholders
import EntityStore.Proofs.Predicates

/-!
# Reading insertions back

The text of an insertion is read without any knowledge of the statement it was rendered from: it is
cut into words and signs (`Sql.signs`), what stands between brackets becomes a list of items
(`Sql.partsFrom`), and the parts say the names of the columns and, for every tuple, which of its
entries are left to their defaults and which parameters the others are
(`Sql.Insertion.read`). An insertion of default values is one of a single row.

Main result: `Sql.read_insertPieces`, what is read from an insertion that has been rendered.
-/

namespace EntityStore.Sql

/-! ### Words and signs -/

/-- A word of a statement, or a sign between words. -/
inductive Sign where
  | word (s : String)
  | comma
  | opening
  | closing
deriving DecidableEq, Repr

/-- The signs of a character that ends words. -/
def Sign.between? : Char → Option (List Sign)
  | ' ' => some []
  | ',' => some [.comma]
  | '(' => some [.opening]
  | ')' => some [.closing]
  | _ => none

/-- The word that has been read up to its end. -/
def Sign.ended (word : List Char) : List Sign :=
  if word.isEmpty then [] else [.word (String.ofList word)]

/-- The words and signs of a text, after the part of a word that has been read. -/
def signsFrom (word : List Char) : List Char → List Sign
  | [] => Sign.ended word
  | c :: rest =>
    match Sign.between? c with
    | some here => Sign.ended word ++ (here ++ signsFrom [] rest)
    | none => signsFrom (word ++ [c]) rest

def signs (s : String) : List Sign :=
  signsFrom [] s.toList

/-- The text ends words at its end. -/
def Ends (s : String) : Prop :=
  (s.toList.getLast?.bind Sign.between?).isSome = true

/-- The text ends the word before it. -/
def Begins (s : String) : Prop :=
  (s.toList.head?.bind Sign.between?).isSome = true

instance (s : String) : Decidable (Ends s) := inferInstanceAs (Decidable (_ = true))

instance (s : String) : Decidable (Begins s) := inferInstanceAs (Decidable (_ = true))

theorem signsFrom_append {c : Char} {here : List Sign} (between : Sign.between? c = some here)
    (word before rest : List Char) :
    signsFrom word (before ++ c :: rest) =
      signsFrom word before ++ (here ++ signsFrom [] rest) := by
  induction before generalizing word with
  | nil =>
    rw [List.nil_append, signsFrom.eq_2, between]
    rfl
  | cons d before ih =>
    rw [List.cons_append, signsFrom.eq_2, signsFrom.eq_2]
    cases Sign.between? d with
    | none => exact ih _
    | some signs => simp only [ih, List.append_assoc]

theorem signs_ends {s t : String} (ends : Ends s) : signs (s ++ t) = signs s ++ signs t := by
  obtain ⟨here, between⟩ := Option.isSome_iff_exists.1 ends
  obtain ⟨c, last, between⟩ := Option.bind_eq_some_iff.1 between
  obtain ⟨before, same⟩ := List.getLast?_eq_some_iff.1 last
  rw [signs, signs, signs, String.toList_append, same, List.append_assoc]
  have split := fun rest => signsFrom_append between [] before rest
  rw [List.cons_append, split, split, List.nil_append, List.append_assoc, List.append_assoc]
  rfl

theorem signs_begins {s t : String} (begins : Begins t) : signs (s ++ t) = signs s ++ signs t := by
  obtain ⟨here, between⟩ := Option.isSome_iff_exists.1 begins
  obtain ⟨c, first, between⟩ := Option.bind_eq_some_iff.1 between
  obtain ⟨rest, same⟩ := List.head?_eq_some_iff.1 first
  rw [signs, signs, signs, String.toList_append, same, signsFrom_append between]
  congr 1
  rw [signsFrom, between]
  rfl

theorem Begins.append {s : String} (begins : Begins s) (t : String) : Begins (s ++ t) := by
  obtain ⟨here, between⟩ := Option.isSome_iff_exists.1 begins
  obtain ⟨c, first, between⟩ := Option.bind_eq_some_iff.1 between
  unfold Begins
  rw [String.toList_append, List.head?_append, first]
  exact Option.isSome_iff_exists.2 ⟨here, between⟩

/-- A text without signs. -/
def Unlisted (s : String) : Prop :=
  ∀ c ∈ s.toList, c ≠ ',' ∧ c ≠ '(' ∧ c ≠ ')'

instance (s : String) : Decidable (Unlisted s) :=
  decidable_of_iff (s.toList.all (fun c => c != ',' && (c != '(' && c != ')')) = true)
    (by simp [Unlisted])

theorem Unlisted.append {s t : String} (first : Unlisted s) (rest : Unlisted t) :
    Unlisted (s ++ t) := by
  intro c hc
  rw [String.toList_append] at hc
  exact (List.mem_append.1 hc).elim (first c) (rest c)

theorem Unlisted.of_name {s : String} (name : Name s.toList) : Unlisted s := by
  intro c hc
  have nameChar := name.chars c hc
  refine ⟨?_, ?_, ?_⟩ <;> rintro rfl <;> exact absurd nameChar (by decide)

/-- A text without signs is made of words. -/
theorem signsFrom_words {cs : List Char} (plain : ∀ c ∈ cs, c ≠ ',' ∧ c ≠ '(' ∧ c ≠ ')')
    (word : List Char) : signsFrom word cs = (wordsFrom word cs).map .word := by
  have ended (word : List Char) : Sign.ended word =
      (if word.isEmpty then [] else [String.ofList word]).map .word := by
    unfold Sign.ended
    split <;> rfl
  induction cs generalizing word with
  | nil => exact ended word
  | cons c cs ih =>
    obtain ⟨⟨comma, opening, closing⟩, later⟩ := List.forall_mem_cons.1 plain
    rw [signsFrom, wordsFrom]
    by_cases blank : c = ' '
    · subst blank
      rw [if_pos rfl, List.map_append, ← ended, ← ih later]
      rfl
    · have inside : Sign.between? c = none := by
        unfold Sign.between?
        split <;> first | contradiction | rfl
      rw [inside, if_neg blank]
      exact ih later _

theorem signs_words {s : String} (plain : Unlisted s) :
    signs s = (wordsFrom [] s.toList).map .word :=
  signsFrom_words plain []

/-! ### Parts -/

/-- A word or comma of a statement, or the items of a list in brackets; an item is made of words. -/
inductive Part where
  | word (s : String)
  | comma
  | list (items : List (List String))
deriving DecidableEq, Repr

/-- The parts of signs, inside a list after the items and the words that have been read; brackets in
brackets are not read. -/
def partsFrom : Option (List (List String) × List String) → List Sign → Option (List Part)
  | none, [] => some []
  | none, .word s :: rest => (partsFrom none rest).map (.word s :: ·)
  | none, .comma :: rest => (partsFrom none rest).map (.comma :: ·)
  | none, .opening :: rest => partsFrom (some ([], [])) rest
  | none, .closing :: _ => none
  | some _, [] => none
  | some (items, item), .word s :: rest => partsFrom (some (items, item ++ [s])) rest
  | some (items, item), .comma :: rest => partsFrom (some (items ++ [item], [])) rest
  | some _, .opening :: _ => none
  | some (items, item), .closing :: rest => (partsFrom none rest).map (.list (items ++ [item]) :: ·)

theorem partsFrom_item (items : List (List String)) (item words : List String)
    (rest : List Sign) :
    partsFrom (some (items, item)) (words.map .word ++ rest) =
      partsFrom (some (items, item ++ words)) rest := by
  induction words generalizing item with
  | nil => rw [List.append_nil]; rfl
  | cons word words ih =>
    rw [List.map_cons, List.cons_append, partsFrom, ih, List.append_assoc]
    rfl

theorem partsFrom_words (words : List String) (rest : List Sign) :
    partsFrom none (words.map .word ++ rest) =
      (partsFrom none rest).map (words.map .word ++ ·) := by
  induction words with
  | nil => simp
  | cons word words ih =>
    rw [List.map_cons, List.cons_append, partsFrom, ih, Option.map_map]
    rfl

/-! ### Insertions -/

/-- What an insertion says: the names of its columns, and for each row its entries, without those
that are left to the default. -/
structure Insertion where
  columns : List String
  rows : List (List (Option Parameter))
deriving DecidableEq, Repr

namespace Insertion

/-- A word without the quotes around it. -/
def unquoted (word : String) : String :=
  match word.toList with
  | '"' :: rest => String.ofList rest.dropLast
  | _ => word

/-- The name of a column that is written with these words. -/
def columnName (item : List String) : String :=
  " ".intercalate (item.map unquoted)

/-- The number of a placeholder. -/
def numberOf? (word : String) : Option Nat :=
  match word.toList with
  | '$' :: rest => some (Nat.ofDigitChars 10 (rest.takeWhile Char.isDigit) 0)
  | _ => none

/-- An entry: the default, or the parameter of a placeholder. Its type does not change it. -/
def readEntry (parameters : List Parameter) : List String → Option (Option Parameter)
  | ["DEFAULT"] => some none
  | word :: _ =>
    match numberOf? word with
    | some (number + 1) => parameters[number]?.map some
    | _ => none
  | [] => none

/-- A row has as many entries as there are columns. -/
def readRow (parameters : List Parameter) (width : Nat) (items : List (List String)) :
    Option (List (Option Parameter)) :=
  if items.length = width then items.mapM (readEntry parameters) else none

/-- The lists up to the answer, with commas between them. -/
def lists? : List Part → Option (List (List (List String)))
  | .list items :: .word "RETURNING" :: _ => some [items]
  | .list items :: .comma :: rest => (lists? rest).map (items :: ·)
  | _ => none

/-- What is inserted: one row of defaults, or the listed rows. -/
def readSource (parameters : List Parameter) : List Part → Option Insertion
  | .word "DEFAULT" :: .word "VALUES" :: .word "RETURNING" :: _ => some ⟨[], [[]]⟩
  | .list columns :: .word "VALUES" :: rest => do
    let lists ← lists? rest
    let rows ← lists.mapM (readRow parameters columns.length)
    some ⟨columns.map columnName, rows⟩
  | _ => none

/-- What follows the table, which may have a second name. -/
def intoTable? : List Part → Option (List Part)
  | .word "INSERT" :: .word "INTO" :: .word _ :: .word "AS" :: .word _ :: rest => some rest
  | .word "INSERT" :: .word "INTO" :: .word _ :: rest => some rest
  | _ => none

/-- The insertion that a text says, with its parameters. -/
def read (r : Rendered) : Option Insertion := do
  let parts ← partsFrom none (signs r.sql)
  let source ← intoTable? parts
  readSource r.parameters source

end Insertion

/-! ### Lists of entries -/

/-- The words of entries, whose first placeholder has the number `next`. -/
def itemsOf (next : Nat) : List Piece → List (List String)
  | [] => []
  | entry :: rest =>
    wordsFrom [] (pieceText next [entry]).toList ::
      itemsOf (next + (pieceValues [entry]).length) rest

/-- A piece without signs. -/
def Piece.Unlisted (piece : Piece) : Prop :=
  ∀ next, Sql.Unlisted (pieceText next [piece])

/-- Entries in brackets are one part. -/
theorem partsFrom_entries {entries : List Piece} (nonempty : entries ≠ [])
    (plain : ∀ entry ∈ entries, entry.Unlisted) (next : Nat) (items : List (List String))
    (rest : List Piece) :
    partsFrom (some (items, [])) (signs (pieceText next
        (separated ", " (entries.map ([·])) ++ .text ")" :: rest))) =
      (partsFrom none (signs (pieceText (next + (pieceValues entries).length) rest))).map
        (.list (items ++ itemsOf next entries) :: ·) := by
  induction entries generalizing next items with
  | nil => exact absurd rfl nonempty
  | cons entry entries ih =>
    have words := signs_words (plain entry List.mem_cons_self next)
    have comma : signs ", " = [.comma] := by decide
    have closing : signs ")" = [.closing] := by decide
    cases entries with
    | nil =>
      have written : pieceText next (separated ", " ([entry].map ([·])) ++ .text ")" :: rest) =
          pieceText next [entry] ++
            (")" ++ pieceText (next + (pieceValues [entry]).length) rest) := by
        rw [List.map_singleton, separated, pieceText_append, pieceText]
      rw [written, signs_begins (.append (by decide) _), signs_ends (by decide), words, closing,
        partsFrom_item, List.singleton_append, partsFrom]
      rfl
    | cons second entries =>
      have written : pieceText next
          (separated ", " ((entry :: second :: entries).map ([·])) ++ .text ")" :: rest) =
          pieceText next [entry] ++ (", " ++ pieceText (next + (pieceValues [entry]).length)
            (separated ", " ((second :: entries).map ([·])) ++ .text ")" :: rest)) := by
        have split : separated ", " ((entry :: second :: entries).map ([·])) ++ .text ")" :: rest =
            [entry] ++ .text ", " ::
              (separated ", " ((second :: entries).map ([·])) ++ .text ")" :: rest) := rfl
        rw [split, pieceText_append, pieceText]
      have count : (pieceValues (entry :: second :: entries)).length =
          (pieceValues [entry]).length + (pieceValues (second :: entries)).length := by
        rw [← List.singleton_append, pieceValues_append, List.length_append]
      rw [written, signs_begins (.append (by decide) _), signs_ends (by decide), words, comma,
        partsFrom_item, List.singleton_append, partsFrom,
        ih (List.cons_ne_nil _ _) fun entry mem => plain entry (List.mem_cons_of_mem _ mem),
        count, Nat.add_assoc, List.append_assoc]
      rfl

/-- Entries in brackets, with commas between them. -/
def tuple (entries : List Piece) : List Piece :=
  .text "(" :: separated ", " (entries.map ([·])) ++ [.text ")"]

/-- The words of the entries of tuples. -/
def listsOf (next : Nat) : List (List Piece) → List (List (List String))
  | [] => []
  | entries :: rest => itemsOf next entries :: listsOf (next + (pieceValues entries).length) rest

theorem pieceValues_separated (separator : String) (parts : List (List Piece)) :
    pieceValues (separated separator parts) = parts.flatMap pieceValues := by
  induction parts with
  | nil => rfl
  | cons first parts ih =>
    cases parts with
    | nil => exact (List.append_nil _).symm
    | cons second parts =>
      have split : separated separator (first :: second :: parts) =
          first ++ .text separator :: separated separator (second :: parts) := rfl
      rw [split, pieceValues_append, pieceValues, ih]
      rfl

theorem pieceValues_entries (entries : List Piece) :
    pieceValues (separated ", " (entries.map ([·]))) = pieceValues entries := by
  rw [pieceValues_separated]
  induction entries with
  | nil => rfl
  | cons entry entries ih =>
    rw [List.map_cons, List.flatMap_cons, ih, ← pieceValues_append]
    rfl

theorem pieceValues_tuple (entries : List Piece) :
    pieceValues (tuple entries) = pieceValues entries := by
  rw [tuple, List.cons_append, pieceValues, pieceValues_append, pieceValues_entries]
  exact List.append_nil _

section

variable {entries : List Piece} (nonempty : entries ≠ [])
  (plain : ∀ entry ∈ entries, entry.Unlisted)
include nonempty plain

/-- A tuple is one part. -/
theorem partsFrom_tuple (next : Nat) (rest : List Piece) :
    partsFrom none (signs (pieceText next (tuple entries ++ rest))) =
      (partsFrom none (signs (pieceText (next + (pieceValues entries).length) rest))).map
        (.list (itemsOf next entries) :: ·) := by
  have opening : signs "(" = [.opening] := by decide
  have written : pieceText next (tuple entries ++ rest) =
      "(" ++ pieceText next (separated ", " (entries.map ([·])) ++ .text ")" :: rest) := by
    rw [tuple, List.cons_append, List.cons_append, List.append_assoc, pieceText]
    rfl
  rw [written, signs_ends (by decide), opening, List.singleton_append, partsFrom,
    partsFrom_entries nonempty plain]
  rfl

end

/-- The tuples of an insertion are the lists up to its answer. -/
theorem lists?_tuples {rows : List (List Piece)} (nonempty : rows ≠ [])
    (each : ∀ entries ∈ rows, entries ≠ [] ∧ ∀ entry ∈ entries, entry.Unlisted)
    {last : String} {after : List Part}
    (ends : partsFrom none (signs last) = some (.word "RETURNING" :: after)) (next : Nat) :
    (partsFrom none (signs (pieceText next
        (separated ", " (rows.map tuple) ++ [.text last])))).bind Insertion.lists? =
      some (listsOf next rows) := by
  induction rows generalizing next with
  | nil => exact absurd rfl nonempty
  | cons entries rows ih =>
    obtain ⟨some, plain⟩ := each entries List.mem_cons_self
    cases rows with
    | nil =>
      have written (next : Nat) : pieceText next [.text last] = last := by
        rw [pieceText, pieceText, String.append_empty]
      rw [List.map_singleton, separated, partsFrom_tuple some plain, written, ends]
      rfl
    | cons second rows =>
      have split : separated ", " ((entries :: second :: rows).map tuple) ++ [.text last] =
          tuple entries ++ .text ", " ::
            (separated ", " ((second :: rows).map tuple) ++ [.text last]) := by
        simp only [List.map_cons, separated, List.append_assoc, List.cons_append]
      have comma : signs ", " = [.comma] := by decide
      have later := ih (List.cons_ne_nil _ _)
        (fun entries mem => each entries (List.mem_cons_of_mem _ mem))
        (next + (pieceValues entries).length)
      rw [split, partsFrom_tuple some plain, pieceText, signs_ends (by decide), comma,
        List.singleton_append, partsFrom]
      obtain ⟨parts, read, listed⟩ := Option.bind_eq_some_iff.1 later
      rw [read]
      exact congrArg (Option.map (itemsOf next entries :: ·)) listed

/-! ### Entries -/

/-- An entry of an insertion: the default, or a placeholder. -/
def Piece.IsEntry : Piece → Prop
  | .text s => s = "DEFAULT"
  | .value _ cast => ∀ type ∈ cast, Sql.Unlisted type

/-- The parameter of an entry. -/
def Piece.parameter? : Piece → Option Parameter
  | .text _ => none
  | .value v _ => some (.ofValue v)

theorem castText_unlisted {cast : Option String} (plain : ∀ type ∈ cast, Unlisted type) :
    Unlisted ((cast.map ("::" ++ ·)).getD "") := by
  cases cast with
  | none => exact fun _ h => nomatch h
  | some type => exact .append (by decide : Unlisted "::") (plain type rfl)

theorem Piece.IsEntry.unlisted {entry : Piece} (isEntry : entry.IsEntry) : entry.Unlisted := by
  intro next
  cases entry with
  | text s =>
    rw [isEntry]
    exact (by decide : Sql.Unlisted "DEFAULT")
  | value v cast =>
    have plain := castText_unlisted isEntry
    intro c hc
    rw [pieceText, pieceText, String.append_empty, toList_placeholder] at hc
    rcases List.mem_cons.1 hc with rfl | hc
    · decide
    · rcases List.mem_append.1 hc with digit | cast
      · refine ⟨?_, ?_, ?_⟩ <;> rintro rfl <;> exact absurd (isDigit_of_mem _ digit) (by decide)
      · exact plain c cast

/-- The first word of a text. -/
theorem head?_wordsFrom {word cs : List Char} (nonempty : word ++ cs.takeWhile (· != ' ') ≠ []) :
    (wordsFrom word cs).head? = some (String.ofList (word ++ cs.takeWhile (· != ' '))) := by
  induction cs generalizing word with
  | nil =>
    rw [List.takeWhile_nil, List.append_nil] at nonempty ⊢
    rw [wordsFrom, List.isEmpty_eq_false_iff.2 nonempty]
    rfl
  | cons c cs ih =>
    rw [wordsFrom]
    by_cases blank : c = ' '
    · subst blank
      rw [List.takeWhile_cons_of_neg (by decide), List.append_nil] at nonempty ⊢
      rw [if_pos rfl, List.isEmpty_eq_false_iff.2 nonempty]
      rfl
    · rw [List.takeWhile_cons_of_pos (p := (· != ' ')) (bne_iff_ne.2 blank),
        List.append_cons word c (cs.takeWhile _)] at nonempty ⊢
      rw [if_neg blank]
      exact ih nonempty

/-- A placeholder is read with its number, whatever it is cast to. -/
theorem numberOf?_placeholder (number : Nat) (cast : Option String) :
    (wordsFrom [] (placeholder number cast).toList).head?.bind Insertion.numberOf? =
      some number := by
  have undigited : ((((cast.map ("::" ++ ·)).getD "").toList.takeWhile (· != ' ')).takeWhile
      Char.isDigit) = [] := by
    cases cast with
    | none => rfl
    | some type => simp
  have unbroken : ∀ c ∈ '$' :: Nat.toDigits 10 number, (c != ' ') = true := by
    intro c hc
    rw [bne_iff_ne]
    rintro rfl
    rcases List.mem_cons.1 hc with dollar | digit
    · exact absurd dollar (by decide)
    · exact absurd (isDigit_of_mem _ digit) (by decide)
  rw [toList_placeholder, ← List.cons_append]
  generalize ((cast.map ("::" ++ ·)).getD "").toList = type at undigited
  have first : ('$' :: Nat.toDigits 10 number ++ type).takeWhile (· != ' ') =
      '$' :: Nat.toDigits 10 number ++ type.takeWhile (· != ' ') :=
    List.takeWhile_append_of_pos unbroken
  have read : (wordsFrom [] ('$' :: Nat.toDigits 10 number ++ type)).head? = _ :=
    head?_wordsFrom (by rw [first]; exact List.cons_ne_nil _ _)
  rw [read, first, Option.bind_some, Insertion.numberOf?, List.nil_append, String.toList_ofList,
    List.cons_append]
  refine congrArg some ?_
  rw [List.takeWhile_append_of_pos isDigit_of_mem, undigited, List.append_nil,
    Nat.ofDigitChars_ten_toDigits]

theorem readEntry_placeholder {words : List String} {number : Nat}
    (numbered : words.head?.bind Insertion.numberOf? = some (number + 1))
    (parameters : List Parameter) :
    Insertion.readEntry parameters words = parameters[number]?.map some := by
  cases words with
  | nil => cases numbered
  | cons word words =>
    rw [List.head?_cons, Option.bind_some] at numbered
    unfold Insertion.readEntry
    split
    · next same =>
      have unnumbered : Insertion.numberOf? "DEFAULT" = none := by decide
      rw [(List.cons.inj same).1, unnumbered] at numbered
      cases numbered
    · next same =>
      cases same
      rw [numbered]
    · next none => cases none

theorem mapM_cons_some {α β : Type} {f : α → Option β} {a : α} {b : β} {l : List α} {bs : List β}
    (first : f a = some b) (rest : l.mapM f = some bs) : (a :: l).mapM f = some (b :: bs) := by
  rw [List.mapM_cons, first, rest]
  rfl

theorem length_itemsOf (next : Nat) (entries : List Piece) :
    (itemsOf next entries).length = entries.length := by
  induction entries generalizing next with
  | nil => rfl
  | cons entry entries ih => rw [itemsOf, List.length_cons, List.length_cons, ih]

/-- Entries are read as what they are, when their parameters stand in their places. -/
theorem mapM_readEntry {entries : List Piece} (each : ∀ entry ∈ entries, entry.IsEntry)
    (before after : List Parameter) :
    (itemsOf (before.length + 1) entries).mapM
        (Insertion.readEntry (before ++ ((pieceValues entries).map .ofValue ++ after))) =
      some (entries.map Piece.parameter?) := by
  induction entries generalizing before with
  | nil => rfl
  | cons entry entries ih =>
    obtain ⟨isEntry, others⟩ := List.forall_mem_cons.1 each
    cases entry with
    | text s =>
      cases isEntry
      have words : wordsFrom [] (pieceText (before.length + 1) [.text "DEFAULT"]).toList =
          ["DEFAULT"] := by
        rw [pieceText, pieceText, String.append_empty]
        decide
      refine mapM_cons_some ?_ (ih others before)
      rw [words]
      rfl
    | value v cast =>
      have later := ih others (before ++ [.ofValue v])
      rw [List.append_assoc, List.length_append] at later
      have there : (before ++ ([.ofValue v] ++ ((pieceValues entries).map Parameter.ofValue ++
          after)))[before.length]? = some (.ofValue v) := by
        rw [List.getElem?_append_right (Nat.le_refl _), Nat.sub_self]
        rfl
      refine mapM_cons_some ?_ later
      rw [pieceText, pieceText, String.append_empty]
      refine (readEntry_placeholder (numberOf?_placeholder (before.length + 1) cast) _).trans ?_
      exact congrArg (Option.map some) there

/-- Tuples of one width are read as their entries. -/
theorem mapM_readRow {rows : List (List Piece)} {width : Nat}
    (each : ∀ entries ∈ rows, entries.length = width ∧ ∀ entry ∈ entries, entry.IsEntry)
    (before : List Parameter) :
    (listsOf (before.length + 1) rows).mapM
        (Insertion.readRow (before ++ (rows.flatMap pieceValues).map .ofValue) width) =
      some (rows.map (·.map Piece.parameter?)) := by
  induction rows generalizing before with
  | nil => rfl
  | cons entries rows ih =>
    obtain ⟨⟨wide, areEntries⟩, others⟩ := List.forall_mem_cons.1 each
    have later := ih others (before ++ (pieceValues entries).map .ofValue)
    rw [List.append_assoc, List.length_append, List.length_map] at later
    rw [List.flatMap_cons, List.map_append]
    refine mapM_cons_some ?_ ?_
    · unfold Insertion.readRow
      rw [if_pos ((length_itemsOf _ _).trans wide)]
      exact mapM_readEntry areEntries before _
    · rw [Nat.add_right_comm]
      exact later

/-! ### Rendered insertions -/

/-- The entry of a row for a column. -/
def entry (types : ColumnTypes) (table : String) (row : Row) (column : String) : Piece :=
  match row.get? column with
  | some v => bind types table column v
  | none => .text "DEFAULT"

theorem rowPieces_eq (types : ColumnTypes) (table : String) (columns : List String) (row : Row) :
    rowPieces types table columns row = tuple (columns.map (entry types table row)) := by
  have entries : ((columns.map (entry types table row)).map ([·])) = columns.map fun column =>
      match row.get? column with
      | some v => [bind types table column v]
      | none => [.text "DEFAULT"] := by
    rw [List.map_map]
    refine List.map_congr_left fun column _ => ?_
    unfold entry
    simp only [Function.comp_apply]
    cases row.get? column <;> rfl
  rw [tuple, entries]
  rfl

theorem entry_isEntry (types : ColumnTypes) (table : String) (row : Row) (column : String) :
    (entry types table row column).IsEntry := by
  unfold entry
  cases row.get? column with
  | none => rfl
  | some v =>
    intro cast hcast
    obtain ⟨type, -, hcast⟩ := Option.bind_eq_some_iff.1 hcast
    have named : ∀ name ∈ typeName? type, Unlisted name := by
      cases type <;> decide
    exact named cast (typeName?_of_castOf? hcast)

theorem parameter?_entry (types : ColumnTypes) (table : String) (row : Row) (column : String) :
    (entry types table row column).parameter? = (row.get? column).map .ofValue := by
  unfold entry
  cases row.get? column <;> rfl

theorem wordsFrom_last {cs : List Char} (solid : Solid cs) :
    wordsFrom [] cs = [String.ofList cs] := by
  have words : wordsFrom [] (cs ++ []) = wordsFrom ([] ++ cs) [] :=
    wordsFrom_append solid.unbroken []
  rw [List.append_nil, List.nil_append, wordsFrom, List.isEmpty_eq_false_iff.2 solid.nonempty]
    at words
  exact words

/-- A table is one word, or two with `AS` between them. -/
theorem words_of_table {name text : String} (quoted : quoteIdentifier name = .ok text) :
    (∃ source, wordsFrom [] text.toList = [source]) ∨
      ∃ source label, wordsFrom [] text.toList = [source, "AS", label] := by
  rcases words_of_identifier quoted with ⟨-, solid⟩ | ⟨-, source, label, solid, solid', same⟩
  · exact .inl ⟨_, wordsFrom_last solid⟩
  · refine .inr ⟨String.ofList source, String.ofList label, ?_⟩
    have first := wordsFrom_solid (s := String.ofList source) (String.toList_ofList ▸ solid)
      ("AS".toList ++ ' ' :: label)
    have second := wordsFrom_solid (s := "AS") ⟨by decide, by decide⟩ label
    rw [String.toList_ofList, second, wordsFrom_last solid'] at first
    rw [same, List.append_assoc]
    exact first

theorem pieceText_texts (next : Nat) (texts : List String) :
    pieceText next (separated ", " ((texts.map Piece.text).map ([·]))) =
      ", ".intercalate texts := by
  induction texts with
  | nil =>
    rw [String.intercalate_nil]
    rfl
  | cons first rest ih =>
    cases rest with
    | nil =>
      rw [String.intercalate_singleton]
      exact String.append_empty
    | cons second rest =>
      have split : separated ", " (((first :: second :: rest).map Piece.text).map ([·])) =
          .text first :: .text ", " ::
            separated ", " (((second :: rest).map Piece.text).map ([·])) := rfl
      rw [split, pieceText, pieceText, ih, String.intercalate_cons_cons, String.append_assoc]

theorem pieceValues_texts (texts : List String) : pieceValues (texts.map Piece.text) = [] := by
  induction texts with
  | nil => rfl
  | cons text texts ih => exact ih

theorem itemsOf_texts (next : Nat) (texts : List String) :
    itemsOf next (texts.map Piece.text) = texts.map fun text => wordsFrom [] text.toList := by
  induction texts with
  | nil => rfl
  | cons text texts ih =>
    rw [List.map_cons, itemsOf, pieceText, pieceText, String.append_empty]
    exact congrArg (_ :: ·) ih

section

variable {table : String} (plain : Unlisted table)
include plain

/-- The text up to the table. -/
theorem partsFrom_into {rest : String} (begins : Begins rest) :
    partsFrom none (signs ("INSERT INTO " ++ (table ++ rest))) =
      (partsFrom none (signs rest)).map fun parts =>
        .word "INSERT" :: .word "INTO" :: ((wordsFrom [] table.toList).map .word ++ parts) := by
  have into : signs "INSERT INTO " = ["INSERT", "INTO"].map .word := by decide
  rw [signs_ends (by decide), signs_begins begins, into, signs_words plain, partsFrom_words,
    partsFrom_words, Option.map_map]
  rfl

/-- The text up to the tuples. -/
theorem partsFrom_columns {columns : List String} (nonempty : columns ≠ [])
    (each : ∀ column ∈ columns, Unlisted column) (pieces : List Piece) :
    partsFrom none (signs (("INSERT INTO " ++ table ++ " (" ++ ", ".intercalate columns ++
        ") VALUES ") ++ pieceText 1 pieces)) =
      (partsFrom none (signs (pieceText 1 pieces))).map fun parts =>
        .word "INSERT" :: .word "INTO" :: ((wordsFrom [] table.toList).map .word ++
          .list (columns.map fun column => wordsFrom [] column.toList) ::
            .word "VALUES" :: parts) := by
  have written : ("INSERT INTO " ++ table ++ " (" ++ ", ".intercalate columns ++ ") VALUES ") ++
      pieceText 1 pieces =
      "INSERT INTO " ++ (table ++ (" (" ++ pieceText 1
        (separated ", " ((columns.map Piece.text).map ([·])) ++
          .text ")" :: .text " VALUES " :: pieces))) := by
    have closing : ") VALUES " = ")" ++ " VALUES " := by decide
    rw [pieceText_append, pieceText_texts, pieceValues_entries, pieceValues_texts, pieceText,
      pieceText, closing]
    simp only [String.append_assoc]
    rfl
  have opening : signs " (" = [.opening] := by decide
  have values : signs " VALUES " = ["VALUES"].map .word := by decide
  have entries : ∀ entry ∈ columns.map Piece.text, entry.Unlisted := by
    intro entry mem next
    obtain ⟨column, there, rfl⟩ := List.mem_map.1 mem
    rw [pieceText, pieceText, String.append_empty]
    exact each column there
  rw [written, partsFrom_into plain (.append (by decide) _), signs_ends (by decide), opening,
    List.singleton_append, partsFrom,
    partsFrom_entries (fun none => nonempty (List.map_eq_nil_iff.1 none)) entries,
    pieceValues_texts, itemsOf_texts, pieceText, signs_ends (by decide), values, partsFrom_words,
    Option.map_map, Option.map_map]
  rfl

end

/-- The text of the answer. -/
theorem partsFrom_returning {returning : String} (plain : Unlisted returning) :
    partsFrom none (signs (" RETURNING (" ++ returning ++ ")::bigint")) =
      some [.word "RETURNING", .list [wordsFrom [] returning.toList], .word "::bigint"] := by
  have opening : signs " RETURNING (" = [.word "RETURNING", .opening] := by decide
  have closing : signs ")::bigint" = [.closing, .word "::bigint"] := by decide
  rw [signs_begins (by decide), signs_ends (by decide), signs_words plain, opening, closing,
    List.append_assoc, List.cons_append, List.singleton_append, partsFrom, partsFrom,
    partsFrom_item]
  rfl

/-- The words of the table are passed over. -/
theorem read_of_parts {sql : String} {parameters : List Parameter} {words : List String}
    (table : (∃ source, words = [source]) ∨ ∃ source label, words = [source, "AS", label])
    {first : Part} (other : first ≠ .word "AS") {rest : List Part}
    (parts : partsFrom none (signs sql) =
      some (.word "INSERT" :: .word "INTO" :: (words.map .word ++ first :: rest))) :
    Insertion.read ⟨sql, parameters⟩ = Insertion.readSource parameters (first :: rest) := by
  have into : Insertion.intoTable?
      (.word "INSERT" :: .word "INTO" :: (words.map .word ++ first :: rest)) =
        some (first :: rest) := by
    rcases table with ⟨source, rfl⟩ | ⟨source, label, rfl⟩
    · cases first with
      | word s =>
        have apart : s ≠ "AS" := fun same => other (same ▸ rfl)
        simp [Insertion.intoTable?, apart]
      | comma => rfl
      | list items => rfl
    · rfl
  rw [Insertion.read, parts, Option.bind_eq_bind, Option.bind_some, into]
  rfl

theorem readSource_lists {parameters : List Parameter} {columns : List (List String)}
    {parts : List Part} {lists : List (List (List String))} {rows : List (List (Option Parameter))}
    (listed : Insertion.lists? parts = some lists)
    (read : lists.mapM (Insertion.readRow parameters columns.length) = some rows) :
    Insertion.readSource parameters (.list columns :: .word "VALUES" :: parts) =
      some ⟨columns.map Insertion.columnName, rows⟩ := by
  rw [Insertion.readSource, listed, Option.bind_eq_bind, Option.bind_some, read]
  rfl

theorem quoteIdentifier_unlisted {name text : String} (quoted : quoteIdentifier name = .ok text) :
    Unlisted text := by
  have written := quoteIdentifier_name name
  rw [quoted] at written
  exact .of_name written

section

variable {tableName table returning : String}
  (named : quoteIdentifier tableName = .ok table) (plain : Unlisted returning)
include named plain

/-- An insertion of default values is one of a single row. -/
theorem read_defaults (parameters : List Parameter) :
    Insertion.read ⟨"INSERT INTO " ++ table ++ " DEFAULT VALUES RETURNING (" ++ returning ++
      ")::bigint", parameters⟩ = some ⟨[], [[]]⟩ := by
  have written : "INSERT INTO " ++ table ++ " DEFAULT VALUES RETURNING (" ++ returning ++
      ")::bigint" = "INSERT INTO " ++ (table ++ (" DEFAULT VALUES" ++
        (" RETURNING (" ++ returning ++ ")::bigint"))) := by
    have split : " DEFAULT VALUES RETURNING (" = " DEFAULT VALUES" ++ " RETURNING (" := by decide
    rw [split]
    simp only [String.append_assoc]
  have defaults : signs " DEFAULT VALUES" = ["DEFAULT", "VALUES"].map .word := by decide
  have begins : Begins (" RETURNING (" ++ returning ++ ")::bigint") :=
    .append (.append (by decide) _) _
  have parts : partsFrom none (signs ("INSERT INTO " ++ table ++ " DEFAULT VALUES RETURNING (" ++
      returning ++ ")::bigint")) =
      some (.word "INSERT" :: .word "INTO" :: ((wordsFrom [] table.toList).map .word ++
        .word "DEFAULT" :: [.word "VALUES", .word "RETURNING",
          .list [wordsFrom [] returning.toList], .word "::bigint"])) := by
    rw [written, partsFrom_into (quoteIdentifier_unlisted named) (.append (by decide) _),
      signs_begins begins, defaults, partsFrom_words, partsFrom_returning plain]
    rfl
  exact read_of_parts (words_of_table named) (by decide) parts

/-- Rows of entries are read with the names of the columns and the parameters of the values. -/
theorem read_rows {columns : List String} (some : columns ≠ [])
    (each : ∀ column ∈ columns, Unlisted column) {rows : List (List Piece)} (nonempty : rows ≠ [])
    (areEntries : ∀ entries ∈ rows, entries.length = columns.length ∧
      ∀ entry ∈ entries, entry.IsEntry) :
    Insertion.read (assemble (.text ("INSERT INTO " ++ table ++ " (" ++ ", ".intercalate columns ++
        ") VALUES ") :: (separated ", " (rows.map tuple) ++
          [.text (" RETURNING (" ++ returning ++ ")::bigint")]))) =
      .some ⟨columns.map fun column => Insertion.columnName (wordsFrom [] column.toList),
        rows.map (·.map Piece.parameter?)⟩ := by
  have tuples : ∀ entries ∈ rows, entries ≠ [] ∧ ∀ entry ∈ entries, entry.Unlisted := by
    intro entries mem
    obtain ⟨wide, isEntry⟩ := areEntries entries mem
    refine ⟨?_, fun entry mem => (isEntry entry mem).unlisted⟩
    rintro rfl
    exact some (List.eq_nil_of_length_eq_zero wide.symm)
  have found := lists?_tuples nonempty tuples (partsFrom_returning plain) 1
  obtain ⟨parts, read, listed⟩ := Option.bind_eq_some_iff.1 found
  have values : pieceValues (separated ", " (rows.map tuple) ++
      [.text (" RETURNING (" ++ returning ++ ")::bigint")]) = rows.flatMap pieceValues := by
    rw [pieceValues_append, pieceValues_separated, List.flatMap_map]
    simp only [pieceValues_tuple]
    exact List.append_nil _
  have readRows := mapM_readRow areEntries []
  rw [assemble, pieceText, pieceValues, values]
  have whole := partsFrom_columns (quoteIdentifier_unlisted named) some each
    (separated ", " (rows.map tuple) ++ [.text (" RETURNING (" ++ returning ++ ")::bigint")])
  rw [read, Option.map_some] at whole
  have other : Part.list (columns.map fun column => wordsFrom [] column.toList) ≠ .word "AS" :=
    Part.noConfusion
  refine (read_of_parts (words_of_table named) other whole).trans ?_
  rw [readSource_lists listed ((List.length_map ..).symm ▸ readRows), List.map_map]
  rfl

end

/-- **What is read from an insertion.** Without any columns it is one row of defaults. Otherwise its
columns are those of the rows, and the entries of every row are the parameters of its values and the
defaults of the columns that it does not carry. -/
theorem read_insertPieces {types : ColumnTypes} {statement : Insert} {pieces : List Piece}
    (rendered : insertPieces types statement = .ok pieces) (nonempty : statement.rows ≠ []) :
    ∃ names, quoteAll (columnsOf statement.rows) = .ok names ∧
      Insertion.read (assemble pieces) = some
        (if columnsOf statement.rows = [] then ⟨[], [[]]⟩
        else ⟨names.map fun name => Insertion.columnName (wordsFrom [] name.toList),
          statement.rows.map fun row => (columnsOf statement.rows).map fun column =>
            (row.get? column).map .ofValue⟩) := by
  unfold insertPieces at rendered
  obtain ⟨table, namedTable, rendered⟩ := Except.bind_eq_ok.1 rendered
  obtain ⟨returning, namedReturning, rendered⟩ := Except.bind_eq_ok.1 rendered
  obtain ⟨names, named, rendered⟩ := Except.bind_eq_ok.1 rendered
  refine ⟨names, named, ?_⟩
  have plain := quoteIdentifier_unlisted namedReturning
  have written := Except.forall₂_of_mapM named
  by_cases bare : columnsOf statement.rows = []
  · rw [if_pos (List.isEmpty_iff.2 bare)] at rendered
    cases rendered
    rw [if_pos bare, assemble, pieceText, pieceText, String.append_empty]
    exact read_defaults namedTable plain _
  · rw [if_neg fun empty => bare (List.isEmpty_iff.1 empty)] at rendered
    cases rendered
    rw [if_neg bare]
    have each : ∀ name ∈ names, Unlisted name := by
      intro name mem
      obtain ⟨column, -, quoted⟩ := List.exists_of_forall₂_right written mem
      exact quoteIdentifier_unlisted quoted
    have rows : statement.rows.map (rowPieces types statement.table (columnsOf statement.rows)) =
        (statement.rows.map fun row =>
          (columnsOf statement.rows).map (entry types statement.table row)).map tuple := by
      rw [List.map_map]
      exact List.map_congr_left fun row _ => rowPieces_eq _ _ _ row
    have areEntries : ∀ entries ∈ statement.rows.map fun row =>
        (columnsOf statement.rows).map (entry types statement.table row),
        entries.length = names.length ∧ ∀ entry ∈ entries, entry.IsEntry := by
      intro entries mem
      obtain ⟨row, -, rfl⟩ := List.mem_map.1 mem
      refine ⟨(List.length_map _).trans written.length_eq, fun piece there => ?_⟩
      obtain ⟨column, -, rfl⟩ := List.mem_map.1 there
      exact entry_isEntry _ _ row column
    have some : names ≠ [] := by
      rintro rfl
      exact bare (List.forall₂_nil_right_iff.1 written)
    rw [rows, List.cons_append, read_rows namedTable plain some each
      (fun none => nonempty (List.map_eq_nil_iff.1 none)) areEntries]
    simp only [List.map_map, Function.comp_def, parameter?_entry]

end EntityStore.Sql
