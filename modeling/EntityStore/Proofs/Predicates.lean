import EntityStore.Proofs.Quoting

/-!
# Rendered conditions as SQL predicates

The predicate that a condition is rendered as is read back from its words and its bound values
(`Sql.Predicate.read`) and evaluated as SQL does, with a third truth value for comparisons with null
(`Sql.Predicate.eval`). A condition that meets one column with values is rendered as the predicate
that one expects (`Sql.conditionPieces_read`).
-/

namespace EntityStore

/-- The column that a condition meets with values, and the values. Patterns are no values. -/
def Condition.operands? : Condition → Option (String × List Value)
  | .compare _ .like _ | .compare _ .notLike _ => none
  | .compare column _ value => some (column, [value])
  | .isIn column values | .notIn column values => some (column, values)
  | .isNull column | .notNull column => some (column, [])
  | .between column low high => some (column, [low, high])
  | .columns .. | .group _ | .related .. => none

theorem Condition.operands_compare {column column' : String} {operator : Operator} {value : Value}
    {values : List Value}
    (operands : (Condition.compare column' operator value).operands? = some (column, values)) :
    (operator ≠ .like ∧ operator ≠ .notLike) ∧ column' = column ∧ values = [value] := by
  cases operator
  case like => cases operands
  case notLike => cases operands
  all_goals
    cases operands
    exact ⟨⟨by decide, by decide⟩, rfl, rfl⟩

namespace Sql

/-- The truth values of SQL. -/
inductive Truth where
  | holds
  | fails
  | unknown
deriving DecidableEq, Repr

namespace Truth

def ofBool (b : Bool) : Truth :=
  if b then .holds else .fails

def not : Truth → Truth
  | .holds => .fails
  | .fails => .holds
  | .unknown => .unknown

def and : Truth → Truth → Truth
  | .fails, _ | _, .fails => .fails
  | .holds, .holds => .holds
  | _, _ => .unknown

def or : Truth → Truth → Truth
  | .holds, _ | _, .holds => .holds
  | .fails, .fails => .fails
  | _, _ => .unknown

@[simp] theorem ofBool_eq_holds {b : Bool} : ofBool b = .holds ↔ b = true := by
  cases b <;> decide

@[simp] theorem ofBool_eq_fails {b : Bool} : ofBool b = .fails ↔ b = false := by
  cases b <;> decide

@[simp] theorem not_eq_holds {t : Truth} : t.not = .holds ↔ t = .fails := by
  cases t <;> decide

@[simp] theorem and_eq_holds {a b : Truth} : a.and b = .holds ↔ a = .holds ∧ b = .holds := by
  cases a <;> cases b <;> decide

@[simp] theorem or_eq_holds {a b : Truth} : a.or b = .holds ↔ a = .holds ∨ b = .holds := by
  cases a <;> cases b <;> decide

@[simp] theorem or_eq_fails {a b : Truth} : a.or b = .fails ↔ a = .fails ∧ b = .fails := by
  cases a <;> cases b <;> decide

end Truth

/-- The order of two values of one kind: texts by code points, booleans with false before true,
integers as they are. Null has no place in it. -/
def order? : Value → Value → Option Ordering
  | .text a, .text b => some (Ord.compare a b)
  | .bool a, .bool b => some (Ord.compare a b)
  | .number (.int m), .number (.int n) => some (Ord.compare m n)
  | _, _ => none

/-- What an operator asks of the order of two values; patterns are matched against no order. -/
def meets (o : Ordering) : Operator → Bool
  | .eq => o.isEq
  | .ne => o.isNe
  | .gt => o.isGT
  | .ge => o.isGE
  | .lt => o.isLT
  | .le => o.isLE
  | .like | .notLike => false

/-- The comparison of two values; one with null is unknown. -/
def comparison (operator : Operator) (a b : Value) : Truth :=
  match order? a b with
  | some o => .ofBool (meets o operator)
  | none => .unknown

/-- The value is one of a list: it is equal to the first, or to the second, and so on. -/
def membershipTruth (v : Value) : List Value → Truth
  | [] => .fails
  | first :: rest => (comparison .eq v first).or (membershipTruth v rest)

/-- A predicate on the columns of one row. -/
inductive Predicate where
  | constant (b : Bool)
  | compare (column : String) (operator : Operator) (value : Value)
  | among (column : String) (negated : Bool) (values : List Value)
  | null (column : String) (negated : Bool)
  | between (column : String) (low high : Value)
deriving Repr

/-- The truth of a predicate on a row. -/
def Predicate.eval (row : String → Value) : Predicate → Truth
  | .constant b => .ofBool b
  | .compare column operator value => comparison operator (row column) value
  | .among column negated values =>
    if negated then (membershipTruth (row column) values).not else membershipTruth (row column) values
  | .null column negated => .ofBool ((row column).isNull != negated)
  | .between column low high =>
    (comparison .ge (row column) low).and (comparison .le (row column) high)

/-! ### Reading -/

/-- A word of a predicate, or a bound value. -/
inductive Lexeme where
  | word (s : String)
  | value (v : Value)
deriving DecidableEq, Repr

/-- The words between the blanks of a text, after the part of a word that has been read. -/
def wordsFrom (word : List Char) : List Char → List String
  | [] => if word.isEmpty then [] else [String.ofList word]
  | c :: rest =>
    if c = ' ' then
      (if word.isEmpty then [] else [String.ofList word]) ++ wordsFrom [] rest
    else wordsFrom (word ++ [c]) rest

/-- The lexemes of rendered pieces. A cast names the type of a value and does not change it. -/
def lexemes : List Piece → List Lexeme
  | [] => []
  | .text s :: rest => (wordsFrom [] s.toList).map .word ++ lexemes rest
  | .value v _ :: rest => .value v :: lexemes rest

/-- The operator of a comparison. -/
def operatorOf? : String → Option Operator
  | "=" => some .eq
  | "!=" => some .ne
  | ">" => some .gt
  | ">=" => some .ge
  | "<" => some .lt
  | "<=" => some .le
  | _ => none

/-- The values of a list up to its closing parenthesis. -/
def readValues : List Lexeme → Option (List Value)
  | [.value v, .word ")"] => some [v]
  | .value v :: .word "," :: rest => (readValues rest).map (v :: ·)
  | _ => none

/-- What the lexemes after a column ask of it. -/
def Predicate.readTest (column : String) : List Lexeme → Option Predicate
  | [.word "IS", .word "NULL"] => some (.null column false)
  | [.word "IS", .word "NOT", .word "NULL"] => some (.null column true)
  | .word "IN" :: .word "(" :: rest => (readValues rest).map (.among column false)
  | .word "NOT" :: .word "IN" :: .word "(" :: rest => (readValues rest).map (.among column true)
  | [.word "BETWEEN", .value low, .word "AND", .value high] => some (.between column low high)
  | [.word operator, .value v] => (operatorOf? operator).map (.compare column · v)
  | _ => none

/-- The constant of a name. -/
def constantOf? : String → Option Bool
  | "TRUE" => some true
  | "FALSE" => some false
  | _ => none

/-- The predicate that lexemes spell: a constant, or a column with what is asked of it. -/
def Predicate.read : List Lexeme → Option Predicate
  | [.word s] => (constantOf? s).map .constant
  | .word column :: rest => readTest column rest
  | _ => none

/-- A text that is one word. -/
structure Solid (cs : List Char) : Prop where
  nonempty : cs ≠ []
  unbroken : ' ' ∉ cs

namespace Solid

variable {cs other : List Char}

theorem append (first : Solid cs) (rest : Solid other) : Solid (cs ++ other) where
  nonempty := List.append_ne_nil_of_left_ne_nil first.nonempty _
  unbroken := by
    rw [List.mem_append, not_or]
    exact ⟨first.unbroken, rest.unbroken⟩

theorem of_segment (plain : isPlainSegment cs = true) : Solid cs := by
  unfold isPlainSegment at plain
  rcases Bool.or_eq_true_iff.1 plain with star | plain
  · rw [eq_of_beq star]
    exact ⟨by decide, by decide⟩
  · simp only [Bool.and_eq_true, Bool.not_eq_true', List.all_eq_true] at plain
    refine ⟨List.isEmpty_eq_false_iff.1 plain.1.1, ?_⟩
    intro blank
    exact absurd (plain.1.2 ' ' blank) (by decide)

theorem quoteSegment (solid : Solid cs) : Solid (Sql.quoteSegment cs) := by
  have quote : Solid ['"'] := ⟨by decide, by decide⟩
  unfold Sql.quoteSegment
  split
  · exact (quote.append solid).append quote
  · exact solid

/-- Words joined by points are one word. -/
theorem intercalate {segments : List (List Char)} (some : segments ≠ [])
    (h : ∀ cs ∈ segments, Solid cs) : Solid (List.intercalate ['.'] segments) := by
  have point : Solid ['.'] := ⟨by decide, by decide⟩
  induction segments with
  | nil => exact absurd rfl some
  | cons first rest ih =>
    have head := h first List.mem_cons_self
    cases rest with
    | nil => simpa [List.intercalate] using head
    | cons second rest =>
      have more := ih (List.cons_ne_nil _ _) fun cs mem => h cs (List.mem_cons_of_mem _ mem)
      have joined : List.intercalate ['.'] (first :: second :: rest) =
          first ++ (['.'] ++ List.intercalate ['.'] (second :: rest)) := rfl
      rw [joined]
      exact head.append (point.append more)

end Solid

/-- A plain name is one word, and so it is with its parts quoted. -/
theorem solid_of_plain {cs : List Char} (plain : isPlainName cs = true) :
    Solid (Text.trimChars cs) ∧
      Solid (List.intercalate ['.'] ((segmentsOf (Text.trimChars cs)).map quoteSegment)) := by
  have segments : ∀ segment ∈ segmentsOf (Text.trimChars cs), isPlainSegment segment = true :=
    List.all_eq_true.1 (Bool.and_eq_true_iff.1 plain).2
  have some : segmentsOf (Text.trimChars cs) ≠ [] := List.splitOn_ne_nil '.' _
  have joined : List.intercalate ['.'] (segmentsOf (Text.trimChars cs)) = Text.trimChars cs :=
    List.intercalate_splitOn '.'
  constructor
  · rw [← joined]
    exact .intercalate some fun segment mem => .of_segment (segments segment mem)
  · refine .intercalate (fun none => some (List.map_eq_nil_iff.1 none)) fun cs mem => ?_
    obtain ⟨segment, member, rfl⟩ := List.mem_map.1 mem
    exact (Solid.of_segment (segments segment member)).quoteSegment

/-- An identifier is written as one word; with another name, as two words and `AS` between them. -/
theorem words_of_identifier {name text : String} (quoted : quoteIdentifier name = .ok text) :
    (splitAs name.toList).2 = none ∧ Solid text.toList ∨
      (splitAs name.toList).2 ≠ none ∧ ∃ source label, Solid source ∧ Solid label ∧
        text.toList = source ++ " AS ".toList ++ label := by
  unfold quoteIdentifier validateIdentifier at quoted
  by_cases valid : isValidIdentifier name = true
  · rw [if_pos valid] at quoted
    unfold isValidIdentifier at valid
    generalize splitAs name.toList = parts at valid quoted
    obtain ⟨source, label⟩ := parts
    simp only [Bool.and_eq_true] at valid
    obtain ⟨⟨-, plainSource⟩, plainLabel⟩ := valid
    have solidSource := (solid_of_plain plainSource).2
    cases label with
    | none =>
      cases quoted
      exact .inl ⟨rfl, String.toList_ofList ▸ solidSource⟩
    | some label =>
      cases quoted
      have solidLabel := (solid_of_plain plainLabel).1.quoteSegment
      exact .inr ⟨nofun, _, _, solidSource, solidLabel, String.toList_ofList⟩
  · rw [if_neg valid] at quoted
    cases quoted

/-- A column that is given no other name is written as one word. -/
theorem columnText_solid {having : Bool} {column name : String}
    (named : columnText having column = .ok name) (plain : (splitAs column.toList).2 = none) :
    Solid name.toList := by
  unfold columnText at named
  split at named
  · cases named
    exact ⟨by decide, by decide⟩
  · rcases words_of_identifier named with ⟨-, solid⟩ | ⟨labelled, -⟩
    · exact solid
    · exact absurd plain labelled

theorem wordsFrom_append {word : List Char} : ∀ {cs : List Char}, ' ' ∉ cs → ∀ rest,
    wordsFrom word (cs ++ rest) = wordsFrom (word ++ cs) rest := by
  intro cs
  induction cs generalizing word with
  | nil => intro _ rest; rw [List.nil_append, List.append_nil]
  | cons c cs ih =>
    intro unbroken rest
    rw [List.mem_cons, not_or] at unbroken
    rw [List.cons_append, wordsFrom, if_neg (Ne.symm unbroken.1), ih unbroken.2, List.append_assoc,
      List.singleton_append]

/-- A word before a blank is read whole. -/
theorem wordsFrom_solid {s : String} (solid : Solid s.toList) (rest : List Char) :
    wordsFrom [] (s.toList ++ ' ' :: rest) = s :: wordsFrom [] rest := by
  have filled : s.toList.isEmpty = false := List.isEmpty_eq_false_iff.2 solid.nonempty
  rw [wordsFrom_append solid.unbroken, List.nil_append, wordsFrom, if_pos rfl, filled]
  simp

theorem readValues_separated (types : ColumnTypes) (table column : String) {values : List Value}
    (nonempty : values ≠ []) :
    readValues (lexemes (separated ", " (values.map fun v => [bind types table column v]) ++
      [.text ")"])) = some values := by
  induction values with
  | nil => exact absurd rfl nonempty
  | cons v rest ih =>
    cases rest with
    | nil => rfl
    | cons second rest =>
      have more := ih (List.cons_ne_nil _ _)
      change (readValues (lexemes (separated ", " ((second :: rest).map fun v =>
        [bind types table column v]) ++ [.text ")"]))).map (v :: ·) = _
      rw [more]
      rfl

/-- The condition as a predicate on a column that SQL knows under the given name; patterns, pairs of
columns, groups and subqueries are none. -/
def Predicate.ofCondition? (name : String) : Condition → Option Predicate
  | .compare _ .like _ | .compare _ .notLike _ => none
  | .compare _ operator value => some (.compare name operator value)
  | .isIn _ values => some (if values.isEmpty then .constant false else .among name false values)
  | .notIn _ values => some (if values.isEmpty then .constant true else .among name true values)
  | .isNull _ => some (.null name false)
  | .notNull _ => some (.null name true)
  | .between _ low high => some (.between name low high)
  | .columns .. | .group _ | .related .. => none

theorem Predicate.ofCondition?_compare (name column : String) {operator : Operator} (value : Value)
    (ordering : operator ≠ .like ∧ operator ≠ .notLike) :
    ofCondition? name (.compare column operator value) = some (.compare name operator value) := by
  cases operator
  case like => exact absurd rfl ordering.1
  case notLike => exact absurd rfl ordering.2
  all_goals rfl

/-- The words of a text that begins with a name and a blank. -/
theorem lexemes_named {name : String} (solid : Solid name.toList) (tail : String)
    (rest : List Piece) :
    lexemes (.text (name ++ (" " ++ tail)) :: rest) =
      .word name :: ((wordsFrom [] tail.toList).map .word ++ lexemes rest) := by
  have blank : (name ++ (" " ++ tail)).toList = name.toList ++ ' ' :: tail.toList := by
    rw [String.toList_append, String.toList_append]
    rfl
  rw [lexemes, blank, wordsFrom_solid solid]
  rfl

section

variable (types : ColumnTypes) (table : String) (having : Bool) {column name : String}
  (named : columnText having column = .ok name)
include named

theorem membership_filled {values : List Value} (filled : values.isEmpty = false)
    (operator empty : String) :
    membership types table having column values operator empty =
      .ok (.text (name ++ (" " ++ (operator ++ " ("))) ::
        (separated ", " (values.map fun v => [bind types table column v]) ++ [.text ")"])) := by
  unfold membership
  rw [filled, named, if_neg (by decide)]
  change Except.ok (Piece.text (name ++ " " ++ operator ++ " (") :: (_ ++ _)) = _
  rw [String.append_assoc, String.append_assoc]

variable (solid : Solid name.toList)
include solid

/-- A membership is read with its operator, which is one word or two, and its values. -/
theorem membership_read {values : List Value} (negated : Bool) :
    ∃ pieces, membership types table having column values (if negated then "NOT IN" else "IN")
        (if negated then "TRUE" else "FALSE") = .ok pieces ∧
      Predicate.read (lexemes pieces) =
        some (if values.isEmpty then .constant negated else .among name negated values) := by
  cases empty : values.isEmpty with
  | true =>
    unfold membership
    rw [empty, if_pos rfl]
    refine ⟨_, rfl, ?_⟩
    cases negated <;> rfl
  | false =>
    have listed := readValues_separated types table column (List.isEmpty_eq_false_iff.1 empty)
    refine ⟨_, membership_filled types table having named empty _ _, ?_⟩
    rw [lexemes_named solid]
    cases negated
    · exact congrArg (Option.map (Predicate.among name false)) listed
    · exact congrArg (Option.map (Predicate.among name true)) listed

/-- A condition that meets a column with values is rendered, and reads as the predicate that it
stands for. -/
theorem conditionPieces_read {c : Condition} {values : List Value}
    (operands : c.operands? = some (column, values)) :
    ∃ pieces predicate, conditionPieces types table having c = .ok pieces ∧
      Predicate.read (lexemes pieces) = some predicate ∧
      Predicate.ofCondition? name c = some predicate := by
  cases c with
  | compare column' operator value =>
    have rendered : conditionPieces types table having (.compare column operator value) =
        .ok [.text (name ++ (" " ++ (operator.text ++ " "))), bind types table column value] := by
      unfold conditionPieces
      rw [named]
      change Except.ok [Piece.text (name ++ " " ++ operator.text ++ " "), _] = _
      rw [String.append_assoc, String.append_assoc]
    obtain ⟨ordering, rfl, rfl⟩ := Condition.operands_compare operands
    refine ⟨_, _, rendered, ?_, Predicate.ofCondition?_compare name column' value ordering⟩
    rw [lexemes_named solid]
    cases operator
    case like => exact absurd rfl ordering.1
    case notLike => exact absurd rfl ordering.2
    all_goals rfl
  | columns first operator second => cases operands
  | isIn column' values =>
    cases operands
    obtain ⟨pieces, rendered, read⟩ := membership_read types table having named solid false
    refine ⟨pieces, _, ?_, read, rfl⟩
    unfold conditionPieces
    exact rendered
  | notIn column' values =>
    cases operands
    obtain ⟨pieces, rendered, read⟩ := membership_read types table having named solid true
    refine ⟨pieces, _, ?_, read, rfl⟩
    unfold conditionPieces
    exact rendered
  | isNull column' =>
    cases operands
    have rendered : conditionPieces types table having (.isNull column) =
        .ok [.text (name ++ (" " ++ "IS NULL"))] := by
      unfold conditionPieces
      rw [named]
      rfl
    refine ⟨_, _, rendered, ?_, rfl⟩
    rw [lexemes_named solid]
    rfl
  | notNull column' =>
    cases operands
    have rendered : conditionPieces types table having (.notNull column) =
        .ok [.text (name ++ (" " ++ "IS NOT NULL"))] := by
      unfold conditionPieces
      rw [named]
      rfl
    refine ⟨_, _, rendered, ?_, rfl⟩
    rw [lexemes_named solid]
    rfl
  | between column' low high =>
    cases operands
    have rendered : conditionPieces types table having (.between column low high) =
        .ok [.text (name ++ (" " ++ "BETWEEN ")), bind types table column low, .text " AND ",
          bind types table column high] := by
      unfold conditionPieces
      rw [named]
      rfl
    refine ⟨_, _, rendered, ?_, rfl⟩
    rw [lexemes_named solid]
    rfl
  | group tree => cases operands
  | related negated inner correlation tree => cases operands

end

end Sql

end EntityStore
