import EntityStore.Proofs.Parentheses

/-!
# Rendered conditions as tokens

The words of a rendered tree are its conditions and conjunctions and the parentheses of its groups
(`Sql.treePieces_written`): no predicate is taken for one of the other words, and each ends where the
next word begins (`Sql.Whole`).
-/

namespace EntityStore

namespace Sql

/-- The characters of the words between predicates. -/
def isWordChar (c : Char) : Bool :=
  "() ANDOR".toList.contains c

/-- The text has a character that none of the words between predicates has. -/
def Wordy (s : String) : Prop :=
  s.toList.all isWordChar = false

instance (s : String) : Decidable (Wordy s) :=
  inferInstanceAs (Decidable (_ = false))

theorem Wordy.right {s t : String} (h : Wordy t) : Wordy (s ++ t) := by
  unfold Wordy at h ⊢
  rw [String.toList_append, List.all_append, h, Bool.and_false]

theorem Wordy.left {s t : String} (h : Wordy s) : Wordy (s ++ t) := by
  unfold Wordy at h ⊢
  rw [String.toList_append, List.all_append, h, Bool.false_and]

theorem Wordy.ne {s t : String} (h : Wordy s) (word : t.toList.all isWordChar = true) : s ≠ t := by
  rintro rfl
  unfold Wordy at h
  rw [word] at h
  cases h

/-- A predicate begins with a text that is no other word. -/
theorem tokenize_wordy {s : String} (wordy : Wordy s) (rest : List Piece) :
    tokenize [] 0 (.text s :: rest) = tokenize [.text s] (depthAfter 0 s.toList) rest := by
  have notOpening : Piece.text s ≠ .text "(" :=
    fun same => wordy.ne (by decide) (Piece.text.inj same)
  have notClosing : Piece.text s ≠ .text ")" :=
    fun same => wordy.ne (by decide) (Piece.text.inj same)
  have notOr : Piece.text s ≠ .text " OR " :=
    fun same => wordy.ne (by decide) (Piece.text.inj same)
  have notAnd : Piece.text s ≠ .text " AND " :=
    fun same => wordy.ne (by decide) (Piece.text.inj same)
  rw [tokenize, if_pos rfl, if_neg (fun h => notOpening h.1), if_neg notClosing, if_neg notOr,
    if_neg (fun h => notAnd h.1)]
  rfl

/-- A value belongs to the predicate that has begun. -/
theorem tokenize_value (predicate : List Piece) (depth : Nat) (v : Value) (cast : Option String)
    (rest : List Piece) : tokenize predicate depth (.value v cast :: rest) =
      tokenize (.value v cast :: predicate) depth rest := by
  have other (s : String) : Piece.value v cast ≠ .text s := fun h => nomatch h
  by_cases ground : depth = 0
  · rw [tokenize, if_pos ground, if_neg (fun h => other _ h.1), if_neg (other _), if_neg (other _),
      if_neg (fun h => other _ h.1), ground]
    rfl
  · rw [tokenize, if_neg ground]
    rfl

theorem tokenize_opening (rest : List Piece) :
    tokenize [] 0 (.text "(" :: rest) = .opening :: tokenize [] 0 rest := by
  rw [tokenize, if_pos rfl, if_pos ⟨rfl, rfl⟩]

theorem tokenize_closing (predicate rest : List Piece) :
    tokenize predicate 0 (.text ")" :: rest) = finished predicate ++ .closing :: tokenize [] 0 rest := by
  rw [tokenize, if_pos rfl, if_neg (fun h => absurd h.1 (by decide)), if_pos rfl]

/-- A conjunction ends a predicate that does not lack a bound. -/
theorem tokenize_conjunction {predicate : List Piece} (whole : awaitsBound predicate = false)
    (conjunction : Conjunction) (rest : List Piece) :
    tokenize predicate 0 (.text (" " ++ conjunction.text ++ " ") :: rest) =
      finished predicate ++ .ofConjunction conjunction :: tokenize [] 0 rest := by
  cases conjunction with
  | and =>
    change tokenize predicate 0 (.text " AND " :: rest) = _
    rw [tokenize, if_pos rfl, if_neg (fun h => absurd h.1 (by decide)), if_neg (by decide),
      if_neg (by decide), if_pos ⟨rfl, whole⟩]
    rfl
  | or =>
    change tokenize predicate 0 (.text " OR " :: rest) = _
    rw [tokenize, if_pos rfl, if_neg (fun h => absurd h.1 (by decide)), if_neg (by decide), if_pos rfl]
    rfl

/-- The AND of a range belongs to it. -/
theorem tokenize_bound {predicate : List Piece} (awaits : awaitsBound predicate = true)
    (rest : List Piece) : tokenize predicate 0 (.text " AND " :: rest) =
      tokenize (.text " AND " :: predicate) 0 rest := by
  have lacks : ¬ awaitsBound predicate = false := by
    rw [awaits]
    decide
  rw [tokenize, if_pos rfl, if_neg (fun h => absurd h.1 (by decide)), if_neg (by decide),
    if_neg (by decide), if_neg (fun h => lacks h.2)]
  rfl

/-- What may follow a predicate: nothing, a conjunction or the end of a group. -/
inductive Boundary : List Piece → Prop where
  | nil : Boundary []
  | conjunction (c : Conjunction) (rest : List Piece) :
    Boundary (.text (" " ++ c.text ++ " ") :: rest)
  | closing (rest : List Piece) : Boundary (.text ")" :: rest)

/-- At a boundary a predicate ends. -/
theorem tokenize_boundary {predicate rest : List Piece} (begun : predicate ≠ [])
    (whole : awaitsBound predicate = false) (boundary : Boundary rest) :
    tokenize predicate 0 rest = .atom predicate.reverse :: tokenize [] 0 rest := by
  have ended : finished predicate = [.atom predicate.reverse] := by
    rw [finished, if_neg (by simpa using begun)]
  cases boundary with
  | nil => exact ended
  | conjunction c rest =>
    rw [tokenize_conjunction whole, tokenize_conjunction rfl, ended]
    rfl
  | closing rest =>
    rw [tokenize_closing, tokenize_closing, ended]
    rfl

/-- The pieces are one predicate: before any boundary they are read as one token. -/
def Whole (pieces : List Piece) : Prop :=
  ∀ rest, Boundary rest → tokenize [] 0 (pieces ++ rest) = .atom pieces :: tokenize [] 0 rest

namespace Whole

variable {s : String}

theorem text (wordy : Wordy s) (level : Level s) : Whole [.text s] := by
  intro rest boundary
  rw [List.singleton_append, tokenize_wordy wordy, level,
    tokenize_boundary (by simp) rfl boundary]
  rfl

/-- A comparison. -/
theorem value (wordy : Wordy s) (level : Level s)
    (compares : " BETWEEN ".toList.isSuffixOf s.toList = false) (v : Value) (cast : Option String) :
    Whole [.text s, .value v cast] := by
  intro rest boundary
  have whole : awaitsBound [.value v cast, .text s] = false := compares
  rw [List.cons_append, List.singleton_append, tokenize_wordy wordy, level, tokenize_value,
    tokenize_boundary (by simp) whole boundary]
  rfl

/-- A range. -/
theorem range (wordy : Wordy s) (level : Level s)
    (ranges : " BETWEEN ".toList.isSuffixOf s.toList = true) (low high : Value)
    (castLow castHigh : Option String) :
    Whole [.text s, .value low castLow, .text " AND ", .value high castHigh] := by
  intro rest boundary
  have awaits : awaitsBound [.value low castLow, .text s] = true := ranges
  have whole : awaitsBound
      [.value high castHigh, .text " AND ", .value low castLow, .text s] = false := by
    change " BETWEEN ".toList.isSuffixOf " AND ".toList = false
    decide
  simp only [List.cons_append, List.nil_append]
  rw [tokenize_wordy wordy, level, tokenize_value, tokenize_bound awaits, tokenize_value,
    tokenize_boundary (by simp) whole boundary]
  rfl

/-- A text that opens a parenthesis, up to where it is closed. -/
theorem parenthesized (wordy : Wordy s) (opens : Opens s) {inner : List Piece}
    (enclosed : Enclosed inner) : Whole (.text s :: inner ++ [.text ")"]) := by
  intro rest boundary
  have inside : Inside 1 (inner ++ [Piece.text ")"]) 0 := .closed enclosed
  have shape : Piece.text s :: inner ++ [Piece.text ")"] ++ rest =
      Piece.text s :: ((inner ++ [Piece.text ")"]) ++ rest) := by simp
  have pieces : ((inner ++ [Piece.text ")"]).reverse ++ [Piece.text s]).reverse =
      Piece.text s :: inner ++ [Piece.text ")"] := by simp
  have ends : (inner ++ [Piece.text ")"]).reverse ++ [Piece.text s] =
      Piece.text ")" :: (inner.reverse ++ [Piece.text s]) := by simp
  have whole : awaitsBound ((inner ++ [Piece.text ")"]).reverse ++ [.text s]) = false := by
    rw [ends]
    rfl
  rw [shape, tokenize_wordy wordy, opens, tokenize_inside inside,
    tokenize_boundary (by simp) whole boundary, pieces]

end Whole

/-- The text of a comparison does not end like that of a range. -/
theorem compares (name : String) (operator : Operator) :
    " BETWEEN ".toList.isSuffixOf (name ++ " " ++ operator.text ++ " ").toList = false := by
  have last : ∃ before c, operator.text.toList = before ++ [c] ∧ c ≠ 'N' := by
    cases operator with
    | eq => exact ⟨[], '=', rfl, by decide⟩
    | ne => exact ⟨['!'], '=', rfl, by decide⟩
    | gt => exact ⟨[], '>', rfl, by decide⟩
    | ge => exact ⟨['>'], '=', rfl, by decide⟩
    | lt => exact ⟨[], '<', rfl, by decide⟩
    | le => exact ⟨['<'], '=', rfl, by decide⟩
    | like => exact ⟨"LIK".toList, 'E', rfl, by decide⟩
    | notLike => exact ⟨"NOT LIK".toList, 'E', rfl, by decide⟩
  obtain ⟨before, c, ends, other⟩ := last
  rw [Bool.eq_false_iff]
  intro suffix
  obtain ⟨start, same⟩ := List.isSuffixOf_iff_suffix.1 suffix
  have lastTwo : (start ++ " BETWEE".toList) ++ ['N', ' '] =
      (name.toList ++ [' '] ++ before) ++ [c, ' '] := by
    rw [String.toList_append, String.toList_append, String.toList_append, ends] at same
    simpa using same
  have letters := (List.append_inj' lastTwo rfl).2
  exact other (List.cons.inj letters).1.symm

theorem ranges (name : String) : " BETWEEN ".toList.isSuffixOf (name ++ " BETWEEN ").toList = true := by
  rw [String.toList_append, List.isSuffixOf_iff_suffix]
  exact List.suffix_append _ _

end Sql

/-- The condition is no group. -/
def Condition.isAtomic : Condition → Bool
  | .group _ => false
  | _ => true

namespace Sql

variable (types : ColumnTypes)

theorem operator_wordy (operator : Operator) : Wordy operator.text := by
  cases operator <;> decide

theorem membership_whole (table : String) (having : Bool) (column : String) (values : List Value)
    {operator empty : String} (written : Level operator) (wordy : Wordy operator)
    (level : Level empty) (wordyEmpty : Wordy empty) :
    Yields Whole (membership types table having column values operator empty) := by
  unfold membership
  split
  · exact .ok (.text wordyEmpty level)
  · refine .bind (columnText_level having column) fun name level => .ok ?_
    have opens : Opens (name ++ " " ++ operator ++ " (") :=
      .of_level ((level.append fun _ => rfl).append written) fun _ => rfl
    exact .parenthesized wordy.right.left opens (values_enclosed types table column values)

theorem relatedText_wordy (negated : Bool) (name column outerTable outerColumn : String) :
    Wordy ((if negated then "NOT " else "") ++ "EXISTS (SELECT 1 FROM " ++ name ++ " WHERE " ++ name ++
      "." ++ column ++ " = " ++ outerTable ++ "." ++ outerColumn) := by
  have start : Wordy ((if negated then "NOT " else "") ++ "EXISTS (SELECT 1 FROM ") := .right (by decide)
  have inner := (((start.left (t := name)).left (t := " WHERE ")).left (t := name)).left (t := ".")
  exact ((((inner.left (t := column)).left (t := " = ")).left (t := outerTable)).left (t := ".")).left

/-- A condition that is no group is written as one predicate. -/
theorem conditionPieces_whole (table : String) (having : Bool) {c : Condition}
    (atomic : c.isAtomic = true) : Yields Whole (conditionPieces types table having c) := by
  cases c with
  | compare column operator value =>
    rw [conditionPieces]
    refine .bind (columnText_level having column) fun name level => .ok ?_
    have text : Level (name ++ " " ++ operator.text ++ " ") :=
      ((level.append fun _ => rfl).append (operator_level operator)).append fun _ => rfl
    -- An AND behind the value is no part of it, for the text is not that of a range.
    exact .value (operator_wordy operator).right.left text (compares name operator) _ _
  | columns first operator second =>
    rw [conditionPieces]
    refine .bind (columnText_level having first) fun left hleft => ?_
    refine .bind (columnText_level having second) fun right hright => .ok (.text ?_ ?_)
    · exact (operator_wordy operator).right.left.left
    · exact (((hleft.append fun _ => rfl).append (operator_level operator)).append
        fun _ => rfl).append hright
  | isIn column values =>
    rw [conditionPieces]
    exact membership_whole types table having column values (fun _ => rfl) (by decide)
      (fun _ => rfl) (by decide)
  | notIn column values =>
    rw [conditionPieces]
    exact membership_whole types table having column values (fun _ => rfl) (by decide)
      (fun _ => rfl) (by decide)
  | isNull column =>
    rw [conditionPieces]
    refine .bind (columnText_level having column) fun name level => .ok (.text ?_ ?_)
    · exact .right (by decide)
    · exact level.append fun _ => rfl
  | notNull column =>
    rw [conditionPieces]
    refine .bind (columnText_level having column) fun name level => .ok (.text ?_ ?_)
    · exact .right (by decide)
    · exact level.append fun _ => rfl
  | between column low high =>
    rw [conditionPieces]
    refine .bind (columnText_level having column) fun name level => .ok ?_
    exact .range (.right (by decide)) (level.append fun _ => rfl) (ranges name) _ _ _ _
  | group tree => cases atomic
  | related negated inner correlation tree =>
    rw [conditionPieces]
    refine .bind (quoteIdentifier_level inner) fun name hname => ?_
    refine .bind (quoteIdentifier_level correlation.inner) fun column hcolumn => ?_
    refine .bind (quoteIdentifier_level correlation.outerTable) fun outerTable htable => ?_
    refine .bind (quoteIdentifier_level correlation.outerColumn) fun outerColumn houter => ?_
    have opens := relatedText_opens negated hname hcolumn htable houter
    have wordy := relatedText_wordy negated name column outerTable outerColumn
    have bare := Whole.parenthesized wordy opens .nil
    dsimp only
    split
    · exact .ok bare
    · refine .bind (treePieces_enclosed types inner false true tree) fun body enclosed => .ok ?_
      have inner : Enclosed (.text " AND (" :: body ++ [.text ")"]) :=
        .parenthesized (fun _ => rfl) enclosed
      simpa using Whole.parenthesized wordy opens inner

/-! ### The words of a tree -/

mutual

/-- The words of a condition: a group stands in parentheses, everything else is a predicate. -/
def conditionTokens : Condition → List (Token Condition)
  | .group tree => .opening :: treeTokens true tree ++ [.closing]
  | c => [.atom c]

/-- The words of a tree, with a conjunction in front of every condition but the first. -/
def treeTokens (first : Bool) : ConditionTree → List (Token Condition)
  | [] => []
  | (conjunction, c) :: rest =>
    (if first then [] else [.ofConjunction conjunction]) ++ conditionTokens c ++ treeTokens false rest

end

theorem conditionTokens_atomic {c : Condition} (atomic : c.isAtomic = true) :
    conditionTokens c = [.atom c] := by
  cases c with
  | group tree => cases atomic
  | _ => rw [conditionTokens]; exact fun _ h => nomatch h

mutual

/-- The predicates among the words are no groups. -/
theorem isAtomic_of_mem_conditionTokens (c : Condition) :
    ∀ a, .atom a ∈ conditionTokens c → a.isAtomic = true := by
  intro a ha
  by_cases atomic : c.isAtomic = true
  · rw [conditionTokens_atomic atomic, List.mem_singleton] at ha
    cases ha
    exact atomic
  · cases c with
    | group tree =>
      rw [conditionTokens] at ha
      have inner : .atom a ∈ treeTokens true tree := by simpa using ha
      exact isAtomic_of_mem_treeTokens true tree a inner
    | _ => exact absurd rfl atomic

theorem isAtomic_of_mem_treeTokens (first : Bool) (tree : ConditionTree) :
    ∀ a, .atom a ∈ treeTokens first tree → a.isAtomic = true := by
  intro a ha
  cases tree with
  | nil =>
    rw [treeTokens] at ha
    cases ha
  | cons node rest =>
    obtain ⟨conjunction, c⟩ := node
    rw [treeTokens, List.append_assoc, List.mem_append, List.mem_append] at ha
    rcases ha with joining | inner | more
    · cases first <;> cases conjunction <;> simp [Token.ofConjunction] at joining
    · exact isAtomic_of_mem_conditionTokens c a inner
    · exact isAtomic_of_mem_treeTokens false rest a more

end

section

variable (table : String) (having : Bool)

/-- The word as it is written: for a predicate its pieces. -/
def Token.spelled : Token Condition → Except Error (Token (List Piece))
  | .atom c => (conditionPieces types table having c).map .atom
  | .and => .ok .and
  | .or => .ok .or
  | .opening => .ok .opening
  | .closing => .ok .closing

theorem Token.spelled_ofConjunction (c : Conjunction) :
    (Token.ofConjunction c).spelled types table having = .ok (.ofConjunction c) := by
  cases c <;> rfl

/-- The pieces are read as the words, before any boundary. -/
def Written (words : List (Token Condition)) (pieces : List Piece) : Prop :=
  ∃ spelled, words.mapM (Token.spelled types table having) = .ok spelled ∧
    ∀ rest, Boundary rest → tokenize [] 0 (pieces ++ rest) = spelled ++ tokenize [] 0 rest

namespace Written

variable {types table having} {words more : List (Token Condition)} {pieces others : List Piece}

theorem nil : Written types table having [] [] :=
  ⟨[], by rw [List.mapM_nil]; rfl, fun _ _ => rfl⟩

theorem predicate {c : Condition} (written : conditionPieces types table having c = .ok pieces)
    (whole : Whole pieces) : Written types table having [.atom c] pieces := by
  refine ⟨[.atom pieces], ?_, whole⟩
  rw [List.mapM_cons, List.mapM_nil, Token.spelled, written]
  rfl

theorem append (first : Written types table having words pieces)
    (goesOn : Written types table having more others)
    (boundary : ∀ rest, Boundary rest → Boundary (others ++ rest)) :
    Written types table having (words ++ more) (pieces ++ others) := by
  obtain ⟨spelled, hspelled, reads⟩ := first
  obtain ⟨spelledMore, hmore, readsMore⟩ := goesOn
  refine ⟨spelled ++ spelledMore, ?_, fun rest hrest => ?_⟩
  · rw [List.mapM_append, hspelled, hmore]
    rfl
  · rw [List.append_assoc, reads _ (boundary rest hrest), readsMore rest hrest, List.append_assoc]

theorem joined (h : Written types table having words pieces) (conjunction : Conjunction) :
    Written types table having (.ofConjunction conjunction :: words)
      (.text (" " ++ conjunction.text ++ " ") :: pieces) := by
  obtain ⟨spelled, hspelled, reads⟩ := h
  refine ⟨.ofConjunction conjunction :: spelled, ?_, fun rest hrest => ?_⟩
  · rw [List.mapM_cons, Token.spelled_ofConjunction, hspelled]
    rfl
  · rw [List.cons_append, tokenize_conjunction rfl, reads rest hrest]
    rfl

theorem group (h : Written types table having words pieces) :
    Written types table having (.opening :: words ++ [.closing])
      (.text "(" :: pieces ++ [.text ")"]) := by
  obtain ⟨spelled, hspelled, reads⟩ := h
  refine ⟨.opening :: spelled ++ [.closing], ?_, fun rest hrest => ?_⟩
  · rw [List.cons_append, List.mapM_cons, List.mapM_append, hspelled, List.mapM_cons, List.mapM_nil]
    rfl
  · have shape : Piece.text "(" :: pieces ++ [Piece.text ")"] ++ rest =
        Piece.text "(" :: (pieces ++ Piece.text ")" :: rest) := by simp
    rw [shape, tokenize_opening, reads _ (.closing rest), tokenize_closing]
    simp [finished]

end Written

/-- What follows the first condition of a tree begins at a boundary. -/
theorem treePieces_boundary (tree : ConditionTree) :
    Yields (fun pieces => ∀ rest, Boundary rest → Boundary (pieces ++ rest))
      (treePieces types table having false tree) := by
  cases tree with
  | nil =>
    rw [treePieces]
    exact .ok fun _ h => h
  | cons node rest =>
    obtain ⟨conjunction, c⟩ := node
    rw [treePieces]
    refine .bind (conditionPieces_enclosed types table having c) fun pieces _ => ?_
    refine .bind (treePieces_enclosed types table having false rest) fun more _ => .ok ?_
    exact fun _ _ => .conjunction conjunction _

mutual

/-- A condition is written as its words. -/
theorem conditionPieces_written (c : Condition) :
    Yields (Written types table having (conditionTokens c)) (conditionPieces types table having c) := by
  by_cases atomic : c.isAtomic = true
  · have whole := conditionPieces_whole types table having atomic
    rw [conditionTokens_atomic atomic]
    cases written : conditionPieces types table having c with
    | error e => rwa [written] at whole
    | ok pieces =>
      rw [written] at whole
      exact .ok (.predicate written whole)
  · cases c with
    | group tree =>
      rw [conditionTokens, conditionPieces]
      exact .bind (treePieces_written true tree) fun pieces inner => .ok inner.group
    | _ => exact absurd rfl atomic

/-- A tree is written as its words. -/
theorem treePieces_written (first : Bool) (tree : ConditionTree) :
    Yields (Written types table having (treeTokens first tree))
      (treePieces types table having first tree) := by
  cases tree with
  | nil =>
    rw [treeTokens, treePieces]
    exact .ok .nil
  | cons node rest =>
    obtain ⟨conjunction, c⟩ := node
    -- The first condition is read as one only because the rest begins at a boundary.
    have remainder := (treePieces_written false rest).and (treePieces_boundary types table having rest)
    rw [treeTokens, treePieces]
    refine .bind (conditionPieces_written c) fun pieces written => ?_
    refine .bind remainder fun more ⟨writtenMore, boundary⟩ => .ok ?_
    have both := written.append writtenMore boundary
    cases first with
    | true => exact both
    | false => exact both.joined conjunction

end

end

end Sql

end EntityStore
