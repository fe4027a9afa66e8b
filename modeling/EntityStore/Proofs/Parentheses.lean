import EntityStore.Proofs.CleanPieces

/-!
# Words of rendered conditions

Read as a boolean expression, a rendered condition tree is a row of predicates, conjunctions and
parentheses. The pieces of the rendering are its words. What stands inside the parentheses of a
predicate belongs to it, and so does the AND before the upper bound of a range (`Sql.tokenize`). Names
hold no parentheses, so those of a subquery lead back to where they began
(`Sql.treePieces_enclosed`).
-/

namespace EntityStore

namespace Sql

/-- A word of a boolean expression, whose predicates are given as `α`. -/
inductive Token (α : Type) where
  | atom (a : α)
  | and
  | or
  | opening
  | closing
deriving DecidableEq, Repr

namespace Token

variable {α β : Type}

def map (f : α → β) : Token α → Token β
  | .atom a => .atom (f a)
  | .and => .and
  | .or => .or
  | .opening => .opening
  | .closing => .closing

/-- The word of a conjunction. -/
def ofConjunction : Conjunction → Token α
  | .and => .and
  | .or => .or

end Token

/-- The number of open parentheses after a text. -/
def depthAfter (depth : Nat) : List Char → Nat
  | [] => depth
  | c :: rest =>
    if c = '(' then depthAfter (depth + 1) rest
    else if c = ')' then depthAfter (depth - 1) rest
    else depthAfter depth rest

/-- The number of open parentheses after a piece. -/
def Piece.depthAfter (depth : Nat) : Piece → Nat
  | .text s => Sql.depthAfter depth s.toList
  | .value _ _ => depth

/-- A predicate, its pieces in reverse, is a range that still lacks its upper bound. -/
def awaitsBound : List Piece → Bool
  | .value _ _ :: .text s :: _ => " BETWEEN ".toList.isSuffixOf s.toList
  | _ => false

/-- The token of a predicate, its pieces in reverse; none where no predicate has begun. -/
def finished (pieces : List Piece) : List (Token (List Piece)) :=
  if pieces.isEmpty then [] else [.atom pieces.reverse]

/-- The tokens of the rest of an expression. `predicate` are the pieces, in reverse, of the predicate
that has begun, and `depth` is the number of its open parentheses. -/
def tokenize (predicate : List Piece) (depth : Nat) : List Piece → List (Token (List Piece))
  | [] => finished predicate
  | piece :: rest =>
    if depth = 0 then
      if piece = .text "(" ∧ predicate = [] then .opening :: tokenize [] 0 rest
      else if piece = .text ")" then finished predicate ++ .closing :: tokenize [] 0 rest
      else if piece = .text " OR " then finished predicate ++ .or :: tokenize [] 0 rest
      else if piece = .text " AND " ∧ awaitsBound predicate = false then
        finished predicate ++ .and :: tokenize [] 0 rest
      else tokenize (piece :: predicate) (piece.depthAfter 0) rest
    else tokenize (piece :: predicate) (piece.depthAfter depth) rest

/-! ### Parentheses -/

theorem depthAfter_append (depth : Nat) (a b : List Char) :
    depthAfter depth (a ++ b) = depthAfter (depthAfter depth a) b := by
  induction a generalizing depth with
  | nil => rfl
  | cons c a ih =>
    rw [List.cons_append, depthAfter, depthAfter, ih, ih, ih]
    split
    · rfl
    · split <;> rfl

/-- The text opens as many parentheses as it closes. -/
def Level (s : String) : Prop :=
  ∀ depth, depthAfter depth s.toList = depth

theorem Level.append {s t : String} (first : Level s) (rest : Level t) : Level (s ++ t) := by
  intro depth
  rw [String.toList_append, depthAfter_append, first, rest]

/-- Names hold no parentheses. -/
theorem Level.of_name {s : String} (h : Name s.toList) : Level s := by
  have chars := h.chars
  intro depth
  generalize s.toList = cs at chars
  induction cs with
  | nil => rfl
  | cons c rest ih =>
    have nameChar := chars c List.mem_cons_self
    have notOpening : c ≠ '(' := by
      rintro rfl
      exact absurd nameChar (by decide)
    have notClosing : c ≠ ')' := by
      rintro rfl
      exact absurd nameChar (by decide)
    rw [depthAfter, if_neg notOpening, if_neg notClosing]
    exact ih fun d hd => chars d (List.mem_cons_of_mem _ hd)

/-- From one depth the pieces lead to the other, and each of them stands inside parentheses. -/
def Inside (depth : Nat) : List Piece → Nat → Prop
  | [], last => depth = last
  | piece :: rest, last => 0 < depth ∧ Inside (piece.depthAfter depth) rest last

theorem Inside.append {first last : Nat} {a b : List Piece} {middle : Nat}
    (start : Inside first a middle) (goesOn : Inside middle b last) : Inside first (a ++ b) last := by
  induction a generalizing first with
  | nil =>
    cases start
    exact goesOn
  | cons piece a ih => exact ⟨start.1, ih start.2⟩

/-- Inside a predicate everything belongs to it. -/
theorem tokenize_inside {first last : Nat} {pieces : List Piece} (inside : Inside first pieces last)
    (predicate rest : List Piece) :
    tokenize predicate first (pieces ++ rest) = tokenize (pieces.reverse ++ predicate) last rest := by
  induction pieces generalizing first predicate with
  | nil =>
    cases inside
    rfl
  | cons piece pieces ih =>
    have deep : first ≠ 0 := Nat.ne_of_gt inside.1
    rw [List.cons_append, tokenize, if_neg deep, ih inside.2, List.reverse_cons, List.append_assoc]
    rfl

/-- Wherever they stand inside parentheses, the pieces stay there and lead back to the same depth. -/
def Enclosed (pieces : List Piece) : Prop :=
  ∀ depth, 0 < depth → Inside depth pieces depth

namespace Enclosed

variable {a b : List Piece} {s : String}

theorem nil : Enclosed [] := fun _ _ => rfl

theorem append (first : Enclosed a) (rest : Enclosed b) : Enclosed (a ++ b) :=
  fun depth inside => (first depth inside).append (rest depth inside)

theorem value (v : Value) (cast : Option String) : Enclosed [.value v cast] :=
  fun _ inside => ⟨inside, rfl⟩

theorem text (level : Level s) : Enclosed [.text s] :=
  fun depth inside => ⟨inside, level depth⟩

theorem separated {separator : String} {parts : List (List Piece)} (between : Level separator)
    (h : ∀ pieces ∈ parts, Enclosed pieces) : Enclosed (Sql.separated separator parts) :=
  separated_closed nil append (text between) h

end Enclosed

/-- The text opens one parenthesis more than it closes. -/
def Opens (s : String) : Prop :=
  ∀ depth, depthAfter depth s.toList = depth + 1

theorem Opens.of_level {s t : String} (first : Level s) (rest : Opens t) : Opens (s ++ t) := by
  intro depth
  rw [String.toList_append, depthAfter_append, first, rest]

theorem Opens.append {s t : String} (first : Opens s) (rest : Level t) : Opens (s ++ t) := by
  intro depth
  rw [String.toList_append, depthAfter_append, first, rest]

/-- Pieces between a text that opens a parenthesis and one that closes it. -/
theorem Inside.closed {a : List Piece} {depth : Nat} (enclosed : Enclosed a) :
    Inside (depth + 1) (a ++ [.text ")"]) depth :=
  (enclosed (depth + 1) (Nat.succ_pos _)).append ⟨Nat.succ_pos _, rfl⟩

theorem Enclosed.parenthesized {s : String} {a : List Piece} (opens : Opens s) (enclosed : Enclosed a) :
    Enclosed (.text s :: a ++ [.text ")"]) := by
  intro depth inside
  refine ⟨inside, ?_⟩
  change Inside (depthAfter depth s.toList) (a ++ [.text ")"]) depth
  rw [opens]
  exact .closed enclosed

theorem quoteIdentifier_level (identifier : String) : Yields Level (quoteIdentifier identifier) :=
  (quoteIdentifier_name identifier).mono fun _ h => .of_name h

theorem columnText_level (having : Bool) (column : String) : Yields Level (columnText having column) := by
  unfold columnText
  split
  · exact .ok fun _ => rfl
  · exact quoteIdentifier_level column

theorem operator_level (operator : Operator) : Level operator.text := by
  cases operator <;> exact fun _ => rfl

variable (types : ColumnTypes)

/-- The head of a predicate on another table. -/
theorem relatedText_opens (negated : Bool) {name column outerTable outerColumn : String}
    (hname : Level name) (hcolumn : Level column) (htable : Level outerTable)
    (houter : Level outerColumn) :
    Opens ((if negated then "NOT " else "") ++ "EXISTS (SELECT 1 FROM " ++ name ++ " WHERE " ++ name ++
      "." ++ column ++ " = " ++ outerTable ++ "." ++ outerColumn) := by
  have negation : Level (if negated then "NOT " else "") := by
    cases negated <;> exact fun _ => rfl
  have start : Opens ((if negated then "NOT " else "") ++ "EXISTS (SELECT 1 FROM ") :=
    .of_level negation fun _ => rfl
  have inner := ((((start.append hname).append (t := " WHERE ") fun _ => rfl).append hname).append
    (t := ".") fun _ => rfl).append hcolumn
  exact (((inner.append (t := " = ") fun _ => rfl).append htable).append
    (t := ".") fun _ => rfl).append houter

theorem values_enclosed (table column : String) (values : List Value) :
    Enclosed (separated ", " (values.map fun v => [bind types table column v])) := by
  refine .separated (fun _ => rfl) fun pieces hp => ?_
  obtain ⟨v, _, rfl⟩ := List.mem_map.1 hp
  exact .value _ _

theorem membership_enclosed (table : String) (having : Bool) (column : String) (values : List Value)
    {operator empty : String} (written : Level operator) (none : Level empty) :
    Yields Enclosed (membership types table having column values operator empty) := by
  unfold membership
  split
  · exact .ok (.text none)
  · refine .bind (columnText_level having column) fun name level => .ok ?_
    have start : Opens (name ++ " " ++ operator ++ " (") :=
      .of_level ((level.append fun _ => rfl).append written) fun _ => rfl
    exact .parenthesized start (values_enclosed types table column values)

mutual

/-- Inside parentheses a condition stays there. -/
theorem conditionPieces_enclosed (table : String) (having : Bool) (c : Condition) :
    Yields Enclosed (conditionPieces types table having c) := by
  cases c with
  | compare column operator value =>
    rw [conditionPieces]
    refine .bind (columnText_level having column) fun name level => .ok ?_
    have text : Level (name ++ " " ++ operator.text ++ " ") :=
      ((level.append fun _ => rfl).append (operator_level operator)).append fun _ => rfl
    exact (Enclosed.text text).append (.value _ _)
  | columns first operator second =>
    rw [conditionPieces]
    refine .bind (columnText_level having first) fun left hleft => ?_
    refine .bind (columnText_level having second) fun right hright => .ok (.text ?_)
    exact (((hleft.append fun _ => rfl).append (operator_level operator)).append fun _ => rfl).append
      hright
  | isIn column values =>
    rw [conditionPieces]
    exact membership_enclosed types table having column values (fun _ => rfl) fun _ => rfl
  | notIn column values =>
    rw [conditionPieces]
    exact membership_enclosed types table having column values (fun _ => rfl) fun _ => rfl
  | isNull column =>
    rw [conditionPieces]
    refine .bind (columnText_level having column) fun name level => .ok (.text ?_)
    exact level.append fun _ => rfl
  | notNull column =>
    rw [conditionPieces]
    refine .bind (columnText_level having column) fun name level => .ok (.text ?_)
    exact level.append fun _ => rfl
  | between column low high =>
    rw [conditionPieces]
    refine .bind (columnText_level having column) fun name level => .ok ?_
    have text : Enclosed [.text (name ++ " BETWEEN ")] := .text (level.append fun _ => rfl)
    have and : Enclosed [.text " AND "] := .text fun _ => rfl
    exact text.append ((Enclosed.value _ _).append (and.append (.value _ _)))
  | group tree =>
    rw [conditionPieces]
    refine .bind (treePieces_enclosed table having true tree) fun inner enclosed => .ok ?_
    exact .parenthesized (fun _ => rfl) enclosed
  | related negated inner correlation tree =>
    rw [conditionPieces]
    refine .bind (quoteIdentifier_level inner) fun name hname => ?_
    refine .bind (quoteIdentifier_level correlation.inner) fun column hcolumn => ?_
    refine .bind (quoteIdentifier_level correlation.outerTable) fun outerTable htable => ?_
    refine .bind (quoteIdentifier_level correlation.outerColumn) fun outerColumn houter => ?_
    -- The head leaves one parenthesis open, which the last piece closes.
    have opens := relatedText_opens negated hname hcolumn htable houter
    dsimp only
    split
    · exact .ok (.parenthesized opens .nil)
    · refine .bind (treePieces_enclosed inner false true tree) fun body enclosed => .ok ?_
      have inner : Enclosed (.text " AND (" :: body ++ [.text ")"]) :=
        .parenthesized (fun _ => rfl) enclosed
      simpa using Enclosed.parenthesized opens inner

/-- Inside parentheses a tree stays there. -/
theorem treePieces_enclosed (table : String) (having first : Bool) (tree : ConditionTree) :
    Yields Enclosed (treePieces types table having first tree) := by
  cases tree with
  | nil =>
    rw [treePieces]
    exact .ok .nil
  | cons node rest =>
    obtain ⟨conjunction, c⟩ := node
    rw [treePieces]
    refine .bind (conditionPieces_enclosed table having c) fun pieces enclosed => ?_
    refine .bind (treePieces_enclosed table having false rest) fun more enclosedMore => .ok ?_
    have joining : Enclosed (if first then [] else [.text (" " ++ conjunction.text ++ " ")]) := by
      split
      · exact .nil
      · refine .text ?_
        cases conjunction <;> exact fun _ => rfl
    exact (joining.append enclosed).append enclosedMore

end

end Sql

end EntityStore
