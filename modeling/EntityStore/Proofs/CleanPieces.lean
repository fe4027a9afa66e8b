import EntityStore.Proofs.Quoting

/-!
# What rendered statements are made of

Whatever names a statement carries, it is refused or its pieces are clean: their texts and casts are
written in a small alphabet, they hold no placeholder, and none goes on with the number of a
placeholder before it (`Sql.statementPieces_clean`).
-/

namespace EntityStore.Sql

theorem pieceValues_append (a b : List Piece) :
    pieceValues (a ++ b) = pieceValues a ++ pieceValues b := by
  induction a with
  | nil => rfl
  | cons piece a ih =>
    cases piece with
    | text s => exact ih
    | value v cast => exact congrArg (v :: ·) ih

/-- Pieces behind others go on with the numbers. -/
theorem pieceText_append (next : Nat) (a b : List Piece) :
    pieceText next (a ++ b) =
      pieceText next a ++ pieceText (next + (pieceValues a).length) b := by
  induction a generalizing next with
  | nil => simp [pieceText, pieceValues]
  | cons piece a ih =>
    cases piece with
    | text s => simp only [List.cons_append, pieceText, pieceValues, ih, String.append_assoc]
    | value v cast =>
      simp only [List.cons_append, pieceText, pieceValues, ih, String.append_assoc,
        List.length_cons]
      rw [Nat.add_right_comm, Nat.add_assoc]

/-- The characters of rendered statements. -/
def isSafe (c : Char) : Bool :=
  c.isAlphanum ||
    [' ', '_', '.', ',', '(', ')', '*', '=', '<', '>', '!', '$', ':', '"'].contains c

section

variable {P : String → Prop} {texts : List String} (empty : P "")
  (append : ∀ {s t : String}, P s → P t → P (s ++ t))

include empty append

/-- What texts and the separator have, and appending keeps, the separated texts have. -/
theorem intercalate_closed {separator : String} (between : P separator) (h : ∀ s ∈ texts, P s) :
    P (separator.intercalate texts) := by
  induction texts with
  | nil =>
    rw [String.intercalate_nil]
    exact empty
  | cons first rest ih =>
    have start := h first List.mem_cons_self
    cases rest with
    | nil =>
      rw [String.intercalate_singleton]
      exact start
    | cons second rest =>
      rw [String.intercalate_cons_cons]
      exact append (append start between) (ih fun s hs => h s (List.mem_cons_of_mem _ hs))

theorem join_closed (h : ∀ s ∈ texts, P s) : P (String.join texts) := by
  induction texts with
  | nil =>
    rw [String.join_nil]
    exact empty
  | cons first rest ih =>
    rw [String.join_cons]
    exact append (h first List.mem_cons_self) (ih fun s hs => h s (List.mem_cons_of_mem _ hs))

end

/-- The same of pieces with a text between. -/
theorem separated_closed {P : List Piece → Prop} (empty : P [])
    (append : ∀ {a b : List Piece}, P a → P b → P (a ++ b)) {separator : String}
    {parts : List (List Piece)} (between : P [.text separator]) (h : ∀ pieces ∈ parts, P pieces) :
    P (separated separator parts) := by
  induction parts with
  | nil => exact empty
  | cons first rest ih =>
    have start := h first List.mem_cons_self
    cases rest with
    | nil => exact start
    | cons second rest =>
      have goesOn := ih fun pieces hp => h pieces (List.mem_cons_of_mem _ hp)
      exact append start (append between goesOn)

/-- A text that holds no placeholder, and does not go on with the number of one before it. -/
structure Inert (s : String) : Prop where
  chars : ∀ c ∈ s.toList, isSafe c = true ∧ c ≠ '$'
  head : Undigited s.toList

instance (s : String) : Decidable (Inert s) :=
  decidable_of_iff
    (s.toList.all (fun c => isSafe c && c != '$') = true ∧ Undigited s.toList)
    ⟨fun h => ⟨by simpa using h.1, h.2⟩, fun h => ⟨by simpa using h.chars, h.head⟩⟩

namespace Inert

variable {s t : String}

theorem append (first : Inert s) (rest : Inert t) : Inert (s ++ t) where
  chars c hc := by
    rw [String.toList_append] at hc
    exact (List.mem_append.1 hc).elim (first.chars c) (rest.chars c)
  head := by
    rw [String.toList_append]
    exact first.head.append rest.head

/-- What is written as a name holds no placeholder. -/
theorem of_name (h : Name s.toList) : Inert s where
  chars c hc := by
    have nameChar := h.chars c hc
    unfold isNameChar at nameChar
    rcases Bool.or_eq_true_iff.1 nameChar with letter | mark
    · refine ⟨by rw [isSafe, letter, Bool.true_or], ?_⟩
      rintro rfl
      exact absurd letter (by decide)
    · have marks : ['_', '.', '*', '"', ' '].all (fun d => isSafe d && d != '$') = true := by decide
      simpa using List.all_eq_true.1 marks c (List.contains_iff_mem.1 mark)
  head := h.head

/-- A number may follow a text. -/
theorem append_number (first : Inert s) (nonempty : s ≠ "") (n : Nat) : Inert (s ++ toString n) where
  chars c hc := by
    rw [String.toList_append] at hc
    rcases List.mem_append.1 hc with hc | hc
    · exact first.chars c hc
    · rw [Nat.toString_eq_repr, Nat.toList_repr] at hc
      have digit := Nat.isDigit_of_mem_toDigits (by decide) (by decide) hc
      refine ⟨by simp [isSafe, Char.isAlphanum, digit], ?_⟩
      rintro rfl
      exact absurd digit (by decide)
  head := by
    rw [String.toList_append]
    have head := first.head
    cases chars : s.toList with
    | nil => exact absurd (String.toList_eq_nil_iff.1 chars) nonempty
    | cons c rest =>
      rw [chars] at head
      exact head

theorem intercalate {separator : String} {texts : List String} (between : Inert separator)
    (h : ∀ s ∈ texts, Inert s) : Inert (separator.intercalate texts) :=
  intercalate_closed (by decide) .append between h

theorem join {texts : List String} (h : ∀ s ∈ texts, Inert s) : Inert (String.join texts) :=
  join_closed (by decide) .append h

end Inert

/-- Texts and casts hold no placeholder. -/
def Piece.Clean : Piece → Prop
  | .text s => Inert s
  | .value _ cast => ∀ type ∈ cast, Inert type

theorem Piece.Clean.text {s : String} (h : Inert s) : (Piece.text s).Clean := h

/-- Every piece is clean. -/
def Clean (pieces : List Piece) : Prop :=
  ∀ piece ∈ pieces, piece.Clean

namespace Clean

variable {first rest : List Piece} {s : String}

theorem nil : Clean [] := fun _ h => nomatch h

theorem cons {piece : Piece} (head : piece.Clean) (tail : Clean rest) : Clean (piece :: rest) :=
  List.forall_mem_cons.2 ⟨head, tail⟩

theorem append (start : Clean first) (goesOn : Clean rest) : Clean (first ++ rest) :=
  List.forall_mem_append.2 ⟨start, goesOn⟩

theorem text (h : Inert s) : Clean [.text s] := cons (.text h) nil

theorem separated {separator : String} {parts : List (List Piece)} (between : Inert separator)
    (h : ∀ pieces ∈ parts, Clean pieces) : Clean (Sql.separated separator parts) :=
  separated_closed nil append (text between) h

end Clean

/-- A placeholder is cast to the name of the type of its column. -/
theorem typeName?_of_castOf? {type : FieldType} {v : Value} {cast : String}
    (h : cast ∈ castOf? type v) : cast ∈ typeName? type := by
  cases v with
  | null => exact h
  | text s => cases type <;> first | exact h | cases h
  | _ => cases h

variable (types : ColumnTypes) (table : String) (having : Bool)

theorem bind_clean (column : String) (v : Value) : (bind types table column v).Clean := by
  intro cast hcast
  obtain ⟨type, _, hcast⟩ := Option.bind_eq_some_iff.1 hcast
  have named : ∀ name ∈ typeName? type, Inert name := by
    cases type <;> decide
  exact named cast (typeName?_of_castOf? hcast)

theorem quoteIdentifier_inert (identifier : String) : Yields Inert (quoteIdentifier identifier) :=
  (quoteIdentifier_name identifier).mono fun _ h => .of_name h

theorem quoteAll_inert (names : List String) :
    Yields (fun quoted => ∀ s ∈ quoted, Inert s) (quoteAll names) :=
  .mapM fun name _ => quoteIdentifier_inert name

theorem columnText_inert (column : String) : Yields Inert (columnText having column) := by
  unfold columnText
  split
  · exact .ok (by decide)
  · exact quoteIdentifier_inert column

theorem operator_inert (operator : Operator) : Inert operator.text := by
  cases operator <;> decide

theorem membership_clean (column : String) (values : List Value) {operator empty : String}
    (written : Inert operator) (none : Inert empty) :
    Yields Clean (membership types table having column values operator empty) := by
  unfold membership
  split
  · exact .ok (.text none)
  · refine .bind (columnText_inert having column) fun name named => .ok ?_
    have start : Inert (name ++ " " ++ operator ++ " (") :=
      ((named.append (by decide)).append written).append (by decide)
    refine (Clean.cons (.text start) (.separated (by decide) ?_)).append (.text (by decide))
    intro pieces hp
    obtain ⟨v, _, rfl⟩ := List.mem_map.1 hp
    exact .cons (bind_clean types table column v) .nil

mutual

/-- A condition is refused, or its pieces are clean. -/
theorem conditionPieces_clean (table : String) (having : Bool) (c : Condition) :
    Yields Clean (conditionPieces types table having c) := by
  cases c with
  | compare column operator value =>
    rw [conditionPieces]
    refine .bind (columnText_inert having column) fun name named => .ok ?_
    have text : Inert (name ++ " " ++ operator.text ++ " ") :=
      ((named.append (by decide)).append (operator_inert operator)).append (by decide)
    exact .cons (.text text) (.cons (bind_clean types table column value) .nil)
  | columns first operator second =>
    rw [conditionPieces]
    refine .bind (columnText_inert having first) fun left hleft => ?_
    refine .bind (columnText_inert having second) fun right hright => .ok (.text ?_)
    exact (((hleft.append (by decide)).append (operator_inert operator)).append (by decide)).append
      hright
  | isIn column values =>
    rw [conditionPieces]
    exact membership_clean types table having column values (by decide) (by decide)
  | notIn column values =>
    rw [conditionPieces]
    exact membership_clean types table having column values (by decide) (by decide)
  | isNull column =>
    rw [conditionPieces]
    refine .bind (columnText_inert having column) fun name named => .ok (.text ?_)
    exact named.append (by decide)
  | notNull column =>
    rw [conditionPieces]
    refine .bind (columnText_inert having column) fun name named => .ok (.text ?_)
    exact named.append (by decide)
  | between column low high =>
    rw [conditionPieces]
    refine .bind (columnText_inert having column) fun name named => .ok ?_
    exact .cons (.text (named.append (by decide))) (.cons (bind_clean types table column low)
      (.cons (.text (by decide)) (.cons (bind_clean types table column high) .nil)))
  | group tree =>
    rw [conditionPieces]
    refine .bind (treePieces_clean table having true tree) fun inner clean => .ok ?_
    exact (Clean.cons (.text (by decide)) clean).append (.text (by decide))
  | related negated inner correlation tree =>
    rw [conditionPieces]
    refine .bind (quoteIdentifier_inert inner) fun name named => ?_
    refine .bind (quoteIdentifier_inert correlation.inner) fun column hcolumn => ?_
    refine .bind (quoteIdentifier_inert correlation.outerTable) fun outer houter => ?_
    refine .bind (quoteIdentifier_inert correlation.outerColumn) fun outerColumn houterColumn => ?_
    have negation : Inert (if negated then "NOT " else "") := by
      cases negated <;> decide
    have inside : Inert ((if negated then "NOT " else "") ++ "EXISTS (SELECT 1 FROM " ++ name ++
        " WHERE " ++ name ++ "." ++ column) :=
      (((((negation.append (by decide)).append named).append (by decide)).append named).append
        (by decide)).append hcolumn
    have head := (((inside.append (t := " = ") (by decide)).append houter).append
      (t := ".") (by decide)).append houterColumn
    dsimp only
    split
    · exact .ok (.cons (.text head) (.text (by decide)))
    · refine .bind (treePieces_clean inner false true tree) fun body clean => .ok ?_
      exact .cons (.text head) (.cons (.text (by decide))
        (clean.append (.cons (.text (by decide)) (.text (by decide)))))

/-- A tree is refused, or its pieces are clean. -/
theorem treePieces_clean (table : String) (having first : Bool) (tree : ConditionTree) :
    Yields Clean (treePieces types table having first tree) := by
  cases tree with
  | nil =>
    rw [treePieces]
    exact .ok .nil
  | cons node rest =>
    obtain ⟨conjunction, c⟩ := node
    rw [treePieces]
    refine .bind (conditionPieces_clean table having c) fun pieces clean => ?_
    refine .bind (treePieces_clean table having false rest) fun more cleanMore => .ok ?_
    have joining : Clean (if first then [] else [.text (" " ++ conjunction.text ++ " ")]) := by
      split
      · exact .nil
      · refine .text ?_
        cases conjunction <;> decide
    exact (joining.append clean).append cleanMore

end

theorem clause_clean (tree : ConditionTree) {word : String} (written : Inert word) :
    Yields Clean (clause types table having word tree) := by
  unfold clause
  split
  · exact .ok .nil
  · refine .bind (treePieces_clean types table having true tree) fun pieces clean => .ok ?_
    have opening : Inert (" " ++ word ++ " ") := (Inert.append (by decide) written).append (by decide)
    exact .cons (.text opening) clean

/-- Names with commas between them. -/
theorem list_inert {names : List String} (h : ∀ s ∈ names, Inert s) :
    Inert (", ".intercalate names) :=
  .intercalate (by decide) h

theorem projectionText_inert (statement : Select) {table : String} (named : Inert table) :
    Yields Inert (projectionText statement table) := by
  unfold projectionText
  split
  · split
    · exact .ok (named.append (by decide))
    · refine .bind (quoteAll_inert statement.groupBy) fun columns hcolumns => .ok (list_inert ?_)
      exact List.forall_mem_append.2 ⟨hcolumns, List.forall_mem_singleton.2 (by decide)⟩
  · next names _ =>
    exact .bind (quoteAll_inert names) fun columns hcolumns => .ok (list_inert hcolumns)
  · next function column _ =>
    have word : Inert function.text := by cases function <;> decide
    have aggregate {target : String} (h : Inert target) :
        Inert (function.text ++ "(" ++ target ++ ") AS " ++ aggregateAlias) :=
      (((word.append (by decide)).append h).append (by decide)).append (by decide)
    dsimp only
    split
    · exact .ok (aggregate (by decide))
    · exact .bind (quoteIdentifier_inert _) fun target h => .ok (aggregate h)
    · rfl

theorem joinText_inert (join : Join) : Yields Inert (joinText join) := by
  unfold joinText
  refine .bind (quoteIdentifier_inert join.table) fun table htable => ?_
  refine .bind (quoteIdentifier_inert join.first) fun first hfirst => ?_
  refine .bind (quoteIdentifier_inert join.second) fun second hsecond => .ok ?_
  have kind : Inert (" " ++ join.kind.text ++ " ") := by
    cases join.kind <;> decide
  exact ((((kind.append htable).append (by decide)).append hfirst).append (by decide)).append hsecond

theorem orderText_inert (order : Order) : Yields Inert (orderText order) := by
  cases order with
  | random => exact .ok (by decide)
  | column name direction =>
    refine .map (quoteIdentifier_inert name) fun name named => ?_
    have direction : Inert (" " ++ direction.text) := by
      cases direction <;> decide
    rw [String.append_assoc]
    exact named.append direction

theorem groupPieces_clean (statement : Select) : Yields Clean (groupPieces types statement) := by
  unfold groupPieces
  split
  · exact .ok .nil
  · refine .bind (quoteAll_inert statement.groupBy) fun columns hcolumns => ?_
    refine .bind (clause_clean types statement.table true statement.having (by decide))
      fun having clean => .ok ?_
    exact .cons (.text (Inert.append (by decide) (list_inert hcolumns))) clean

theorem orderPieces_clean (orders : List Order) : Yields Clean (orderPieces orders) := by
  unfold orderPieces
  split
  · exact .ok .nil
  · refine .bind (.mapM fun order _ => orderText_inert order) fun clauses h => .ok (.text ?_)
    exact Inert.append (by decide) (list_inert h)

theorem windowPieces_clean {word : String} (written : Inert word) (n : Option Nat) :
    Clean (windowPieces word n) := by
  cases n with
  | none => exact .nil
  | some n =>
    have opening : Inert (" " ++ word ++ " ") := (Inert.append (by decide) written).append (by decide)
    exact .text (opening.append_number (by simp) n)

theorem selectPieces_clean (statement : Select) : Yields Clean (selectPieces types statement) := by
  unfold selectPieces
  refine .bind (quoteIdentifier_inert statement.table) fun table named => ?_
  refine .bind (projectionText_inert statement named) fun projection hprojection => ?_
  refine .bind (.mapM fun join _ => joinText_inert join) fun joins hjoins => ?_
  refine .bind (clause_clean types statement.table false statement.conditions (by decide))
    fun conditions cleanConditions => ?_
  refine .bind (groupPieces_clean types statement) fun groups cleanGroups => ?_
  refine .bind (orderPieces_clean statement.orderBy) fun orders cleanOrders => .ok ?_
  have opening : Inert (if statement.distinct then "SELECT DISTINCT " else "SELECT ") := by
    cases statement.distinct <;> decide
  have head := (((opening.append hprojection).append (t := " FROM ") (by decide)).append
    named).append (Inert.join hjoins)
  exact ((((Clean.cons (.text head) cleanConditions).append cleanGroups).append cleanOrders).append
    (windowPieces_clean (by decide) _)).append (windowPieces_clean (by decide) _)

theorem rowPieces_clean (columns : List String) (row : Row) :
    Clean (rowPieces types table columns row) := by
  unfold rowPieces
  refine (Clean.cons (.text (by decide)) (.separated (by decide) ?_)).append (.text (by decide))
  intro pieces hp
  obtain ⟨column, _, rfl⟩ := List.mem_map.1 hp
  split
  · exact .cons (bind_clean types table column _) .nil
  · exact .text (by decide)

theorem insertPieces_clean (statement : Insert) : Yields Clean (insertPieces types statement) := by
  unfold insertPieces
  refine .bind (quoteIdentifier_inert statement.table) fun table named => ?_
  refine .bind (quoteIdentifier_inert statement.returning) fun returning hreturning => ?_
  refine .bind (quoteAll_inert _) fun columns hcolumns => ?_
  have opening : Inert ("INSERT INTO " ++ table) := Inert.append (by decide) named
  split
  · exact .ok (.text (((opening.append (by decide)).append hreturning).append (by decide)))
  · have head := ((opening.append (t := " (") (by decide)).append (list_inert hcolumns)).append
      (t := ") VALUES ") (by decide)
    have last := ((Inert.append (s := " RETURNING (") (by decide) hreturning).append
      (t := ")::bigint") (by decide))
    refine .ok ((Clean.cons (.text head) (.separated (by decide) ?_)).append (.text last))
    intro pieces hp
    obtain ⟨row, _, rfl⟩ := List.mem_map.1 hp
    exact rowPieces_clean types statement.table _ row

theorem assignmentPieces_clean (field : String × Value) :
    Yields Clean (assignmentPieces types table field) := by
  unfold assignmentPieces
  refine .bind (quoteIdentifier_inert field.1) fun column named => .ok ?_
  exact .cons (.text (named.append (by decide))) (.cons (bind_clean types table _ _) .nil)

theorem updatePieces_clean (statement : Update) : Yields Clean (updatePieces types statement) := by
  unfold updatePieces
  refine .bind (quoteIdentifier_inert statement.table) fun table named => ?_
  refine .bind (.mapM fun field _ => assignmentPieces_clean types statement.table field)
    fun assignments clean => ?_
  refine .bind (clause_clean types statement.table false statement.conditions (by decide))
    fun conditions cleanConditions => .ok ?_
  have head : Inert ("UPDATE " ++ table ++ " SET ") :=
    (Inert.append (by decide) named).append (by decide)
  exact (Clean.cons (.text head) (.separated (by decide) clean)).append cleanConditions

theorem deletePieces_clean (statement : Delete) : Yields Clean (deletePieces types statement) := by
  unfold deletePieces
  refine .bind (quoteIdentifier_inert statement.table) fun table named => ?_
  refine .bind (clause_clean types statement.table false statement.conditions (by decide))
    fun conditions clean => .ok ?_
  exact .cons (.text (Inert.append (by decide) named)) clean

/-- A statement is refused, or its pieces are clean. -/
theorem statementPieces_clean (statement : Statement) :
    Yields Clean (statementPieces types statement) := by
  cases statement with
  | select s => exact selectPieces_clean types s
  | write w =>
    cases w with
    | insert s => exact insertPieces_clean types s
    | update s => exact updatePieces_clean types s
    | delete s => exact deletePieces_clean types s

end EntityStore.Sql
