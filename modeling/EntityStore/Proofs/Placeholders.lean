import EntityStore.Proofs.CleanPieces

/-!
# Placeholders of rendered statements

The SQL of a statement is made of the characters of `Sql.isSafe`, and the placeholders in it are
numbered from left to right, one for each parameter (`Sql.Aligned`). The values of a statement decide
nothing but by their sorts (`Sql.statementPieces_blanked`). Main result: `Sql.render_aligned`.
-/

namespace EntityStore

/-- The plainest value of the same sort. -/
def Value.blank : Value → Value
  | .null => .null
  | .bool _ => .bool false
  | .number _ => .int 0
  | .text _ => .text ""
  | .list _ => .list []
  | .object _ => .object []

mutual

/-- The condition with every value blanked. -/
def Condition.blanked : Condition → Condition
  | .compare column operator value => .compare column operator value.blank
  | .columns first operator second => .columns first operator second
  | .isIn column values => .isIn column (values.map Value.blank)
  | .notIn column values => .notIn column (values.map Value.blank)
  | .isNull column => .isNull column
  | .notNull column => .notNull column
  | .between column low high => .between column low.blank high.blank
  | .group tree => .group (blankedTree tree)
  | .related negated table correlation tree => .related negated table correlation (blankedTree tree)

/-- The tree with every value blanked. -/
def blankedTree : ConditionTree → ConditionTree
  | [] => []
  | (conjunction, c) :: rest => (conjunction, c.blanked) :: blankedTree rest

end

/-- The row with every value blanked. -/
def Row.blanked (row : Row) : Row where
  fields := row.fields.map fun field => (field.1, field.2.blank)
  ascending := by
    unfold Ascending
    rw [List.pairwise_map]
    exact row.ascending

theorem fieldOf?_map {α β : Type} (f : α → β) (fields : List (String × α)) (name : String) :
    fieldOf? name (fields.map fun field => (field.1, f field.2)) = (fieldOf? name fields).map f := by
  induction fields with
  | nil => rfl
  | cons field rest ih =>
    rw [List.map_cons, fieldOf?, fieldOf?, ih]
    split <;> rfl

/-- The statement with every value blanked. -/
def Statement.blanked : Statement → Statement
  | .select s =>
    .select { s with conditions := blankedTree s.conditions, having := blankedTree s.having }
  | .write (.insert s) => .write (.insert { s with rows := s.rows.map Row.blanked })
  | .write (.update s) =>
    .write (.update { s with values := s.values.blanked, conditions := blankedTree s.conditions })
  | .write (.delete s) => .write (.delete { s with conditions := blankedTree s.conditions })

namespace Sql

/-- The numbers after the dollar signs of a text, from left to right, as they are written. -/
def placeholders : List Char → List String
  | [] => []
  | c :: rest =>
    if c = '$' then String.ofList (rest.takeWhile Char.isDigit) :: placeholders rest
    else placeholders rest

/-- The SQL is written in the characters of statements, and its placeholders are numbered from left to
right, one for each parameter. -/
structure Aligned (r : Rendered) : Prop where
  safe : ∀ c ∈ r.sql.toList, isSafe c = true
  numbered : placeholders r.sql.toList = (List.range' 1 r.parameters.length).map toString

theorem placeholders_append {before after : List Char} (quiet : ∀ c ∈ before, c ≠ '$') :
    placeholders (before ++ after) = placeholders after := by
  induction before with
  | nil => rfl
  | cons c rest ih =>
    rw [List.cons_append, placeholders, if_neg (quiet c List.mem_cons_self)]
    exact ih fun d hd => quiet d (List.mem_cons_of_mem _ hd)

/-- What follows the number of a placeholder. -/
theorem castText_inert {cast : Option String} (clean : ∀ type ∈ cast, Inert type) :
    Inert ((cast.map ("::" ++ ·)).getD "") := by
  cases cast with
  | none => exact (by decide : Inert "")
  | some type => exact Inert.append (by decide) (clean type rfl)

/-- A placeholder is a dollar sign, its number and the cast. -/
theorem toList_placeholder (number : Nat) (cast : Option String) :
    (placeholder number cast).toList =
      '$' :: (Nat.toDigits 10 number ++ ((cast.map ("::" ++ ·)).getD "").toList) := by
  unfold placeholder
  rw [String.toList_append, String.toList_append, Nat.toString_eq_repr, Nat.toList_repr]
  rfl

theorem isDigit_of_mem {number : Nat} : ∀ c ∈ Nat.toDigits 10 number, c.isDigit = true :=
  fun _ hc => Nat.isDigit_of_mem_toDigits (by decide) (by decide) hc

/-- A placeholder is read with its own number, whatever follows that is no digit. -/
theorem placeholders_placeholder {cast : Option String} (clean : ∀ type ∈ cast, Inert type)
    (number : Nat) {rest : List Char} (apart : Undigited rest) :
    placeholders ((placeholder number cast).toList ++ rest) =
      toString number :: placeholders rest := by
  have inert := castText_inert clean
  rw [toList_placeholder]
  generalize (cast.map ("::" ++ ·)).getD "" = tail at inert
  have ends : (tail.toList ++ rest).takeWhile Char.isDigit = [] :=
    (inert.head.append apart).takeWhile
  have quiet : ∀ c ∈ Nat.toDigits 10 number ++ tail.toList, c ≠ '$' := by
    intro c hc
    rcases List.mem_append.1 hc with hc | hc
    · rintro rfl
      exact absurd (isDigit_of_mem _ hc) (by decide)
    · exact (inert.chars c hc).2
  rw [List.cons_append, List.append_assoc, placeholders, if_pos rfl,
    List.takeWhile_append_of_pos isDigit_of_mem, ends, List.append_nil, ← List.append_assoc,
    placeholders_append quiet, Nat.toString_eq_ofList_toDigits]

/-- Clean pieces do not begin with a digit. -/
theorem undigited_pieceText {pieces : List Piece} (clean : Clean pieces) (next : Nat) :
    Undigited (pieceText next pieces).toList := by
  induction pieces generalizing next with
  | nil => exact .nil
  | cons piece rest ih =>
    obtain ⟨first, others⟩ := List.forall_mem_cons.1 clean
    cases piece with
    | text s =>
      rw [pieceText, String.toList_append]
      exact (Inert.head first).append (ih others next)
    | value v cast =>
      have dollar : Undigited (placeholder next cast).toList := by
        rw [toList_placeholder]
        exact (by decide : Undigited ['$'])
      rw [pieceText, String.toList_append]
      exact dollar.append (ih others (next + 1))

/-- The placeholders of clean pieces are numbered on from the first number. -/
theorem placeholders_pieceText {pieces : List Piece} (clean : Clean pieces) (next : Nat) :
    placeholders (pieceText next pieces).toList =
      (List.range' next (pieceValues pieces).length).map toString := by
  induction pieces generalizing next with
  | nil => rfl
  | cons piece rest ih =>
    obtain ⟨first, others⟩ := List.forall_mem_cons.1 clean
    cases piece with
    | text s =>
      rw [pieceText, pieceValues, String.toList_append,
        placeholders_append fun c hc => ((Inert.chars first) c hc).2]
      exact ih others next
    | value v cast =>
      -- The number ends where the placeholder ends, because what follows begins with no digit.
      rw [pieceText, pieceValues, String.toList_append,
        placeholders_placeholder first next (undigited_pieceText others (next + 1)), ih others (next + 1)]
      rfl

theorem safe_pieceText {pieces : List Piece} (clean : Clean pieces) (next : Nat) :
    ∀ c ∈ (pieceText next pieces).toList, isSafe c = true := by
  induction pieces generalizing next with
  | nil => exact fun c hc => nomatch hc
  | cons piece rest ih =>
    obtain ⟨first, others⟩ := List.forall_mem_cons.1 clean
    intro c hc
    cases piece with
    | text s =>
      rw [pieceText, String.toList_append] at hc
      rcases List.mem_append.1 hc with hc | hc
      · exact ((Inert.chars first) c hc).1
      · exact ih others next c hc
    | value v cast =>
      rw [pieceText, String.toList_append] at hc
      rcases List.mem_append.1 hc with hc | hc
      · rw [toList_placeholder] at hc
        rcases List.mem_cons.1 hc with rfl | hc
        · decide
        · rcases List.mem_append.1 hc with hc | hc
          · simp [isSafe, Char.isAlphanum, isDigit_of_mem c hc]
          · exact ((castText_inert first).chars c hc).1
      · exact ih others (next + 1) c hc

/-- What is made of clean pieces is aligned. -/
theorem aligned_assemble {pieces : List Piece} (clean : Clean pieces) : Aligned (assemble pieces) where
  safe := safe_pieceText clean 1
  numbered := by
    unfold assemble
    rw [placeholders_pieceText clean, List.length_map]

/-- The piece with its value blanked. -/
def Piece.blanked : Piece → Piece
  | .text s => .text s
  | .value v cast => .value v.blank cast

/-- Blanked pieces make up the same text. -/
theorem pieceText_blanked (next : Nat) (pieces : List Piece) :
    pieceText next (pieces.map Piece.blanked) = pieceText next pieces := by
  induction pieces generalizing next with
  | nil => rfl
  | cons piece rest ih =>
    cases piece with
    | text s => rw [List.map_cons, Piece.blanked, pieceText, pieceText, ih]
    | value v cast => rw [List.map_cons, Piece.blanked, pieceText, pieceText, ih]

theorem separated_blanked (separator : String) (parts : List (List Piece)) :
    separated separator (parts.map (List.map Piece.blanked)) =
      (separated separator parts).map Piece.blanked := by
  induction parts with
  | nil => rfl
  | cons first rest ih =>
    cases rest with
    | nil => rfl
    | cons second rest =>
      have step (a b : List Piece) (parts : List (List Piece)) :
          separated separator (a :: b :: parts) =
            a ++ .text separator :: separated separator (b :: parts) := rfl
      rw [List.map_cons, List.map_cons, step, ← List.map_cons, ih, step, List.map_append]
      rfl

section

variable {α β γ : Type}

theorem map_bind (x : Except Error α) (next : α → Except Error β) (f : β → γ) :
    (x >>= next).map f = x >>= fun a => (next a).map f := by
  cases x <;> rfl

theorem bind_of_map (x : Except Error α) (f : α → β) (next : β → Except Error γ) :
    (x.map f >>= next) = x >>= fun a => next (f a) := by
  cases x <;> rfl

theorem mapM_of_map {f : α → Except Error β} {g : α → α} {h : β → β} (l : List α)
    (each : ∀ a, f (g a) = (f a).map h) : (l.map g).mapM f = (l.mapM f).map (List.map h) := by
  induction l with
  | nil => rfl
  | cons a rest ih =>
    rw [List.map_cons, List.mapM_cons, List.mapM_cons, each, ih, bind_of_map, map_bind]
    congr 1
    funext b
    rw [bind_of_map, map_bind]
    rfl

end

variable (types : ColumnTypes) (table : String) (having : Bool)

theorem bind_blank (column : String) (v : Value) :
    bind types table column v.blank = (bind types table column v).blanked := by
  have cast (type : FieldType) : castOf? type v.blank = castOf? type v := by
    cases v <;> rfl
  unfold bind Piece.blanked
  simp only [cast]

theorem membership_blanked (column : String) (values : List Value) (operator empty : String) :
    membership types table having column (values.map Value.blank) operator empty =
      (membership types table having column values operator empty).map (List.map Piece.blanked) := by
  have bound : (values.map Value.blank).map (fun v => [bind types table column v]) =
      (values.map fun v => [bind types table column v]).map (List.map Piece.blanked) := by
    simp only [List.map_map]
    congr 1
    funext v
    change [bind types table column v.blank] = [(bind types table column v).blanked]
    rw [bind_blank]
  unfold membership
  rw [List.isEmpty_map, bound, separated_blanked]
  split
  · rfl
  · rw [map_bind]
    congr 1
    funext name
    change Except.ok _ = Except.ok _
    rw [List.map_append, List.map_cons]
    rfl

theorem isEmpty_blankedTree (tree : ConditionTree) : (blankedTree tree).isEmpty = tree.isEmpty := by
  cases tree <;> rfl

mutual

/-- A blanked condition has the same pieces, with their values blanked. -/
theorem conditionPieces_blanked (table : String) (having : Bool) (c : Condition) :
    conditionPieces types table having c.blanked =
      (conditionPieces types table having c).map (List.map Piece.blanked) := by
  cases c with
  | compare column operator value =>
    rw [Condition.blanked, conditionPieces, conditionPieces, bind_blank, map_bind]
    rfl
  | columns first operator second =>
    rw [Condition.blanked, conditionPieces, map_bind]
    simp only [map_bind]
    rfl
  | isIn column values =>
    rw [Condition.blanked, conditionPieces, conditionPieces]
    exact membership_blanked types table having column values _ _
  | notIn column values =>
    rw [Condition.blanked, conditionPieces, conditionPieces]
    exact membership_blanked types table having column values _ _
  | isNull column =>
    rw [Condition.blanked, conditionPieces, map_bind]
    rfl
  | notNull column =>
    rw [Condition.blanked, conditionPieces, map_bind]
    rfl
  | between column low high =>
    rw [Condition.blanked, conditionPieces, conditionPieces, bind_blank, bind_blank, map_bind]
    rfl
  | group tree =>
    rw [Condition.blanked, conditionPieces, conditionPieces,
      treePieces_blanked table having true tree, bind_of_map, map_bind]
    congr 1
    funext inner
    change Except.ok _ = Except.ok _
    rw [List.map_append, List.map_cons]
    rfl
  | related negated inner correlation tree =>
    rw [Condition.blanked, conditionPieces, conditionPieces, map_bind]
    simp only [map_bind, treePieces_blanked inner false true tree]
    have sameEmpty : List.isEmpty (blankedTree tree) = tree.isEmpty := isEmpty_blankedTree tree
    congr 1
    funext name
    congr 1
    funext column
    congr 1
    funext outerTable
    congr 1
    funext outerColumn
    rw [sameEmpty]
    split
    · rfl
    · rw [map_bind, bind_of_map]
      congr 1
      funext body
      change Except.ok _ = Except.ok _
      rw [List.map_append, List.map_cons, List.map_cons]
      rfl

/-- A blanked tree has the same pieces, with their values blanked. -/
theorem treePieces_blanked (table : String) (having first : Bool) (tree : ConditionTree) :
    treePieces types table having first (blankedTree tree) =
      (treePieces types table having first tree).map (List.map Piece.blanked) := by
  cases tree with
  | nil =>
    rw [blankedTree, treePieces]
    rfl
  | cons node rest =>
    obtain ⟨conjunction, c⟩ := node
    rw [blankedTree, treePieces, treePieces, conditionPieces_blanked table having c,
      treePieces_blanked table having false rest]
    simp only [map_bind, bind_of_map]
    congr 1
    funext pieces
    congr 1
    funext more
    change Except.ok _ = Except.ok _
    rw [List.map_append, List.map_append]
    cases first <;> rfl

end

theorem clause_blanked (word : String) (tree : ConditionTree) :
    clause types table having word (blankedTree tree) =
      (clause types table having word tree).map (List.map Piece.blanked) := by
  unfold clause
  rw [isEmpty_blankedTree, treePieces_blanked]
  split
  · rfl
  · rw [map_bind, bind_of_map]
    rfl

theorem keys_blanked (row : Row) : row.blanked.keys = row.keys := by
  unfold Row.keys Row.blanked
  rw [List.map_map]
  rfl

theorem get?_blanked (row : Row) (column : String) :
    row.blanked.get? column = (row.get? column).map Value.blank :=
  fieldOf?_map Value.blank row.fields column

theorem columnsOf_blanked (rows : List Row) : columnsOf (rows.map Row.blanked) = columnsOf rows := by
  unfold columnsOf
  rw [List.foldl_map]
  simp only [keys_blanked]

theorem rowPieces_blanked (columns : List String) (row : Row) :
    rowPieces types table columns row.blanked =
      (rowPieces types table columns row).map Piece.blanked := by
  unfold rowPieces
  rw [List.map_append, List.map_cons, ← separated_blanked, List.map_map]
  refine congrArg (fun cells => Piece.text "(" :: separated ", " cells ++ [Piece.text ")"])
    (List.map_congr_left fun column _ => ?_)
  rw [get?_blanked, Function.comp_apply]
  cases row.get? column with
  | none => rfl
  | some v =>
    change [bind types table column v.blank] = [(bind types table column v).blanked]
    rw [bind_blank]

theorem assignmentPieces_blanked (field : String × Value) :
    assignmentPieces types table (field.1, field.2.blank) =
      (assignmentPieces types table field).map (List.map Piece.blanked) := by
  unfold assignmentPieces
  rw [map_bind, bind_blank]
  rfl

theorem groupPieces_blanked (s : Select) :
    groupPieces types { s with
      conditions := blankedTree s.conditions, having := blankedTree s.having } =
      (groupPieces types s).map (List.map Piece.blanked) := by
  unfold groupPieces
  dsimp only
  split
  · rfl
  · rw [map_bind]
    congr 1
    funext columns
    rw [clause_blanked, bind_of_map, map_bind]
    rfl

/-- Pieces without values stay as they are. -/
theorem orderPieces_blanked (orders : List Order) :
    (orderPieces orders).map (List.map Piece.blanked) = orderPieces orders := by
  unfold orderPieces
  split
  · rfl
  · rw [map_bind]
    rfl

theorem windowPieces_blanked (word : String) (n : Option Nat) :
    (windowPieces word n).map Piece.blanked = windowPieces word n := by
  cases n <;> rfl

theorem selectPieces_blanked (s : Select) :
    selectPieces types { s with
      conditions := blankedTree s.conditions, having := blankedTree s.having } =
      (selectPieces types s).map (List.map Piece.blanked) := by
  have sameProjection (table : String) : projectionText { s with
      conditions := blankedTree s.conditions, having := blankedTree s.having } table =
        projectionText s table := rfl
  unfold selectPieces
  rw [groupPieces_blanked, clause_blanked]
  simp only [map_bind, bind_of_map, sameProjection]
  congr 1
  funext table
  congr 1
  funext projection
  congr 1
  funext joins
  congr 1
  funext conditions
  congr 1
  funext groups
  conv => lhs; rw [← orderPieces_blanked s.orderBy]
  rw [bind_of_map]
  congr 1
  funext orders
  change Except.ok _ = Except.ok _
  simp only [List.map_append, List.map_cons, windowPieces_blanked]
  rfl

theorem insertPieces_blanked (s : Insert) :
    insertPieces types { s with rows := s.rows.map Row.blanked } =
      (insertPieces types s).map (List.map Piece.blanked) := by
  unfold insertPieces
  rw [columnsOf_blanked]
  simp only [map_bind]
  congr 1
  funext table
  congr 1
  funext returning
  congr 1
  funext columns
  split
  · rfl
  · change Except.ok _ = Except.ok _
    have rows : (s.rows.map Row.blanked).map (rowPieces types s.table (columnsOf s.rows)) =
        (s.rows.map (rowPieces types s.table (columnsOf s.rows))).map (List.map Piece.blanked) := by
      rw [List.map_map, List.map_map]
      exact List.map_congr_left fun row _ => rowPieces_blanked types s.table _ row
    rw [rows, separated_blanked, List.map_append, List.map_cons]
    rfl

theorem updatePieces_blanked (s : Update) :
    updatePieces types { s with
      values := s.values.blanked, conditions := blankedTree s.conditions } =
      (updatePieces types s).map (List.map Piece.blanked) := by
  have assignments : s.values.blanked.fields.mapM (assignmentPieces types s.table) =
      (s.values.fields.mapM (assignmentPieces types s.table)).map
        (List.map (List.map Piece.blanked)) := by
    change (s.values.fields.map fun field => (field.1, field.2.blank)).mapM _ = _
    exact mapM_of_map s.values.fields fun field => assignmentPieces_blanked types s.table field
  unfold updatePieces
  rw [map_bind]
  congr 1
  funext table
  rw [assignments, bind_of_map, map_bind]
  congr 1
  funext parts
  rw [clause_blanked, bind_of_map, map_bind]
  congr 1
  funext conditions
  change Except.ok _ = Except.ok _
  rw [separated_blanked, List.map_append, List.map_cons]
  rfl

theorem deletePieces_blanked (s : Delete) :
    deletePieces types { s with conditions := blankedTree s.conditions } =
      (deletePieces types s).map (List.map Piece.blanked) := by
  unfold deletePieces
  rw [map_bind]
  congr 1
  funext table
  rw [clause_blanked, bind_of_map, map_bind]
  rfl

/-- A blanked statement has the same pieces, with their values blanked. -/
theorem statementPieces_blanked (statement : Statement) :
    statementPieces types statement.blanked =
      (statementPieces types statement).map (List.map Piece.blanked) := by
  cases statement with
  | select s => exact selectPieces_blanked types s
  | write w =>
    cases w with
    | insert s => exact insertPieces_blanked types s
    | update s => exact updatePieces_blanked types s
    | delete s => exact deletePieces_blanked types s

end Sql

/-- The statements differ in values only, and these are of the same sorts. -/
def Statement.SameSorts (a b : Statement) : Prop :=
  a.blanked = b.blanked

namespace Sql

variable (types : ColumnTypes)

theorem sql_blanked (statement : Statement) :
    (render types statement.blanked).map (·.sql) = (render types statement).map (·.sql) := by
  unfold render
  rw [statementPieces_blanked]
  cases statementPieces types statement with
  | error e => rfl
  | ok pieces =>
    change Except.ok (pieceText 1 (pieces.map Piece.blanked)) = Except.ok (pieceText 1 pieces)
    rw [pieceText_blanked]

/-- **No injection, aligned parameters.** Whatever texts a statement carries as names and whatever
values: it is refused as a query, or its SQL is written in the characters of statements with one
placeholder for each parameter, in order. Other values of the same sorts change neither. -/
theorem render_aligned (statement : Statement) :
    Yields Aligned (render types statement) ∧ ∀ other : Statement, statement.SameSorts other →
      (render types statement).map (·.sql) = (render types other).map (·.sql) := by
  refine ⟨.map (statementPieces_clean types statement) fun pieces clean => aligned_assemble clean, ?_⟩
  intro other same
  rw [← sql_blanked types statement, same, sql_blanked]

/-- An update with a text, a list and a nested condition. -/
def rename (name : String) (tags : List Value) : Statement :=
  .write (.update
    { table := "t", values := .ofFields [("a", .text name), ("b", .list tags)],
      conditions := [(.and, .group [(.or, .isIn "c" [.int 1, .null]), (.or, .isNull "a")])] })

/-- Two updates with other texts and lists have the same SQL, with four placeholders. -/
theorem render_aligned_rename :
    (render {} (rename "a" [])).map (·.sql) = (render {} (rename "'; DROP TABLE" [.null])).map (·.sql) ∧
    (render {} (rename "a" [])).toOption.map (fun r => placeholders r.sql.toList) =
      some ["1", "2", "3", "4"] := by
  have same : (rename "a" []).SameSorts (rename "'; DROP TABLE" [.null]) := rfl
  refine ⟨(render_aligned {} (rename "a" [])).2 _ same, ?_⟩
  decide +kernel

end Sql

end EntityStore
