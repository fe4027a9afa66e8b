import EntityStore.Proofs.CleanPieces
import EntityStore.Proofs.Subselect

/-!
# Subqueries of rendered selections

What stands in a rendered selection besides its subqueries is passed over when it is read, so the
subqueries of the text are those of the conditions that it was rendered from
(`Sql.subselects_select`), as far as these name tables and columns by single words.
-/

namespace EntityStore

namespace Sql

/-! ### Reading pieces -/

/-- The text of the pieces is read so, whatever numbers their placeholders have. -/
def Scans (first : Bool) (pieces : List Piece) (found : List Char → List Subselect) : Prop :=
  ∀ next, Holds first (pieceText next pieces).toList found

/-- The text holds no subqueries. -/
def Passes (s : String) : Prop :=
  Holds false s.toList fun _ => []

namespace Passes

variable {s t : String}

theorem append (hs : Passes s) (ht : Passes t) : Passes (s ++ t) := by
  unfold Passes
  rw [String.toList_append]
  exact Holds.append hs ht

theorem quiet (h : Quiet s.toList) : Passes s := Holds.quiet h

theorem intercalate {separator : String} {texts : List String} (between : Passes separator)
    (h : ∀ s ∈ texts, Passes s) : Passes (separator.intercalate texts) :=
  intercalate_closed (quiet (by decide)) .append between h

theorem join {texts : List String} (h : ∀ s ∈ texts, Passes s) : Passes (String.join texts) :=
  join_closed (quiet (by decide)) .append h

/-- The arguments of a function. -/
theorem call (hs : Quiet s.toList) (plain : ∀ back, Fresh (s.toList.reverse ++ back))
    (ht : Passes t) : Passes (s ++ "(" ++ t ++ ")") := by
  unfold Passes
  have whole : (s ++ "(" ++ t ++ ")").toList = s.toList ++ '(' :: (t.toList ++ [')']) := by simp
  rw [whole]
  exact Holds.parenthesized hs (fun back _ => plain back) (Holds.weaken ht)

end Passes

namespace Scans

variable {first : Bool} {a b : List Piece} {f g : List Char → List Subselect} {s : String}

theorem weaken (h : Scans false a f) : Scans first a f :=
  fun next => (h next).weaken

theorem nil : Scans first [] fun _ => [] :=
  fun _ => .quiet fun _ h => nomatch h

theorem append (start : Scans first a f) (goesOn : Scans false b g) :
    Scans first (a ++ b) fun around => f around ++ g around := by
  intro next
  have text := pieceText_append next a b
  rw [text, String.toList_append]
  exact (start next).append (goesOn _)

theorem text (passes : Passes s) : Scans first [.text s] fun _ => [] := by
  intro next
  rw [pieceText, pieceText, String.append_empty]
  exact Holds.weaken passes

theorem value (v : Value) {cast : Option String} (quiet : ∀ type ∈ cast, Quiet type.toList) :
    Scans first [.value v cast] fun _ => [] := by
  intro next
  have tail : Passes ((cast.map ("::" ++ ·)).getD "") := by
    cases cast with
    | none => exact .quiet (by decide)
    | some type => exact Passes.append (.quiet (by decide)) (.quiet (quiet type rfl))
  have placeholder : Passes (placeholder next cast) :=
    (Passes.append (.quiet (by decide)) (.quiet (number_quiet next))).append tail
  rw [pieceText, pieceText, String.append_empty]
  exact Holds.weaken placeholder

theorem separated {separator : String} {parts : List (List Piece)} (between : Passes separator)
    (h : ∀ pieces ∈ parts, Scans false pieces fun _ => []) :
    Scans false (Sql.separated separator parts) fun _ => [] :=
  separated_closed (P := (Scans false · fun _ => [])) nil append (text between) h

/-- Pieces after a text that announces nothing. -/
theorem after (quiet : Quiet s.toList) (plain : ∀ back, Fresh (s.toList.reverse ++ back))
    (h : Scans true a f) : Scans first (.text s :: a) f := by
  intro next
  rw [pieceText, String.toList_append]
  exact .after quiet (fun back _ => plain back) (h next)

/-- Pieces in parentheses after a text that announces nothing. -/
theorem parenthesized (quiet : Quiet s.toList)
    (plain : ∀ back, (first = true → Fresh back) → Fresh (s.toList.reverse ++ back))
    (inner : Scans true a f) : Scans first (.text (s ++ "(") :: a ++ [.text ")"]) f := by
  intro next
  have text := pieceText_append next a [.text ")"]
  have whole : (pieceText next (.text (s ++ "(") :: a ++ [.text ")"])).toList =
      s.toList ++ '(' :: ((pieceText next a).toList ++ [')']) := by
    rw [List.cons_append, pieceText, text, pieceText, pieceText]
    simp
  rw [whole]
  exact .parenthesized quiet plain (inner next)

/-- A subquery, in front of the parenthesis that closes it or of further conditions. -/
theorem subquery (negated : Bool) {table column outerTable outerColumn : String}
    (solid : ∀ c ∈ table.toList, c ≠ ' ' ∧ c ≠ '(' ∧ c ≠ ')' ∧ c ≠ '=')
    (plain : ∀ c ∈ column.toList, c ≠ '(' ∧ c ≠ ')' ∧ c ≠ '=')
    (outer : ∀ c ∈ outerTable.toList ++ '.' :: outerColumn.toList, c ≠ ' ' ∧ c ≠ '(' ∧ c ≠ ')')
    (undotted : '.' ∉ outerColumn.toList) (more : Scans false a f)
    (begins : ∀ piece ∈ a.head?, ∃ s, piece = .text s ∧ s.toList.head? = some ' ') :
    Scans first (.text ((if negated then "NOT " else "") ++ "EXISTS (SELECT 1 FROM " ++ table ++
        " WHERE " ++ table ++ "." ++ column ++ " = " ++ outerTable ++ "." ++ outerColumn) ::
        a ++ [.text ")"])
      fun around => ⟨around, table.toList, outerTable.toList⟩ :: f table.toList := by
  intro next
  have text := pieceText_append next a [.text ")"]
  have opens : "EXISTS (SELECT 1 FROM ".toList = "EXISTS ".toList ++ '(' :: selectMark := rfl
  have whole : (pieceText next (.text ((if negated then "NOT " else "") ++ "EXISTS (SELECT 1 FROM " ++
      table ++ " WHERE " ++ table ++ "." ++ column ++ " = " ++ outerTable ++ "." ++ outerColumn) ::
      a ++ [.text ")"])).toList =
      ((if negated then "NOT " else "") ++ "EXISTS ").toList ++
        '(' :: (correlated table.toList column.toList outerTable.toList outerColumn.toList ++
          ((pieceText next a).toList ++ [')'])) := by
    rw [List.cons_append, pieceText, text, pieceText, pieceText]
    simp only [correlated, String.toList_append, opens, List.append_assoc, List.cons_append,
      String.append_empty]
    rfl
  have blank : ∀ c ∈ (pieceText next a).toList.head?, c = ' ' := by
    cases a with
    | nil => exact fun _ h => absurd h (Option.not_mem_none _)
    | cons piece rest =>
      obtain ⟨s, rfl, head⟩ := begins piece rfl
      rw [pieceText, String.toList_append, List.head?_append, head]
      exact fun _ h => (Option.mem_some.1 h).symm
  rw [whole]
  exact .subquery negated solid plain outer undotted (more next) blank

end Scans

/-! ### Condition trees -/

theorem quoteIdentifier_quiet (name : String) :
    Yields (fun text => quoteIdentifier name = .ok text ∧ Quiet text.toList)
      (quoteIdentifier name) :=
  (quoteIdentifier_eq name).mono fun _ quoted =>
    ⟨quoted, fun c hc => ⟨(name_chars quoted c hc).1, (name_chars quoted c hc).2.1⟩⟩

theorem quoteIdentifier_passes (name : String) : Yields Passes (quoteIdentifier name) :=
  (quoteIdentifier_quiet name).mono fun _ h => .quiet h.2

theorem columnText_passes (having : Bool) (column : String) :
    Yields Passes (columnText having column) := by
  unfold columnText
  split
  · exact .ok (.call (s := "COUNT") (t := "*") (by decide) (fun _ => rfl) (.quiet (by decide)))
  · exact quoteIdentifier_passes column

theorem operator_passes (operator : Operator) : Passes operator.text := by
  cases operator <;> exact .quiet (by decide)

theorem blank_passes : Passes " " := .quiet (by decide)

theorem solid_name {name text : String} (quoted : quoteIdentifier name = .ok text)
    (solid : ' ' ∉ written name) : ∀ c ∈ text.toList, c ≠ ' ' ∧ c ≠ '(' ∧ c ≠ ')' ∧ c ≠ '=' := by
  rw [written_of_ok quoted] at solid
  exact fun c hc => ⟨fun same => solid (same ▸ hc), name_chars quoted c hc⟩

/-- A qualified column of single words is a single word. -/
theorem solid_column {table column tableText columnText : String}
    (htable : quoteIdentifier table = .ok tableText)
    (hcolumn : quoteIdentifier column = .ok columnText) (solidTable : ' ' ∉ written table)
    (solidColumn : ' ' ∉ written column) :
    ∀ c ∈ tableText.toList ++ '.' :: columnText.toList, c ≠ ' ' ∧ c ≠ '(' ∧ c ≠ ')' := by
  intro c hc
  rcases List.mem_append.1 hc with hc | hc
  · obtain ⟨blank, opening, closing, -⟩ := solid_name htable solidTable c hc
    exact ⟨blank, opening, closing⟩
  · rcases List.mem_cons.1 hc with rfl | hc
    · decide
    · obtain ⟨blank, opening, closing, -⟩ := solid_name hcolumn solidColumn c hc
      exact ⟨blank, opening, closing⟩

variable (types : ColumnTypes)

theorem bind_scans (first : Bool) (table column : String) (v : Value) :
    Scans first [bind types table column v] fun _ => [] := by
  refine .value v fun cast hcast => ?_
  obtain ⟨type, _, hcast⟩ := Option.bind_eq_some_iff.1 hcast
  have named : ∀ name ∈ typeName? type, Quiet name.toList := by
    cases type <;> decide
  exact named cast (typeName?_of_castOf? hcast)

theorem membership_scans (table : String) (having : Bool) (column : String) (values : List Value)
    {operator empty : String} (quiet : Quiet (" " ++ operator ++ " ").toList)
    (plain : ∀ back, Fresh ((" " ++ operator ++ " ").toList.reverse ++ back))
    (hempty : Passes empty) :
    Yields (fun pieces => Scans true pieces fun _ => [])
      (membership types table having column values operator empty) := by
  unfold membership
  split
  · exact .ok (.text hempty)
  · refine .bind (columnText_passes having column) fun name passes => .ok ?_
    have listed : Scans false (Sql.separated ", " (values.map fun v => [bind types table column v]))
        fun _ => [] := by
      refine .separated (.quiet (by decide)) fun pieces hp => ?_
      obtain ⟨v, _, rfl⟩ := List.mem_map.1 hp
      exact bind_scans types false table column v
    have inside : Scans false (.text (" " ++ operator ++ " " ++ "(") ::
        Sql.separated ", " (values.map fun v => [bind types table column v]) ++ [.text ")"])
        fun _ => [] :=
      .parenthesized quiet (fun back _ => plain back) listed.weaken
    have named : Scans true [.text name] fun _ => [] := .text passes
    intro next
    have whole := named.append inside next
    simp only [List.cons_append, List.nil_append, pieceText, String.append_assoc] at whole ⊢
    exact whole

/-- The text of a subquery holds it and those of its conditions. -/
theorem related_scans (table : String) (having negated : Bool) {inner : String}
    (correlation : Correlation) {tree : ConditionTree}
    (solid : ∀ name ∈ [inner, correlation.outerTable, correlation.outerColumn], ' ' ∉ written name)
    (undotted : '.' ∉ written correlation.outerColumn)
    (body : Yields (fun pieces => Scans true pieces fun around => treeSubselects around tree)
      (treePieces types inner false true tree)) :
    Yields (fun pieces => Scans true pieces fun around =>
        Condition.subselects around (.related negated inner correlation tree))
      (conditionPieces types table having (.related negated inner correlation tree)) := by
  rw [conditionPieces]
  refine .bind (quoteIdentifier_quiet inner) fun name hname => ?_
  refine .bind (quoteIdentifier_quiet correlation.inner) fun column hcolumn => ?_
  refine .bind (quoteIdentifier_quiet correlation.outerTable) fun outerTable htable => ?_
  refine .bind (quoteIdentifier_quiet correlation.outerColumn) fun outerColumn houter => ?_
  have table : written inner = name.toList := written_of_ok hname.1
  have outer : written correlation.outerTable = outerTable.toList := written_of_ok htable.1
  have read {a : List Piece} {f : List Char → List Subselect} (more : Scans false a f)
      (begins : ∀ piece ∈ a.head?, ∃ s, piece = .text s ∧ s.toList.head? = some ' ') :
      Scans true (.text ((if negated then "NOT " else "") ++ "EXISTS (SELECT 1 FROM " ++ name ++
          " WHERE " ++ name ++ "." ++ column ++ " = " ++ outerTable ++ "." ++ outerColumn) ::
          a ++ [.text ")"])
        fun around => ⟨around, name.toList, outerTable.toList⟩ :: f name.toList :=
    .subquery negated (solid_name hname.1 (solid _ (by simp))) (name_chars hcolumn.1)
      (solid_column htable.1 houter.1 (solid _ (by simp)) (solid _ (by simp)))
      (written_of_ok houter.1 ▸ undotted) more begins
  simp only [Condition.subselects, table, outer]
  split
  · next empty =>
    have whole := read .nil fun _ h => nomatch h
    rw [List.isEmpty_iff.1 empty]
    simp only [treeSubselects]
    exact .ok whole
  · refine .bind body fun pieces scans => .ok ?_
    have opening : " AND " ++ "(" = " AND (" := rfl
    have more : Scans false (.text (" AND " ++ "(") :: pieces ++ [.text ")"])
        fun around => treeSubselects around tree :=
      .parenthesized (by decide) (fun _ _ => rfl) scans
    rw [opening] at more
    have blank : " AND (".toList.head? = some ' ' := rfl
    have whole := read more fun _ h => ⟨_, (Option.mem_some.1 h).symm, blank⟩
    rw [List.cons_append, List.append_assoc] at whole
    exact whole

mutual

/-- The text of a condition holds its subqueries. -/
theorem conditionPieces_scans (table : String) (having : Bool) {c : Condition} (worded : c.Worded) :
    Yields (fun pieces => Scans true pieces fun around => c.subselects around)
      (conditionPieces types table having c) := by
  cases c with
  | compare column operator value =>
    rw [conditionPieces]
    refine .bind (columnText_passes having column) fun name passes => .ok ?_
    have text : Passes (name ++ " " ++ operator.text ++ " ") :=
      ((passes.append blank_passes).append (operator_passes operator)).append blank_passes
    exact (Scans.text text).append (bind_scans types false table column value)
  | columns first operator second =>
    rw [conditionPieces]
    refine .bind (columnText_passes having first) fun left hleft => ?_
    refine .bind (columnText_passes having second) fun right hright => .ok (.text ?_)
    exact (((hleft.append blank_passes).append (operator_passes operator)).append
      blank_passes).append hright
  | isIn column values =>
    rw [conditionPieces]
    exact membership_scans types table having column values (by decide) (fun _ => rfl)
      (.quiet (by decide))
  | notIn column values =>
    rw [conditionPieces]
    exact membership_scans types table having column values (by decide) (fun _ => rfl)
      (.quiet (by decide))
  | isNull column =>
    rw [conditionPieces]
    refine .bind (columnText_passes having column) fun name passes => .ok (.text ?_)
    exact passes.append (.quiet (by decide))
  | notNull column =>
    rw [conditionPieces]
    refine .bind (columnText_passes having column) fun name passes => .ok (.text ?_)
    exact passes.append (.quiet (by decide))
  | between column low high =>
    rw [conditionPieces]
    refine .bind (columnText_passes having column) fun name passes => .ok ?_
    have text : Scans true [.text (name ++ " BETWEEN ")] fun _ => [] :=
      .text (passes.append (.quiet (by decide)))
    have and : Scans false [.text " AND "] fun _ => [] := .text (.quiet (by decide))
    exact text.append ((bind_scans types false table column low).append
      (and.append (bind_scans types false table column high)))
  | group tree =>
    rw [conditionPieces]
    rw [Condition.Worded] at worded
    refine .bind (treePieces_scans table having true worded) fun inner scans => .ok ?_
    exact Scans.parenthesized (s := "") (by decide) (fun _ fresh => fresh rfl) scans
  | related negated inner correlation tree =>
    rw [Condition.Worded] at worded
    obtain ⟨solid, undotted, worded⟩ := worded
    exact related_scans types table having negated correlation solid undotted
      (treePieces_scans inner false true worded)

/-- The text of a tree holds its subqueries. -/
theorem treePieces_scans (table : String) (having first : Bool) {tree : ConditionTree}
    (worded : TreeWorded tree) :
    Yields (fun pieces => Scans first pieces fun around => treeSubselects around tree)
      (treePieces types table having first tree) := by
  cases tree with
  | nil =>
    rw [treePieces]
    exact .ok .nil
  | cons node rest =>
    obtain ⟨conjunction, c⟩ := node
    rw [TreeWorded] at worded
    rw [treePieces]
    refine .bind (conditionPieces_scans table having worded.1) fun pieces scans => ?_
    refine .bind (treePieces_scans table having false worded.2) fun more scansMore => .ok ?_
    cases first with
    | true => exact scans.append scansMore
    | false =>
      have joined : Scans false (.text (" " ++ conjunction.text ++ " ") :: pieces)
          fun around => c.subselects around := by
        cases conjunction <;> exact .after (by decide) (fun _ => rfl) scans
      exact joined.append scansMore

end

/-! ### Selections -/

theorem clause_scans (table : String) (having : Bool) {word : String} {tree : ConditionTree}
    (worded : TreeWorded tree) (quiet : Quiet (" " ++ word ++ " ").toList)
    (plain : ∀ back, Fresh ((" " ++ word ++ " ").toList.reverse ++ back)) :
    Yields (fun pieces => Scans false pieces fun around => treeSubselects around tree)
      (clause types table having word tree) := by
  unfold clause
  split
  · next empty =>
    rw [List.isEmpty_iff.1 empty]
    simp only [treeSubselects]
    exact .ok .nil
  · exact .bind (treePieces_scans types table having true worded) fun pieces scans =>
      .ok (.after quiet plain scans)

theorem quoteAll_passes (names : List String) :
    Yields (fun quoted => ∀ s ∈ quoted, Passes s) (quoteAll names) :=
  .mapM fun name _ => quoteIdentifier_passes name

/-- Texts with commas between them. -/
theorem list_passes {texts : List String} (h : ∀ s ∈ texts, Passes s) :
    Passes (", ".intercalate texts) :=
  .intercalate (.quiet (by decide)) h

theorem projectionText_passes (statement : Select) {table : String} (passes : Passes table) :
    Yields Passes (projectionText statement table) := by
  unfold projectionText
  split
  · split
    · exact .ok (passes.append (.quiet (by decide)))
    · refine .bind (quoteAll_passes statement.groupBy) fun columns hcolumns => .ok (list_passes ?_)
      have count : Passes ("COUNT" ++ "(" ++ "*" ++ ")") :=
        .call (by decide) (fun _ => rfl) (.quiet (by decide))
      exact List.forall_mem_append.2 ⟨hcolumns, List.forall_mem_singleton.2
        (count.append (t := " AS " ++ groupCountAlias) (.quiet (by decide)))⟩
  · next names _ =>
    exact .bind (quoteAll_passes names) fun columns hcolumns => .ok (list_passes hcolumns)
  · next function column _ =>
    have aggregate {target : String} (h : Passes target) :
        Passes (function.text ++ "(" ++ target ++ ") AS " ++ aggregateAlias) := by
      have call : Passes (function.text ++ "(" ++ target ++ ")") := by
        cases function <;> exact .call (by decide) (fun _ => rfl) h
      have closing : ")" ++ " AS " = ") AS " := rfl
      rw [← closing, ← String.append_assoc]
      exact (call.append (t := " AS ") (.quiet (by decide))).append (.quiet (by decide))
    dsimp only
    split
    · exact .ok (aggregate (.quiet (by decide)))
    · exact .bind (quoteIdentifier_passes _) fun target h => .ok (aggregate h)
    · rfl

theorem joinText_passes (join : Join) : Yields Passes (joinText join) := by
  unfold joinText
  refine .bind (quoteIdentifier_passes join.table) fun table htable => ?_
  refine .bind (quoteIdentifier_passes join.first) fun first hfirst => ?_
  refine .bind (quoteIdentifier_passes join.second) fun second hsecond => .ok ?_
  have kind : Passes (" " ++ join.kind.text ++ " ") := by
    cases join.kind <;> exact .quiet (by decide)
  exact ((((kind.append htable).append (.quiet (by decide))).append hfirst).append
    (.quiet (by decide))).append hsecond

theorem orderText_passes (order : Order) : Yields Passes (orderText order) := by
  cases order with
  | random =>
    have call : Passes ("RANDOM" ++ "(" ++ "" ++ ")") :=
      .call (by decide) (fun _ => rfl) (.quiet (by decide))
    exact .ok call
  | column name direction =>
    refine .map (quoteIdentifier_passes name) fun name passes => ?_
    have direction : Passes direction.text := by
      cases direction <;> exact .quiet (by decide)
    exact (passes.append blank_passes).append direction

theorem groupPieces_scans (statement : Select) (alone : treeTables statement.having = []) :
    Yields (fun pieces => Scans false pieces fun _ => []) (groupPieces types statement) := by
  unfold groupPieces
  split
  · exact .ok .nil
  · refine .bind (quoteAll_passes statement.groupBy) fun columns hcolumns => ?_
    have none (around : List Char) := (treeSubselects_of_tables alone around).1
    have worded := (treeSubselects_of_tables alone []).2
    refine .bind (clause_scans types statement.table true worded (by decide) fun _ => rfl)
      fun having scans => .ok ?_
    simp only [none] at scans
    exact (Scans.text (Passes.append (.quiet (by decide)) (list_passes hcolumns))).append scans

theorem orderPieces_scans (orders : List Order) :
    Yields (fun pieces => Scans false pieces fun _ => []) (orderPieces orders) := by
  unfold orderPieces
  split
  · exact .ok .nil
  · refine .bind (.mapM fun order _ => orderText_passes order) fun clauses h => .ok (.text ?_)
    exact Passes.append (.quiet (by decide)) (list_passes h)

theorem windowPieces_scans (word : String) (n : Option Nat)
    (quiet : Quiet (" " ++ word ++ " ").toList) : Scans false (windowPieces word n) fun _ => [] := by
  cases n with
  | none => exact .nil
  | some n =>
    exact .text (Passes.append (.quiet quiet) (.quiet (number_quiet n)))

/-- The text of a selection holds the subqueries of its conditions. -/
theorem selectPieces_scans (statement : Select) (worded : TreeWorded statement.conditions)
    (alone : treeTables statement.having = []) :
    Yields (fun pieces => Scans false pieces fun around =>
      treeSubselects around statement.conditions) (selectPieces types statement) := by
  unfold selectPieces
  refine .bind (quoteIdentifier_passes statement.table) fun table htable => ?_
  refine .bind (projectionText_passes statement htable) fun projection hprojection => ?_
  refine .bind (.mapM fun join _ => joinText_passes join) fun joins hjoins => ?_
  refine .bind (clause_scans types statement.table false worded (by decide) fun _ => rfl)
    fun conditions scans => ?_
  refine .bind (groupPieces_scans types statement alone) fun groups scansGroups => ?_
  refine .bind (orderPieces_scans statement.orderBy) fun orders scansOrders => .ok ?_
  have opening : Passes (if statement.distinct then "SELECT DISTINCT " else "SELECT ") := by
    cases statement.distinct <;> exact .quiet (by decide)
  have head := (((opening.append hprojection).append (t := " FROM ") (.quiet (by decide))).append
    htable).append (Passes.join hjoins)
  have opened : Scans false _ _ := .text head
  have whole := ((((opened.append scans).append scansGroups).append scansOrders).append
    (windowPieces_scans "LIMIT" statement.limit (by decide))).append
    (windowPieces_scans "OFFSET" statement.offset (by decide))
  simpa using whole

/-- A selection is refused, or the subqueries of its text are those of its conditions. -/
theorem subselects_select {statement : Select} (worded : TreeWorded statement.conditions)
    (alone : treeTables statement.having = []) :
    Yields (fun rendered => ∀ around, subselects around [] [] rendered.sql.toList =
      treeSubselects around statement.conditions) (render types (.select statement)) := by
  refine .map (selectPieces_scans types statement worded alone) fun pieces scans around => ?_
  obtain ⟨back, read⟩ := scans 1 around [] [] fun none => nomatch none
  have whole := read []
  rw [List.append_nil, subselects, List.append_nil] at whole
  exact whole

end Sql

end EntityStore
