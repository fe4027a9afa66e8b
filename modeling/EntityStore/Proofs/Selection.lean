import EntityStore.Proofs.Conditions

/-!
# What a selection answers

Joins make combinations of every row (`Select.combinations`), each with the row as its base. A
selection of whole rows answers the bases of the combinations that satisfy its conditions: in their
order when nothing is ordered (`Store.select_unordered`), and in any order the same rows
(`Store.mem_select`).
-/

namespace EntityStore

namespace Select

/-- The scopes that joins make of one scope. -/
def combinations (store : Store) (joins : List Join) (scope : Scope) : List Scope :=
  joins.foldl (fun scopes join => scopes.flatMap (joinScope store join)) [scope]

/-- Every scope is joined for itself. -/
theorem foldl_joinScope (store : Store) (joins : List Join) (scopes : List Scope) :
    joins.foldl (fun scopes join => scopes.flatMap (joinScope store join)) scopes =
      scopes.flatMap (combinations store joins) := by
  induction joins generalizing scopes with
  | nil =>
    have alone : combinations store [] = fun scope => [scope] := rfl
    rw [List.foldl_nil, alone, List.flatMap_singleton']
  | cons join rest ih =>
    have each : combinations store (join :: rest) =
        fun scope => (joinScope store join scope).flatMap (combinations store rest) := by
      funext scope
      change rest.foldl _ ([scope].flatMap (joinScope store join)) = _
      rw [ih, List.flatMap_singleton]
    rw [List.foldl_cons, ih, List.flatMap_assoc, each]

theorem combinations_cons (store : Store) (join : Join) (joins : List Join) (scope : Scope) :
    combinations store (join :: joins) scope =
      (joinScope store join scope).flatMap (combinations store joins) := by
  change joins.foldl _ ([scope].flatMap (joinScope store join)) = _
  rw [foldl_joinScope, List.flatMap_singleton]

theorem joinedScopes_eq (store : Store) (statement : Select) :
    joinedScopes store statement = (store.rows statement.table).flatMap fun row =>
      combinations store statement.joins (.ofRow statement.table row) := by
  unfold joinedScopes
  rw [foldl_joinScope, List.flatMap_map]

/-- A joined scope is the scope itself or the scope with one row of the other table. -/
theorem mem_joinScope {store : Store} {join : Join} {scope joined : Scope}
    (h : joined ∈ joinScope store join scope) :
    joined = scope ∨ ∃ row ∈ store.rows join.table, joined = scope.join join.table row := by
  unfold joinScope at h
  simp only at h
  split at h
  · exact Or.inl (List.mem_singleton.1 h)
  · obtain ⟨row, hrow, rfl⟩ := List.mem_map.1 (List.mem_filter.1 h).1
    exact Or.inr ⟨row, hrow, rfl⟩

/-- What every joined row keeps, every combination has. -/
theorem combinations_induction {store : Store} {joins : List Join} {P : Scope → Prop}
    (step : ∀ join ∈ joins, ∀ row ∈ store.rows join.table, ∀ scope, P scope →
      P (scope.join join.table row))
    {scope combined : Scope} (start : P scope)
    (h : combined ∈ combinations store joins scope) : P combined := by
  induction joins generalizing scope with
  | nil =>
    rw [List.mem_singleton.1 h]
    exact start
  | cons join rest ih =>
    rw [combinations_cons] at h
    obtain ⟨joined, hjoined, h⟩ := List.mem_flatMap.1 h
    apply ih (fun join hj => step join (List.mem_cons_of_mem _ hj)) _ h
    rcases mem_joinScope hjoined with rfl | ⟨row, hrow, rfl⟩
    · exact start
    · exact step join List.mem_cons_self row hrow scope start

theorem base_of_mem_combinations {store : Store} {joins : List Join} {scope combined : Scope}
    (h : combined ∈ combinations store joins scope) : combined.base = scope.base :=
  combinations_induction (P := fun s => s.base = scope.base) (fun _ _ _ _ _ hs => hs) rfl h

/-- Joining other tables leaves the qualified columns of a table as they are. -/
theorem lookup_of_mem_combinations {store : Store} {joins : List Join} {table column : String}
    (plain : '.' ∉ column.toList) (foreign : ∀ join ∈ joins, join.table ≠ table)
    (undotted : ∀ join ∈ joins, ∀ row ∈ store.rows join.table, row.Undotted)
    {scope combined : Scope} (h : combined ∈ combinations store joins scope) :
    combined.lookup (qualified table column) = scope.lookup (qualified table column) := by
  apply combinations_induction
    (P := fun s => s.lookup (qualified table column) = scope.lookup (qualified table column))
    _ rfl h
  intro join hj row hrow s hs
  rw [s.lookup_join_qualified (undotted join hj row hrow) plain (foreign join hj)]
  exact hs

theorem insertScope_perm (orderBy : List Order) (scope : Scope) (sorted : List Scope) :
    (insertScope orderBy scope sorted).Perm (scope :: sorted) := by
  induction sorted with
  | nil => exact List.Perm.refl _
  | cons last before ih =>
    unfold insertScope
    split
    · exact (ih.cons last).trans (List.Perm.swap scope last before)
    · exact List.Perm.refl _

theorem foldl_insertScope_perm (orderBy : List Order) (scopes sorted : List Scope) :
    (scopes.foldl (fun sorted scope => insertScope orderBy scope sorted) sorted).Perm
      (scopes ++ sorted) := by
  induction scopes generalizing sorted with
  | nil => exact List.Perm.refl _
  | cons scope rest ih =>
    rw [List.foldl_cons]
    have inserted := (insertScope_perm orderBy scope sorted).append_left rest
    exact (ih _).trans (inserted.trans List.perm_middle)

/-- Sorting loses no scope and adds none. -/
theorem sortScopes_perm (orderBy : List Order) (scopes : List Scope) :
    (sortScopes orderBy scopes).Perm scopes := by
  unfold sortScopes
  split
  · exact List.Perm.refl _
  · have sorted := foldl_insertScope_perm orderBy scopes []
    rw [List.append_nil] at sorted
    exact (List.reverse_perm _).trans sorted

theorem foldl_insertScope_nil (scopes sorted : List Scope) :
    scopes.foldl (fun sorted scope => insertScope [] scope sorted) sorted =
      scopes.reverse ++ sorted := by
  induction scopes generalizing sorted with
  | nil => rfl
  | cons scope rest ih =>
    have first : insertScope [] scope sorted = scope :: sorted := by
      cases sorted <;> rfl
    rw [List.foldl_cons, first, ih, List.reverse_cons, List.append_assoc]
    rfl

/-- Without an order the scopes stay as they are. -/
theorem sortScopes_nil (scopes : List Scope) : sortScopes [] scopes = scopes := by
  unfold sortScopes
  rw [if_neg (by simp), foldl_insertScope_nil, List.append_nil, List.reverse_reverse]

/-- A selection of whole rows: nothing is projected, grouped or cut off. -/
structure Whole (statement : Select) : Prop where
  projection : statement.projection = .all
  distinct : statement.distinct = false
  groupBy : statement.groupBy = []
  limit : statement.limit = none
  offset : statement.offset = none

/-- The combinations of a row that satisfy the conditions of a selection. -/
def matching (store : Store) (statement : Select) (row : Row) : List Scope :=
  (combinations store statement.joins (.ofRow statement.table row)).filter fun scope =>
    store.satisfiesTree scope statement.conditions

theorem selectedScopes_eq (store : Store) {statement : Select} (ungrouped : statement.groupBy = []) :
    selectedScopes store statement =
      (store.rows statement.table).flatMap (matching store statement) := by
  unfold selectedScopes
  simp only [ungrouped, List.isEmpty_nil, if_true]
  rw [joinedScopes_eq, List.filter_flatMap]
  rfl

/-- What is kept of items, some of which are dropped for those before, is among them. -/
theorem mem_of_mem_foldl_distinct {α : Type} (dropped : List α → α → Bool) {items done : List α}
    {item : α} (kept : item ∈ items.foldl
      (fun done next => if dropped done next then done else done ++ [next]) done) :
    item ∈ done ∨ item ∈ items := by
  induction items generalizing done with
  | nil => exact Or.inl kept
  | cons first rest ih =>
    rw [List.foldl_cons] at kept
    rw [List.mem_cons]
    rcases ih kept with before | later
    · split at before
      · exact Or.inl before
      · rw [List.mem_append, List.mem_singleton] at before
        exact before.imp_right Or.inl
    · exact Or.inr (Or.inr later)

theorem mem_of_mem_distinctRows {rows : List Row} {row : Row} (kept : row ∈ distinctRows rows) :
    row ∈ rows :=
  (mem_of_mem_foldl_distinct (fun done row => done.any (·.same row)) kept).resolve_left
    List.not_mem_nil

theorem mem_of_mem_window {α : Type} {offset limit : Option Nat} {items : List α} {item : α}
    (kept : item ∈ window offset limit items) : item ∈ items := by
  unfold window at kept
  cases limit with
  | none => exact List.mem_of_mem_drop kept
  | some n => exact List.mem_of_mem_drop (List.mem_of_mem_take kept)

theorem base_of_mem_matching {store : Store} {statement : Select} {row : Row} {scope : Scope}
    (h : scope ∈ matching store statement row) : scope.base = row :=
  base_of_mem_combinations (List.mem_filter.1 h).1

end Select

namespace Store

open Select (matching)

theorem select_whole (store : Store) {statement : Select} (whole : statement.Whole) :
    store.select statement =
      (Select.sortScopes statement.orderBy
        ((store.rows statement.table).flatMap (matching store statement))).map (·.base) := by
  unfold select
  simp only [whole.projection, whole.distinct, whole.groupBy, whole.limit, whole.offset,
    Select.selectedScopes_eq store whole.groupBy, Select.window, Bool.false_eq_true, if_false,
    Option.getD_none, List.drop_zero]
  apply List.map_congr_left
  intro scope _
  rfl

/-- There is one answered row for every combination that matches. -/
theorem length_select (store : Store) {statement : Select} (whole : statement.Whole) :
    (store.select statement).length =
      ((store.rows statement.table).flatMap (matching store statement)).length := by
  rw [select_whole store whole, List.length_map]
  exact (Select.sortScopes_perm _ _).length_eq

/-- Each row stands in an unordered answer once for every combination that matches. -/
theorem select_unordered (store : Store) {statement : Select} (whole : statement.Whole)
    (unordered : statement.orderBy = []) :
    store.select statement = (store.rows statement.table).flatMap fun row =>
      (matching store statement row).map (·.base) := by
  rw [select_whole store whole, unordered, Select.sortScopes_nil, List.map_flatMap]

/-- A row is answered when some combination of it matches. -/
theorem mem_select (store : Store) {statement : Select} (whole : statement.Whole) {row : Row} :
    row ∈ store.select statement ↔
      row ∈ store.rows statement.table ∧ matching store statement row ≠ [] := by
  rw [select_whole store whole, List.mem_map]
  simp only [(Select.sortScopes_perm _ _).mem_iff, List.mem_flatMap]
  constructor
  · rintro ⟨scope, ⟨found, hfound, hscope⟩, rfl⟩
    rw [Select.base_of_mem_matching hscope]
    exact ⟨hfound, List.ne_nil_of_mem hscope⟩
  · rintro ⟨hrow, some⟩
    obtain ⟨scope, hscope⟩ := List.exists_mem_of_ne_nil _ some
    exact ⟨scope, ⟨row, hrow, hscope⟩, Select.base_of_mem_matching hscope⟩

/-- A selection of rows that joins nothing filters the rows of its table. -/
theorem select_unjoined (store : Store) {statement : Select} (whole : statement.Whole)
    (unordered : statement.orderBy = []) (unjoined : statement.joins = []) :
    store.select statement =
      (store.rows statement.table).filter (store.selects statement.table statement.conditions) := by
  rw [select_unordered store whole unordered]
  induction store.rows statement.table with
  | nil => rfl
  | cons row rest ih =>
    have alone : (matching store statement row).map (·.base) =
        if store.selects statement.table statement.conditions row then [row] else [] := by
      unfold matching
      rw [unjoined]
      change (List.filter _ [_]).map _ = _
      rw [List.filter_cons, List.filter_nil]
      unfold selects
      split <;> rfl
    rw [List.flatMap_cons, List.filter_cons, ih, alone]
    split <;> rfl

/-- A limit keeps the first of the rows that are answered without one. -/
theorem select_limit (store : Store) {statement : Select} (whole : statement.Whole) (n : Nat) :
    store.select { statement with limit := some n } = (store.select statement).take n := by
  unfold select
  simp only [whole.projection, whole.limit, whole.offset]
  rfl

/-- The first row that a selection answers, where it joins nothing, is the first one of the table
that it selects. -/
theorem head?_select (store : Store) {statement : Select} (whole : statement.Whole)
    (unordered : statement.orderBy = []) (unjoined : statement.joins = []) :
    (store.select { statement with limit := some 1 }).head? =
      (store.rows statement.table).find?
        (store.selects statement.table statement.conditions) := by
  rw [store.select_limit whole 1, store.select_unjoined whole unordered unjoined, List.head?_take,
    if_neg (by decide), List.head?_filter]

/-- What a selection of rows answers is answered as well when nothing is cut off. -/
theorem mem_select_uncut (store : Store) {statement : Select}
    (projection : statement.projection = .all) {row : Row}
    (answered : row ∈ store.select statement) :
    row ∈ store.select { statement with distinct := false, limit := none, offset := none } := by
  unfold select at answered ⊢
  simp only [projection] at answered ⊢
  have kept := Select.mem_of_mem_window answered
  split at kept
  · exact Select.mem_of_mem_distinctRows kept
  · exact kept

/-- The answer of a count: one row that holds the number of matching combinations. -/
theorem select_count (store : Store) {statement : Select} (ungrouped : statement.groupBy = [])
    (counted : statement.projection = .aggregate .count none) :
    store.select statement = [Row.empty.insert aggregateAlias
      (.int ((store.rows statement.table).flatMap (matching store statement)).length)] := by
  unfold select
  simp only [counted, Select.selectedScopes_eq store ungrouped]
  rfl

end Store

end EntityStore
