import EntityStore.Proofs.Pages

/-!
# The cursor of a page

The cursor is read off the row behind the page as that row is answered: after picking columns and
grouping, either of which may drop the primary key or put another value under its name. Here every
answered row stands with the row of the table that it is of (`Select.sightings`). Main result:
`Query.cursorsTrue_iff`; on every page the cursor is the primary key of the row that comes next,
exactly when no answered row but the first hides the primary key of its row. Whole rows never do
(`Query.cursorsTrue_of_whole`), nor do picked columns with the primary key among them
(`Query.cursorsTrue_of_picked`).
-/

namespace EntityStore

namespace Select

/-! ### The scopes behind the answer -/

/-- A scope counted into groups is the first of its group, or its group has one already. -/
theorem mem_addToGroups {key : List Value} {scope : Scope} {done : List (List Value × Scope × Nat)}
    {group : List Value × Scope × Nat} (mem : group ∈ addToGroups key scope done) :
    group.2.1 = scope ∨ ∃ earlier ∈ done, group.2.1 = earlier.2.1 := by
  induction done with
  | nil =>
    rw [addToGroups, List.mem_singleton] at mem
    exact Or.inl (congrArg (·.2.1) mem)
  | cons first rest ih =>
    obtain ⟨k, opener, n⟩ := first
    unfold addToGroups at mem
    split at mem
    · rcases List.mem_cons.1 mem with rfl | later
      · exact Or.inr ⟨_, List.mem_cons_self, rfl⟩
      · exact Or.inr ⟨group, List.mem_cons_of_mem _ later, rfl⟩
    · rcases List.mem_cons.1 mem with rfl | later
      · exact Or.inr ⟨_, List.mem_cons_self, rfl⟩
      · refine (ih later).imp_right ?_
        rintro ⟨earlier, there, same⟩
        exact ⟨earlier, List.mem_cons_of_mem _ there, same⟩

theorem mem_foldl_addToGroups {columns : List String} {scopes : List Scope}
    {done : List (List Value × Scope × Nat)} {group : List Value × Scope × Nat}
    (mem : group ∈ scopes.foldl
      (fun done scope => addToGroups (columns.map scope.lookup) scope done) done) :
    group.2.1 ∈ scopes ∨ ∃ earlier ∈ done, group.2.1 = earlier.2.1 := by
  induction scopes generalizing done with
  | nil => exact Or.inr ⟨group, mem, rfl⟩
  | cons scope rest ih =>
    rw [List.foldl_cons] at mem
    rcases ih mem with later | ⟨earlier, there, same⟩
    · exact Or.inl (List.mem_cons_of_mem _ later)
    · rcases mem_addToGroups there with first | ⟨before, there, same'⟩
      · exact Or.inl (by rw [same, first]; exact List.mem_cons_self)
      · exact Or.inr ⟨before, there, same.trans same'⟩

/-- What holds of every row alone, and is kept by joining rows and by counting groups, holds of all
that a selection answers. -/
theorem selectedScopes_induction {store : Store} {statement : Select} {P : Scope → Prop}
    (start : ∀ row ∈ store.rows statement.table, P (.ofRow statement.table row))
    (join : ∀ join ∈ statement.joins, ∀ row ∈ store.rows join.table, ∀ scope, P scope →
      P (scope.join join.table row))
    (count : ∀ scope n, P scope →
      P { scope with columns := scope.columns.insert groupCountAlias (.int n) })
    {scope : Scope} (selected : scope ∈ statement.selectedScopes store) : P scope := by
  have joined : ∀ scope ∈ statement.joinedScopes store, P scope := by
    intro scope mem
    rw [joinedScopes_eq] at mem
    obtain ⟨row, there, combined⟩ := List.mem_flatMap.1 mem
    exact combinations_induction join (start row there) combined
  unfold selectedScopes at selected
  dsimp only at selected
  split at selected
  · exact joined scope (List.mem_filter.1 selected).1
  · obtain ⟨⟨key, first, n⟩, group, rfl⟩ := List.mem_map.1 (List.mem_filter.1 selected).1
    refine count first n (joined first ?_)
    rcases mem_foldl_addToGroups group with there | ⟨_, none, -⟩
    · exact (List.mem_filter.1 there).1
    · cases none

/-! ### Rows with what they are answered as -/

/-- A row of a table and what a selection answers for it. -/
structure Sighting where
  base : Row
  answered : Row

/-- The sightings that are answered otherwise than all earlier ones. -/
def distinctSightings (sightings : List Sighting) : List Sighting :=
  sightings.foldl (fun done sighting =>
    if done.any (·.answered.same sighting.answered) then done else done ++ [sighting]) []

/-- The rows that a selection answers with nothing cut off, with the rows that they are of. The first
row of a group stands for it. -/
def sightings (store : Store) (statement : Select) : List Sighting :=
  let all := (sortScopes statement.orderBy (statement.selectedScopes store)).map fun scope =>
    ⟨scope.base, project statement.projection statement.groupBy scope⟩
  if statement.distinct then distinctSightings all else all

theorem answered_foldl (sightings done : List Sighting) :
    (sightings.foldl (fun done sighting =>
      if done.any (·.answered.same sighting.answered) then done else done ++ [sighting])
        done).map (·.answered) =
      (sightings.map (·.answered)).foldl (fun done row =>
        if done.any (·.same row) then done else done ++ [row]) (done.map (·.answered)) := by
  induction sightings generalizing done with
  | nil => rfl
  | cons sighting rest ih =>
    rw [List.foldl_cons, ih, List.map_cons, List.foldl_cons, List.any_map]
    congr 1
    change _ = if done.any (·.answered.same sighting.answered) then _ else _
    split
    · rfl
    · rw [List.map_append, List.map_singleton]

theorem answered_sightings {store : Store} {statement : Select} (listing : statement.Listing) :
    (statement.sightings store).map (·.answered) = store.select statement.uncut := by
  have all : ((sortScopes statement.orderBy (statement.selectedScopes store)).map fun scope =>
      (⟨scope.base, project statement.projection statement.groupBy scope⟩ : Sighting)).map
        (·.answered) = statement.projected store := by
    rw [List.map_map]
    rfl
  rw [Store.select_uncut listing]
  unfold sightings
  dsimp only
  split
  · rw [← all]
    exact answered_foldl _ []
  · exact all

theorem exists_scope_of_mem_sightings {store : Store} {statement : Select} {sighting : Sighting}
    (mem : sighting ∈ statement.sightings store) :
    ∃ scope ∈ statement.selectedScopes store, sighting.base = scope.base ∧
      sighting.answered = project statement.projection statement.groupBy scope := by
  unfold sightings at mem
  dsimp only at mem
  have listed : sighting ∈ (sortScopes statement.orderBy (statement.selectedScopes store)).map
      fun scope => (⟨scope.base, project statement.projection statement.groupBy scope⟩ :
        Sighting) := by
    split at mem
    · exact (mem_of_mem_foldl_distinct (fun done sighting =>
        done.any (·.answered.same sighting.answered)) mem).resolve_left List.not_mem_nil
    · exact mem
  obtain ⟨scope, there, rfl⟩ := List.mem_map.1 listed
  exact ⟨scope, (sortScopes_perm _ _).mem_iff.1 there, rfl, rfl⟩

theorem base_mem_of_mem_sightings {store : Store} {statement : Select} {sighting : Sighting}
    (mem : sighting ∈ statement.sightings store) :
    sighting.base ∈ store.rows statement.table := by
  obtain ⟨scope, selected, base, -⟩ := exists_scope_of_mem_sightings mem
  rw [base]
  exact selectedScopes_induction (P := fun scope => scope.base ∈ store.rows statement.table)
    (fun row there => there) (fun _ _ _ _ _ held => held) (fun _ _ held => held) selected

/-! ### Columns under their own names -/

/-- A column without a table in front of it is that of the row, in every combination and group. -/
theorem lookup_of_mem_selectedScopes {store : Store} {statement : Select} {column : String}
    (plain : '.' ∉ column.toList) (uncounted : column ≠ groupCountAlias) {scope : Scope}
    (selected : scope ∈ statement.selectedScopes store) :
    scope.lookup column = scope.base.value column := by
  refine selectedScopes_induction (P := fun scope => scope.lookup column = scope.base.value column)
    ?_ ?_ ?_ selected
  · intro row _
    exact Scope.lookup_ofRow _ _ plain
  · intro join _ row _ scope own
    rw [scope.lookup_join_of_ne fun _ _ => ne_qualified plain _ _]
    exact own
  · intro scope n own
    unfold Scope.lookup
    rw [Row.get?_insert_of_ne _ _ uncounted]
    exact own

/-- A column that is picked, or was there before as it is in sight, is answered so, unless something
else gets its name. -/
theorem get?_foldl_pick {names : List String} {scope : Scope} {column : String}
    (alone : ∀ source, (source, column) ∈ names.map ColumnName.splitAlias → source = column)
    {row : Row} (named : row.get? column = some (scope.lookup column) ∨
      (column, column) ∈ names.map ColumnName.splitAlias) :
    (names.foldl (fun (row : Row) name =>
      row.insert (ColumnName.splitAlias name).2 (scope.lookup (ColumnName.splitAlias name).1))
        row).get? column = some (scope.lookup column) := by
  induction names generalizing row with
  | nil => exact named.resolve_right List.not_mem_nil
  | cons name rest ih =>
    rw [List.foldl_cons]
    rw [List.map_cons] at alone named
    refine ih (fun source mem => alone source (List.mem_cons_of_mem _ mem)) ?_
    rw [Row.get?_insert]
    by_cases label : column = (ColumnName.splitAlias name).2
    · have own : (ColumnName.splitAlias name).1 = column :=
        alone _ (List.mem_cons.2 (Or.inl (Prod.ext rfl label)))
      rw [if_pos label, own]
      exact Or.inl rfl
    · rw [if_neg label]
      refine named.imp_right fun mem => (List.mem_cons.1 mem).resolve_left fun here => label ?_
      exact congrArg Prod.snd here

/-- A picked column that nothing else is answered for is answered as it is in sight. -/
theorem get?_project {names groupBy : List String} {scope : Scope} {column : String}
    (key : (column, column) ∈ names.map ColumnName.splitAlias)
    (alone : ∀ source, (source, column) ∈ names.map ColumnName.splitAlias → source = column) :
    (project (.columns names) groupBy scope).get? column = some (scope.lookup column) :=
  get?_foldl_pick alone (Or.inr key)

end Select

namespace Query

open Select (Sighting)

variable {q : Query} {db : Database} {s : Session} {store : Store}

/-- The rows that the query answers in the order of the primary keys, with the rows that they are
of. -/
def sightings (q : Query) (store : Store) : List Sighting :=
  q.listing.statement.sightings store

theorem answered_sightings (q : Query) (store : Store) :
    (q.sightings store).map (·.answered) = store.select q.listing.statement :=
  Select.answered_sightings q.listing.listing_statement

/-- The cursor is the key under which the first row behind the page is answered. -/
theorem nextCursor_answered (loadable : q.Loadable db.registry)
    (opened : s.engine.storeOf db.handle = .ok store) {limit n : Nat} (positive : 0 < limit)
    (counted : 0 < n) :
    (q.paginate { limit := some limit, page := some n }).Answers db s fun page _ =>
      page.nextCursor = ((q.sightings store)[n * limit]?).bind fun sighting =>
        Store.keyOf? q.model.primaryKey sighting.answered := by
  refine (answers_paginate loadable opened positive counted).mono ?_
  rintro _ _ ⟨total, found, -, same, rfl, -⟩
  obtain ⟨n, rfl⟩ := Nat.exists_eq_succ_of_ne_zero counted.ne'
  have behind : n * limit + limit = n.succ * limit := (Nat.succ_mul n limit).symm
  change (found[limit]?).bind Instance.id? = _
  rw [same.id?_getElem?, Nat.succ_sub_one, List.getElem?_take_of_lt (Nat.lt_succ_self limit),
    List.getElem?_drop, behind, ← answered_sightings, List.getElem?_map]
  cases (q.sightings store)[n.succ * limit]? <;> rfl

/-- On every page there is a cursor when some row follows in the order of the primary keys, and it
is the primary key of the row of the table that comes next. -/
def CursorsTrue (q : Query) (db : Database) (s : Session) (store : Store) : Prop :=
  ∀ limit n, 0 < limit → 0 < n →
    (q.paginate { limit := some limit, page := some n }).Answers db s fun page _ =>
      (page.nextCursor.isSome ↔ n * limit < (store.select q.listing.statement).length) ∧
        ∀ next ∈ (q.sightings store)[n * limit]?,
          page.nextCursor = Store.keyOf? q.model.primaryKey next.base

/-- The row is answered under the primary key that it carries. -/
def ShowsKey (q : Query) (sighting : Sighting) : Prop :=
  Store.keyOf? q.model.primaryKey sighting.answered = Store.keyOf? q.model.primaryKey sighting.base

instance (q : Query) (sighting : Sighting) : Decidable (q.ShowsKey sighting) :=
  inferInstanceAs (Decidable (_ = _))

theorem length_sightings (q : Query) (store : Store) :
    (store.select q.listing.statement).length = (q.sightings store).length := by
  rw [← answered_sightings, List.length_map]

/-- If the cursors are true, rows show their keys: each but the first is behind a page of one row. -/
theorem CursorsTrue.shows (honest : q.CursorsTrue db s store) (loadable : q.Loadable db.registry)
    (opened : s.engine.storeOf db.handle = .ok store) :
    ∀ sighting ∈ (q.sightings store).tail, q.ShowsKey sighting := by
  intro sighting mem
  obtain ⟨i, there⟩ := List.getElem?_of_mem mem
  rw [List.getElem?_tail] at there
  obtain ⟨page, ran, -, promised⟩ := (honest 1 (i + 1) Nat.one_pos i.succ_pos).outcome
  obtain ⟨page', ran', answered⟩ :=
    (nextCursor_answered loadable opened Nat.one_pos i.succ_pos).outcome
  obtain rfl : page = page' := Except.ok.inj (ran.symm.trans ran')
  rw [Nat.mul_one] at promised answered
  rw [there] at answered
  exact answered.symm.trans (promised sighting there)

section

variable (loadable : q.Loadable db.registry) (opened : s.engine.storeOf db.handle = .ok store)
  (keyed : ∀ row ∈ store.rows q.model.table, (Store.keyOf? q.model.primaryKey row).isSome)

include loadable opened keyed

/-- If rows show their keys, the cursors are true. -/
theorem cursorsTrue_of_shows (shows : ∀ sighting ∈ (q.sightings store).tail, q.ShowsKey sighting) :
    q.CursorsTrue db s store := by
  intro limit n positive counted
  refine (nextCursor_answered loadable opened positive counted).mono fun page _ answered => ?_
  have first : 0 < n * limit := Nat.mul_pos counted positive
  cases next : (q.sightings store)[n * limit]? with
  | none =>
    rw [next, Option.bind_none] at answered
    have ended := List.getElem?_eq_none_iff.1 next
    refine ⟨?_, fun _ none => nomatch none⟩
    rw [answered, length_sightings, Option.isSome_none]
    exact iff_of_false Bool.false_ne_true (Nat.not_lt.2 ended)
  | some sighting =>
    obtain ⟨i, index⟩ := Nat.exists_eq_succ_of_ne_zero first.ne'
    have behind : sighting ∈ (q.sightings store).tail := by
      rw [index, ← List.getElem?_tail] at next
      exact List.mem_of_getElem? next
    have own := shows sighting behind
    rw [next, Option.bind_some, own] at answered
    have some := keyed sighting.base (Select.base_mem_of_mem_sightings (List.mem_of_getElem? next))
    refine ⟨?_, fun other same => Option.some.inj same ▸ answered⟩
    rw [answered, length_sightings]
    exact iff_of_true some (List.getElem?_eq_some_iff.1 next).1

/-- The cursors of a query that answers whole rows are true, whether or not it drops equal ones. -/
theorem cursorsTrue_of_whole (unpicked : q.columns = none) (ungrouped : q.groupBy = []) :
    q.CursorsTrue db s store := by
  refine cursorsTrue_of_shows loadable opened keyed fun sighting mem => ?_
  obtain ⟨scope, -, base, answered⟩ := Select.exists_scope_of_mem_sightings (List.mem_of_mem_tail mem)
  have whole : q.listing.statement.projection = .all := by
    have listed : q.listing.columns = none := unpicked
    unfold statement
    rw [listed]
  have same : sighting.answered = sighting.base := by
    have none : q.listing.statement.groupBy = [] := ungrouped
    rw [answered, base, whole, none]
    rfl
  unfold ShowsKey
  rw [same]

/-- So are those of a query that picks columns with the primary key among them, if nothing else is
answered under its name. -/
theorem cursorsTrue_of_picked {names : List String} (picked : q.columns = some names)
    (key : (q.model.primaryKey, q.model.primaryKey) ∈ names.map ColumnName.splitAlias)
    (alone : ∀ source, (source, q.model.primaryKey) ∈ names.map ColumnName.splitAlias →
      source = q.model.primaryKey)
    (plain : '.' ∉ q.model.primaryKey.toList) (uncounted : q.model.primaryKey ≠ groupCountAlias) :
    q.CursorsTrue db s store := by
  refine cursorsTrue_of_shows loadable opened keyed fun sighting mem => ?_
  obtain ⟨scope, selected, base, answered⟩ :=
    Select.exists_scope_of_mem_sightings (List.mem_of_mem_tail mem)
  have columns : q.listing.statement.projection = .columns names := by
    have listed : q.listing.columns = some names := picked
    unfold statement
    rw [listed]
  have shown : sighting.answered.get? q.model.primaryKey =
      some (scope.base.value q.model.primaryKey) := by
    rw [answered, columns, Select.get?_project key alone,
      Select.lookup_of_mem_selectedScopes plain uncounted selected]
  unfold ShowsKey Store.keyOf?
  rw [shown, base]
  unfold Row.value
  cases scope.base.get? q.model.primaryKey <;> rfl

end

end Query

end EntityStore
