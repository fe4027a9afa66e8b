import EntityStore.Proofs.Terminals

/-!
# The scope of the trash

An entity with a trash hides the rows whose `deleted_at` is set from every query that does not ask
for them. The condition that hides them is added to the conditions of the caller, so it has to hold
however many ORs, groups and subqueries these contain, and whatever tables are joined. Main result:
`Query.splitsTrash`.
-/

namespace EntityStore

/-- The row is in the trash: its time of deletion is there and not null. -/
def Row.isTrashed (row : Row) : Bool :=
  !((row.get? "deleted_at").getD .null).isNull

def Instance.isTrashed (i : Instance) : Bool :=
  i.attributes.isTrashed

/-- Every trashed row of the table is in its old place, unchanged. -/
def Store.KeepsTrash (table : String) (before after : Store) : Prop :=
  ∀ (place : Nat) (row : Row), (before.rows table)[place]? = some row → row.isTrashed = true →
    (after.rows table)[place]? = some row

/-- The rows that a scope lets through. -/
def TrashScope.admits (scope : TrashScope) (row : Row) : Bool :=
  match scope with
  | .untrashed => !row.isTrashed
  | .everything => true
  | .trashed => row.isTrashed

/-- How the scopes of the trash divide what a query finds, and what its bulk changes leave alone.
`query` is the query in each scope, `store` what it runs on. -/
structure SplitsTrash (query : TrashScope → Query) (db : Database) (s : Session) (store : Store) :
    Prop where
  rows : ∃ all : List Instance,
    ((query .everything).get db s).1 = .ok all ∧
    ((query .untrashed).get db s).1 = .ok (all.filter fun i => !i.isTrashed) ∧
    ((query .trashed).get db s).1 = .ok (all.filter fun i => i.isTrashed)
  counts : ∃ all : List Instance,
    ((query .everything).get db s).1 = .ok all ∧
    ((query .everything).count db s).1 = .ok (min (all.length : Int) maxInt64) ∧
    ((query .untrashed).count db s).1 =
      .ok (min ((all.filter fun i => !i.isTrashed).length : Int) maxInt64) ∧
    ((query .trashed).count db s).1 =
      .ok (min ((all.filter fun i => i.isTrashed).length : Int) maxInt64)
  update : ∀ values : Row, ∃ after,
    ((query .untrashed).update values db s).2.engine.storeOf db.handle = .ok after ∧
    store.KeepsTrash (query .untrashed).model.table after
  forceUpdate : ∀ values : Row, ∃ after,
    ((query .untrashed).forceUpdate values db s).2.engine.storeOf db.handle = .ok after ∧
    store.KeepsTrash (query .untrashed).model.table after
  delete : ∃ after,
    ((query .untrashed).delete db s).2.engine.storeOf db.handle = .ok after ∧
    store.KeepsTrash (query .untrashed).model.table after

theorem Store.KeepsTrash.refl (table : String) (store : Store) : store.KeepsTrash table store :=
  fun _ _ h _ => h

theorem deletedAt_qualified (table : String) :
    table ++ ".deleted_at" = qualified table "deleted_at" := by
  unfold qualified
  rw [String.append_assoc]
  rfl

namespace Query

variable {store : Store}

/-- In a scope that shows the row's own time of deletion, the scoped conditions are those of the
caller together with the scope of the trash. -/
theorem satisfies_scopedConditions (q : Query) (soft : q.model.traits.softDeletes = true)
    {scope : Scope} {row : Row}
    (shown : scope.lookup (qualified q.model.table "deleted_at") =
      (row.get? "deleted_at").getD .null) :
    store.satisfiesTree scope q.scopedConditions =
      (store.satisfiesTree scope q.conditions && q.scope.admits row) := by
  unfold scopedConditions
  rw [soft, deletedAt_qualified]
  cases q.scope with
  | everything => simp [TrashScope.admits]
  | untrashed =>
    rw [if_neg (by decide)]
    simp only [reduceCtorEq, if_false]
    rw [Store.satisfiesTree_enclosed_also, Store.satisfies, shown]
    simp [TrashScope.admits, Row.isTrashed]
  | trashed =>
    rw [if_neg (by decide)]
    simp only [if_true]
    rw [Store.satisfiesTree_enclosed_also, Store.satisfies, shown]
    rfl

/-- A query of an entity with conditions and joins, and nothing else asked for. -/
def filtered (m : Model) (conditions : ConditionTree) (joins : List Join) (scope : TrashScope) :
    Query :=
  { model := m, conditions, joins, scope }

variable {m : Model} {conditions : ConditionTree} {joins : List Join}

theorem whole_filtered (scope : TrashScope) :
    (filtered m conditions joins scope).statement.Whole :=
  ⟨rfl, rfl, rfl, rfl, rfl⟩

/-- A row matches in a scope as it matches among all rows, if the scope lets it through. -/
theorem matching_filtered (soft : m.traits.softDeletes = true)
    (foreign : ∀ join ∈ joins, join.table ≠ m.table)
    (undotted : ∀ table ∈ m.table :: joins.map (·.table), ∀ row ∈ store.rows table, row.Undotted)
    (scope : TrashScope) {row : Row} (hrow : row ∈ store.rows m.table) :
    Select.matching store (filtered m conditions joins scope).statement row =
      if scope.admits row then
        Select.matching store (filtered m conditions joins .everything).statement row
      else [] := by
  have rowUndotted := undotted m.table List.mem_cons_self row hrow
  have joinedUndotted : ∀ join ∈ joins, ∀ row ∈ store.rows join.table, row.Undotted :=
    fun join hj => undotted join.table (List.mem_cons_of_mem _ (List.mem_map_of_mem hj))
  have plain : '.' ∉ "deleted_at".toList := by decide
  have decided : ∀ combined ∈ Select.combinations store joins (.ofRow m.table row),
      store.satisfiesTree combined (filtered m conditions joins scope).scopedConditions =
        (store.satisfiesTree combined conditions && scope.admits row) := by
    intro combined hcombined
    apply satisfies_scopedConditions (filtered m conditions joins scope) soft
    have kept := Select.lookup_of_mem_combinations plain foreign joinedUndotted hcombined
    exact kept.trans (Scope.lookup_ofRow_qualified m.table "deleted_at" rowUndotted)
  have everything : (filtered m conditions joins .everything).scopedConditions = conditions := by
    simp [scopedConditions, filtered]
  unfold Select.matching
  change (Select.combinations store joins (.ofRow m.table row)).filter
      (fun combined =>
        store.satisfiesTree combined (filtered m conditions joins scope).scopedConditions) =
    if scope.admits row then
      (Select.combinations store joins (.ofRow m.table row)).filter fun combined =>
        store.satisfiesTree combined (filtered m conditions joins .everything).scopedConditions
    else []
  rw [everything, List.filter_congr decided]
  cases scope.admits row with
  | true => simp
  | false => simp

/-- A scope answers the rows of all that it lets through, in their order. -/
theorem select_filtered (soft : m.traits.softDeletes = true)
    (foreign : ∀ join ∈ joins, join.table ≠ m.table)
    (undotted : ∀ table ∈ m.table :: joins.map (·.table), ∀ row ∈ store.rows table, row.Undotted)
    (scope : TrashScope) :
    store.select (filtered m conditions joins scope).statement =
      (store.select (filtered m conditions joins .everything).statement).filter scope.admits := by
  rw [store.select_unordered (whole_filtered scope) rfl,
    store.select_unordered (whole_filtered .everything) rfl, List.filter_flatMap]
  change (store.rows m.table).flatMap _ = (store.rows m.table).flatMap _
  unfold List.flatMap
  congr 1
  apply List.map_congr_left
  intro row hrow
  rw [matching_filtered soft foreign undotted scope hrow]
  have copies : ∀ copy ∈ (Select.matching store
      (filtered m conditions joins .everything).statement row).map (·.base), copy = row := by
    intro copy hcopy
    obtain ⟨combined, hcombined, rfl⟩ := List.mem_map.1 hcopy
    exact Select.base_of_mem_matching hcombined
  cases admitted : scope.admits row with
  | true =>
    rw [if_pos rfl, List.filter_eq_self.2]
    intro copy hcopy
    rw [copies copy hcopy, admitted]
  | false =>
    rw [if_neg (by decide), List.map_nil, List.filter_eq_nil_iff.2]
    intro copy hcopy
    rw [copies copy hcopy, admitted]
    decide

/-- An update under the untrashed scope changes no trashed row, whatever it sets. -/
theorem update_keepsTrash (soft : m.traits.softDeletes = true)
    (undotted : ∀ row ∈ store.rows m.table, row.Undotted) (values : Row) :
    store.KeepsTrash m.table (store.update
      { table := m.table, values,
        conditions := (filtered m conditions joins .untrashed).scopedConditions }).2 := by
  intro place row hplace trashed
  have rowUndotted := undotted row (List.mem_of_getElem? hplace)
  have passed : store.selects m.table
      (filtered m conditions joins .untrashed).scopedConditions row = false := by
    unfold Store.selects
    rw [satisfies_scopedConditions (filtered m conditions joins .untrashed) soft
      (Scope.lookup_ofRow_qualified m.table "deleted_at" rowUndotted)]
    simp [filtered, TrashScope.admits, trashed]
  unfold Store.update
  simp only [Store.rows_setRows_self, List.getElem?_map, hplace, Option.map_some, passed,
    Bool.false_eq_true, if_false]

/-- A bulk change of the untrashed rows leaves the others in their places, also when it is
refused. -/
theorem setAll_keepsTrash (soft : m.traits.softDeletes = true) {db : Database} {s : Session}
    (opened : s.engine.storeOf db.handle = .ok store)
    (undotted : ∀ row ∈ store.rows m.table, row.Undotted) (values : Row) (validated : Bool) :
    ∃ after, ((filtered m conditions joins .untrashed).setAll values validated db s).2.engine.storeOf
        db.handle = .ok after ∧
      store.KeepsTrash m.table after := by
  by_cases refused : values.isEmpty = true ∨
      ∃ e, (m.checkRules values .update validated db s).1 = .error e
  · refine ⟨store, ?_, .refl m.table store⟩
    rw [setAll_refused (filtered m conditions joins .untrashed) refused]
    exact opened
  · obtain ⟨given, allowed⟩ := not_or.1 refused
    have passed : (m.checkRules values .update validated db s).1 = .ok () := by
      cases checked : (m.checkRules values .update validated db s).1 with
      | ok => rfl
      | error e => exact absurd ⟨e, checked⟩ allowed
    obtain ⟨s', sameEngine, ran⟩ := run_setAll (filtered m conditions joins .untrashed)
      (Bool.eq_false_iff.2 given) passed
    rw [← sameEngine] at opened
    rw [ran]
    exact ⟨_, (Task.run_update _ opened).2, update_keepsTrash soft undotted _⟩

/-- Moving the untrashed rows to the trash leaves those that are there in their places. -/
theorem delete_keepsTrash (soft : m.traits.softDeletes = true) {db : Database} {s : Session}
    (opened : s.engine.storeOf db.handle = .ok store)
    (undotted : ∀ row ∈ store.rows m.table, row.Undotted) :
    ∃ after, ((filtered m conditions joins .untrashed).delete db s).2.engine.storeOf
        db.handle = .ok after ∧
      store.KeepsTrash m.table after := by
  obtain ⟨s', sameEngine, ran⟩ :=
    run_delete_soft (filtered m conditions joins .untrashed) db s soft
  rw [← sameEngine] at opened
  rw [ran]
  exact ⟨_, (Task.run_update _ opened).2, update_keepsTrash soft undotted _⟩

/-- **The scope of the trash.** Whatever the conditions and the joins of other tables, the default
scope answers the untrashed rows of all and `trashed` the others, both in the order of all; counts
go by the same split, and bulk changes in the default scope leave trashed rows alone. -/
theorem splitsTrash (m : Model) (soft : m.traits.softDeletes = true) (conditions : ConditionTree)
    (joins : List Join) (foreign : ∀ join ∈ joins, join.table ≠ m.table)
    (db : Database) (s : Session) (store : Store)
    (opened : s.engine.storeOf db.handle = .ok store)
    (undotted : ∀ table ∈ m.table :: joins.map (·.table),
      ∀ row ∈ store.rows table, row.Undotted) :
    SplitsTrash (filtered m conditions joins) db s store := by
  let all := (store.select (filtered m conditions joins .everything).statement).map
    (Instance.ofRow m)
  have got (scope : TrashScope) : ((filtered m conditions joins scope).get db s).1 =
      .ok (all.filter fun i => scope.admits i.attributes) := by
    rw [run_get _ rfl opened, select_filtered soft foreign undotted scope, List.filter_map]
    rfl
  have counted (scope : TrashScope) : ((filtered m conditions joins scope).count db s).1 =
      .ok (Min.min ((all.filter fun i => scope.admits i.attributes).length : Int) maxInt64) := by
    rw [run_count _ (whole_filtered scope) opened,
      select_filtered soft foreign undotted scope, List.filter_map, List.length_map]
    rfl
  have unfiltered : (all.filter fun i => TrashScope.everything.admits i.attributes) = all :=
    List.filter_eq_self.2 fun _ _ => rfl
  have everything := got .everything
  rw [unfiltered] at everything
  have countedAll := counted .everything
  rw [unfiltered] at countedAll
  have tableUndotted := undotted m.table List.mem_cons_self
  exact
    { rows := ⟨all, everything, got .untrashed, got .trashed⟩
      counts := ⟨all, everything, countedAll, counted .untrashed, counted .trashed⟩
      update := fun values =>
        setAll_keepsTrash soft opened tableUndotted (m.filterFillable values) true
      forceUpdate := fun values =>
        setAll_keepsTrash soft opened tableUndotted (m.filterColumns values) false
      delete := delete_keepsTrash soft opened tableUndotted }

/-- Two notes, the second in the trash, and the tags that point at them. -/
def notes : Store :=
  { tables :=
      [("notes", [.ofFields [("deleted_at", .null), ("id", .int 1)],
        .ofFields [("deleted_at", .text "2024-05-01"), ("id", .int 2)]]),
       ("tags", [.ofFields [("note_id", .int 1)], .ofFields [("note_id", .int 2)]])] }

/-- The split of tagged notes by conditions with an OR of their own. -/
theorem splitsTrash_notes :
    (∀ table ∈ ["notes", "tags"], ∀ row ∈ notes.rows table, row.Undotted) ∧
    SplitsTrash
      (filtered (.bare "Note" "notes" [] { softDeletes := true })
        [(.and, .compare "id" .eq (.int 2)), (.or, .notNull "tags.note_id")]
        [⟨.inner, "tags", "tags.note_id", "notes.id"⟩])
      { registry := {} } { engine := { shared := notes }, clock := ⟨0⟩ } notes := by
  have undotted : ∀ table ∈ ["notes", "tags"], ∀ row ∈ notes.rows table, row.Undotted := by
    decide
  refine ⟨undotted, splitsTrash _ rfl _ _ ?_ _ _ _ rfl undotted⟩
  decide

end Query

end EntityStore
