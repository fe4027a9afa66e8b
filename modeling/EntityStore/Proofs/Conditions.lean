import EntityStore.Store.Select

/-!
# What conditions see

Columns are in sight under `table.column` and under their plain names, so a name with a dot of its
own could pass for a column of another table. In rows without such names (`Row.Undotted`) the
qualified name of a column shows the row of its table (`Scope.lookup_ofRow_qualified`), and joining
a row of another table does not change that (`Scope.lookup_join_qualified`).

A condition added to an enclosed tree applies to the whole of it, however many ORs the tree holds
(`Store.satisfiesTree_enclosed_also`). And a tree asks nothing but the columns that it names and the
tables of its subqueries: where these agree, so does the tree (`Store.satisfiesTree_congr`).

Inside a subquery the columns of the inner row lie over those of the scope around it, so a name that
the inner row does not carry shows what is outside (`Scope.get?_nested`). A row is apart from the
scope when that cannot be told: each name that is asked for is shown by the row itself or shows
nothing around it (`Scope.Apart`). Conditions then say of the row what they say of it alone
(`Scope.Apart.agree`).
-/

namespace EntityStore

/-! ### What a scope shows -/

/-- No column of the row has a dot in its name. -/
def Row.Undotted (row : Row) : Prop :=
  ∀ name ∈ row.keys, '.' ∉ name.toList

instance (row : Row) : Decidable row.Undotted :=
  inferInstanceAs (Decidable (∀ name ∈ row.keys, '.' ∉ name.toList))

/-- A text is cut at its last dot in one way only. -/
theorem append_dot_inj {before before' after after' : List Char} (h : '.' ∉ after)
    (h' : '.' ∉ after') (same : before ++ '.' :: after = before' ++ '.' :: after') :
    before = before' ∧ after = after' := by
  rcases List.append_eq_append_iff.1 same with ⟨middle, hb, ha⟩ | ⟨middle, hb, ha⟩
  · cases middle with
    | nil => simp_all
    | cons c rest =>
      obtain ⟨_, tail⟩ := List.cons_eq_cons.1 ha
      exact absurd (tail ▸ List.mem_append_right rest List.mem_cons_self) h
  · cases middle with
    | nil => simp_all
    | cons c rest =>
      obtain ⟨_, tail⟩ := List.cons_eq_cons.1 ha
      exact absurd (tail ▸ List.mem_append_right rest List.mem_cons_self) h'

theorem toList_qualified (table column : String) :
    (qualified table column).toList = table.toList ++ '.' :: column.toList := by
  simp [qualified]

theorem dot_mem_qualified (table column : String) : '.' ∈ (qualified table column).toList := by
  rw [toList_qualified]
  exact List.mem_append_right _ List.mem_cons_self

/-- The qualified names of one table differ where the columns do. -/
theorem qualified_inj_right {table column column' : String} :
    qualified table column = qualified table column' ↔ column = column' := by
  constructor
  · intro same
    have := congrArg String.toList same
    rw [toList_qualified, toList_qualified] at this
    have := List.append_cancel_left this
    exact String.toList_inj.1 (List.cons.inj this).2
  · intro same
    rw [same]

/-- Undotted columns of two tables have different qualified names. -/
theorem qualified_ne_of_table {table table' column column' : String} (h : '.' ∉ column.toList)
    (h' : '.' ∉ column'.toList) (tables : table ≠ table') :
    qualified table column ≠ qualified table' column' := by
  intro same
  have := congrArg String.toList same
  rw [toList_qualified, toList_qualified] at this
  exact tables (String.toList_inj.1 (append_dot_inj h h' this).1)

namespace Scope

/-- A qualified name shows the row's own column, else what was in sight before, if no column of the
row has that very name. -/
theorem get?_withRow_of_unhidden (columns : Row) (table column : String) {row : Row}
    (unhidden : qualified table column ∉ row.keys) :
    (withRow columns table row).get? (qualified table column) =
      (row.get? column).or (columns.get? (qualified table column)) := by
  obtain ⟨fields, ascending⟩ := row
  unfold withRow Row.get?
  unfold Row.keys at unhidden
  simp only at unhidden ⊢
  induction fields generalizing columns with
  | nil => rfl
  | cons field rest ih =>
    obtain ⟨k, v⟩ := field
    rw [List.map_cons, List.mem_cons, not_or] at unhidden
    rw [List.foldl_cons, ih _ (List.pairwise_cons.1 ascending).2 unhidden.2]
    change (fieldOf? column rest).or (Row.get? _ _) = _
    rw [Row.get?_insert_of_ne _ _ unhidden.1, Row.get?_insert, fieldOf?]
    by_cases same : k = column
    · subst same
      rw [ascending.fieldOf?_tail, if_pos rfl, if_pos rfl]
      rfl
    · rw [if_neg same, if_neg fun e => same (qualified_inj_right.1 e).symm]
      rfl

/-- Names without dots hide no qualified name. -/
theorem unhidden_of_undotted (table column : String) {row : Row} (undotted : row.Undotted) :
    qualified table column ∉ row.keys :=
  fun mem => undotted _ mem (dot_mem_qualified table column)

/-- In the scope of a row, a qualified name that is not hidden shows the column of the row. -/
theorem lookup_qualified_of_unhidden {table column : String} {row : Row}
    (unhidden : qualified table column ∉ row.keys) :
    (ofRow table row).lookup (qualified table column) = (row.get? column).getD .null := by
  unfold ofRow lookup
  rw [get?_withRow_of_unhidden _ _ _ unhidden, Row.get?_empty, Option.or_none]

theorem lookup_ofRow_qualified (table column : String) {row : Row} (undotted : row.Undotted) :
    (ofRow table row).lookup (qualified table column) = (row.get? column).getD .null :=
  lookup_qualified_of_unhidden (unhidden_of_undotted table column undotted)

/-- Joining a row does not change the names that none of its columns takes. -/
theorem lookup_join_of_ne (scope : Scope) {table name : String} {row : Row}
    (free : ∀ column ∈ row.keys, name ≠ qualified table column) :
    (scope.join table row).lookup name = scope.lookup name := by
  unfold lookup join
  simp only
  unfold Row.keys at free
  generalize row.fields = fields at free
  generalize scope.columns = columns
  induction fields generalizing columns with
  | nil => rfl
  | cons field rest ih =>
    rw [List.foldl_cons, ih fun column hc => free column (List.mem_cons_of_mem _ hc),
      Row.get?_insert_of_ne _ _ (free field.1 List.mem_cons_self)]

/-- Joining a row of another table leaves the qualified columns of a table as they are. -/
theorem lookup_join_qualified (scope : Scope) {table other column : String} {row : Row}
    (undotted : row.Undotted) (plain : '.' ∉ column.toList) (different : other ≠ table) :
    (scope.join other row).lookup (qualified table column) =
      scope.lookup (qualified table column) := by
  apply lookup_join_of_ne
  intro name hname
  exact qualified_ne_of_table plain (undotted name hname) different.symm

end Scope

/-! ### What decides a condition -/

namespace ConditionTree

theorem hasOr_enclosed (tree : ConditionTree) : tree.enclosed.hasOr = false := by
  unfold enclosed
  split
  · rfl
  · next h => exact Bool.eq_false_iff.2 h

end ConditionTree

namespace Store

/-- Without an OR the rest of a tree is one segment. -/
theorem satisfiesRest_also (store : Store) (scope : Scope) (segment : Bool) {tree : ConditionTree}
    (plain : tree.hasOr = false) (c : Condition) :
    store.satisfiesRest scope segment (tree.also c) =
      (store.satisfiesRest scope segment tree && store.satisfies scope c) := by
  induction tree generalizing segment with
  | nil => simp [ConditionTree.also, satisfiesRest]
  | cons node rest ih =>
    obtain ⟨conjunction, condition⟩ := node
    obtain ⟨joinedByAnd, restPlain⟩ :
        conjunction ≠ .or ∧ ConditionTree.hasOr rest = false := by
      simpa [ConditionTree.hasOr] using plain
    change store.satisfiesRest scope segment ((conjunction, condition) :: ConditionTree.also rest c) = _
    rw [satisfiesRest, satisfiesRest, if_neg joinedByAnd, if_neg joinedByAnd, ih _ restPlain]

theorem satisfiesTree_also (store : Store) (scope : Scope) {tree : ConditionTree}
    (plain : tree.hasOr = false) (c : Condition) :
    store.satisfiesTree scope (tree.also c) =
      (store.satisfiesTree scope tree && store.satisfies scope c) := by
  cases tree with
  | nil => simp [ConditionTree.also, satisfiesTree, satisfiesRest]
  | cons node rest =>
    obtain ⟨conjunction, condition⟩ := node
    have restPlain : ConditionTree.hasOr rest = false := by
      simp only [ConditionTree.hasOr, List.any_cons, Bool.or_eq_false_iff] at plain
      exact plain.2
    change store.satisfiesTree scope ((conjunction, condition) :: ConditionTree.also rest c) = _
    rw [satisfiesTree, satisfiesTree, satisfiesRest_also store scope _ restPlain]

/-- Enclosing a tree does not change what it says. -/
theorem satisfiesTree_enclosed (store : Store) (scope : Scope) (tree : ConditionTree) :
    store.satisfiesTree scope tree.enclosed = store.satisfiesTree scope tree := by
  unfold ConditionTree.enclosed
  split
  · rw [satisfiesTree, satisfiesRest, satisfies]
  · rfl

/-- A condition added to an enclosed tree applies to every segment. -/
theorem satisfiesTree_enclosed_also (store : Store) (scope : Scope) (tree : ConditionTree)
    (c : Condition) :
    store.satisfiesTree scope (tree.enclosed.also c) =
      (store.satisfiesTree scope tree && store.satisfies scope c) := by
  rw [satisfiesTree_also store scope tree.hasOr_enclosed, satisfiesTree_enclosed]

end Store

mutual

/-- The columns that a condition looks up, those of its subqueries included. -/
def Condition.columnNames : Condition → List String
  | .compare column _ _ | .isIn column _ | .notIn column _ | .isNull column | .notNull column
  | .between column _ _ => [column]
  | .columns first _ second => [first, second]
  | .group tree => treeColumnNames tree
  | .related _ _ correlation tree =>
    correlation.inner :: qualified correlation.outerTable correlation.outerColumn ::
      treeColumnNames tree

/-- The columns that the conditions of a tree look up. -/
def treeColumnNames : ConditionTree → List String
  | [] => []
  | (_, c) :: rest => c.columnNames ++ treeColumnNames rest

end

mutual

/-- The tables of the subqueries of a condition. -/
def Condition.tables : Condition → List String
  | .compare .. | .columns .. | .isIn .. | .notIn .. | .isNull _ | .notNull _ | .between .. => []
  | .group tree => treeTables tree
  | .related _ table _ tree => table :: treeTables tree

/-- The tables of the subqueries of a tree. -/
def treeTables : ConditionTree → List String
  | [] => []
  | (_, c) :: rest => c.tables ++ treeTables rest

end

namespace Scope

/-- The scopes show the same under every one of the names. -/
def Agree (names : List String) (a b : Scope) : Prop :=
  ∀ name ∈ names, a.lookup name = b.lookup name

theorem Agree.mono {names less : List String} {a b : Scope} (h : Agree names a b)
    (sub : less ⊆ names) : Agree less a b :=
  fun name hn => h name (sub hn)

/-- A subquery row hides the same columns of both scopes. -/
theorem Agree.nested {names : List String} {a b : Scope} (h : Agree names a b) (table : String)
    (row : Row) : Agree names (a.nested table row) (b.nested table row) := by
  intro name hname
  have same := h name hname
  unfold lookup Scope.nested withRow at *
  simp only at same ⊢
  generalize a.columns = columns at same ⊢
  generalize b.columns = columns' at same ⊢
  induction row.fields generalizing columns columns' with
  | nil => exact same
  | cons field rest ih =>
    apply ih
    simp only [Row.get?_insert]
    split
    · rfl
    · split
      · rfl
      · exact same

end Scope

/-- The stores hold the same rows in every one of the tables. -/
def Store.Agree (tables : List String) (a b : Store) : Prop :=
  ∀ table ∈ tables, a.rows table = b.rows table

theorem Store.Agree.mono {tables less : List String} {a b : Store} (h : Store.Agree tables a b)
    (sub : less ⊆ tables) : Store.Agree less a b :=
  fun table ht => h table (sub ht)

namespace Store

variable {store store' : Store}

mutual

/-- A condition depends on the columns that it names and the tables of its subqueries only. -/
theorem satisfies_congr {scope scope' : Scope} (c : Condition)
    (tables : Store.Agree c.tables store store')
    (columns : Scope.Agree c.columnNames scope scope') :
    store.satisfies scope c = store'.satisfies scope' c := by
  cases c with
  | compare column operator value =>
    have same := columns column List.mem_cons_self
    rw [satisfies, satisfies, same]
  | columns first operator second =>
    have sameFirst := columns first List.mem_cons_self
    have sameSecond := columns second (List.mem_cons_of_mem _ List.mem_cons_self)
    rw [satisfies, satisfies, sameFirst, sameSecond]
  | isIn column values =>
    have same := columns column List.mem_cons_self
    rw [satisfies, satisfies, same]
  | notIn column values =>
    have same := columns column List.mem_cons_self
    rw [satisfies, satisfies, same]
  | isNull column =>
    have same := columns column List.mem_cons_self
    rw [satisfies, satisfies, same]
  | notNull column =>
    have same := columns column List.mem_cons_self
    rw [satisfies, satisfies, same]
  | between column low high =>
    have same := columns column List.mem_cons_self
    rw [satisfies, satisfies, same]
  | group tree =>
    rw [satisfies, satisfies]
    exact satisfiesTree_congr tree tables columns
  | related negated table correlation tree =>
    rw [Condition.tables] at tables
    rw [Condition.columnNames] at columns
    have sameRows := tables table List.mem_cons_self
    have sameOuter := columns (qualified correlation.outerTable correlation.outerColumn)
      (List.mem_cons_of_mem _ List.mem_cons_self)
    have inner (row : Row) :
        (((scope.nested table row).lookup correlation.inner).looseEq
            (scope.lookup (qualified correlation.outerTable correlation.outerColumn)) &&
          store.satisfiesTree (scope.nested table row) tree) =
        (((scope'.nested table row).lookup correlation.inner).looseEq
            (scope'.lookup (qualified correlation.outerTable correlation.outerColumn)) &&
          store'.satisfiesTree (scope'.nested table row) tree) := by
      have nested := columns.nested table row
      rw [nested correlation.inner List.mem_cons_self, sameOuter,
        satisfiesTree_congr tree (tables.mono fun _ h => List.mem_cons_of_mem _ h)
          (nested.mono fun _ h => List.mem_cons_of_mem _ (List.mem_cons_of_mem _ h))]
    simp only [satisfies, sameRows, inner]

/-- A tree depends on the columns that it names and the tables of its subqueries only. -/
theorem satisfiesTree_congr {scope scope' : Scope} (tree : ConditionTree)
    (tables : Store.Agree (treeTables tree) store store')
    (columns : Scope.Agree (treeColumnNames tree) scope scope') :
    store.satisfiesTree scope tree = store'.satisfiesTree scope' tree := by
  cases tree with
  | nil => rw [satisfiesTree, satisfiesTree]
  | cons node rest =>
    obtain ⟨conjunction, c⟩ := node
    rw [treeTables] at tables
    rw [treeColumnNames] at columns
    rw [satisfiesTree, satisfiesTree,
      satisfies_congr c (tables.mono (List.subset_append_left _ _))
        (columns.mono (List.subset_append_left _ _))]
    exact satisfiesRest_congr rest _ (tables.mono (List.subset_append_right _ _))
      (columns.mono (List.subset_append_right _ _))

theorem satisfiesRest_congr {scope scope' : Scope} (tree : ConditionTree) (segment : Bool)
    (tables : Store.Agree (treeTables tree) store store')
    (columns : Scope.Agree (treeColumnNames tree) scope scope') :
    store.satisfiesRest scope segment tree = store'.satisfiesRest scope' segment tree := by
  cases tree with
  | nil => rw [satisfiesRest, satisfiesRest]
  | cons node rest =>
    obtain ⟨conjunction, c⟩ := node
    rw [treeTables] at tables
    rw [treeColumnNames] at columns
    have first := satisfies_congr c (tables.mono (List.subset_append_left _ _))
      (columns.mono (List.subset_append_left _ _))
    have tail (segment : Bool) := satisfiesRest_congr rest segment
      (tables.mono (List.subset_append_right _ _)) (columns.mono (List.subset_append_right _ _))
    rw [satisfiesRest, satisfiesRest, first]
    split
    · rw [tail]
    · exact tail _

end

/-- Whether a statement selects a row depends on the tables of its subqueries only. -/
theorem selects_congr {table : String} {conditions : ConditionTree}
    (tables : Store.Agree (treeTables conditions) store store') (row : Row) :
    store.selects table conditions row = store'.selects table conditions row :=
  satisfiesTree_congr conditions tables fun _ _ => rfl

end Store

/-! ### What is in sight inside a subquery -/

/-- The value of a column, null when the row does not carry it. -/
def Row.value (row : Row) (column : String) : Value :=
  (row.get? column).getD .null

theorem ne_qualified {name : String} (plain : '.' ∉ name.toList) (table column : String) :
    name ≠ qualified table column :=
  fun same => plain (same ▸ dot_mem_qualified table column)

namespace Scope

/-- The names that a row brings along lie over those in sight before. -/
theorem get?_withRow (columns : Row) (table : String) (row : Row) (name : String) :
    (withRow columns table row).get? name =
      ((withRow .empty table row).get? name).or (columns.get? name) := by
  unfold withRow
  generalize row.fields = fields
  -- Both folds begin with the first field, the second one over nothing else.
  induction fields generalizing columns with
  | nil => rfl
  | cons field rest ih =>
    obtain ⟨k, v⟩ := field
    rw [List.foldl_cons, List.foldl_cons, ih, ih ((Row.empty.insert _ _).insert _ _)]
    simp only [Row.get?_insert, Row.get?_empty]
    cases Row.get? (rest.foldl _ Row.empty) name with
    | some w => rfl
    | none =>
      simp only [Option.none_or]
      split
      · rfl
      · split <;> rfl

/-- A name without a dot shows the row's own column, else what was in sight before. -/
theorem get?_withRow_plain (columns : Row) (table : String) (row : Row) {name : String}
    (plain : '.' ∉ name.toList) :
    (withRow columns table row).get? name = (row.get? name).or (columns.get? name) := by
  obtain ⟨fields, ascending⟩ := row
  unfold withRow Row.get?
  simp only
  induction fields generalizing columns with
  | nil => rfl
  | cons field rest ih =>
    obtain ⟨k, v⟩ := field
    rw [List.foldl_cons, ih _ (List.pairwise_cons.1 ascending).2]
    change (fieldOf? name rest).or (Row.get? _ _) = _
    rw [Row.get?_insert, Row.get?_insert_of_ne _ _ (ne_qualified plain table k), fieldOf?]
    by_cases same : name = k
    · subst same
      rw [ascending.fieldOf?_tail, if_pos rfl, if_pos rfl]
      rfl
    · rw [if_neg same, if_neg (Ne.symm same)]
      rfl

theorem lookup_ofRow (table : String) (row : Row) {name : String} (plain : '.' ∉ name.toList) :
    (ofRow table row).lookup name = row.value name := by
  unfold ofRow lookup
  rw [get?_withRow_plain _ _ _ plain, Row.get?_empty, Option.or_none]
  rfl

theorem value_ofRow_qualified (table column : String) {row : Row} (undotted : row.Undotted) :
    (ofRow table row).lookup (qualified table column) = row.value column :=
  lookup_ofRow_qualified table column undotted

/-- The name shows something in the scope, be it null. -/
def Shows (scope : Scope) (name : String) : Prop :=
  (scope.columns.get? name).isSome

instance (scope : Scope) (name : String) : Decidable (scope.Shows name) :=
  inferInstanceAs (Decidable ((scope.columns.get? name).isSome = true))

theorem shows_ofRow {table : String} {row : Row} {name : String} (plain : '.' ∉ name.toList) :
    (ofRow table row).Shows name ↔ (row.get? name).isSome := by
  unfold Shows ofRow
  rw [get?_withRow_plain _ _ _ plain, Row.get?_empty, Option.or_none]

/-- Inside a subquery a name shows the inner row, else what is around it. -/
theorem get?_nested (scope : Scope) (table : String) (row : Row) (name : String) :
    (scope.nested table row).columns.get? name =
      ((ofRow table row).columns.get? name).or (scope.columns.get? name) :=
  get?_withRow scope.columns table row name

theorem lookup_nested_of_shows {scope : Scope} {table : String} {row : Row} {name : String}
    (shows : (ofRow table row).Shows name) :
    (scope.nested table row).lookup name = (ofRow table row).lookup name := by
  unfold lookup
  rw [get?_nested]
  obtain ⟨v, hv⟩ := Option.isSome_iff_exists.1 shows
  rw [hv]
  rfl

theorem lookup_nested_of_not_shows {scope : Scope} {table : String} {row : Row} {name : String}
    (hidden : ¬ (ofRow table row).Shows name) :
    (scope.nested table row).lookup name = scope.lookup name := by
  unfold lookup
  rw [get?_nested, Option.not_isSome_iff_eq_none.1 hidden, Option.none_or]

/-- Each of the names is shown by the row of the table itself, or shows nothing around it. -/
def Apart (scope : Scope) (table : String) (row : Row) (names : List String) : Prop :=
  ∀ name ∈ names, (ofRow table row).Shows name ∨ scope.lookup name = .null

instance (scope : Scope) (table : String) (row : Row) (names : List String) :
    Decidable (scope.Apart table row names) :=
  inferInstanceAs (Decidable (∀ _ ∈ names, _ ∨ _))

/-- A row that is apart shows inside the scope what it shows alone. -/
theorem Apart.agree {scope : Scope} {table : String} {row : Row} {names : List String}
    (apart : scope.Apart table row names) :
    Agree names (scope.nested table row) (ofRow table row) := by
  intro name hname
  by_cases shows : (ofRow table row).Shows name
  · exact lookup_nested_of_shows shows
  · rw [lookup_nested_of_not_shows shows, (apart name hname).resolve_left shows]
    unfold lookup
    rw [Option.not_isSome_iff_eq_none.1 shows]
    rfl

/-- A qualified name of another table shows nothing of a row. -/
theorem lookup_nested_qualified {scope : Scope} {table other column : String} {row : Row}
    (undotted : row.Undotted) (plain : '.' ∉ column.toList) (different : table ≠ other) :
    (scope.nested table row).lookup (qualified other column) =
      scope.lookup (qualified other column) := by
  apply lookup_nested_of_not_shows
  rw [Shows, Bool.not_eq_true, Option.isSome_eq_false_iff, Option.isNone_iff_eq_none]
  unfold ofRow withRow
  unfold Row.Undotted Row.keys at undotted
  generalize row.fields = fields at undotted
  -- Of the two names of each column one has another table and the other has no dot.
  have free : ∀ sight : Row, sight.get? (qualified other column) = none →
      (fields.foldl (fun (sight : Row) field =>
        (sight.insert (qualified table field.1) field.2).insert field.1 field.2) sight).get?
          (qualified other column) = none := by
    induction fields with
    | nil => exact fun _ h => h
    | cons field rest ih =>
      intro sight h
      have fieldPlain : '.' ∉ field.1.toList := undotted field.1 List.mem_cons_self
      refine ih (fun name hn => undotted name (List.mem_cons_of_mem _ hn)) _ ?_
      rw [Row.get?_insert_of_ne _ _ (ne_qualified fieldPlain other column).symm,
        Row.get?_insert_of_ne _ _ (qualified_ne_of_table plain fieldPlain different.symm), h]
  exact free .empty rfl

theorem lookup_ofRow_other {table other column : String} {row : Row} (undotted : row.Undotted)
    (plain : '.' ∉ column.toList) (different : table ≠ other) :
    (ofRow table row).lookup (qualified other column) = .null := by
  have alone : ofRow table row = (Scope.mk .empty .empty).nested table row := rfl
  rw [alone, lookup_nested_qualified undotted plain different]
  rfl

end Scope

end EntityStore
