import EntityStore.Proofs.KeyValues
import EntityStore.Proofs.Selection

/-!
# Sorted answers

Sorting puts one scope after the other behind the last that is not after it. Where the scopes are
compared by a rank (`Select.RankedBy`), leaving scopes out before or after sorting is the same
(`Select.sortScopes_filter`), and sorting changes nothing exactly where the ranks ascend already
(`Select.sortScopes_eq_self_iff`). A selection without joins sorts the rows of its table that it
selects (`Store.select_eq_sorted`).
-/

namespace EntityStore

namespace Select

variable {α : Type} [LinearOrder α] {rank : Scope → α} {orderBy : List Order} {x : Scope}
  {scopes sorted : List Scope}

/-- The scopes are compared by their ranks. -/
def RankedBy (orderBy : List Order) (rank : Scope → α) (scopes : List Scope) : Prop :=
  ∀ a ∈ scopes, ∀ b ∈ scopes, compareScopes a b orderBy = compare (rank a) (rank b)

/-- The ranks descend, as they do while scopes are being inserted. -/
def Descending (rank : Scope → α) (scopes : List Scope) : Prop :=
  scopes.Pairwise fun a b => rank b ≤ rank a

theorem RankedBy.of_subset (ranked : RankedBy orderBy rank scopes) (subset : sorted ⊆ scopes) :
    RankedBy orderBy rank sorted :=
  fun a ha b hb => ranked a (subset ha) b (subset hb)

theorem RankedBy.before_iff (ranked : RankedBy orderBy rank scopes) {a b : Scope}
    (ha : a ∈ scopes) (hb : b ∈ scopes) : compareScopes a b orderBy = .lt ↔ rank a < rank b := by
  rw [ranked a ha b hb]
  exact compare_lt_iff_lt

/-- By a column of keys, scopes are compared by the places of their keys. -/
theorem rankedBy_keys {name : String} (keys : ∀ scope ∈ scopes, (scope.lookup name).IsKey) :
    RankedBy [.column name .asc] (fun scope => (scope.lookup name).keyRank) scopes := by
  intro a ha b hb
  have byKey := (keys a ha).order_eq (keys b hb)
  unfold compareScopes
  simp only [if_true, compareScopes, byKey]
  split
  · next same => exact same.symm
  · rfl

/-- Without an order all scopes have one rank. -/
theorem rankedBy_nil (scopes : List Scope) : RankedBy [] (fun _ => 0) scopes :=
  fun _ _ _ _ => rfl

/-- A scope that is before the last one goes further to the front. -/
theorem insertScope_of_lt {last : Scope} (ranked : RankedBy orderBy rank (x :: last :: sorted))
    (less : rank x < rank last) (before : List Scope) :
    insertScope orderBy x (last :: before) = last :: insertScope orderBy x before := by
  have isBefore : compareScopes x last orderBy = .lt :=
    (ranked.before_iff List.mem_cons_self (List.mem_cons_of_mem _ List.mem_cons_self)).2 less
  rw [insertScope, if_pos isBefore]

/-- A scope that is not before the last one comes behind all. -/
theorem insertScope_of_le (ranked : RankedBy orderBy rank (x :: sorted))
    (above : ∀ y ∈ sorted, rank y ≤ rank x) : insertScope orderBy x sorted = x :: sorted := by
  cases sorted with
  | nil => rfl
  | cons last before =>
    have notBefore : ¬ compareScopes x last orderBy = .lt := by
      rw [ranked.before_iff List.mem_cons_self (List.mem_cons_of_mem _ List.mem_cons_self)]
      exact not_lt.2 (above last List.mem_cons_self)
    rw [insertScope, if_neg notBefore]

theorem insertScope_descending (ranked : RankedBy orderBy rank (x :: sorted))
    (descending : Descending rank sorted) : Descending rank (insertScope orderBy x sorted) := by
  induction sorted with
  | nil => exact List.pairwise_singleton _ _
  | cons last before ih =>
    obtain ⟨atMostLast, descendingBefore⟩ := List.pairwise_cons.1 descending
    by_cases less : rank x < rank last
    · rw [insertScope_of_lt ranked less]
      refine List.pairwise_cons.2 ⟨?_, ih (ranked.of_subset (by simp)) descendingBefore⟩
      intro y hy
      rcases List.mem_cons.1 ((insertScope_perm orderBy x before).mem_iff.1 hy) with rfl | hy
      · exact less.le
      · exact atMostLast y hy
    · have atMost : ∀ y ∈ last :: before, rank y ≤ rank x := by
        intro y hy
        rcases List.mem_cons.1 hy with rfl | hy
        · exact not_lt.1 less
        · exact (atMostLast y hy).trans (not_lt.1 less)
      rw [insertScope_of_le ranked atMost]
      exact List.pairwise_cons.2 ⟨atMost, descending⟩

/-- A scope is inserted among those that are kept as it is among all. -/
theorem filter_insertScope (ranked : RankedBy orderBy rank (x :: sorted))
    (descending : Descending rank sorted) (keep : Scope → Bool) :
    (insertScope orderBy x sorted).filter keep =
      if keep x then insertScope orderBy x (sorted.filter keep) else sorted.filter keep := by
  induction sorted with
  | nil => cases kept : keep x <;> simp [insertScope, kept]
  | cons last before ih =>
    obtain ⟨atMostLast, descendingBefore⟩ := List.pairwise_cons.1 descending
    have ih := ih (ranked.of_subset (by simp)) descendingBefore
    by_cases less : rank x < rank last
    · rw [insertScope_of_lt ranked less, List.filter_cons, List.filter_cons, ih]
      cases keep last <;> cases keep x <;> simp [insertScope_of_lt ranked less]
    · have atMost : ∀ y ∈ last :: before, rank y ≤ rank x := by
        intro y hy
        rcases List.mem_cons.1 hy with rfl | hy
        · exact not_lt.1 less
        · exact (atMostLast y hy).trans (not_lt.1 less)
      have kept : (last :: before).filter keep ⊆ last :: before := List.filter_subset_self _
      rw [insertScope_of_le ranked atMost, List.filter_cons,
        insertScope_of_le (ranked.of_subset (List.cons_subset_cons x kept))
          fun y hy => atMost y (kept hy)]

/-- One scope after the other: the ranks descend, and the scopes that are kept make the same
list. -/
theorem foldl_insertScope (ranked : RankedBy orderBy rank (scopes ++ sorted))
    (descending : Descending rank sorted) (keep : Scope → Bool) :
    Descending rank (scopes.foldl (fun sorted scope => insertScope orderBy scope sorted) sorted) ∧
      (scopes.foldl (fun sorted scope => insertScope orderBy scope sorted) sorted).filter keep =
        (scopes.filter keep).foldl (fun sorted scope => insertScope orderBy scope sorted)
          (sorted.filter keep) := by
  induction scopes generalizing sorted with
  | nil => exact ⟨descending, rfl⟩
  | cons x rest ih =>
    have here : RankedBy orderBy rank (x :: sorted) := ranked.of_subset (by simp)
    have inserted := insertScope_perm orderBy x sorted
    have later : RankedBy orderBy rank (rest ++ insertScope orderBy x sorted) := by
      refine ranked.of_subset ?_
      intro y hy
      rcases List.mem_append.1 hy with hy | hy
      · simp [hy]
      · rcases List.mem_cons.1 (inserted.mem_iff.1 hy) with rfl | hy <;> simp [*]
    obtain ⟨sortedAll, filtered⟩ := ih later (insertScope_descending here descending)
    refine ⟨sortedAll, ?_⟩
    rw [List.foldl_cons, filtered, filter_insertScope here descending, List.filter_cons]
    cases keep x <;> rfl

/-- Leaving scopes out before sorting or after it is the same. -/
theorem sortScopes_filter (ranked : RankedBy orderBy rank scopes) (keep : Scope → Bool) :
    (sortScopes orderBy scopes).filter keep = sortScopes orderBy (scopes.filter keep) := by
  unfold sortScopes
  split
  · rfl
  · rw [List.filter_reverse,
      (foldl_insertScope (by rwa [List.append_nil]) List.Pairwise.nil keep).2]
    rfl

/-- Sorting by columns makes the ranks ascend. -/
theorem sortScopes_ascending (ranked : RankedBy orderBy rank scopes)
    (columns : orderBy.contains .random = false) :
    (sortScopes orderBy scopes).Pairwise fun a b => rank a ≤ rank b := by
  unfold sortScopes
  rw [columns, if_neg (by decide)]
  exact List.pairwise_reverse.2
    (foldl_insertScope (by rwa [List.append_nil]) List.Pairwise.nil fun _ => true).1

/-- Scopes of ascending ranks are put in front of one another. -/
theorem foldl_insertScope_ascending (ranked : RankedBy orderBy rank (sorted.reverse ++ scopes))
    (ascending : (sorted.reverse ++ scopes).Pairwise fun a b => rank a ≤ rank b) :
    scopes.foldl (fun sorted scope => insertScope orderBy scope sorted) sorted =
      scopes.reverse ++ sorted := by
  induction scopes generalizing sorted with
  | nil => rfl
  | cons x rest ih =>
    have above : ∀ y ∈ sorted, rank y ≤ rank x := fun y hy =>
      (List.pairwise_append.1 ascending).2.2 y (List.mem_reverse.2 hy) x List.mem_cons_self
    have first : insertScope orderBy x sorted = x :: sorted :=
      insertScope_of_le (ranked.of_subset fun y hy => by
        rcases List.mem_cons.1 hy with rfl | hy <;> simp [*]) above
    have shifted : (x :: sorted).reverse ++ rest = sorted.reverse ++ x :: rest := by simp
    rw [List.foldl_cons, first, ih (by rwa [shifted]) (by rwa [shifted]), List.reverse_cons,
      List.append_assoc]
    rfl

/-- Sorting by columns changes nothing exactly where the ranks ascend already. -/
theorem sortScopes_eq_self_iff (ranked : RankedBy orderBy rank scopes)
    (columns : orderBy.contains .random = false) :
    sortScopes orderBy scopes = scopes ↔ scopes.Pairwise fun a b => rank a ≤ rank b := by
  constructor
  · intro unchanged
    rw [← unchanged]
    exact sortScopes_ascending ranked columns
  · intro ascending
    have inserted : scopes.foldl (fun sorted scope => insertScope orderBy scope sorted) [] =
        scopes.reverse ++ [] := foldl_insertScope_ascending ranked ascending
    unfold sortScopes
    rw [columns, if_neg (by decide), inserted, List.append_nil, List.reverse_reverse]

end Select

namespace Store

variable {α : Type} [LinearOrder α] {rank : Scope → α} {orderBy : List Order}

/-- The rows of a table that pass a test, in an order. -/
def sorted (store : Store) (table : String) (orderBy : List Order) (keep : Row → Bool) :
    List Row :=
  (Select.sortScopes orderBy (((store.rows table).filter keep).map (.ofRow table))).map (·.base)

/-- A selection without joins answers the rows that it selects, in its order. -/
theorem select_eq_sorted (store : Store) {statement : Select} (whole : statement.Whole)
    (unjoined : statement.joins = []) :
    store.select statement = store.sorted statement.table statement.orderBy
      (store.selects statement.table statement.conditions) := by
  have scopes : (store.rows statement.table).flatMap (Select.matching store statement) =
      ((store.rows statement.table).filter
        (store.selects statement.table statement.conditions)).map (.ofRow statement.table) := by
    rw [← Select.selectedScopes_eq store whole.groupBy]
    unfold Select.selectedScopes Select.joinedScopes
    rw [whole.groupBy, unjoined]
    simp only [List.isEmpty_nil, if_true, List.foldl_nil]
    rw [List.filter_map]
    rfl
  rw [store.select_whole whole, scopes]
  rfl

theorem mem_rows_of_sorted {store : Store} {table : String} {keep : Row → Bool} {row : Row}
    (mem : row ∈ store.sorted table orderBy keep) : row ∈ store.rows table := by
  obtain ⟨scope, hscope, rfl⟩ := List.mem_map.1 mem
  obtain ⟨row, hrow, rfl⟩ := List.mem_map.1 ((Select.sortScopes_perm _ _).mem_iff.1 hscope)
  exact (List.mem_filter.1 hrow).1

/-- Of the sorted rows, those that pass another test are the rows that pass both, sorted. -/
theorem sorted_filter {store : Store} {table : String}
    (ranked : Select.RankedBy orderBy rank ((store.rows table).map (.ofRow table)))
    (keep keep' : Row → Bool) :
    (store.sorted table orderBy keep).filter keep' =
      store.sorted table orderBy fun row => keep row && keep' row := by
  have shown : ((store.rows table).filter keep).map (Scope.ofRow table) ⊆
      (store.rows table).map (.ofRow table) :=
    List.map_subset _ (List.filter_subset_self _)
  unfold sorted
  rw [List.filter_map, Select.sortScopes_filter (ranked.of_subset shown), List.filter_map,
    List.filter_filter]
  congr 3
  apply List.filter_congr
  intro row _
  exact Bool.and_comm _ _

theorem sorted_congr (store : Store) {table : String} {keep keep' : Row → Bool}
    (same : ∀ row ∈ store.rows table, keep row = keep' row) :
    store.sorted table orderBy keep = store.sorted table orderBy keep' := by
  unfold sorted
  rw [List.filter_congr same]

theorem sorted_none (store : Store) (table : String) (orderBy : List Order) :
    store.sorted table orderBy (fun _ => false) = [] := by
  unfold sorted
  rw [List.filter_false]
  unfold Select.sortScopes
  split <;> rfl

/-- An order by columns leaves the rows in that of the table exactly where their ranks ascend. -/
theorem sorted_eq_filter_iff {store : Store} {table : String}
    (ranked : Select.RankedBy orderBy rank ((store.rows table).map (.ofRow table)))
    (columns : orderBy.contains .random = false) (keep : Row → Bool) :
    store.sorted table orderBy keep = (store.rows table).filter keep ↔
      ((store.rows table).filter keep).Pairwise fun a b =>
        rank (.ofRow table a) ≤ rank (.ofRow table b) := by
  have shown : ((store.rows table).filter keep).map (Scope.ofRow table) ⊆
      (store.rows table).map (.ofRow table) :=
    List.map_subset _ (List.filter_subset_self _)
  have unchanged := Select.sortScopes_eq_self_iff (ranked.of_subset shown) columns
  rw [List.pairwise_map] at unchanged
  rw [← unchanged]
  unfold sorted
  constructor
  · intro same
    have ofRows : ((Select.sortScopes orderBy (((store.rows table).filter keep).map
        (Scope.ofRow table))).map (·.base)).map (Scope.ofRow table) =
          Select.sortScopes orderBy (((store.rows table).filter keep).map (Scope.ofRow table)) := by
      rw [List.map_map]
      refine (List.map_congr_left fun scope hscope => ?_).trans (List.map_id _)
      obtain ⟨row, -, rfl⟩ := List.mem_map.1 ((Select.sortScopes_perm _ _).mem_iff.1 hscope)
      rfl
    rw [← ofRows, same]
  · intro same
    rw [same, List.map_map]
    exact List.map_id _

/-- Without an order the rows stay in that of the table. -/
theorem sorted_nil (store : Store) (table : String) (keep : Row → Bool) :
    store.sorted table [] keep = (store.rows table).filter keep := by
  unfold sorted
  rw [Select.sortScopes_nil, List.map_map]
  exact List.map_id _

end Store

end EntityStore
