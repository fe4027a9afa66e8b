import EntityStore.Proofs.RowUpdates
import EntityStore.Proofs.Write
import Mathlib.Data.List.Basic

/-!
# Statements that see one state

An update or a delete first finds the positions of the rows that its conditions select, and then goes
over the table: it changes the row in each position, or keeps the rows in the other positions. So
conditions on the very table that changes are asked of the rows as they were, and positions do not
shift under the statement. Here stands that the table is left as such a walk over it leaves it
(`Store.rows_update`, `Store.rows_delete`). Main result `Task.seesOneState`; both statements hit the
rows that a plain selection answers just before, and nothing else.
-/

namespace EntityStore

/-! ### Walking over a list -/

section

variable {α : Type} {test : α → Bool} {items : List α} {hit : List Nat} {n : Nat}

/-- The positions of the items that satisfy a test, in order. -/
def positions (test : α → Bool) (items : List α) : List Nat :=
  (items.zipIdx.filter fun item => test item.1).map (·.2)

/-- Changes the items in the positions, one position after the other. -/
def changeAt (change : α → α) (items : List α) (hit : List Nat) : List α :=
  hit.foldl (fun items n => items.modify n change) items

/-- Keeps the items that are not in the positions; the first item is in position `n`. -/
def keepOthers (hit : List Nat) (n : Nat) : List α → List α
  | [] => []
  | a :: rest =>
    if hit.contains n then keepOthers hit (n + 1) rest else a :: keepOthers hit (n + 1) rest

theorem mem_positions : n ∈ positions test items ↔ ∃ a, items[n]? = some a ∧ test a = true := by
  unfold positions
  rw [List.mem_map]
  constructor
  · rintro ⟨⟨a, n⟩, mem, rfl⟩
    obtain ⟨there, passes⟩ := List.mem_filter.1 mem
    exact ⟨a, List.mem_zipIdx_iff_getElem?.1 there, passes⟩
  · rintro ⟨a, there, passes⟩
    exact ⟨(a, n), List.mem_filter.2 ⟨List.mem_zipIdx_iff_getElem?.2 there, passes⟩, rfl⟩

theorem mem_positions_of_getElem? {a : α} (there : items[n]? = some a) :
    n ∈ positions test items ↔ test a = true := by
  simp [mem_positions, there]

theorem ascending_positions (test : α → Bool) (items : List α) :
    (positions test items).Pairwise (· < ·) := by
  have sub : (positions test items).Sublist (items.zipIdx.map (·.2)) :=
    List.Sublist.map _ List.filter_sublist
  rw [List.zipIdx_map_snd] at sub
  exact List.Pairwise.sublist sub List.pairwise_lt_range'

theorem map_filter_zipIdx (test : α → Bool) (items : List α) :
    (items.zipIdx.filter fun item => test item.1).map (·.1) = items.filter test := by
  have filtered := List.filter_map (f := Prod.fst) (p := test) (l := items.zipIdx)
  rw [List.zipIdx_map_fst] at filtered
  exact filtered.symm

/-- Items that are chosen with their positions are those in the positions. -/
theorem map_chosen (keep : α × Nat → Bool) (items : List α) :
    (items.zipIdx.filter keep).map (·.1) =
      ((items.zipIdx.filter keep).map (·.2)).filterMap (items[·]?) := by
  have reads : ∀ item ∈ items.zipIdx.filter keep, items[item.2]? = some item.1 := by
    intro item mem
    exact List.mem_zipIdx_iff_getElem?.1 (List.mem_filter.1 mem).1
  rw [List.filterMap_map, ← List.filterMap_eq_map]
  exact (List.filterMap_congr reads).symm

/-- The items in the positions are those that satisfy the test. -/
theorem filterMap_positions (test : α → Bool) (items : List α) :
    (positions test items).filterMap (items[·]?) = items.filter test :=
  (map_chosen _ items).symm.trans (map_filter_zipIdx test items)

/-- After the walk an item is changed if its position was hit. -/
theorem getElem?_changeAt {change : α → α} (nodup : hit.Nodup) (items : List α) (n : Nat) :
    (changeAt change items hit)[n]? =
      items[n]?.map fun a => if n ∈ hit then change a else a := by
  induction hit generalizing items with
  | nil => simp [changeAt]
  | cons first rest ih =>
    obtain ⟨once, nodup⟩ := List.nodup_cons.1 nodup
    change (changeAt change (items.modify first change) rest)[n]? = _
    rw [ih nodup, List.getElem?_modify]
    by_cases here : first = n
    · subst here
      cases items[first]? <;> simp [once]
    · simp [here, Ne.symm here]

theorem keepOthers_eq (hit : List Nat) (n : Nat) (items : List α) :
    keepOthers hit n items =
      ((items.zipIdx n).filter fun item => !hit.contains item.2).map (·.1) := by
  induction items generalizing n with
  | nil => rfl
  | cons a rest ih =>
    rw [keepOthers, List.zipIdx_cons, List.filter_cons, ih]
    cases hit.contains n <;> rfl

/-- What is kept after the walk are the items in the other positions, in their order. -/
theorem keepOthers_eq_filterMap (hit : List Nat) (items : List α) :
    keepOthers hit 0 items =
      ((List.range items.length).filter (· ∉ hit)).filterMap (items[·]?) := by
  have others : (items.zipIdx.filter fun item => !hit.contains item.2).map (·.2) =
      (List.range items.length).filter (· ∉ hit) := by
    have filtered := List.filter_map (f := Prod.snd) (p := fun n => !hit.contains n)
      (l := items.zipIdx)
    rw [List.zipIdx_map_snd, ← List.range_eq_range'] at filtered
    rw [← Function.comp_def (fun n => !hit.contains n) Prod.snd, ← filtered]
    exact List.filter_congr fun n _ => by simp
  rw [keepOthers_eq, map_chosen, others]

/-- Keeping the items that are not in the positions keeps those that do not satisfy the test. -/
theorem keepOthers_positions (test : α → Bool) (items : List α) :
    keepOthers (positions test items) 0 items = items.filter fun a => !test a := by
  have tells : ∀ item ∈ items.zipIdx,
      (!(positions test items).contains item.2) = !test item.1 := by
    intro item mem
    have there := List.mem_zipIdx_iff_getElem?.1 mem
    rw [Bool.eq_iff_iff]
    simp [mem_positions_of_getElem? there]
  rw [keepOthers_eq, List.filter_congr tells]
  exact map_filter_zipIdx (fun a => !test a) items

/-- Changing the items in the positions changes those that satisfy the test. -/
theorem changeAt_positions (change : α → α) (test : α → Bool) (items : List α) :
    changeAt change items (positions test items) =
      items.map fun a => if test a then change a else a := by
  apply List.ext_getElem?
  intro n
  rw [getElem?_changeAt ((ascending_positions test items).imp Nat.ne_of_lt), List.getElem?_map]
  cases there : items[n]? with
  | none => rfl
  | some a => simp [mem_positions_of_getElem? there]

end

/-! ### Statements on a store -/

namespace Store

variable (store : Store)

/-- The positions of the rows of a table that the conditions select. -/
def hits (table : String) (conditions : ConditionTree) : List Nat :=
  positions (store.selects table conditions) (store.rows table)

/-- An update leaves the table as changing the row in each position does. -/
theorem rows_update (statement : Update) :
    (store.update statement).2.rows statement.table =
      changeAt (·.merge statement.values) (store.rows statement.table)
        (store.hits statement.table statement.conditions) := by
  unfold update hits
  rw [changeAt_positions, rows_setRows_self]

/-- A delete leaves the table as keeping the rows in the other positions does. -/
theorem rows_delete (statement : Delete) :
    (store.delete statement).2.rows statement.table =
      keepOthers (store.hits statement.table statement.conditions) 0
        (store.rows statement.table) := by
  unfold delete hits
  rw [keepOthers_positions, rows_setRows_self]

/-- A plain selection answers the rows in the positions. -/
theorem select_hits (table : String) (conditions : ConditionTree) :
    store.select { table, conditions } =
      (store.hits table conditions).filterMap ((store.rows table)[·]?) := by
  unfold hits
  rw [filterMap_positions]
  exact store.select_unjoined ⟨rfl, rfl, rfl, rfl, rfl⟩ rfl rfl

theorem countP_selects (table : String) (conditions : ConditionTree) :
    (store.rows table).countP (store.selects table conditions) =
      (store.select { table, conditions }).length := by
  rw [select_hits, hits, filterMap_positions, List.countP_eq_length_filter]

end Store

/-! ### Statements through a handle -/

/-- Through the handle the table shows these rows, and nothing that any handle sees besides has
changed. -/
structure Engine.Leaves (before after : Engine) (handle : Handle) (table : String)
    (rows : List Row) : Prop where
  rows : after.tableOf handle table = .ok rows
  others : ∀ handle' table', (handle', table') ≠ (handle, table) →
    after.tableOf handle' table' = before.tableOf handle' table'

namespace Engine

variable {engine : Engine} {handle : Handle} {store : Store}

/-- A write that draws no keys changes its own table, for its own handle. -/
theorem leaves_write (opened : engine.storeOf handle = .ok store) {w : Write}
    (unkeyed : prepare engine.shared w = .ok (w, engine.shared)) {answer : Store.WriteAnswer}
    {changed : Store} (ran : store.write w = .ok (answer, changed)) :
    engine.Leaves (engine.write handle w).2 handle w.target (changed.rows w.target) := by
  have after := (write_unkeyed opened unkeyed ran).2
  constructor
  · rw [tableOf, after]
    rfl
  · intro handle' table' others
    by_cases same : handle' = handle
    · subst same
      have different : table' ≠ w.target := fun same => others (same ▸ rfl)
      rw [tableOf, after, tableOf, opened]
      exact congrArg Except.ok (Store.write_frame ran different).1
    · exact tableOf_write_of_ne same _

end Engine

namespace Task

variable {db : Database} {s : Session} {store : Store}

/-- The statements on the rows of a table that satisfy the conditions concern the rows in these
positions, as a plain selection answers them just before. -/
structure SeesOneState (db : Database) (s : Session) (table : String) (conditions : ConditionTree)
    (values : Row) (rows : List Row) (hit : List Nat) : Prop where
  ascending : hit.Pairwise (· < ·)
  selected : (select { table, conditions } db s).1 = .ok (hit.filterMap (rows[·]?))
  /-- The number that an update answers is the number of the selected rows. -/
  updates : (update { table, values, conditions } db s).1 =
    (select { table, conditions } db s).1.map List.length
  /-- Each of these rows takes on the values and keeps the rest; the other rows are as they were. -/
  updated : ∃ rows', s.engine.Leaves (update { table, values, conditions } db s).2.engine db.handle
      table rows' ∧ rows'.length = rows.length ∧
    ∀ n row, rows[n]? = some row → ∃ row', rows'[n]? = some row' ∧ (n ∉ hit → row' = row) ∧
      (n ∈ hit → ∀ name, row'.get? name = (values.get? name).or (row.get? name))
  /-- The number that a delete answers is the number of the selected rows. -/
  deletes : (delete { table, conditions } db s).1 =
    (select { table, conditions } db s).1.map List.length
  /-- The other rows are left, in their order. -/
  deleted : s.engine.Leaves (delete { table, conditions } db s).2.engine db.handle table
    (((List.range rows.length).filter (· ∉ hit)).filterMap (rows[·]?))

/-- **Statements see one state.** On any store, with any conditions, an update and a delete concern
the rows that a plain selection answers just before, and no other: they answer their number; the
update gives each of them the values, in its place, and the delete leaves the others in their order.
Nothing else changes, whatever handle looks at it. -/
theorem seesOneState (opened : s.engine.storeOf db.handle = .ok store) (table : String)
    (conditions : ConditionTree) (values : Row) :
    SeesOneState db s table conditions values (store.rows table) (store.hits table conditions) := by
  have listed : (select { table, conditions } db s).1 =
      .ok (store.select { table, conditions }) := by
    rw [run_select, Engine.select_eq, opened]
    rfl
  have ascending := ascending_positions (store.selects table conditions) (store.rows table)
  have nodup : (store.hits table conditions).Nodup := ascending.imp Nat.ne_of_lt
  constructor
  case ascending => exact ascending
  case selected => rw [listed, store.select_hits]
  case updates =>
    rw [listed, (run_update _ opened).1]
    exact congrArg Except.ok (store.countP_selects table conditions)
  case deletes =>
    rw [listed, (run_delete _ opened).1]
    exact congrArg Except.ok (store.countP_selects table conditions)
  case updated =>
    let statement : Update := { table, values, conditions }
    have leaves := Engine.leaves_write opened (w := .update statement) rfl rfl
    change s.engine.Leaves _ _ _ ((store.update statement).2.rows statement.table) at leaves
    rw [store.rows_update] at leaves
    have walked (n : Nat) :
        (changeAt (·.merge values) (store.rows table) (store.hits table conditions))[n]? = _ :=
      getElem?_changeAt nodup (store.rows table) n
    refine ⟨_, by rw [session_update]; exact leaves, ?_, fun n row there => ?_⟩
    · unfold Store.hits
      rw [changeAt_positions, List.length_map]
    · refine ⟨if n ∈ store.hits table conditions then row.merge values else row, ?_, ?_, ?_⟩
      · rw [walked, there]
        rfl
      · exact fun spared => if_neg spared
      · intro mem name
        rw [if_pos mem, Row.get?_merge]
  case deleted =>
    let statement : Delete := { table, conditions }
    have leaves := Engine.leaves_write opened (w := .delete statement) rfl rfl
    change s.engine.Leaves _ _ _ ((store.delete statement).2.rows statement.table) at leaves
    rw [store.rows_delete, keepOthers_eq_filterMap] at leaves
    rw [session_delete]
    exact leaves

/-- A node of a tree, with the number of the node above it. -/
def node (id above : Int) : Row :=
  .ofFields [("above", .int above), ("id", .int id)]

/-- A chain of three nodes, of which the first one is the root. -/
def chain : Store :=
  { tables := [("nodes", [node 1 0, node 2 1, node 3 2]), ("notes", [.ofFields [("id", .int 1)]])] }

/-- There is a node above. -/
def hasAbove : ConditionTree :=
  [(.and, .related false "nodes" ⟨"id", "nodes", "above"⟩ [])]

/-- Two nodes of the chain have one above them, and both are hit, although without the second node
there is none above the third. -/
theorem seesOneState_chain :
    chain.hits "nodes" hasAbove = [1, 2] ∧
      SeesOneState { registry := {} } { engine := { shared := chain }, clock := ⟨0⟩ } "nodes" hasAbove
        (.ofFields [("above", .null)]) [node 1 0, node 2 1, node 3 2] [1, 2] := by
  have hit : chain.hits "nodes" hasAbove = [1, 2] := by decide +kernel
  have one : SeesOneState { registry := {} } { engine := { shared := chain }, clock := ⟨0⟩ } "nodes"
      hasAbove (.ofFields [("above", .null)]) (chain.rows "nodes") (chain.hits "nodes" hasAbove) :=
    seesOneState rfl "nodes" hasAbove (.ofFields [("above", .null)])
  rw [hit] at one
  exact ⟨hit, one⟩

end Task

end EntityStore
