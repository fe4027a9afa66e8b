import EntityStore.Proofs.Trash
import Mathlib.Data.List.Basic

/-!
# The rows that bulk changes hit

Fetching a query and changing its rows in bulk lower the same query into different statements: a
selection carries the joins, an update or a delete does not. So a bulk change hits the rows that the
conditions select by themselves (`Query.hits_delete`, `Query.hits_forceUpdate`), and these are the
fetched ones under a condition that `Query.changesFetched_iff` states.
-/

namespace EntityStore

/-- The table is left with what the effect makes of each hit row, `none` where it removes it, and
with the other rows as they were. -/
structure Store.Changed (table : String) (hit : Row → Bool) (effect : Row → Option Row)
    (before after : Store) (count : Nat) : Prop where
  rows : after.rows table =
    (before.rows table).filterMap fun row => if hit row then effect row else some row
  others : ∀ other, other ≠ table → after.rows other = before.rows other
  count : count = (before.rows table).countP hit

/-- In every session that runs on the store, the task succeeds, hits these rows of the table and
answers their number. -/
def Task.Hits (task : Task Nat) (table : String) (hit : Row → Bool)
    (effect : Session → Row → Option Row) (store : Store) : Prop :=
  ∀ (db : Database) (s : Session), s.engine.storeOf db.handle = .ok store →
    ∃ count after, (task db s).1 = .ok count ∧
      (task db s).2.engine.storeOf db.handle = .ok after ∧
      store.Changed table hit (effect s) after count

namespace Store

variable {store : Store}

theorem changed_update (store : Store) (statement : Update) :
    store.Changed statement.table (store.selects statement.table statement.conditions)
      (fun row => some (row.merge statement.values))
      (store.update statement).2 (store.update statement).1 where
  rows := by
    unfold update
    rw [rows_setRows_self, ← List.filterMap_eq_map]
    apply List.filterMap_congr
    intro row _
    simp only [Function.comp_apply]
    split <;> rfl
  others := fun other different => rows_setRows_of_ne store _ different
  count := rfl

theorem changed_delete (store : Store) (statement : Delete) :
    store.Changed statement.table (store.selects statement.table statement.conditions)
      (fun _ => none) (store.delete statement).2 (store.delete statement).1 where
  rows := by
    unfold delete
    rw [rows_setRows_self, ← List.filterMap_eq_filter]
    apply List.filterMap_congr
    intro row _
    cases hit : store.selects statement.table statement.conditions row <;> simp [Option.guard, hit]
  others := fun other different => rows_setRows_of_ne store _ different
  count := rfl

/-- Only what is said of the rows of the table matters. -/
theorem Changed.congr {table : String} {hit hit' : Row → Bool} {effect : Row → Option Row}
    {after : Store} {count : Nat} (h : store.Changed table hit effect after count)
    (same : ∀ row ∈ store.rows table, hit row = hit' row) :
    store.Changed table hit' effect after count where
  rows := by
    rw [h.rows]
    apply List.filterMap_congr
    intro row hrow
    rw [same row hrow]
  others := h.others
  count := by
    rw [h.count]
    apply List.countP_congr
    intro row hrow
    rw [same row hrow]

/-- Where hit rows are removed, the others stay. -/
theorem Changed.mem_rows {table : String} {hit : Row → Bool} {after : Store} {count : Nat}
    (h : store.Changed table hit (fun _ => none) after count) {row : Row} :
    row ∈ after.rows table ↔ row ∈ store.rows table ∧ hit row = false := by
  rw [h.rows, List.mem_filterMap]
  constructor
  · rintro ⟨old, hold, kept⟩
    split at kept
    · cases kept
    · next spared =>
      cases kept
      exact ⟨hold, Bool.eq_false_iff.2 spared⟩
  · rintro ⟨hrow, spared⟩
    exact ⟨row, hrow, by rw [spared]; rfl⟩

/-- Where hit rows are replaced, every row keeps its place. -/
theorem Changed.rows_eq_map {table : String} {hit : Row → Bool} {replaced : Row → Row}
    {after : Store} {count : Nat}
    (h : store.Changed table hit (fun row => some (replaced row)) after count) :
    after.rows table = (store.rows table).map fun row => if hit row then replaced row else row := by
  rw [h.rows, ← List.filterMap_eq_map]
  apply List.filterMap_congr
  intro row _
  simp only [Function.comp_apply]
  split <;> rfl

/-- Two accounts of one removal agree on the rows that it hits. -/
theorem Changed.hit_eq_of_removed {table : String} {hit hit' : Row → Bool} {after : Store}
    {count count' : Nat} (h : store.Changed table hit (fun _ => none) after count)
    (h' : store.Changed table hit' (fun _ => none) after count') {row : Row}
    (hrow : row ∈ store.rows table) : hit row = hit' row := by
  have kept : hit row = false ↔ hit' row = false :=
    calc hit row = false ↔ row ∈ after.rows table := by rw [h.mem_rows, and_iff_right hrow]
      _ ↔ hit' row = false := by rw [h'.mem_rows, and_iff_right hrow]
  by_contra different
  rw [Bool.eq_not_of_ne different] at kept
  cases hitRow : hit' row with
  | false =>
    rw [hitRow] at kept
    exact absurd (kept.2 rfl) (by decide)
  | true =>
    rw [hitRow] at kept
    exact absurd (kept.1 rfl) (by decide)

/-- Two accounts of one replacement agree on the rows that it hits, unless it changes nothing there. -/
theorem Changed.hit_eq_of_replaced {table : String} {hit hit' : Row → Bool} {replaced : Row → Row}
    {after : Store} {count count' : Nat}
    (h : store.Changed table hit (fun row => some (replaced row)) after count)
    (h' : store.Changed table hit' (fun row => some (replaced row)) after count') {row : Row}
    (hrow : row ∈ store.rows table) : hit row = hit' row ∨ replaced row = row := by
  have same := List.map_inj_left.1 (h.rows_eq_map.symm.trans h'.rows_eq_map) row hrow
  by_cases agree : hit row = hit' row
  · exact Or.inl agree
  · right
    rw [Bool.eq_not_of_ne agree] at same
    cases hitRow : hit' row with
    | false =>
      rw [hitRow] at same
      exact same
    | true =>
      rw [hitRow] at same
      exact same.symm

end Store

theorem Task.Hits.congr {task : Task Nat} {table : String} {hit hit' : Row → Bool}
    {effect : Session → Row → Option Row} {store : Store}
    (h : task.Hits table hit effect store)
    (same : ∀ row ∈ store.rows table, hit row = hit' row) : task.Hits table hit' effect store := by
  intro db s opened
  obtain ⟨count, after, answered, changed, effects⟩ := h db s opened
  exact ⟨count, after, answered, changed, effects.congr same⟩

/-- The session that runs on a store at a time, with nothing done before. -/
def Store.session (store : Store) (clock : Instant) : Session :=
  { engine := { shared := store }, clock }

/-- What a bulk delete makes of a row: with a trash it is moved there, without one it is removed. -/
def Model.discarded (m : Model) (s : Session) (row : Row) : Option Row :=
  if m.traits.softDeletes then
    some (row.merge (Row.empty.insert "deleted_at" (.text s.clock.text)))
  else none

theorem Model.discarded_soft {m : Model} (soft : m.traits.softDeletes = true) (s : Session)
    (row : Row) :
    m.discarded s row = some (row.merge (Row.empty.insert "deleted_at" (.text s.clock.text))) :=
  if_pos soft

theorem Model.discarded_hard {m : Model} (hard : m.traits.softDeletes = false) (s : Session)
    (row : Row) : m.discarded s row = none :=
  if_neg (Bool.eq_false_iff.1 hard)

/-- What a bulk change makes of a row. -/
def Model.changed (m : Model) (values : Row) (s : Session) (row : Row) : Option Row :=
  some (row.merge (m.stamped s values))

namespace Query

/-- The conditions of the query hold of a row by itself, without the joins. -/
def selects (q : Query) (store : Store) (row : Row) : Bool :=
  store.selects q.model.table q.scopedConditions row

/-- The combinations that the joins of the query make of a row. -/
def joined (q : Query) (store : Store) (row : Row) : List Scope :=
  Select.combinations store q.joins (.ofRow q.model.table row)

/-- The conditions of the query hold of some combination of a row. -/
def matchesJoined (q : Query) (store : Store) (row : Row) : Bool :=
  (q.joined store row).any fun scope => store.satisfiesTree scope q.scopedConditions

/-- Fetching the query answers these instances, a bulk delete discards their rows, and a bulk change
that sets some column sets it in their rows. -/
structure Changes (q : Query) (store : Store) (fetched : List Instance) : Prop where
  get : ∀ (db : Database) (s : Session), s.engine.storeOf db.handle = .ok store →
    (q.get db s).1 = .ok fetched
  delete : q.delete.Hits q.model.table (fun row => fetched.any (·.attributes = row))
    q.model.discarded store
  forceUpdate : ∀ values : Row, (q.model.filterColumns values).isEmpty = false →
    (q.forceUpdate values).Hits q.model.table (fun row => fetched.any (·.attributes = row))
      (q.model.changed (q.model.filterColumns values)) store

/-- On this store, bulk changes of the query hit the rows that fetching it answers. -/
def ChangesFetched (q : Query) (store : Store) : Prop :=
  ∃ fetched, q.Changes store fetched

variable {store : Store}

/-- A bulk delete hits the rows that the conditions select by themselves. -/
theorem hits_delete (q : Query) (store : Store) :
    q.delete.Hits q.model.table (q.selects store) q.model.discarded store := by
  intro db s opened
  by_cases soft : q.model.traits.softDeletes = true
  · obtain ⟨s', sameEngine, ran⟩ := run_delete_soft q db s soft
    rw [← sameEngine] at opened
    obtain ⟨answered, changed⟩ := Task.run_update _ opened
    rw [ran]
    refine ⟨_, _, answered, changed, ?_⟩
    rw [funext (Model.discarded_soft soft s)]
    exact store.changed_update ⟨q.model.table, _, q.scopedConditions⟩
  · have hard := Bool.eq_false_iff.2 soft
    obtain ⟨answered, changed⟩ := Task.run_delete
      { table := q.model.table, conditions := q.scopedConditions } opened
    rw [run_delete_hard q hard]
    refine ⟨_, _, answered, changed, ?_⟩
    rw [funext (Model.discarded_hard hard s)]
    exact store.changed_delete ⟨q.model.table, q.scopedConditions⟩

/-- So does a bulk change that sets some column. -/
theorem hits_forceUpdate (q : Query) (store : Store) {values : Row}
    (given : (q.model.filterColumns values).isEmpty = false) :
    (q.forceUpdate values).Hits q.model.table (q.selects store)
      (q.model.changed (q.model.filterColumns values)) store := by
  intro db s opened
  have allowed : (q.model.checkRules (q.model.filterColumns values) .update false db s).1 =
      .ok () := by
    rw [Model.run_checkRules]
    rfl
  obtain ⟨s', sameEngine, ran⟩ := run_setAll q given allowed
  rw [← sameEngine] at opened
  obtain ⟨answered, changed⟩ := Task.run_update _ opened
  unfold forceUpdate
  rw [ran]
  exact ⟨_, _, answered, changed,
    store.changed_update ⟨q.model.table, _, q.scopedConditions⟩⟩

/-- A row is fetched when the conditions hold of some combination of it. -/
theorem fetched_iff (q : Query) (whole : q.statement.Whole) (store : Store) {row : Row}
    (hrow : row ∈ store.rows q.model.table) :
    ((store.select q.statement).map (Instance.ofRow q.model)).any (·.attributes = row) =
      q.matchesJoined store row := by
  have found : row ∈ store.select q.statement ↔
      row ∈ store.rows q.model.table ∧ Select.matching store q.statement row ≠ [] :=
    store.mem_select whole
  rw [Bool.eq_iff_iff, List.any_map, List.any_eq_true]
  unfold matchesJoined
  rw [List.any_eq_true]
  constructor
  · rintro ⟨answered, hanswered, same⟩
    have same : answered = row := of_decide_eq_true same
    obtain ⟨scope, hscope⟩ := List.exists_mem_of_ne_nil _ (found.1 (same ▸ hanswered)).2
    exact ⟨scope, List.mem_filter.1 hscope⟩
  · rintro ⟨scope, combined, holds⟩
    have answered := found.2 ⟨hrow, List.ne_nil_of_mem (List.mem_filter.2 ⟨combined, holds⟩)⟩
    exact ⟨row, answered, decide_eq_true rfl⟩

/-- Where conditions and joins select the same rows, a bulk change hits the fetched ones. -/
theorem changes_of_agree (q : Query) (whole : q.statement.Whole) (unloaded : q.loads = [])
    {store : Store}
    (agree : ∀ row ∈ store.rows q.model.table, q.selects store row = q.matchesJoined store row) :
    q.Changes store ((store.select q.statement).map (Instance.ofRow q.model)) := by
  have same (row : Row) (hrow : row ∈ store.rows q.model.table) : q.selects store row =
      ((store.select q.statement).map (Instance.ofRow q.model)).any (·.attributes = row) := by
    rw [q.fetched_iff whole store hrow]
    exact agree row hrow
  exact
    { get := fun db s opened => run_get q unloaded opened
      delete := (q.hits_delete store).congr same
      forceUpdate := fun values given => (q.hits_forceUpdate store given).congr same }

/-- Two bulk deletes of the same rows, at every time, hit the same rows. -/
theorem hit_unique (q : Query) {store : Store} {hit hit' : Row → Bool}
    (h : q.delete.Hits q.model.table hit q.model.discarded store)
    (h' : q.delete.Hits q.model.table hit' q.model.discarded store)
    {row : Row} (hrow : row ∈ store.rows q.model.table) : hit row = hit' row := by
  have together (clock : Instant) : ∃ after count count',
      store.Changed q.model.table hit (q.model.discarded (store.session clock)) after count ∧
      store.Changed q.model.table hit' (q.model.discarded (store.session clock)) after count' := by
    obtain ⟨count, after, _, opened, changed⟩ := h { registry := {} } (store.session clock) rfl
    obtain ⟨count', after', _, opened', changed'⟩ :=
      h' { registry := {} } (store.session clock) rfl
    have sameStore : after = after' := Except.ok.inj (opened.symm.trans opened')
    subst sameStore
    exact ⟨after, count, count', changed, changed'⟩
  by_cases soft : q.model.traits.softDeletes = true
  · -- A row carries one time of deletion at most, so one of two deletes at two times changes it.
    have agreeOrStamped (clock : Instant) :
        hit row = hit' row ∨ row.get? "deleted_at" = some (.text clock.text) := by
      obtain ⟨after, _, _, changed, changed'⟩ := together clock
      rw [funext (Model.discarded_soft soft _)] at changed changed'
      rcases changed.hit_eq_of_replaced changed' hrow with agree | unmoved
      · exact Or.inl agree
      · right
        rw [← unmoved, Row.get?_merge]
        rfl
    rcases agreeOrStamped ⟨0⟩ with agree | stamped
    · exact agree
    · rcases agreeOrStamped ⟨1⟩ with agree | stampedLater
      · exact agree
      · exact absurd (stamped.symm.trans stampedLater) (by decide)
  · obtain ⟨after, _, _, changed, changed'⟩ := together ⟨0⟩
    rw [funext (Model.discarded_hard (Bool.eq_false_iff.2 soft) _)] at changed changed'
    exact changed.hit_eq_of_removed changed' hrow

/-- If a bulk delete hits the fetched rows only, conditions and joins select the same rows. -/
theorem agree_of_changes (q : Query) (whole : q.statement.Whole) (unloaded : q.loads = [])
    {store : Store} {fetched : List Instance} (changes : q.Changes store fetched) :
    ∀ row ∈ store.rows q.model.table, q.selects store row = q.matchesJoined store row := by
  intro row hrow
  have answered : (store.session ⟨0⟩).engine.storeOf .shared = .ok store := rfl
  have same : Except.ok ((store.select q.statement).map (Instance.ofRow q.model)) =
      Except.ok fetched :=
    (run_get q unloaded answered).symm.trans (changes.get { registry := {} } _ answered)
  rw [← q.fetched_iff whole store hrow, Except.ok.inj same]
  exact q.hit_unique (q.hits_delete store) changes.delete hrow

/-- No condition of the query names a column that a join adds. -/
def NamesNoJoined (q : Query) (store : Store) : Prop :=
  ∀ name ∈ treeColumnNames q.scopedConditions, ∀ join ∈ q.joins, ∀ row ∈ store.rows join.table,
    ∀ column ∈ row.keys, name ≠ qualified join.table column

/-- Conditions that name no joined column hold of every combination or of none. -/
theorem matchesJoined_eq (q : Query) {store : Store} (own : q.NamesNoJoined store) (row : Row) :
    q.matchesJoined store row = (q.selects store row && !(q.joined store row).isEmpty) := by
  have alike : ∀ scope ∈ q.joined store row,
      store.satisfiesTree scope q.scopedConditions = q.selects store row := by
    intro scope hscope
    apply Store.satisfiesTree_congr _ fun _ _ => rfl
    apply Select.combinations_induction
      (P := fun s => Scope.Agree (treeColumnNames q.scopedConditions) s (.ofRow q.model.table row))
      _ (fun _ _ => rfl) hscope
    intro join hjoin partner hpartner s agrees name hname
    rw [s.lookup_join_of_ne (own name hname join hjoin partner hpartner)]
    exact agrees name hname
  unfold matchesJoined
  rw [Bool.eq_iff_iff, List.any_eq_true, Bool.and_eq_true, Bool.not_eq_true', List.isEmpty_eq_false_iff]
  constructor
  · rintro ⟨scope, hscope, holds⟩
    exact ⟨(alike scope hscope).symm.trans holds, List.ne_nil_of_mem hscope⟩
  · rintro ⟨selected, nonempty⟩
    obtain ⟨scope, hscope⟩ := List.exists_mem_of_ne_nil _ nonempty
    exact ⟨scope, hscope, (alike scope hscope).trans selected⟩

/-- **What bulk changes hit.** Bulk changes of a query hit the rows that fetching it answers exactly
when each row satisfies the conditions by itself if and only if some joined combination of it does.
Where the conditions name no joined column, that is: every row that they select has a joined
combination. -/
theorem changesFetched_iff (q : Query) (whole : q.statement.Whole) (unloaded : q.loads = [])
    (store : Store) :
    (q.ChangesFetched store ↔
      ∀ row ∈ store.rows q.model.table, q.selects store row = q.matchesJoined store row) ∧
    (q.NamesNoJoined store → (q.ChangesFetched store ↔
      ∀ row ∈ store.rows q.model.table, q.selects store row = true → q.joined store row ≠ [])) := by
  have exact_condition : q.ChangesFetched store ↔
      ∀ row ∈ store.rows q.model.table, q.selects store row = q.matchesJoined store row :=
    ⟨fun ⟨_, changes⟩ => q.agree_of_changes whole unloaded changes,
      fun agree => ⟨_, q.changes_of_agree whole unloaded agree⟩⟩
  refine ⟨exact_condition, fun own => exact_condition.trans ?_⟩
  apply forall₂_congr
  intro row _
  rw [q.matchesJoined_eq own row, Bool.eq_iff_iff, Bool.and_eq_true, Bool.not_eq_true',
    List.isEmpty_eq_false_iff]
  exact ⟨fun h selected => (h.1 selected).2, fun h => ⟨fun selected => ⟨selected, h selected⟩, (·.1)⟩⟩

/-- Two posts and a comment on the first. -/
def posts : Store :=
  { tables :=
      [("posts", [.ofFields [("id", .int 1)], .ofFields [("id", .int 2)]]),
       ("comments", [.ofFields [("post_id", .int 1)]])] }

/-- The posts joined with their comments. -/
def commentedPosts (kind : JoinKind) (conditions : ConditionTree) : Query :=
  filtered (.bare "Post" "posts" [] {}) conditions
    [⟨kind, "comments", "comments.post_id", "posts.id"⟩] .untrashed

/-- A bulk delete of the posts with comments deletes the post without a comment too. -/
theorem not_changesFetched_commentedPosts :
    ¬ (commentedPosts .inner []).ChangesFetched posts := by
  rintro ⟨_, changes⟩
  have agree := (commentedPosts .inner []).agree_of_changes (whole_filtered _) rfl changes
  exact absurd agree (by decide +kernel)

/-- With a left join every post has a combination, and the fetched posts are hit. -/
theorem changesFetched_commentedPosts :
    (commentedPosts .left [(.and, .compare "id" .eq (.int 2))]).NamesNoJoined posts ∧
    (commentedPosts .left [(.and, .compare "id" .eq (.int 2))]).ChangesFetched posts := by
  have own : (commentedPosts .left [(.and, .compare "id" .eq (.int 2))]).NamesNoJoined posts := by
    unfold Query.NamesNoJoined
    decide
  refine ⟨own, ((changesFetched_iff _ (whole_filtered _) rfl posts).2 own).2 ?_⟩
  decide +kernel

end Query

end EntityStore
