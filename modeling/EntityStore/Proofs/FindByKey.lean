import EntityStore.Proofs.BulkChange
import EntityStore.Proofs.KeyValues
import EntityStore.Proofs.Precedence

/-!
# Finding rows by their keys

A query asks for a key by one more condition behind those that it has. Joined by AND it narrows the
segment behind the last OR only (`Store.satisfiesTree_also_eq_or`): a row for which an earlier
segment holds is found under every key. Main result `Query.findsByKey_iff`: on a store, finding by
key answers rows of that key only, whatever is cut off the answer and loaded with it, exactly when
no row strays like this and every row that the query matches shows the key that it carries.
-/

namespace EntityStore

namespace ConditionTree

/-- The segments that another OR follows. -/
def earlier (tree : ConditionTree) : List ConditionTree :=
  tree.segments.dropLast

/-- The segment that goes on with the next condition joined by AND. -/
def last (tree : ConditionTree) : ConditionTree :=
  tree.segments.getLastD []

theorem segmentsFrom_split (segment tree : ConditionTree) :
    ∃ earlier last, segmentsFrom segment tree = earlier ++ [last] ∧
      ∀ c, segmentsFrom segment (tree.also c) = earlier ++ [last ++ [(.and, c)]] := by
  induction tree generalizing segment with
  | nil => exact ⟨[], segment, rfl, fun _ => rfl⟩
  | cons node rest ih =>
    change ∃ earlier last, segmentsFrom segment (node :: rest) = _ ∧
      ∀ c, segmentsFrom segment (node :: also rest c) = _
    simp only [segmentsFrom]
    by_cases opens : node.1 = .or
    · obtain ⟨earlier, last, before, after⟩ := ih [node]
      simp only [if_pos opens, before, after]
      exact ⟨segment :: earlier, last, rfl, fun _ => rfl⟩
    · simp only [if_neg opens]
      exact ih (segment ++ [node])

/-- One more condition joined by AND goes into the last segment. -/
theorem segments_split {tree : ConditionTree} (nonempty : tree ≠ []) :
    tree.segments = tree.earlier ++ [tree.last] ∧
      ∀ c, (tree.also c).segments = tree.earlier ++ [tree.last ++ [(.and, c)]] := by
  obtain ⟨node, rest, rfl⟩ := List.exists_cons_of_ne_nil nonempty
  obtain ⟨earlier', last', before, after⟩ := segmentsFrom_split [node] rest
  have parts : segments (node :: rest) = earlier' ++ [last'] := before
  rw [earlier, last, parts, List.dropLast_concat, List.getLastD_concat]
  exact ⟨rfl, after⟩

theorem segmentsFrom_of_hasOr {tree : ConditionTree} (plain : tree.hasOr = false)
    (segment : ConditionTree) : segmentsFrom segment tree = [segment ++ tree] := by
  induction tree generalizing segment with
  | nil => rw [segmentsFrom, List.append_nil]
  | cons node rest ih =>
    rw [hasOr, List.any_cons, Bool.or_eq_false_iff, decide_eq_false_iff_not] at plain
    rw [segmentsFrom, if_neg plain.1, ih plain.2, List.append_assoc, List.singleton_append]

/-- A tree without an OR behind its first condition is one segment. -/
theorem earlier_of_hasOr {tree : ConditionTree} (plain : hasOr tree.tail = false) :
    tree.earlier = [] := by
  cases tree with
  | nil => rfl
  | cons node rest =>
    have alone : segments (node :: rest) = [[node] ++ rest] := segmentsFrom_of_hasOr plain [node]
    rw [earlier, alone]
    rfl

end ConditionTree

namespace Store

variable {store : Store} {scope : Scope}

/-- All conditions of a segment hold. -/
def satisfiesAll (store : Store) (scope : Scope) (segment : ConditionTree) : Bool :=
  segment.all fun node => store.satisfies scope node.2

theorem satisfiesTree_eq_any {tree : ConditionTree} (nonempty : tree ≠ []) :
    store.satisfiesTree scope tree = tree.segments.any (store.satisfiesAll scope) := by
  have values : Condition.value (store.satisfies scope) = store.satisfies scope :=
    funext (store.value_satisfies scope)
  rw [← store.treeValue_satisfies scope, Condition.treeValue_holds, values, ConditionTree.holds,
    List.isEmpty_eq_false_iff.2 nonempty, Bool.false_or]
  rfl

/-- A tree holds by an earlier segment or by its last one. -/
theorem satisfiesTree_eq_or (tree : ConditionTree) :
    store.satisfiesTree scope tree =
      (tree.earlier.any (store.satisfiesAll scope) || store.satisfiesAll scope tree.last) := by
  by_cases nonempty : tree = []
  · rw [nonempty, satisfiesTree]
    rfl
  · rw [satisfiesTree_eq_any nonempty, (ConditionTree.segments_split nonempty).1, List.any_append,
      List.any_cons, List.any_nil, Bool.or_false]

/-- One more condition joined by AND narrows the last segment only. -/
theorem satisfiesTree_also_eq_or (tree : ConditionTree) (c : Condition) :
    store.satisfiesTree scope (tree.also c) =
      (tree.earlier.any (store.satisfiesAll scope) ||
        (store.satisfiesAll scope tree.last && store.satisfies scope c)) := by
  by_cases nonempty : tree = []
  · rw [nonempty, satisfiesTree_also store scope rfl, satisfiesTree]
    rfl
  · have longer : tree.also c ≠ [] := List.append_ne_nil_of_right_ne_nil tree (List.cons_ne_nil _ _)
    rw [satisfiesTree_eq_any longer, (ConditionTree.segments_split nonempty).2, List.any_append,
      List.any_cons, List.any_nil, Bool.or_false, satisfiesAll, List.all_append, List.all_cons,
      List.all_nil, Bool.and_true]
    rfl

end Store

/-! ### Loading changes nothing but the relations -/

/-- The instance without the relations that were loaded for it. -/
def Instance.alone (i : Instance) : Instance :=
  { i with relations := [] }

namespace Task

/-- The task answers such values only. -/
def Yields {α : Type} (work : Task α) (db : Database) (Q : α → Prop) : Prop :=
  ∀ s a, (work db s).1 = .ok a → Q a

namespace Yields

variable {α β : Type} {db : Database} {Q : α → Prop} {R : β → Prop}

theorem pure {a : α} (h : Q a) : Yields (Pure.pure a : Task α) db Q := by
  intro s b answered
  cases answered
  exact h

theorem bind {work : Task α} {next : α → Task β} (first : work.Yields db Q)
    (rest : ∀ a, Q a → (next a).Yields db R) : (work >>= next).Yields db R := by
  intro s b answered
  rw [Work.run_bind] at answered
  cases ran : work db s with
  | mk answer s' =>
    rw [ran] at answered
    cases answer with
    | error e => cases answered
    | ok a => exact rest a (first s a (congrArg Prod.fst ran)) s' b answered

/-- What does not depend on an answer needs no promise of it. -/
theorem ignoring {work : Task α} {next : α → Task β} (rest : ∀ a, (next a).Yields db R) :
    (work >>= next).Yields db R :=
  bind (fun _ _ _ => trivial) fun a (_ : True) => rest a

end Yields

end Task

namespace Relation

variable {relation : Relation} {db : Database} {owners : List Instance}

theorem alone_attachOne (rows : List Instance) (owner : Instance) :
    (relation.attachOne rows owner).alone = owner.alone := by
  unfold attachOne
  cases rows.head? <;> rfl

/-- The same instances apart from their relations. -/
theorem yields_map {f : Instance → Instance} (keeps : ∀ i, (f i).alone = i.alone) :
    (Pure.pure (owners.map f) : Task (List Instance)).Yields db
      (·.map Instance.alone = owners.map Instance.alone) := by
  refine .pure ?_
  rw [List.map_map]
  exact List.map_congr_left fun i _ => keeps i

/-- A relation is loaded onto its owners without any other change of them. -/
theorem yields_loadOnto : (relation.loadOnto owners).Yields db
    (·.map Instance.alone = owners.map Instance.alone) := by
  unfold loadOnto
  cases relation.mechanism with
  | belongsTo =>
    change (relation.loadParents owners).Yields db _
    unfold loadParents
    dsimp only
    split
    · exact .pure rfl
    · exact .ignoring fun _ => .ignoring fun parents =>
        yields_map fun owner => alone_attachOne _ owner
  | hasMany | hasOne =>
    refine .ignoring fun rows => yields_map fun owner => ?_
    dsimp only
    split
    · exact alone_attachOne _ owner
    · rfl
  | belongsToMany =>
    change (relation.loadLinked owners).Yields db _
    unfold loadLinked
    refine .ignoring fun pivot => .ignoring fun links => ?_
    split
    · exact .ignoring fun rows => yields_map fun _ => rfl
    · exact .ignoring fun _ => .ignoring fun rows => yields_map fun _ => rfl
  | through =>
    change (relation.loadThrough owners).Yields db _
    unfold loadThrough
    refine .ignoring fun through => .ignoring fun steps => .ignoring fun rows =>
      yields_map fun owner => ?_
    dsimp only
    split
    · rfl
    · exact alone_attachOne _ owner

end Relation

theorem Model.yields_loadRelations (m : Model) (names : List String) (db : Database)
    (owners : List Instance) : (m.loadRelations names owners).Yields db
      (·.map Instance.alone = owners.map Instance.alone) := by
  unfold loadRelations
  induction names generalizing owners with
  | nil => exact .pure rfl
  | cons name rest ih =>
    rw [List.foldlM_cons]
    refine .bind (.ignoring fun relation => relation.yields_loadOnto) fun loaded same => ?_
    rw [← same]
    exact ih loaded

namespace Query

variable {db : Database} {s : Session} {store : Store}

/-! ### What a query with a key matches -/

/-- The scope of the trash lets the combination through. -/
def sees (q : Query) (store : Store) (scope : Scope) : Bool :=
  store.satisfiesTree scope { q with conditions := [] }.scopedConditions

theorem satisfiesTree_scopedConditions (q : Query) (scope : Scope) :
    store.satisfiesTree scope q.scopedConditions =
      (store.satisfiesTree scope q.conditions && q.sees store scope) := by
  unfold sees scopedConditions
  dsimp only
  split
  · rw [Store.satisfiesTree.eq_1, Bool.and_true]
  · rw [Store.satisfiesTree_enclosed_also, Store.satisfiesTree_enclosed_also,
      Store.satisfiesTree.eq_1, Bool.true_and]

theorem whole_filter {q : Query} (whole : q.statement.Whole) (c : Condition) :
    (q.filter c).statement.Whole :=
  ⟨whole.projection, whole.distinct, whole.groupBy, whole.limit, whole.offset⟩

/-- A row is answered under one more condition by a combination in sight that satisfies an earlier
segment, or the last segment and the condition. -/
theorem mem_select_also (q : Query) (whole : q.statement.Whole) (c : Condition) {row : Row} :
    row ∈ store.select (q.filter c).statement ↔ row ∈ store.rows q.model.table ∧
      ∃ scope ∈ q.joined store row, q.sees store scope = true ∧
        (q.conditions.earlier.any (store.satisfiesAll scope) ||
          (store.satisfiesAll scope q.conditions.last && store.satisfies scope c)) = true := by
  have decided (scope : Scope) : store.satisfiesTree scope (q.filter c).scopedConditions =
      ((q.conditions.earlier.any (store.satisfiesAll scope) ||
        (store.satisfiesAll scope q.conditions.last && store.satisfies scope c)) &&
          q.sees store scope) := by
    rw [satisfiesTree_scopedConditions, ← Store.satisfiesTree_also_eq_or]
    rfl
  have matched (scope : Scope) : scope ∈ Select.matching store (q.filter c).statement row ↔
      scope ∈ q.joined store row ∧
        store.satisfiesTree scope (q.filter c).scopedConditions = true := List.mem_filter
  rw [store.mem_select (whole_filter whole c)]
  refine and_congr_right fun _ => Iff.trans
    ⟨List.exists_mem_of_ne_nil _, fun ⟨_, mem⟩ => List.ne_nil_of_mem mem⟩ ?_
  refine exists_congr fun scope => ?_
  rw [matched, decided, Bool.and_eq_true, and_comm (a := q.sees store scope = true)]

/-! ### What finding by key ends in -/

/-- What finding may end in: an answer as promised, one of some errors, and any error where
relations are to be loaded with the rows. -/
def EndsIn {α : Type} (q : Query) (errors : List Error) (Q : α → Prop) : Except Error α → Prop
  | .ok a => Q a
  | .error e => e ∈ errors ∨ q.loads ≠ []

/-- The instances that a query answers are those of the rows that its statement answers, but for the
relations that are loaded with them. -/
theorem alone_of_get {q : Query} (opened : s.engine.storeOf db.handle = .ok store)
    {found : List Instance} (answered : (q.get db s).1 = .ok found) :
    found.map Instance.alone = (store.select q.statement).map (Instance.ofRow q.model) := by
  obtain ⟨s', -, ran⟩ := run_fetch q opened
  have alone : ((store.select q.statement).map (Instance.ofRow q.model)).map Instance.alone =
      (store.select q.statement).map (Instance.ofRow q.model) := by
    rw [List.map_map]
    rfl
  unfold get at answered
  rw [Work.run_bind, ran] at answered
  dsimp only at answered
  split at answered
  · cases answered
    exact alone
  · rw [q.model.yields_loadRelations q.loads db _ s' found answered, alone]

/-- The instances of a query have the keys of the rows that its statement answers. -/
theorem exists_row_of_get {q : Query} (opened : s.engine.storeOf db.handle = .ok store)
    {found : List Instance} (answered : (q.get db s).1 = .ok found) {i : Instance}
    (mem : i ∈ found) : ∃ row ∈ store.select q.statement,
      i.id? = (Instance.ofRow q.model row).id? := by
  have keyed := List.mem_map_of_mem (f := Instance.alone) mem
  rw [alone_of_get opened answered] at keyed
  obtain ⟨row, there, alone⟩ := List.mem_map.1 keyed
  have key : i.alone.id? = (Instance.ofRow q.model row).id? := by rw [alone]
  exact ⟨row, there, key⟩

theorem endsIn_get {q : Query} (opened : s.engine.storeOf db.handle = .ok store)
    {Q : List Instance → Prop} (promised : ∀ found, (q.get db s).1 = .ok found → Q found) :
    q.EndsIn [] Q (q.get db s).1 := by
  cases ran : (q.get db s).1 with
  | ok found => exact promised found ran
  | error e =>
    refine Or.inr fun unloaded => ?_
    cases (run_get q unloaded opened).symm.trans ran

theorem run_find (q : Query) (id : Int) (db : Database) (s : Session) :
    (q.find id db s).1 = ({ q.withKey id with limit := some 1 }.get db s).1.map List.head? := by
  unfold find first
  rw [Work.run_bind]
  split
  · next ran =>
    rw [ran]
    rfl
  · next ran =>
    rw [ran]
    rfl

theorem run_findOrFail (q : Query) (id : Int) (db : Database) (s : Session) :
    (q.findOrFail id db s).1 = (q.find id db s).1.bind fun found =>
      found.elim (.error (.noRecord q.model.name id)) .ok := by
  unfold findOrFail
  rw [Work.run_bind]
  split
  · next found _ ran =>
    rw [ran]
    cases found <;> rfl
  · next ran =>
    rw [ran]
    rfl

/-! ### Finding by key -/

/-- On the store, finding by key answers rows of the key only: `find` one or nothing, `findOrFail`
one or the error that there is none, `findMany` rows of the given keys. Keys are integers of 64
bits. -/
structure FindsByKey (q : Query) (store : Store) : Prop where
  find : ∀ (db : Database) (s : Session), s.engine.storeOf db.handle = .ok store →
    ∀ id, fitsInt64 id = true →
      q.EndsIn [] (fun found => ∀ i ∈ found, i.id? = some id) (q.find id db s).1
  findOrFail : ∀ (db : Database) (s : Session), s.engine.storeOf db.handle = .ok store →
    ∀ id, fitsInt64 id = true →
      q.EndsIn [.noRecord q.model.name id] (fun i => i.id? = some id) (q.findOrFail id db s).1
  findMany : ∀ (db : Database) (s : Session), s.engine.storeOf db.handle = .ok store →
    ∀ ids : List Int, (∀ id ∈ ids, fitsInt64 id = true) →
      q.EndsIn [] (fun found => ∀ i ∈ found, ∃ id ∈ ids, i.id? = some id) (q.findMany ids db s).1

/-- No combination in sight satisfies a segment that another OR follows. -/
def BindsKeys (q : Query) (store : Store) : Prop :=
  ∀ row ∈ store.rows q.model.table, ∀ scope ∈ q.joined store row, q.sees store scope = true →
    ∀ segment ∈ q.conditions.earlier, store.satisfiesAll scope segment = false

/-- A row that the query matches shows no key but the one that it carries. -/
def ShowsKeys (q : Query) (store : Store) : Prop :=
  ∀ row ∈ store.rows q.model.table, ∀ scope ∈ q.joined store row,
    store.satisfiesTree scope q.scopedConditions = true →
      ∀ id, fitsInt64 id = true → (scope.lookup q.qualifiedKey).looseEq (.int id) = true →
        Store.keyOf? q.model.primaryKey row = some id

/-- A condition that is satisfied by the given keys only finds rows of these keys. -/
theorem keyOf?_of_mem_select {q : Query} (whole : q.statement.Whole) (binds : q.BindsKeys store)
    (shows : q.ShowsKeys store) {c : Condition} {ids : List Int}
    (fits : ∀ id ∈ ids, fitsInt64 id = true)
    (asks : ∀ scope, store.satisfies scope c = true →
      ∃ id ∈ ids, (scope.lookup q.qualifiedKey).looseEq (.int id) = true)
    {row : Row} (found : row ∈ store.select (q.filter c).statement) :
    ∃ id ∈ ids, Store.keyOf? q.model.primaryKey row = some id := by
  obtain ⟨there, scope, combined, seen, holds⟩ := (q.mem_select_also whole c).1 found
  have unstrayed : q.conditions.earlier.any (store.satisfiesAll scope) = false :=
    List.any_eq_false.2 fun segment mem =>
      Bool.eq_false_iff.1 (binds row there scope combined seen segment mem)
  rw [unstrayed, Bool.false_or, Bool.and_eq_true] at holds
  obtain ⟨id, mem, shown⟩ := asks scope holds.2
  refine ⟨id, mem, shows row there scope combined ?_ id (fits id mem) shown⟩
  rw [satisfiesTree_scopedConditions, Store.satisfiesTree_eq_or, holds.1, seen, Bool.or_true]
  rfl

theorem satisfies_key (q : Query) (id : Int) (scope : Scope) :
    store.satisfies scope (.compare q.qualifiedKey .eq (.int id)) =
      (scope.lookup q.qualifiedKey).looseEq (.int id) := by
  rw [Store.satisfies, Operator.holds_eq]

theorem satisfies_keys (q : Query) (ids : List Int) (scope : Scope) :
    store.satisfies scope (.isIn q.qualifiedKey (ids.map Value.int)) = true ↔
      ∃ id ∈ ids, (scope.lookup q.qualifiedKey).looseEq (.int id) = true := by
  rw [Store.satisfies_isIn, List.any_map, List.any_eq_true]
  rfl

/-- Under keys that are found as asked, every row that is answered carries the one that was asked
for. -/
theorem FindsByKey.keyOf?_eq {q : Query} (finds : q.FindsByKey store) (unloaded : q.loads = [])
    {id : Int} (fits : fitsInt64 id = true) {row : Row} (answered : row ∈
      store.select (q.filter (.isIn q.qualifiedKey ([id].map Value.int))).statement) :
    Store.keyOf? q.model.primaryKey row = some id := by
  have opened : (store.session ⟨0⟩).engine.storeOf .shared = .ok store := rfl
  let asking := q.filter (.isIn q.qualifiedKey ([id].map Value.int))
  have ends : q.EndsIn [] (fun found => ∀ i ∈ found, ∃ id' ∈ [id], i.id? = some id')
      (asking.get { registry := {} } (store.session ⟨0⟩)).1 :=
    finds.findMany { registry := {} } (store.session ⟨0⟩) opened [id]
      (List.forall_mem_singleton.2 fits)
  rw [run_get asking unloaded opened] at ends
  obtain ⟨_, mem, same⟩ := ends (.ofRow q.model row) (List.mem_map_of_mem answered)
  rw [← List.mem_singleton.1 mem]
  exact same

/-- If keys are found as asked, no row strays: it would be found under two keys. -/
theorem FindsByKey.binds {q : Query} (finds : q.FindsByKey store) (whole : q.statement.Whole)
    (unloaded : q.loads = []) : q.BindsKeys store := by
  intro row there scope combined seen segment mem
  by_contra strays
  have earlier : q.conditions.earlier.any (store.satisfiesAll scope) = true :=
    List.any_eq_true.2 ⟨segment, mem, Bool.not_eq_false _ ▸ strays⟩
  have keyed (id : Int) (fits : fitsInt64 id = true) :
      Store.keyOf? q.model.primaryKey row = some id := by
    refine finds.keyOf?_eq unloaded fits
      ((q.mem_select_also whole _).2 ⟨there, scope, combined, seen, ?_⟩)
    rw [earlier, Bool.true_or]
  have same := (keyed 0 rfl).symm.trans (keyed 1 rfl)
  exact absurd same (by decide)

/-- If keys are found as asked, rows show no other keys: they would be found under these. -/
theorem FindsByKey.shows {q : Query} (finds : q.FindsByKey store) (whole : q.statement.Whole)
    (unloaded : q.loads = []) : q.ShowsKeys store := by
  intro row there scope combined matched id fits shown
  rw [satisfiesTree_scopedConditions, Bool.and_eq_true, Store.satisfiesTree_eq_or] at matched
  refine finds.keyOf?_eq unloaded fits
    ((q.mem_select_also whole _).2 ⟨there, scope, combined, matched.2, ?_⟩)
  rw [(q.satisfies_keys [id] scope).2 ⟨id, List.mem_singleton_self id, shown⟩, Bool.and_true]
  exact matched.1

/-- Conditions of one segment, groups among them, bind every key. -/
theorem bindsKeys_of_hasOr {q : Query} (plain : ConditionTree.hasOr q.conditions.tail = false) :
    q.BindsKeys store := by
  intro row _ scope _ _ segment mem
  rw [ConditionTree.earlier_of_hasOr plain] at mem
  cases mem

/-- Keys that are null or integers of at most 53 bits are shown as they are, if no name of a column
has a dot and no table is joined with itself. -/
theorem showsKeys_of_isKey {q : Query} (plain : '.' ∉ q.model.primaryKey.toList)
    (foreign : ∀ join ∈ q.joins, join.table ≠ q.model.table)
    (undotted : ∀ table ∈ q.model.table :: q.joins.map (·.table), ∀ row ∈ store.rows table,
      row.Undotted)
    (keys : ∀ row ∈ store.rows q.model.table, (row.value q.model.primaryKey).IsKey) :
    q.ShowsKeys store := by
  intro row there scope combined _ id fits shown
  have joined : ∀ join ∈ q.joins, ∀ row ∈ store.rows join.table, row.Undotted :=
    fun join mem => undotted join.table (List.mem_cons_of_mem _ (List.mem_map_of_mem mem))
  have own : scope.lookup q.qualifiedKey = row.value q.model.primaryKey :=
    (Select.lookup_of_mem_combinations plain foreign joined combined).trans
      (Scope.value_ofRow_qualified _ _ (undotted _ List.mem_cons_self row there))
  have key := keys row there
  rw [own] at shown
  unfold Store.keyOf?
  rw [Row.value] at key shown
  cases carried : row.get? q.model.primaryKey with
  | none =>
    rw [carried, Option.getD_none, Value.null_looseEq] at shown
    cases shown
  | some v =>
    rw [carried, Option.getD_some] at key shown
    cases key with
    | null =>
      rw [Value.null_looseEq] at shown
      cases shown
    | @int n small =>
      rw [Value.looseEq_int_small small, decide_eq_true_eq] at shown
      rw [shown]
      exact if_pos fits

/-- The query without what cuts its answer off or loads relations with it. -/
def uncut (q : Query) : Query :=
  { q with distinct := false, limit := none, offset := none, loads := [] }

theorem whole_uncut {q : Query} (columns : q.columns = none) (ungrouped : q.groupBy = []) :
    q.uncut.statement.Whole where
  projection := by
    unfold uncut statement
    rw [columns]
  distinct := rfl
  groupBy := ungrouped
  limit := rfl
  offset := rfl

/-- Whatever is cut off or loaded, the keys of the answer are among those that the condition asks
for. -/
theorem id?_of_get {q : Query} (columns : q.columns = none) (ungrouped : q.groupBy = [])
    (binds : q.BindsKeys store) (shows : q.ShowsKeys store) {c : Condition} {ids : List Int}
    (fits : ∀ id ∈ ids, fitsInt64 id = true)
    (asks : ∀ scope, store.satisfies scope c = true →
      ∃ id ∈ ids, (scope.lookup q.qualifiedKey).looseEq (.int id) = true) (limit : Option Nat)
    (opened : s.engine.storeOf db.handle = .ok store) {found : List Instance}
    (answered : ({ q.filter c with limit }.get db s).1 = .ok found) {i : Instance}
    (mem : i ∈ found) : ∃ id ∈ ids, i.id? = some id := by
  obtain ⟨row, there, key⟩ := exists_row_of_get opened answered mem
  have whole := whole_uncut columns ungrouped
  have rows : ({ q.filter c with limit } : Query).statement.projection = .all :=
    (whole_filter whole c).projection
  have uncut : row ∈ store.select (q.uncut.filter c).statement := store.mem_select_uncut rows there
  obtain ⟨id, asked, carried⟩ := keyOf?_of_mem_select whole binds shows fits asks uncut
  exact ⟨id, asked, key.trans carried⟩

/-- If no row strays and rows show their keys, keys are found as asked. -/
theorem findsByKey_of_shows {q : Query} (columns : q.columns = none) (ungrouped : q.groupBy = [])
    (binds : q.BindsKeys store) (shows : q.ShowsKeys store) : q.FindsByKey store := by
  have single {db : Database} {s : Session} (opened : s.engine.storeOf db.handle = .ok store)
      {id : Int} (fits : fitsInt64 id = true) :
      q.EndsIn [] (fun found => ∀ i ∈ found, i.id? = some id) (q.find id db s).1 := by
    rw [run_find]
    have ends : q.EndsIn [] (fun found => ∀ i ∈ found, i.id? = some id)
        ({ q.withKey id with limit := some 1 }.get db s).1 := by
      refine endsIn_get opened fun found answered i mem => ?_
      obtain ⟨_, asked, same⟩ := id?_of_get columns ungrouped binds shows
        (List.forall_mem_singleton.2 fits)
        (fun scope holds => ⟨id, List.mem_singleton_self id, q.satisfies_key id scope ▸ holds⟩)
        (some 1) opened answered mem
      rw [← List.mem_singleton.1 asked]
      exact same
    cases ran : ({ q.withKey id with limit := some 1 }.get db s).1 with
    | ok found =>
      rw [ran] at ends
      exact fun i head => ends i (List.mem_of_mem_head? head)
    | error e =>
      rw [ran] at ends
      exact ends
  constructor
  · exact fun db s opened id fits => single opened fits
  · intro db s opened id fits
    have ends := single opened fits
    rw [run_findOrFail]
    cases ran : (q.find id db s).1 with
    | ok found =>
      rw [ran] at ends
      cases found with
      | none => exact Or.inl List.mem_cons_self
      | some i => exact ends i rfl
    | error e =>
      rw [ran] at ends
      exact ends.imp_left fun none => nomatch none
  · intro db s opened ids fits
    unfold findMany
    split
    · exact fun _ none => nomatch none
    · refine endsIn_get opened fun found answered i mem => ?_
      exact id?_of_get columns ungrouped binds shows fits
        (fun scope holds => (q.satisfies_keys ids scope).1 holds) q.limit opened answered mem

/-- **What finding by key answers.** A query of whole rows with any conditions is given. Whatever is
cut off its answer and loaded with it, on a store it finds rows of the asked keys only, exactly when
no row in sight satisfies a segment that another OR follows, and no row that it matches shows
another key than it carries. -/
theorem findsByKey_iff (q : Query) (columns : q.columns = none) (ungrouped : q.groupBy = [])
    (store : Store) :
    (∀ distinct limit offset loads,
      ({ q with distinct, limit, offset, loads } : Query).FindsByKey store) ↔
        q.BindsKeys store ∧ q.ShowsKeys store := by
  constructor
  · intro finds
    have whole := whole_uncut columns ungrouped
    have plain : q.uncut.FindsByKey store := finds false none none []
    exact ⟨plain.binds whole rfl, plain.shows whole rfl⟩
  · rintro ⟨binds, shows⟩ distinct limit offset loads
    exact findsByKey_of_shows columns ungrouped binds shows

/-- The posts under some conditions. -/
def chosenPosts (conditions : ConditionTree) : Query :=
  filtered (.bare "Post" "posts" [] {}) conditions [] .untrashed

/-- The first post or the second one. -/
def eitherPost : ConditionTree :=
  [(.and, .compare "id" .eq (.int 1)), (.or, .compare "id" .eq (.int 2))]

/-- Alternatives in a group bind the key. -/
theorem findsByKey_grouped : (chosenPosts [(.and, .group eitherPost)]).FindsByKey posts := by
  have binds : (chosenPosts [(.and, .group eitherPost)]).BindsKeys posts := bindsKeys_of_hasOr rfl
  refine (findsByKey_iff _ rfl rfl posts).2 ⟨binds, ?_⟩ false none none []
  exact showsKeys_of_isKey (by decide) (fun _ none => nomatch none) (by decide) (by decide)

/-- The first of two alternatives finds its post under every key. -/
theorem not_findsByKey_alternatives : ¬(chosenPosts eitherPost).FindsByKey posts := by
  intro finds
  have binds := finds.binds (whole_filtered _) rfl
  unfold BindsKeys at binds
  exact absurd binds (by decide +kernel)

end Query

end EntityStore
