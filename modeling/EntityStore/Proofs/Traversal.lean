import EntityStore.Proofs.Linked
import EntityStore.Relation.Traverse

/-!
# Asking for a relation and following it

The same relation is implemented twice. `whereHas` asks for it in nested subqueries, while
`Instance.related` follows it from one row with a fetch for each step, and ends in an error, in one
row or in a list. Following a relation to a target directly or over a pivot table leads to a row
exactly when the relation reaches one (`Instance.leads_related`), so the two agree where rows show
in the subqueries what they show alone. Main result: `Query.hasFollowsRelated`; a pivot row passes
for the tag that it points at in `Query.not_hasFollowsRelated_borrowed`.
-/

namespace EntityStore

theorem Value.looseEq_null (v : Value) : v.looseEq .null = false := by
  cases v <;> rfl

theorem Value.null_looseEq (v : Value) : Value.null.looseEq v = false := by
  cases v <;> rfl

/-- A value is one of a list when it equals one of them; null, which is none, equals none. -/
theorem Store.satisfies_isIn (store : Store) (scope : Scope) (column : String)
    (values : List Value) : store.satisfies scope (.isIn column values) =
      values.any (scope.lookup column).looseEq := by
  rw [satisfies]
  cases scope.lookup column <;> simp [Value.isNull, Value.null_looseEq]

theorem Operator.holds_eq (v w : Value) : Operator.eq.holds v w = v.looseEq w := by
  unfold Operator.holds Value.looseEq
  cases v.compare? w with
  | none => rfl
  | some o => cases o <;> rfl

/-- Some row of the entity that is not in the trash carries the key in the column. -/
def Model.finds (m : Model) (store : Store) (column : String) (key : Value) : Bool :=
  (store.rows m.table).any fun row => (row.value column).looseEq key && m.shows row

theorem Model.ofRow_injective (m : Model) : Function.Injective (Instance.ofRow m) :=
  fun _ _ same => congrArg Instance.attributes same

namespace Related

/-- Following a relation has led to a row. -/
def leads : Except Error (Related Instance) → Bool
  | .ok found => !found.toList.isEmpty
  | .error _ => false

end Related

namespace Store

/-- A selection of rows that joins nothing answers the rows of its table that it selects. -/
theorem mem_select_unjoined (store : Store) {statement : Select} (whole : statement.Whole)
    (unjoined : statement.joins = []) {row : Row} :
    row ∈ store.select statement ↔ row ∈ store.rows statement.table ∧
      store.selects statement.table statement.conditions row = true := by
  rw [store.mem_select whole]
  apply and_congr_right
  intro _
  unfold Select.matching
  rw [unjoined]
  exact (not_congr List.filter_eq_nil_iff).trans (by simp [Select.combinations, selects])

/-- A limit of at least one row leaves some of them. -/
theorem isEmpty_select_limit (store : Store) {statement : Select} (whole : statement.Whole)
    {limit : Option Nat} (positive : limit ≠ some 0) :
    (store.select { statement with limit }).isEmpty = (store.select statement).isEmpty := by
  cases limit with
  | none =>
    have same : { statement with limit := none } = statement := by
      rw [← whole.limit]
    rw [same]
  | some n =>
    have someRow : n ≠ 0 := fun zero => positive (by rw [zero])
    rw [store.select_limit whole n]
    cases store.select statement <;> simp [someRow]

end Store

namespace Query

variable {db : Database} {s : Session} {store : Store} {target : Model}

theorem run_fetch (q : Query) (opened : s.engine.storeOf db.handle = .ok store) :
    ∃ s', s'.engine = s.engine ∧ q.fetch db s =
      (.ok ((store.select q.statement).map (Instance.ofRow q.model)), s') := by
  refine ⟨{ s with received := s.received ++ [.select q.statement] }, rfl, ?_⟩
  unfold fetch
  rw [Work.run_bind, Task.run_select, Engine.select_eq, opened]
  rfl

/-- The first of all rows that the query answers. -/
theorem run_fetchFirst (q : Query) (whole : q.statement.Whole)
    (opened : s.engine.storeOf db.handle = .ok store) :
    ∃ s', s'.engine = s.engine ∧ q.fetchFirst db s =
      (.ok ((store.select q.statement).head?.map (Instance.ofRow q.model)), s') := by
  obtain ⟨s', sameEngine, ran⟩ := run_fetch { q with limit := some 1 } opened
  have cut : store.select ({ q with limit := some 1 } : Query).statement =
      (store.select q.statement).take 1 := store.select_limit whole 1
  refine ⟨s', sameEngine, ?_⟩
  unfold fetchFirst
  rw [Work.run_bind, ran, cut]
  cases store.select q.statement <;> rfl

/-- An entity without a trash has all its rows in sight. -/
theorem selects_query_hard (store : Store) {m : Model} (hard : m.traits.softDeletes = false)
    (row : Row) : store.selects m.table m.query.scopedConditions row = true := by
  unfold Store.selects scopedConditions Model.query
  simp [hard, Store.satisfiesTree]

/-- The default query of an entity selects what is not in the trash. -/
theorem selects_query (store : Store) (m : Model) {row : Row} (undotted : row.Undotted) :
    store.selects m.table m.query.scopedConditions row = m.shows row := by
  unfold Model.shows
  cases soft : m.traits.softDeletes with
  | true =>
    have split : store.satisfiesTree (.ofRow m.table row) m.query.scopedConditions = _ :=
      m.query.satisfies_scopedConditions soft
        (Scope.lookup_ofRow_qualified m.table "deleted_at" undotted)
    exact split.trans (by simp [Model.query, Store.satisfiesTree, TrashScope.admits])
  | false =>
    rw [selects_query_hard store soft row]
    rfl

/-- A query of one condition answers, in whatever order, the rows in sight that satisfy it. -/
theorem mem_select_filter (m : Model) (c : Condition) (orderBy : List Order)
    (undotted : ∀ row ∈ store.rows m.table, row.Undotted) {row : Row} :
    row ∈ store.select ({ m.query.filter c with orderBy } : Query).statement ↔
      row ∈ store.rows m.table ∧
        (store.satisfies (.ofRow m.table row) c && m.shows row) = true := by
  rw [store.mem_select_unjoined ⟨rfl, rfl, rfl, rfl, rfl⟩ rfl]
  apply and_congr_right
  intro hrow
  rw [← selects_query store m (undotted row hrow), Bool.and_comm]
  exact Bool.eq_iff_iff.1 (selects_filter store m.query rfl c m.table row)

/-- Looking for a key in a column answers the rows in sight that carry it. -/
theorem mem_select_whereEq (m : Model) {column : String} (plain : '.' ∉ column.toList)
    (key : Value) (orderBy : List Order) (undotted : ∀ row ∈ store.rows m.table, row.Undotted)
    {row : Row} :
    row ∈ store.select ({ m.query.whereEq column key with orderBy } : Query).statement ↔
      row ∈ store.rows m.table ∧ ((row.value column).looseEq key && m.shows row) = true := by
  rw [whereEq, mem_select_filter m _ orderBy undotted, Store.satisfies,
    Scope.lookup_ofRow _ _ plain, Operator.holds_eq]

/-- Looking for a key in a column answers something when the key is found. -/
theorem select_whereEq_nonempty (m : Model) {column : String} (plain : '.' ∉ column.toList)
    (key : Value) (orderBy : List Order) (undotted : ∀ row ∈ store.rows m.table, row.Undotted) :
    (!(store.select ({ m.query.whereEq column key with orderBy } : Query).statement).isEmpty) =
      m.finds store column key := by
  unfold Model.finds
  rw [Bool.eq_iff_iff, Bool.not_eq_true', List.isEmpty_eq_false_iff_exists_mem, List.any_eq_true]
  exact exists_congr fun row => mem_select_whereEq m plain key orderBy undotted

/-- Looking for several keys in a column answers something when one of them is found. -/
theorem select_isIn_nonempty (m : Model) {column : String} (plain : '.' ∉ column.toList)
    (keys : List Value) (undotted : ∀ row ∈ store.rows m.table, row.Undotted) :
    (!(store.select (m.query.filter (.isIn column keys)).statement).isEmpty) =
      keys.any (m.finds store column) := by
  have answered (row : Row) := @mem_select_filter store m (.isIn column keys) [] undotted row
  simp only [Store.satisfies_isIn, Scope.lookup_ofRow _ _ plain] at answered
  unfold Model.finds
  rw [Bool.eq_iff_iff, Bool.not_eq_true', List.isEmpty_eq_false_iff_exists_mem]
  refine (exists_congr answered).trans ?_
  simp only [List.any_eq_true, Bool.and_eq_true]
  constructor
  · rintro ⟨row, hrow, ⟨key, hkey, equal⟩, shown⟩
    exact ⟨key, hkey, row, hrow, equal, shown⟩
  · rintro ⟨key, hkey, row, hrow, equal, shown⟩
    exact ⟨row, hrow, ⟨key, hkey, equal⟩, shown⟩

/-- A selection by a column alone answers the rows that carry the key in it. -/
theorem select_keyed (table : String) {column : String} (plain : '.' ∉ column.toList)
    (key : Value) :
    store.select { table, conditions := [(.and, .compare column .eq key)] } =
      (store.rows table).filter fun row => (row.value column).looseEq key := by
  rw [store.select_unjoined ⟨rfl, rfl, rfl, rfl, rfl⟩ rfl rfl]
  apply List.filter_congr
  intro row _
  rw [Store.selects, Store.satisfiesTree, Store.satisfiesRest, Store.satisfies,
    Scope.lookup_ofRow _ _ plain, Operator.holds_eq]

end Query

namespace Registry.Resolves

variable {registry : Registry} {relation : Relation} {target : Model}

/-- Without conditions, a relation without a table between reaches a row where its key is found. -/
theorem reaches_straight (resolves : registry.Resolves relation target)
    (straight : relation.bridge? = none) (store : Store) (owner : Row) :
    relation.reaches store target [] owner =
      target.finds store relation.foreignKey (owner.value relation.localKey) := by
  rw [relation.reaches_straight straight, ← resolves.table]
  rfl

/-- Without conditions, a relation with a table between reaches a row where one of the keys of the
owner's rows there is found. -/
theorem reaches_bridged (resolves : registry.Resolves relation target) {bridge : Bridge}
    (bridged : relation.bridge? = some bridge) (store : Store) (owner : Row) :
    relation.reaches store target [] owner = (store.rows bridge.table).any fun middle =>
      (middle.value bridge.ownerKey).looseEq (owner.value relation.localKey) &&
        target.finds store relation.foreignKey (middle.value bridge.key) := by
  rw [relation.reaches_bridged bridged, ← resolves.table]
  rfl

end Registry.Resolves

namespace Instance

open Related (leads)

variable {db : Database} {s : Session} {store : Store} {registry : Registry} {relation : Relation}
  {target : Model} {i : Instance}

/-- Without a key of the owner nothing is looked for. -/
theorem ownerKey_cases (i : Instance) (relation : Relation) :
    i.ownerKey relation = .error .missingPrimaryKey ∧
      i.attributes.value relation.localKey = .null ∨
    i.ownerKey relation = .ok (i.attributes.value relation.localKey) := by
  unfold ownerKey get? Row.value
  cases i.attributes.get? relation.localKey with
  | none => exact Or.inl ⟨rfl, rfl⟩
  | some key => cases key <;> simp

theorem finds_null (m : Model) (store : Store) (column : String) :
    m.finds store column .null = false := by
  unfold Model.finds
  simp [Value.looseEq_null]

theorem run_targetQuery (resolves : registry.Resolves relation target)
    (known : db.registry = registry) :
    relation.targetQuery db s = (.ok target.query, s) := by
  unfold Relation.targetQuery
  simp only [Work.run_bind, Work.run_database, Work.run_ofExcept, known, resolves.found,
    Work.run_pure]

/-- One row that is found, or an error. -/
theorem leads_found (i : Instance) (relation : Relation) (cause : MissingTarget) (rows : List Row)
    (m : Model) : leads (i.found relation cause (rows.head?.map (Instance.ofRow m)) db s).1 =
      !rows.isEmpty := by
  cases rows <;> rfl

section

variable (resolves : registry.Resolves relation target) (known : db.registry = registry)
  (opened : s.engine.storeOf db.handle = .ok store) (plain : '.' ∉ relation.foreignKey.toList)
  (undotted : ∀ row ∈ store.rows target.table, row.Undotted)

include resolves known opened plain undotted

theorem leads_parent (i : Instance) : leads (i.parent relation db s).1 =
    target.finds store relation.foreignKey (i.attributes.value relation.localKey) := by
  unfold parent
  rcases i.ownerKey_cases relation with ⟨none, null⟩ | key
  · rw [none, null, finds_null]
    rfl
  · obtain ⟨s', -, ran⟩ := Query.run_fetchFirst
      (target.query.whereEq relation.foreignKey (i.attributes.value relation.localKey))
      ⟨rfl, rfl, rfl, rfl, rfl⟩ opened
    simp only [key, Work.run_bind, run_targetQuery resolves known, ran, leads_found]
    exact Query.select_whereEq_nonempty target plain _ [] undotted

theorem leads_dependents (i : Instance) (page : relation.pageSize ≠ some 0) :
    leads (i.dependents relation db s).1 =
      target.finds store relation.foreignKey (i.attributes.value relation.localKey) := by
  unfold dependents
  rcases i.ownerKey_cases relation with ⟨none, null⟩ | key
  · rw [Work.run_bind, Work.run_ofExcept, none, null, finds_null]
    rfl
  · obtain ⟨q, asked, whole, some⟩ : ∃ q : Query,
        q = (target.query.whereEq relation.foreignKey
          (i.attributes.value relation.localKey)).orderedBy target.query.qualifiedKey .asc ∧
        q.statement.Whole ∧ (!(store.select q.statement).isEmpty) =
          target.finds store relation.foreignKey (i.attributes.value relation.localKey) :=
      ⟨_, rfl, ⟨rfl, rfl, rfl, rfl, rfl⟩, Query.select_whereEq_nonempty target plain _ _ undotted⟩
    obtain ⟨s', -, ran⟩ := Query.run_fetch { q with limit := relation.pageSize } opened
    simp only [key, Work.run_bind, Work.run_ofExcept, run_targetQuery resolves known, ← asked]
    rw [ran]
    change (!(List.map _ (store.select { q.statement with limit := relation.pageSize })).isEmpty) = _
    rw [List.isEmpty_map, store.isEmpty_select_limit whole page, some]

theorem leads_dependent (i : Instance) : leads (i.dependent relation db s).1 =
    target.finds store relation.foreignKey (i.attributes.value relation.localKey) := by
  unfold dependent
  rcases i.ownerKey_cases relation with ⟨none, null⟩ | key
  · rw [Work.run_bind, Work.run_ofExcept, none, null, finds_null]
    rfl
  · obtain ⟨s', -, ran⟩ := Query.run_fetchFirst
      ((target.query.whereEq relation.foreignKey (i.attributes.value relation.localKey)).orderedBy
        target.query.qualifiedKey .asc) ⟨rfl, rfl, rfl, rfl, rfl⟩ opened
    simp only [key, Work.run_bind, Work.run_ofExcept, run_targetQuery resolves known, ran,
      leads_found]
    exact Query.select_whereEq_nonempty target plain _ _ undotted

/-- What is fetched for several keys; nothing runs without keys. -/
theorem leads_keys (keys : List Value) :
    leads ((if keys.isEmpty then return .many []
      else do
        let query ← relation.targetQuery
        return .many (← (query.filter (.isIn relation.foreignKey keys)).fetch) :
          Task (Related Instance)) db s).1 = keys.any (target.finds store relation.foreignKey) := by
  cases empty : keys.isEmpty with
  | true =>
    rw [List.isEmpty_iff.1 empty]
    rfl
  | false =>
    obtain ⟨s', -, ran⟩ :=
      Query.run_fetch (target.query.filter (.isIn relation.foreignKey keys)) opened
    rw [if_neg (by decide), Work.run_bind, run_targetQuery resolves known]
    dsimp only
    rw [Work.run_bind, ran, ← Query.select_isIn_nonempty target plain keys undotted]
    change (!(List.map _ _).isEmpty) = _
    rw [List.isEmpty_map]

/-- The rows of the pivot table lead on by the keys that they carry. -/
theorem leads_linked {pivot : Pivot} (hpivot : relation.pivot = some pivot)
    (ownerKey : '.' ∉ pivot.ownerKey.toList) (i : Instance) :
    leads (i.linked relation db s).1 = (store.rows pivot.table).any fun middle =>
      (middle.value pivot.ownerKey).looseEq (i.attributes.value relation.localKey) &&
        target.finds store relation.foreignKey (middle.value pivot.relatedKey) := by
  unfold linked
  simp only [Work.run_bind, Work.run_ofExcept, Relation.requirePivot, hpivot]
  rcases i.ownerKey_cases relation with ⟨none, null⟩ | key
  · rw [none, null]
    simp only [Value.looseEq_null, Bool.false_and]
    exact (List.any_eq_false.2 (by simp)).symm
  · simp only [key, Task.run_select, Engine.select_eq, opened, Except.map,
      Query.select_keyed pivot.table ownerKey]
    refine (leads_keys resolves known (by exact opened) plain undotted _).trans ?_
    rw [List.any_filter, List.any_filterMap, List.any_filter]
    apply any_congr_of_mem
    intro middle _
    congr 1
    -- A row without the related key, or with null in it, leads nowhere.
    unfold Row.value
    cases middle.get? pivot.relatedKey with
    | none => exact (finds_null target store _).symm
    | some key => cases key <;> simp [Value.isNull, finds_null]

/-- Following a relation other than one through an entity leads to a row when the relation reaches
one. -/
theorem leads_related {name : String} (declared : i.model.relation name = .ok relation)
    (direct : relation.mechanism ≠ .through)
    (page : relation.mechanism = .hasMany → relation.pageSize ≠ some 0)
    (keys : ∀ key ∈ relation.innerKeys, '.' ∉ key.toList) :
    leads (i.related name db s).1 = relation.reaches store target [] i.attributes := by
  unfold related
  rw [Work.run_bind, Work.run_ofExcept, declared]
  dsimp only
  cases mechanism : relation.mechanism with
  | belongsTo =>
    rw [resolves.reaches_straight (by unfold Relation.bridge?; rw [mechanism])]
    exact leads_parent resolves known opened plain undotted i
  | hasMany =>
    rw [resolves.reaches_straight (by unfold Relation.bridge?; rw [mechanism])]
    exact leads_dependents resolves known opened plain undotted i (page mechanism)
  | hasOne =>
    rw [resolves.reaches_straight (by unfold Relation.bridge?; rw [mechanism])]
    exact leads_dependent resolves known opened plain undotted i
  | belongsToMany =>
    obtain ⟨pivot, hpivot⟩ := resolves.pivot mechanism
    have between : relation.bridge? = some ⟨pivot.table, pivot.ownerKey, pivot.relatedKey⟩ := by
      unfold Relation.bridge?
      rw [mechanism, hpivot]
      rfl
    have ownerKey : '.' ∉ pivot.ownerKey.toList := keys _ (by simp [Relation.innerKeys, between])
    rw [resolves.reaches_bridged between]
    exact leads_linked resolves known opened plain undotted hpivot ownerKey i
  | through => exact absurd mechanism direct

end

end Instance

namespace Relation

variable {relation : Relation} {store : Store} {m target : Model}

/-- Relations that following is compared with asking for: one that does not lead through an entity,
whose pages hold a row, whose tables are all different, and whose keys no row of the owner has a
column for. -/
structure Traversable (r : Relation) (store : Store) (owner : Model) : Prop where
  direct : r.mechanism ≠ .through
  page : r.mechanism = .hasMany → r.pageSize ≠ some 0
  target : owner.table ≠ r.targetTable
  between : ∀ bridge ∈ r.bridge?, owner.table ≠ bridge.table ∧ bridge.table ≠ r.targetTable
  owners : ∀ row ∈ store.rows owner.table, ∀ key ∈ r.innerKeys, row.get? key = none

/-- No name has a dot of its own, and a pivot row shows no value under the key column of a target row
that does not carry it. -/
structure Legible (r : Relation) (store : Store) (owner : Model) : Prop where
  keys : ∀ key ∈ r.innerKeys ++ (r.bridge?.map (·.key)).toList, '.' ∉ key.toList
  undotted : ∀ table ∈ r.tables owner, ∀ row ∈ store.rows table, row.Undotted
  carried : ∀ bridge ∈ r.bridge?, ∀ middle ∈ store.rows bridge.table,
    ∀ found ∈ store.rows r.targetTable,
      (found.get? r.foreignKey).isSome ∨ middle.value r.foreignKey = .null

/-- Without conditions of the caller, the only column asked for is the time of deletion. -/
theorem eq_of_mem_targetConditions {table name : String}
    (mem : name ∈ treeColumnNames (Query.targetConditions target table [])) :
    name = qualified table "deleted_at" := by
  unfold Query.targetConditions at mem
  rw [deletedAt_qualified] at mem
  split at mem
  · exact List.mem_singleton.1 mem
  · cases mem

/-- What no owner row has a column for, it does not show. -/
theorem Traversable.lookup_owner (traversable : relation.Traversable store m) {row : Row}
    (hrow : row ∈ store.rows m.table) {key : String} (inner : key ∈ relation.innerKeys)
    (plain : '.' ∉ key.toList) : (Scope.ofRow m.table row).lookup key = .null := by
  rw [Scope.lookup_ofRow _ _ plain, Row.value, traversable.owners row hrow key inner]
  rfl

/-- Between different tables rows show in the subqueries what they show alone. -/
theorem Traversable.apart (traversable : relation.Traversable store m)
    (legible : relation.Legible store m) : relation.Apart store m target [] := by
  have inner (key : String) (h : key ∈ relation.innerKeys) : '.' ∉ key.toList :=
    legible.keys key (List.mem_append_left _ h)
  have foreignKey : relation.foreignKey ∈ relation.innerKeys := List.mem_cons_self
  have deletedAt : '.' ∉ "deleted_at".toList := by decide
  have owners : ∀ row ∈ store.rows m.table, row.Undotted :=
    legible.undotted _ List.mem_cons_self
  refine ⟨inner, legible.undotted, ?_, ?_⟩
  · intro row hrow bridge hbridge middle _ name hname
    have ownerKey : bridge.ownerKey ∈ relation.innerKeys := by
      rw [Option.mem_def] at hbridge
      simp [innerKeys, hbridge]
    have key : '.' ∉ bridge.key.toList := by
      rw [Option.mem_def] at hbridge
      exact legible.keys _ (by simp [hbridge])
    rcases List.mem_cons.1 hname with rfl | hname
    · exact Or.inr (traversable.lookup_owner hrow ownerKey (inner _ ownerKey))
    · rw [List.mem_singleton.1 hname]
      exact Or.inr (Scope.lookup_ofRow_other (owners row hrow) key
        (traversable.between bridge hbridge).1)
  · intro row hrow sight hsight found hfound name hname
    unfold sights at hsight
    cases bridged : relation.bridge? with
    | none =>
      rw [bridged] at hsight
      rw [List.mem_singleton.1 hsight]
      rcases List.mem_cons.1 hname with rfl | hname
      · exact Or.inr (traversable.lookup_owner hrow foreignKey (inner _ foreignKey))
      · rw [eq_of_mem_targetConditions hname]
        exact Or.inr (Scope.lookup_ofRow_other (owners row hrow) deletedAt traversable.target)
    | some bridge =>
      rw [bridged] at hsight
      obtain ⟨middle, hmiddle, rfl⟩ := List.mem_map.1 hsight
      have undotted : middle.Undotted :=
        legible.undotted bridge.table (by simp [tables, bridged]) middle hmiddle
      rcases List.mem_cons.1 hname with rfl | hname
      · rcases legible.carried bridge bridged middle hmiddle found hfound with carries | none
        · exact Or.inl ((Scope.shows_ofRow (inner _ foreignKey)).2 carries)
        · right
          by_cases shows : (Scope.ofRow bridge.table middle).Shows relation.foreignKey
          · rw [Scope.lookup_nested_of_shows shows, Scope.lookup_ofRow _ _ (inner _ foreignKey), none]
          · rw [Scope.lookup_nested_of_not_shows shows]
            exact traversable.lookup_owner hrow foreignKey (inner _ foreignKey)
      · rw [eq_of_mem_targetConditions hname]
        right
        rw [Scope.lookup_nested_qualified undotted deletedAt (traversable.between bridge bridged).2]
        exact Scope.lookup_ofRow_other (owners row hrow) deletedAt traversable.target

end Relation

namespace Query

open Related (leads)

variable {registry : Registry} {m target : Model} {name : String} {relation : Relation}
  {store : Store}

/-- Of the rows of the default query, `has` keeps those from which following the relation leads to a
row. -/
def HasFollowsRelated (m : Model) (registry : Registry) (name : String) (store : Store) : Prop :=
  ∀ (db : Database) (s : Session), db.registry = registry →
    s.engine.storeOf db.handle = .ok store →
    ∃ all, (m.query.get db s).1 = .ok all ∧
      ((m.query.whereHas registry name []).bind fun has => (has.get db s).1) =
        .ok (all.filter fun i => leads (i.related name db s).1)

/-- Of the rows of the default query, `doesnt_have` keeps those from which following the relation
leads to an empty list or an error. -/
def LacksFollowsRelated (m : Model) (registry : Registry) (name : String) (store : Store) : Prop :=
  ∀ (db : Database) (s : Session), db.registry = registry →
    s.engine.storeOf db.handle = .ok store →
    ∃ all, (m.query.get db s).1 = .ok all ∧
      ((m.query.whereDoesntHave registry name []).bind fun lacks => (lacks.get db s).1) =
        .ok (all.filter fun i => !leads (i.related name db s).1)

/-- **Asking for a relation and following it.** Between different tables, where a pivot row does not
pass for the target row that it points at, `has` keeps exactly the rows from which following the
relation leads to a row, and `doesnt_have` keeps the others. -/
theorem hasFollowsRelated {c : Catalogue} (compiled : c.compile = .ok registry)
    (mem : m ∈ registry.models) (declared : m.relation name = .ok relation)
    (traversable : relation.Traversable store m) (legible : relation.Legible store m) :
    HasFollowsRelated m registry name store ∧ LacksFollowsRelated m registry name store := by
  obtain ⟨target, resolves⟩ := Catalogue.resolves compiled mem declared
  have apart : relation.Apart store m target [] := traversable.apart legible
  have undotted : ∀ row ∈ store.rows target.table, row.Undotted := by
    rw [resolves.table]
    exact apart.undotted _ (List.mem_cons_of_mem _ List.mem_cons_self)
  have followed {db : Database} {s : Session} (known : db.registry = registry)
      (opened : s.engine.storeOf db.handle = .ok store) :
      ∀ i ∈ (store.select m.query.statement).map (Instance.ofRow m),
        leads (i.related name db s).1 = relation.reaches store target [] i.attributes := by
    intro i hi
    obtain ⟨row, -, rfl⟩ := List.mem_map.1 hi
    exact Instance.leads_related resolves known opened (apart.keys _ List.mem_cons_self) undotted
      declared traversable.direct traversable.page apart.keys
  constructor
  · intro db s known opened
    refine ⟨_, run_get m.query rfl opened, (get_whereHas resolves declared apart rfl opened).trans ?_⟩
    exact congrArg Except.ok (List.filter_congr fun i hi => (followed known opened i hi).symm)
  · intro db s known opened
    refine ⟨_, run_get m.query rfl opened,
      (get_whereDoesntHave resolves declared apart rfl opened).trans ?_⟩
    exact congrArg Except.ok (List.filter_congr fun i hi => by rw [← followed known opened i hi])

/-- Two orders, one with a tag and a tag that is gone, the other one with none. -/
def taggedOrders : Store :=
  { tables :=
      [("orders", [.ofFields [("id", .int 1)], .ofFields [("id", .int 2)]]),
       ("order_tags",
        [.ofFields [("id", .int 1), ("order_id", .int 1), ("tag_id", .int 7)],
         .ofFields [("id", .int 2), ("order_id", .int 1), ("tag_id", .int 8)]]),
       ("tags", [.ofFields [("tag_id", .int 7)]])] }

/-- The relation of the orders to their tags. -/
def shopTags : Relation :=
  shopOrder.relations.head (by decide)

theorem hasFollowsRelated_taggedOrders :
    shopTags.Traversable taggedOrders shopOrder ∧ shopTags.Legible taggedOrders shopOrder ∧
    HasFollowsRelated shopOrder shopRegistry "tags" taggedOrders ∧
    LacksFollowsRelated shopOrder shopRegistry "tags" taggedOrders := by
  have traversable : shopTags.Traversable taggedOrders shopOrder :=
    ⟨by decide, by decide, by decide, by decide, by decide⟩
  have legible : shopTags.Legible taggedOrders shopOrder := ⟨by decide, by decide, by decide⟩
  have mem : shopOrder ∈ shopRegistry.models := List.mem_of_mem_tail (List.head_mem _)
  have declared : shopOrder.relation "tags" = .ok shopTags := rfl
  exact ⟨traversable, legible, hasFollowsRelated shop_compiles mem declared traversable legible⟩

/-- An order, a tag that does not carry its key, and a pivot row that points at another tag. -/
def borrowedTag : Store :=
  { tables :=
      [("orders", [.ofFields [("id", .int 1)]]),
       ("order_tags", [.ofFields [("order_id", .int 1), ("tag_id", .int 7)]]),
       ("tags", [.ofFields [("id", .int 1)]])] }

/-- A pivot row passes for the tag that does not carry the column. -/
theorem not_hasFollowsRelated_borrowed :
    shopTags.Traversable borrowedTag shopOrder ∧
    ¬ (HasFollowsRelated shopOrder shopRegistry "tags" borrowedTag ∧
      LacksFollowsRelated shopOrder shopRegistry "tags" borrowedTag) := by
  refine ⟨⟨by decide, by decide, by decide, by decide, by decide⟩, fun ⟨follows, _⟩ => ?_⟩
  let db : Database := { registry := shopRegistry }
  let s : Session := { engine := { shared := borrowedTag }, clock := ⟨0⟩ }
  obtain ⟨all, got, kept⟩ := follows db s rfl rfl
  have none : (all.filter fun i => leads (i.related "tags" db s).1).length = 0 := by
    rw [← Except.ok.inj got]
    decide +kernel
  have one := congrArg (fun answer => (answer.toOption.map List.length).getD 0) kept
  exact absurd (one.trans none) (by decide +kernel)

end Query

end EntityStore
