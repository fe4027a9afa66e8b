import EntityStore.Proofs.Sorting

/-!
# Loading a relation and following it

What a relation leads to is fetched twice over: `Model.loadRelations` fetches it for many owners at
once and hands the rows out by the text of their keys, `Instance.related` asks for one owner. Both
fetch rows of the target whose foreign key passes a test (`Model.answered`): handing out is a
further test on rows that are sorted already (`Relation.rowsOfOwner_answered`), so where rows carry
the keys that queries read (`Model.Keyed`) an owner gets what following the relation answers.
Main result: `Model.loadsRelated_direct`; a foreign key written with its table shows what goes wrong
where they do not (`Model.not_loadsRelated_qualified`).
-/

namespace EntityStore

namespace Instance

/-- The instance with what following a relation has led to; as it was where that has failed. -/
def attaching (i : Instance) (name : String) : Except Error (Related Instance) → Instance
  | .ok found => i.setRelation name found
  | .error _ => i

theorem keyText?_eq (i : Instance) (column : String) :
    i.keyText? column = (i.attributes.value column).keyText? := by
  unfold keyText? get? Row.value
  cases i.attributes.get? column <;> rfl

theorem run_related {i : Instance} {name : String} {relation : Relation}
    (declared : i.model.relation name = .ok relation) (db : Database) (s : Session) :
    i.related name db s =
      (match relation.mechanism with
        | .belongsTo => i.parent relation
        | .hasMany => i.dependents relation
        | .hasOne => i.dependent relation
        | .belongsToMany => i.linked relation
        | .through => i.through relation) db s := by
  unfold related
  rewrite [Work.run_bind, Work.run_ofExcept, declared]
  rfl

/-- An instance was loaded with what following the relation has answered, where the only error of
following is that it leads nowhere. -/
structure Agrees (i : Instance) (relation : Relation) (loaded : Instance)
    (answer : Except Error (Related Instance)) : Prop where
  attached : loaded = i.attaching relation.name answer
  nowhere : ∀ e, answer = .error e → e.kind = .relationNotFound

/-- To load the first of some rows is to attach what was found. -/
theorem Agrees.found {i : Instance} {relation : Relation} {rows : List Instance}
    {answer : Except Error (Related Instance)} {cause : MissingTarget} {db : Database} {s : Session}
    (answered : answer = (i.found relation cause rows.head? db s).1) :
    i.Agrees relation (relation.attachOne rows i) answer := by
  subst answered
  cases rows with
  | nil =>
    refine ⟨rfl, fun e failed => ?_⟩
    cases failed
    rfl
  | cons first rest => exact ⟨rfl, fun e failed => nomatch failed⟩

theorem Agrees.many {i : Instance} {relation : Relation} {rows : List Instance}
    {answer : Except Error (Related Instance)} (answered : answer = .ok (.many rows)) :
    i.Agrees relation (relation.attachMany rows i) answer := by
  subst answered
  exact ⟨rfl, fun e failed => nomatch failed⟩

end Instance

namespace Model

/-- Every row of the entity carries what queries read in the column, and that and what they read as
its primary key are keys. -/
structure Keyed (m : Model) (store : Store) (column : String) : Prop where
  carried : ∀ row ∈ store.rows m.table, (Scope.ofRow m.table row).lookup column = row.value column
  values : ∀ row ∈ store.rows m.table, (row.value column).IsKey
  primaryKey : ∀ row ∈ store.rows m.table,
    ((Scope.ofRow m.table row).lookup m.query.qualifiedKey).IsKey

/-- The rows of the entity in sight whose column passes a test, in an order. -/
def answered (m : Model) (store : Store) (column : String) (orderBy : List Order)
    (keep : Value → Bool) : List Instance :=
  (store.sorted m.table orderBy fun row =>
    store.selects m.table m.query.scopedConditions row && keep (row.value column)).map (.ofRow m)

/-- The order of the primary keys. -/
def keyOrder (m : Model) : List Order :=
  [.column m.query.qualifiedKey .asc]

variable {m : Model} {store : Store} {column : String} {keep keep' : Value → Bool}

theorem Keyed.ranked (keyed : m.Keyed store column) :
    Select.RankedBy m.keyOrder (fun scope => (scope.lookup m.query.qualifiedKey).keyRank)
      ((store.rows m.table).map (.ofRow m.table)) := by
  apply Select.rankedBy_keys
  intro scope hscope
  obtain ⟨row, hrow, rfl⟩ := List.mem_map.1 hscope
  exact keyed.primaryKey row hrow

theorem answered_congr {orderBy : List Order} (same : ∀ row ∈ store.rows m.table,
    keep (row.value column) = keep' (row.value column)) :
    m.answered store column orderBy keep = m.answered store column orderBy keep' := by
  unfold answered
  rw [store.sorted_congr fun row hrow => by rw [same row hrow]]

theorem answered_none (m : Model) (store : Store) (column : String) (orderBy : List Order) :
    m.answered store column orderBy (fun _ => false) = [] := by
  unfold answered
  simp only [Bool.and_false]
  rw [store.sorted_none]
  rfl

/-- A query of one condition answers by the column what the condition says of its value. -/
theorem select_answered (keyed : m.Keyed store column) (orderBy : List Order) (c : Condition)
    (asks : ∀ scope, store.satisfies scope c = keep (scope.lookup column)) :
    (store.select ({ m.query.filter c with orderBy } : Query).statement).map (Instance.ofRow m) =
      m.answered store column orderBy keep := by
  have whole : ({ m.query.filter c with orderBy } : Query).statement.Whole :=
    ⟨rfl, rfl, rfl, rfl, rfl⟩
  rw [store.select_eq_sorted whole rfl]
  unfold answered
  congr 1
  apply store.sorted_congr
  intro row hrow
  rw [← keyed.carried row hrow, ← asks]
  exact Query.selects_filter store m.query rfl c m.table row

/-- Looking for one key. -/
theorem select_whereEq (keyed : m.Keyed store column) (orderBy : List Order) (key : Value) :
    (store.select ({ m.query.whereEq column key with orderBy } : Query).statement).map
      (Instance.ofRow m) = m.answered store column orderBy (·.looseEq key) :=
  select_answered keyed orderBy _ fun scope => by rw [Store.satisfies, Operator.holds_eq]

/-- Looking for several keys. -/
theorem select_isIn (keyed : m.Keyed store column) (orderBy : List Order) (keys : List Value) :
    (store.select ({ m.query.filter (.isIn column keys) with orderBy } : Query).statement).map
      (Instance.ofRow m) = m.answered store column orderBy (fun v => keys.any v.looseEq) :=
  select_answered keyed orderBy _ fun scope => store.satisfies_isIn scope column keys

section

variable {db : Database} {s : Session} {q : Query} (keyed : m.Keyed store column)
  (opened : s.engine.storeOf db.handle = .ok store) (orderBy : List Order)

include keyed opened

theorem run_fetch_whereEq {key : Value}
    (asked : q = { m.query.whereEq column key with orderBy }) :
    ∃ s', s'.engine = s.engine ∧
      q.fetch db s = (.ok (m.answered store column orderBy (·.looseEq key)), s') := by
  obtain ⟨s', same, ran⟩ := Query.run_fetch q opened
  refine ⟨s', same, ?_⟩
  rw [ran, ← select_whereEq keyed orderBy key, asked]
  rfl

theorem run_fetchFirst_whereEq {key : Value}
    (asked : q = { m.query.whereEq column key with orderBy }) :
    ∃ s', s'.engine = s.engine ∧
      q.fetchFirst db s = (.ok (m.answered store column orderBy (·.looseEq key)).head?, s') := by
  have whole : q.statement.Whole := by
    rw [asked]
    exact ⟨rfl, rfl, rfl, rfl, rfl⟩
  obtain ⟨s', same, ran⟩ := Query.run_fetchFirst q whole opened
  refine ⟨s', same, ?_⟩
  rw [ran, ← select_whereEq keyed orderBy key, List.head?_map, asked]
  rfl

theorem run_fetch_isIn {keys : List Value}
    (asked : q = { m.query.filter (.isIn column keys) with orderBy }) :
    ∃ s', s'.engine = s.engine ∧
      q.fetch db s = (.ok (m.answered store column orderBy fun v => keys.any v.looseEq), s') := by
  obtain ⟨s', same, ran⟩ := Query.run_fetch q opened
  refine ⟨s', same, ?_⟩
  rw [ran, ← select_isIn keyed orderBy keys, asked]
  rfl

end

/-- The rows of one key among those that were fetched. -/
theorem rowsOfKey_answered {α : Type} [LinearOrder α] {rank : Scope → α} {orderBy : List Order}
    (ranked : Select.RankedBy orderBy rank ((store.rows m.table).map (.ofRow m.table)))
    (text : String) :
    Relation.rowsOfKey (m.answered store column orderBy keep) column text =
      m.answered store column orderBy fun v => keep v && v.keyText? == some text := by
  unfold Relation.rowsOfKey answered
  rw [List.filter_map]
  congr 1
  have byText : (fun row => decide (Instance.keyText? row column = some text)) ∘
      Instance.ofRow m = fun row => (row.value column).keyText? == some text := by
    funext row
    rw [Function.comp, Instance.keyText?_eq]
    exact (Bool.beq_eq_decide_eq _ _).symm
  rw [byText, store.sorted_filter ranked]
  apply store.sorted_congr
  intro row _
  exact Bool.and_assoc _ _ _

/-- The rows of one of the keys that were looked for, among those of all of them. -/
theorem rowsOfKey_listed {α : Type} [LinearOrder α] {rank : Scope → α} {orderBy : List Order}
    (keyed : m.Keyed store column)
    (ranked : Select.RankedBy orderBy rank ((store.rows m.table).map (.ofRow m.table)))
    {keys : List Value} {key : Value} {text : String} (isKey : key.IsKey) (mem : key ∈ keys)
    (labelled : key.keyText? = some text) :
    Relation.rowsOfKey (m.answered store column orderBy fun v => keys.any v.looseEq) column text =
      m.answered store column orderBy (·.looseEq key) := by
  rw [rowsOfKey_answered ranked]
  apply answered_congr
  intro row hrow
  have rowKey := keyed.values row hrow
  rw [Bool.eq_iff_iff, Bool.and_eq_true, beq_iff_eq, ← rowKey.looseEq_iff_keyText? isKey labelled]
  constructor
  · exact And.right
  · intro equal
    exact ⟨List.any_eq_true.2 ⟨key, mem, equal⟩, equal⟩

end Model

namespace Relation

/-- Collects the key of one more owner, unless one of its text was collected before. -/
def collectKey (column : String) (done : List (String × Value)) (owner : Instance) :
    List (String × Value) :=
  match owner.keyText? column with
  | none => done
  | some text =>
    if done.any (·.1 == text) then done else done ++ [(text, owner.attributes.value column)]

theorem distinctKeys_eq (owners : List Instance) (column : String) :
    distinctKeys owners column = (owners.foldl (collectKey column) []).map (·.2) := by
  unfold distinctKeys
  congr 2
  funext done owner
  unfold collectKey Instance.keyText? Row.value Instance.get?
  cases carried : owner.attributes.get? column <;> rfl

section

variable {column text : String} {value : Value} {done : List (String × Value)} {owner : Instance}
  {owners : List Instance}

theorem subset_collectKey (column : String) (done : List (String × Value)) (owner : Instance) :
    done ⊆ collectKey column done owner := by
  unfold collectKey
  split
  · exact List.Subset.refl _
  · split
    · exact List.Subset.refl _
    · exact List.subset_append_left _ _

theorem subset_collected (column : String) (owners : List Instance)
    (done : List (String × Value)) : done ⊆ owners.foldl (collectKey column) done := by
  induction owners generalizing done with
  | nil => exact List.Subset.refl _
  | cons owner rest ih => exact List.Subset.trans (subset_collectKey column done owner) (ih _)

/-- A key of the text of every owner is collected. -/
theorem exists_collected (done : List (String × Value)) (mem : owner ∈ owners)
    (labelled : owner.keyText? column = some text) :
    ∃ value, (text, value) ∈ owners.foldl (collectKey column) done := by
  induction owners generalizing done with
  | nil => cases mem
  | cons first rest ih =>
    rcases List.mem_cons.1 mem with rfl | mem
    · obtain ⟨value, here⟩ : ∃ value, (text, value) ∈ collectKey column done owner := by
        unfold collectKey
        rw [labelled]
        dsimp only
        split
        · next before =>
          obtain ⟨⟨label, value⟩, hentry, same⟩ := List.any_eq_true.1 before
          exact ⟨value, eq_of_beq same ▸ hentry⟩
        · exact ⟨_, List.mem_append_right _ List.mem_cons_self⟩
      exact ⟨value, subset_collected column rest _ here⟩
    · exact ih _ mem

/-- What is collected is the key of an owner. -/
theorem of_collected (mem : (text, value) ∈ owners.foldl (collectKey column) done) :
    (text, value) ∈ done ∨ ∃ owner ∈ owners,
      value = owner.attributes.value column ∧ owner.keyText? column = some text := by
  induction owners generalizing done with
  | nil => exact Or.inl mem
  | cons first rest ih =>
    rcases ih mem with here | ⟨owner, howner, found⟩
    · unfold collectKey at here
      split at here
      · exact Or.inl here
      · next label labelled =>
        split at here
        · exact Or.inl here
        · rcases List.mem_append.1 here with before | new
          · exact Or.inl before
          · cases List.mem_singleton.1 new
            exact Or.inr ⟨first, List.mem_cons_self, rfl, labelled⟩
    · exact Or.inr ⟨owner, List.mem_cons_of_mem _ howner, found⟩

/-- The keys of the owners are asked for, all but null. -/
theorem mem_distinctKeys (keys : ∀ owner ∈ owners, (owner.attributes.value column).IsKey)
    (mem : owner ∈ owners) (present : owner.attributes.value column ≠ .null) :
    owner.attributes.value column ∈ distinctKeys owners column := by
  obtain ⟨text, labelled⟩ : ∃ text, owner.keyText? column = some text := by
    rw [Instance.keyText?_eq]
    exact Value.exists_keyText? present
  obtain ⟨value, collected⟩ := exists_collected [] mem labelled
  rcases of_collected collected with none | ⟨other, hother, rfl, sameText⟩
  · cases none
  · rw [Instance.keyText?_eq] at labelled sameText
    have same := (keys owner mem).eq_of_keyText? (keys other hother) labelled sameText
    rw [distinctKeys_eq, same]
    exact List.mem_map_of_mem collected

end

/-- Of the rows that were fetched for all owners, an owner gets those of its key. -/
theorem rowsOfOwner_answered {α : Type} [LinearOrder α] {rank : Scope → α} {r : Relation}
    {store : Store} {target : Model} {orderBy : List Order} {owners : List Instance}
    {owner : Instance} (keyed : target.Keyed store r.foreignKey)
    (ranked : Select.RankedBy orderBy rank ((store.rows target.table).map (.ofRow target.table)))
    (keys : ∀ owner ∈ owners, (owner.attributes.value r.localKey).IsKey) (mem : owner ∈ owners) :
    r.rowsOfOwner
        (target.answered store r.foreignKey orderBy fun v =>
          (distinctKeys owners r.localKey).any v.looseEq)
        owner =
      target.answered store r.foreignKey orderBy
        (·.looseEq (owner.attributes.value r.localKey)) := by
  unfold rowsOfOwner
  rw [Instance.keyText?_eq]
  cases labelled : (owner.attributes.value r.localKey).keyText? with
  | none =>
    rw [(Value.keyText?_eq_none _).1 labelled]
    exact (target.answered_none store r.foreignKey orderBy).symm.trans
      (Model.answered_congr fun row _ => (Value.looseEq_null _).symm)
  | some text =>
    have present : owner.attributes.value r.localKey ≠ .null := by
      intro null
      rw [null] at labelled
      cases labelled
    exact Model.rowsOfKey_listed keyed ranked (keys owner mem) (mem_distinctKeys keys mem present)
      labelled

section

variable {registry : Registry} {relation : Relation} {store : Store} {target : Model}
  {db : Database} {s : Session} (resolves : registry.Resolves relation target)
  (known : db.registry = registry) (opened : s.engine.storeOf db.handle = .ok store)
  (keyed : target.Keyed store relation.foreignKey)

include resolves known opened keyed

/-- The row that an instance belongs to is the first one of its key. -/
theorem parent_answered (i : Instance) : ∃ cause s', (i.parent relation db s).1 =
    (i.found relation cause (target.answered store relation.foreignKey []
      (·.looseEq (i.attributes.value relation.localKey))).head? db s').1 := by
  unfold Instance.parent
  rcases i.ownerKey_cases relation with ⟨none, null⟩ | key
  · simp only [none, null, Value.looseEq_null, Model.answered_none]
    exact ⟨.nullKey relation.localKey, s, rfl⟩
  · obtain ⟨s', -, ran⟩ := Model.run_fetchFirst_whereEq keyed opened []
      (rfl : target.query.whereEq _ (i.attributes.value relation.localKey) = _)
    simp only [key, Work.run_bind, Instance.run_targetQuery resolves known, ran]
    exact ⟨_, s', rfl⟩

/-- The rows that point at an instance with a key are those of its key, in order and cut off. -/
theorem dependents_answered {i : Instance} (present : i.attributes.value relation.localKey ≠ .null) :
    (i.dependents relation db s).1 = .ok (.many (relation.firstPage (target.answered store relation.foreignKey
      target.keyOrder (·.looseEq (i.attributes.value relation.localKey))))) := by
  have key := (i.ownerKey_cases relation).resolve_left fun none => present none.2
  obtain ⟨q, asked, whole, rows⟩ : ∃ q : Query,
      q = (target.query.whereEq relation.foreignKey
        (i.attributes.value relation.localKey)).orderedBy target.query.qualifiedKey .asc ∧
      q.statement.Whole ∧ (store.select q.statement).map (Instance.ofRow target) =
        target.answered store relation.foreignKey target.keyOrder
          (·.looseEq (i.attributes.value relation.localKey)) :=
    ⟨_, rfl, ⟨rfl, rfl, rfl, rfl, rfl⟩, Model.select_whereEq keyed _ _⟩
  have model : q.model = target := by rw [asked]; rfl
  obtain ⟨s', -, ran⟩ := Query.run_fetch { q with limit := relation.pageSize } opened
  unfold Instance.dependents firstPage
  simp only [key, Work.run_bind, Work.run_ofExcept, Instance.run_targetQuery resolves known, ← asked]
  rw [ran]
  change Except.ok (Related.many (List.map (Instance.ofRow q.model)
    (store.select { q.statement with limit := relation.pageSize }))) = _
  rw [← rows, model]
  cases relation.pageSize with
  | none =>
    have same : { q.statement with limit := none } = q.statement := by rw [← whole.limit]
    rw [same]
  | some n => rw [store.select_limit whole n, List.map_take]

/-- The single row that points at an instance with a key is the first one of its key. -/
theorem dependent_answered {i : Instance} (present : i.attributes.value relation.localKey ≠ .null) :
    ∃ cause s', (i.dependent relation db s).1 =
      (i.found relation cause (target.answered store relation.foreignKey target.keyOrder
        (·.looseEq (i.attributes.value relation.localKey))).head? db s').1 := by
  have key := (i.ownerKey_cases relation).resolve_left fun none => present none.2
  obtain ⟨s', -, ran⟩ := Model.run_fetchFirst_whereEq keyed opened target.keyOrder
    (rfl : (target.query.whereEq _ (i.attributes.value relation.localKey)).orderedBy
      target.query.qualifiedKey .asc = _)
  unfold Instance.dependent
  simp only [key, Work.run_bind, Work.run_ofExcept, Instance.run_targetQuery resolves known, ran]
  exact ⟨_, s', rfl⟩

/-- The rows of several keys are fetched in their order. -/
theorem run_fetchOrdered (keys : List Value) :
    ∃ s', s'.engine = s.engine ∧ relation.fetchOrdered keys db s =
      (.ok (target.answered store relation.foreignKey target.keyOrder
        fun v => keys.any v.looseEq), s') := by
  unfold fetchOrdered
  cases keys with
  | nil =>
    refine ⟨s, rfl, ?_⟩
    simp only [List.isEmpty_nil, if_true, List.any_nil, Model.answered_none]
    rfl
  | cons first rest =>
    rw [List.isEmpty_cons, if_neg Bool.false_ne_true, Work.run_bind,
      Instance.run_targetQuery resolves known]
    exact Model.run_fetch_isIn keyed opened target.keyOrder rfl

variable {owners : List Instance}
  (keys : ∀ owner ∈ owners, (owner.attributes.value relation.localKey).IsKey)

include keys

/-- Every owner gets the first row of its key. -/
theorem loadParents_answered : (relation.loadParents owners db s).1 =
    .ok (owners.map fun owner => relation.attachOne (target.answered store relation.foreignKey []
      (·.looseEq (owner.attributes.value relation.localKey))) owner) := by
  have handed (owner : Instance) (mem : owner ∈ owners) :=
    rowsOfOwner_answered keyed (Select.rankedBy_nil _) keys mem
  unfold loadParents
  cases asked : distinctKeys owners relation.localKey with
  | nil =>
    have alone : ∀ owner ∈ owners, relation.attachOne (target.answered store relation.foreignKey []
        (·.looseEq (owner.attributes.value relation.localKey))) owner = owner := by
      intro owner mem
      rw [← handed owner mem, asked]
      simp only [List.any_nil, Model.answered_none]
      unfold rowsOfOwner
      split <;> rfl
    rw [List.map_congr_left alone, List.map_id']
    rfl
  | cons first rest =>
    obtain ⟨s', -, ran⟩ := Model.run_fetch_isIn keyed opened []
      (rfl : target.query.filter (.isIn _ (first :: rest)) = _)
    rw [asked] at handed
    rw [List.isEmpty_cons, if_neg Bool.false_ne_true, Work.run_bind,
      Instance.run_targetQuery resolves known]
    dsimp only
    rw [Work.run_bind, ran]
    change Except.ok _ = _
    congr 1
    apply List.map_congr_left
    intro owner mem
    rw [handed owner mem]

/-- Every owner gets the rows of its key, or the first of them. -/
theorem loadDependents_answered : (relation.loadDependents owners db s).1 =
    .ok (owners.map fun owner =>
      let rows := target.answered store relation.foreignKey target.keyOrder
        (·.looseEq (owner.attributes.value relation.localKey))
      if relation.mechanism = .hasOne then relation.attachOne rows owner
      else relation.attachMany (relation.firstPage rows) owner) := by
  obtain ⟨s', -, ran⟩ := run_fetchOrdered resolves known opened keyed
    (distinctKeys owners relation.localKey)
  unfold loadDependents
  rw [Work.run_bind, ran]
  change Except.ok _ = _
  congr 1
  apply List.map_congr_left
  intro owner mem
  dsimp only
  rw [rowsOfOwner_answered keyed keyed.ranked keys mem]

/-- A relation without a table between, loaded onto instances that declare it, gives each of them
what following it answers. -/
theorem loadOnto_agrees {name : String}
    (declared : ∀ i ∈ owners, i.model.relation name = .ok relation)
    (direct : relation.mechanism ∈ [.belongsTo, .hasMany, .hasOne])
    (owned : relation.mechanism ≠ .belongsTo →
      ∀ i ∈ owners, i.attributes.value relation.localKey ≠ .null) :
    ∃ load, (relation.loadOnto owners db s).1 = .ok (owners.map load) ∧
      ∀ i ∈ owners, i.Agrees relation (load i) (i.related name db s).1 := by
  have followed (i : Instance) (hi : i ∈ owners) := Instance.run_related (declared i hi) db s
  unfold loadOnto
  cases mechanism : relation.mechanism with
  | belongsTo =>
    simp only [mechanism] at followed
    refine ⟨_, loadParents_answered resolves known opened keyed keys, fun i hi => ?_⟩
    obtain ⟨cause, s', answered⟩ := parent_answered resolves known opened keyed i
    rw [followed i hi]
    exact .found answered
  | hasMany =>
    have owned := owned (by rw [mechanism]; decide)
    simp only [mechanism] at followed
    refine ⟨_, loadDependents_answered resolves known opened keyed keys, fun i hi => ?_⟩
    rw [followed i hi, if_neg (by rw [mechanism]; decide)]
    exact .many (dependents_answered resolves known opened keyed (owned i hi))
  | hasOne =>
    have owned := owned (by rw [mechanism]; decide)
    simp only [mechanism] at followed
    refine ⟨_, loadDependents_answered resolves known opened keyed keys, fun i hi => ?_⟩
    obtain ⟨cause, s', answered⟩ := dependent_answered resolves known opened keyed (owned i hi)
    rw [followed i hi, if_pos mechanism]
    exact .found answered
  | belongsToMany => simp [mechanism] at direct
  | through => simp [mechanism] at direct

end

end Relation

namespace Model

variable {registry : Registry} {m target : Model} {name : String} {relation : Relation}
  {store : Store} {db : Database} {s : Session} {owners : List Instance}

/-- Loading a relation onto instances gives each of them what following it leads to, and leaves it
as it is where following fails. -/
def LoadsRelated (m : Model) (name : String) (db : Database) (s : Session)
    (owners : List Instance) : Prop :=
  (m.loadRelations [name] owners db s).1 =
    .ok (owners.map fun i => i.attaching name (i.related name db s).1)

theorem run_loadRelations (declared : m.relation name = .ok relation) (owners : List Instance)
    (db : Database) (s : Session) :
    (m.loadRelations [name] owners db s).1 = (relation.loadOnto owners db s).1 := by
  unfold loadRelations
  rw [List.foldlM_cons]
  simp only [Work.run_bind, Work.run_ofExcept, declared, List.foldlM_nil]
  cases relation.loadOnto owners db s with
  | mk answer s' => cases answer <;> rfl

/-- **Loading and following, row by row.** A relation without a table between, loaded onto any
instances of the entity that have their primary keys, gives each of them what following it from
that instance leads to. Following fails only where it leads nowhere. -/
theorem loadsRelated_direct {c : Catalogue} (compiled : c.compile = .ok registry)
    (mem : m ∈ registry.models) (declared : m.relation name = .ok relation)
    (direct : relation.mechanism ∈ [.belongsTo, .hasMany, .hasOne])
    (found : registry.get relation.targetEntity = .ok target)
    (keyed : target.Keyed store relation.foreignKey) (known : db.registry = registry)
    (opened : s.engine.storeOf db.handle = .ok store)
    (ofModel : ∀ i ∈ owners, i.model = m)
    (present : ∀ i ∈ owners, i.attributes.value m.primaryKey ≠ .null)
    (keys : ∀ i ∈ owners, (i.attributes.value relation.localKey).IsKey) :
    m.LoadsRelated name db s owners ∧
      ∀ i ∈ owners, ∀ e, (i.related name db s).1 = .error e → e.kind = .relationNotFound := by
  obtain ⟨target', resolves⟩ := Catalogue.resolves compiled mem declared
  cases Except.ok.inj (resolves.found.symm.trans found)
  have owned (byKey : relation.mechanism ≠ .belongsTo) (i : Instance) (hi : i ∈ owners) :
      i.attributes.value relation.localKey ≠ .null := by
    rw [Catalogue.localKey_of_compiled compiled mem declared byKey]
    exact present i hi
  obtain ⟨load, loaded, agrees⟩ := Relation.loadOnto_agrees resolves known opened keyed keys
    (fun i hi => ofModel i hi ▸ declared) direct owned
  refine ⟨?_, fun i hi => (agrees i hi).nowhere⟩
  unfold LoadsRelated
  rw [run_loadRelations declared, loaded]
  congr 1
  apply List.map_congr_left
  intro i hi
  rw [(agrees i hi).attached, (relation_eq_ok declared).2]

/-- Orders whose keys do not ascend; one is in the trash and one has no customer. -/
def mixedOrders : Store :=
  { tables :=
      [("customers", [.ofFields [("id", .int 1)], .ofFields [("id", .int 2)]]),
       ("orders",
        [.ofFields [("customer_id", .int 2), ("deleted_at", .null), ("id", .int 9)],
         .ofFields [("customer_id", .int 1), ("deleted_at", .text "2024-05-01"), ("id", .int 4)],
         .ofFields [("customer_id", .int 2), ("deleted_at", .null), ("id", .int 3)],
         .ofFields [("customer_id", .null), ("deleted_at", .null), ("id", .int 5)]])] }

/-- The two customers, one of them twice. -/
def mixedOwners : List Instance :=
  [.ofRow shopCustomer (.ofFields [("id", .int 2)]), .ofRow shopCustomer (.ofFields [("id", .int 1)]),
    .ofRow shopCustomer (.ofFields [("id", .int 2)])]

theorem loadsRelated_mixedOrders :
    shopOrder.Keyed mixedOrders shopOrders.foreignKey ∧
    shopCustomer.LoadsRelated "orders" { registry := shopRegistry }
      { engine := { shared := mixedOrders }, clock := ⟨0⟩ } mixedOwners ∧
    ∀ i ∈ mixedOwners, ∀ e, (i.related "orders" { registry := shopRegistry }
      { engine := { shared := mixedOrders }, clock := ⟨0⟩ }).1 = .error e →
        e.kind = .relationNotFound := by
  have keyed : shopOrder.Keyed mixedOrders shopOrders.foreignKey := ⟨by decide, by decide, by decide⟩
  have mem : shopCustomer ∈ shopRegistry.models := List.head_mem _
  have declared : shopCustomer.relation "orders" = .ok shopOrders := rfl
  have ofModel : ∀ i ∈ mixedOwners, i.model = shopCustomer := by
    intro i hi
    simp only [mixedOwners, List.mem_cons, List.not_mem_nil, or_false] at hi
    rcases hi with rfl | rfl | rfl <;> rfl
  exact ⟨keyed, loadsRelated_direct shop_compiles mem declared (by decide) rfl keyed rfl rfl ofModel
    (by decide) (by decide)⟩

/-- Customers whose orders point at them by a column that is written with its table. -/
def qualifiedShop : Catalogue :=
  { schemas :=
      [{ name := "Customer", table := some "customers"
         relations :=
           { hasMany := [{ entity := "Order", name := some "orders",
                           foreignKey := some "orders.customer_id" }] }
         traits := { timestamps := false } },
       { name := "Order", table := some "orders", traits := { timestamps := false } }] }

def qualifiedShopRegistry : Registry :=
  qualifiedShop.compile.toOption.getD {}

/-- The entity of the customers there. -/
def qualifiedCustomer : Model :=
  qualifiedShopRegistry.models.head (by decide)

/-- A customer with one order. -/
def pointingOrder : Store :=
  { tables :=
      [("customers", [.ofFields [("id", .int 1)]]),
       ("orders", [.ofFields [("customer_id", .int 1), ("id", .int 1)]])] }

/-- Queries read the qualified column, but no row carries it under that name when the rows are
handed out. -/
theorem not_loadsRelated_qualified :
    qualifiedShop.compile = .ok qualifiedShopRegistry ∧
    ¬ qualifiedCustomer.LoadsRelated "orders" { registry := qualifiedShopRegistry }
      { engine := { shared := pointingOrder }, clock := ⟨0⟩ }
      [.ofRow qualifiedCustomer (.ofFields [("id", .int 1)])] := by
  refine ⟨rfl, fun loaded => ?_⟩
  unfold LoadsRelated at loaded
  have sizes := congrArg (fun answer => ((answer.toOption.bind List.head?).bind
    (·.relation? "orders")).map (·.toList.length)) loaded
  exact absurd sizes (by decide +kernel)

end Model

end EntityStore
