import EntityStore.Proofs.Batches
import EntityStore.Proofs.Through

/-!
# Loading and following relations with a table between

Over a table between, loading and following a relation read the same links but list what they lead
to in different orders. Following a relation of many to many asks for the rows of all linked keys at
once and lists them in the order of their table, loading walks the links. Following a relation
through an entity lists the rows behind the first row between in the order of their table, loading
lists them in the order of their keys. The two agree exactly where the two orders are one
(`Relation.KeepsOrder`). Main result: `Model.loadsRelated_linked_iff`; two tags that are linked in
the other order show the difference (`Model.not_loadsRelated_reversed`).
-/

namespace EntityStore

/-- To look up the first row of every key in turn is to keep the rows of these keys, exactly where
the keys that are found come in the order of the rows and every row is the first of its key. -/
theorem filterMap_find?_eq_filter_iff {α κ : Type} [DecidableEq κ] (rows : List α) (f : α → κ)
    (keys : List κ) :
    (keys.filterMap fun k => rows.find? fun a => f a = k) = rows.filter (fun a => f a ∈ keys) ↔
      (keys.filter fun k => rows.any fun a => f a = k) =
          (rows.filter fun a => f a ∈ keys).map f ∧
        ∀ a ∈ rows, f a ∈ keys → rows.find? (fun b => f b = f a) = some a := by
  have keyOf {k : κ} {a : α} (h : rows.find? (fun a => f a = k) = some a) : f a = k :=
    of_decide_eq_true (List.find?_some h :)
  have found : (keys.filterMap fun k => rows.find? fun a => f a = k).map f =
      keys.filter fun k => (rows.find? fun a => f a = k).isSome := by
    induction keys with
    | nil => rfl
    | cons k rest ih =>
      rw [List.filterMap_cons, List.filter_cons]
      cases first : rows.find? fun a => f a = k with
      | none => exact ih
      | some a => exact congrArg₂ List.cons (keyOf first) ih
  simp only [← List.isSome_find?]
  constructor
  · intro same
    refine ⟨by rw [← found, same], fun a ha listed => ?_⟩
    have kept : a ∈ keys.filterMap fun k => rows.find? fun a => f a = k := by
      rw [same]
      exact List.mem_filter.2 ⟨ha, decide_eq_true listed⟩
    obtain ⟨k, -, first⟩ := List.mem_filterMap.1 kept
    rw [keyOf first]
    exact first
  · rintro ⟨order, firsts⟩
    have restricted : (keys.filterMap fun k => rows.find? fun a => f a = k) =
        (keys.filter fun k => (rows.find? fun a => f a = k).isSome).filterMap
          fun k => rows.find? fun a => f a = k := by
      rw [List.filterMap_filter]
      apply List.filterMap_congr
      intro k _
      cases rows.find? fun a => f a = k <;> rfl
    rw [restricted, order, List.filterMap_map]
    refine (List.filterMap_congr fun a ha => ?_).trans List.filterMap_some
    obtain ⟨ha, listed⟩ := List.mem_filter.1 ha
    exact firsts a ha (of_decide_eq_true listed)

namespace Model

/-- The rows of the entity that queries see. -/
def inSight (m : Model) (store : Store) : List Row :=
  (store.rows m.table).filter (store.selects m.table m.query.scopedConditions)

variable {m : Model} {store : Store} {column : String} {keep : Value → Bool}

theorem answered_unordered (m : Model) (store : Store) (column : String) (keep : Value → Bool) :
    m.answered store column [] keep =
      ((m.inSight store).filter fun row => keep (row.value column)).map (.ofRow m) := by
  unfold answered inSight
  rw [store.sorted_nil, List.filter_filter]
  congr 1
  apply List.filter_congr
  intro row _
  exact Bool.and_comm _ _

/-- The place of a row in the order of the primary keys. -/
def keyPlace (m : Model) (row : Row) : WithTop Int :=
  ((Scope.ofRow m.table row).lookup m.query.qualifiedKey).keyRank

/-- The order of the primary keys is that of the table where the rows of the test ascend. -/
theorem answered_ordered_iff (keyed : m.Keyed store column) (keep : Value → Bool) :
    m.answered store column m.keyOrder keep = m.answered store column [] keep ↔
      ((m.inSight store).filter fun row => keep (row.value column)).Pairwise fun a b =>
        m.keyPlace a ≤ m.keyPlace b := by
  have ordered := store.sorted_eq_filter_iff keyed.ranked rfl fun row =>
    store.selects m.table m.query.scopedConditions row && keep (row.value column)
  have both : ((store.rows m.table).filter fun row =>
        store.selects m.table m.query.scopedConditions row && keep (row.value column)) =
      (m.inSight store).filter fun row => keep (row.value column) := by
    unfold inSight
    rw [List.filter_filter]
    exact List.filter_congr fun row _ => Bool.and_comm _ _
  rw [both] at ordered
  rw [answered_unordered, answered, List.map_inj_right m.ofRow_injective]
  exact ordered

end Model

namespace Relation

variable {registry : Registry} {relation : Relation} {db : Database} {s : Session} {store : Store}
  {target : Model} (resolves : registry.Resolves relation target) (known : db.registry = registry)
  (opened : s.engine.storeOf db.handle = .ok store)
  (keyed : target.Keyed store relation.foreignKey)

include resolves known opened keyed

/-- The rows of the target of several keys come in the order of their table; nothing is fetched
without keys. -/
theorem fetched_unordered {α : Type} (keys : List Value) (answer : List Instance → α) :
    ((if keys.isEmpty then return answer [] else do
      let query ← relation.targetQuery
      return answer (← (query.filter (.isIn relation.foreignKey keys)).fetch) : Task α) db s).1 =
    .ok (answer (target.answered store relation.foreignKey [] fun v => keys.any v.looseEq)) := by
  cases keys with
  | nil =>
    simp only [List.isEmpty_nil, if_true, List.any_nil, Model.answered_none]
    rfl
  | cons first rest =>
    obtain ⟨s', -, ran⟩ := Model.run_fetch_isIn keyed opened []
      (rfl : target.query.filter (.isIn _ (first :: rest)) = _)
    rw [List.isEmpty_cons, if_neg Bool.false_ne_true, Work.run_bind,
      Instance.run_targetQuery resolves known]
    dsimp only
    rw [Work.run_bind, ran]
    rfl

end Relation

namespace Pivot

/-- Every row of the pivot table carries what queries read as the key of the owner, and its keys are
keys. -/
structure Keyed (pivot : Pivot) (store : Store) : Prop where
  carried : ∀ row ∈ store.rows pivot.table,
    (Scope.ofRow pivot.table row).lookup pivot.ownerKey = row.value pivot.ownerKey
  ownerKeys : ∀ row ∈ store.rows pivot.table, (row.value pivot.ownerKey).IsKey
  relatedKeys : ∀ row ∈ store.rows pivot.table, (row.value pivot.relatedKey).IsKey

/-- The keys that the pivot table links to the key of an owner, in its order. -/
def linkKeys (pivot : Pivot) (store : Store) (key : Value) : List Value :=
  (((store.rows pivot.table).filter fun row => (row.value pivot.ownerKey).looseEq key).map
    (·.value pivot.relatedKey)).filter fun v => !v.isNull

/-- The links of a key lead to the rows of the target in sight in the order of these rows, to each
of them once, and every one of them is the first row of its key. -/
structure InOrder (pivot : Pivot) (store : Store) (target : Model) (column : String) (key : Value) :
    Prop where
  order : ((pivot.linkKeys store key).filter fun k =>
      (target.inSight store).any fun row => row.value column = k) =
    ((target.inSight store).filter fun row => row.value column ∈ pivot.linkKeys store key).map
      (·.value column)
  first : ∀ row ∈ target.inSight store, row.value column ∈ pivot.linkKeys store key →
    (target.inSight store).find? (fun other => other.value column = row.value column) = some row

instance (pivot : Pivot) (store : Store) (target : Model) (column : String) (key : Value) :
    Decidable (pivot.InOrder store target column key) :=
  decidable_of_iff (_ ∧ _) ⟨fun h => ⟨h.1, h.2⟩, fun h => ⟨h.order, h.first⟩⟩

variable {pivot : Pivot} {store : Store} {target : Model} {column : String} {key v : Value}

theorem isKey_of_mem_linkKeys (keyed : pivot.Keyed store) (mem : v ∈ pivot.linkKeys store key) :
    v.IsKey ∧ v ≠ .null := by
  obtain ⟨linked, some⟩ := List.mem_filter.1 mem
  obtain ⟨row, hrow, rfl⟩ := List.mem_map.1 linked
  refine ⟨keyed.relatedKeys row (List.mem_filter.1 hrow).1, fun null => ?_⟩
  rw [null] at some
  cases some

/-- Walking the links and asking for all linked keys give one list exactly where the links are in
order. -/
theorem inOrder_iff (keyed : pivot.Keyed store) (targetKeyed : target.Keyed store column) :
    ((pivot.linkKeys store key).filterMap fun v =>
        (target.answered store column [] (·.looseEq v)).head?) =
      target.answered store column [] (fun v => (pivot.linkKeys store key).any v.looseEq) ↔
    pivot.InOrder store target column key := by
  have meets {row : Row} {v : Value} (hrow : row ∈ target.inSight store)
      (linked : v ∈ pivot.linkKeys store key) :
      (row.value column).looseEq v = true ↔ row.value column = v := by
    obtain ⟨isKey, some⟩ := isKey_of_mem_linkKeys keyed linked
    rw [(targetKeyed.values row (List.mem_filter.1 hrow).1).looseEq_eq_true isKey]
    exact ⟨And.right, fun same => ⟨same ▸ some, same⟩⟩
  have walked : ((pivot.linkKeys store key).filterMap fun v =>
        (target.answered store column [] (·.looseEq v)).head?) =
      ((pivot.linkKeys store key).filterMap fun v =>
        (target.inSight store).find? fun row => row.value column = v).map (.ofRow target) := by
    rw [List.map_filterMap]
    apply List.filterMap_congr
    intro v linked
    have carries : (target.inSight store).filter (fun row => (row.value column).looseEq v) =
        (target.inSight store).filter fun row => row.value column = v := by
      apply List.filter_congr
      intro row hrow
      rw [Bool.eq_iff_iff, meets hrow linked, decide_eq_true_iff]
    rw [Model.answered_unordered, carries, List.head?_map, List.head?_filter]
  have asked : target.answered store column [] (fun v => (pivot.linkKeys store key).any v.looseEq) =
      ((target.inSight store).filter fun row =>
        row.value column ∈ pivot.linkKeys store key).map (.ofRow target) := by
    rw [Model.answered_unordered]
    congr 1
    apply List.filter_congr
    intro row hrow
    rw [Bool.eq_iff_iff, List.any_eq_true, decide_eq_true_iff]
    constructor
    · rintro ⟨v, linked, equal⟩
      exact (meets hrow linked).1 equal ▸ linked
    · intro linked
      exact ⟨_, linked, (meets hrow linked).2 rfl⟩
  rw [walked, asked, List.map_inj_right target.ofRow_injective, filterMap_find?_eq_filter_iff]
  exact ⟨fun h => ⟨h.1, h.2⟩, fun h => ⟨h.order, h.first⟩⟩

/-- A selection from the pivot table by the key of the owner. -/
theorem select_eq (keyed : pivot.Keyed store) (c : Condition) (keep : Value → Bool)
    (asks : ∀ scope, store.satisfies scope c = keep (scope.lookup pivot.ownerKey)) :
    store.select { table := pivot.table, conditions := [(.and, c)] } =
      (store.rows pivot.table).filter fun row => keep (row.value pivot.ownerKey) := by
  rw [store.select_unjoined ⟨rfl, rfl, rfl, rfl, rfl⟩ rfl rfl]
  apply List.filter_congr
  intro row hrow
  rw [← keyed.carried row hrow, ← asks]
  rfl

/-- A pivot row as a link: none without the key of the owner or the related key. -/
theorem linkOf?_eq (pivot : Pivot) (row : Row) : Relation.linkOf? pivot row =
    (row.value pivot.ownerKey).keyText?.bind fun text =>
      if (row.value pivot.relatedKey).isNull then none
      else some (text, row.value pivot.relatedKey) := by
  unfold Relation.linkOf? Row.value
  cases row.get? pivot.ownerKey with
  | none => rfl
  | some owner =>
    cases labelled : owner.keyText? with
    | none => simp [labelled]
    | some text => cases row.get? pivot.relatedKey <;> simp [labelled, Value.isNull]

/-- A link leads from the text of the key of its owner. -/
theorem keyText?_of_linkOf? {row : Row} {link : String × Value}
    (made : Relation.linkOf? pivot row = some link) :
    (row.value pivot.ownerKey).keyText? = some link.1 := by
  rw [linkOf?_eq, Option.bind_eq_some_iff] at made
  obtain ⟨text, labelled, made⟩ := made
  split at made
  · cases made
  · cases made
    exact labelled

/-- Of the links that were read for all owners, those of one owner are the keys that it is linked
to. -/
theorem links_of_owner (keyed : pivot.Keyed store) {keys : List Value} {text : String}
    (isKey : key.IsKey) (mem : key ∈ keys) (labelled : key.keyText? = some text) :
    (((((store.rows pivot.table).filter fun row =>
        keys.any (row.value pivot.ownerKey).looseEq).filterMap (Relation.linkOf? pivot)).filter
          (·.1 == text)).map (·.2)) = pivot.linkKeys store key := by
  unfold linkKeys
  have ownerKeys := keyed.ownerKeys
  generalize store.rows pivot.table = rows at ownerKeys
  induction rows with
  | nil => rfl
  | cons row rest ih =>
    have ih := ih fun row hrow => ownerKeys row (List.mem_cons_of_mem _ hrow)
    have rowKey := ownerKeys row List.mem_cons_self
    have sameKey := rowKey.looseEq_iff_keyText? isKey labelled
    by_cases points : (row.value pivot.ownerKey).looseEq key = true
    · have listed : keys.any (row.value pivot.ownerKey).looseEq = true :=
        List.any_eq_true.2 ⟨key, mem, points⟩
      have link := pivot.linkOf?_eq row
      rw [sameKey.1 points, Option.bind_some] at link
      cases null : (row.value pivot.relatedKey).isNull with
      | true =>
        rw [null, if_pos rfl] at link
        simp [listed, points, link, null, ih]
      | false =>
        rw [null, if_neg Bool.false_ne_true] at link
        simp [listed, points, link, null, ih]
    · have dropped : ∀ link ∈ Relation.linkOf? pivot row, (link.1 == text) = false := by
        intro link made
        refine beq_eq_false_iff_ne.2 fun same => points (sameKey.2 ?_)
        rw [keyText?_of_linkOf? made, same]
      rw [Bool.not_eq_true] at points
      cases listed : keys.any (row.value pivot.ownerKey).looseEq with
      | false => simp [listed, points, ih]
      | true =>
        cases link : Relation.linkOf? pivot row with
        | none => simp [listed, points, link, ih]
        | some link' => simp [listed, points, link, dropped link' link, ih]

/-- The related keys that are carried and not null. -/
theorem filterMap_carried (rows : List Row) (column : String) :
    (rows.filterMap (·.get? column)).filter (fun v => !v.isNull) =
      (rows.map (·.value column)).filter fun v => !v.isNull := by
  induction rows with
  | nil => rfl
  | cons row rest ih =>
    rw [List.filterMap_cons, List.map_cons]
    unfold Row.value
    cases row.get? column with
    | none => exact ih
    | some v =>
      rw [Option.getD_some, List.filter_cons, List.filter_cons]
      exact congrArg (fun tail => if !v.isNull then v :: tail else tail) ih

section

variable {registry : Registry} {relation : Relation} {db : Database} {s : Session}
  (opened : s.engine.storeOf db.handle = .ok store) (keyed : pivot.Keyed store)

include opened keyed

theorem run_links (keys : List Value) : ∃ s', s'.engine = s.engine ∧
    Relation.links pivot keys db s = (.ok (((store.rows pivot.table).filter fun row =>
      keys.any (row.value pivot.ownerKey).looseEq).filterMap (Relation.linkOf? pivot)), s') := by
  unfold Relation.links
  cases keys with
  | nil =>
    refine ⟨s, rfl, ?_⟩
    simp only [List.isEmpty_nil, if_true, List.any_nil, List.filter_false, List.filterMap_nil]
    rfl
  | cons first rest =>
    let statement : Select :=
      { table := pivot.table, conditions := [(.and, .isIn pivot.ownerKey (first :: rest))] }
    have rows := select_eq keyed (.isIn pivot.ownerKey (first :: rest))
      (fun v => (first :: rest).any v.looseEq)
      fun scope => store.satisfies_isIn scope pivot.ownerKey (first :: rest)
    refine ⟨{ s with received := s.received ++ [.select statement] }, rfl, ?_⟩
    rw [List.isEmpty_cons, if_neg Bool.false_ne_true, Work.run_bind, Task.run_select,
      Engine.select_eq, opened, ← rows]
    rfl

variable (resolves : registry.Resolves relation target) (known : db.registry = registry)
  (targetKeyed : target.Keyed store relation.foreignKey) (hpivot : relation.pivot = some pivot)

include resolves known targetKeyed hpivot

/-- Following leads to the rows of all linked keys, in the order of their table. -/
theorem linked_answered {i : Instance} (present : i.attributes.value relation.localKey ≠ .null) :
    (i.linked relation db s).1 = .ok (.many (target.answered store relation.foreignKey [] fun v =>
      (pivot.linkKeys store (i.attributes.value relation.localKey)).any v.looseEq)) := by
  have key := (i.ownerKey_cases relation).resolve_left fun none => present none.2
  have rows := select_eq keyed (.compare pivot.ownerKey .eq (i.attributes.value relation.localKey))
    (·.looseEq (i.attributes.value relation.localKey)) fun scope => by
      rw [Store.satisfies, Operator.holds_eq]
  have linked : _ = pivot.linkKeys store (i.attributes.value relation.localKey) :=
    filterMap_carried _ _
  unfold Instance.linked
  simp only [Work.run_bind, Work.run_ofExcept, Relation.requirePivot, hpivot, key, Task.run_select,
    Engine.select_eq, opened, Except.map, rows, linked]
  exact Relation.fetched_unordered resolves known (by exact opened) targetKeyed _ Related.many

/-- Every owner gets the first row of each of its links. -/
theorem loadLinked_answered {owners : List Instance}
    (keys : ∀ i ∈ owners, (i.attributes.value relation.localKey).IsKey)
    (present : ∀ i ∈ owners, i.attributes.value relation.localKey ≠ .null) :
    (relation.loadLinked owners db s).1 = .ok (owners.map fun i => relation.attachMany
      ((pivot.linkKeys store (i.attributes.value relation.localKey)).filterMap fun v =>
        (target.answered store relation.foreignKey [] (·.looseEq v)).head?) i) := by
  obtain ⟨s', same, ranLinks⟩ := run_links opened keyed
    (Relation.distinctKeys owners relation.localKey)
  have handed (i : Instance) (hi : i ∈ owners) (text : String)
      (labelled : (i.attributes.value relation.localKey).keyText? = some text) :=
    links_of_owner keyed (keys i hi) (Relation.mem_distinctKeys keys hi (present i hi)) labelled
  generalize List.filterMap _ _ = links at ranLinks handed
  have fetched := Relation.fetched_unordered resolves known (same ▸ opened) targetKeyed
    (links.map (·.2)) fun rows => owners.map fun owner =>
      relation.attachMany (relation.linkedRows links rows owner) owner
  rw [List.isEmpty_map] at fetched
  unfold Relation.loadLinked
  rw [Work.run_bind, Work.run_ofExcept, Relation.requirePivot, hpivot]
  dsimp only
  rw [Work.run_bind, ranLinks]
  refine Eq.trans fetched (congrArg Except.ok ?_)
  apply List.map_congr_left
  intro i hi
  unfold Relation.linkedRows
  obtain ⟨text, labelled⟩ := Value.exists_keyText? (present i hi)
  rw [Instance.keyText?_eq, labelled]
  dsimp only
  rw [← handed i hi text labelled, List.filterMap_map]
  congr 1
  apply List.filterMap_congr
  intro link hlink
  have mem : link.2 ∈ pivot.linkKeys store (i.attributes.value relation.localKey) := by
    rw [← handed i hi text labelled]
    exact List.mem_map_of_mem hlink
  obtain ⟨isKey, some⟩ := isKey_of_mem_linkKeys keyed mem
  obtain ⟨label, labelledLink⟩ := Value.exists_keyText? some
  have listed : link.2 ∈ links.map (·.2) := List.mem_map_of_mem (List.mem_filter.1 hlink).1
  rw [labelledLink, Option.bind_some, Function.comp,
    Model.rowsOfKey_listed targetKeyed (Select.rankedBy_nil _) isKey listed labelledLink]

end

end Pivot

namespace Intermediate

/-- Every row of the entity between carries what queries read as the key of the owner, and its
primary key is an integer. -/
structure Keyed (step : Intermediate) (store : Store) (steps : Model) : Prop where
  owners : steps.Keyed store step.ownerKey
  isKey : ∀ row ∈ store.rows steps.table, (row.value step.primaryKey).IsKey
  present : ∀ row ∈ store.rows steps.table, row.value step.primaryKey ≠ .null

/-- The rows behind the first row between are in the order of their keys. -/
def InOrder (step : Intermediate) (store : Store) (steps target : Model) (column : String)
    (key : Value) : Prop :=
  ∀ middle, step.first? store steps key = some middle →
    ((target.inSight store).filter fun row =>
      (row.value column).looseEq (middle.value step.primaryKey)).Pairwise fun a b =>
        target.keyPlace a ≤ target.keyPlace b

variable {step : Intermediate} {store : Store} {steps target : Model} {key : Value}

/-- The first row between, as an instance. -/
theorem first?_answered (keyed : step.Keyed store steps) (key : Value) :
    (steps.answered store step.ownerKey steps.keyOrder (·.looseEq key)).head? =
      (step.first? store steps key).map (.ofRow steps) := by
  rw [← Model.select_whereEq keyed.owners, List.head?_map]
  rfl

theorem mem_rows_of_first? {middle : Row} (first : step.first? store steps key = some middle) :
    middle ∈ store.rows steps.table :=
  ((store.mem_select_unjoined ⟨rfl, rfl, rfl, rfl, rfl⟩ rfl).1 (List.mem_of_head? first)).1

/-- Collects one more row between, unless one of its owner was collected before. -/
def addStep (step : Intermediate) (done : List (String × Value)) (row : Instance) :
    List (String × Value) :=
  match row.keyText? step.ownerKey, row.get? step.primaryKey with
  | some owner, some key =>
    if done.any (·.1 == owner) || key.isNull then done else done ++ [(owner, key)]
  | _, _ => done

theorem firstSteps_eq (step : Intermediate) (rows : List Instance) :
    Relation.firstSteps step rows = rows.foldl step.addStep [] := rfl

theorem lookup_addStep {row : Instance} (present : row.attributes.value step.primaryKey ≠ .null)
    (done : List (String × Value)) (text : String) :
    (step.addStep done row).lookup text = (done.lookup text).or
      (if row.keyText? step.ownerKey = some text then some (row.attributes.value step.primaryKey)
        else none) := by
  unfold addStep
  unfold Row.value at present ⊢
  unfold Instance.get?
  cases carried : row.attributes.get? step.primaryKey with
  | none =>
    rw [carried] at present
    exact absurd rfl present
  | some key =>
    rw [carried, Option.getD_some] at present
    have isNull : key.isNull = false := by
      cases key with
      | null => exact absurd rfl present
      | _ => rfl
    cases row.keyText? step.ownerKey with
    | none => simp
    | some owner =>
      have known : done.any (·.1 == owner) = (done.lookup owner).isSome := by
        rw [Bool.eq_iff_iff, List.any_eq_true, List.lookup_isSome_iff]
        exact exists_congr fun p => and_congr_right fun _ => by
          rw [beq_iff_eq, beq_iff_eq, eq_comm]
      simp only [known, isNull, Bool.or_false, Option.some.injEq, Option.getD_some]
      cases before : done.lookup owner with
      | none =>
        rw [Option.isSome_none, if_neg Bool.false_ne_true, List.lookup_append, List.lookup_cons]
        by_cases same : owner = text
        · rw [same, if_pos rfl, beq_self_eq_true]
        · rw [if_neg same, beq_eq_false_iff_ne.2 (Ne.symm same)]
          rfl
      | some key' =>
        rw [Option.isSome_some, if_pos rfl]
        by_cases same : owner = text
        · rw [← same, before]
          rfl
        · rw [if_neg same, Option.or_none]

/-- The first step of the text of a key is the first row of that text. -/
theorem lookup_firstSteps {rows : List Instance}
    (present : ∀ row ∈ rows, row.attributes.value step.primaryKey ≠ .null) (text : String) :
    (Relation.firstSteps step rows).lookup text =
      ((Relation.rowsOfKey rows step.ownerKey text).head?).map
        (·.attributes.value step.primaryKey) := by
  rw [firstSteps_eq]
  suffices general : ∀ done : List (String × Value), (rows.foldl step.addStep done).lookup text =
      (done.lookup text).or (((Relation.rowsOfKey rows step.ownerKey text).head?).map
        (·.attributes.value step.primaryKey)) from general []
  induction rows with
  | nil => exact fun done => (Option.or_none).symm
  | cons row rest ih =>
    intro done
    rw [List.foldl_cons, ih fun row hrow => present row (List.mem_cons_of_mem _ hrow),
      lookup_addStep (present row List.mem_cons_self), Option.or_assoc]
    congr 1
    unfold Relation.rowsOfKey
    rw [List.filter_cons]
    split
    · next labelled => rw [if_pos (decide_eq_true labelled)]; rfl
    · next other => rw [if_neg (by simpa using other)]; rfl

section

variable {registry : Registry} {relation : Relation} {db : Database} {s : Session}
  (opened : s.engine.storeOf db.handle = .ok store) (keyed : step.Keyed store steps)
  (known : db.registry = registry) (between : registry.get step.entity = .ok steps)

include opened keyed known between

/-- The first step of each of the keys that are asked for. -/
theorem run_steps (keys : List Value) : ∃ s' found, s'.engine = s.engine ∧
    Relation.steps step keys db s = (.ok found, s') ∧
    ∀ key ∈ keys, key.IsKey → ∀ text, key.keyText? = some text →
      found.lookup text = (step.first? store steps key).map (·.value step.primaryKey) := by
  let rows := steps.answered store step.ownerKey steps.keyOrder fun v => keys.any v.looseEq
  have present : ∀ row ∈ rows, row.attributes.value step.primaryKey ≠ .null := by
    intro row hrow
    obtain ⟨middle, hmiddle, rfl⟩ := List.mem_map.1 hrow
    exact keyed.present middle (Store.mem_rows_of_sorted hmiddle)
  have looked : ∀ key ∈ keys, key.IsKey → ∀ text, key.keyText? = some text →
      (Relation.firstSteps step rows).lookup text =
        (step.first? store steps key).map (·.value step.primaryKey) := by
    intro key mem isKey text labelled
    rw [lookup_firstSteps present, Model.rowsOfKey_listed keyed.owners keyed.owners.ranked isKey mem
      labelled, first?_answered keyed, Option.map_map]
    rfl
  unfold Relation.steps
  cases keys with
  | nil => exact ⟨s, [], rfl, rfl, fun _ h => nomatch h⟩
  | cons first rest =>
    obtain ⟨s', same, ran⟩ := Model.run_fetch_isIn keyed.owners opened steps.keyOrder
      (rfl : (steps.query.filter (.isIn _ (first :: rest))).orderedBy
        steps.query.qualifiedKey .asc = _)
    refine ⟨s', Relation.firstSteps step rows, same, ?_, looked⟩
    simp only [List.isEmpty_cons, Bool.false_eq_true, if_false, Work.run_bind, Work.run_database,
      Work.run_ofExcept, known, between, ran]
    rfl

variable {target : Model} (resolves : registry.Resolves relation target)
  (targetKeyed : target.Keyed store relation.foreignKey) (hstep : relation.through = some step)
  (many : relation.cardinality = .many)

include resolves targetKeyed hstep many

/-- Where following succeeds there is a first row between, and it leads to the rows behind that row
in the order of their table. -/
theorem through_answered {i : Instance} {found : Related Instance}
    (succeeds : (i.through relation db s).1 = .ok found) :
    ∃ middle, step.first? store steps (i.attributes.value relation.localKey) = some middle ∧
      found = .many (target.answered store relation.foreignKey []
        (·.looseEq (middle.value step.primaryKey))) := by
  unfold Instance.through at succeeds
  simp only [Work.run_bind, Work.run_ofExcept, Relation.requireThrough, hstep, Work.run_database,
    known, between] at succeeds
  rcases i.ownerKey_cases relation with ⟨none, -⟩ | key
  · rw [none] at succeeds
    cases succeeds
  · obtain ⟨s', same, ran⟩ := Model.run_fetchFirst_whereEq keyed.owners opened steps.keyOrder
      (rfl : (steps.query.whereEq _ (i.attributes.value relation.localKey)).orderedBy
        steps.query.qualifiedKey .asc = _)
    rw [first?_answered keyed] at ran
    simp only [key, ran] at succeeds
    cases first : step.first? store steps (i.attributes.value relation.localKey) with
    | none =>
      rw [first] at succeeds
      cases succeeds
    | some middle =>
      obtain ⟨s'', -, ranBehind⟩ := Model.run_fetch_whereEq targetKeyed (same ▸ opened) []
        (rfl : target.query.whereEq _ (middle.value step.primaryKey) = _)
      have behind : ((Instance.ofRow steps middle).get? step.primaryKey).getD .null =
          middle.value step.primaryKey := rfl
      refine ⟨middle, rfl, ?_⟩
      rw [first] at succeeds
      simp only [Option.map_some, many, Work.run_bind, Instance.run_targetQuery resolves known, behind,
        ranBehind] at succeeds
      exact (Except.ok.inj succeeds).symm

/-- An owner with a first row between gets the rows behind it, in the order of their keys. -/
theorem loadThrough_answered {owners : List Instance}
    (keys : ∀ i ∈ owners, (i.attributes.value relation.localKey).IsKey) :
    ∃ load, (relation.loadThrough owners db s).1 = .ok (owners.map load) ∧
      ∀ i ∈ owners, ∀ middle,
        step.first? store steps (i.attributes.value relation.localKey) = some middle →
        load i = relation.attachMany (target.answered store relation.foreignKey target.keyOrder
          (·.looseEq (middle.value step.primaryKey))) i := by
  obtain ⟨s', found, same, ranSteps, looked⟩ := run_steps opened keyed known between
    (Relation.distinctKeys owners relation.localKey)
  obtain ⟨s'', -, ranRows⟩ := Relation.run_fetchOrdered resolves known (same ▸ opened) targetKeyed
    (found.map (·.2))
  let rows := target.answered store relation.foreignKey target.keyOrder fun v =>
    (found.map (·.2)).any v.looseEq
  refine ⟨fun i => relation.attachMany (relation.rowsBehind found rows i) i, ?_, ?_⟩
  · unfold Relation.loadThrough
    simp only [Work.run_bind, Work.run_ofExcept, Relation.requireThrough, hstep, ranSteps, ranRows,
      many]
    rfl
  · intro i hi middle first
    have present : i.attributes.value relation.localKey ≠ .null := by
      intro null
      have none := first?_answered keyed (i.attributes.value relation.localKey)
      rw [first, null] at none
      simp only [Value.looseEq_null, Model.answered_none, List.head?_nil, Option.map_some] at none
      cases none
    have hmiddle := mem_rows_of_first? first
    obtain ⟨text, labelled⟩ := Value.exists_keyText? present
    obtain ⟨label, labelledStep⟩ := Value.exists_keyText? (keyed.present middle hmiddle)
    have stepKey := looked _ (Relation.mem_distinctKeys keys hi present) (keys i hi) text labelled
    rw [first, Option.map_some] at stepKey
    have listed : middle.value step.primaryKey ∈ found.map (·.2) := by
      obtain ⟨before, after, split, -⟩ := List.lookup_eq_some_iff.1 stepKey
      rw [split]
      simp
    dsimp only
    congr 1
    unfold Relation.rowsBehind
    rw [Instance.keyText?_eq, labelled, Option.bind_some, stepKey, Option.bind_some, labelledStep]
    exact Model.rowsOfKey_listed targetKeyed targetKeyed.ranked (keyed.isKey middle hmiddle) listed
      labelledStep

end

end Intermediate

namespace Instance

theorem lookup_putEntry_self {α : Type} (name : String) (a : α) (entries : List (String × α)) :
    (Reader.putEntry name a entries).lookup name = some a := by
  induction entries with
  | nil => simp [Reader.putEntry]
  | cons entry rest ih =>
    obtain ⟨k, b⟩ := entry
    by_cases same : k = name
    · subst same
      simp [Reader.putEntry]
    · have other : (name == k) = false := beq_eq_false_iff_ne.2 (Ne.symm same)
      rw [Reader.putEntry, if_neg same, List.lookup_cons, other]
      exact ih

theorem present_of_ownerKey {i : Instance} {relation : Relation} {key : Value}
    (owned : i.ownerKey relation = .ok key) : i.attributes.value relation.localKey ≠ .null := by
  unfold ownerKey get? at owned
  unfold Row.value
  intro null
  cases carried : i.attributes.get? relation.localKey with
  | none =>
    rw [carried] at owned
    cases owned
  | some value =>
    rw [carried, Option.getD_some] at null
    rw [carried, null] at owned
    cases owned

/-- Two lists that are attached under one name are the same if the instances are. -/
theorem attachMany_inj (i : Instance) (relation : Relation) (rows rows' : List Instance) :
    relation.attachMany rows i = relation.attachMany rows' i ↔ rows = rows' := by
  constructor
  · intro same
    have loaded := congrArg (·.relation? relation.name) same
    unfold Relation.attachMany relation? setRelation at loaded
    simp only [lookup_putEntry_self, Option.some.injEq, Related.many.injEq] at loaded
    exact loaded
  · intro same
    rw [same]

end Instance

namespace Relation

/-- The rows of the target and of the table between carry the keys that queries read. -/
structure KeyedBetween (r : Relation) (registry : Registry) (store : Store) (target : Model) :
    Prop where
  target : target.Keyed store r.foreignKey
  pivot : ∀ pivot, r.pivot = some pivot → pivot.Keyed store
  steps : ∀ step steps, r.through = some step → registry.get step.entity = .ok steps →
    step.Keyed store steps

/-- From the key of an owner, loading and following the relation list rows in one order: the links
of a pivot table lead through the target table in its order and to each row once, and the rows
behind the first row of an entity between are in the order of their keys. -/
structure KeepsOrder (r : Relation) (registry : Registry) (store : Store) (target : Model)
    (key : Value) : Prop where
  linked : r.mechanism = .belongsToMany → ∀ pivot, r.pivot = some pivot →
    pivot.InOrder store target r.foreignKey key
  through : r.mechanism = .through → ∀ step steps, r.through = some step →
    registry.get step.entity = .ok steps → step.InOrder store steps target r.foreignKey key

variable {registry : Registry} {relation : Relation} {store : Store} {target : Model}
  {db : Database} {s : Session} {name : String} {owners : List Instance}

/-- Following can only lead to something from an instance that has its key. -/
theorem present_of_linked {i : Instance} {found : Related Instance}
    (succeeds : (i.linked relation db s).1 = .ok found) :
    i.attributes.value relation.localKey ≠ .null := by
  unfold Instance.linked at succeeds
  cases pivot : relation.requirePivot with
  | error e =>
    simp only [Work.run_bind, Work.run_ofExcept, pivot] at succeeds
    cases succeeds
  | ok pivot' =>
    cases owned : i.ownerKey relation with
    | error e =>
      simp only [Work.run_bind, Work.run_ofExcept, pivot, owned] at succeeds
      cases succeeds
    | ok key => exact Instance.present_of_ownerKey owned

section Order

variable {key : Value}

/-- For a relation of many to many the order is that of the links. -/
theorem keepsOrder_iff_pivot (isLinked : relation.mechanism = .belongsToMany) {pivot : Pivot}
    (hpivot : relation.pivot = some pivot) :
    relation.KeepsOrder registry store target key ↔
      pivot.InOrder store target relation.foreignKey key := by
  constructor
  · intro kept
    exact kept.linked isLinked pivot hpivot
  · intro order
    refine ⟨fun _ other hother => ?_, fun isThrough => ?_⟩
    · cases hpivot.symm.trans hother
      exact order
    · rw [isLinked] at isThrough
      cases isThrough

/-- For a relation through an entity it is that of the rows behind the first row between. -/
theorem keepsOrder_iff_through (isThrough : relation.mechanism = .through) {step : Intermediate}
    {steps : Model} (hstep : relation.through = some step)
    (between : registry.get step.entity = .ok steps) :
    relation.KeepsOrder registry store target key ↔
      step.InOrder store steps target relation.foreignKey key := by
  constructor
  · intro kept
    exact kept.through isThrough step steps hstep between
  · intro order
    refine ⟨fun isLinked => ?_, fun _ step' steps' hstep' between' => ?_⟩
    · rw [isThrough] at isLinked
      cases isLinked
    · cases hstep.symm.trans hstep'
      cases Except.ok.inj (between.symm.trans between')
      exact order

end Order

section Loading

variable (resolves : registry.Resolves relation target) (known : db.registry = registry)
  (opened : s.engine.storeOf db.handle = .ok store)
  (keyed : relation.KeyedBetween registry store target)
  (declared : ∀ i ∈ owners, i.model.relation name = .ok relation)
  (keys : ∀ i ∈ owners, (i.attributes.value relation.localKey).IsKey)
  (succeeds : ∀ i ∈ owners, ∃ found, (i.related name db s).1 = .ok found)

include resolves known opened keyed declared keys succeeds

/-- Loading a relation of many to many gives an instance what following leads to from it, exactly
where its links are in order. -/
theorem loadOnto_pivot (isLinked : relation.mechanism = .belongsToMany) {pivot : Pivot}
    (hpivot : relation.pivot = some pivot) :
    ∃ load, (relation.loadOnto owners db s).1 = .ok (owners.map load) ∧ ∀ i ∈ owners,
      (load i = i.attaching relation.name (i.related name db s).1 ↔
        pivot.InOrder store target relation.foreignKey (i.attributes.value relation.localKey)) := by
  have pivotKeyed := keyed.pivot pivot hpivot
  have followed (i : Instance) (hi : i ∈ owners) := Instance.run_related (declared i hi) db s
  unfold loadOnto
  simp only [isLinked] at followed ⊢
  have present : ∀ i ∈ owners, i.attributes.value relation.localKey ≠ .null := by
    intro i hi
    obtain ⟨found, answered⟩ := succeeds i hi
    rw [followed i hi] at answered
    exact present_of_linked answered
  refine ⟨_, Pivot.loadLinked_answered opened pivotKeyed resolves known keyed.target hpivot keys
    present, ?_⟩
  intro i hi
  rw [followed i hi, Pivot.linked_answered opened pivotKeyed resolves known keyed.target hpivot
    (present i hi)]
  exact (i.attachMany_inj relation _ _).trans (Pivot.inOrder_iff pivotKeyed keyed.target)

/-- Loading a relation through an entity to many rows does so exactly where the rows behind the first
row between are in order. -/
theorem loadOnto_through (isThrough : relation.mechanism = .through)
    (many : relation.cardinality = .many) {step : Intermediate} {steps : Model}
    (hstep : relation.through = some step) (between : registry.get step.entity = .ok steps) :
    ∃ load, (relation.loadOnto owners db s).1 = .ok (owners.map load) ∧ ∀ i ∈ owners,
      (load i = i.attaching relation.name (i.related name db s).1 ↔
        step.InOrder store steps target relation.foreignKey
          (i.attributes.value relation.localKey)) := by
  have stepsKeyed := keyed.steps step steps hstep between
  have followed (i : Instance) (hi : i ∈ owners) := Instance.run_related (declared i hi) db s
  unfold loadOnto
  simp only [isThrough] at followed ⊢
  obtain ⟨load, loaded, behind⟩ := Intermediate.loadThrough_answered opened stepsKeyed known between
    resolves keyed.target hstep many keys
  refine ⟨load, loaded, ?_⟩
  intro i hi
  obtain ⟨found, answered⟩ := succeeds i hi
  have answeredThrough := answered
  rw [followed i hi] at answeredThrough
  obtain ⟨middle, first, rfl⟩ := Intermediate.through_answered opened stepsKeyed known between
    resolves keyed.target hstep many answeredThrough
  rw [answered, behind i hi middle first]
  refine (i.attachMany_inj relation _ _).trans ((Model.answered_ordered_iff keyed.target _).trans ?_)
  constructor
  · intro ascending middle' first'
    cases first.symm.trans first'
    exact ascending
  · intro order
    exact order middle first

/-- Loading a relation with a table between gives an instance what following leads to from it, exactly
where the order is kept. -/
theorem loadOnto_linked (linked : relation.mechanism = .belongsToMany ∨
      relation.mechanism = .through ∧ relation.cardinality = .many) :
    ∃ load, (relation.loadOnto owners db s).1 = .ok (owners.map load) ∧ ∀ i ∈ owners,
      (load i = i.attaching relation.name (i.related name db s).1 ↔
        relation.KeepsOrder registry store target (i.attributes.value relation.localKey)) := by
  rcases linked with isLinked | ⟨isThrough, many⟩
  · obtain ⟨pivot, hpivot⟩ := resolves.pivot isLinked
    simp only [keepsOrder_iff_pivot isLinked hpivot]
    exact loadOnto_pivot resolves known opened keyed declared keys succeeds isLinked hpivot
  · obtain ⟨step, steps, hstep, between, -, -⟩ := resolves.through isThrough
    simp only [keepsOrder_iff_through isThrough hstep between]
    exact loadOnto_through resolves known opened keyed declared keys succeeds isThrough many hstep
      between

end Loading

end Relation

namespace Model

variable {registry : Registry} {m target : Model} {name : String} {relation : Relation}
  {store : Store} {db : Database} {s : Session} {owners : List Instance}

/-- **Loading and following, over a table between.** A relation of many to many, or one through an
entity to many rows, loaded onto instances from which following it leads somewhere, gives all of
them what following leads to, exactly where both list rows in one order. -/
theorem loadsRelated_linked_iff {c : Catalogue} (compiled : c.compile = .ok registry)
    (mem : m ∈ registry.models) (declared : m.relation name = .ok relation)
    (linked : relation.mechanism = .belongsToMany ∨
      relation.mechanism = .through ∧ relation.cardinality = .many)
    (found : registry.get relation.targetEntity = .ok target)
    (keyed : relation.KeyedBetween registry store target) (known : db.registry = registry)
    (opened : s.engine.storeOf db.handle = .ok store)
    (ofModel : ∀ i ∈ owners, i.model = m)
    (keys : ∀ i ∈ owners, (i.attributes.value relation.localKey).IsKey)
    (succeeds : ∀ i ∈ owners, ∃ found, (i.related name db s).1 = .ok found) :
    m.LoadsRelated name db s owners ↔ ∀ i ∈ owners,
      relation.KeepsOrder registry store target (i.attributes.value relation.localKey) := by
  obtain ⟨target', resolves⟩ := Catalogue.resolves compiled mem declared
  cases Except.ok.inj (resolves.found.symm.trans found)
  obtain ⟨load, loaded, agrees⟩ := Relation.loadOnto_linked resolves known opened keyed
    (fun i hi => ofModel i hi ▸ declared) keys succeeds linked
  unfold LoadsRelated
  rw [run_loadRelations declared, loaded, Except.ok.injEq, List.map_inj_left]
  refine forall_congr' fun i => forall_congr' fun hi => ?_
  rw [← agrees i hi, (relation_eq_ok declared).2]

/-- Two orders that share a tag; each is linked to its tags in the order of their table. -/
def sharedTags : Store :=
  { tables :=
      [("orders", [.ofFields [("id", .int 1)], .ofFields [("id", .int 2)]]),
       ("order_tags",
        [.ofFields [("order_id", .int 2), ("tag_id", .int 9)],
         .ofFields [("order_id", .int 1), ("tag_id", .int 5)],
         .ofFields [("order_id", .int 2), ("tag_id", .int 7)],
         .ofFields [("order_id", .int 1), ("tag_id", .int 7)]]),
       ("tags", [.ofFields [("tag_id", .int 9)], .ofFields [("tag_id", .int 7)]])] }

/-- The two orders, one of them twice. -/
def orderOwners : List Instance :=
  [.ofRow shopOrder (.ofFields [("id", .int 2)]), .ofRow shopOrder (.ofFields [("id", .int 1)]),
    .ofRow shopOrder (.ofFields [("id", .int 2)])]

/-- The pivot table between the orders and their tags. -/
def shopTagLinks : Pivot :=
  ⟨"order_tags", "order_id", "tag_id"⟩

/-- The entity of the tags. -/
def shopTag : Model :=
  shopRegistry.models.tail.tail.tail.head (by decide)

theorem loadsRelated_sharedTags :
    Query.shopTags.KeyedBetween shopRegistry sharedTags shopTag ∧
    (∀ i ∈ orderOwners, ∃ found, (i.related "tags" { registry := shopRegistry }
      { engine := { shared := sharedTags }, clock := ⟨0⟩ }).1 = .ok found) ∧
    shopOrder.LoadsRelated "tags" { registry := shopRegistry }
      { engine := { shared := sharedTags }, clock := ⟨0⟩ } orderOwners := by
  have hpivot : Query.shopTags.pivot = some shopTagLinks := rfl
  have keyed : Query.shopTags.KeyedBetween shopRegistry sharedTags shopTag := by
    refine ⟨⟨by decide, by decide, by decide⟩, fun pivot other => ?_, fun _ _ none _ => nomatch none⟩
    cases hpivot.symm.trans other
    exact ⟨by decide, by decide, by decide⟩
  have mem : shopOrder ∈ shopRegistry.models := List.mem_of_mem_tail (List.head_mem _)
  have declared : shopOrder.relation "tags" = .ok Query.shopTags := rfl
  have ofOwners {P : Instance → Prop} (two : P (.ofRow shopOrder (.ofFields [("id", .int 2)])))
      (one : P (.ofRow shopOrder (.ofFields [("id", .int 1)]))) : ∀ i ∈ orderOwners, P i := by
    intro i hi
    simp only [orderOwners, List.mem_cons, List.not_mem_nil, or_false] at hi
    rcases hi with rfl | rfl | rfl
    · exact two
    · exact one
    · exact two
  have succeeds := ofOwners (P := fun i => ∃ found, (i.related "tags" { registry := shopRegistry }
    { engine := { shared := sharedTags }, clock := ⟨0⟩ }).1 = .ok found)
    (Except.exists_ok_of_toOption (by decide +kernel))
    (Except.exists_ok_of_toOption (by decide +kernel))
  refine ⟨keyed, succeeds, (loadsRelated_linked_iff shop_compiles mem declared (Or.inl rfl) rfl keyed
    rfl rfl (ofOwners rfl rfl) (by decide) succeeds).2 (ofOwners ?_ ?_)⟩
  · refine ⟨fun _ pivot other => ?_, fun isThrough => nomatch isThrough⟩
    cases hpivot.symm.trans other
    decide +kernel
  · refine ⟨fun _ pivot other => ?_, fun isThrough => nomatch isThrough⟩
    cases hpivot.symm.trans other
    decide +kernel

/-- An order that is linked to its second tag first. -/
def reversedTags : Store :=
  { tables :=
      [("orders", [.ofFields [("id", .int 1)]]),
       ("order_tags",
        [.ofFields [("order_id", .int 1), ("tag_id", .int 8)],
         .ofFields [("order_id", .int 1), ("tag_id", .int 7)]]),
       ("tags", [.ofFields [("tag_id", .int 7)], .ofFields [("tag_id", .int 8)]])] }

/-- Following lists the tags in the order of their table, loading in that of the links. -/
theorem not_loadsRelated_reversed :
    (∃ found, ((Instance.ofRow shopOrder (.ofFields [("id", .int 1)])).related "tags"
      { registry := shopRegistry } { engine := { shared := reversedTags }, clock := ⟨0⟩ }).1 =
        .ok found) ∧
    ¬ shopOrder.LoadsRelated "tags" { registry := shopRegistry }
      { engine := { shared := reversedTags }, clock := ⟨0⟩ }
      [.ofRow shopOrder (.ofFields [("id", .int 1)])] := by
  refine ⟨Except.exists_ok_of_toOption (by decide +kernel), fun loaded => ?_⟩
  unfold LoadsRelated at loaded
  have listed := congrArg (fun answer => ((answer.toOption.bind List.head?).bind
    (·.relation? "tags")).map fun tags => tags.toList.map (·.id?)) loaded
  exact absurd listed (by decide +kernel)

end Model

end EntityStore
