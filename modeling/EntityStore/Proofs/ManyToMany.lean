import EntityStore.Proofs.Compiled
import EntityStore.Proofs.DerivedNames
import EntityStore.Proofs.LooseEquality

/-!
# Many-to-many relations from both sides

Two entities that each belong to many of the other derive the same pivot table from their names, and
the same two key columns in turn (`Registry.Side`). A row leads to another one over that table when a
pivot row carries the keys of both (`Registry.Side.leadsTo_iff`), and the comparison of keys does not
care for their order, so the links seen from both sides are the same. Main result:
`Catalogue.linksAgree`.

A row is followed from by the key that it carries, and found by the key that queries read. A primary
key that is written with a dot can be two different things there: see
`Catalogue.not_linksAgree_orchard`.
-/

namespace EntityStore

namespace Pivot

/-- The same table, seen from the other side. -/
def flip (pivot : Pivot) : Pivot :=
  ⟨pivot.table, pivot.relatedKey, pivot.ownerKey⟩

/-- Some pivot row carries the keys of both. -/
def links (pivot : Pivot) (store : Store) (owner related : Value) : Bool :=
  (store.rows pivot.table).any fun middle =>
    (middle.value pivot.ownerKey).looseEq owner && related.looseEq (middle.value pivot.relatedKey)

theorem links_flip (pivot : Pivot) (store : Store) (owner related : Value) :
    pivot.flip.links store related owner = pivot.links store owner related := by
  unfold links flip
  apply any_congr_of_mem
  intro middle _
  rw [Bool.and_comm, related.looseEq_comm, owner.looseEq_comm]

/-- The keys that the pivot rows of an owner carry; a row without one links to nothing. -/
def relatedKeys (pivot : Pivot) (store : Store) (owner : Value) : List Value :=
  (((store.rows pivot.table).filter fun middle => (middle.value pivot.ownerKey).looseEq owner).filterMap
    fun middle => middle.get? pivot.relatedKey).filter fun key => !key.isNull

theorem any_relatedKeys (pivot : Pivot) (store : Store) (owner related : Value) :
    (pivot.relatedKeys store owner).any related.looseEq = pivot.links store owner related := by
  have carried (key : Value) : (!key.isNull && related.looseEq key) = related.looseEq key := by
    cases key with
    | null => exact (Value.looseEq_null related).symm
    | bool _ | number _ | text _ | list _ | object _ => rfl
  unfold relatedKeys links
  rw [List.any_filter, List.any_filterMap, List.any_filter]
  apply any_congr_of_mem
  intro middle _
  congr 1
  unfold Row.value
  cases middle.get? pivot.relatedKey with
  | none => exact (Value.looseEq_null related).symm
  | some key => exact carried key

/-- No row is linked to an owner without a key. -/
theorem links_null (pivot : Pivot) (store : Store) (related : Value) :
    pivot.links store .null related = false := by
  unfold links
  rw [List.any_eq_false]
  intro middle _
  rw [Value.looseEq_null]
  exact Bool.false_ne_true

end Pivot

namespace Relation

/-- The pivot table of two entities, with the column for the key of the first and the column for the
key of the second. -/
def between (owner related : Schema) : Pivot :=
  ⟨Naming.pivotTable owner.name related.name, Naming.foreignKey owner.name,
    Naming.foreignKey related.name⟩

/-- The many-to-many relation of two entities in which no name is declared. -/
def linking (owner related : Schema) : Relation :=
  { name := Naming.tableName related.name
    targetEntity := related.name
    targetTable := related.tableName
    cardinality := .many
    mechanism := .belongsToMany
    localKey := owner.primaryKeyName
    foreignKey := related.primaryKeyName
    pivot := some (between owner related) }

theorem name_linking (owner related : Schema) :
    (linking owner related).name = Naming.tableName related.name := rfl

theorem pivot_linking (owner related : Schema) :
    (linking owner related).pivot = some (between owner related) := rfl

theorem between_flip (owner related : Schema) :
    (between owner related).flip = between related owner := by
  unfold between Pivot.flip
  rw [Naming.pivotTable_comm]

end Relation

/-- The model of the owner, with its relation to the entity of `related`. -/
structure Registry.Side (registry : Registry) (owner related : Schema) (m : Model) : Prop where
  found : registry.get owner.name = .ok m
  key : m.primaryKey = owner.primaryKeyName
  declared : m.relation (Naming.tableName related.name) = .ok (Relation.linking owner related)
  resolves : ∃ target, registry.Resolves (Relation.linking owner related) target

namespace RelationResolver

variable {resolver : RelationResolver}

theorem schemaFor_of_mem (apart : (resolver.schemas.map (·.name)).Nodup) {s : Schema}
    (mem : s ∈ resolver.schemas) (relation : String) : resolver.schemaFor relation s.name = .ok s := by
  unfold schemaFor
  rw [List.find?_of_nodup apart mem]

theorem resolveOne_linking (apart : (resolver.schemas.map (·.name)).Nodup) {related : Schema}
    (mem : related ∈ resolver.schemas) (owner : Schema) :
    resolver.resolveOne owner { entity := related.name } .belongsToMany .many =
      .ok (Relation.linking owner related) :=
  Except.bind_eq_ok.2 ⟨related, schemaFor_of_mem apart mem _, rfl⟩

end RelationResolver

namespace Catalogue

variable {schemas : List Schema} {pageSize : Option Nat} {c : Catalogue} {registry : Registry}

/-- An added schema has its model in the registry. -/
theorem exists_compiled (added : schemas.foldlM add { relationPageSize := pageSize } = .ok c)
    (compiled : c.compile = .ok registry) {s : Schema} (mem : s ∈ schemas) :
    ∃ m, s.Compiles c.compiler m ∧ registry.Sound m ∧ registry.get s.name = .ok m := by
  obtain ⟨listed, apart⟩ := add_all added List.nodup_nil
  obtain rfl : c.schemas = schemas := listed
  obtain ⟨m, there, made⟩ := Except.ok_of_mapM (compile_eq_ok compiled) mem
  have compiles := Schema.compile_eq_ok made
  have sound := sound compiled apart there
  have found := sound.registered
  rw [compiles.name] at found
  exact ⟨m, compiles, sound, found⟩

/-- A many-to-many relation in which no name is declared takes all names from the two entities. -/
theorem side_of_compiled (added : schemas.foldlM add { relationPageSize := pageSize } = .ok c)
    (compiled : c.compile = .ok registry) {owner related : Schema} (owned : owner ∈ schemas)
    (known : related ∈ schemas) (declared : { entity := related.name } ∈ owner.relations.belongsToMany) :
    ∃ m, owner.Compiles c.compiler m ∧ registry.Side owner related m := by
  obtain ⟨listed, apart⟩ := add_all added List.nodup_nil
  obtain ⟨m, compiles, sound, found⟩ := exists_compiled added compiled owned
  obtain rfl : c.schemas = schemas := listed
  have declaration : ({ entity := related.name }, Mechanism.belongsToMany, Cardinality.many) ∈
      RelationResolver.declarations owner := by
    simp only [RelationResolver.declarations, List.mem_append, List.mem_map]
    exact Or.inl (Or.inl (Or.inr ⟨_, declared, rfl⟩))
  have every := (RelationResolver.resolve_eq_ok compiles.relations).2
  obtain ⟨relation, member, resolved⟩ := List.exists_of_forall₂_right every.flip declaration
  have linking : c.compiler.resolveOne owner { entity := related.name } .belongsToMany .many =
      .ok (Relation.linking owner related) := RelationResolver.resolveOne_linking apart known owner
  obtain rfl : relation = Relation.linking owner related :=
    Except.ok.inj (resolved.symm.trans linking)
  have answers := sound.relation_eq member
  rw [Relation.name_linking] at answers
  exact ⟨m, compiles, found, compiles.primaryKey, answers, (sound.resolves _ member).2⟩

end Catalogue

namespace Query

variable {store : Store} {m : Model}

/-- A condition leaves of the rows of an entity those that satisfy it. -/
theorem mem_select_satisfying (m : Model) (c : Condition) {row : Row} :
    row ∈ store.select (m.query.filter c).statement ↔
      row ∈ store.select m.query.statement ∧ store.satisfies (.ofRow m.table row) c = true := by
  rw [store.mem_select_unjoined ⟨rfl, rfl, rfl, rfl, rfl⟩ rfl,
    store.mem_select_unjoined ⟨rfl, rfl, rfl, rfl, rfl⟩ rfl, and_assoc, ← Bool.and_eq_true]
  apply and_congr_right
  intro _
  exact Bool.eq_iff_iff.1 (selects_filter store m.query rfl c m.table row)

theorem mem_select_hard (hard : m.traits.softDeletes = false) {row : Row}
    (mem : row ∈ store.rows m.table) : row ∈ store.select m.query.statement := by
  rw [store.mem_select_unjoined ⟨rfl, rfl, rfl, rfl, rfl⟩ rfl]
  exact ⟨mem, selects_query_hard store hard row⟩

end Query

/-! ### Following a link -/

namespace Instance

/-- Following a relation of the instance leads to the other one, among others maybe. -/
def LeadsTo (i : Instance) (name : String) (db : Database) (s : Session) (other : Instance) : Prop :=
  ∃ found, (i.related name db s).1 = .ok found ∧ other ∈ found.toList

end Instance

namespace Registry.Side

variable {registry : Registry} {owner related : Schema} {m target : Model} {db : Database}
  {s : Session} {store : Store}

/-- Of the rows in sight those are fetched whose key is among the keys; without keys there are none. -/
theorem mem_fetched {relation : Relation} (resolves : registry.Resolves relation target)
    (known : db.registry = registry) (opened : s.engine.storeOf db.handle = .ok store)
    (keys : List Value) (other : Row) :
    (∃ found, ((if keys.isEmpty then return .many []
      else do
        let query ← relation.targetQuery
        return .many (← (query.filter (.isIn relation.foreignKey keys)).fetch) :
          Task (Related Instance)) db s).1 = .ok found ∧ .ofRow target other ∈ found.toList) ↔
      other ∈ store.select target.query.statement ∧
        keys.any ((Scope.ofRow target.table other).lookup relation.foreignKey).looseEq = true := by
  cases empty : keys.isEmpty with
  | true =>
    rw [List.isEmpty_iff.1 empty]
    constructor
    · rintro ⟨found, answer, mem⟩
      cases answer
      cases mem
    · rintro ⟨-, none⟩
      cases none
  | false =>
    obtain ⟨s', -, ran⟩ :=
      Query.run_fetch (target.query.filter (.isIn relation.foreignKey keys)) opened
    rw [if_neg (by decide), Work.run_bind, Instance.run_targetQuery resolves known]
    dsimp only
    rw [Work.run_bind, ran]
    let asked := target.query.filter (.isIn relation.foreignKey keys)
    have selected : other ∈ store.select asked.statement ↔ _ :=
      Query.mem_select_satisfying target (.isIn relation.foreignKey keys)
    rw [Store.satisfies_isIn] at selected
    rw [← selected]
    constructor
    · rintro ⟨found, answer, mem⟩
      cases answer
      obtain ⟨row, there, same⟩ := List.mem_map.1 mem
      rwa [← target.ofRow_injective same]
    · intro there
      exact ⟨_, rfl, List.mem_map_of_mem there⟩

/-- The declared relation is followed over its pivot table. -/
theorem related_eq (side : registry.Side owner related m) (row : Row) :
    (Instance.ofRow m row).related (Naming.tableName related.name) =
      (Instance.ofRow m row).linked (Relation.linking owner related) := by
  funext db s
  have declared : (Instance.ofRow m row).model.relation (Naming.tableName related.name) =
      .ok (Relation.linking owner related) := side.declared
  unfold Instance.related
  rw [Work.run_bind, Work.run_ofExcept, declared]
  rfl

/-- A row leads to those rows of the other entity in sight whose key the pivot table links to the one
that it carries. -/
theorem leadsTo_iff (side : registry.Side owner related m)
    (found : registry.get related.name = .ok target) (known : db.registry = registry)
    (opened : s.engine.storeOf db.handle = .ok store) (row other : Row) :
    (Instance.ofRow m row).LeadsTo (Naming.tableName related.name) db s (.ofRow target other) ↔
      other ∈ store.select target.query.statement ∧
        (Relation.between owner related).links store (row.value owner.primaryKeyName)
          ((Scope.ofRow target.table other).lookup related.primaryKeyName) = true := by
  obtain ⟨target', resolves⟩ := side.resolves
  obtain rfl : target' = target := Except.ok.inj (resolves.found.symm.trans found)
  have plain : '.' ∉ (Relation.between owner related).ownerKey.toList :=
    Naming.foreignKey_undotted owner.name
  unfold Instance.LeadsTo
  rw [side.related_eq]
  unfold Instance.linked
  simp only [Work.run_bind, Work.run_ofExcept, Relation.requirePivot, Relation.pivot_linking]
  rcases (Instance.ofRow m row).ownerKey_cases (Relation.linking owner related) with
    ⟨refused, null⟩ | key
  · have null : row.value owner.primaryKeyName = .null := null
    rw [refused, null, Pivot.links_null]
    constructor
    · rintro ⟨found, answer, -⟩
      cases answer
    · rintro ⟨-, linked⟩
      cases linked
  · simp only [key, Task.run_select, Engine.select_eq, opened, Except.map,
      Query.select_keyed _ plain]
    rw [← Pivot.any_relatedKeys]
    exact mem_fetched resolves known (by exact opened) _ other

end Registry.Side

/-! ### Both sides -/

/-- The row shows in queries on the entity, which leave out the trash, and they read its primary key
as the row carries it. -/
structure Model.InSight (m : Model) (store : Store) (row : Row) : Prop where
  listed : row ∈ store.select m.query.statement
  key : (Scope.ofRow m.table row).lookup m.primaryKey = row.value m.primaryKey

/-- Where names have no dots of their own, every row is in sight that is not in the trash. -/
theorem Model.InSight.of_shows {m : Model} {store : Store} {row : Row}
    (plain : '.' ∉ m.primaryKey.toList) (undotted : row.Undotted) (mem : row ∈ store.rows m.table)
    (shows : m.shows row = true) : m.InSight store row where
  listed := by
    rw [store.mem_select_unjoined ⟨rfl, rfl, rfl, rfl, rfl⟩ rfl]
    exact ⟨mem, (Query.selects_query store m undotted).trans shows⟩
  key := Scope.lookup_ofRow m.table row plain

/-- Whichever of the two rows its relation is followed from, it leads to the other one or it does
not. -/
def Registry.LinksAgree (registry : Registry) (left right : Schema) (store : Store) (a b : Row) :
    Prop :=
  ∃ A B, registry.get left.name = .ok A ∧ registry.get right.name = .ok B ∧
    ∀ (db : Database) (s : Session), db.registry = registry →
      s.engine.storeOf db.handle = .ok store →
      ((Instance.ofRow A a).LeadsTo (Naming.tableName right.name) db s (.ofRow B b) ↔
        (Instance.ofRow B b).LeadsTo (Naming.tableName left.name) db s (.ofRow A a))

namespace Catalogue

variable {schemas : List Schema} {pageSize : Option Nat} {c : Catalogue} {registry : Registry}
  {left right : Schema}

/-- **Many-to-many is symmetric.** Two entities that each belong to many of the other, with no name
declared, have relations over one pivot table with its two keys exchanged, in whatever order they
were added; and of two rows in sight either both lead to each other or none does. -/
theorem linksAgree (added : schemas.foldlM add { relationPageSize := pageSize } = .ok c)
    (compiled : c.compile = .ok registry) (leftAdded : left ∈ schemas) (rightAdded : right ∈ schemas)
    (there : { entity := right.name } ∈ left.relations.belongsToMany)
    (back : { entity := left.name } ∈ right.relations.belongsToMany) :
    ∃ A B toRight toLeft pivot, registry.get left.name = .ok A ∧ registry.get right.name = .ok B ∧
      A.relation (Naming.tableName right.name) = .ok toRight ∧
      B.relation (Naming.tableName left.name) = .ok toLeft ∧
      toRight.pivot = some pivot ∧ toLeft.pivot = some pivot.flip ∧
      ∀ (store : Store) (a b : Row), A.InSight store a → B.InSight store b →
        registry.LinksAgree left right store a b := by
  obtain ⟨A, -, leftSide⟩ := side_of_compiled added compiled leftAdded rightAdded there
  obtain ⟨B, -, rightSide⟩ := side_of_compiled added compiled rightAdded leftAdded back
  refine ⟨A, B, _, _, Relation.between left right, leftSide.found, rightSide.found,
    leftSide.declared, rightSide.declared, rfl, ?_, ?_⟩
  · rw [Relation.between_flip]
    rfl
  · intro store a b aInSight bInSight
    refine ⟨A, B, leftSide.found, rightSide.found, ?_⟩
    intro db s known opened
    have aKey := aInSight.key
    have bKey := bInSight.key
    rw [leftSide.key] at aKey
    rw [rightSide.key] at bKey
    rw [leftSide.leadsTo_iff rightSide.found known opened,
      rightSide.leadsTo_iff leftSide.found known opened, aKey, bKey,
      ← Relation.between_flip left right, Pivot.links_flip]
    constructor
    · rintro ⟨-, linked⟩
      exact ⟨aInSight.listed, linked⟩
    · rintro ⟨-, linked⟩
      exact ⟨bInSight.listed, linked⟩

/-- Students, who attend courses. -/
def student : Schema :=
  { name := "Student", table := some "students"
    relations := { belongsToMany := [{ entity := "Course" }] }
    traits := { timestamps := false } }

/-- Courses, which have students. -/
def course : Schema :=
  { name := "Course", table := some "courses"
    relations := { belongsToMany := [{ entity := "Student" }] }
    traits := { timestamps := false } }

/-- A student and a course that she attends. -/
def attendance : Store :=
  { tables :=
      [("course_students", [.ofFields [("course_id", .int 7), ("student_id", .int 1)]]),
       ("courses", [.ofFields [("id", .int 7)]]), ("students", [.ofFields [("id", .int 1)]])] }

theorem linksAgree_attendance :
    ∃ registry A B, ({ schemas := [course, student] } : Catalogue).compile = .ok registry ∧
      registry.get student.name = .ok A ∧ registry.get course.name = .ok B ∧
      A.InSight attendance (.ofFields [("id", .int 1)]) ∧
      B.InSight attendance (.ofFields [("id", .int 7)]) ∧
      registry.LinksAgree student course attendance (.ofFields [("id", .int 1)])
        (.ofFields [("id", .int 7)]) := by
  have added : [course, student].foldlM add {} = .ok { schemas := [course, student] } := by rfl
  obtain ⟨registry, compiled⟩ : ∃ registry,
      ({ schemas := [course, student] } : Catalogue).compile = .ok registry :=
    Except.exists_ok_of_toOption (by decide +kernel)
  have studentAdded : student ∈ [course, student] := by simp
  have courseAdded : course ∈ [course, student] := by simp
  obtain ⟨A, B, -, -, -, studentFound, courseFound, -, -, -, -, agree⟩ :=
    linksAgree added compiled studentAdded courseAdded (by decide) (by decide)
  obtain ⟨A', ofStudent, -, found⟩ := exists_compiled added compiled studentAdded
  obtain rfl : A' = A := Except.ok.inj (found.symm.trans studentFound)
  obtain ⟨B', ofCourse, -, found⟩ := exists_compiled added compiled courseAdded
  obtain rfl : B' = B := Except.ok.inj (found.symm.trans courseFound)
  have studentSeen : A'.InSight attendance (.ofFields [("id", .int 1)]) := by
    apply Model.InSight.of_shows
    · rw [ofStudent.primaryKey]
      decide
    · decide
    · rw [ofStudent.table]
      decide
    · rw [Model.shows, ofStudent.traits]
      rfl
  have courseSeen : B'.InSight attendance (.ofFields [("id", .int 7)]) := by
    apply Model.InSight.of_shows
    · rw [ofCourse.primaryKey]
      decide
    · decide
    · rw [ofCourse.table]
      decide
    · rw [Model.shows, ofCourse.traits]
      rfl
  exact ⟨registry, A', B', compiled, studentFound, courseFound, studentSeen, courseSeen,
    agree attendance _ _ studentSeen courseSeen⟩

/-- Apples, with a column `id` beside a primary key that is named as if it were qualified. -/
def apple : Schema :=
  { name := "Apple", table := some "apples", primaryKey := some "apples.id"
    attributes := [("id", { type := .integer })]
    relations := { belongsToMany := [{ entity := "Pear" }] }
    traits := { timestamps := false } }

/-- Pears, that are crossed with apples. -/
def pear : Schema :=
  { name := "Pear", table := some "pears"
    relations := { belongsToMany := [{ entity := "Apple" }] }
    traits := { timestamps := false } }

/-- An apple that is crossed with a pear. -/
def orchard : Store :=
  { tables :=
      [("apple_pears", [.ofFields [("apple_id", .int 1), ("pear_id", .int 1)]]),
       ("apples", [.ofFields [("apples.id", .int 1), ("id", .int 2)]]),
       ("pears", [.ofFields [("id", .int 1)]])] }

/-- Queries read the primary key of the apple in its column `id`, so that the pear does not lead to
it, but it does to the pear. -/
theorem not_linksAgree_orchard :
    ∃ registry A B, [apple, pear].foldlM add {} = .ok { schemas := [apple, pear] } ∧
      ({ schemas := [apple, pear] } : Catalogue).compile = .ok registry ∧
      registry.get apple.name = .ok A ∧ registry.get pear.name = .ok B ∧
      .ofFields [("apples.id", .int 1), ("id", .int 2)] ∈ orchard.select A.query.statement ∧
      .ofFields [("id", .int 1)] ∈ orchard.select B.query.statement ∧
      ¬ registry.LinksAgree apple pear orchard
          (.ofFields [("apples.id", .int 1), ("id", .int 2)]) (.ofFields [("id", .int 1)]) := by
  have added : [apple, pear].foldlM add {} = .ok { schemas := [apple, pear] } := by rfl
  obtain ⟨registry, compiled⟩ : ∃ registry,
      ({ schemas := [apple, pear] } : Catalogue).compile = .ok registry :=
    Except.exists_ok_of_toOption (by decide +kernel)
  have appleAdded : apple ∈ [apple, pear] := by simp
  have pearAdded : pear ∈ [apple, pear] := by simp
  obtain ⟨A, ofApple, toPears⟩ := side_of_compiled added compiled appleAdded pearAdded (by decide)
  obtain ⟨B, ofPear, toApples⟩ := side_of_compiled added compiled pearAdded appleAdded (by decide)
  have appleListed : .ofFields [("apples.id", .int 1), ("id", .int 2)] ∈
      orchard.select A.query.statement := by
    apply Query.mem_select_hard
    · rw [ofApple.traits]
      rfl
    · rw [ofApple.table]
      decide
  have pearListed : .ofFields [("id", .int 1)] ∈ orchard.select B.query.statement := by
    apply Query.mem_select_hard
    · rw [ofPear.traits]
      rfl
    · rw [ofPear.table]
      decide
  refine ⟨registry, A, B, added, compiled, toPears.found, toApples.found, appleListed, pearListed, ?_⟩
  rintro ⟨A', B', foundA, foundB, agree⟩
  obtain rfl : A' = A := Except.ok.inj (foundA.symm.trans toPears.found)
  obtain rfl : B' = B := Except.ok.inj (foundB.symm.trans toApples.found)
  have both := agree { registry := registry } { engine := { shared := orchard }, clock := ⟨0⟩ } rfl rfl
  rw [toPears.leadsTo_iff toApples.found rfl rfl, toApples.leadsTo_iff toPears.found rfl rfl,
    ofApple.table, ofPear.table] at both
  have reached := (both.1 ⟨pearListed, by decide +kernel⟩).2
  revert reached
  decide +kernel

end Catalogue

end EntityStore
