import EntityStore.Proofs.Linked
import EntityStore.Proofs.Rules
import EntityStore.Proofs.Traversal
import EntityStore.Query.Run
import EntityStore.Relation.Traverse

/-!
# Compiled registries cannot fail later

What is declared is checked while a registry is compiled: the columns by the list of the columns, the
relations against the schemas that they name, the names of a search index against the columns. What
follows for a model of a registry stands in `Registry.Sound`. So filtering by a declared relation and
asking for it to be loaded succeed, and neither running a query nor following a relation ends in an
error of a definition (`Registry.Serves`). Main result: `Catalogue.sound_of_compiled`.
-/

namespace EntityStore

/-! ### Declared names are columns -/

namespace Schema

variable {s : Schema} {name : String}

/-- A marked attribute has a column that may be assigned. -/
theorem declared_column {flag : Attribute → Bool} (marked : name ∈ s.marked flag) :
    ∃ column ∈ s.allColumns, column.name = name ∧ column.source.isSystem = false := by
  obtain ⟨declared, mem, rfl⟩ := List.mem_map.1 marked
  have member := List.mem_map_of_mem (f := attributeColumn) (List.mem_of_mem_filter mem)
  refine ⟨attributeColumn declared, ?_, rfl, rfl⟩
  simp only [allColumns, List.cons_append, List.mem_cons, List.mem_append]
  tauto

/-- The key of an entity that this one belongs to has a column that may be assigned, declared or
not. -/
theorem key_column {o : RelationOptions} (mem : o ∈ s.relations.belongsTo) :
    ∃ column ∈ s.allColumns, column.name = o.belongsToKey ∧ column.source.isSystem = false := by
  cases declared : s.attributes.any (·.1 == o.belongsToKey) with
  | true =>
    obtain ⟨attr, member, named⟩ := List.any_eq_true.1 declared
    have member := List.mem_map_of_mem (f := attributeColumn) member
    refine ⟨attributeColumn attr, ?_, eq_of_beq named, rfl⟩
    simp only [allColumns, List.cons_append, List.mem_cons, List.mem_append]
    tauto
  | false =>
    have key : ⟨o.belongsToKey, .integer, true, .foreignKey⟩ ∈ s.foreignKeyColumns := by
      apply List.mem_map.2
      refine ⟨o.belongsToKey, List.mem_filter.2 ⟨List.mem_map_of_mem mem, ?_⟩, rfl⟩
      rw [declared]
      rfl
    refine ⟨⟨o.belongsToKey, .integer, true, .foreignKey⟩, ?_, rfl, rfl⟩
    simp only [allColumns, List.cons_append, List.mem_cons, List.mem_append]
    tauto

theorem mem_foldl_distinct {done keys : List String} :
    name ∈ keys.foldl (fun done key => if done.contains key then done else done ++ [key]) done ↔
      name ∈ done ∨ name ∈ keys := by
  induction keys generalizing done with
  | nil => simp
  | cons key rest ih =>
    rw [List.foldl_cons, ih, List.mem_cons]
    split
    · next taken =>
      have here : key ∈ done := by simpa using taken
      constructor
      · tauto
      · rintro (before | rfl | later)
        · exact Or.inl before
        · exact Or.inl here
        · exact Or.inr later
    · rw [List.mem_append, List.mem_singleton]
      tauto

/-- What may be assigned in bulk has a column that is no system column. -/
theorem fillable_column (fillable : name ∈ s.fillable) :
    ∃ column ∈ s.allColumns, column.name = name ∧ column.source.isSystem = false := by
  rcases mem_foldl_distinct.1 fillable with marked | key
  · exact declared_column marked
  · obtain ⟨o, mem, rfl⟩ := List.mem_map.1 key
    exact key_column mem

/-- What compiling makes of the names that are declared. -/
structure Lists (s : Schema) (m : Model) : Prop where
  fillable : m.fillable = s.fillable
  guarded : m.guarded = s.marked (·.guarded)
  hidden : m.hidden = s.marked (·.hidden)
  search : ∀ name ∈ m.search.columns, name ∈ m.columnNames

theorem lists_of_compile {resolver : RelationResolver} {m : Model}
    (compiled : s.compile resolver = .ok m) : s.Lists m := by
  obtain ⟨-, ⟨fillable, guarded, hidden⟩, -, search⟩ := Schema.compile_cases compiled
  exact ⟨fillable, guarded, hidden, search⟩

end Schema

/-! ### Declared relations -/

namespace Relation

/-- The relation is that of a declaration. -/
structure Realises (declaration : RelationOptions × Mechanism × Cardinality) (relation : Relation) :
    Prop where
  name : relation.name = declaration.1.relationName declaration.2.2
  entity : relation.targetEntity = declaration.1.entity
  mechanism : relation.mechanism = declaration.2.1
  cardinality : relation.cardinality = declaration.2.2

end Relation

/-- The model is that of the schema, with a relation for every declaration. -/
structure Schema.Realised (s : Schema) (m : Model) : Prop where
  name : m.name = s.name
  relations : List.Forall₂ Relation.Realises (RelationResolver.declarations s) m.relations

namespace RelationResolver

variable {resolver : RelationResolver} {owner : Schema}

theorem realises_of_resolveOne {declaration : RelationOptions × Mechanism × Cardinality}
    {relation : Relation}
    (resolved : resolver.resolveOne owner declaration.1 declaration.2.1 declaration.2.2 =
      .ok relation) : relation.Realises declaration :=
  have made := resolveOne_eq_ok resolved
  ⟨made.name, made.entity, made.mechanism, made.cardinality⟩

/-- Only what an entity is said to belong to starts from a key of its own. -/
theorem belongsTo_of_mem {options : RelationOptions} {cardinality : Cardinality}
    (declared : (options, .belongsTo, cardinality) ∈ declarations owner) :
    options ∈ owner.relations.belongsTo := by
  have listed : options ∈ owner.relations.belongsTo ∧ Cardinality.one = cardinality := by
    simpa [declarations] using declared
  exact listed.1

/-- A relation starts from a column of its owner. -/
theorem localKey_mem {declaration : RelationOptions × Mechanism × Cardinality} {relation : Relation}
    (declared : declaration ∈ declarations owner)
    (resolved : resolver.resolveOne owner declaration.1 declaration.2.1 declaration.2.2 =
      .ok relation) : relation.localKey ∈ owner.allColumns.map (·.name) := by
  obtain ⟨options, mechanism, cardinality⟩ := declaration
  rw [(resolveOne_eq_ok resolved).localKey]
  split
  · next belongs =>
    dsimp only at belongs
    subst belongs
    obtain ⟨column, mem, named, -⟩ := Schema.key_column (belongsTo_of_mem declared)
    exact List.mem_map.2 ⟨column, mem, named⟩
  · exact List.mem_map.2 ⟨_, List.mem_cons_self, rfl⟩

end RelationResolver

/-! ### What compiling makes sure of -/

/-- What holds of every model of a compiled registry. -/
structure Registry.Sound (registry : Registry) (m : Model) : Prop where
  registered : registry.get m.name = .ok m
  key : m.columnNames.head? = some m.primaryKey
  columns : m.columnNames.Nodup
  fillable : ∀ name ∈ m.fillable, name ∈ m.columnNames
  guarded : ∀ name ∈ m.guarded, name ∈ m.columnNames
  hidden : ∀ name ∈ m.hidden, name ∈ m.columnNames
  search : ∀ name ∈ m.search.columns, name ∈ m.columnNames
  relations : (m.relations.map (·.name)).Nodup
  resolves : ∀ relation ∈ m.relations, relation.localKey ∈ m.columnNames ∧
    ∃ target, registry.Resolves relation target

namespace Catalogue

/-- Schemas that are added stand behind those before, and no two have one name. -/
theorem add_all {schemas : List Schema} {c c' : Catalogue} (added : schemas.foldlM add c = .ok c')
    (apart : (c.schemas.map (·.name)).Nodup) :
    c'.schemas = c.schemas ++ schemas ∧ (c'.schemas.map (·.name)).Nodup := by
  induction schemas generalizing c with
  | nil =>
    cases added
    exact ⟨(List.append_nil _).symm, apart⟩
  | cons s rest ih =>
    rw [List.foldlM_cons] at added
    obtain ⟨next, one, added⟩ := Except.bind_eq_ok.1 added
    unfold add at one
    split at one
    · cases one
    · next fresh =>
      cases one
      obtain ⟨all, names⟩ := ih added (List.nodup_map_append apart fresh)
      refine ⟨?_, names⟩
      rw [all, List.append_assoc, List.singleton_append]

theorem realised_of_compile {resolver : RelationResolver} {s : Schema} {m : Model}
    (compiled : s.compile resolver = .ok m) : s.Realised m := by
  have compiles := Schema.compile_eq_ok compiled
  have resolved := (RelationResolver.resolve_eq_ok compiles.relations).2
  exact ⟨compiles.name, resolved.imp fun _ _ one => RelationResolver.realises_of_resolveOne one⟩

variable {c : Catalogue} {registry : Registry}

theorem names_of_compiled (compiled : c.compile = .ok registry) :
    registry.models.map (·.name) = c.schemas.map (·.name) := by
  have all := Except.forall₂_of_mapM (compile_eq_ok compiled)
  have named : List.Forall₂ (fun (s : Schema) (m : Model) => s.name = m.name) c.schemas
      registry.models := all.imp fun _ _ one => (Schema.compile_eq_ok one).name.symm
  rw [← List.forall₂_eq_eq_eq, List.forall₂_map_left_iff, List.forall₂_map_right_iff]
  exact (named.imp fun _ _ => Eq.symm).flip

theorem sound (compiled : c.compile = .ok registry) (apart : (c.schemas.map (·.name)).Nodup)
    {m : Model} (mem : m ∈ registry.models) : registry.Sound m := by
  obtain ⟨s, -, made⟩ := mem_of_compiled (compile_eq_ok compiled) mem
  have compiles := Schema.compile_eq_ok made
  have lists := Schema.lists_of_compile made
  obtain ⟨all, names⟩ := Schema.columns_eq_ok compiles.columns
  obtain ⟨relationNames, resolved⟩ := RelationResolver.resolve_eq_ok compiles.relations
  have listed : ∀ {name}, (∃ column ∈ s.allColumns, column.name = name ∧
      column.source.isSystem = false) → name ∈ m.columnNames := by
    rintro name ⟨column, there, named, -⟩
    unfold Model.columnNames
    rw [all]
    exact List.mem_map.2 ⟨column, there, named⟩
  constructor
  · have registered := List.find?_of_nodup (names_of_compiled compiled ▸ apart) mem
    unfold Registry.get
    rw [registered]
  · unfold Model.columnNames
    rw [all, compiles.primaryKey]
    rfl
  · exact names
  · rw [lists.fillable]
    exact fun name fillable => listed (Schema.fillable_column fillable)
  · rw [lists.guarded]
    exact fun name guarded => listed (Schema.declared_column guarded)
  · rw [lists.hidden]
    exact fun name hidden => listed (Schema.declared_column hidden)
  · exact lists.search
  · exact relationNames
  · intro relation member
    obtain ⟨declaration, declared, one⟩ := List.exists_of_forall₂_right resolved member
    have found := Model.relation_of_mem relationNames member
    refine ⟨?_, Catalogue.resolves compiled mem found⟩
    unfold Model.columnNames
    rw [all]
    exact RelationResolver.localKey_mem declared one

end Catalogue

/-! ### What can go wrong later -/

/-- Whatever the session, the work does not end in an error of a kind. -/
def Task.Avoids {α : Type} (work : Task α) (db : Database) (kind : ErrorKind) : Prop :=
  ∀ s e, (work db s).1 = .error e → e.kind ≠ kind

namespace Task.Avoids

variable {α β : Type} {db : Database} {kind : ErrorKind}

theorem pure (a : α) : Avoids (Pure.pure a : Task α) db kind :=
  fun _ _ failed => nomatch failed

theorem throw {e : Error} (h : e.kind ≠ kind) : Avoids (MonadExcept.throw e : Task α) db kind := by
  intro s e' failed
  cases failed
  exact h

theorem ofExcept {answer : Except Error α} (h : ∀ e, answer = .error e → e.kind ≠ kind) :
    Avoids (Work.ofExcept answer : Task α) db kind :=
  fun _ e failed => h e failed

theorem bind {work : Task α} {next : α → Task β} (first : work.Avoids db kind)
    (rest : ∀ a, (next a).Avoids db kind) : (work >>= next).Avoids db kind := by
  intro s e failed
  rw [Work.run_bind] at failed
  cases ran : work db s with
  | mk answer s' =>
    rw [ran] at failed
    cases answer with
    | error cause =>
      cases failed
      exact first s e (by rw [ran])
    | ok a => exact rest a s' e failed

/-- What is known to succeed is no occasion for an error. -/
theorem known {answer : Except Error α} {a : α} {next : α → Task β} (h : answer = .ok a)
    (rest : (next a).Avoids db kind) :
    (Work.ofExcept answer >>= next : Task β).Avoids db kind := by
  subst h
  exact rest

theorem database {next : Database → Task β} (rest : (next db).Avoids db kind) :
    (Work.database >>= next : Task β).Avoids db kind :=
  rest

/-- A selection fails only where the transaction is over. -/
theorem select (statement : Select) : (Task.select statement).Avoids db .definition := by
  intro s e failed
  rw [Task.run_select] at failed
  have refused : ∀ index cause, s.engine.active index = .error cause → cause.kind ≠ .definition := by
    intro index cause refused
    unfold Engine.active at refused
    split at refused
    · split at refused
      · cases refused
        decide
      · cases refused
    · cases refused
      decide
  cases handle : db.handle with
  | shared =>
    rw [handle] at failed
    cases failed
  | transaction index =>
    simp only [handle, Engine.select] at failed
    cases opened : s.engine.active index with
    | ok t =>
      rw [opened] at failed
      cases failed
    | error cause =>
      rw [opened] at failed
      cases failed
      exact refused index _ opened

/-- Selections avoid errors of a definition, and so does what is put together from them. -/
theorem selection : Task.SelectionProperty (· = db) (·.Avoids db .definition) where
  pure := .pure
  select := .select
  bind := .bind
  database rest := rest db rfl

theorem admits {e : Error} (h : e.kind ≠ kind) : Task.Admits (·.Avoids db kind) e :=
  fun _ => .throw h

end Task.Avoids

namespace Registry.Resolves

variable {registry : Registry} {relation : Relation} {target : Model}

theorem requirePivot (resolves : registry.Resolves relation target)
    (linked : relation.mechanism = .belongsToMany) : ∃ pivot, relation.requirePivot = .ok pivot := by
  obtain ⟨pivot, carried⟩ := resolves.pivot linked
  refine ⟨pivot, ?_⟩
  unfold Relation.requirePivot
  rw [carried]

theorem requireThrough (resolves : registry.Resolves relation target)
    (behind : relation.mechanism = .through) : ∃ step steps,
      relation.requireThrough = .ok step ∧ registry.get step.entity = .ok steps := by
  obtain ⟨step, steps, carried, found, -⟩ := resolves.through behind
  refine ⟨step, steps, ?_, found⟩
  unfold Relation.requireThrough
  rw [carried]

/-- All that the relation names is there. -/
theorem not_dangles (resolves : registry.Resolves relation target) {db : Database}
    (known : db.registry = registry) (e : Error) : ¬ relation.Dangles (· = db) e := by
  intro dangles
  cases dangles with
  | target here missing =>
    subst here
    rw [known, resolves.found] at missing
    cases missing
  | pivot mechanism missing =>
    obtain ⟨pivot, required⟩ := resolves.requirePivot mechanism
    rw [required] at missing
    cases missing
  | through mechanism missing =>
    obtain ⟨step, steps, required, -⟩ := resolves.requireThrough mechanism
    rw [required] at missing
    cases missing
  | intermediate here mechanism required missing =>
    subst here
    obtain ⟨step, steps, through, found⟩ := resolves.requireThrough mechanism
    rw [through] at required
    cases required
    rw [known, found] at missing
    cases missing

end Registry.Resolves

namespace Query

variable {db : Database}

theorem avoids_fetch (q : Query) : q.fetch.Avoids db .definition :=
  Task.Avoids.selection.fetch q

theorem avoids_fetchFirst (q : Query) : q.fetchFirst.Avoids db .definition :=
  Task.Avoids.selection.fetchFirst q

end Query

namespace Instance

variable {db : Database} {registry : Registry} {relation : Relation} {target : Model}

theorem avoids_found (i : Instance) (relation : Relation) (cause : MissingTarget)
    (row : Option Instance) : (i.found relation cause row).Avoids db .definition := by
  cases row with
  | some row => exact .pure _
  | none => exact .throw fun same => nomatch same

theorem avoids_ownerKey (db : Database) (i : Instance) (relation : Relation) :
    Task.Avoids (Work.ofExcept (i.ownerKey relation)) db .definition := by
  apply Task.Avoids.ofExcept
  intro e failed
  rcases i.ownerKey_cases relation with ⟨missing, -⟩ | found
  · rw [missing] at failed
    cases failed
    decide
  · rw [found] at failed
    cases failed

variable (resolves : registry.Resolves relation target) (known : db.registry = registry)
include resolves known

theorem avoids_targetQuery : relation.targetQuery.Avoids db .definition :=
  Task.Avoids.selection.targetQuery fun e missing => absurd missing (resolves.not_dangles known e)

/-- What a relation leads to is fetched, or it leads nowhere: all that it names is there. -/
theorem avoids_follow (i : Instance) :
    (match relation.mechanism with
      | .belongsTo => i.parent relation
      | .hasMany => i.dependents relation
      | .hasOne => i.dependent relation
      | .belongsToMany => i.linked relation
      | .through => i.through relation).Avoids db .definition := by
  have target := avoids_targetQuery resolves known
  have key := avoids_ownerKey db i relation
  cases mechanism : relation.mechanism with
  | belongsTo =>
    show (i.parent relation).Avoids db .definition
    unfold parent
    split
    · exact .throw fun same => nomatch same
    · refine .bind target fun q => .bind (Query.avoids_fetchFirst _) fun row => ?_
      exact avoids_found i relation _ row
  | hasMany =>
    show (i.dependents relation).Avoids db .definition
    unfold dependents
    exact .bind key fun _ => .bind target fun q => .bind (Query.avoids_fetch _) fun _ => .pure _
  | hasOne =>
    show (i.dependent relation).Avoids db .definition
    unfold dependent
    refine .bind key fun _ => .bind target fun q => ?_
    exact .bind (Query.avoids_fetchFirst _) fun row => avoids_found i relation _ row
  | belongsToMany =>
    show (i.linked relation).Avoids db .definition
    unfold linked
    obtain ⟨pivot, required⟩ := resolves.requirePivot mechanism
    refine .known required ?_
    refine .bind key fun _ => .bind (.select _) fun rows => ?_
    dsimp only
    split
    · exact .pure _
    · exact .bind target fun q => .bind (Query.avoids_fetch _) fun _ => .pure _
  | through =>
    show (i.through relation).Avoids db .definition
    unfold through
    obtain ⟨step, steps, required, found⟩ := resolves.requireThrough mechanism
    rw [← known] at found
    refine .known required (.bind key fun _ => .database (.known found ?_))
    refine .bind (Query.avoids_fetchFirst _) fun row => ?_
    cases row with
    | none => exact .throw fun same => nomatch same
    | some row =>
      refine .bind target fun q => ?_
      cases relation.cardinality with
      | many => exact .bind (Query.avoids_fetch _) fun _ => .pure _
      | one => exact .bind (Query.avoids_fetchFirst _) fun row => avoids_found i relation _ row

end Instance

/-- What is asked about the relations of an entity is answered: a declared relation can be filtered
by and asked for, and no work with relations ends in an error of a definition. -/
structure Registry.Serves (registry : Registry) (m : Model) : Prop where
  filters : ∀ (q : Query) (tree : ConditionTree), q.model = m → ∀ relation ∈ m.relations,
    (∃ has, q.whereHas registry relation.name tree = .ok has) ∧
      ∃ lacks, q.whereDoesntHave registry relation.name tree = .ok lacks
  loads : ∀ (q : Query) (names : List String), q.model = m →
    (∀ name ∈ names, ∃ relation ∈ m.relations, relation.name = name) →
    ∃ loading, q.load names = .ok loading
  fetches : ∀ (q : Query) (db : Database), q.model = m → db.registry = registry →
    q.get.Avoids db .definition
  leads : ∀ (i : Instance) (name : String) (db : Database), i.model = m → db.registry = registry →
    (i.related name).Avoids db .definition

namespace Registry.Sound

variable {registry : Registry} {m : Model}

theorem relation_eq (sound : registry.Sound m) {relation : Relation} (mem : relation ∈ m.relations) :
    m.relation relation.name = .ok relation :=
  Model.relation_of_mem sound.relations mem

theorem load_eq_ok (sound : registry.Sound m) {names : List String}
    (declared : ∀ name ∈ names, ∃ relation ∈ m.relations, relation.name = name) {q : Query}
    (own : q.model = m) : ∃ loading, q.load names = .ok loading := by
  induction names generalizing q with
  | nil => exact ⟨q, rfl⟩
  | cons name rest ih =>
    obtain ⟨relation, mem, rfl⟩ := declared name List.mem_cons_self
    unfold Query.load
    rw [List.foldlM_cons, own, sound.relation_eq mem]
    apply ih
    · exact fun name mem => declared name (List.mem_cons_of_mem _ mem)
    · split
      · exact own
      · rfl

theorem resolves_of_declared (sound : registry.Sound m) {name : String} {relation : Relation}
    (declared : m.relation name = .ok relation) : ∃ target, registry.Resolves relation target :=
  (sound.resolves relation (Model.relation_eq_ok declared).1).2

/-- A relation of some name that dangles is one that is not declared. -/
theorem kind_of_dangles (sound : registry.Sound m) {db : Database} (known : db.registry = registry)
    {name : String} {e : Error} (dangles : m.Dangles (· = db) name e) : e.kind ≠ .definition := by
  cases dangles with
  | undeclared missing =>
    unfold Model.relation at missing
    split at missing
    · cases missing
    · cases missing
      exact fun same => nomatch same
  | named declared missing =>
    obtain ⟨target, resolves⟩ := sound.resolves_of_declared declared
    exact absurd missing (resolves.not_dangles known e)

theorem serves (sound : registry.Sound m) : registry.Serves m := by
  constructor
  · intro q tree own relation mem
    obtain ⟨-, target, resolves⟩ := sound.resolves relation mem
    have made (negated : Bool) :
        Query.relatedCondition registry m relation.name negated tree = .ok (relation.condition m
          negated (Query.targetConditions target relation.targetTable tree)) :=
      Query.relatedCondition_eq (sound.relation_eq mem) resolves negated
    unfold Query.whereHas Query.whereDoesntHave
    rw [own, made, made]
    exact ⟨⟨_, rfl⟩, _, rfl⟩
  · intro q names own declared
    exact sound.load_eq_ok declared own
  · intro q db own known
    refine Task.Avoids.selection.get fun name _ e dangles => ?_
    rw [own] at dangles
    exact .admits (sound.kind_of_dangles known dangles)
  · intro i name db own known
    unfold Instance.related
    rw [own]
    refine Task.SelectionProperty.lookUp (P := (·.Avoids db .definition)) (fun e missing => ?_)
      fun relation declared => ?_
    · exact .admits (sound.kind_of_dangles known (.undeclared missing))
    · obtain ⟨target, resolves⟩ := sound.resolves_of_declared declared
      exact Instance.avoids_follow resolves known i

end Registry.Sound

namespace Catalogue

/-- **Compiled registries cannot fail later.** Of schemas that can be added one after the other and
compiled, every one has its model, with a relation for every declaration; every model keeps what was
checked, and so serves what is asked about its relations. -/
theorem sound_of_compiled {schemas : List Schema} {pageSize : Option Nat} {c : Catalogue}
    {registry : Registry} (added : schemas.foldlM add { relationPageSize := pageSize } = .ok c)
    (compiled : c.compile = .ok registry) :
    List.Forall₂ Schema.Realised schemas registry.models ∧
      ∀ m ∈ registry.models, registry.Sound m ∧ registry.Serves m := by
  obtain ⟨listed, apart⟩ := add_all added List.nodup_nil
  have listed : c.schemas = schemas := listed
  have all := Except.forall₂_of_mapM (compile_eq_ok compiled)
  rw [listed] at all
  refine ⟨all.imp fun _ _ made => realised_of_compile made, ?_⟩
  intro m mem
  have sound := sound compiled apart mem
  exact ⟨sound, sound.serves⟩

theorem sound_of_compiled_shop :
    shop.schemas.foldlM add { relationPageSize := none } = .ok shop ∧
      shop.compile = .ok shopRegistry ∧ List.Forall₂ Schema.Realised shop.schemas shopRegistry.models ∧
      ∀ m ∈ shopRegistry.models, shopRegistry.Sound m ∧ shopRegistry.Serves m := by
  have added : shop.schemas.foldlM add { relationPageSize := none } = .ok shop := by rfl
  exact ⟨added, shop_compiles, sound_of_compiled added shop_compiles⟩

end Catalogue

end EntityStore
