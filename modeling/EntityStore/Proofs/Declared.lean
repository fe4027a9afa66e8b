import EntityStore.Query.Basic
import Mathlib.Data.List.Forall2
import Mathlib.Data.List.Nodup

/-!
# Relations of compiled registries

Compiling resolves every declared relation against the schemas that it names. So what a relation
leads to, and by way of which table, can be looked up in the registry (`Registry.Resolves`), and
looking it up cannot fail (`Catalogue.resolves`).
-/

namespace EntityStore

theorem Except.bind_eq_ok {ε α β : Type} {x : Except ε α} {next : α → Except ε β} {b : β} :
    x >>= next = .ok b ↔ ∃ a, x = .ok a ∧ next a = .ok b := by
  cases x with
  | error e => exact ⟨fun h => (nomatch h), fun ⟨_, h, _⟩ => (nomatch h)⟩
  | ok a => exact ⟨fun h => ⟨a, rfl, h⟩, fun ⟨_, h, hb⟩ => (Except.ok.inj h) ▸ hb⟩

/-- Names stay apart when a member with a new one is added. -/
theorem List.nodup_map_concat {α β : Type} {name : α → β} {done : List α} {a : α}
    (apart : (done.map name).Nodup) (fresh : ∀ b ∈ done, name b ≠ name a) :
    ((done ++ [a]).map name).Nodup := by
  rw [List.map_append, List.map_singleton, List.nodup_append]
  refine ⟨apart, List.nodup_singleton _, ?_⟩
  intro taken mem here found same
  obtain ⟨earlier, before, rfl⟩ := List.mem_map.1 mem
  exact fresh earlier before (same.trans (List.mem_singleton.1 found))

theorem List.nodup_map_append {α : Type} {name : α → String} {done : List α} {a : α}
    (apart : (done.map name).Nodup) (fresh : ¬done.any (fun b => name b == name a) = true) :
    ((done ++ [a]).map name).Nodup :=
  List.nodup_map_concat apart fun earlier before same =>
    fresh (List.any_eq_true.2 ⟨earlier, before, beq_iff_eq.2 same⟩)

theorem Except.eq_ok_of_toOption {ε α : Type} {x : Except ε α} {a : α} (h : x.toOption = some a) :
    x = .ok a := by
  cases x with
  | error e => exact nomatch h
  | ok b => exact congrArg _ (Option.some.inj h)

theorem Except.exists_ok_of_toOption {α : Type} {x : Except Error α} (h : x.toOption.isSome = true) :
    ∃ a, x = .ok a := by
  obtain ⟨a, ha⟩ := Option.isSome_iff_exists.1 h
  exact ⟨a, Except.eq_ok_of_toOption ha⟩

theorem List.exists_of_forall₂_right {α β : Type} {R : α → β → Prop} {as : List α} {bs : List β}
    (h : List.Forall₂ R as bs) {b : β} (mem : b ∈ bs) : ∃ a ∈ as, R a b := by
  induction h with
  | nil => cases mem
  | cons first _ ih =>
    rcases List.mem_cons.1 mem with rfl | mem
    · exact ⟨_, List.mem_cons_self, first⟩
    · obtain ⟨a, there, related⟩ := ih mem
      exact ⟨a, List.mem_cons_of_mem _ there, related⟩

/-- The answers of a computation over a list are those for its elements, one for each. -/
theorem Except.forall₂_of_mapM {ε α β : Type} {f : α → Except ε β} {as : List α} {bs : List β}
    (h : as.mapM f = .ok bs) : List.Forall₂ (fun a b => f a = .ok b) as bs := by
  induction as generalizing bs with
  | nil =>
    cases h
    exact .nil
  | cons first rest ih =>
    rw [List.mapM_cons] at h
    cases head : f first with
    | error e => rw [head] at h; cases h
    | ok b =>
      cases tail : rest.mapM f with
      | error e => rw [head, tail] at h; cases h
      | ok more =>
        rw [head, tail] at h
        cases h
        exact .cons head (ih tail)

theorem Except.ok_of_mapM {ε α β : Type} {f : α → Except ε β} {as : List α} {bs : List β}
    (h : as.mapM f = .ok bs) {a : α} (mem : a ∈ as) : ∃ b ∈ bs, f a = .ok b :=
  List.exists_of_forall₂_right (R := fun b a => f a = .ok b) (Except.forall₂_of_mapM h).flip mem

theorem Except.mem_of_mapM {ε α β : Type} {f : α → Except ε β} {as : List α} {bs : List β}
    (h : as.mapM f = .ok bs) {b : β} : b ∈ bs ↔ ∃ a ∈ as, f a = .ok b := by
  constructor
  · exact List.exists_of_forall₂_right (Except.forall₂_of_mapM h)
  · rintro ⟨a, mem, answer⟩
    obtain ⟨b', there, answer'⟩ := Except.ok_of_mapM h mem
    rw [answer] at answer'
    cases answer'
    exact there

/-- A member of a name that no other one has is the one found under it. -/
theorem List.find?_of_nodup {α : Type} {name : α → String} {items : List α}
    (apart : (items.map name).Nodup) {a : α} (mem : a ∈ items) :
    items.find? (fun b => name b == name a) = some a := by
  induction items with
  | nil => cases mem
  | cons first rest ih =>
    obtain ⟨fresh, apart⟩ := List.nodup_cons.1 apart
    rw [List.find?_cons]
    rcases List.mem_cons.1 mem with rfl | mem
    · rw [beq_self_eq_true]
    · have other : (name first == name a) = false := by
        rw [beq_eq_false_iff_ne]
        intro same
        exact fresh (same ▸ List.mem_map_of_mem mem)
      rw [other]
      exact ih apart mem

/-- A relation of a registry leads to an entity of it, by way of a pivot table or of an entity of it
where its mechanism asks for one. -/
structure Registry.Resolves (registry : Registry) (relation : Relation) (target : Model) : Prop where
  found : registry.get relation.targetEntity = .ok target
  table : target.table = relation.targetTable
  pivot : relation.mechanism = .belongsToMany → ∃ pivot, relation.pivot = some pivot
  through : relation.mechanism = .through → ∃ through steps, relation.through = some through ∧
    registry.get through.entity = .ok steps ∧ steps.table = through.table ∧
    steps.primaryKey = through.primaryKey

namespace Model

variable {m : Model} {name : String} {relation : Relation}

theorem relation_eq_ok (declared : m.relation name = .ok relation) :
    relation ∈ m.relations ∧ relation.name = name := by
  unfold Model.relation at declared
  split at declared
  · next found =>
    cases declared
    exact ⟨List.mem_of_find?_eq_some found, eq_of_beq (List.find?_some found :)⟩
  · cases declared

theorem relation_of_mem (apart : (m.relations.map (·.name)).Nodup) (mem : relation ∈ m.relations) :
    m.relation relation.name = .ok relation := by
  unfold Model.relation
  rw [List.find?_of_nodup apart mem]

end Model

namespace Schema

/-- The model of a schema: what is declared, with what compiling makes of it. -/
structure Compiles (s : Schema) (resolver : RelationResolver) (m : Model) : Prop where
  name : m.name = s.name
  table : m.table = s.tableName
  primaryKey : m.primaryKey = s.primaryKeyName
  traits : m.traits = s.traits
  columns : s.columns = .ok m.columns
  relations : resolver.resolve s = .ok m.relations
  validator : Validator.ofAttributes s.name s.attributes = .ok m.validator

variable {s : Schema} {resolver : RelationResolver} {m : Model}

/-- All that compiling makes of a schema: the model with its lists of names, whose search asks for
columns of the model only. -/
theorem compile_cases (compiled : s.compile resolver = .ok m) :
    s.Compiles resolver m ∧
    (m.fillable = s.fillable ∧ m.guarded = s.marked (·.guarded) ∧ m.hidden = s.marked (·.hidden)) ∧
    m.search = SearchProjection.ofOptions s.traits.search.isEnabled (s.traits.search.options {})
      (s.visible m.columns) ∧
    ∀ name ∈ m.search.columns, name ∈ m.columnNames := by
  unfold compile at compiled
  obtain ⟨columns, listed, compiled⟩ := Except.bind_eq_ok.1 compiled
  obtain ⟨relations, resolved, compiled⟩ := Except.bind_eq_ok.1 compiled
  obtain ⟨validator, checked, compiled⟩ := Except.bind_eq_ok.1 compiled
  dsimp only at compiled
  split at compiled
  · cases compiled
  · next unknown =>
    cases compiled
    refine ⟨⟨rfl, rfl, rfl, rfl, listed, resolved, checked⟩, ⟨rfl, rfl, rfl⟩, rfl, ?_⟩
    intro name mem
    have known := List.find?_eq_none.1 unknown name mem
    obtain ⟨column, there, named⟩ : ∃ column ∈ columns, column.name = name := by simpa using known
    exact List.mem_map.2 ⟨column, there, named⟩

/-- Compiling answers the model of the schema or nothing. -/
theorem compile_eq_ok (compiled : s.compile resolver = .ok m) : s.Compiles resolver m :=
  (compile_cases compiled).1

end Schema

/-- The name of a declared relation: as given, or derived from the entity that it leads to. -/
def RelationOptions.relationName (o : RelationOptions) : Cardinality → String
  | .one => o.name.getD (Text.snakeCase o.entity)
  | .many => o.name.getD (Naming.tableName o.entity)

namespace RelationResolver

variable {resolver : RelationResolver} {owner : Schema}

theorem schemaFor_eq_ok {relation entity : String} {s : Schema}
    (found : resolver.schemaFor relation entity = .ok s) :
    s.name = entity ∧ resolver.schemas.find? (·.name == s.name) = some s := by
  unfold schemaFor at found
  split at found
  · next s' hs' =>
    cases found
    have named : s.name = entity := eq_of_beq (List.find?_some hs' :)
    exact ⟨named, named.symm ▸ hs'⟩
  · cases found

/-- What resolving a declaration makes of it, and takes from the schemas that it names. -/
structure Makes (resolver : RelationResolver) (owner : Schema) (options : RelationOptions)
    (mechanism : Mechanism) (cardinality : Cardinality) (relation : Relation) : Prop where
  name : relation.name = options.relationName cardinality
  entity : relation.targetEntity = options.entity
  target : ∃ target, resolver.schemas.find? (·.name == target.name) = some target ∧
    relation.targetEntity = target.name ∧ relation.targetTable = target.tableName
  localKey : relation.localKey =
    if mechanism = .belongsTo then options.belongsToKey else owner.primaryKeyName
  mechanism : relation.mechanism = mechanism
  cardinality : relation.cardinality = cardinality
  pivot : relation.mechanism = .belongsToMany → ∃ pivot, relation.pivot = some pivot
  through : relation.mechanism = .through → ∃ through steps, relation.through = some through ∧
    resolver.schemas.find? (·.name == steps.name) = some steps ∧ through.entity = steps.name ∧
    through.table = steps.tableName ∧ through.primaryKey = steps.primaryKeyName

/-- Resolving a declaration answers what it asks for or nothing. -/
theorem resolveOne_eq_ok {options : RelationOptions} {mechanism : Mechanism}
    {cardinality : Cardinality} {relation : Relation}
    (resolved : resolver.resolveOne owner options mechanism cardinality = .ok relation) :
    resolver.Makes owner options mechanism cardinality relation := by
  unfold resolveOne at resolved
  obtain ⟨target, there, resolved⟩ := Except.bind_eq_ok.1 resolved
  obtain ⟨entity, found⟩ := schemaFor_eq_ok there
  cases mechanism with
  | belongsTo | hasMany | hasOne =>
    cases resolved
    refine ⟨?_, entity, ⟨target, found, rfl, rfl⟩, rfl, rfl, rfl, fun h => (nomatch h),
      fun h => (nomatch h)⟩
    cases cardinality <;> rfl
  | belongsToMany =>
    cases resolved
    refine ⟨?_, entity, ⟨target, found, rfl, rfl⟩, rfl, rfl, rfl, fun _ => ⟨_, rfl⟩,
      fun h => (nomatch h)⟩
    cases cardinality <;> rfl
  | through =>
    dsimp only at resolved
    split at resolved
    · cases resolved
    · obtain ⟨steps, behind, resolved⟩ := Except.bind_eq_ok.1 resolved
      cases resolved
      refine ⟨?_, entity, ⟨target, found, rfl, rfl⟩, rfl, rfl, rfl, fun h => (nomatch h),
        fun _ => ⟨_, steps, rfl, (schemaFor_eq_ok behind).2, rfl, rfl, rfl⟩⟩
      cases cardinality <;> rfl

/-- Every declaration is resolved in its turn, and no two relations have one name. -/
theorem resolveAll_eq_ok {declared : List (RelationOptions × Mechanism × Cardinality)}
    {done relations : List Relation} (resolved : resolver.resolveAll owner done declared = .ok relations)
    (apart : (done.map (·.name)).Nodup) :
    (relations.map (·.name)).Nodup ∧ ∃ added, relations = done ++ added ∧
      List.Forall₂ (fun declaration relation =>
        resolver.resolveOne owner declaration.1 declaration.2.1 declaration.2.2 = .ok relation)
        declared added := by
  induction declared generalizing done with
  | nil =>
    cases resolved
    exact ⟨apart, [], (List.append_nil _).symm, .nil⟩
  | cons declaration rest ih =>
    obtain ⟨options, mechanism, cardinality⟩ := declaration
    obtain ⟨first, hfirst, resolved⟩ := Except.bind_eq_ok.1 (show _ >>= _ = _ from resolved)
    split at resolved
    · cases resolved
    · next fresh =>
      obtain ⟨names, added, all, each⟩ := ih resolved (List.nodup_map_append apart fresh)
      refine ⟨names, first :: added, ?_, .cons hfirst each⟩
      rw [all, List.append_assoc, List.singleton_append]

theorem resolve_eq_ok {relations : List Relation} (resolved : resolver.resolve owner = .ok relations) :
    (relations.map (·.name)).Nodup ∧
      List.Forall₂ (fun declaration relation =>
        resolver.resolveOne owner declaration.1 declaration.2.1 declaration.2.2 = .ok relation)
        (declarations owner) relations := by
  obtain ⟨names, added, rfl, each⟩ := resolveAll_eq_ok resolved List.nodup_nil
  exact ⟨names, each⟩

end RelationResolver

namespace Catalogue

variable {resolver : RelationResolver} {schemas : List Schema} {models : List Model}

/-- Every model is that of a schema. -/
theorem mem_of_compiled (compiled : schemas.mapM (·.compile resolver) = .ok models) {m : Model}
    (mem : m ∈ models) : ∃ s ∈ schemas, s.compile resolver = .ok m :=
  (Except.mem_of_mapM compiled).1 mem

/-- The first schema of a name becomes the first model of that name. -/
theorem find?_of_compiled (compiled : schemas.mapM (·.compile resolver) = .ok models)
    {name : String} {s : Schema} (found : schemas.find? (·.name == name) = some s) :
    ∃ m, models.find? (·.name == name) = some m ∧ s.compile resolver = .ok m := by
  induction schemas generalizing models with
  | nil => cases found
  | cons first rest ih =>
    rw [List.mapM_cons] at compiled
    obtain ⟨m, hm, compiled⟩ := Except.bind_eq_ok.1 compiled
    obtain ⟨more, hmore, compiled⟩ := Except.bind_eq_ok.1 compiled
    cases compiled
    have sameName : m.name = first.name := (Schema.compile_eq_ok hm).name
    rw [List.find?_cons] at found ⊢
    rw [sameName]
    cases named : first.name == name with
    | true =>
      rw [named] at found
      cases found
      exact ⟨m, rfl, hm⟩
    | false =>
      rw [named] at found
      exact ih hmore found

/-- The resolver that a catalogue compiles its schemas with. -/
def compiler (c : Catalogue) : RelationResolver :=
  ⟨c.schemas, c.relationPageSize.getD ({} : Config).relationPageSize⟩

theorem compile_eq_ok {c : Catalogue} {registry : Registry} (compiled : c.compile = .ok registry) :
    c.schemas.mapM (·.compile c.compiler) = .ok registry.models := by
  obtain ⟨models, all, made⟩ := Except.bind_eq_ok.1 (show _ >>= _ = _ from compiled)
  cases made
  exact all

/-- The first schema of a name is registered under it. -/
theorem get_of_compiled {c : Catalogue} {registry : Registry} (compiled : c.compile = .ok registry)
    {s : Schema} (found : c.schemas.find? (·.name == s.name) = some s) :
    ∃ m, registry.get s.name = .ok m ∧ m.table = s.tableName ∧ m.primaryKey = s.primaryKeyName := by
  obtain ⟨m, hm, made⟩ := find?_of_compiled (compile_eq_ok compiled) found
  have compiles := Schema.compile_eq_ok made
  refine ⟨m, ?_, compiles.table, compiles.primaryKey⟩
  unfold Registry.get
  rw [hm]

/-- A relation of a compiled model was resolved for a schema whose primary key the model has. -/
theorem resolved_of_compiled {c : Catalogue} {registry : Registry}
    (compiled : c.compile = .ok registry) {m : Model} (mem : m ∈ registry.models) {name : String}
    {relation : Relation} (declared : m.relation name = .ok relation) :
    ∃ owner options mechanism cardinality, m.primaryKey = owner.primaryKeyName ∧
      c.compiler.resolveOne owner options mechanism cardinality = .ok relation := by
  obtain ⟨s, -, made⟩ := mem_of_compiled (compile_eq_ok compiled) mem
  have compiles := Schema.compile_eq_ok made
  obtain ⟨declaration, -, resolved⟩ := List.exists_of_forall₂_right
    (RelationResolver.resolve_eq_ok compiles.relations).2 (Model.relation_eq_ok declared).1
  exact ⟨s, _, _, _, compiles.primaryKey, resolved⟩

/-- A compiled registry knows what the relations of its models name. -/
theorem resolves {c : Catalogue} {registry : Registry} (compiled : c.compile = .ok registry)
    {m : Model} (mem : m ∈ registry.models) {name : String} {relation : Relation}
    (declared : m.relation name = .ok relation) : ∃ target, registry.Resolves relation target := by
  obtain ⟨owner, options, mechanism, cardinality, -, resolved⟩ :=
    resolved_of_compiled compiled mem declared
  have made := RelationResolver.resolveOne_eq_ok resolved
  obtain ⟨target, found, entity, table⟩ := made.target
  obtain ⟨model, got, modelTable, -⟩ := get_of_compiled compiled found
  refine ⟨model, by rw [entity]; exact got, modelTable.trans table.symm, made.pivot, fun behind => ?_⟩
  obtain ⟨step, steps, hstep, found, entity, table, key⟩ := made.through behind
  obtain ⟨model, got, modelTable, modelKey⟩ := get_of_compiled compiled found
  exact ⟨step, model, hstep, by rw [entity]; exact got, modelTable.trans table.symm,
    modelKey.trans key.symm⟩

/-- A relation that does not start from a foreign key starts from the primary key. -/
theorem localKey_of_compiled {c : Catalogue} {registry : Registry}
    (compiled : c.compile = .ok registry) {m : Model} (mem : m ∈ registry.models) {name : String}
    {relation : Relation} (declared : m.relation name = .ok relation)
    (owned : relation.mechanism ≠ .belongsTo) : relation.localKey = m.primaryKey := by
  obtain ⟨owner, options, mechanism, cardinality, key, resolved⟩ :=
    resolved_of_compiled compiled mem declared
  have made := RelationResolver.resolveOne_eq_ok resolved
  rw [made.mechanism] at owned
  rw [key, made.localKey, if_neg owned]

end Catalogue

end EntityStore
