import EntityStore.Facade.Basic
import EntityStore.Proofs.Compiled

/-!
# The methods of a facade

A query has a predicate for every column that is no system column, named for the column in snake
case. The relations of an instance have an accessor each, beside the function `new` that makes them.
No two columns of a compiled entity have one name, and no two relations; their methods still do
where snake case, or the ending of the accessors of parents, brings two names together. Main result:
`Facade.distinct_iff`, which says exactly where the methods of a facade have names of their own.
-/

namespace EntityStore

/-- The name of the predicate of a column. -/
def FacadeField.methodName (f : FacadeField) : String :=
  "where_" ++ f.name

namespace Facade

theorem head?_predicate (f : FacadeField) : (predicate f).head? =
    some ("    pub fn " ++ f.methodName ++ "(self, value: " ++ f.type ++
      ") -> ModelResult<Self> \x7b") := by
  simp only [predicate, method, FacadeField.methodName, List.head?_cons]
  apply congrArg some
  apply String.toList_inj.1
  simp

theorem head?_accessor (r : FacadeRelation) : (accessor r).head? =
    some ("    pub async fn " ++ r.accessor ++ "(&self) -> ModelResult<" ++
      (if r.returnsMany then "Vec<ModelInstance>" else "ModelInstance") ++ "> \x7b") := by
  unfold accessor
  cases r.returnsMany <;>
  · simp only [method, List.head?_cons, if_true, if_false, Bool.false_eq_true]
    apply congrArg some
    apply String.toList_inj.1
    simp

/-- The names of the predicates of the query. -/
def predicateNames (f : Facade) : List String :=
  f.fields.map FacadeField.methodName

/-- The names of the accessors of the relations. -/
def accessorNames (f : Facade) : List String :=
  f.relations.map (·.accessor)

/-- The methods have names of their own. -/
structure Distinct (f : Facade) : Prop where
  predicates : f.predicateNames.Nodup
  accessors : f.accessorNames.Nodup
  maker : "new" ∉ f.accessorNames

end Facade

namespace Model

variable {m : Model}

/-- The columns that the query of a facade has predicates for. -/
def queried (m : Model) : List Column :=
  m.columns.filter fun column => !column.source.isSystem

/-- The names of an entity stay apart where methods are named for them: those of its columns in
snake case, and those of its relations with the ending of the accessors of parents. -/
structure TellsApart (m : Model) : Prop where
  columns : ∀ a ∈ m.queried, ∀ b ∈ m.queried,
    Text.snakeCase a.name = Text.snakeCase b.name → a.name = b.name
  parents : ∀ parent ∈ m.relations, parent.mechanism = .belongsTo →
    ∀ other ∈ m.relations, other.mechanism ≠ .belongsTo → other.name ≠ parent.name ++ "_belong"
  maker : ∀ relation ∈ m.relations, relation.mechanism ≠ .belongsTo → relation.name ≠ "new"

/-- Columns in snake case stay apart, and relations that leave `new` and the ending to the accessors
do. -/
theorem TellsApart.of_plain
    (columns : ∀ column ∈ m.queried, Text.snakeCase column.name = column.name)
    (relations : ∀ relation ∈ m.relations,
      relation.name ≠ "new" ∧ Naming.endsIn "_belong" relation.name.toList = false) :
    m.TellsApart := by
  constructor
  · intro a memA b memB same
    rwa [columns a memA, columns b memB] at same
  · rintro parent - - other mem - named
    have ends := (relations other mem).2
    rw [named, String.toList_append] at ends
    unfold Naming.endsIn at ends
    rw [List.isSuffixOf_iff_suffix.2 (List.suffix_append _ _)] at ends
    cases ends
  · exact fun relation mem _ => (relations relation mem).1

theorem predicateNames_ofModel (m : Model) :
    (Facade.ofModel m).predicateNames =
      m.queried.map fun column => "where_" ++ Text.snakeCase column.name := by
  rw [Facade.predicateNames, Facade.ofModel, List.map_map]
  rfl

theorem accessorNames_ofModel (m : Model) :
    (Facade.ofModel m).accessorNames = m.relations.map Relation.accessorName := by
  rw [Facade.accessorNames, Facade.ofModel, List.map_map]
  rfl

theorem nodup_predicateNames (columns : m.columnNames.Nodup) :
    (Facade.ofModel m).predicateNames.Nodup ↔ ∀ a ∈ m.queried, ∀ b ∈ m.queried,
      Text.snakeCase a.name = Text.snakeCase b.name → a.name = b.name := by
  have named : (m.queried.map (·.name)).Nodup := columns.sublist (List.filter_sublist.map _)
  rw [predicateNames_ofModel, List.nodup_map_iff_inj_on named.of_map]
  constructor
  · intro apart a memA b memB same
    rw [apart a memA b memB (congrArg _ same)]
  · intro apart a memA b memB same
    have same : Text.snakeCase a.name = Text.snakeCase b.name :=
      (String.append_right_inj "where_").1 same
    exact List.inj_on_of_nodup_map named memA memB (apart a memA b memB same)

/-- Accessors of two relations of one kind are told apart as the relations are, those of two kinds
by the ending. -/
theorem accessorName_inj_iff {a b : Relation} : a.accessorName = b.accessorName ↔
    if a.mechanism = .belongsTo then
      if b.mechanism = .belongsTo then a.name = b.name else b.name = a.name ++ "_belong"
    else if b.mechanism = .belongsTo then a.name = b.name ++ "_belong" else a.name = b.name := by
  unfold Relation.accessorName
  split <;> split
  · exact String.append_left_inj _
  · exact eq_comm
  · rfl
  · rfl

theorem nodup_accessorNames (relations : (m.relations.map (·.name)).Nodup) :
    (Facade.ofModel m).accessorNames.Nodup ↔
      ∀ parent ∈ m.relations, parent.mechanism = .belongsTo → ∀ other ∈ m.relations,
        other.mechanism ≠ .belongsTo → other.name ≠ parent.name ++ "_belong" := by
  rw [accessorNames_ofModel, List.nodup_map_iff_inj_on relations.of_map]
  constructor
  · intro apart parent memParent belongs other memOther own named
    have same : parent.accessorName = other.accessorName := by
      rw [accessorName_inj_iff, if_pos belongs, if_neg own]
      exact named
    exact own (apart parent memParent other memOther same ▸ belongs)
  · intro apart a memA b memB same
    rw [accessorName_inj_iff] at same
    split at same <;> split at same
    · exact List.inj_on_of_nodup_map relations memA memB same
    · next belongs own => exact absurd same (apart a memA belongs b memB own)
    · next own belongs => exact absurd same (apart b memB belongs a memA own)
    · exact List.inj_on_of_nodup_map relations memA memB same

theorem new_mem_accessorNames (m : Model) : "new" ∈ (Facade.ofModel m).accessorNames ↔
    ∃ relation ∈ m.relations, relation.mechanism ≠ .belongsTo ∧ relation.name = "new" := by
  have longer (name : String) : name ++ "_belong" ≠ "new" := by
    intro same
    have size := congrArg String.length same
    rw [String.length_append] at size
    have size : name.length + 7 = 3 := size
    omega
  rw [accessorNames_ofModel, List.mem_map]
  refine exists_congr fun relation => and_congr_right fun _ => ?_
  unfold Relation.accessorName
  split
  · next belongs => simp [longer, belongs]
  · next own => simp [own]

end Model

namespace Facade

variable {c : Catalogue} {registry : Registry} {m : Model}

/-- **The methods of the facade of a compiled entity have names of their own exactly when its
columns stay apart in snake case, none of its relations is named as the accessor of a parent, and
none that leads to something else than a parent is called `new`.** -/
theorem distinct_iff (compiled : c.compile = .ok registry) (mem : m ∈ registry.models) :
    (ofModel m).Distinct ↔ m.TellsApart := by
  obtain ⟨s, -, made⟩ := Catalogue.mem_of_compiled (Catalogue.compile_eq_ok compiled) mem
  have compiles := Schema.compile_eq_ok made
  have columns : m.columnNames.Nodup := (Schema.columns_eq_ok compiles.columns).2
  have relations := (RelationResolver.resolve_eq_ok compiles.relations).1
  constructor
  · rintro ⟨predicates, accessors, maker⟩
    refine ⟨(Model.nodup_predicateNames columns).1 predicates,
      (Model.nodup_accessorNames relations).1 accessors, ?_⟩
    intro relation member own named
    exact maker ((Model.new_mem_accessorNames m).2 ⟨relation, member, own, named⟩)
  · rintro ⟨apart, parents, maker⟩
    refine ⟨(Model.nodup_predicateNames columns).2 apart,
      (Model.nodup_accessorNames relations).2 parents, ?_⟩
    intro named
    obtain ⟨relation, member, own, named⟩ := (Model.new_mem_accessorNames m).1 named
    exact maker relation member own named

/-- Posts with their author and their comments. -/
def commented : Catalogue where
  schemas :=
    [{ name := "Post", attributes := [("title", {})]
       relations :=
         { belongsTo := [{ entity := "User", name := some "author" }]
           hasMany := [{ entity := "Comment" }] } },
     { name := "User" }, { name := "Comment" }]

theorem distinct_commented : ∃ registry m, commented.compile = .ok registry ∧
    m ∈ registry.models ∧ m.name = "Post" ∧ (ofModel m).Distinct := by
  have compiles : commented.compile.toOption.isSome = true := by decide +kernel
  obtain ⟨registry, there⟩ := Option.isSome_iff_exists.1 compiles
  have compiled := Except.eq_ok_of_toOption there
  have facts : ∀ registry ∈ commented.compile.toOption, ∃ m ∈ registry.models, m.name = "Post" ∧
      (∀ column ∈ m.queried, Text.snakeCase column.name = column.name) ∧
      ∀ relation ∈ m.relations,
        relation.name ≠ "new" ∧ Naming.endsIn "_belong" relation.name.toList = false := by
    decide +kernel
  obtain ⟨m, mem, named, columns, relations⟩ := facts registry there
  exact ⟨registry, m, compiled, mem, named,
    (distinct_iff compiled mem).2 (.of_plain columns relations)⟩

/-- Posts with two columns that snake case makes one, a relation that is named as the accessor of
the author, and one that is called `new`. -/
def crowded : Catalogue where
  schemas :=
    [{ name := "Post", attributes := [("fooBar", {}), ("foo_bar", {})]
       relations :=
         { belongsTo := [{ entity := "User", name := some "author" }]
           hasMany := [{ entity := "User", name := some "author_belong" },
             { entity := "Comment", name := some "new" }] } },
     { name := "User" }, { name := "Comment" }]

/-- It compiles, and none of the three holds of the facade of its posts. -/
theorem not_distinct_crowded : ∃ registry m, crowded.compile = .ok registry ∧
    m ∈ registry.models ∧ m.name = "Post" ∧ ¬(ofModel m).predicateNames.Nodup ∧
    ¬(ofModel m).accessorNames.Nodup ∧ "new" ∈ (ofModel m).accessorNames := by
  have compiles : crowded.compile.toOption.isSome = true := by decide +kernel
  obtain ⟨registry, there⟩ := Option.isSome_iff_exists.1 compiles
  have facts : ∀ registry ∈ crowded.compile.toOption, ∃ m ∈ registry.models, m.name = "Post" ∧
      ¬(ofModel m).predicateNames.Nodup ∧ ¬(ofModel m).accessorNames.Nodup ∧
      "new" ∈ (ofModel m).accessorNames := by
    decide +kernel
  obtain ⟨m, mem, shown⟩ := facts registry there
  exact ⟨registry, m, Except.eq_ok_of_toOption there, mem, shown⟩

end Facade

end EntityStore
