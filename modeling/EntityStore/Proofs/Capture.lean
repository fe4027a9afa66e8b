import EntityStore.Proofs.Subqueries
import EntityStore.Proofs.Traversal

/-!
# Captured correlations

The condition of a relation becomes a subquery on the target table, or one on a table between with
that on the target table in it. Each compares a column of its rows with one of the query around it,
by the name of that query's table. `Query.uncaptured_iff` says what the rendered text then means:
its correlations are those of the hops of the relation, and they refer to the query around exactly
when no hop ends at a table that is named by its beginning. A category and its subcategories are kept
in one table, so their correlation compares two columns of one row (`Query.captured_children`).
-/

namespace EntityStore

open Sql (Subselect written)

namespace Sql

/-- Every correlation in the text of a query on the table means the query around it. -/
def Uncaptured (table sql : String) : Prop :=
  ∀ s ∈ subselects (written table) [] [] sql.toList, s.RefersOut

instance (table sql : String) : Decidable (Uncaptured table sql) :=
  List.decidableBAll Subselect.RefersOut _

end Sql

namespace Relation

/-- For each subquery of the condition of a relation, from the outermost on, the table of the query
around it and its own. -/
def hops (r : Relation) (owner : Model) : List (String × String) :=
  match r.bridge? with
  | none => [(owner.table, r.targetTable)]
  | some bridge => [(owner.table, bridge.table), (bridge.table, r.targetTable)]

/-- The columns of outer rows that the condition of a relation compares. -/
def outerKeys (r : Relation) : List String :=
  r.localKey :: (r.bridge?.map (·.key)).toList

/-- The tables and the outer columns of a relation are written as single words, the columns without
a qualifier of their own. -/
structure Worded (r : Relation) (owner : Model) : Prop where
  solid : ∀ name ∈ r.tables owner ++ r.outerKeys, ' ' ∉ written name
  undotted : ∀ key ∈ r.outerKeys, '.' ∉ written key

/-- The subquery of a hop. -/
def subselect (hop : String × String) : Subselect :=
  ⟨written hop.1, written hop.2, written hop.1⟩

theorem refersOut_subselect (hop : String × String) :
    (subselect hop).RefersOut ↔ ¬ Sql.Names (written hop.1) (written hop.2) := by
  have outward : Sql.Names (written hop.1) (written hop.1) := .refl _
  simp only [Subselect.RefersOut, subselect, outward, true_and]

end Relation

namespace Query

/-- The scope of the trash adds no subquery to those of a callback. -/
theorem targetConditions_alone (target : Model) (table : String) {tree : ConditionTree}
    (alone : treeTables tree = []) (around : List Char) :
    treeSubselects around (targetConditions target table tree) = [] ∧
      TreeWorded (targetConditions target table tree) := by
  obtain ⟨none, worded⟩ := treeSubselects_of_tables alone around
  unfold targetConditions
  split
  · rw [treeSubselects_also, treeSubselects_enclosed, none, Condition.subselects]
    exact ⟨rfl, treeWorded_also (treeWorded_enclosed worded) trivial⟩
  · exact ⟨none, worded⟩

/-- A further condition adds its subqueries to those of a query, and the scope of the trash none. -/
theorem scopedConditions_filter (q : Query) {c : Condition} (worded : TreeWorded q.conditions)
    (more : c.Worded) (around : List Char) :
    treeSubselects around (q.filter c).scopedConditions =
        treeSubselects around q.conditions ++ c.subselects around ∧
      TreeWorded (q.filter c).scopedConditions := by
  have both : TreeWorded (q.conditions.also c) := treeWorded_also worded more
  unfold scopedConditions filter
  dsimp only
  split
  · exact ⟨treeSubselects_also .., both⟩
  · rw [treeSubselects_also, treeSubselects_enclosed, treeSubselects_also]
    split <;>
      exact ⟨by rw [Condition.subselects, List.append_nil],
        treeWorded_also (treeWorded_enclosed both) trivial⟩

end Query

namespace Relation

variable {relation : Relation} {m : Model} {inner : ConditionTree}

/-- The subqueries of the condition of a relation are those of its hops. -/
theorem subselects_condition (alone : ∀ around, treeSubselects around inner = []) (negated : Bool) :
    (relation.condition m negated inner).subselects (written m.table) =
      (relation.hops m).map subselect := by
  unfold condition hops
  cases relation.bridge? with
  | none => simp [Condition.subselects, alone, subselect]
  | some bridge => simp [Condition.subselects, treeSubselects, alone, subselect]

theorem worded_condition (worded : relation.Worded m) (inside : TreeWorded inner) (negated : Bool) :
    (relation.condition m negated inner).Worded := by
  obtain ⟨solid, undotted⟩ := worded
  unfold tables outerKeys at solid
  unfold outerKeys at undotted
  unfold condition
  cases between : relation.bridge? with
  | none =>
    rw [between] at solid undotted
    refine ⟨?_, undotted _ List.mem_cons_self, inside⟩
    simp only [List.forall_mem_cons, List.forall_mem_append] at solid ⊢
    exact ⟨solid.1.2.1, solid.1.1, solid.2.1, fun _ h => nomatch h⟩
  | some bridge =>
    rw [between] at solid undotted
    simp only [Option.map_some, Option.toList_some, List.forall_mem_cons,
      List.forall_mem_append] at solid undotted
    obtain ⟨⟨owner, target, middle, -⟩, localKey, key, -⟩ := solid
    have outermost : ∀ name ∈ [bridge.table, m.table, relation.localKey], ' ' ∉ written name := by
      simpa using ⟨middle, owner, localKey⟩
    have innermost : ∀ name ∈ [relation.targetTable, bridge.table, bridge.key],
        ' ' ∉ written name := by
      simpa using ⟨target, middle, key⟩
    exact ⟨outermost, undotted.1, ⟨innermost, undotted.2.1, inside⟩, trivial⟩

end Relation

namespace Query

variable {registry : Registry} {name : String} {relation : Relation} {tree : ConditionTree}

/-- **Captured correlations.** Whatever a query asks already, a filter by a relation whose callback
asks no further table is made. Its text is refused for a name, or the filter has added to it the
subqueries of the hops of the relation, and then all correlations refer to the query around exactly
when those before did and no hop ends at a table that is named by its beginning. -/
theorem uncaptured_iff {c : Catalogue} (compiled : c.compile = .ok registry) {q : Query}
    (mem : q.model ∈ registry.models) (declared : q.model.relation name = .ok relation)
    (worded : relation.Worded q.model) (conditions : TreeWorded q.conditions)
    (having : treeTables q.having = []) (callback : treeTables tree = []) :
    ∀ filtered ∈ [q.whereHas registry name tree, q.whereDoesntHave registry name tree],
      ∃ asked, filtered = .ok asked ∧ ∀ types, Sql.Yields (fun rendered =>
        Sql.subselects (written q.model.table) [] [] rendered.sql.toList =
            treeSubselects (written q.model.table) q.conditions ++
              (relation.hops q.model).map Relation.subselect ∧
          (Sql.Uncaptured q.model.table rendered.sql ↔
            (∀ s ∈ treeSubselects (written q.model.table) q.conditions, s.RefersOut) ∧
              ∀ hop ∈ relation.hops q.model, ¬ Sql.Names (written hop.1) (written hop.2)))
        (Sql.render types (.select asked.statement)) := by
  obtain ⟨target, resolves⟩ := Catalogue.resolves compiled mem declared
  have inside (around : List Char) :=
    targetConditions_alone target relation.targetTable callback around
  have made : ∀ filtered ∈ [q.whereHas registry name tree, q.whereDoesntHave registry name tree],
      ∃ negated, filtered = .ok (q.filter (relation.condition q.model negated
        (targetConditions target relation.targetTable tree))) := by
    unfold whereHas whereDoesntHave
    rw [relatedCondition_eq declared resolves, relatedCondition_eq declared resolves]
    simp only [List.forall_mem_cons]
    exact ⟨⟨false, rfl⟩, ⟨true, rfl⟩, fun _ h => nomatch h⟩
  intro filtered either
  obtain ⟨negated, rfl⟩ := made filtered either
  refine ⟨_, rfl, fun types => ?_⟩
  have condition := Relation.worded_condition worded (inside []).2 negated
  obtain ⟨same, wordedAll⟩ := scopedConditions_filter q conditions condition (written q.model.table)
  rw [Relation.subselects_condition (fun around => (inside around).1)] at same
  refine (Sql.subselects_select types wordedAll having).mono fun rendered read => ?_
  have found := (read (written q.model.table)).trans same
  refine ⟨found, ?_⟩
  unfold Sql.Uncaptured
  rw [found, List.forall_mem_append, List.forall_mem_map]
  exact and_congr_right fun _ => forall₂_congr fun hop _ => Relation.refersOut_subselect hop

/-- The orders with a named tag. -/
def namedTags : Query :=
  shopOrder.query.filter (shopTags.condition shopOrder false [(.and, .notNull "name")])

/-- The text that selects them. -/
def namedTagsText : Sql.Rendered :=
  ⟨"SELECT orders.* FROM orders WHERE EXISTS (SELECT 1 FROM order_tags WHERE " ++
    "order_tags.order_id = orders.id AND (EXISTS (SELECT 1 FROM tags WHERE " ++
    "tags.tag_id = order_tags.tag_id AND (name IS NOT NULL)))) AND orders.deleted_at IS NULL", []⟩

theorem uncaptured_namedTags :
    shopTags.Worded shopOrder ∧
      shopOrder.query.whereHas shopRegistry "tags" [(.and, .notNull "name")] = .ok namedTags ∧
      Sql.render {} (.select namedTags.statement) = .ok namedTagsText ∧
      Sql.Uncaptured shopOrder.table namedTagsText.sql := by
  have worded : shopTags.Worded shopOrder := ⟨by decide, by decide⟩
  have mem : shopOrder ∈ shopRegistry.models := List.mem_of_mem_tail (List.head_mem _)
  have declared : shopOrder.relation "tags" = .ok shopTags := rfl
  have asks : shopOrder.query.whereHas shopRegistry "tags" [(.and, .notNull "name")] =
      .ok namedTags := rfl
  have renders : Sql.render {} (.select namedTags.statement) = .ok namedTagsText :=
    Except.eq_ok_of_toOption (by decide +kernel)
  have apart : ∀ hop ∈ shopTags.hops shopOrder, ¬ Sql.Names (written hop.1) (written hop.2) := by
    decide +kernel
  have callback : treeTables [(.and, .notNull "name")] = [] := rfl
  obtain ⟨asked, made, text⟩ := uncaptured_iff shop_compiles (q := shopOrder.query) mem declared
    worded trivial rfl callback _ List.mem_cons_self
  obtain rfl : namedTags = asked := Except.ok.inj (asks.symm.trans made)
  have yields := text {}
  rw [renders] at yields
  exact ⟨worded, asks, renders, yields.2.2 ⟨fun _ h => (nomatch h), apart⟩⟩

end Query

/-- Categories with their subcategories. -/
def family : Catalogue :=
  { schemas :=
      [{ name := "Category", table := some "categories"
         relations :=
           { hasMany := [{ entity := "Category", name := some "children",
                           foreignKey := some "parent_id" }] }
         traits := { timestamps := false } }] }

def familyRegistry : Registry :=
  family.compile.toOption.getD {}

/-- The entity of the categories. -/
def category : Model :=
  familyRegistry.models.head (by decide)

namespace Query

/-- The text that asks for categories with a subcategory. -/
def childrenText : Sql.Rendered :=
  ⟨"SELECT categories.* FROM categories WHERE EXISTS (SELECT 1 FROM categories WHERE " ++
    "categories.parent_id = categories.id)", []⟩

/-- Its correlation compares two columns of the subcategory. -/
theorem captured_children : ∃ asked,
    category.query.whereHas familyRegistry "children" [] = .ok asked ∧
      Sql.render {} (.select asked.statement) = .ok childrenText ∧
      ¬ Sql.Uncaptured category.table childrenText.sql :=
  ⟨_, rfl, Except.eq_ok_of_toOption (by decide +kernel), by decide +kernel⟩

end Query

end EntityStore
