import EntityStore.Proofs.Conditions
import EntityStore.Proofs.Declared
import EntityStore.Proofs.Trash

/-!
# Filtering by related rows

`whereHas` asks for rows from which a relation leads to a row of the given conditions. What that
means is said here by the values that rows carry: a relation links rows by its keys, straight or by
way of the rows of a table between (`Relation.connects`), and reaches what a plain selection on the
target table answers, less the trash (`Relation.reaches`).

The condition of a relation is evaluated in nested scopes, where a column that the inner row does
not carry shows a row around it. Where rows are apart (`Relation.Apart`) the filter keeps exactly
the rows that reach something. Main result: `Query.filtersRelated`; two orders and their customer
show what goes wrong where they are not (`Query.not_filtersRelated_nameless`).
-/

namespace EntityStore

/-- The table between an owner and the rows of a relation: `ownerKey` holds the key of the owner,
`key` meets the foreign key of the relation. -/
structure Bridge where
  table : String
  ownerKey : String
  key : String
deriving DecidableEq

/-- The row is not in a trash that the entity has. -/
def Model.shows (m : Model) (row : Row) : Bool :=
  !(m.traits.softDeletes && row.isTrashed)

theorem any_congr_of_mem {α : Type} {items : List α} {p q : α → Bool}
    (same : ∀ a ∈ items, p a = q a) : items.any p = items.any q := by
  rw [Bool.eq_iff_iff, List.any_eq_true, List.any_eq_true]
  exact exists_congr fun a => and_congr_right fun ha => by rw [same a ha]

namespace Relation

/-- The table between, if the mechanism has one. -/
def bridge? (r : Relation) : Option Bridge :=
  match r.mechanism with
  | .belongsTo | .hasMany | .hasOne => none
  | .belongsToMany => r.pivot.map fun pivot => ⟨pivot.table, pivot.ownerKey, pivot.relatedKey⟩
  | .through => r.through.map fun step => ⟨step.table, step.ownerKey, step.primaryKey⟩

/-- The keys of the relation link the row to the owner. -/
def connects (r : Relation) (store : Store) (owner row : Row) : Bool :=
  match r.bridge? with
  | none => (row.value r.foreignKey).looseEq (owner.value r.localKey)
  | some bridge => (store.rows bridge.table).any fun middle =>
    (middle.value bridge.ownerKey).looseEq (owner.value r.localKey) &&
      (row.value r.foreignKey).looseEq (middle.value bridge.key)

/-- Among the rows that a plain selection of the conditions answers, one is linked to the owner and
not in the trash. -/
def reaches (r : Relation) (store : Store) (target : Model) (tree : ConditionTree) (owner : Row) :
    Bool :=
  (store.select { table := r.targetTable, conditions := tree }).any fun row =>
    target.shows row && r.connects store owner row

/-- The condition of a relation on a row of its owner, where `inner` are the conditions on the rows
that it leads to. -/
def condition (r : Relation) (owner : Model) (negated : Bool) (inner : ConditionTree) : Condition :=
  match r.bridge? with
  | none => .related negated r.targetTable ⟨r.foreignKey, owner.table, r.localKey⟩ inner
  | some bridge => .related negated bridge.table ⟨bridge.ownerKey, owner.table, r.localKey⟩
      [(.and, .related false r.targetTable ⟨r.foreignKey, bridge.table, bridge.key⟩ inner)]

/-- The tables whose rows the condition of a relation looks at. -/
def tables (r : Relation) (owner : Model) : List String :=
  owner.table :: r.targetTable :: (r.bridge?.map (·.table)).toList

/-- The columns that the condition of a relation compares with one of an outer row. -/
def innerKeys (r : Relation) : List String :=
  r.foreignKey :: (r.bridge?.map (·.ownerKey)).toList

/-- The scopes in which the rows that the relation leads to are looked at. -/
def sights (r : Relation) (store : Store) (owner : Model) (row : Row) : List Scope :=
  match r.bridge? with
  | none => [.ofRow owner.table row]
  | some bridge => (store.rows bridge.table).map ((Scope.ofRow owner.table row).nested bridge.table)

/-- Rows show in the subqueries of a relation what they show alone: no name has a dot of its own,
and a column that a row does not carry shows nothing around it. -/
structure Apart (r : Relation) (store : Store) (owner target : Model) (tree : ConditionTree) :
    Prop where
  keys : ∀ key ∈ r.innerKeys, '.' ∉ key.toList
  undotted : ∀ table ∈ r.tables owner, ∀ row ∈ store.rows table, row.Undotted
  between : ∀ row ∈ store.rows owner.table, ∀ bridge ∈ r.bridge?,
    ∀ middle ∈ store.rows bridge.table, (Scope.ofRow owner.table row).Apart bridge.table middle
      [bridge.ownerKey, qualified bridge.table bridge.key]
  related : ∀ row ∈ store.rows owner.table, ∀ sight ∈ r.sights store owner row,
    ∀ found ∈ store.rows r.targetTable, sight.Apart r.targetTable found
      (r.foreignKey :: treeColumnNames (Query.targetConditions target r.targetTable tree))

end Relation

namespace Query

variable {registry : Registry} {m target : Model} {name : String} {relation : Relation}
  {store : Store} {tree : ConditionTree}

/-- Where a relation resolves, its condition is made. -/
theorem relatedCondition_eq (declared : m.relation name = .ok relation)
    (resolves : registry.Resolves relation target) (negated : Bool) :
    relatedCondition registry m name negated tree = .ok (relation.condition m negated
      (targetConditions target relation.targetTable tree)) := by
  have found := resolves.found
  unfold relatedCondition
  change (m.relation name >>= fun _ => _) = _
  rw [declared]
  change (registry.get relation.targetEntity >>= fun _ => _) = _
  rw [found]
  change (match relation.mechanism with
    | .belongsTo | .hasMany | .hasOne => _
    | .belongsToMany => _
    | .through => _) = _
  unfold Relation.condition Relation.bridge?
  cases mechanism : relation.mechanism with
  | belongsTo | hasMany | hasOne => rfl
  | belongsToMany =>
    obtain ⟨pivot, hpivot⟩ := resolves.pivot mechanism
    simp only [Relation.requirePivot, hpivot]
    rfl
  | through =>
    obtain ⟨step, _, hstep, -⟩ := resolves.through mechanism
    simp only [Relation.requireThrough, hstep]
    rfl

/-- The conditions on the rows of a relation say of a row alone: those of the caller hold, and the
row is not in the trash. -/
theorem satisfies_targetConditions (table : String) {row : Row} (undotted : row.Undotted) :
    store.satisfiesTree (.ofRow table row) (targetConditions target table tree) =
      (store.selects table tree row && target.shows row) := by
  unfold targetConditions Store.selects Model.shows
  cases soft : target.traits.softDeletes with
  | false => simp
  | true =>
    rw [if_pos rfl, Store.satisfiesTree_enclosed_also, Store.satisfies, deletedAt_qualified,
      Scope.lookup_ofRow_qualified _ _ undotted]
    simp [Row.isTrashed]

end Query

namespace Relation

variable {relation : Relation} {store : Store} {m target : Model} {tree : ConditionTree}

/-- A linked row is looked for among those that a plain selection answers. -/
theorem reaches_eq_any (relation : Relation) (store : Store) (target : Model) (tree : ConditionTree)
    (owner : Row) : relation.reaches store target tree owner =
      (store.rows relation.targetTable).any fun row =>
        store.selects relation.targetTable tree row && target.shows row &&
          relation.connects store owner row := by
  have whole : Select.Whole { table := relation.targetTable, conditions := tree } :=
    ⟨rfl, rfl, rfl, rfl, rfl⟩
  unfold reaches
  rw [store.select_unjoined whole rfl rfl, List.any_filter]
  simp only [Bool.and_assoc]

/-- Without a table between, the keys are compared with that of the owner. -/
theorem reaches_straight (straight : relation.bridge? = none) (owner : Row) :
    relation.reaches store target tree owner =
      (store.rows relation.targetTable).any fun found =>
        (found.value relation.foreignKey).looseEq (owner.value relation.localKey) &&
          (store.selects relation.targetTable tree found && target.shows found) := by
  rw [reaches_eq_any]
  unfold connects
  rw [straight]
  exact any_congr_of_mem fun found _ => Bool.and_comm _ _

/-- The search for a row and one between that links it may begin with the row between. -/
theorem reaches_bridged {bridge : Bridge} (bridged : relation.bridge? = some bridge) (owner : Row) :
    relation.reaches store target tree owner =
      (store.rows bridge.table).any fun middle =>
        (middle.value bridge.ownerKey).looseEq (owner.value relation.localKey) &&
          (store.rows relation.targetTable).any fun found =>
            (found.value relation.foreignKey).looseEq (middle.value bridge.key) &&
              (store.selects relation.targetTable tree found && target.shows found) := by
  rw [reaches_eq_any]
  unfold connects
  rw [bridged]
  apply Bool.eq_iff_iff.2
  simp only [List.any_eq_true, Bool.and_eq_true]
  constructor
  · rintro ⟨found, hfound, ⟨selected, shown⟩, middle, hmiddle, owned, linked⟩
    exact ⟨middle, hmiddle, owned, found, hfound, linked, selected, shown⟩
  · rintro ⟨middle, hmiddle, owned, found, hfound, linked, selected, shown⟩
    exact ⟨found, hfound, ⟨selected, shown⟩, middle, hmiddle, owned, linked⟩

/-- In a scope that they are apart from, the rows of the target table satisfy the innermost condition
of a relation as they do alone. -/
theorem satisfies_innermost (apart : relation.Apart store m target tree) {row : Row}
    (hrow : row ∈ store.rows m.table) {sight : Scope} (hsight : sight ∈ relation.sights store m row)
    (negated : Bool) (outerTable outerColumn : String) :
    store.satisfies sight (.related negated relation.targetTable
        ⟨relation.foreignKey, outerTable, outerColumn⟩
        (Query.targetConditions target relation.targetTable tree)) =
      (((store.rows relation.targetTable).any fun found =>
        (found.value relation.foreignKey).looseEq
            (sight.lookup (qualified outerTable outerColumn)) &&
          (store.selects relation.targetTable tree found && target.shows found)) != negated) := by
  have foreignKey : '.' ∉ relation.foreignKey.toList := apart.keys _ List.mem_cons_self
  have alone : ∀ found ∈ store.rows relation.targetTable,
      (((sight.nested relation.targetTable found).lookup relation.foreignKey).looseEq
            (sight.lookup (qualified outerTable outerColumn)) &&
          store.satisfiesTree (sight.nested relation.targetTable found)
            (Query.targetConditions target relation.targetTable tree)) =
        ((found.value relation.foreignKey).looseEq
            (sight.lookup (qualified outerTable outerColumn)) &&
          (store.selects relation.targetTable tree found && target.shows found)) := by
    intro found hfound
    have undotted : found.Undotted :=
      apart.undotted _ (List.mem_cons_of_mem _ List.mem_cons_self) found hfound
    have agree := (apart.related row hrow sight hsight found hfound).agree
    rw [agree _ List.mem_cons_self, Scope.lookup_ofRow _ _ foreignKey,
      Store.satisfiesTree_congr _ (fun _ _ => rfl) (agree.mono (List.subset_cons_self _ _)),
      Query.satisfies_targetConditions _ undotted]
  rw [Store.satisfies, any_congr_of_mem alone]

/-- Where rows are apart, the condition of a relation holds of a row that reaches something. -/
theorem satisfies_condition (apart : relation.Apart store m target tree) {row : Row}
    (hrow : row ∈ store.rows m.table) (negated : Bool) :
    store.satisfies (.ofRow m.table row) (relation.condition m negated
        (Query.targetConditions target relation.targetTable tree)) =
      (relation.reaches store target tree row != negated) := by
  have undotted : row.Undotted := apart.undotted _ List.mem_cons_self row hrow
  have sights := sights.eq_def relation store m row
  unfold condition
  cases between : relation.bridge? with
  | none =>
    rw [between] at sights
    have here : Scope.ofRow m.table row ∈ relation.sights store m row := by simp [sights]
    rw [reaches_straight between, satisfies_innermost apart hrow here,
      Scope.value_ofRow_qualified _ _ undotted]
  | some bridge =>
    rw [between] at sights
    have ownerKey : '.' ∉ bridge.ownerKey.toList :=
      apart.keys _ (by simp [innerKeys, between])
    have middles : ∀ middle ∈ store.rows bridge.table, middle.Undotted :=
      apart.undotted _ (by simp [tables, between])
    rw [reaches_bridged between, Store.satisfies]
    congr 1
    apply any_congr_of_mem
    intro middle hmiddle
    have agree := (apart.between row hrow bridge between middle hmiddle).agree
    have sight : (Scope.ofRow m.table row).nested bridge.table middle ∈
        relation.sights store m row := by
      rw [sights]
      exact List.mem_map_of_mem hmiddle
    rw [agree _ List.mem_cons_self, Scope.lookup_ofRow _ _ ownerKey,
      Scope.value_ofRow_qualified _ _ undotted, Store.satisfiesTree, Store.satisfiesRest,
      satisfies_innermost apart hrow sight, agree _ (List.mem_cons_of_mem _ List.mem_cons_self),
      Scope.value_ofRow_qualified _ _ (middles middle hmiddle), Bool.bne_false]

end Relation

namespace Query

variable {registry : Registry} {m target : Model} {name : String} {relation : Relation}
  {store : Store} {tree : ConditionTree} {conditions : ConditionTree} {scope : TrashScope}

/-- A further condition is asked of what the query selects already. -/
theorem selects_filter (store : Store) (q : Query) (plain : q.conditions.hasOr = false) (c : Condition)
    (table : String) (row : Row) :
    store.selects table (q.filter c).scopedConditions row =
      (store.selects table q.scopedConditions row && store.satisfies (.ofRow table row) c) := by
  have added := store.satisfiesTree_also (.ofRow table row) plain c
  unfold Store.selects scopedConditions filter
  dsimp only
  split
  · exact added
  · rw [Store.satisfiesTree_enclosed_also, Store.satisfiesTree_enclosed_also, added,
      Bool.and_right_comm]

/-- A query with a further condition answers those of its rows that satisfy it. -/
theorem get_filter (plain : conditions.hasOr = false) (c : Condition) {db : Database} {s : Session}
    (opened : s.engine.storeOf db.handle = .ok store) {holds : Row → Bool}
    (decided : ∀ row ∈ store.rows m.table, store.satisfies (.ofRow m.table row) c = holds row) :
    (((filtered m conditions [] scope).filter c).get db s).1 =
      .ok (((store.select (filtered m conditions [] scope).statement).map
        (Instance.ofRow m)).filter fun i => holds i.attributes) := by
  have whole : ((filtered m conditions [] scope).filter c).statement.Whole :=
    ⟨rfl, rfl, rfl, rfl, rfl⟩
  rw [run_get _ rfl opened, store.select_unjoined whole rfl rfl,
    store.select_unjoined (whole_filtered scope) rfl rfl, List.filter_map, List.filter_filter]
  congr 2
  apply List.filter_congr
  intro row hrow
  have both := selects_filter store (filtered m conditions [] scope) plain c m.table row
  rw [decided row hrow] at both
  exact both.trans (Bool.and_comm _ _)

section

variable (resolves : registry.Resolves relation target) (declared : m.relation name = .ok relation)
  (apart : relation.Apart store m target tree) (plain : conditions.hasOr = false)

include resolves declared apart plain

/-- A query that asks for a related row answers those of its rows that reach one. -/
theorem get_whereHas {db : Database} {s : Session}
    (opened : s.engine.storeOf db.handle = .ok store) :
    (((filtered m conditions [] scope).whereHas registry name tree).bind fun has =>
        (has.get db s).1) =
      .ok (((store.select (filtered m conditions [] scope).statement).map
        (Instance.ofRow m)).filter fun i => relation.reaches store target tree i.attributes) := by
  have decided (row : Row) (hrow : row ∈ store.rows m.table) :
      store.satisfies (.ofRow m.table row) (relation.condition m false
        (targetConditions target relation.targetTable tree)) =
        relation.reaches store target tree row :=
    (relation.satisfies_condition apart hrow false).trans (Bool.bne_false _)
  unfold whereHas
  rw [relatedCondition_eq (m := (filtered m conditions [] scope).model) declared resolves]
  exact get_filter plain _ opened decided

/-- A query that asks for the lack of related rows answers those of its rows that reach none. -/
theorem get_whereDoesntHave {db : Database} {s : Session}
    (opened : s.engine.storeOf db.handle = .ok store) :
    (((filtered m conditions [] scope).whereDoesntHave registry name tree).bind fun lacks =>
        (lacks.get db s).1) =
      .ok (((store.select (filtered m conditions [] scope).statement).map
        (Instance.ofRow m)).filter fun i => !relation.reaches store target tree i.attributes) := by
  have decided (row : Row) (hrow : row ∈ store.rows m.table) :
      store.satisfies (.ofRow m.table row) (relation.condition m true
        (targetConditions target relation.targetTable tree)) =
        !relation.reaches store target tree row :=
    (relation.satisfies_condition apart hrow true).trans (Bool.bne_true _)
  unfold whereDoesntHave
  rw [relatedCondition_eq (m := (filtered m conditions [] scope).model) declared resolves]
  exact get_filter plain _ opened decided

end

/-- `whereHas` keeps the answered rows from which the relation reaches a row of the tree, and
`whereDoesntHave` the others. -/
def FiltersRelated (q : Query) (registry : Registry) (name : String) (tree : ConditionTree)
    (store : Store) : Prop :=
  ∃ relation target,
    q.model.relation name = .ok relation ∧ registry.get relation.targetEntity = .ok target ∧
    ∀ (db : Database) (s : Session), s.engine.storeOf db.handle = .ok store →
      ∃ all, (q.get db s).1 = .ok all ∧
        ((q.whereHas registry name tree).bind fun has => (has.get db s).1) =
          .ok (all.filter fun i => relation.reaches store target tree i.attributes) ∧
        ((q.whereDoesntHave registry name tree).bind fun lacks => (lacks.get db s).1) =
          .ok (all.filter fun i => !relation.reaches store target tree i.attributes)

/-- **Filtering by related rows.** Whatever the tree, where no row shows in the subqueries of the
relation what it does not carry, `whereHas` keeps the rows that a row of the tree is linked to and
`whereDoesntHave` keeps the others. -/
theorem filtersRelated {c : Catalogue} (compiled : c.compile = .ok registry)
    (mem : m ∈ registry.models) (declared : m.relation name = .ok relation)
    (found : registry.get relation.targetEntity = .ok target) (tree : ConditionTree)
    (apart : relation.Apart store m target tree) (plain : conditions.hasOr = false)
    (scope : TrashScope) :
    FiltersRelated (filtered m conditions [] scope) registry name tree store := by
  obtain ⟨target', resolves⟩ := Catalogue.resolves compiled mem declared
  cases Except.ok.inj (resolves.found.symm.trans found)
  refine ⟨relation, target, declared, found, fun db s opened => ⟨_, run_get _ rfl opened, ?_, ?_⟩⟩
  · exact get_whereHas resolves declared apart plain opened
  · exact get_whereDoesntHave resolves declared apart plain opened

end Query

/-- Customers with their orders and, behind these, their payments; orders have a trash and tags. -/
def shop : Catalogue :=
  { schemas :=
      [{ name := "Customer", table := some "customers", attributes := [("name", {})]
         relations :=
           { hasMany := [{ entity := "Order", name := some "orders",
                           foreignKey := some "customer_id" }]
             hasManyThrough := [{ entity := "Payment", name := some "payments",
                                  foreignKey := some "order_id", through := some "Order",
                                  throughForeignKey := some "customer_id" }] }
         traits := { timestamps := false } },
       { name := "Order", table := some "orders", attributes := [("name", {})]
         relations :=
           { belongsToMany := [{ entity := "Tag", name := some "tags",
                                 pivotTable := some "order_tags",
                                 pivotForeignKey := some "order_id",
                                 pivotRelatedKey := some "tag_id" }] }
         traits := { timestamps := false, softDeletes := true } },
       { name := "Payment", table := some "payments", traits := { timestamps := false } },
       { name := "Tag", table := some "tags", primaryKey := some "tag_id",
         traits := { timestamps := false } }] }

def shopRegistry : Registry :=
  shop.compile.toOption.getD {}

theorem shop_compiles : shop.compile = .ok shopRegistry := rfl

/-- The entity of the customers. -/
def shopCustomer : Model :=
  shopRegistry.models.head (by decide)

/-- The relation of the customers to their orders. -/
def shopOrders : Relation :=
  shopCustomer.relations.head (by decide)

/-- The entity of the orders. -/
def shopOrder : Model :=
  shopRegistry.models.tail.head (by decide)

namespace Query

/-- Two customers; one has an order of her name, the other one of that name in the trash. -/
def namedOrders : Store :=
  { tables :=
      [("customers", [.ofFields [("id", .int 1), ("name", .text "Ada")],
        .ofFields [("id", .int 2), ("name", .text "Bob")]]),
       ("orders",
        [.ofFields [("customer_id", .int 1), ("deleted_at", .null), ("id", .int 1),
          ("name", .text "Ada")],
         .ofFields [("customer_id", .int 2), ("deleted_at", .text "2024-05-01"), ("id", .int 2),
          ("name", .text "Ada")]])] }

theorem filtersRelated_namedOrders :
    shopOrders.Apart namedOrders shopCustomer shopOrder
      [(.and, .compare "name" .eq (.text "Ada"))] ∧
    FiltersRelated (filtered shopCustomer [(.and, .notNull "name")] [] .untrashed) shopRegistry
      "orders" [(.and, .compare "name" .eq (.text "Ada"))] namedOrders := by
  have apart : shopOrders.Apart namedOrders shopCustomer shopOrder
      [(.and, .compare "name" .eq (.text "Ada"))] :=
    { keys := by decide
      undotted := by decide
      between := by decide
      related := by decide }
  have mem : shopCustomer ∈ shopRegistry.models := List.head_mem _
  have declared : shopCustomer.relation "orders" = .ok shopOrders := rfl
  exact ⟨apart, filtersRelated shop_compiles mem declared rfl _ apart rfl _⟩

/-- A customer and an order of hers that does not carry a name. -/
def namelessOrder : Store :=
  { tables :=
      [("customers", [.ofFields [("id", .int 1), ("name", .text "Ada")]]),
       ("orders", [.ofFields [("customer_id", .int 1), ("id", .int 1)]])] }

/-- A column that the related row does not carry shows the row of the owner. -/
theorem not_filtersRelated_nameless :
    ¬ FiltersRelated shopCustomer.query shopRegistry "orders"
      [(.and, .compare "name" .eq (.text "Ada"))] namelessOrder := by
  rintro ⟨relation, target, declared, found, answers⟩
  obtain rfl : shopOrders = relation := Except.ok.inj declared
  obtain rfl : shopOrder = target := Except.ok.inj found
  obtain ⟨all, got, kept, -⟩ := answers { registry := shopRegistry }
    { engine := { shared := namelessOrder }, clock := ⟨0⟩ } rfl
  have none : (all.filter fun i => shopOrders.reaches namelessOrder shopOrder
      [(.and, .compare "name" .eq (.text "Ada"))] i.attributes).length = 0 := by
    rw [← Except.ok.inj got]
    decide
  have one := congrArg (fun answer => (answer.toOption.map List.length).getD 0) kept
  exact absurd (one.trans none) (by decide +kernel)

end Query

end EntityStore
