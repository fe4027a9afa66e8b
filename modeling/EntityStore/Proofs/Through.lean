import EntityStore.Proofs.Traversal

/-!
# Relations through an entity

A relation through an entity is followed by way of one row between: the first in key order of those
that point at the owner and are not in the trash (`Intermediate.first?`). Asking for the relation
looks behind all rows between. So asking finds whatever following finds, and the two agree where at
most one row points at the owner. Main result: `Query.followsFirst`; a customer whose second order
is paid shows the difference (`Query.not_hasFollowsRelated_paidLater`).
-/

namespace EntityStore

namespace Intermediate

/-- The rows between that point at the owner of a key. -/
def pointing (step : Intermediate) (store : Store) (key : Value) : List Row :=
  (store.rows step.table).filter fun middle => (middle.value step.ownerKey).looseEq key

/-- The row between by which a relation is followed: the first in key order of those in sight. -/
def first? (step : Intermediate) (store : Store) (steps : Model) (key : Value) : Option Row :=
  (store.select ((steps.query.whereEq step.ownerKey key).orderedBy
    steps.query.qualifiedKey .asc).statement).head?

variable {step : Intermediate} {store : Store} {steps : Model} {key : Value}

section

variable (table : steps.table = step.table) (plain : '.' ∉ step.ownerKey.toList)
  (undotted : ∀ row ∈ store.rows steps.table, row.Undotted)

include table plain undotted

/-- The row that is followed points at the owner and is in sight. -/
theorem mem_of_first? {middle : Row} (first : step.first? store steps key = some middle) :
    middle ∈ step.pointing store key ∧ steps.shows middle = true := by
  have answered := (Query.mem_select_whereEq steps plain key
    [.column steps.query.qualifiedKey .asc] undotted).1 (List.mem_of_head? first)
  obtain ⟨hrow, carried⟩ := answered
  rw [Bool.and_eq_true] at carried
  exact ⟨List.mem_filter.2 ⟨table ▸ hrow, carried.1⟩, carried.2⟩

/-- No row is followed when none in sight points at the owner. -/
theorem not_shows_of_first? (none : step.first? store steps key = none) {middle : Row}
    (points : middle ∈ step.pointing store key) : steps.shows middle = false := by
  obtain ⟨hrow, carries⟩ := List.mem_filter.1 points
  rw [← table] at hrow
  cases shown : steps.shows middle with
  | false => rfl
  | true =>
    have answered := (Query.mem_select_whereEq steps plain key
      [.column steps.query.qualifiedKey .asc] undotted).2 ⟨hrow, by rw [carries, shown]; rfl⟩
    exact absurd (List.head?_eq_none_iff.1 none) (List.ne_nil_of_mem answered)

/-- Without a key of the owner no row is followed. -/
theorem first?_null : step.first? store steps .null = none := by
  cases first : step.first? store steps .null with
  | none => rfl
  | some middle =>
    have points := (mem_of_first? table plain undotted first).1
    rw [pointing, List.mem_filter, Value.looseEq_null] at points
    exact nomatch points.2

end

end Intermediate

namespace Instance

open Related (leads)

variable {db : Database} {s : Session} {store : Store} {registry : Registry} {relation : Relation}
  {target steps : Model} {step : Intermediate} (resolves : registry.Resolves relation target)
  (known : db.registry = registry) (opened : s.engine.storeOf db.handle = .ok store)
  (plain : '.' ∉ relation.foreignKey.toList)
  (undotted : ∀ row ∈ store.rows target.table, row.Undotted)

include resolves known opened plain undotted

/-- What is fetched for the key of a row between. -/
theorem leads_behind (i : Instance) (key : Value) :
    leads ((do
      let query ← relation.targetQuery
      let rows := query.whereEq relation.foreignKey key
      match relation.cardinality with
      | .many => return .many (← rows.fetch)
      | .one =>
        i.found relation (noTarget relation key)
          (← (rows.orderedBy rows.qualifiedKey .asc).fetchFirst) : Task (Related Instance)) db s).1 =
      target.finds store relation.foreignKey key := by
  rw [Work.run_bind, run_targetQuery resolves known]
  dsimp only
  cases relation.cardinality with
  | many =>
    obtain ⟨s', -, ran⟩ :=
      Query.run_fetch (target.query.whereEq relation.foreignKey key) opened
    dsimp only
    rw [Work.run_bind, ran, ← Query.select_whereEq_nonempty target plain key [] undotted]
    change (!(List.map _ _).isEmpty) = _
    rw [List.isEmpty_map]
    rfl
  | one =>
    obtain ⟨s', -, ran⟩ := Query.run_fetchFirst
      ((target.query.whereEq relation.foreignKey key).orderedBy
        (target.query.whereEq relation.foreignKey key).qualifiedKey .asc)
      ⟨rfl, rfl, rfl, rfl, rfl⟩ opened
    dsimp only
    rw [Work.run_bind, ran]
    refine (leads_found i relation _ _ _).trans ?_
    exact Query.select_whereEq_nonempty target plain key _ undotted

/-- Following a relation through an entity leads to a row when the key of the first row between is
found. -/
theorem leads_through (hstep : relation.through = some step)
    (found : registry.get step.entity = .ok steps) (table : steps.table = step.table)
    (ownerKey : '.' ∉ step.ownerKey.toList)
    (middles : ∀ row ∈ store.rows steps.table, row.Undotted) (i : Instance) :
    leads (i.through relation db s).1 =
      (step.first? store steps (i.attributes.value relation.localKey)).any fun middle =>
        target.finds store relation.foreignKey (middle.value step.primaryKey) := by
  unfold through
  simp only [Work.run_bind, Work.run_ofExcept, Relation.requireThrough, hstep, Work.run_database,
    known, found]
  rcases i.ownerKey_cases relation with ⟨none, null⟩ | key
  · rw [none, null, Intermediate.first?_null table ownerKey middles]
    rfl
  · obtain ⟨s', sameEngine, ran⟩ := Query.run_fetchFirst
      ((steps.query.whereEq step.ownerKey (i.attributes.value relation.localKey)).orderedBy
        steps.query.qualifiedKey .asc) ⟨rfl, rfl, rfl, rfl, rfl⟩ opened
    simp only [key, ran]
    unfold Intermediate.first?
    cases List.head? _ with
    | none => rfl
    | some middle =>
      rw [← sameEngine] at opened
      exact leads_behind resolves known opened plain undotted i (middle.value step.primaryKey)

end Instance

namespace Query

open Related (leads)

variable {registry : Registry} {m steps target : Model} {name : String} {relation : Relation}
  {step : Intermediate} {store : Store}

/-- How asking for a relation through an entity compares with following it from the row of an owner:
`led` says that following leads to a row, `asked` that asking keeps the owner. -/
structure FollowsFirst (relation : Relation) (step : Intermediate) (steps target : Model)
    (store : Store) (owner : Row) (led asked : Bool) : Prop where
  /-- Following looks behind the first row between. -/
  first : led = (step.first? store steps (owner.value relation.localKey)).any fun middle =>
    target.finds store relation.foreignKey (middle.value step.primaryKey)
  /-- That row points at the owner and is in sight. -/
  chosen : ∀ middle, step.first? store steps (owner.value relation.localKey) = some middle →
    middle ∈ step.pointing store (owner.value relation.localKey) ∧ steps.shows middle = true
  /-- There is one unless every row that points at the owner is in the trash. -/
  missing : step.first? store steps (owner.value relation.localKey) = none →
    ∀ middle ∈ step.pointing store (owner.value relation.localKey), steps.shows middle = false
  /-- What is found by following is found by asking. -/
  covered : led = true → asked = true
  /-- Asking looks behind all rows between when none of them is in the trash. -/
  all : (∀ middle ∈ step.pointing store (owner.value relation.localKey),
      steps.shows middle = true) →
    asked = (step.pointing store (owner.value relation.localKey)).any fun middle =>
      target.finds store relation.foreignKey (middle.value step.primaryKey)
  /-- The two agree when there is at most one. -/
  single : (∀ middle ∈ step.pointing store (owner.value relation.localKey),
      steps.shows middle = true) →
    (step.pointing store (owner.value relation.localKey)).length ≤ 1 → asked = led

/-- Looking behind the first row between, or behind all of them. -/
theorem FollowsFirst.of_behind {owner : Row} {led asked : Bool} (table : steps.table = step.table)
    (ownerKey : '.' ∉ step.ownerKey.toList)
    (undotted : ∀ row ∈ store.rows steps.table, row.Undotted)
    (first : led = (step.first? store steps (owner.value relation.localKey)).any fun middle =>
      target.finds store relation.foreignKey (middle.value step.primaryKey))
    (all : asked = (step.pointing store (owner.value relation.localKey)).any fun middle =>
      target.finds store relation.foreignKey (middle.value step.primaryKey)) :
    FollowsFirst relation step steps target store owner led asked := by
  refine ⟨first, fun _ => Intermediate.mem_of_first? table ownerKey undotted,
    fun none _ => Intermediate.not_shows_of_first? table ownerKey undotted none,
    fun follows => ?_, fun _ => all, fun shown short => ?_⟩
  · rw [first, Option.any_eq_true] at follows
    obtain ⟨middle, chosen, behind⟩ := follows
    have points := (Intermediate.mem_of_first? table ownerKey undotted chosen).1
    rw [all]
    exact List.any_eq_true.2 ⟨middle, points, behind⟩
  · rw [first, all]
    cases chosen : step.first? store steps (owner.value relation.localKey) with
    | none =>
      rw [Option.any_none, List.any_eq_false]
      intro middle points
      have hidden := Intermediate.not_shows_of_first? table ownerKey undotted chosen points
      exact absurd (shown middle points) (by rw [hidden]; decide)
    | some middle =>
      have points := (Intermediate.mem_of_first? table ownerKey undotted chosen).1
      have only : step.pointing store (owner.value relation.localKey) = [middle] := by
        match h : step.pointing store (owner.value relation.localKey), short with
        | [], _ => rw [h] at points; cases points
        | [_], _ => rw [h] at points; rw [List.mem_singleton.1 points]
      rw [only]
      simp

/-- **Relations through an entity.** Following looks behind the first row between that points at the
owner; asking keeps every owner from which following leads to a row, and while no row between is in
the trash it looks behind all of them. -/
theorem followsFirst {c : Catalogue} (compiled : c.compile = .ok registry)
    (mem : m ∈ registry.models) (declared : m.relation name = .ok relation)
    (through : relation.mechanism = .through) (hstep : relation.through = some step)
    (between : registry.get step.entity = .ok steps)
    (found : registry.get relation.targetEntity = .ok target)
    (apart : relation.Apart store m target []) (db : Database) (s : Session)
    (known : db.registry = registry) (opened : s.engine.storeOf db.handle = .ok store) :
    ∃ (all : List Instance) (asked : Instance → Bool), (m.query.get db s).1 = .ok all ∧
      ((m.query.whereHas registry name []).bind fun has => (has.get db s).1) =
        .ok (all.filter asked) ∧
      ∀ i ∈ all, FollowsFirst relation step steps target store i.attributes
        (leads (i.related name db s).1) (asked i) := by
  obtain ⟨target', resolves⟩ := Catalogue.resolves compiled mem declared
  cases Except.ok.inj (resolves.found.symm.trans found)
  obtain ⟨step', steps', hstep', between', table, -⟩ := resolves.through through
  cases Option.some.inj (hstep'.symm.trans hstep)
  cases Except.ok.inj (between'.symm.trans between)
  have bridged : relation.bridge? = some ⟨step.table, step.ownerKey, step.primaryKey⟩ := by
    unfold Relation.bridge?
    rw [through, hstep]
    rfl
  have ownerKey : '.' ∉ step.ownerKey.toList :=
    apart.keys _ (by simp [Relation.innerKeys, bridged])
  have middles : ∀ row ∈ store.rows steps.table, row.Undotted := by
    rw [table]
    exact apart.undotted _ (by simp [Relation.tables, bridged])
  have targets : ∀ row ∈ store.rows target.table, row.Undotted := by
    rw [resolves.table]
    exact apart.undotted _ (List.mem_cons_of_mem _ List.mem_cons_self)
  refine ⟨_, fun i => relation.reaches store target [] i.attributes, run_get m.query rfl opened,
    get_whereHas resolves declared apart rfl opened, fun i hi => ?_⟩
  obtain ⟨row, -, rfl⟩ := List.mem_map.1 hi
  have led : leads ((Instance.ofRow m row).related name db s).1 =
      (step.first? store steps (row.value relation.localKey)).any fun middle =>
        target.finds store relation.foreignKey (middle.value step.primaryKey) := by
    unfold Instance.related
    rw [Work.run_bind, Work.run_ofExcept, show (Instance.ofRow m row).model.relation name = _ from
      declared]
    dsimp only
    rw [through]
    exact Instance.leads_through resolves known opened (apart.keys _ List.mem_cons_self) targets
      hstep between table ownerKey middles (Instance.ofRow m row)
  have asked : relation.reaches store target [] row =
      (step.pointing store (row.value relation.localKey)).any fun middle =>
        target.finds store relation.foreignKey (middle.value step.primaryKey) := by
    rw [resolves.reaches_bridged bridged, Intermediate.pointing, List.any_filter]
  exact .of_behind table ownerKey middles led asked

/-- The relation of the customers to the payments of their orders. -/
def shopPayments : Relation :=
  shopCustomer.relations.tail.head (by decide)

/-- The orders as a row between a customer and her payments. -/
def shopOrderStep : Intermediate :=
  ⟨"Order", "orders", "id", "customer_id"⟩

/-- The entity of the payments. -/
def shopPayment : Model :=
  shopRegistry.models.tail.tail.head (by decide)

/-- Three customers: one has a paid order, one an order that is not paid, and one has no order. -/
def paidOrders : Store :=
  { tables :=
      [("customers", [.ofFields [("id", .int 1)], .ofFields [("id", .int 2)],
        .ofFields [("id", .int 3)]]),
       ("orders",
        [.ofFields [("customer_id", .int 1), ("deleted_at", .null), ("id", .int 5)],
         .ofFields [("customer_id", .int 2), ("deleted_at", .null), ("id", .int 6)]]),
       ("payments", [.ofFields [("id", .int 1), ("order_id", .int 5)]])] }

theorem followsFirst_paidOrders :
    shopPayments.mechanism = .through ∧ shopPayments.through = some shopOrderStep ∧
    shopPayments.Apart paidOrders shopCustomer shopPayment [] ∧
    ∃ (all : List Instance) (asked : Instance → Bool),
      (shopCustomer.query.get { registry := shopRegistry }
        { engine := { shared := paidOrders }, clock := ⟨0⟩ }).1 = .ok all ∧
      ((shopCustomer.query.whereHas shopRegistry "payments" []).bind fun has =>
        (has.get { registry := shopRegistry }
          { engine := { shared := paidOrders }, clock := ⟨0⟩ }).1) = .ok (all.filter asked) ∧
      ∀ i ∈ all, FollowsFirst shopPayments shopOrderStep shopOrder shopPayment paidOrders
        i.attributes (leads (i.related "payments" { registry := shopRegistry }
          { engine := { shared := paidOrders }, clock := ⟨0⟩ }).1) (asked i) := by
  have apart : shopPayments.Apart paidOrders shopCustomer shopPayment [] :=
    ⟨by decide, by decide, by decide, by decide⟩
  have mem : shopCustomer ∈ shopRegistry.models := List.head_mem _
  have declared : shopCustomer.relation "payments" = .ok shopPayments := rfl
  exact ⟨rfl, rfl, apart, followsFirst shop_compiles mem declared rfl rfl rfl rfl apart
    { registry := shopRegistry } { engine := { shared := paidOrders }, clock := ⟨0⟩ } rfl rfl⟩

/-- A customer with two orders, of which the second one is paid. -/
def paidLater : Store :=
  { tables :=
      [("customers", [.ofFields [("id", .int 1)]]),
       ("orders",
        [.ofFields [("customer_id", .int 1), ("id", .int 1)],
         .ofFields [("customer_id", .int 1), ("id", .int 2)]]),
       ("payments", [.ofFields [("id", .int 1), ("order_id", .int 2)]])] }

/-- Asking finds the payment of the second order, following stops at the first. -/
theorem not_hasFollowsRelated_paidLater :
    ¬ HasFollowsRelated shopCustomer shopRegistry "payments" paidLater := by
  intro follows
  let db : Database := { registry := shopRegistry }
  let s : Session := { engine := { shared := paidLater }, clock := ⟨0⟩ }
  obtain ⟨all, got, kept⟩ := follows db s rfl rfl
  have none : (all.filter fun i => leads (i.related "payments" db s).1).length = 0 := by
    rw [← Except.ok.inj got]
    decide +kernel
  have one := congrArg (fun answer => (answer.toOption.map List.length).getD 0) kept
  exact absurd (one.trans none) (by decide +kernel)

end Query

end EntityStore
