import EntityStore.Proofs.Compiled
import EntityStore.Proofs.FindByKey
import EntityStore.Proofs.Shown

/-!
# Loading relations with the rows of a query

Relations are loaded by further queries, so that fetching rows with them may fail where a relation
is not declared or leads nowhere. Where they resolve (`Query.Loadable`), as all declared relations
do in a compiled registry (`Query.loadable_of_compiled`), a query is answered on every open handle
(`Query.answers_get`): with the rows of its statement, each with the relations loaded with it, and
nothing is written.
-/

namespace EntityStore

/-- On an open handle the task ends with an answer and leaves the engine as it is. -/
def Task.Reads {α : Type} (work : Task α) (db : Database) : Prop :=
  ∀ s store, s.engine.storeOf db.handle = .ok store →
    work.Answers db s fun _ s' => s'.engine = s.engine

namespace Task.Reads

variable {α β : Type} {db : Database}

theorem pure (a : α) : Reads (Pure.pure a : Task α) db :=
  fun _ _ _ => .pure rfl

theorem select (statement : Select) : (Task.select statement).Reads db :=
  fun _ _ opened => (Task.Answers.select opened statement).mono fun _ _ => And.right

theorem bind {work : Task α} {next : α → Task β} (first : work.Reads db)
    (rest : ∀ a, (next a).Reads db) : (work >>= next).Reads db := by
  intro s store opened
  refine Answers.bind (first s store opened) fun a s' same => ?_
  have reopened : s'.engine.storeOf db.handle = .ok store := by rw [same, opened]
  exact (rest a s' store reopened).mono fun _ _ => (·.trans same)

/-- Selections only read, and so does what is put together from them. -/
theorem selection : Task.SelectionProperty (· = db) (·.Reads db) where
  pure := .pure
  select := .select
  bind := .bind
  database rest := rest db rfl

end Task.Reads

namespace Query

/-- The relations that the query names are declared and resolve. -/
def Loadable (q : Query) (registry : Registry) : Prop :=
  ∀ name ∈ q.loads, ∃ relation, q.model.relation name = .ok relation ∧
    ∃ target, registry.Resolves relation target

theorem loadable_of_loads {q : Query} (unloaded : q.loads = []) (registry : Registry) :
    q.Loadable registry := by
  intro name mem
  rw [unloaded] at mem
  cases mem

/-- The declared relations of a model of a compiled registry can be loaded. -/
theorem loadable_of_compiled {c : Catalogue} {registry : Registry}
    (compiled : c.compile = .ok registry) {q : Query} (mem : q.model ∈ registry.models)
    (declared : ∀ name ∈ q.loads, ∃ relation, q.model.relation name = .ok relation) :
    q.Loadable registry := by
  intro name named
  obtain ⟨relation, found⟩ := declared name named
  exact ⟨relation, found, Catalogue.resolves compiled mem found⟩

variable {q : Query} {db : Database} {s : Session} {store : Store}

theorem reads_loadRelations (loadable : q.Loadable db.registry) (owners : List Instance) :
    (q.model.loadRelations q.loads owners).Reads db := by
  refine Task.Reads.selection.loadRelations (fun name mem e dangles => ?_) owners
  obtain ⟨relation, declared, target, resolves⟩ := loadable name mem
  cases dangles with
  | undeclared missing =>
    rw [declared] at missing
    cases missing
  | named found missing =>
    rw [declared] at found
    cases found
    exact absurd missing (resolves.not_dangles rfl e)

/-- The instances are those of the rows, with no more than the relations that the query loads. -/
def OfRows (q : Query) (rows : List Row) (found : List Instance) : Prop :=
  found.map Instance.alone = rows.map (Instance.ofRow q.model) ∧
    (q.loads = [] → found = rows.map (Instance.ofRow q.model))

namespace OfRows

variable {rows : List Row} {found : List Instance}

theorem length (same : q.OfRows rows found) : found.length = rows.length := by
  have alone := congrArg List.length same.1
  rw [List.length_map, List.length_map] at alone
  exact alone

theorem append {more : List Row} {others : List Instance} (same : q.OfRows rows found)
    (behind : q.OfRows more others) : q.OfRows (rows ++ more) (found ++ others) := by
  refine ⟨?_, fun unloaded => ?_⟩
  · rw [List.map_append, List.map_append, same.1, behind.1]
  · rw [List.map_append, same.2 unloaded, behind.2 unloaded]

theorem take (same : q.OfRows rows found) (n : Nat) : q.OfRows (rows.take n) (found.take n) := by
  refine ⟨?_, fun unloaded => ?_⟩
  · rw [List.map_take, List.map_take, same.1]
  · rw [List.map_take, same.2 unloaded]

/-- An instance carries what its row does. -/
theorem id?_getElem? (same : q.OfRows rows found) (n : Nat) :
    (found[n]?).bind Instance.id? = (rows[n]?).bind (Store.keyOf? q.model.primaryKey) := by
  have there := congrArg (·[n]?) same.1
  simp only [List.getElem?_map] at there
  cases hrow : rows[n]? with
  | none =>
    rw [hrow, Option.map_none, Option.map_eq_none_iff] at there
    rw [there]
    rfl
  | some row =>
    rw [hrow, Option.map_some, Option.map_eq_some_iff] at there
    obtain ⟨i, found, alone⟩ := there
    rw [found]
    exact congrArg Instance.id? alone

end OfRows

/-- A query whose relations can be loaded answers the rows of its statement on every open handle,
and nothing is written. -/
theorem answers_get (loadable : q.Loadable db.registry)
    (opened : s.engine.storeOf db.handle = .ok store) :
    q.get.Answers db s fun found s' =>
      q.OfRows (store.select q.statement) found ∧ s'.engine = s.engine := by
  let rows := (store.select q.statement).map (Instance.ofRow q.model)
  have alone : rows.map Instance.alone = rows := by
    rw [List.map_map]
    rfl
  obtain ⟨fetched, same, ran⟩ := run_fetch q opened
  have first : q.fetch.Answers db s fun a s' => a = rows ∧ s'.engine = s.engine :=
    ⟨rows, fetched, ran, rfl, same⟩
  refine first.bind fun a s' ⟨found, same⟩ => ?_
  subst found
  split
  · exact .pure ⟨⟨alone, fun _ => rfl⟩, same⟩
  · have reopened : s'.engine.storeOf db.handle = .ok store := by rw [same, opened]
    obtain ⟨loaded, s'', answered, kept⟩ := reads_loadRelations loadable rows s' store reopened
    refine ⟨loaded, s'', answered, ⟨?_, fun unloaded => ?_⟩, kept.trans same⟩
    · rw [q.model.yields_loadRelations q.loads db rows s' loaded (by rw [answered]), alone]
    · rw [unloaded] at answered
      exact (Except.ok.inj (congrArg Prod.fst answered)).symm

/-- Customers can be had with their orders. -/
theorem loadable_orders {q : Query} (customers : q.model = shopCustomer)
    (orders : q.loads = ["orders"]) : q.Loadable shopRegistry := by
  have mem : q.model ∈ shopRegistry.models := by
    rw [customers]
    exact List.head_mem _
  refine loadable_of_compiled shop_compiles mem fun name named => ?_
  rw [orders, List.mem_singleton] at named
  rw [named, customers]
  exact ⟨shopOrders, rfl⟩

end Query

end EntityStore
