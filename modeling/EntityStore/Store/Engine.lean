import EntityStore.Store.Select

/-!
# Transactions on a store

An engine is a shared store with the transactions opened on it. A transaction reads and writes a
copy of the store and keeps a journal of its writes; committing runs the journal again on the shared
store, so that what others wrote in the meantime stays. The keys of inserted rows are drawn from the
sequences of the shared store at once, and are not given back.
-/

namespace EntityStore

namespace Store

/-- The answer of a write: the keys of the inserted rows, or the number of changed rows. -/
inductive WriteAnswer where
  | inserted (keys : List Int)
  | changed (count : Nat)
deriving DecidableEq, Repr

namespace WriteAnswer

/-- The keys of the inserted rows. -/
def keys : WriteAnswer → List Int
  | .inserted keys => keys
  | .changed _ => []

/-- The number of changed rows. -/
def count : WriteAnswer → Nat
  | .inserted _ => 0
  | .changed n => n

def toValue : WriteAnswer → Value
  | .inserted keys => .list (keys.map Value.int)
  | .changed n => .int n

end WriteAnswer

/-- Runs a statement that changes rows. -/
def write (store : Store) : Write → Except Error (WriteAnswer × Store)
  | .insert statement => (store.insert statement).map fun (keys, store) => (.inserted keys, store)
  | .update statement => let (n, store) := store.update statement; .ok (.changed n, store)
  | .delete statement => let (n, store) := store.delete statement; .ok (.changed n, store)

/-- Runs a list of writes in order, up to the first that fails. -/
def replay (store : Store) : List Write → Except Error Store
  | [] => .ok store
  | w :: rest => (store.write w).bind fun (_, store) => store.replay rest

end Store

/-- A transaction: its view of the store, the writes made in it, and whether it has ended. -/
structure Transaction where
  working : Store
  journal : List Write := []
  finished : Bool := false
deriving Repr, Inhabited

/-- Where statements run: on the shared store, or in a transaction. -/
inductive Handle where
  | shared
  | transaction (index : Nat)
deriving DecidableEq, Repr

/-- A shared store and every transaction ever opened on it. -/
structure Engine where
  shared : Store := {}
  transactions : List Transaction := []
deriving Repr, Inhabited

namespace Engine

/-- The transaction of that number, if it is open. -/
def active (engine : Engine) (index : Nat) : Except Error Transaction :=
  match engine.transactions[index]? with
  | some t => if t.finished then .error .transactionFinished else .ok t
  | none => .error .transactionFinished

def setTransaction (engine : Engine) (index : Nat) (t : Transaction) : Engine :=
  { engine with transactions := engine.transactions.set index t }

/-- Opens a transaction on a copy of the shared store. -/
def begin (engine : Engine) : Handle → Except Error (Nat × Engine)
  | .shared =>
    .ok (engine.transactions.length,
      { engine with transactions := engine.transactions ++ [{ working := engine.shared }] })
  | .transaction _ => .error .nestedBegin

def select (engine : Engine) (handle : Handle) (statement : Select) : Except Error (List Row) :=
  match handle with
  | .shared => .ok (engine.shared.select statement)
  | .transaction index => (engine.active index).map fun t => t.working.select statement

/-- The insertion with the key of every row fixed, drawn from the sequence of `shared`; the answer
holds the shared store with its sequence moved on. -/
def reserveKeys (shared : Store) (statement : Insert) : Except Error (Insert × Store) :=
  (Store.assignKeys statement.returning (shared.sequence statement.table) statement.rows).map
    fun (keyed, last) =>
      ({ statement with rows := keyed.map (·.2) }, shared.setSequence statement.table last)

/-- The write as it goes into the journal, and the shared store after its keys are drawn. -/
def prepare (shared : Store) : Write → Except Error (Write × Store)
  | .insert statement =>
    (reserveKeys shared statement).map fun (keyed, shared) => (.insert keyed, shared)
  | w => .ok (w, shared)

/-- Runs a write. In a transaction it changes the copy and is noted in the journal; one that fails
is not noted, but the keys drawn for it are gone. -/
def write (engine : Engine) (handle : Handle) (w : Write) :
    Except Error Store.WriteAnswer × Engine :=
  match handle with
  | .shared =>
    match engine.shared.write w with
    | .ok (answer, shared) => (.ok answer, { engine with shared })
    | .error e => (.error e, engine)
  | .transaction index =>
    match engine.active index with
    | .error e => (.error e, engine)
    | .ok t =>
      match prepare engine.shared w with
      | .error e => (.error e, engine)
      | .ok (prepared, shared) =>
        let engine := { engine with shared }
        match t.working.write prepared with
        | .ok (answer, working) =>
          (.ok answer,
            engine.setTransaction index { t with working, journal := t.journal ++ [prepared] })
        | .error e => (.error e, engine)

/-- Ends a transaction and runs its journal on the shared store: all of it, or none when a write
fails. -/
def commit (engine : Engine) (index : Nat) : Except Error Unit × Engine :=
  match engine.active index with
  | .error e => (.error e, engine)
  | .ok t =>
    let ended := engine.setTransaction index { t with journal := [], finished := true }
    match engine.shared.replay t.journal with
    | .ok shared => (.ok (), { ended with shared })
    | .error e => (.error (.commitFailed e), ended)

/-- Ends a transaction without its writes. -/
def rollback (engine : Engine) (index : Nat) : Except Error Unit × Engine :=
  match engine.active index with
  | .error e => (.error e, engine)
  | .ok t => (.ok (), engine.setTransaction index { t with finished := true })

end Engine

end EntityStore
