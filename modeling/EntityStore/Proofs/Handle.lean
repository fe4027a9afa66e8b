import EntityStore.Proofs.Selection
import EntityStore.Query.Run

/-!
# The store behind a handle

Statements run on the shared store or on the copy of an open transaction. `Engine.storeOf` is the
store that a handle leads to. Selections answer from it (`Engine.select_eq`), and updates and
deletes change it as they change any store (`Task.run_update`, `Task.run_delete`); on a transaction
that has ended every statement fails and nothing changes.
-/

namespace EntityStore

namespace Engine

/-- The store that the statements of a handle see, if the handle is open. -/
def storeOf (engine : Engine) : Handle → Except Error Store
  | .shared => .ok engine.shared
  | .transaction index => (engine.active index).map (·.working)

@[simp] theorem storeOf_shared (engine : Engine) : engine.storeOf .shared = .ok engine.shared := rfl

@[simp] theorem storeOf_transaction (engine : Engine) (index : Nat) :
    engine.storeOf (.transaction index) = (engine.active index).map (·.working) := rfl

theorem active_eq_ok {engine : Engine} {index : Nat} {t : Transaction} :
    engine.active index = .ok t ↔
      engine.transactions[index]? = some t ∧ t.finished = false := by
  unfold active
  constructor
  · intro h
    split at h
    · next found hfound =>
      split at h
      · cases h
      · next going =>
        cases h
        exact ⟨hfound, Bool.eq_false_iff.2 going⟩
    · cases h
  · rintro ⟨found, going⟩
    rw [found]
    simp [going]

/-- A transaction that goes on is open under its number. -/
theorem active_setTransaction {engine : Engine} {index : Nat} {t t' : Transaction}
    (h : engine.active index = .ok t) (going : t'.finished = false) :
    (engine.setTransaction index t').active index = .ok t' := by
  obtain ⟨found, -⟩ := active_eq_ok.1 h
  have bound : index < engine.transactions.length := (List.getElem?_eq_some_iff.1 found).1
  exact active_eq_ok.2 ⟨List.getElem?_set_self bound, going⟩

theorem select_eq (engine : Engine) (handle : Handle) (statement : Select) :
    engine.select handle statement = (engine.storeOf handle).map (·.select statement) := by
  cases handle with
  | shared => rfl
  | transaction index =>
    rw [storeOf_transaction]
    unfold select
    simp only
    cases engine.active index <;> rfl

/-- A write that draws no keys changes the store behind the handle and answers as that store
does. -/
theorem write_unkeyed {engine : Engine} {handle : Handle} {w : Write} {store changed : Store}
    {answer : Store.WriteAnswer} (opened : engine.storeOf handle = .ok store)
    (unkeyed : prepare engine.shared w = .ok (w, engine.shared))
    (h : store.write w = .ok (answer, changed)) :
    (engine.write handle w).1 = .ok answer ∧
      (engine.write handle w).2.storeOf handle = .ok changed := by
  cases handle with
  | shared =>
    cases opened
    unfold write
    simp only [h]
    exact ⟨trivial, rfl⟩
  | transaction index =>
    rw [storeOf_transaction] at opened
    cases active : engine.active index with
    | error e => rw [active] at opened; cases opened
    | ok t =>
      rw [active] at opened
      cases opened
      have going := (active_eq_ok.1 active).2
      unfold write
      simp only [active, unkeyed, h]
      refine ⟨trivial, ?_⟩
      let done : Transaction := { t with working := changed, journal := t.journal ++ [w] }
      have reopened : (engine.setTransaction index done).active index = .ok done :=
        active_setTransaction active going
      change ((engine.setTransaction index done).active index).map _ = _
      rw [reopened]
      rfl

/-- On a handle that is not open a write fails and changes nothing. -/
theorem write_closed {engine : Engine} {handle : Handle} {e : Error}
    (closed : engine.storeOf handle = .error e) (w : Write) :
    engine.write handle w = (.error e, engine) := by
  cases handle with
  | shared => cases closed
  | transaction index =>
    rw [storeOf_transaction] at closed
    cases active : engine.active index with
    | error e' =>
      rw [active] at closed
      cases closed
      unfold write
      simp only [active]
    | ok t => rw [active] at closed; cases closed

end Engine

namespace Task

variable {db : Database} {s : Session} {store : Store}

theorem run_select (statement : Select) :
    select statement db s =
      (s.engine.select db.handle statement,
        { s with received := s.received ++ [.select statement] }) := rfl

theorem run_write (w : Write) :
    write w db s =
      ((s.engine.write db.handle w).1,
        { s with
          received := s.received ++ [.write w]
          engine := (s.engine.write db.handle w).2 }) := rfl

/-- An update leaves the session that its write leaves. -/
theorem session_update (statement : Update) (db : Database) (s : Session) :
    (update statement db s).2 = (write (.update statement) db s).2 := by
  unfold update
  rw [Work.run_bind]
  split
  · next ran => rw [ran]; rfl
  · next ran => rw [ran]

/-- A delete leaves the session that its write leaves. -/
theorem session_delete (statement : Delete) (db : Database) (s : Session) :
    (delete statement db s).2 = (write (.delete statement) db s).2 := by
  unfold delete
  rw [Work.run_bind]
  split
  · next ran => rw [ran]; rfl
  · next ran => rw [ran]

/-- An update changes the store behind the handle. -/
theorem run_update (statement : Update) (opened : s.engine.storeOf db.handle = .ok store) :
    (update statement db s).1 = .ok (store.update statement).1 ∧
      (update statement db s).2.engine.storeOf db.handle = .ok (store.update statement).2 := by
  have ran : store.write (.update statement) =
      .ok (.changed (store.update statement).1, (store.update statement).2) := rfl
  obtain ⟨answered, changed⟩ := Engine.write_unkeyed opened rfl ran
  unfold update
  rw [Work.run_bind, run_write, answered]
  exact ⟨rfl, changed⟩

/-- A delete changes the store behind the handle. -/
theorem run_delete (statement : Delete) (opened : s.engine.storeOf db.handle = .ok store) :
    (delete statement db s).1 = .ok (store.delete statement).1 ∧
      (delete statement db s).2.engine.storeOf db.handle = .ok (store.delete statement).2 := by
  have ran : store.write (.delete statement) =
      .ok (.changed (store.delete statement).1, (store.delete statement).2) := rfl
  obtain ⟨answered, changed⟩ := Engine.write_unkeyed opened rfl ran
  unfold delete
  rw [Work.run_bind, run_write, answered]
  exact ⟨rfl, changed⟩

end Task

end EntityStore
