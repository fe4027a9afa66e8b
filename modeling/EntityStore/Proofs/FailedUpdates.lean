import EntityStore.Proofs.RowUpdates

/-!
# Updates that fail

What is left of a call on a stored instance that ends with an error. Nothing, if the call ends
before its statement runs or the handle is not open; and nothing if the statement finds no row. But
the statement may itself take away the key that is read afterwards (`Model.Loses`): then the row is
changed and the call fails. Main result `Revision.failsCleanly_iff`: calls fail cleanly except for
this.
-/

namespace EntityStore

namespace Instance

/-- What its owner has of an instance after a call: the answered instance, or the same one after an
error. -/
def after (i : Instance) : Except Error Instance → Instance
  | .ok j => j
  | .error _ => i

/-- Nothing is left of a call: every handle sees all tables as before, the owner of the instance has
it as it was, and nothing was announced. -/
structure Traceless (i : Instance) (s : Session) (outcome : Except Error Instance × Session) :
    Prop where
  tables : ∀ handle table,
    outcome.2.engine.tableOf handle table = s.engine.tableOf handle table
  held : i.after outcome.1 = i
  silent : outcome.2.announcements = s.announcements

end Instance

namespace Model

variable {m : Model} {id : Int} {values : Row} {rows : List Row}

/-- Some row has the key, and after the update of the key none has. -/
def Loses (m : Model) (id : Int) (values : Row) (rows : List Row) : Prop :=
  (∃ row ∈ rows, m.reads id row = true) ∧
    ∀ row ∈ rows, m.reads id (m.rewrite id values row) = false

instance (m : Model) (id : Int) (values : Row) (rows : List Row) :
    Decidable (m.Loses id values rows) :=
  inferInstanceAs (Decidable (_ ∧ _))

/-- An update that finds no row leaves all as they are. -/
theorem rewrite_of_not_reads (missing : ∀ row ∈ rows, m.reads id row = false) :
    ∀ row ∈ rows, m.rewrite id values row = row := by
  intro row mem
  rw [rewrite, missing row mem]
  rfl

/-- An update that loses the key changes a row. -/
theorem Loses.changes (loses : m.Loses id values rows) : rows.map (m.rewrite id values) ≠ rows := by
  obtain ⟨⟨row, mem, has⟩, lost⟩ := loses
  intro same
  have fixed := List.map_inj_left.1 (same.trans (List.map_id rows).symm) row mem
  have gone := lost row mem
  rw [fixed] at gone
  exact absurd (has.symm.trans gone) (by decide)

/-- Under a name without a dot the key is lost when another value is written over it. -/
theorem loses_iff (plain : '.' ∉ m.primaryKey.toList) : m.Loses id values rows ↔
    (∃ row ∈ rows, (row.value m.primaryKey).looseEq (.int id) = true) ∧
      ∃ v, values.get? m.primaryKey = some v ∧ v.looseEq (.int id) = false := by
  unfold Loses
  simp only [reads_plain plain]
  refine and_congr_right fun ⟨row, mem, has⟩ => ⟨fun lost => ?_, ?_⟩
  · have gone := lost row mem
    unfold rewrite at gone
    rw [if_pos ((reads_plain plain id row).trans has), Row.value, Row.get?_merge] at gone
    cases written : values.get? m.primaryKey with
    | none =>
      rw [written, Option.none_or] at gone
      exact absurd (has.symm.trans gone) (by decide)
    | some v =>
      rw [written] at gone
      exact ⟨v, rfl, gone⟩
  · rintro ⟨v, written, other⟩ row _
    unfold rewrite
    split
    · rw [Row.value, Row.get?_merge, written]
      exact other
    · next unread => exact (reads_plain plain id row).symm.trans (Bool.eq_false_iff.2 unread)

end Model

namespace Revision

variable {c : Revision} {i : Instance} {db : Database} {s : Session}

/-- If the call ends with an error, whatever it is, nothing is left of it. -/
def FailsCleanly (c : Revision) (i : Instance) (db : Database) (s : Session) : Prop :=
  ∀ e, (c.run i db s).1 = .error e → i.Traceless s (c.run i db s)

/-- A call that fails cleanly loses no key. -/
theorem FailsCleanly.not_loses (cleanly : c.FailsCleanly i db s) (stored : i.stored = true)
    {id : Int} {values : Row} {rows : List Row} (target : c.target? i db s = some (id, values))
    (seen : s.engine.tableOf db.handle i.model.table = .ok rows) :
    ¬i.model.Loses id values rows := by
  intro loses
  have ends : c.Outcome i db s (c.run i db s) := c.outcome stored
  unfold FailsCleanly at cleanly
  generalize c.run i db s = outcome at cleanly ends
  cases ends with
  | early untried => cases untried.symm.trans target
  | updated target' ends =>
    cases target.symm.trans target'
    cases ends with
    | closed closed => cases closed.symm.trans seen
    | lost _ rewritten =>
      have same := (cleanly _ rfl).tables db.handle i.model.table
      rw [rewritten.rows, seen] at same
      exact loses.changes (Except.ok.inj same)
    | found seen' _ found =>
      cases seen.symm.trans seen'
      obtain ⟨row, mem, same⟩ := List.mem_map.1 (List.mem_of_find?_eq_some found)
      have has := List.find?_some found
      rw [← same, loses.2 row mem] at has
      cases has

/-- A call that loses no key fails cleanly: if the key is not there afterwards, it was not there
before either. -/
theorem failsCleanly_of_not_loses (stored : i.stored = true)
    (keeps : ∀ id values rows, c.target? i db s = some (id, values) →
      s.engine.tableOf db.handle i.model.table = .ok rows → ¬i.model.Loses id values rows) :
    c.FailsCleanly i db s := by
  have ends : c.Outcome i db s (c.run i db s) := c.outcome stored
  unfold FailsCleanly
  generalize c.run i db s = outcome at ends
  intro e failed
  cases ends with
  | early untried =>
    cases failed
    exact ⟨fun _ _ => rfl, rfl, rfl⟩
  | @updated id values _ _ _ target ends =>
    cases ends with
    | closed closed rewritten silent =>
      refine ⟨rewritten.tableOf_eq fun rows seen => ?_, rfl, silent⟩
      cases closed.symm.trans seen
    | @lost rows _ seen rewritten lost silent =>
      have missing : ∀ row ∈ rows, i.model.reads id row = false := by
        intro row mem
        by_contra has
        exact keeps id values rows target seen ⟨⟨row, mem, Bool.not_eq_false _ ▸ has⟩, lost⟩
      refine ⟨rewritten.tableOf_eq fun rows' seen' => ?_, rfl, silent⟩
      cases seen.symm.trans seen'
      exact Model.rewrite_of_not_reads missing
    | found => cases failed

/-- **Failed updates leave no trace unless they lose the key.** A call on a stored instance that
ends with an error leaves everything as it was, on whatever handle, exactly when its statement does
not take the key away from all rows that have it. Where the key has a name without a dot, that is:
if some row has the key, no other value is written over it. -/
theorem failsCleanly_iff (c : Revision) (i : Instance) (db : Database) (s : Session)
    (stored : i.stored = true) :
    (c.FailsCleanly i db s ↔ ∀ id values rows, c.target? i db s = some (id, values) →
      s.engine.tableOf db.handle i.model.table = .ok rows → ¬i.model.Loses id values rows) ∧
    ('.' ∉ i.model.primaryKey.toList →
      (c.FailsCleanly i db s ↔ ∀ id values rows, c.target? i db s = some (id, values) →
        s.engine.tableOf db.handle i.model.table = .ok rows →
        (∃ row ∈ rows, (row.value i.model.primaryKey).looseEq (.int id) = true) →
        ∀ v, values.get? i.model.primaryKey = some v → v.looseEq (.int id) = true)) := by
  have exact_condition : c.FailsCleanly i db s ↔ ∀ id values rows,
      c.target? i db s = some (id, values) →
      s.engine.tableOf db.handle i.model.table = .ok rows → ¬i.model.Loses id values rows :=
    ⟨fun cleanly _ _ _ => cleanly.not_loses stored, failsCleanly_of_not_loses stored⟩
  refine ⟨exact_condition, fun plain => exact_condition.trans ?_⟩
  refine forall₅_congr fun id values rows _ _ => ?_
  rw [Model.loses_iff plain, not_and, not_exists]
  refine imp_congr_right fun _ => forall_congr' fun v => ?_
  rw [not_and, Bool.not_eq_false]

/-- Posts with a number and a title. -/
def journal : Model :=
  .bare "Post" "posts" [⟨"id", .integer, false, .primaryKey⟩, ⟨"title", .string, true, .declared⟩]
    { timestamps := false }

/-- A post as it is loaded. -/
def journalPost (id : Int) : Row :=
  .ofFields [("id", .int id), ("title", .text "a")]

/-- The session that runs on a table with the first post. -/
def journalSession : Session :=
  { engine := { shared := { tables := [("posts", [journalPost 1])] } }, clock := ⟨0⟩ }

/-- Renaming a post whose row is gone fails, and nothing is left of it. -/
theorem failsCleanly_gone :
    ((forceUpdate (.object [("title", .text "b")])).run (.ofRow journal (journalPost 2))
      { registry := {} } journalSession).1.isOk = false ∧
    (forceUpdate (.object [("title", .text "b")])).FailsCleanly (.ofRow journal (journalPost 2))
      { registry := {} } journalSession := by
  have missing : ¬∃ row ∈ [journalPost 1], (row.value "id").looseEq (.int 2) = true := by
    decide +kernel
  refine ⟨by decide +kernel, ((failsCleanly_iff _ _ _ _ rfl).2 (by decide)).2 ?_⟩
  intro id values rows target seen found
  cases seen
  cases target
  exact absurd found missing

/-- Giving the post another number changes its row and fails. -/
theorem not_failsCleanly_renumbered :
    ¬(forceUpdate (.object [("id", .int 9)])).FailsCleanly (.ofRow journal (journalPost 1))
      { registry := {} } journalSession := by
  intro cleanly
  have loses : journal.Loses 1 (.ofFields [("id", .int 9)]) [journalPost 1] := by decide +kernel
  exact cleanly.not_loses rfl rfl rfl loses

end Revision

end EntityStore
