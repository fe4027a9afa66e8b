import EntityStore.Proofs.RowUpdates
import EntityStore.Proofs.Tables

/-!
# Saving an instance after edits

What has been set in a loaded instance is written by one update of the key that the instance carries
when it is saved. This need not be the key that it was loaded with, since edits may set that too.
Main result `Instance.save_keepsOthers_iff`: saving changes no row but the one of the loaded key,
exactly when the update finds no other row, or finds its values there already.
-/

namespace EntityStore

/-- Setting values in an instance. -/
inductive Edit where
  | set (name : String) (value : Value)
  | fill (values : Row)
  | forceFill (values : Row)

namespace Edit

def apply (i : Instance) : Edit → Instance
  | .set name value => i.set name value
  | .fill values => i.fill values
  | .forceFill values => i.forceFill values

/-- The edit does not give a value for the name. -/
def Leaves (name : String) : Edit → Prop
  | .set other _ => name ≠ other
  | .fill values | .forceFill values => values.get? name = none

theorem get?_apply {name : String} {edit : Edit} (leaves : edit.Leaves name) (i : Instance) :
    (edit.apply i).get? name = i.get? name := by
  cases edit with
  | set other value => exact Row.get?_insert_of_ne i.attributes value leaves
  | fill values =>
    have dropped : (i.model.filterFillable values).get? name = none := by
      rw [Model.filterFillable, Row.get?_filter, show values.get? name = none from leaves]
      rfl
    exact (Row.get?_merge _ _ _).trans (by rw [dropped, Option.none_or]; rfl)
  | forceFill values =>
    have dropped : (i.model.filterColumns values).get? name = none := by
      rw [Model.filterColumns, Row.get?_filter, show values.get? name = none from leaves]
      rfl
    exact (Row.get?_merge _ _ _).trans (by rw [dropped, Option.none_or]; rfl)

end Edit

namespace Instance

/-- The instance after edits, one after the other. -/
def edited (i : Instance) (edits : List Edit) : Instance :=
  edits.foldl Edit.apply i

theorem model_edited (i : Instance) (edits : List Edit) : (i.edited edits).model = i.model := by
  induction edits generalizing i with
  | nil => rfl
  | cons edit rest ih => exact (ih (edit.apply i)).trans (by cases edit <;> rfl)

theorem stored_edited (i : Instance) (edits : List Edit) : (i.edited edits).stored = i.stored := by
  induction edits generalizing i with
  | nil => rfl
  | cons edit rest ih => exact (ih (edit.apply i)).trans (by cases edit <;> rfl)

/-- What no edit gives a value for stays as it is. -/
theorem get?_edited {name : String} {edits : List Edit} (leave : ∀ edit ∈ edits, edit.Leaves name)
    (i : Instance) : (i.edited edits).get? name = i.get? name := by
  induction edits generalizing i with
  | nil => rfl
  | cons edit rest ih =>
    rw [List.forall_mem_cons] at leave
    exact (ih leave.2 (edit.apply i)).trans (Edit.get?_apply leave.1 i)

end Instance

namespace Engine

variable {before after : Engine} {handle : Handle} {m : Model} {k : Int} {rows : List Row}

/-- Every row that some handle sees stays in its place as it is, but for those that carry the key in
the table of the entity, as one handle sees it. -/
def KeepsOthers (before after : Engine) (handle : Handle) (m : Model) (k : Int) : Prop :=
  ∀ handle' table rows, before.tableOf handle' table = .ok rows →
    ∃ rows', after.tableOf handle' table = .ok rows' ∧
      List.Forall₂ (fun row row' => row' = row ∨
        (handle' = handle ∧ table = m.table ∧ Store.keyOf? m.primaryKey row = some k)) rows rows'

theorem KeepsOthers.refl (engine : Engine) (handle : Handle) (m : Model) (k : Int) :
    engine.KeepsOthers engine handle m k :=
  fun _ _ rows seen => ⟨rows, seen, List.forall₂_same.2 fun _ _ => Or.inl rfl⟩

/-- A change of the rows keeps the others exactly when it leaves them as they are. -/
theorem Rewritten.keepsOthers_iff {change : Row → Row}
    (rewritten : before.Rewritten after handle m.table change)
    (seen : before.tableOf handle m.table = .ok rows) :
    before.KeepsOthers after handle m k ↔
      ∀ row ∈ rows, change row = row ∨ Store.keyOf? m.primaryKey row = some k := by
  have changed := rewritten.rows
  rw [seen] at changed
  constructor
  · intro keeps
    obtain ⟨rows', there, each⟩ := keeps handle m.table rows seen
    cases there.symm.trans changed
    rw [List.forall₂_map_right_iff, List.forall₂_same] at each
    intro row mem
    exact (each row mem).imp_right fun own => own.2.2
  · intro fixed handle' table rows' there
    by_cases own : (handle', table) = (handle, m.table)
    · cases own
      cases seen.symm.trans there
      refine ⟨_, changed, ?_⟩
      rw [List.forall₂_map_right_iff, List.forall₂_same]
      intro row mem
      exact (fixed row mem).imp_right fun keyed => ⟨rfl, rfl, keyed⟩
    · refine ⟨rows', (rewritten.others handle' table own).trans there, ?_⟩
      exact List.forall₂_same.2 fun _ _ => Or.inl rfl

end Engine

namespace Instance

variable {m : Model} {db : Database} {s : Session} {rows : List Row}

/-- Saving keeps the others exactly when every row that its update finds holds the values already
or carries the key. -/
theorem keepsOthers_save {i : Instance} (stored : i.stored = true)
    (seen : s.engine.tableOf db.handle i.model.table = .ok rows) (k : Int) :
    s.engine.KeepsOthers (i.save db s).2.engine db.handle i.model k ↔
      ∀ id values, Revision.save.target? i db s = some (id, values) →
        ∀ row ∈ rows, i.model.reads id row = true →
          row.merge values = row ∨ Store.keyOf? i.model.primaryKey row = some k := by
  have ends : Revision.save.Outcome i db s (i.save db s) := Revision.save.outcome stored
  cases target : Revision.save.target? i db s with
  | none =>
    rw [ends.still target]
    exact iff_of_true (.refl _ _ _ _) fun _ _ some => nomatch some
  | some written =>
    obtain ⟨id, values⟩ := written
    rw [(ends.rewritten target).keepsOthers_iff seen]
    have each (row : Row) : (i.model.rewrite id values row = row ∨
        Store.keyOf? i.model.primaryKey row = some k) ↔ (i.model.reads id row = true →
          row.merge values = row ∨ Store.keyOf? i.model.primaryKey row = some k) := by
      unfold Model.rewrite
      split
      · next has => rw [has, imp_iff_right rfl]
      · next misses => exact iff_of_true (Or.inl rfl) fun has => absurd has misses
    simp only [each]
    constructor
    · intro fixed _ _ same
      cases same
      exact fixed
    · exact fun fixed => fixed id values rfl

/-- Where keys are integers of at most 53 bits under a name without a dot, an update finds the rows
that carry its key. -/
theorem reads_iff_keyOf? (plain : '.' ∉ m.primaryKey.toList)
    (keys : ∀ row ∈ rows, ∃ n, row.get? m.primaryKey = some (.int n) ∧ Binary64.IsSmall n)
    (id : Int) : ∀ row ∈ rows, m.reads id row = true ↔ Store.keyOf? m.primaryKey row = some id := by
  intro row mem
  obtain ⟨n, carried, small⟩ := keys row mem
  have own : Store.keyOf? m.primaryKey row = some n := by
    rw [Store.keyOf?, carried]
    exact if_pos (fitsInt64_of_small small)
  rw [Model.reads_plain plain, Row.value_eq carried, Value.looseEq_int_small small, own,
    decide_eq_true_eq, Option.some.injEq]

/-- Edits that leave the primary key alone are saved into the row that the instance was loaded
from. -/
theorem keepsOthers_of_leaves (seen : s.engine.tableOf db.handle m.table = .ok rows)
    (plain : '.' ∉ m.primaryKey.toList)
    (keys : ∀ row ∈ rows, ∃ n, row.get? m.primaryKey = some (.int n) ∧ Binary64.IsSmall n)
    {own : Row} {k : Int} (carried : Store.keyOf? m.primaryKey own = some k) {edits : List Edit}
    (leave : ∀ edit ∈ edits, edit.Leaves m.primaryKey) :
    s.engine.KeepsOthers (((ofRow m own).edited edits).save db s).2.engine db.handle m k := by
  have same := model_edited (ofRow m own) edits
  have kept : ((ofRow m own).edited edits).id? = some k := by
    rw [id?, same]
    exact (congrArg (·.bind Value.asInt64?) (get?_edited leave (ofRow m own))).trans carried
  have there : s.engine.tableOf db.handle ((ofRow m own).edited edits).model.table =
      .ok rows := by
    rw [same]
    exact seen
  have exact_condition := keepsOthers_save (stored_edited (ofRow m own) edits) there k
  rw [same] at exact_condition
  refine exact_condition.2 fun id values target row mem has => Or.inr ?_
  cases (Revision.id?_of_target? target).symm.trans kept
  exact (reads_iff_keyOf? plain keys k row mem).1 has

/-- **What saving changes.** An instance that was loaded is saved after any edits. No row changes
but the one of the key `k`, exactly when every row that the update finds holds the values already or
carries that key. Where keys are integers of at most 53 bits under a name without a dot, that is: if
the instance carries another key than `k` by then, the row of that key holds the values already. -/
theorem save_keepsOthers_iff (seen : s.engine.tableOf db.handle m.table = .ok rows) (own : Row)
    (k : Int) (edits : List Edit) :
    let i := (ofRow m own).edited edits
    (s.engine.KeepsOthers (i.save db s).2.engine db.handle m k ↔
      ∀ id values, Revision.save.target? i db s = some (id, values) →
        ∀ row ∈ rows, m.reads id row = true →
          row.merge values = row ∨ Store.keyOf? m.primaryKey row = some k) ∧
    ('.' ∉ m.primaryKey.toList →
      (∀ row ∈ rows, ∃ n, row.get? m.primaryKey = some (.int n) ∧ Binary64.IsSmall n) →
      (s.engine.KeepsOthers (i.save db s).2.engine db.handle m k ↔
        ∀ id values, Revision.save.target? i db s = some (id, values) → id ≠ k →
          ∀ row ∈ rows, Store.keyOf? m.primaryKey row = some id → row.merge values = row)) := by
  intro i
  have same : i.model = m := model_edited _ edits
  have there : s.engine.tableOf db.handle i.model.table = .ok rows := by
    rw [same]
    exact seen
  have exact_condition := keepsOthers_save (stored_edited (ofRow m own) edits) there k
  rw [same] at exact_condition
  refine ⟨exact_condition, fun plain keys => exact_condition.trans ?_⟩
  have read := reads_iff_keyOf? plain keys
  refine forall₃_congr fun id values _ => ⟨fun fixed other row mem keyed => ?_,
    fun fixed row mem has => ?_⟩
  · refine (fixed row mem ((read id row mem).2 keyed)).resolve_right fun own => other ?_
    exact Option.some.inj (keyed.symm.trans own)
  · have keyed := (read id row mem).1 has
    by_cases own : id = k
    · exact Or.inr (own ▸ keyed)
    · exact Or.inl (fixed own row mem keyed)

/-- Essays with a number and a title. -/
def essays : Model :=
  .bare "Essay" "essays" [⟨"id", .integer, false, .primaryKey⟩, ⟨"title", .string, true, .declared⟩]
    { timestamps := false }

def essay (id : Int) (title : String) : Row :=
  .ofFields [("id", .int id), ("title", .text title)]

/-- The session that runs on a table with two essays. -/
def essaySession : Session :=
  { engine := { shared := { tables := [("essays", [essay 1 "a", essay 2 "b"])] } }, clock := ⟨0⟩ }

/-- Renaming the first essay leaves the second one alone. -/
theorem save_keepsOthers_renamed :
    essaySession.engine.KeepsOthers (((ofRow essays (essay 1 "a")).edited
      [.set "title" (.text "c"), .forceFill (.ofFields [("title", .text "d")])]).save
        { registry := {} } essaySession).2.engine .shared essays 1 := by
  have keys : ∀ row ∈ [essay 1 "a", essay 2 "b"],
      ∃ n, row.get? essays.primaryKey = some (.int n) ∧ Binary64.IsSmall n := by
    simp only [List.forall_mem_cons]
    exact ⟨⟨1, by decide, by decide⟩, ⟨2, by decide, by decide⟩, fun _ none => nomatch none⟩
  have seen : essaySession.engine.tableOf .shared essays.table =
      .ok [essay 1 "a", essay 2 "b"] := rfl
  refine ((save_keepsOthers_iff (m := essays) (s := essaySession) seen (essay 1 "a") 1 _).2
    (by decide) keys).2 fun id values target other => ?_
  cases target
  exact absurd rfl other

/-- Renaming the first essay and giving it the number of the second one renames the second one. -/
theorem not_save_keepsOthers_renumbered :
    ¬essaySession.engine.KeepsOthers (((ofRow essays (essay 1 "a")).edited
      [.set "id" (.int 2), .set "title" (.text "c")]).save
        { registry := {} } essaySession).2.engine .shared essays 1 := by
  intro keeps
  have seen : essaySession.engine.tableOf .shared essays.table =
      .ok [essay 1 "a", essay 2 "b"] := rfl
  have fixed := (keepsOthers_save rfl seen 1).1 keeps 2
    (.ofFields [("id", .int 2), ("title", .text "c")]) rfl (essay 2 "b") (by decide)
    (by decide +kernel)
  exact absurd fixed (by decide)

end Instance

end EntityStore
