import EntityStore.Proofs.Creations
import EntityStore.Proofs.LooseEquality
import EntityStore.Proofs.Saving

/-!
# Saving two instances of one row

Two callers read one row, each edits an instance of it, and both save, the second one over a row
that it has not seen. A save writes only the columns that differ from the row as it was read
(`Instance.unsaved`), so that edits of different columns do not undo each other: in either order the
row ends up with both of them. Main result `Instance.merge_iff`; this is so exactly when each save
reaches the row, which it does under a primary key without a dot.
-/

namespace EntityStore

namespace Engine

variable {before after : Engine} {handle : Handle} {table : String} {rows : List Row} {n : Nat}
  {row : Row}

/-- A row of a table by its place, as a handle sees it. -/
def rowAt? (engine : Engine) (handle : Handle) (table : String) (n : Nat) : Option Row :=
  (engine.tableOf handle table).toOption.bind (·[n]?)

theorem rowAt?_eq_some : before.rowAt? handle table n = some row ↔
    ∃ rows, before.tableOf handle table = .ok rows ∧ rows[n]? = some row := by
  unfold rowAt?
  cases before.tableOf handle table <;> simp [Except.toOption]

/-- A change of the rows leaves each in its place. -/
theorem Rewritten.rowAt? {change : Row → Row}
    (rewritten : before.Rewritten after handle table change)
    (there : before.rowAt? handle table n = some row) :
    after.rowAt? handle table n = some (change row) := by
  obtain ⟨rows, seen, placed⟩ := rowAt?_eq_some.1 there
  refine rowAt?_eq_some.2 ⟨rows.map change, ?_, ?_⟩
  · rw [rewritten.rows, seen]
    rfl
  · rw [List.getElem?_map, placed]
    rfl

end Engine

namespace Model

variable {m : Model} {row : Row} {name : String}

/-- The stamp of a change is the only column that is added to its values. -/
theorem get?_stamped (m : Model) (s : Session) (values : Row)
    (unstamped : m.traits.timestamps = true → name ≠ "updated_at") :
    (m.stamped s values).get? name = values.get? name := by
  unfold stamped
  split
  · next stamps => rw [Row.get?_insertNew, if_neg (unstamped stamps), Option.or_none]
  · rfl

end Model

namespace Instance

variable {i j : Instance} {m : Model} {db : Database} {s s' : Session} {n : Nat} {row row' : Row}
  {name : String}

/-! ### What a save writes -/

/-- The columns that differ from the row as it was last read. -/
def unsaved (i : Instance) : Row :=
  i.model.filterColumns i.dirty

/-- Saving goes through. -/
def Saves (i : Instance) (db : Database) (s s' : Session) : Prop :=
  ∃ saved, i.save db s = (.ok saved, s')

/-- Whether saving can go through, as far as the instance is concerned: there is nothing to write,
or there is a key to write it under and the rules allow it. -/
def Savable (i : Instance) (db : Database) : Prop :=
  i.unsaved.isEmpty = true ∨
    i.id?.isSome = true ∧ i.model.admits db .update true i.unsaved = true

/-- The ends of saving a stored instance. Here an end before the statement says what is answered, as
the question is whether the save goes through. -/
inductive SaveEnded (i : Instance) (db : Database) (s : Session) :
    Except Error Instance × Session → Prop where
  | clean (clean : i.unsaved.isEmpty = true) : SaveEnded i db s (.ok i, s)
  | refused {e : Error} (refused : ¬i.Savable db) : SaveEnded i db s (.error e, s)
  | updated {id : Int} {answer : Except Error Instance} {s' : Session} (savable : i.Savable db)
    (keyed : i.id? = some id)
    (ends : i.model.RowUpdated id (i.model.stamped s i.unsaved) db s (answer, s')) :
    SaveEnded i db s (answer.map fun j => i.synchronised j.attributes i.unsaved, s')

theorem saveEnded (stored : i.stored = true) (db : Database) (s : Session) :
    i.SaveEnded db s (i.save db s) := by
  unfold save
  rw [stored, if_neg (by decide)]
  change i.SaveEnded db s ((if i.unsaved.isEmpty then return i else do
    let id ← Work.ofExcept i.requireId
    let updated ← i.model.updateRow id i.unsaved true
    return i.synchronised updated.attributes i.unsaved : Task Instance) db s)
  cases clean : i.unsaved.isEmpty with
  | true => exact .clean clean
  | false =>
    rw [if_neg (by decide), Work.run_bind]
    unfold requireId
    cases keyed : i.id? with
    | none =>
      apply SaveEnded.refused
      simp [Savable, clean, keyed]
    | some id =>
      dsimp only [Work.run_ofExcept]
      rw [Work.run_bind]
      have allowed := i.model.isOk_checkRules i.unsaved .update true db s
      cases checked : (i.model.checkRules i.unsaved .update true db s).1 with
      | error e =>
        rw [Model.run_updateRow_refused checked]
        apply SaveEnded.refused
        rw [checked] at allowed
        simp [Savable, clean, keyed, ← allowed, Except.isOk, Except.toBool]
      | ok _ =>
        have savable : i.Savable db := by
          rw [checked] at allowed
          exact Or.inr ⟨by rw [keyed]; rfl, allowed.symm⟩
        have ends : i.model.RowUpdated id (i.model.stamped s i.unsaved) db s
            (i.model.updateRow id i.unsaved true db s) := Model.rowUpdated_updateRow checked
        cases ran : i.model.updateRow id i.unsaved true db s with
        | mk answer s' =>
          rw [ran] at ends
          have ended := SaveEnded.updated savable keyed ends
          cases answer <;> exact ended

/-! ### What becomes of the row -/

/-- What a save that goes through makes of a row: nothing, or what an update of the key that the
instance carries makes of it. -/
inductive Overwrites (i : Instance) (row : Row) : Row → Prop where
  | clean (clean : i.unsaved.isEmpty = true) : Overwrites i row row
  | updated {id : Int} {values : Row} (keyed : i.id? = some id)
    (own : ∀ name, (i.model.traits.timestamps = true → name ≠ "updated_at") →
      values.get? name = i.unsaved.get? name) :
    Overwrites i row (i.model.rewrite id values row)

theorem Saves.overwrites (stored : i.stored = true) (saves : i.Saves db s s')
    (there : s.engine.rowAt? db.handle i.model.table n = some row) :
    ∃ row', s'.engine.rowAt? db.handle i.model.table n = some row' ∧ i.Overwrites row row' := by
  obtain ⟨saved, ran⟩ := saves
  have ended := saveEnded stored db s
  generalize i.save db s = outcome at ran ended
  cases ended with
  | clean clean =>
    cases ran
    exact ⟨row, there, .clean clean⟩
  | refused => cases ran
  | updated savable keyed ends =>
    cases congrArg Prod.snd ran
    exact ⟨_, ends.rewritten.rowAt? there, .updated keyed fun _ => i.model.get?_stamped s _⟩

/-- The row shows queries the key that the instance carries, or it has the columns already that the
instance would write. -/
def Reaches (i : Instance) (row : Row) : Prop :=
  ∀ id, i.id? = some id → i.model.reads id row = true ∨
    ∀ name value, i.unsaved.get? name = some value → row.get? name = some value

namespace Overwrites

/-- What is not to be written stays as it is, but for the stamp. -/
theorem get?_of_none (made : i.Overwrites row row') (left : i.unsaved.get? name = none)
    (unstamped : i.model.traits.timestamps = true → name ≠ "updated_at") :
    row'.get? name = row.get? name := by
  cases made with
  | clean => rfl
  | updated keyed own =>
    unfold Model.rewrite
    split
    · rw [Row.get?_merge, own name unstamped, left, Option.none_or]
    · rfl

/-- All that is to be written ends up in the row exactly when the save reaches it. -/
theorem reaches_iff (made : i.Overwrites row row')
    (unstamped : i.unsaved.get? "updated_at" = none) :
    i.Reaches row ↔
      ∀ name value, i.unsaved.get? name = some value → row'.get? name = some value := by
  cases made with
  | clean clean =>
    have nothing (name : String) : i.unsaved.get? name = none := by
      rw [Row.get?, List.isEmpty_iff.1 clean]
      rfl
    simp [Reaches, nothing]
  | @updated id values keyed own =>
    have stampless {name : String} {value : Value} (given : i.unsaved.get? name = some value) :
        name ≠ "updated_at" := by
      intro same
      rw [same, unstamped] at given
      cases given
    unfold Reaches Model.rewrite
    cases has : i.model.reads id row with
    | true =>
      refine iff_of_true ?_ ?_
      · intro id' keyed'
        cases keyed.symm.trans keyed'
        exact Or.inl has
      · intro name value given
        rw [if_pos rfl, Row.get?_merge, own name fun _ => stampless given, given, Option.some_or]
    | false =>
      rw [if_neg (by decide)]
      constructor
      · intro reaches
        exact (reaches id keyed).resolve_left (by rw [has]; decide)
      · intro held id' _
        exact Or.inr held

end Overwrites

/-! ### One save after another -/

/-- One save and then another go through. -/
def InTurn (i j : Instance) (db : Database) (s s' : Session) : Prop :=
  ∃ s₁, i.Saves db s s₁ ∧ j.Saves db s₁ s'

/-- The row with the columns that the first instance changed, with those that the second one
changed, and with its own values elsewhere. -/
def merged (i j : Instance) (row : Row) (name : String) : Option Value :=
  if i.unsaved.contains name then i.get? name
  else if j.unsaved.contains name then j.get? name
  else row.get? name

/-- If both saves go through, the row in the place has the given columns in the end, but for its
stamp. -/
def SavedInto (i j : Instance) (db : Database) (s : Session) (n : Nat)
    (columns : String → Option Value) : Prop :=
  ∀ s', i.InTurn j db s s' → ∃ row', s'.engine.rowAt? db.handle i.model.table n = some row' ∧
    ∀ name, name ≠ "updated_at" → row'.get? name = columns name

/-- If both saves go through, each of them reaches the row in the place as it is then. -/
def BothReach (i j : Instance) (db : Database) (s : Session) (n : Nat) : Prop :=
  ∀ s₁ s', i.Saves db s s₁ → j.Saves db s₁ s' →
    (∀ row, s.engine.rowAt? db.handle i.model.table n = some row → i.Reaches row) ∧
    ∀ row, s₁.engine.rowAt? db.handle i.model.table n = some row → j.Reaches row

/-- An instance of a row with columns to be saved, but not the primary key and not the stamp. -/
structure Pending (i : Instance) (m : Model) (row : Row) : Prop where
  model : i.model = m
  stored : i.stored = true
  keyed : ∀ id, i.id? = some id → Store.keyOf? m.primaryKey row = some id
  keyless : i.unsaved.get? m.primaryKey = none
  stampless : i.unsaved.get? "updated_at" = none

/-- A save that ends in an answer goes through. -/
theorem saves_of_isOk (done : (i.save db s).1.isOk = true) : i.Saves db s (i.save db s).2 := by
  unfold Saves
  generalize i.save db s = outcome at done ⊢
  obtain ⟨answer, s'⟩ := outcome
  cases answer with
  | error e => cases done
  | ok saved => exact ⟨saved, rfl⟩

theorem get?_unsaved {value : Value} (given : i.unsaved.get? name = some value) :
    i.get? name = some value := by
  unfold unsaved dirty difference Model.filterColumns at given
  rw [Row.get?_filter, Row.get?_filter] at given
  simp only [Option.filter_eq_some_iff] at given
  exact given.1.1

theorem merged_eq (i j : Instance) (row : Row) (name : String) : i.merged j row name =
    (i.unsaved.get? name).or ((j.unsaved.get? name).or (row.get? name)) := by
  unfold merged Row.contains
  cases first : i.unsaved.get? name with
  | some value => exact get?_unsaved first
  | none =>
    cases second : j.unsaved.get? name with
    | some value => exact get?_unsaved second
    | none => rfl

section

variable (disjoint : ∀ name, i.unsaved.get? name = none ∨ j.unsaved.get? name = none)

include disjoint

/-- It does not matter which of the two is the first. -/
theorem merged_comm (row : Row) : j.merged i row = i.merged j row := by
  funext name
  rw [merged_eq, merged_eq]
  rcases disjoint name with left | left <;> simp [left]

/-- The changes of both end up in the row exactly when both saves reach it. -/
theorem Overwrites.merged_iff {between : Row} (first : i.Overwrites row between)
    (second : j.Overwrites between row') (mine : i.Pending m row) (theirs : j.Pending m row) :
    (∀ name, name ≠ "updated_at" → row'.get? name = i.merged j row name) ↔
      i.Reaches row ∧ j.Reaches between := by
  have stampless {name : String} {value : Value} (given : i.unsaved.get? name = some value ∨
      j.unsaved.get? name = some value) : name ≠ "updated_at" := by
    rintro rfl
    simp [mine.stampless, theirs.stampless] at given
  rw [first.reaches_iff mine.stampless, second.reaches_iff theirs.stampless]
  constructor
  · intro shows
    refine ⟨?_, ?_⟩
    · intro name value given
      have left : j.unsaved.get? name = none := (disjoint name).resolve_left (by simp [given])
      have other := stampless (Or.inl given)
      rw [← second.get?_of_none left fun _ => other, shows name other, merged_eq, given,
        Option.some_or]
    · intro name value given
      have left : i.unsaved.get? name = none := (disjoint name).resolve_right (by simp [given])
      rw [shows name (stampless (Or.inr given)), merged_eq, left, given, Option.none_or,
        Option.some_or]
  · intro ⟨mineHeld, theirsHeld⟩ name other
    rw [merged_eq]
    cases given : j.unsaved.get? name with
    | some value =>
      have left : i.unsaved.get? name = none := (disjoint name).resolve_right (by simp [given])
      rw [theirsHeld name value given, left, Option.none_or, Option.some_or]
    | none =>
      rw [second.get?_of_none given fun _ => other, Option.none_or]
      cases given' : i.unsaved.get? name with
      | some value => exact mineHeld name value given'
      | none => exact first.get?_of_none given' fun _ => other

/-- In one order the changes of both end up in the row exactly when both saves reach it. -/
theorem savedInto_iff (mine : i.Pending m row) (theirs : j.Pending m row)
    (there : s.engine.rowAt? db.handle m.table n = some row) :
    i.SavedInto j db s n (i.merged j row) ↔ i.BothReach j db s n := by
  obtain rfl := mine.model
  have run {s₁ s' : Session} (saves : i.Saves db s s₁) (saves' : j.Saves db s₁ s') :
      ∃ between row', s₁.engine.rowAt? db.handle i.model.table n = some between ∧
        s'.engine.rowAt? db.handle i.model.table n = some row' ∧
        ((∀ name, name ≠ "updated_at" → row'.get? name = i.merged j row name) ↔
          i.Reaches row ∧ j.Reaches between) := by
    obtain ⟨between, there₁, first⟩ := saves.overwrites mine.stored there
    rw [← theirs.model] at there₁
    obtain ⟨row', there₂, second⟩ := saves'.overwrites theirs.stored there₁
    rw [theirs.model] at there₁ there₂
    exact ⟨between, row', there₁, there₂, first.merged_iff disjoint second mine theirs⟩
  constructor
  · intro into s₁ s' saves saves'
    obtain ⟨between, row', there₁, there₂, exactly⟩ := run saves saves'
    obtain ⟨row'', there₂', shows⟩ := into s' ⟨s₁, saves, saves'⟩
    cases there₂.symm.trans there₂'
    obtain ⟨reaches, reaches'⟩ := exactly.1 shows
    refine ⟨?_, ?_⟩
    · intro _ same
      cases there.symm.trans same
      exact reaches
    · intro _ same
      cases there₁.symm.trans same
      exact reaches'
  · intro both s' ⟨s₁, saves, saves'⟩
    obtain ⟨between, row', there₁, there₂, exactly⟩ := run saves saves'
    obtain ⟨reaches, reaches'⟩ := both s₁ s' saves saves'
    exact ⟨row', there₂, exactly.2 ⟨reaches row there, reaches' between there₁⟩⟩

end

/-! ### Keys without a dot -/

/-- What is pending on a row is so on any row with its key. -/
theorem Pending.of_keyOf?_eq (pending : i.Pending m row)
    (same : Store.keyOf? m.primaryKey row' = Store.keyOf? m.primaryKey row) : i.Pending m row' :=
  { pending with keyed := fun id keyed => same.trans (pending.keyed id keyed) }

/-- Under a name without a dot a save reaches its row. -/
theorem Pending.reaches (plain : '.' ∉ m.primaryKey.toList) (pending : i.Pending m row) :
    i.Reaches row := by
  intro id keyed
  rw [pending.model]
  exact Or.inl (Model.reads_of_keyOf? plain (pending.keyed id keyed))

section

variable (unstamped : m.traits.timestamps = true → m.primaryKey ≠ "updated_at")

include unstamped

/-- A save leaves the key of the row alone. -/
theorem Overwrites.keyOf?_eq (made : i.Overwrites row row') (pending : i.Pending m row) :
    Store.keyOf? m.primaryKey row' = Store.keyOf? m.primaryKey row := by
  unfold Store.keyOf?
  rw [made.get?_of_none pending.keyless (pending.model ▸ unstamped)]

/-- After one save the other one finds what it had pending. -/
theorem Saves.pending (saves : i.Saves db s s') (mine : i.Pending m row) (theirs : j.Pending m row)
    (there : s.engine.rowAt? db.handle m.table n = some row) :
    ∃ between, s'.engine.rowAt? db.handle m.table n = some between ∧ j.Pending m between := by
  obtain rfl := mine.model
  obtain ⟨between, there₁, made⟩ := saves.overwrites mine.stored there
  exact ⟨between, there₁, theirs.of_keyOf?_eq (made.keyOf?_eq unstamped mine)⟩

variable (plain : '.' ∉ m.primaryKey.toList)

include plain

/-- Under a name without a dot both saves reach the row. -/
theorem bothReach_of_plain (mine : i.Pending m row) (theirs : j.Pending m row)
    (there : s.engine.rowAt? db.handle m.table n = some row) : i.BothReach j db s n := by
  intro s₁ s' saves saves'
  obtain ⟨between, there₁, pending⟩ := saves.pending unstamped mine theirs there
  rw [mine.model]
  refine ⟨?_, ?_⟩
  · intro _ same
    cases there.symm.trans same
    exact mine.reaches plain
  · intro _ same
    cases there₁.symm.trans same
    exact pending.reaches plain

/-- Under a name without a dot saving goes through as soon as the instance allows it. -/
theorem exists_saves_iff (pending : i.Pending m row)
    (there : s.engine.rowAt? db.handle m.table n = some row) :
    (∃ s', i.Saves db s s') ↔ i.Savable db := by
  obtain rfl := pending.model
  obtain ⟨rows, seen, placed⟩ := Engine.rowAt?_eq_some.1 there
  have ended := saveEnded pending.stored db s
  unfold Saves
  generalize i.save db s = outcome at ended ⊢
  cases ended with
  | clean clean => exact iff_of_true ⟨_, _, rfl⟩ (Or.inl clean)
  | refused refused =>
    refine iff_of_false ?_ refused
    rintro ⟨_, _, ran⟩
    cases ran
  | updated savable keyed ends =>
    cases ends with
    | closed closed => cases closed.symm.trans seen
    | found => exact iff_of_true ⟨_, _, rfl⟩ savable
    | lost seen' rewritten lost =>
      -- The row still shows its key after the update, so that it is found again.
      cases seen.symm.trans seen'
      have made : i.Overwrites row (i.model.rewrite _ (i.model.stamped s i.unsaved) row) :=
        .updated keyed fun _ => i.model.get?_stamped s _
      have kept := (made.keyOf?_eq unstamped pending).trans (pending.keyed _ keyed)
      have misses := lost row (List.mem_of_getElem? placed)
      rw [Model.reads_of_keyOf? plain kept] at misses
      cases misses

/-- Under a name without a dot both saves go through as soon as both instances allow it. -/
theorem exists_inTurn_iff (mine : i.Pending m row) (theirs : j.Pending m row)
    (there : s.engine.rowAt? db.handle m.table n = some row) :
    (∃ s', i.InTurn j db s s') ↔ i.Savable db ∧ j.Savable db := by
  constructor
  · intro ⟨s', s₁, saves, saves'⟩
    obtain ⟨between, there₁, pending⟩ := saves.pending unstamped mine theirs there
    exact ⟨(exists_saves_iff unstamped plain mine there).1 ⟨s₁, saves⟩,
      (exists_saves_iff unstamped plain pending there₁).1 ⟨s', saves'⟩⟩
  · intro ⟨savable, savable'⟩
    obtain ⟨s₁, saves⟩ := (exists_saves_iff unstamped plain mine there).2 savable
    obtain ⟨between, there₁, pending⟩ := saves.pending unstamped mine theirs there
    obtain ⟨s', saves'⟩ := (exists_saves_iff unstamped plain pending there₁).2 savable'
    exact ⟨s', s₁, saves, saves'⟩

end

/-! ### Edits of a row that was read -/

/-- The instance shows the row as it was read, or some columns of it, and nothing was set since. -/
structure ReadFrom (i : Instance) (m : Model) (row : Row) : Prop where
  model : i.model = m
  stored : i.stored = true
  untouched : i.attributes = i.loaded
  own : ∀ field ∈ i.loaded.fields, row.get? field.1 = some field.2

theorem loaded_edited (i : Instance) (edits : List Edit) : (i.edited edits).loaded = i.loaded := by
  induction edits generalizing i with
  | nil => rfl
  | cons edit rest ih => exact (ih (edit.apply i)).trans (by cases edit <;> rfl)

end Instance

/-- Two lists of edits of a row set different columns, and neither sets the primary key or the
stamp. -/
structure Edit.Apart (m : Model) (edits edits' : List Edit) : Prop where
  disjoint : ∀ name, (∀ edit ∈ edits, edit.Leaves name) ∨ ∀ edit ∈ edits', edit.Leaves name
  key : ∀ edit ∈ edits ++ edits', edit.Leaves m.primaryKey
  stamp : ∀ edit ∈ edits ++ edits', edit.Leaves "updated_at"

namespace Instance

variable {i j : Instance} {m : Model} {db : Database} {s : Session} {n : Nat} {row : Row}
  {edits edits' : List Edit}

/-- What no edit gives a value for need not be saved. -/
theorem ReadFrom.unsaved_eq_none (read : i.ReadFrom m row)
    (finite : ∀ field ∈ row.fields, field.2.isFinite = true) {name : String}
    (leave : ∀ edit ∈ edits, edit.Leaves name) : (i.edited edits).unsaved.get? name = none := by
  have kept : (i.edited edits).attributes.get? name = i.loaded.get? name := by
    rw [← read.untouched]
    exact get?_edited leave i
  unfold unsaved dirty difference Model.filterColumns
  rw [Row.get?_filter, Row.get?_filter, kept, loaded_edited]
  cases shown : i.loaded.get? name with
  | none => rfl
  | some value =>
    have carried := read.own (name, value) (mem_of_fieldOf? shown)
    have same := Value.same_self (finite (name, value) (mem_of_fieldOf? carried))
    simp [Option.filter, same]

theorem ReadFrom.pending (read : i.ReadFrom m row)
    (finite : ∀ field ∈ row.fields, field.2.isFinite = true)
    (key : ∀ edit ∈ edits, edit.Leaves m.primaryKey)
    (stamp : ∀ edit ∈ edits, edit.Leaves "updated_at") : (i.edited edits).Pending m row where
  model := (model_edited i edits).trans read.model
  stored := (stored_edited i edits).trans read.stored
  keyed id keyed := by
    unfold id? at keyed
    rw [model_edited, read.model, get?_edited key, get?, read.untouched] at keyed
    obtain ⟨value, shown, isKey⟩ := Option.bind_eq_some_iff.1 keyed
    rw [Store.keyOf?, read.own (_, value) (mem_of_fieldOf? shown)]
    exact isKey
  keyless := read.unsaved_eq_none finite key
  stampless := read.unsaved_eq_none finite stamp

/-- Whichever of the two is saved first, the row in the place ends up with the changes of both. -/
structure Merge (i j : Instance) (db : Database) (s : Session) (n : Nat) (row : Row) : Prop where
  inOrder : i.SavedInto j db s n (i.merged j row)
  reversed : j.SavedInto i db s n (i.merged j row)

section

variable {schema : Schema} {resolver : RelationResolver}

/-- **Saves do not undo each other.** Two instances were read from one row of a compiled entity, in
which all numbers are finite, and edited in different columns, but not in the primary key or the
stamp. In either order, if both saves go through, the row ends up with what the first one changed,
with what the second one changed, and with its own values elsewhere, exactly when both saves reach
the row. Under a primary key without a dot they do, and then both saves go through in one order if
they do in the other. -/
theorem merge_iff (compiled : schema.compile resolver = .ok m) (mine : i.ReadFrom m row)
    (theirs : j.ReadFrom m row)
    (finite : ∀ field ∈ row.fields, field.2.isFinite = true)
    (there : s.engine.rowAt? db.handle m.table n = some row) (apart : Edit.Apart m edits edits') :
    let i' := i.edited edits
    let j' := j.edited edits'
    (i'.Merge j' db s n row ↔ i'.BothReach j' db s n ∧ j'.BothReach i' db s n) ∧
      ('.' ∉ m.primaryKey.toList →
        (i'.BothReach j' db s n ∧ j'.BothReach i' db s n) ∧
          ((∃ s', i'.InTurn j' db s s') ↔ ∃ s', j'.InTurn i' db s s')) := by
  intro i' j'
  have disjoint (name : String) : i'.unsaved.get? name = none ∨ j'.unsaved.get? name = none :=
    (apart.disjoint name).imp (mine.unsaved_eq_none finite) (theirs.unsaved_eq_none finite)
  have pending : i'.Pending m row :=
    mine.pending finite (fun edit mem => apart.key edit (List.mem_append_left _ mem))
      fun edit mem => apart.stamp edit (List.mem_append_left _ mem)
  have pending' : j'.Pending m row :=
    theirs.pending finite (fun edit mem => apart.key edit (List.mem_append_right _ mem))
      fun edit mem => apart.stamp edit (List.mem_append_right _ mem)
  refine ⟨?_, ?_⟩
  · rw [← savedInto_iff disjoint pending pending' there,
      ← savedInto_iff (fun name => (disjoint name).symm) pending' pending there,
      merged_comm disjoint row]
    exact ⟨fun merge => ⟨merge.inOrder, merge.reversed⟩, fun both => ⟨both.1, both.2⟩⟩
  · intro plain
    have unstamped := (Schema.compile_eq_ok compiled).key_ne_updated
    refine ⟨⟨?_, ?_⟩, ?_⟩
    · exact bothReach_of_plain unstamped plain pending pending' there
    · exact bothReach_of_plain unstamped plain pending' pending there
    · rw [exists_inTurn_iff unstamped plain pending pending' there,
        exists_inTurn_iff unstamped plain pending' pending there, and_comm]

end

/-- A post that an editor and its author have before them. -/
def draft : Row :=
  .ofFields [("id", .int 1), ("status", .text "draft"), ("title", .text "Tea")]

/-- The editor sees the whole post. -/
def seenByEditor : Instance :=
  ofRow Assignment.post draft

/-- The author has selected the title alone, with the key. -/
def seenByAuthor : Instance :=
  ofRow Assignment.post (.ofFields [("id", .int 1), ("title", .text "Tea")])

def approving : List Edit :=
  [.set "status" (.text "approved")]

def retitling : List Edit :=
  [.fill (.ofFields [("title", .text "Coffee")])]

theorem apart_draft : Edit.Apart Assignment.post approving retitling := by
  unfold approving retitling
  refine ⟨?_, ?_, ?_⟩
  · intro name
    by_cases same : name = "status"
    · subst same
      right
      simp [Edit.Leaves, Row.ofFields, Row.get?_insert]
    · left
      simp [Edit.Leaves, same]
  · have key : Assignment.post.primaryKey = "id" := rfl
    simp [Edit.Leaves, Row.ofFields, Row.get?_insert, key]
  · simp [Edit.Leaves, Row.ofFields, Row.get?_insert]

/-- The session that runs on the table with the post. -/
def draftSession : Session :=
  { engine := { shared := { tables := [("posts", [draft])] } }, clock := ⟨0⟩ }

/-- The editor approves the post while the author renames it. Both saves go through, and in either
order both changes last. -/
theorem merge_draft :
    Assignment.posts.compile ⟨[{ name := "User", table := some "users" }], 10⟩ = .ok Assignment.post ∧
      (∃ s', (seenByEditor.edited approving).InTurn (seenByAuthor.edited retitling)
        { registry := {} } draftSession s') ∧
      (seenByEditor.edited approving).Merge (seenByAuthor.edited retitling) { registry := {} }
        draftSession 0 draft := by
  have compiled : Assignment.posts.compile ⟨[{ name := "User", table := some "users" }], 10⟩ =
      .ok Assignment.post := by
    rfl
  have editor : seenByEditor.ReadFrom Assignment.post draft := ⟨rfl, rfl, rfl, by decide⟩
  have author : seenByAuthor.ReadFrom Assignment.post draft := ⟨rfl, rfl, rfl, by decide⟩
  have there : draftSession.engine.rowAt? ({ registry := {} } : Database).handle
      Assignment.post.table 0 = some draft := rfl
  obtain ⟨exactly, undotted⟩ := merge_iff compiled editor author (by decide) there apart_draft
  refine ⟨compiled, ?_, ?_⟩
  · exact ⟨_, _, saves_of_isOk (by decide +kernel), saves_of_isOk (by decide +kernel)⟩
  · exact exactly.2 (undotted (by decide)).1

/-- An apple, with a key and with a column `id` of its own. -/
def apple (key id : Int) (name : String) : Row :=
  .ofFields [("apples.id", .int key), ("colour", .text "red"), ("id", .int id), ("name", .text name)]

/-- The session that runs on a table with two apples. -/
def orchardSession : Session :=
  { engine := { shared := { tables := [("apples", [apple 1 7 "Boskoop", apple 2 1 "Elstar"])] } }
    clock := ⟨0⟩ }

/-- The new name of the first apple is saved into the second one, whose column `id` queries take for
the key of the first one. -/
theorem not_merge_apples : Creation.apples.compile ⟨[], 10⟩ = .ok Creation.apple ∧
    ¬((ofRow Creation.apple (apple 1 7 "Boskoop")).edited [.set "name" (.text "Idared")]).Merge
      ((ofRow Creation.apple (apple 1 7 "Boskoop")).edited [.set "colour" (.text "green")])
      { registry := {} } orchardSession 0 (apple 1 7 "Boskoop") := by
  refine ⟨by rfl, ?_⟩
  intro merge
  obtain ⟨row, there, shows⟩ := merge.inOrder _
    ⟨_, saves_of_isOk (by decide +kernel), saves_of_isOk (by decide +kernel)⟩
  have kept : row.get? "name" = some (.text "Boskoop") := by
    have first := congrArg (·.bind (·.get? "name")) there
    exact first.symm.trans (by decide +kernel)
  have renamed := shows "name" (by decide)
  rw [kept] at renamed
  exact absurd renamed (by decide)

end Instance

end EntityStore
