import EntityStore.Proofs.Trashing

/-!
# Rows that go to the trash once

In a run of deletions rows are deleted by their instances, fresh or stale, by their keys, and by
queries with the scope of the trash; what else is written meanwhile gives no row a time of deletion
(`Removal`). A step either leaves a row and the time of its deletion as they are or moves a live row
to the trash, and that is what the whole run does (`Model.moves_run`). Main result:
`Model.trashedOnce`. A primary key that is written with its table shows another row than it is of,
and then it fails (`Model.TrashedOnce.not_trashedOnce_apples`).
-/

namespace EntityStore

/-- A step of a run: the row of an instance is deleted, or that of a key, or what a query matches,
or something else is written. -/
inductive Removal where
  | loaded (i : Instance)
  | key (id : Int)
  | matching (q : Query)
  | other (w : Write)

namespace Removal

/-- The session that the step leaves, whatever it answers. -/
def after (m : Model) (db : Database) (s : Session) : Removal → Session
  | .loaded i => (i.delete db s).2
  | .key id => (m.remove id db s).2
  | .matching q => (q.delete db s).2
  | .other w => (Task.write w db s).2

/-- Instances and queries are of the entity, and queries have the scope of the trash. What else is
written leaves the rows of the entity told apart and their times of deletion alone. -/
def Allowed (m : Model) (db : Database) (s : Session) : Removal → Prop
  | .loaded i => i.model = m
  | .key _ => True
  | .matching q => q.model = m ∧ q.scope = .untrashed
  | .other w => w.SparesTrash m ∧ ∀ rows,
      (Task.write w db s).2.engine.tableOf db.handle m.table = .ok rows → m.Numbered rows

/-- What is written besides is allowed if the rows are told apart after it. -/
theorem Allowed.other {m : Model} {db : Database} {s : Session} {w : Write}
    (spares : w.SparesTrash m)
    (numbered : m.Numbered
      (((Task.write w db s).2.engine.tableOf db.handle m.table).toOption.getD [])) :
    (Removal.other w).Allowed m db s := by
  refine ⟨spares, fun rows seen => ?_⟩
  rwa [seen] at numbered

end Removal

namespace Model

/-- The session that a run leaves. -/
def afterRun (m : Model) (db : Database) (s : Session) (run : List Removal) : Session :=
  run.foldl (fun s step => step.after m db s) s

/-- Every step of the run is allowed where it is taken. -/
def AllowsRun (m : Model) (db : Database) (s : Session) : List Removal → Prop
  | [] => True
  | step :: rest => step.Allowed m db s ∧ m.AllowsRun db (step.after m db s) rest

variable {m : Model} {db : Database} {s : Session} {rows : List Row}

theorem afterRun_append (m : Model) (db : Database) (s : Session) (first rest : List Removal) :
    m.afterRun db s (first ++ rest) = m.afterRun db (m.afterRun db s first) rest :=
  List.foldl_append

theorem allowsRun_append {first rest : List Removal} (allowed : m.AllowsRun db s (first ++ rest)) :
    m.AllowsRun db s first ∧ m.AllowsRun db (m.afterRun db s first) rest := by
  induction first generalizing s with
  | nil => exact ⟨trivial, allowed⟩
  | cons step others ih =>
    obtain ⟨here, later⟩ := allowed
    obtain ⟨first, last⟩ := ih later
    exact ⟨⟨here, first⟩, last⟩

/-- An instance with a key deletes the row of its key; one without has none to delete. -/
theorem session_delete (i : Instance) (db : Database) (s : Session) :
    (i.delete db s).2 = i.id?.elim s fun id => (i.model.deleteRow id db s).2 := by
  unfold Instance.delete Instance.requireId
  rw [Work.run_bind, Work.run_ofExcept]
  cases i.id? with
  | none => rfl
  | some id =>
    dsimp only [Option.elim]
    rw [Work.run_bind]
    cases i.model.deleteRow id db s with
    | mk answer s' => cases answer <;> rfl

/-- To remove a key is to delete its row, and to say whether there was one. -/
theorem run_remove (m : Model) (id : Int) (db : Database) (s : Session) :
    m.remove id db s = match m.deleteRow id db s with
      | (.ok _, s') => (.ok true, s')
      | (.error e, s') => if e.kind = .recordNotFound then (.ok false, s') else (.error e, s') := by
  change Work.catchError _ _ db s = _
  unfold Work.catchError
  rw [Work.run_bind]
  cases m.deleteRow id db s with
  | mk answer s' =>
    cases answer with
    | ok found => rfl
    | error e =>
      dsimp only
      split <;> rfl

theorem session_remove (m : Model) (id : Int) (db : Database) (s : Session) :
    (m.remove id db s).2 = (m.deleteRow id db s).2 := by
  rw [run_remove]
  cases m.deleteRow id db s with
  | mk answer s' =>
    cases answer with
    | ok found => rfl
    | error e =>
      dsimp only
      split <;> rfl

/-! ### Steps and runs -/

section

variable (soft : m.traits.softDeletes = true) (plain : '.' ∉ m.primaryKey.toList)

include soft plain

/-- What a step of the run does to the rows. -/
theorem moves_step (seen : s.engine.tableOf db.handle m.table = .ok rows)
    (numbered : m.Numbered rows) {step : Removal} (allowed : step.Allowed m db s) :
    ∃ rows' gone, m.Moves db s (step.after m db s) rows rows' gone := by
  cases step with
  | loaded i =>
    cases (allowed : i.model = m)
    unfold Removal.after
    dsimp only
    rw [session_delete]
    cases i.id? with
    | none => exact ⟨rows, [], .still seen numbered rfl rfl⟩
    | some id => exact moves_deleteRow soft plain seen numbered id
  | key id =>
    unfold Removal.after
    dsimp only
    rw [session_remove]
    exact moves_deleteRow soft plain seen numbered id
  | matching q =>
    obtain ⟨rows', moves⟩ := moves_delete soft seen numbered allowed.1 allowed.2
    exact ⟨rows', [], moves⟩
  | other w =>
    obtain ⟨rows', after, stays⟩ := allowed.1.stays seen
    refine ⟨rows', [], after, allowed.2 rows' after, .silent stays, ?_⟩
    rw [List.flatMap_nil, List.append_nil]
    rfl

/-- What a run does to the rows. -/
theorem moves_run (seen : s.engine.tableOf db.handle m.table = .ok rows)
    (numbered : m.Numbered rows) {run : List Removal} (allowed : m.AllowsRun db s run) :
    ∃ rows' gone, m.Moves db s (m.afterRun db s run) rows rows' gone := by
  induction run generalizing s rows with
  | nil => exact ⟨rows, [], .still seen numbered rfl rfl⟩
  | cons step rest ih =>
    obtain ⟨between, gone, first⟩ := moves_step soft plain seen numbered allowed.1
    obtain ⟨rows', goneToo, later⟩ := ih first.seen first.numbered allowed.2
    exact ⟨rows', gone ++ goneToo, first.trans later⟩

end

/-! ### Once in the trash -/

/-- The rows of the entity after a run, as the handle sees them. -/
def rowsAfter (m : Model) (db : Database) (s : Session) (run : List Removal) : List Row :=
  ((m.afterRun db s run).engine.tableOf db.handle m.table).toOption.getD []

/-- A deletion that is aimed at the row of a key is a miss: it says that there is no such row, and
neither writes nor announces anything. -/
structure Misses (m : Model) (db : Database) (s : Session) (id : Int) : Prop where
  remove : ∃ s', m.remove id db s = (.ok false, s') ∧ s'.engine = s.engine ∧
    s'.announcements = s.announcements
  delete : ∀ i : Instance, i.model = m → i.id? = some id → ∃ s',
    i.delete db s = (.error (.noRecord m.name id), s') ∧ s'.engine = s.engine ∧
      s'.announcements = s.announcements

/-- The rows of the entity go to the trash once in the run. -/
structure TrashedOnce (m : Model) (db : Database) (s : Session) (run : List Removal) : Prop where
  /-- A row that is in the trash at some time is there to the end, since the same time. -/
  kept : ∀ first rest, run = first ++ rest → ∀ row ∈ m.rowsAfter db s first,
    row.isTrashed = true →
      ∃ row' ∈ m.rowsAfter db s run, m.SameKey row row' ∧ row'.deletedAt = row.deletedAt
  /-- The time of a deletion changes only when a live row goes to the trash. -/
  set : ∀ first step rest, run = first ++ step :: rest → ∀ row ∈ m.rowsAfter db s first,
    ∀ row' ∈ m.rowsAfter db s (first ++ [step]), m.SameKey row row' →
      row'.deletedAt ≠ row.deletedAt → row.isTrashed = false ∧ row'.isTrashed = true
  /-- Deletions are announced, of rows in the trash and of each at most once. -/
  announced : ∃ gone : List Row, (gone.map (·.value m.primaryKey)).Nodup ∧
    (∀ row ∈ gone, ∃ row' ∈ m.rowsAfter db s run, m.SameKey row row' ∧ row'.isTrashed = true) ∧
    (m.afterRun db s run).announcements =
      s.announcements ++ gone.flatMap fun row => db.announced ⟨m, .deleted, row⟩
  /-- At any time, what is aimed at a row in the trash misses. -/
  missed : ∀ first rest, run = first ++ rest → ∀ row ∈ m.rowsAfter db s first,
    row.isTrashed = true → ∀ id, row.value m.primaryKey = .int id →
      m.Misses db (m.afterRun db s first) id

theorem rowsAfter_eq {run : List Removal}
    (seen : (m.afterRun db s run).engine.tableOf db.handle m.table = .ok rows) :
    m.rowsAfter db s run = rows := by
  unfold rowsAfter
  rw [seen]
  rfl

section

variable (soft : m.traits.softDeletes = true) (plain : '.' ∉ m.primaryKey.toList)

include soft plain

theorem misses_trashed (seen : s.engine.tableOf db.handle m.table = .ok rows)
    (numbered : m.Numbered rows) {row : Row} (mem : row ∈ rows) (trashed : row.isTrashed = true)
    {id : Int} (key : row.value m.primaryKey = .int id) : m.Misses db s id := by
  obtain ⟨s', missed, still, silent⟩ : ∃ s',
      m.deleteRow id db s = (.error (.noRecord m.name id), s') ∧ s'.engine = s.engine ∧
        s'.announcements = s.announcements := by
    have ends := trashing_deleteRow numbered plain soft seen id
    generalize m.deleteRow id db s = outcome at ends ⊢
    cases ends with
    | missing _ still silent => exact ⟨_, rfl, still, silent⟩
    | moved mem' key' live =>
      rw [← numbered.eq_of_sameKey mem' mem (key.trans key'.symm), trashed] at live
      cases live
  constructor
  · refine ⟨s', ?_, still, silent⟩
    rw [run_remove, missed]
    rfl
  · rintro i rfl carried
    refine ⟨s', ?_, still, silent⟩
    unfold Instance.delete Instance.requireId
    rw [Work.run_bind, Work.run_ofExcept, carried]
    dsimp only
    rw [Work.run_bind, missed]

/-- **Trashed once.** Rows of an entity with a trash are told apart by small integers under a
primary key without a dot. In every run of deletions by instances, keys and queries under any
conditions, between which nothing gives rows a time of deletion, a row goes to the trash at most
once, is announced at most once, and is missed by what is aimed at it afterwards. -/
theorem trashedOnce (seen : s.engine.tableOf db.handle m.table = .ok rows)
    (numbered : m.Numbered rows) {run : List Removal} (allowed : m.AllowsRun db s run) :
    m.TrashedOnce db s run := by
  -- A run is taken apart into what was before a time and what comes after it.
  have reached (first rest : List Removal) (split : run = first ++ rest) :
      ∃ rows' gone, m.Moves db s (m.afterRun db s first) rows rows' gone ∧
        m.AllowsRun db (m.afterRun db s first) rest := by
    obtain ⟨before, after⟩ := allowsRun_append (split ▸ allowed)
    obtain ⟨rows', gone, moves⟩ := moves_run soft plain seen numbered before
    exact ⟨rows', gone, moves, after⟩
  constructor
  · intro first rest split row mem trashed
    obtain ⟨between, gone, moves, left⟩ := reached first rest split
    rw [rowsAfter_eq moves.seen] at mem
    obtain ⟨rows', goneToo, later⟩ := moves_run soft plain moves.seen moves.numbered left
    rw [← afterRun_append, ← split] at later
    obtain ⟨row', there, key, same, -⟩ := later.course.stays.trashed mem trashed
    exact ⟨row', by rwa [rowsAfter_eq later.seen], key, same⟩
  · intro first step rest split row mem row' mem' key changed
    obtain ⟨between, gone, moves, left⟩ := reached first (step :: rest) split
    rw [rowsAfter_eq moves.seen] at mem
    obtain ⟨rows', goneToo, later⟩ := moves_step soft plain moves.seen moves.numbered left.1
    have here : m.afterRun db s (first ++ [step]) = step.after m db (m.afterRun db s first) :=
      m.afterRun_append db s first [step]
    rw [rowsAfter_eq (by rw [here, later.seen])] at mem'
    obtain ⟨other, there, keyOther, ends⟩ := later.course.stays row mem
    rw [later.numbered.eq_of_sameKey mem' there (keyOther.trans key.symm)] at ends
    exact ends.resolve_left changed
  · obtain ⟨rows', gone, moves⟩ := moves_run soft plain seen numbered allowed
    refine ⟨gone, moves.course.once, ?_, moves.announced⟩
    rw [rowsAfter_eq moves.seen]
    exact moves.course.arrived
  · intro first rest split row mem trashed id key
    obtain ⟨between, gone, moves, -⟩ := reached first rest split
    rw [rowsAfter_eq moves.seen] at mem
    exact misses_trashed soft plain moves.seen moves.numbered mem trashed key

end

/-! ### Notes and apples -/

namespace TrashedOnce

/-- Notes, with a trash. -/
def note : Model :=
  .bare "Note" "notes" [] { softDeletes := true }

/-- A note on tea. -/
def tea : Row :=
  .ofFields [("id", .int 1), ("title", .text "Tea")]

/-- The session that runs on two live notes and one in the trash. -/
def desk : Session :=
  { engine := { shared :=
      { tables := [("notes",
          [tea, .ofFields [("deleted_at", .text "2024-01-01T00:00:00Z"), ("id", .int 2)],
           .ofFields [("id", .int 3), ("title", .text "Coffee")]])]
        sequences := [("notes", 3)] } }
    clock := ⟨0⟩ }

/-- The first note is removed by its key, by an instance that was read before, and by a query with
an OR of its own, that the third note meets. One more note is made, and some are removed again. -/
def clearing : List Removal :=
  [.key 1, .loaded (.ofRow note tea),
   .matching { note.query with
     conditions := [(.and, .compare "title" .eq (.text "Tea")), (.or, .compare "id" .gt (.int 0))] },
   .other (.insert { table := "notes", rows := [.ofFields [("title", .text "Milk")]] }),
   .key 2, .key 4]

/-- The notes go to the trash once. -/
theorem trashedOnce_notes :
    note.AllowsRun { registry := {} } desk clearing ∧
      note.TrashedOnce { registry := {} } desk clearing := by
  have allowed : note.AllowsRun { registry := {} } desk clearing :=
    ⟨trivial, rfl, ⟨rfl, rfl⟩, .other trivial (by decide +kernel), trivial, trivial, trivial⟩
  have seen : desk.engine.tableOf ({ registry := {} } : Database).handle note.table =
      .ok (desk.engine.shared.rows "notes") := rfl
  exact ⟨allowed, trashedOnce rfl (by decide) seen (by decide) allowed⟩

/-- Apples, with a trash, whose primary key is named like the qualified name of another column. -/
def apples : Schema :=
  { name := "Apple", table := some "apples", primaryKey := some "apples.id"
    attributes := [("id", { type := .integer, fillable := true })]
    traits := { timestamps := false, softDeletes := true } }

/-- The entity of the apples. -/
def apple : Model :=
  match apples.compile ⟨[], 10⟩ with
  | .ok m => m
  | .error _ => .bare "Apple" "apples" [] {}

/-- An apple in the trash, whose column `id` holds the key of another apple. -/
def fallen : Row :=
  .ofFields [("apples.id", .int 1), ("deleted_at", .text "2024-01-01T00:00:00Z"), ("id", .int 2)]

/-- The session that runs on the fallen apple and on a live one. -/
def orchard : Session :=
  { engine := { shared :=
      { tables := [("apples", [fallen, .ofFields [("apples.id", .int 2), ("id", .int 2)]])]
        sequences := [("apples", 2)] } }
    clock := ⟨0⟩ }

/-- The live apple is removed, and the fallen one is given the time of its deletion as well: the
update reads the keys of both in their columns `id`. -/
theorem not_trashedOnce_apples :
    apples.compile ⟨[], 10⟩ = .ok apple ∧ apple.traits.softDeletes = true ∧
      apple.Numbered (orchard.engine.shared.rows "apples") ∧
      apple.AllowsRun { registry := {} } orchard [.key 2] ∧
      ¬apple.TrashedOnce { registry := {} } orchard [.key 2] := by
  refine ⟨by rfl, by decide, by decide, ⟨trivial, trivial⟩, fun once => ?_⟩
  obtain ⟨row, mem, -, same⟩ := once.kept [] [.key 2] rfl fallen (by decide) (by decide)
  have changed : ∀ row ∈ apple.rowsAfter { registry := {} } orchard [.key 2],
      row.deletedAt ≠ fallen.deletedAt := by
    decide +kernel
  exact changed row mem same

end TrashedOnce

end Model

end EntityStore
