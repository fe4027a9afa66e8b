import EntityStore.Proofs.Insertions
import EntityStore.Proofs.MassAssignment
import EntityStore.Proofs.Records

/-!
# Making rows

Rows are made by four calls, one of which takes several. All of them insert what is let through of
the given values by one statement (`Creation.ended`). Main result: `Creation.atomic_iff`; a call leaves
everything as it was and ends in an error, or it adds one row for each of the given ones and answers
them, exactly when the rows that it gets to place show queries their keys. Under a primary key without
a dot they do (`Creation.atomic_of_plain`).
-/

namespace EntityStore

namespace Schema.Compiles

variable {schema : Schema} {resolver : RelationResolver} {m : Model}

/-- The primary key has its name for itself. -/
theorem key_ne (compiles : schema.Compiles resolver m) {name : String}
    (listed : name ∈ schema.allColumns.tail.map (·.name)) : m.primaryKey ≠ name := by
  obtain ⟨all, apart⟩ := columns_eq_ok compiles.columns
  rw [all] at apart
  have first : schema.primaryKeyName ∉ schema.allColumns.tail.map (·.name) :=
    (List.nodup_cons.1 apart).1
  rw [compiles.primaryKey]
  exact fun same => first (same ▸ listed)

/-- The primary key is not the stamp of a change. -/
theorem key_ne_updated (compiles : schema.Compiles resolver m)
    (stamps : m.traits.timestamps = true) : m.primaryKey ≠ "updated_at" := by
  rw [compiles.traits] at stamps
  exact compiles.key_ne (by simp [allColumns, columnIf, stamps])

/-- What the traits put into a new row is not the primary key. -/
theorem get?_drafted (compiles : schema.Compiles resolver m) (s : Session) (row : Row) :
    (m.drafted s row).get? m.primaryKey = row.get? m.primaryKey := by
  have identified (row : Row) : (if m.traits.uuid then
      row.insert "uuid" (.text (Uuid.ofNumber s.identifiers)) else row).get? m.primaryKey =
        row.get? m.primaryKey := by
    split
    · next uuid =>
      rw [compiles.traits] at uuid
      have other : m.primaryKey ≠ "uuid" :=
        compiles.key_ne (by simp [allColumns, columnIf, uuid])
      exact Row.get?_insert_of_ne _ _ other
    · rfl
  unfold Model.drafted
  dsimp only
  split
  · next stamps =>
    have updated := compiles.key_ne_updated stamps
    rw [compiles.traits] at stamps
    have created : m.primaryKey ≠ "created_at" :=
      compiles.key_ne (by simp [allColumns, columnIf, stamps])
    rw [Row.get?_stamped, if_neg created, if_neg updated, Option.or_none, Option.or_none,
      identified]
  · exact identified row

/-- No row of what may be assigned in bulk carries a primary key. -/
theorem keyOf?_filterFillable (compiled : schema.compile resolver = .ok m) (values : Row) :
    Store.keyOf? m.primaryKey (m.filterFillable values) = none := by
  have compiles := compile_eq_ok compiled
  have system : m.primaryKey ∈ schema.systemNames := by
    rw [compiles.primaryKey]
    exact List.mem_cons_self
  have unfillable := compiles.system_unfillable system
  rw [← (lists_of_compile compiled).fillable] at unfillable
  have dropped : m.isFillable m.primaryKey = false := by simp [Model.isFillable, unfillable]
  unfold Store.keyOf? Model.filterFillable
  rw [Row.get?_filter]
  cases values.get? m.primaryKey <;> simp [Option.filter, dropped]

end Schema.Compiles

namespace Model

variable {m : Model} {s : Session}

/-- The instances are those of stored rows, with nothing set since. -/
def Hold (m : Model) (rows : List Row) (found : List Instance) : Prop :=
  found.map (·.attributes) = rows ∧
    ∀ i ∈ found, i.model = m ∧ i.stored = true ∧ i.loaded = i.attributes

theorem hold_ofRow (m : Model) (rows : List Row) : m.Hold rows (rows.map (Instance.ofRow m)) := by
  refine ⟨?_, fun i mem => ?_⟩
  · rw [List.map_map]
    exact List.map_id rows
  · obtain ⟨row, -, rfl⟩ := List.mem_map.1 mem
    exact ⟨rfl, rfl, rfl⟩

/-- Under a name without a dot a row shows queries the key that it carries. -/
theorem reads_of_keyOf? (plain : '.' ∉ m.primaryKey.toList) {row : Row} {key : Int}
    (carried : Store.keyOf? m.primaryKey row = some key) : m.reads key row = true := by
  have own : row.get? m.primaryKey = some (.int key) := by
    rw [← Store.insert_keyOf? carried, Row.get?_insert_self]
  rw [reads_plain plain, Row.value_eq own, Value.looseEq_int_self]

/-- Under a name without a dot rows show queries the keys that they are placed under. -/
theorem shows_of_plain (plain : '.' ∉ m.primaryKey.toList) {keyed : List (Int × Row)}
    (carried : ∀ pair ∈ keyed, Store.keyOf? m.primaryKey pair.2 = some pair.1) : m.Shows keyed :=
  fun pair mem => ⟨pair.1, List.mem_map_of_mem mem, reads_of_keyOf? plain (carried pair mem)⟩

end Model

/-- A call that makes new rows of an entity. -/
inductive Creation where
  | create (values : Row)
  | createMany (rows : List Row)
  | forceCreate (values : Row)
  | save (i : Instance)

namespace Creation

/-- What the call answers; an instance that is saved is answered as it is afterwards. -/
def run (m : Model) : Creation → Task (List Instance)
  | .create values => do return [← m.create values]
  | .createMany rows => m.createMany rows
  | .forceCreate values => do return [← m.forceCreate values]
  | .save i => do return [← i.save]

/-- The rows that are to be inserted: the given values, as far as the call lets them through. -/
def rows (m : Model) : Creation → List Row
  | .create values => [m.filterFillable values]
  | .createMany rows => rows.map m.filterFillable
  | .forceCreate values => [m.filterColumns values]
  | .save i => [m.filterColumns i.attributes]

/-- The rules are asked. -/
def validated : Creation → Bool
  | .forceCreate _ => false
  | _ => true

/-- An instance that is to be saved is a new one of the entity. -/
def IsNew (m : Model) : Creation → Prop
  | .save i => i.model = m ∧ i.stored = false
  | _ => True

variable {c : Creation} {m : Model} {db : Database} {s : Session} {schema : Schema}
  {resolver : RelationResolver}

/-- No row of a call is given a key that another one carries. -/
theorem orderly (compiled : schema.compile resolver = .ok m) (c : Creation) (s : Session)
    (last : Int) :
    Store.overtakes m.primaryKey last (m.drafts s (c.rows m)) = false := by
  cases c with
  | create values | forceCreate values | save i => exact Store.overtakes_singleton _ _ _
  | createMany given =>
    refine Store.overtakes_keyless ?_ last
    have compiles := Schema.compile_eq_ok compiled
    change ∀ row ∈ m.drafts s (given.map m.filterFillable), _
    induction given generalizing s with
    | nil => exact fun _ none => nomatch none
    | cons values rest ih =>
      rw [List.map_cons, Model.drafts]
      refine List.forall_mem_cons.2 ⟨?_, ih (m.drew s)⟩
      have own := Schema.Compiles.keyOf?_filterFillable compiled values
      unfold Store.keyOf? at own ⊢
      rw [compiles.get?_drafted]
      exact own

/-- The ends of a call are those of its insertion. -/
inductive Ended (c : Creation) (m : Model) (db : Database) (s : Session) :
    Except Error (List Instance) × Session → Prop where
  | refused {e : Error} {s' : Session} (refused : m.appends? db s (c.rows m) c.validated = none)
    (still : s'.engine = s.engine) (silent : s'.announcements = s.announcements) :
    Ended c m db s (.error e, s')
  | lost {keyed : List (Int × Row)} {e : Error} {s' : Session}
    (placed : m.appends? db s (c.rows m) c.validated = some keyed)
    (grown : s.engine.Grown s'.engine .shared m.table (keyed.map (·.2)))
    (lost : ¬ m.Shows keyed) : Ended c m db s (.error e, s')
  | inserted {keyed : List (Int × Row)} {found : List Instance} {s' : Session}
    (placed : m.appends? db s (c.rows m) c.validated = some keyed)
    (grown : s.engine.Grown s'.engine .shared m.table (keyed.map (·.2)))
    (shown : m.Shows keyed) (held : m.Hold (keyed.map (·.2)) found)
    (announced : s'.announcements = s.announcements ++
      (keyed.map (·.2)).flatMap fun row => db.announced ⟨m, .created, row⟩) :
    Ended c m db s (.ok found, s')

/-- A call that makes one row answers what it makes of the instance of this row. -/
theorem ended_single {row : Row} (finish : Instance → Instance) (other : Task (List Instance))
    (single : c.rows m = [row])
    (finished : ∀ row, m.Hold [row] [finish (Instance.ofRow m row)])
    (inserts : m.RowsInserted (c.rows m) c.validated db s
      (m.insertRows (c.rows m) c.validated db s))
    (runs : c.run m = m.insertRows (c.rows m) c.validated >>= fun found =>
      match found.head? with
      | some i => return [finish i]
      | none => other) : c.Ended m db s (c.run m db s) := by
  rw [runs, Work.run_bind]
  generalize m.insertRows (c.rows m) c.validated db s = outcome at inserts ⊢
  cases inserts with
  | refused refused still silent => exact .refused refused still silent
  | lost placed grown lost silent => exact .lost placed grown lost
  | @inserted keyed s' placed grown shown announced =>
    -- One row was given, so that one was placed.
    obtain ⟨pair, rfl⟩ : ∃ pair, keyed = [pair] := by
      have length := Model.length_of_appends? placed
      rw [single] at length
      exact List.length_eq_one_iff.1 length
    exact .inserted placed grown shown (finished pair.2) announced

/-- Every call ends as its insertion does. -/
theorem ended (compiled : schema.compile resolver = .ok m) (shared : db.handle = .shared)
    (tracked : s.engine.shared.Keyed m.table m.primaryKey)
    (distinct : (s.engine.shared.keys m.table m.primaryKey).Nodup) (new : c.IsNew m) :
    c.Ended m db s (c.run m db s) := by
  have inserts : m.RowsInserted (c.rows m) c.validated db s
      (m.insertRows (c.rows m) c.validated db s) :=
    Model.rowsInserted shared tracked distinct (orderly compiled c s _)
  have one (row : Row) (validated : Bool) : (do return [← m.insertOne row validated]) =
      m.insertRows [row] validated >>= fun found =>
        match found.head? with
        | some i => return [i]
        | none => throw (.notRetrieved "created" m.name) := by
    unfold Model.insertOne
    rw [bind_assoc]
    congr
    funext found
    cases found.head? <;> rfl
  cases c with
  | create values | forceCreate values =>
    exact ended_single id _ rfl (fun row => m.hold_ofRow [row]) inserts (one _ _)
  | createMany given =>
    change Ended _ m db s (m.insertRows (given.map m.filterFillable) true db s)
    change m.RowsInserted _ true db s (m.insertRows (given.map m.filterFillable) true db s) at inserts
    generalize m.insertRows (given.map m.filterFillable) true db s = outcome at inserts ⊢
    cases inserts with
    | refused refused still silent => exact .refused refused still silent
    | lost placed grown lost silent => exact .lost placed grown lost
    | inserted placed grown shown announced =>
      exact .inserted placed grown shown (m.hold_ofRow _) announced
  | save i =>
    obtain ⟨rfl, unstored⟩ := new
    have held (row : Row) : i.model.Hold [row] [i.synchronised row row] :=
      ⟨rfl, List.forall_mem_singleton.2 ⟨rfl, rfl, rfl⟩⟩
    refine ended_single (fun created => i.synchronised created.attributes created.attributes)
      (return [i]) rfl held inserts ?_
    change (do return [← i.save]) = _
    unfold Instance.save
    rw [unstored, Bool.not_false, if_pos rfl, bind_assoc]
    congr
    funext found
    cases found.head? <;> rfl

/-- A call is atomic. It ends in an error, all tables are as they were and nothing was announced; or
it appends one row for each of the given ones, in their order and completed, under the key that the
row carries or else under a new one, changes nothing besides, answers the instances of these rows and
announces them. -/
inductive Atomic (c : Creation) (m : Model) (db : Database) (s : Session) :
    Except Error (List Instance) × Session → Prop where
  | refused {e : Error} {s' : Session}
    (unchanged : ∀ handle table, s'.engine.tableOf handle table = s.engine.tableOf handle table)
    (silent : s'.announcements = s.announcements) : Atomic c m db s (.error e, s')
  | inserted {keys : List Int} {found : List Instance} {s' : Session}
    (given : List.Forall₂ (fun row key => ∀ carried ∈ Store.keyOf? m.primaryKey row, key = carried)
      (c.rows m) keys)
    (fresh : (s.engine.shared.keys m.table m.primaryKey ++ keys).Nodup)
    (grown : s.engine.Grown s'.engine .shared m.table (m.keyedRows s (c.rows m) keys))
    (held : m.Hold (m.keyedRows s (c.rows m) keys) found)
    (announced : s'.announcements = s.announcements ++
      (m.keyedRows s (c.rows m) keys).flatMap fun row => db.announced ⟨m, .created, row⟩) :
    Atomic c m db s (.ok found, s')

theorem Atomic.unchanged {outcome : Except Error (List Instance) × Session}
    (atomic : c.Atomic m db s outcome) (failed : outcome.1.isOk = false) (handle : Handle)
    (table : String) : outcome.2.engine.tableOf handle table = s.engine.tableOf handle table := by
  cases atomic with
  | refused unchanged => exact unchanged handle table
  | inserted => cases failed

/-- Completing rows leaves them the keys that they carry. -/
theorem forall₂_drafts (compiles : schema.Compiles resolver m) {rows : List Row} {keys : List Int}
    (given : List.Forall₂ (fun row key => ∀ carried ∈ Store.keyOf? m.primaryKey row, key = carried)
      (m.drafts s rows) keys) :
    List.Forall₂ (fun row key => ∀ carried ∈ Store.keyOf? m.primaryKey row, key = carried)
      rows keys := by
  induction rows generalizing s keys with
  | nil =>
    cases given
    exact .nil
  | cons row rest ih =>
    rw [Model.drafts] at given
    cases given with
    | cons first others =>
      refine .cons (fun carried own => first carried ?_) (ih others)
      unfold Store.keyOf? at own ⊢
      rw [compiles.get?_drafted]
      exact own

section

variable (compiled : schema.compile resolver = .ok m) (shared : db.handle = .shared)
  (tracked : s.engine.shared.Keyed m.table m.primaryKey)
  (distinct : (s.engine.shared.keys m.table m.primaryKey).Nodup) (new : c.IsNew m)

include compiled shared tracked distinct new

/-- If the placed rows show their keys, the call is atomic. -/
theorem atomic_of_shows (shows : ∀ keyed ∈ m.appends? db s (c.rows m) c.validated, m.Shows keyed) :
    c.Atomic m db s (c.run m db s) := by
  have ends := ended compiled shared tracked distinct new
  generalize c.run m db s = outcome at ends ⊢
  cases ends with
  | refused refused still silent =>
    exact .refused (fun _ _ => by rw [still]) silent
  | lost placed grown lost => exact absurd (shows _ placed) lost
  | inserted placed grown shown held announced =>
    have orderly := orderly compiled c s (s.engine.shared.sequence m.table)
    obtain ⟨rows, given⟩ := Model.rows_of_appends? placed
    rw [rows] at grown held announced
    exact .inserted (forall₂_drafts (Schema.compile_eq_ok compiled) given)
      (Model.nodup_placed placed tracked distinct orderly) grown held announced

/-- **Making rows is atomic** where the new rows can be found again. On the shared store of a compiled
entity whose table has distinct keys that its sequence has reached, a call is atomic exactly when the
rows that it gets to place show queries the keys that they are placed under. -/
theorem atomic_iff : c.Atomic m db s (c.run m db s) ↔
    ∀ keyed ∈ m.appends? db s (c.rows m) c.validated, m.Shows keyed := by
  refine ⟨fun atomic keyed placed => ?_, atomic_of_shows compiled shared tracked distinct new⟩
  have ends := ended compiled shared tracked distinct new
  generalize c.run m db s = outcome at atomic ends
  cases ends with
  | refused refused => cases refused.symm.trans placed
  | inserted placed' grown shown =>
    cases placed.symm.trans placed'
    exact shown
  | @lost keyed' e s' placed' grown lost =>
    -- The call has failed, so that nothing may be placed: then nothing is hidden either.
    cases placed.symm.trans placed'
    have longer := Except.ok.inj (grown.rows.symm.trans (atomic.unchanged rfl .shared m.table))
    have none : keyed = [] := List.map_eq_nil_iff.1 (List.append_right_eq_self.1 longer)
    rw [none]
    exact fun _ mem => nomatch mem

/-- Under a primary key without a dot every call is atomic. -/
theorem atomic_of_plain (plain : '.' ∉ m.primaryKey.toList) : c.Atomic m db s (c.run m db s) :=
  atomic_of_shows compiled shared tracked distinct new fun _ placed =>
    Model.shows_of_plain plain (Model.carried_of_appends? placed)

end

/-- A store with one post. -/
def firstPost : Store :=
  { tables := [("posts", [.ofFields [("id", .int 1), ("title", .text "Tea")]])]
    sequences := [("posts", 1)] }

/-- Two posts are made at once and announced, though one of the callers wants to choose its key. -/
theorem atomic_posts :
    Assignment.posts.compile ⟨[{ name := "User", table := some "users" }], 10⟩ = .ok Assignment.post ∧
      firstPost.Keyed "posts" "id" ∧ (firstPost.keys "posts" "id").Nodup ∧
      (createMany [Assignment.honest, Assignment.forged]).Atomic Assignment.post
        { registry := {}, bus := some .recording } { engine := { shared := firstPost }, clock := ⟨0⟩ }
        ((createMany [Assignment.honest, Assignment.forged]).run Assignment.post
          { registry := {}, bus := some .recording }
          { engine := { shared := firstPost }, clock := ⟨0⟩ }) := by
  have compiled : Assignment.posts.compile ⟨[{ name := "User", table := some "users" }], 10⟩ =
      .ok Assignment.post := by
    rfl
  have tracked : firstPost.Keyed "posts" "id" := ⟨by decide, by decide⟩
  have distinct : (firstPost.keys "posts" "id").Nodup := by decide
  have new : (createMany [Assignment.honest, Assignment.forged]).IsNew Assignment.post := trivial
  refine ⟨compiled, tracked, distinct, ?_⟩
  refine (atomic_iff compiled rfl tracked distinct new).2 fun keyed placed => ?_
  exact Model.shows_of_plain (by decide) (Model.carried_of_appends? placed)

/-- Apples whose primary key is named like the qualified name of another column. -/
def apples : Schema :=
  { name := "Apple", table := some "apples", primaryKey := some "apples.id"
    attributes := [("id", { type := .integer, fillable := true }), ("name", { fillable := true }),
      ("colour", { fillable := true })]
    traits := { timestamps := false } }

/-- The entity of the apples. -/
def apple : Model :=
  match apples.compile ⟨[], 10⟩ with
  | .ok m => m
  | .error _ => .bare "Apple" "apples" [] {}

/-- The new apple is placed but not found again: queries read its key in its column `id`. -/
theorem not_atomic_apples : apples.compile ⟨[], 10⟩ = .ok apple ∧
    ({} : Store).Keyed "apples" "apples.id" ∧
    ¬(create (.ofFields [("id", .int 5)])).Atomic apple { registry := {} } { clock := ⟨0⟩ }
      ((create (.ofFields [("id", .int 5)])).run apple { registry := {} } { clock := ⟨0⟩ }) := by
  have compiled : apples.compile ⟨[], 10⟩ = .ok apple := by rfl
  have tracked : ({} : Store).Keyed "apples" "apples.id" := ⟨by decide, by decide⟩
  refine ⟨compiled, tracked, fun atomic => ?_⟩
  have unchanged := atomic.unchanged (by decide +kernel) .shared "apples"
  have lengths := congrArg (fun rows => (rows.toOption.map List.length).getD 0) unchanged
  exact absurd lengths (by decide +kernel)

end Creation

end EntityStore
