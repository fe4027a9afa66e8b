import EntityStore.Proofs.Drawing
import EntityStore.Proofs.KeyValues
import EntityStore.Proofs.RowUpdates
import EntityStore.Proofs.Tables
import EntityStore.Model.Operations

/-!
# New rows of an entity

New rows are checked and completed one by one (`Model.drafts`), placed into the table by one statement
(`Model.appends?`), read again under their keys, and announced. An insertion is refused before it
has placed anything, or it ends well, or it has placed its rows and does not find all of them again
(`Model.RowsInserted`). The rows are looked for by what queries read as their primary key.
-/

namespace EntityStore

/-- The rows are those of the insertion under their keys. -/
structure Insert.Places (statement : Insert) (keyed : List (Int × Row)) : Prop where
  rows : keyed.map (·.2) = statement.keyedRows (keyed.map (·.1))
  length : keyed.length = statement.rows.length
  carries : ∀ pair ∈ keyed, Store.keyOf? statement.returning pair.2 = some pair.1

theorem Insert.Places.of_assigned {statement : Insert} {keyed : List (Int × Row)} {last final : Int}
    (assigned : Store.assignKeys statement.returning last statement.rows = .ok (keyed, final)) :
    statement.Places keyed where
  rows := (Store.assignKeys_keyedRows assigned).1
  length := (Store.assignKeys_keyedRows assigned).2
  carries pair mem := ((Store.assignKeys_carries assigned).2 pair mem).1

/-- Rows that are drawn with their keys are placed under the same ones. -/
theorem Insert.Places.placed {statement : Insert} {drawn keyed : List (Int × Row)}
    {last final : Int} (places : statement.Places drawn)
    (assigned : Store.assignKeys statement.returning last (drawn.map (·.2)) = .ok (keyed, final)) :
    statement.Places keyed := by
  have carried : ∀ row ∈ drawn.map (·.2),
      (Store.keyOf? statement.returning row).isSome = true := by
    intro row mem
    obtain ⟨pair, there, rfl⟩ := List.mem_map.1 mem
    rw [places.carries pair there]
    rfl
  obtain ⟨rows, keys, -⟩ := Store.assignKeys_carried carried assigned
  have same : (drawn.map (·.2)).filterMap (Store.keyOf? statement.returning) =
      drawn.map (·.1) := by
    rw [List.filterMap_map, List.filterMap_eq_map_iff_forall_eq_some]
    exact places.carries
  have lengths := congrArg List.length rows
  rw [List.length_map, List.length_map] at lengths
  refine ⟨?_, lengths.trans places.length, fun pair mem => ?_⟩
  · rw [rows, keys, same, places.rows]
  · exact ((Store.assignKeys_carries assigned).2 pair mem).1

namespace Engine

/-- From one engine to another rows are appended to a table as a handle sees it, and nothing changes
that any handle sees besides. -/
structure Grown (before after : Engine) (handle : Handle) (table : String) (new : List Row) :
    Prop where
  rows : after.tableOf handle table = (before.tableOf handle table).map (· ++ new)
  others : ∀ handle' table', (handle', table') ≠ (handle, table) →
    after.tableOf handle' table' = before.tableOf handle' table'

theorem Grown.refl (engine : Engine) (handle : Handle) (table : String) :
    engine.Grown engine handle table [] where
  rows := by
    cases engine.tableOf handle table with
    | error e => rfl
    | ok rows => exact congrArg Except.ok (List.append_nil rows).symm
  others _ _ _ := rfl

/-- Appending rows to a table of the shared store shows to the shared handle only. -/
theorem grown_appended (engine : Engine) (table : String) (keyed : List (Int × Row)) (last : Int) :
    engine.Grown { engine with shared := engine.shared.appended table keyed last } .shared table
      (keyed.map (·.2)) where
  rows := congrArg Except.ok (Store.rows_appended_self _ _ _ _)
  others := by
    intro handle table' others
    cases handle with
    | shared =>
      have different : table' ≠ table := fun same => others (same ▸ rfl)
      exact congrArg Except.ok (Store.rows_setRows_of_ne _ _ different)
    | transaction index =>
      rw [tableOf_transaction, tableOf_transaction]
      rfl

/-- An insertion that is accepted appends its rows under their keys to the store behind the handle.
In a transaction the keys are drawn before from the shared store. -/
theorem storeOf_insert {engine : Engine} {handle : Handle} {statement : Insert}
    {answer : Store.WriteAnswer}
    (accepted : (engine.write handle (.insert statement)).1 = .ok answer) :
    ∃ store keyed last, engine.storeOf handle = .ok store ∧
      (engine.write handle (.insert statement)).2.storeOf handle =
        .ok (store.appended statement.table keyed last) ∧
      answer = .inserted (keyed.map (·.1)) ∧ statement.Places keyed := by
  cases handle with
  | shared =>
    unfold write at accepted ⊢
    cases ran : engine.shared.write (.insert statement) with
    | error e =>
      rw [ran] at accepted
      cases accepted
    | ok result =>
      obtain ⟨keyed, last, -, assigned, answered, appended⟩ := Store.write_insert ran
      rw [ran] at accepted
      cases accepted
      exact ⟨engine.shared, keyed, last, rfl, congrArg Except.ok appended, answered,
        .of_assigned assigned⟩
  | transaction index =>
    obtain ⟨t, prepared, shared, working, active, drew, ran, -, reopened⟩ := write_accepted accepted
    obtain ⟨drawn, _, fixed, rfl, -⟩ := prepare_insert drew
    obtain ⟨keyed, last, -, assigned, answered, rfl⟩ := Store.write_insert ran
    have places : statement.Places drawn := .of_assigned fixed
    refine ⟨t.working, keyed, last, ?_, ?_, answered, places.placed assigned⟩
    · rw [storeOf_transaction, active]
      rfl
    · rw [storeOf_transaction, reopened]
      rfl

/-- What an insertion adds shows to its handle, and nothing changes that any handle sees besides. -/
theorem grown_insert {engine : Engine} {handle : Handle} {statement : Insert}
    {answer : Store.WriteAnswer}
    (accepted : (engine.write handle (.insert statement)).1 = .ok answer) :
    ∃ keyed : List (Int × Row), answer = .inserted (keyed.map (·.1)) ∧ statement.Places keyed ∧
      engine.Grown (engine.write handle (.insert statement)).2 handle statement.table
        (keyed.map (·.2)) := by
  obtain ⟨store, keyed, last, opened, changed, answered, places⟩ := storeOf_insert accepted
  refine ⟨keyed, answered, places, ?_, fun handle' table' others => ?_⟩
  · rw [tableOf, changed, tableOf, opened]
    exact congrArg Except.ok (store.rows_appended_self _ _ _)
  · by_cases same : handle' = handle
    · subst same
      have different : table' ≠ statement.table := fun same => others (same ▸ rfl)
      rw [tableOf, changed, tableOf, opened]
      exact congrArg Except.ok (store.rows_setRows_of_ne _ different)
    · exact tableOf_write_of_ne same _

end Engine

/-- An insertion that answers keys has added rows under them. -/
theorem Task.grown_insert {statement : Insert} {db : Database} {s s' : Session} {keys : List Int}
    (ran : Task.insert statement db s = (.ok keys, s')) :
    ∃ keyed : List (Int × Row), keys = keyed.map (·.1) ∧ statement.Places keyed ∧
      s.engine.Grown s'.engine db.handle statement.table (keyed.map (·.2)) := by
  unfold Task.insert at ran
  obtain ⟨answer, _, wrote, answered⟩ := Work.bind_eq_ok.1 ran
  cases answered
  rw [Task.run_write] at wrote
  obtain ⟨accepted, rfl⟩ := Prod.mk.inj wrote
  obtain ⟨keyed, rfl, places, grown⟩ := Engine.grown_insert accepted
  exact ⟨keyed, rfl, places, grown⟩

namespace Store

variable {store : Store} {statement : Insert} {keyed : List (Int × Row)}

/-- The rows that an insertion places, with their keys; nothing when the store does not accept it. -/
def placed? (store : Store) (statement : Insert) : Option (List (Int × Row)) :=
  match firstTaken (store.keys statement.table statement.returning)
      (statement.rows.filterMap (keyOf? statement.returning)) with
  | some _ => none
  | none =>
    (assignKeys statement.returning (store.sequence statement.table) statement.rows).toOption.map
      (·.1)

theorem write_refused (refused : store.placed? statement = none) :
    ∃ e, store.write (.insert statement) = .error e := by
  cases ran : store.write (.insert statement) with
  | error e => exact ⟨e, rfl⟩
  | ok result =>
    obtain ⟨keyed, last, free, assigned, -, -⟩ := write_insert ran
    unfold placed? at refused
    rw [free, assigned] at refused
    cases refused

theorem placed?_eq_some (placed : store.placed? statement = some keyed) :
    ∃ last, firstTaken (store.keys statement.table statement.returning)
        (statement.rows.filterMap (keyOf? statement.returning)) = none ∧
      assignKeys statement.returning (store.sequence statement.table) statement.rows =
        .ok (keyed, last) := by
  unfold placed? at placed
  split at placed
  · cases placed
  · next free =>
    cases assigned : assignKeys statement.returning (store.sequence statement.table)
        statement.rows with
    | error e =>
      rw [assigned] at placed
      cases placed
    | ok result =>
      rw [assigned] at placed
      cases placed
      exact ⟨result.2, free, rfl⟩

theorem write_placed? (placed : store.placed? statement = some keyed) :
    ∃ last, store.write (.insert statement) =
      .ok (.inserted (keyed.map (·.1)), store.appended statement.table keyed last) := by
  obtain ⟨last, free, assigned⟩ := placed?_eq_some placed
  exact ⟨last, write_insert_ok free assigned⟩

/-- Placed rows are those of the insertion under their keys, in order; a row that carries a key keeps
it. -/
theorem assigned_rows {column : String} {rows : List Row} {last final : Int}
    (assigned : assignKeys column last rows = .ok (keyed, final)) :
    keyed.map (·.2) = List.zipWith (fun row key => row.insert column (.int key)) rows
        (keyed.map (·.1)) ∧
      List.Forall₂ (fun row key => ∀ carried ∈ keyOf? column row, key = carried) rows
        (keyed.map (·.1)) := by
  induction rows generalizing last keyed with
  | nil =>
    cases assigned
    exact ⟨rfl, .nil⟩
  | cons row rest ih =>
    obtain ⟨key, done, given, later, rfl⟩ := assignKeys_cons assigned
    obtain ⟨rows, kept⟩ := ih later
    refine ⟨congrArg (row.insert column (.int key) :: ·) rows, .cons (fun carried own => ?_) kept⟩
    rcases keyFor_eq_ok given with same | ⟨keyless, -⟩
    · exact Option.some.inj (same.symm.trans own)
    · rw [keyless] at own
      cases own

/-- One row alone is not in the way of another. -/
theorem overtakes_singleton (column : String) (last : Int) (row : Row) :
    overtakes column last [row] = false := by
  unfold overtakes
  cases keyOf? column row <;> rfl

/-- Rows that carry no keys are not in the way of each other. -/
theorem overtakes_keyless {column : String} {rows : List Row}
    (keyless : ∀ row ∈ rows, keyOf? column row = none) (last : Int) :
    overtakes column last rows = false := by
  induction rows generalizing last with
  | nil => rfl
  | cons row rest ih =>
    have others : rest.filterMap (keyOf? column) = [] :=
      List.filterMap_eq_nil_iff.2 fun row mem => keyless row (List.mem_cons_of_mem _ mem)
    unfold overtakes
    rw [keyless row List.mem_cons_self, others,
      ih fun row mem => keyless row (List.mem_cons_of_mem _ mem)]
    rfl

end Store

namespace Model

variable {m : Model} {db : Database} {s : Session} {validated : Bool}

/-! ### Completing new rows -/

/-- A new row with what the traits put in: an identifier of a new number, and both stamps where it
does not carry them. -/
def drafted (m : Model) (s : Session) (row : Row) : Row :=
  let row := if m.traits.uuid then row.insert "uuid" (.text (Uuid.ofNumber s.identifiers)) else row
  if m.traits.timestamps then row.stamped s.clock.text else row

/-- The session after a number is drawn and the clock is read for a new row. -/
def drew (m : Model) (s : Session) : Session :=
  { s with
    clock := if m.traits.timestamps then s.clock.next else s.clock
    identifiers := if m.traits.uuid then s.identifiers + 1 else s.identifiers }

/-- New rows, completed one after the other. -/
def drafts (m : Model) (s : Session) : List Row → List Row
  | [] => []
  | row :: rest => m.drafted s row :: m.drafts (m.drew s) rest

theorem length_drafts (m : Model) (s : Session) (rows : List Row) :
    (m.drafts s rows).length = rows.length := by
  induction rows generalizing s with
  | nil => rfl
  | cons row rest ih => rw [drafts, List.length_cons, ih, List.length_cons]

/-- The rules allow the row, if they are asked. -/
def admits (m : Model) (db : Database) (mode : WriteMode) (validated : Bool) (row : Row) : Bool :=
  (if validated && db.config.validateOnWrite then m.validator.validate row mode else .ok ()).isOk

theorem isOk_checkRules (m : Model) (row : Row) (mode : WriteMode) (validated : Bool)
    (db : Database) (s : Session) :
    (m.checkRules row mode validated db s).1.isOk = m.admits db mode validated row := by
  rw [run_checkRules]
  rfl

/-- A row that is allowed is completed. -/
theorem run_prepareRow (row : Row) :
    m.admits db .create validated row = false ∧ (∃ e, m.prepareRow validated row db s = (.error e, s)) ∨
      m.admits db .create validated row = true ∧
        m.prepareRow validated row db s = (.ok (m.drafted s row), m.drew s) := by
  unfold prepareRow
  rw [Work.run_bind, run_checkRules]
  unfold admits
  cases checked : (if validated && db.config.validateOnWrite then m.validator.validate row .create
    else .ok ()) with
  | error e => exact Or.inl ⟨rfl, e, rfl⟩
  | ok _ =>
    refine Or.inr ⟨rfl, ?_⟩
    unfold drafted drew Row.stamped
    cases m.traits.uuid <;> cases m.traits.timestamps <;> rfl

/-- Rows are completed where all of them are allowed; nothing but the clock and the numbers moves. -/
theorem run_prepareRows (rows : List Row) : ∃ s', s'.engine = s.engine ∧
    s'.announcements = s.announcements ∧
    (rows.all (m.admits db .create validated) = false ∧
        (∃ e, (rows.mapM (m.prepareRow validated) : Task (List Row)) db s = (.error e, s')) ∨
      rows.all (m.admits db .create validated) = true ∧
        (rows.mapM (m.prepareRow validated) : Task (List Row)) db s = (.ok (m.drafts s rows), s')) := by
  induction rows generalizing s with
  | nil => exact ⟨s, rfl, rfl, Or.inr ⟨rfl, rfl⟩⟩
  | cons row rest ih =>
    rw [List.mapM_cons, List.all_cons, Work.run_bind]
    rcases @run_prepareRow m db s validated row with ⟨refused, e, ran⟩ | ⟨allowed, ran⟩
    · rw [refused, Bool.false_and, ran]
      exact ⟨s, rfl, rfl, Or.inl ⟨rfl, e, rfl⟩⟩
    · obtain ⟨s', still, silent, others⟩ := @ih (m.drew s)
      refine ⟨s', still, silent, ?_⟩
      rw [allowed, Bool.true_and, ran]
      dsimp only
      rw [Work.run_bind]
      rcases others with ⟨refused, e, ran⟩ | ⟨allowed, ran⟩
      · rw [ran]
        exact Or.inl ⟨refused, e, rfl⟩
      · rw [ran]
        exact Or.inr ⟨allowed, rfl⟩

/-! ### Reading new rows again -/

/-- Rows are read again by what queries read as their primary key. -/
theorem select_keys (m : Model) (store : Store) (keys : List Int) :
    store.select { table := m.table, conditions := [(.and, .isIn m.primaryKey (keys.map .int))] } =
      (store.rows m.table).filter fun row => keys.any (m.reads · row) := by
  rw [store.select_unjoined ⟨rfl, rfl, rfl, rfl, rfl⟩ rfl rfl]
  apply List.filter_congr
  intro row _
  rw [Store.selects, Store.satisfiesTree, Store.satisfiesRest, Store.satisfies_isIn, List.any_map]
  rfl

/-- Reading keys back answers the rows that they are read in, and changes nothing. -/
theorem run_select_keys {rows : List Row}
    (seen : s.engine.tableOf db.handle m.table = .ok rows) (keys : List Int) :
    ∃ s', s'.engine = s.engine ∧ s'.announcements = s.announcements ∧
      Task.select { table := m.table
                    conditions := [(.and, .isIn m.primaryKey (keys.map Value.int))] } db s =
        (.ok (rows.filter fun row => keys.any (m.reads · row)), s') := by
  let statement : Select :=
    { table := m.table, conditions := [(.and, .isIn m.primaryKey (keys.map Value.int))] }
  obtain ⟨store, opened, rfl⟩ := Engine.tableOf_eq_ok.1 seen
  refine ⟨(Task.select statement db s).2, rfl, rfl, ?_⟩
  rw [Task.run_select, Engine.select_eq, opened]
  dsimp only [Except.map, statement]
  rw [select_keys]

section

variable {fetched : List Row} {keyed : List (Int × Row)}
  (carried : ∀ pair ∈ keyed, Store.keyOf? m.primaryKey pair.2 = some pair.1)
  (unique : ∀ pair ∈ keyed, ∀ row ∈ fetched,
    Store.keyOf? m.primaryKey row = some pair.1 → row = pair.2)

include carried unique

/-- The fetched row of a key is the one that was placed under it, if that was fetched. -/
theorem find?_fetched {pair : Int × Row} (mem : pair ∈ keyed) :
    (fetched.reverse.find? fun row => Store.keyOf? m.primaryKey row = some pair.1) =
      if pair.2 ∈ fetched then some pair.2 else none := by
  cases sought : fetched.reverse.find? fun row => Store.keyOf? m.primaryKey row = some pair.1 with
  | none =>
    have absent : pair.2 ∉ fetched := fun there =>
      List.find?_eq_none.1 sought pair.2 (List.mem_reverse.2 there) (by simp [carried pair mem])
    rw [if_neg absent]
  | some row =>
    have there := List.mem_reverse.1 (List.mem_of_find?_eq_some sought)
    have own := List.find?_some sought
    obtain rfl := unique pair mem row there (by simpa using own)
    rw [if_pos there]

/-- The placed rows are found again in their order, if all of them were fetched. -/
theorem rowsOfKeys_found {taken : List Int} (apart : (keyed.map (·.1)).Nodup)
    (fresh : ∀ pair ∈ keyed, pair.1 ∉ taken) (there : ∀ pair ∈ keyed, pair.2 ∈ fetched) :
    m.rowsOfKeys fetched taken (keyed.map (·.1)) = .ok (keyed.map (·.2)) := by
  induction keyed generalizing taken with
  | nil => rfl
  | cons pair rest ih =>
    rw [List.map_cons, List.nodup_cons] at apart
    have untaken : ¬ taken.contains pair.1 = true := fun again =>
      fresh pair List.mem_cons_self (List.contains_iff_mem.1 again)
    have unused : ∀ other ∈ rest, other.1 ∉ pair.1 :: taken := by
      intro other mem again
      rcases List.mem_cons.1 again with same | before
      · exact apart.1 (same ▸ List.mem_map_of_mem mem)
      · exact fresh other (List.mem_cons_of_mem _ mem) before
    have others : m.rowsOfKeys fetched (pair.1 :: taken) (rest.map (·.1)) = .ok (rest.map (·.2)) :=
      ih (fun pair mem => carried pair (List.mem_cons_of_mem _ mem))
        (fun pair mem => unique pair (List.mem_cons_of_mem _ mem)) apart.2 unused
        fun pair mem => there pair (List.mem_cons_of_mem _ mem)
    rw [List.map_cons, rowsOfKeys, if_neg untaken, find?_fetched carried unique List.mem_cons_self,
      if_pos (there pair List.mem_cons_self), others]
    rfl

/-- If one of them was not fetched, nothing is answered. -/
theorem rowsOfKeys_lost {taken : List Int} (lost : ∃ pair ∈ keyed, pair.2 ∉ fetched) :
    m.rowsOfKeys fetched taken (keyed.map (·.1)) = .error (.notRetrieved "created" m.name) := by
  induction keyed generalizing taken with
  | nil =>
    obtain ⟨_, none, -⟩ := lost
    cases none
  | cons pair rest ih =>
    rw [List.map_cons, rowsOfKeys, find?_fetched carried unique List.mem_cons_self]
    by_cases there : pair.2 ∈ fetched
    · have later : ∃ pair ∈ rest, pair.2 ∉ fetched := by
        obtain ⟨other, mem, absent⟩ := lost
        refine ⟨other, (List.mem_cons.1 mem).resolve_left fun same => absent ?_, absent⟩
        rw [same]
        exact there
      have others : m.rowsOfKeys fetched (pair.1 :: taken) (rest.map (·.1)) = .error _ :=
        ih (fun pair mem => carried pair (List.mem_cons_of_mem _ mem))
          (fun pair mem => unique pair (List.mem_cons_of_mem _ mem)) later
      rw [if_pos there]
      by_cases again : taken.contains pair.1 = true
      · rw [if_pos again]
      · rw [if_neg again, others]
        rfl
    · rw [if_neg there, ite_self]

end

/-- Rows are announced one after the other. -/
theorem run_announceAll (m : Model) (rows : List Row) (db : Database) (s : Session) :
    ((rows.map (Instance.ofRow m)).forM fun i => Task.announce m .created i.toValue) db s =
      (.ok (), { s with
        announcements := s.announcements ++ rows.flatMap fun row => db.announced ⟨m, .created, row⟩ }) := by
  induction rows generalizing s with
  | nil =>
    rw [List.flatMap_nil, List.append_nil]
    rfl
  | cons row rest ih =>
    have first := Task.run_announce ⟨m, .created, row⟩ db s
    change (Task.announce m .created (Instance.ofRow m row).toValue >>= fun _ =>
      (rest.map (Instance.ofRow m)).forM fun i => Task.announce m .created i.toValue) db s = _
    dsimp only at first
    rw [Work.run_bind, first]
    dsimp only
    rw [ih, List.flatMap_cons, List.append_assoc]

/-! ### How an insertion ends -/

/-- The new rows under their keys. -/
def keyedRows (m : Model) (s : Session) (rows : List Row) (keys : List Int) : List Row :=
  List.zipWith (fun row key => row.insert m.primaryKey (.int key)) (m.drafts s rows) keys

/-- The rows that an insertion gets to place, with their keys; nothing when a rule or the store
refuses them. -/
def appends? (m : Model) (db : Database) (s : Session) (rows : List Row) (validated : Bool) :
    Option (List (Int × Row)) :=
  if rows.all (m.admits db .create validated) then
    s.engine.shared.placed?
      { table := m.table, rows := m.drafts s rows, returning := m.primaryKey }
  else none

/-- The placed rows show queries their keys. -/
def Shows (m : Model) (keyed : List (Int × Row)) : Prop :=
  ∀ pair ∈ keyed, ∃ key ∈ keyed.map (·.1), m.reads key pair.2 = true

instance (m : Model) (keyed : List (Int × Row)) : Decidable (m.Shows keyed) :=
  inferInstanceAs (Decidable (∀ pair ∈ keyed, _))

/-- The ends of an insertion on the shared store: nothing is placed; or not all of the placed rows
are found again; or they are answered and announced. -/
inductive RowsInserted (m : Model) (rows : List Row) (validated : Bool) (db : Database)
    (s : Session) : Except Error (List Instance) × Session → Prop where
  | refused {e : Error} {s' : Session} (refused : m.appends? db s rows validated = none)
    (still : s'.engine = s.engine) (silent : s'.announcements = s.announcements) :
    RowsInserted m rows validated db s (.error e, s')
  | lost {keyed : List (Int × Row)} {s' : Session}
    (placed : m.appends? db s rows validated = some keyed)
    (grown : s.engine.Grown s'.engine .shared m.table (keyed.map (·.2)))
    (lost : ¬ m.Shows keyed) (silent : s'.announcements = s.announcements) :
    RowsInserted m rows validated db s (.error (.notRetrieved "created" m.name), s')
  | inserted {keyed : List (Int × Row)} {s' : Session}
    (placed : m.appends? db s rows validated = some keyed)
    (grown : s.engine.Grown s'.engine .shared m.table (keyed.map (·.2)))
    (shown : m.Shows keyed)
    (announced : s'.announcements = s.announcements ++
      (keyed.map (·.2)).flatMap fun row => db.announced ⟨m, .created, row⟩) :
    RowsInserted m rows validated db s (.ok ((keyed.map (·.2)).map (Instance.ofRow m)), s')

section

variable {rows : List Row} {keyed : List (Int × Row)}
  (placed : m.appends? db s rows validated = some keyed)

include placed

theorem assigned_of_appends? : ∃ last,
    Store.firstTaken (s.engine.shared.keys m.table m.primaryKey)
        ((m.drafts s rows).filterMap (Store.keyOf? m.primaryKey)) = none ∧
      Store.assignKeys m.primaryKey (s.engine.shared.sequence m.table) (m.drafts s rows) =
        .ok (keyed, last) := by
  unfold appends? at placed
  split at placed
  · exact Store.placed?_eq_some placed
  · cases placed

/-- The keys of the table and those that an insertion places are all different. -/
theorem nodup_placed (tracked : s.engine.shared.Keyed m.table m.primaryKey)
    (distinct : (s.engine.shared.keys m.table m.primaryKey).Nodup)
    (orderly : Store.overtakes m.primaryKey (s.engine.shared.sequence m.table) (m.drafts s rows) =
      false) : (s.engine.shared.keys m.table m.primaryKey ++ keyed.map (·.1)).Nodup := by
  obtain ⟨last, free, assigned⟩ := assigned_of_appends? placed
  have all := (Store.nodup_appended_iff tracked distinct free assigned).2 orderly
  rwa [Store.keys_appended assigned] at all

/-- Placed rows carry their keys. -/
theorem carried_of_appends? :
    ∀ pair ∈ keyed, Store.keyOf? m.primaryKey pair.2 = some pair.1 := by
  obtain ⟨last, -, assigned⟩ := assigned_of_appends? placed
  exact fun pair mem => ((Store.assignKeys_carries assigned).2 pair mem).1

/-- Placed rows are the completed ones under their keys, in order; a key that is carried is kept. -/
theorem rows_of_appends? :
    keyed.map (·.2) = m.keyedRows s rows (keyed.map (·.1)) ∧
      List.Forall₂ (fun row key => ∀ carried ∈ Store.keyOf? m.primaryKey row, key = carried)
        (m.drafts s rows) (keyed.map (·.1)) := by
  obtain ⟨last, -, assigned⟩ := assigned_of_appends? placed
  exact Store.assigned_rows assigned

theorem length_of_appends? : keyed.length = rows.length := by
  have lengths := (rows_of_appends? placed).2.length_eq
  rw [length_drafts, List.length_map] at lengths
  exact lengths.symm

end

/-- The fetched row of a key is the one placed under it, as no other row of the table has the key. -/
theorem eq_of_keyOf?_append {old : List Row} {keyed : List (Int × Row)}
    (carried : ∀ pair ∈ keyed, Store.keyOf? m.primaryKey pair.2 = some pair.1)
    (apart : (old.filterMap (Store.keyOf? m.primaryKey) ++ keyed.map (·.1)).Nodup)
    {pair : Int × Row} (mem : pair ∈ keyed) {row : Row} (there : row ∈ old ++ keyed.map (·.2))
    (own : Store.keyOf? m.primaryKey row = some pair.1) : row = pair.2 := by
  obtain ⟨-, distinct, disjoint⟩ := List.nodup_append'.1 apart
  have key := List.mem_map_of_mem (f := (·.1)) mem
  rcases List.mem_append.1 there with before | placed
  · exact absurd key (disjoint (List.mem_filterMap.2 ⟨row, before, own⟩))
  · obtain ⟨other, listed, rfl⟩ := List.mem_map.1 placed
    have same : other.1 = pair.1 := Option.some.inj ((carried other listed).symm.trans own)
    rw [List.inj_on_of_nodup_map distinct listed mem same]

/-- Reads new rows again under their keys and announces them. -/
def collecting (m : Model) (keys : List Int) : Task (List Instance) := do
  let fetched ← Task.select
    { table := m.table, conditions := [(.and, .isIn m.primaryKey (keys.map Value.int))] }
  let stored ← Work.ofExcept (m.rowsOfKeys fetched [] keys)
  let instances := stored.map (Instance.ofRow m)
  instances.forM fun i => Task.announce m .created i.toValue
  return instances

section

variable {rows : List Row} (shared : db.handle = .shared)
  (tracked : s.engine.shared.Keyed m.table m.primaryKey)
  (distinct : (s.engine.shared.keys m.table m.primaryKey).Nodup)
  (orderly : Store.overtakes m.primaryKey (s.engine.shared.sequence m.table) (m.drafts s rows) =
    false)

include shared tracked distinct orderly

/-- Rows that are placed are found again where they show their keys. -/
theorem rowsInserted_collecting {keyed : List (Int × Row)} {s' : Session}
    (placed : m.appends? db s rows validated = some keyed)
    (grown : s.engine.Grown s'.engine .shared m.table (keyed.map (·.2)))
    (silent : s'.announcements = s.announcements) :
    m.RowsInserted rows validated db s (m.collecting (keyed.map (·.1)) db s') := by
  have apart := nodup_placed placed tracked distinct orderly
  have carried := carried_of_appends? placed
  have table : s'.engine.shared.rows m.table =
      s.engine.shared.rows m.table ++ keyed.map (·.2) := Except.ok.inj grown.rows
  let fetched := (s'.engine.shared.rows m.table).filter fun row =>
    (keyed.map (·.1)).any (m.reads · row)
  have there {row : Row} : row ∈ fetched ↔ row ∈ s'.engine.shared.rows m.table ∧
      ∃ key ∈ keyed.map (·.1), m.reads key row = true := by
    rw [List.mem_filter, List.any_eq_true]
  have unique : ∀ pair ∈ keyed, ∀ row ∈ fetched,
      Store.keyOf? m.primaryKey row = some pair.1 → row = pair.2 := by
    intro pair mem row listed
    exact eq_of_keyOf?_append carried apart mem (table ▸ (there.1 listed).1)
  have seen : s'.engine.tableOf db.handle m.table = .ok (s'.engine.shared.rows m.table) := by
    rw [shared]
    rfl
  obtain ⟨s₂, still, quiet, ran⟩ := run_select_keys seen (keyed.map (·.1))
  rw [← still] at grown
  unfold collecting
  rw [Work.run_bind, ran]
  dsimp only
  rw [Work.run_bind]
  by_cases shown : m.Shows keyed
  · have all : ∀ pair ∈ keyed, pair.2 ∈ fetched := by
      intro pair mem
      refine there.2 ⟨?_, shown pair mem⟩
      rw [table]
      exact List.mem_append_right _ (List.mem_map_of_mem mem)
    have distinctKeys := (List.nodup_append'.1 apart).2.1
    rw [rowsOfKeys_found carried unique distinctKeys (fun _ _ => List.not_mem_nil) all]
    dsimp only [Work.run_ofExcept]
    rw [Work.run_bind, run_announceAll]
    refine .inserted placed grown shown ?_
    dsimp only
    rw [quiet, silent]
  · have missing : ∃ pair ∈ keyed, pair.2 ∉ fetched := by
      by_contra all
      refine shown fun pair mem => (there.1 ?_).2
      by_contra absent
      exact all ⟨pair, mem, absent⟩
    rw [rowsOfKeys_lost carried unique missing]
    exact .lost placed grown shown (quiet.trans silent)

/-- How an insertion ends whose rows are not in the way of each other, on the shared store with
distinct keys that its sequence has reached. -/
theorem rowsInserted :
    m.RowsInserted rows validated db s (m.insertRows rows validated db s) := by
  unfold insertRows
  cases empty : rows.isEmpty with
  | true =>
    obtain rfl := List.isEmpty_iff.1 empty
    have placed : m.appends? db s [] validated = some [] := rfl
    exact .inserted placed (.refl _ _ _) (fun _ none => nomatch none) (List.append_nil _).symm
  | false =>
    rw [if_neg Bool.false_ne_true, Work.run_bind]
    obtain ⟨s₁, still, silent, ⟨refused, e, ran⟩ | ⟨allowed, ran⟩⟩ :=
      @run_prepareRows m db s validated rows
    · rw [ran]
      exact .refused (if_neg (Bool.eq_false_iff.1 refused)) still silent
    · let statement : Insert :=
        { table := m.table, rows := m.drafts s rows, returning := m.primaryKey }
      have appends : m.appends? db s rows validated = s.engine.shared.placed? statement :=
        if_pos allowed
      rw [ran]
      change m.RowsInserted rows validated db s
        ((Task.insert statement >>= fun keys => m.collecting keys) db s₁)
      unfold Task.insert
      rw [bind_assoc, Work.run_bind, Task.run_write, shared, still]
      cases placed : s.engine.shared.placed? statement with
      | none =>
        obtain ⟨e, failed⟩ := Store.write_refused placed
        unfold Engine.write
        rw [failed]
        exact .refused (appends.trans placed) rfl silent
      | some keyed =>
        obtain ⟨last, accepted⟩ := Store.write_placed? placed
        have grown := s.engine.grown_appended m.table keyed last
        unfold Engine.write
        rw [accepted]
        exact rowsInserted_collecting shared tracked distinct orderly (appends.trans placed) grown
          silent

end

end Model

end EntityStore
