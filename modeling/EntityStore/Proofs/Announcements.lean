import EntityStore.Proofs.Ledger
import EntityStore.Proofs.Terminals

/-!
# Announcements in a transaction

An entity announces an event once the write that it follows from has succeeded and the row was read
back (`Model.ledgered_insertRows`, `Model.ledgered_updateRow`, `Model.ledgered_deleteRow`); nothing
else announces. Every operation is put together from these writes and from what changes nothing
(`Task.Composed`), so each unit of work has its ledger (`Task.Composed.ledgered`). Main result:
`Task.transaction_accounted`.

Announcements do not wait for the end of the transaction: one that fails takes none back
(`Task.transaction_announces_draft`).
-/

namespace EntityStore

theorem Row.isEmpty_of_contains {row : Row} {name : String} (carried : row.contains name = true) :
    row.isEmpty = false := by
  cases empty : row.isEmpty with
  | false => rfl
  | true =>
    have none : row.fields = [] := List.isEmpty_iff.1 empty
    unfold contains get? at carried
    rw [none] at carried
    cases carried

namespace Model

variable {m : Model} {index : Nat} {store before after : Store} {written : Option Write}
  {validated : Bool} {α : Type}

theorem still_checkRules (row : Row) (mode : WriteMode) :
    Task.Still index (m.checkRules row mode validated) := by
  unfold checkRules
  exact .bind .database fun db => .ite (.ofExcept _) (.pure _)

theorem still_prepareRow (row : Row) : Task.Still index (m.prepareRow validated row) := by
  have stamped (row : Row) : Task.Still index
      (if m.traits.timestamps then stampCreation row else Pure.pure row : Task Row) :=
    .ite (.bind .stamp fun _ => .pure _) (.pure _)
  unfold prepareRow
  refine .bind (still_checkRules row .create) fun _ => ?_
  exact .ite (.bind .freshNumber fun _ => .bind (.pure _) stamped) (.bind (.pure _) stamped)

/-- The rows of the keys are among the fetched ones, each under a key that was asked for. -/
theorem mem_rowsOfKeys {fetched stored : List Row} {taken keys : List Int}
    (found : m.rowsOfKeys fetched taken keys = .ok stored) {row : Row} (mem : row ∈ stored) :
    row ∈ fetched ∧ ∃ key ∈ keys, Store.keyOf? m.primaryKey row = some key := by
  induction keys generalizing taken stored with
  | nil =>
    cases found
    cases mem
  | cons key rest ih =>
    unfold rowsOfKeys at found
    dsimp only at found
    split at found
    · cases found
    · next first sought =>
      cases others : m.rowsOfKeys fetched (key :: taken) rest with
      | error e => rw [others] at found; cases found
      | ok more =>
        rw [others] at found
        cases found
        rcases List.mem_cons.1 mem with rfl | mem
        · split at sought
          · cases sought
          · have keyed := List.find?_some sought
            have there := List.mem_of_find?_eq_some sought
            exact ⟨List.mem_reverse.1 there, key, List.mem_cons_self, by simpa using keyed⟩
        · obtain ⟨there, other, given, keyed⟩ := ih others mem
          exact ⟨there, other, List.mem_cons_of_mem _ given, keyed⟩

/-- New rows are announced once they are read back under the keys that they were given. -/
theorem ledgered_insertRows (rows : List Row) :
    Task.Ledgered index store (m.insertRows rows validated) := by
  unfold insertRows
  refine .ite (fun _ => .of_still (.pure _)) fun _ => ?_
  refine .still_bind (.mapM still_prepareRow rows) fun prepared => ?_
  refine .insert_bind fun keyed keys after ran => ?_
  -- The first row is announced only after all of them were found again.
  refine .select_bind (.ofExcept_bind fun stored found => ?_)
  refine .bind (.forM fun i mem => ?_) fun _ => .of_still (.pure _)
  obtain ⟨row, listed, rfl⟩ := List.mem_map.1 mem
  obtain ⟨fetched, key, given, carried⟩ := mem_rowsOfKeys found listed
  have there := ((after.mem_select ⟨rfl, rfl, rfl, rfl, rfl⟩).1 fetched).1
  have created : (⟨m, .created, row⟩ : Occurrence).Follows store after _ :=
    .created ran given carried there
  exact Task.Reports.announce created

/-- A row that is read back is the row of its key. -/
theorem reports_reread {id : Int} {action : String} {next : Row → Task α}
    (rest : ∀ row, m.rowOf? after id = some row → Task.Reports index before after written (next row)) :
    Task.Reports index before after written (m.reread id action >>= next) := by
  unfold reread Task.selectFirst
  rw [bind_assoc, bind_assoc]
  refine .select_bind ?_
  rw [pure_bind]
  cases read : m.rowOf? after id with
  | none =>
    unfold rowOf? at read
    rw [read]
    exact .of_still fun _ _ _ => ⟨rfl, rfl⟩
  | some row =>
    have continues := rest row read
    unfold rowOf? at read
    rw [read]
    exact continues

/-- A change is checked and stamped before it is written, so that there is something to change where
changes are stamped. -/
theorem ledgered_change {values : Row} {next : Row → Task α}
    (rest : ∀ values, (m.traits.timestamps = true → values.isEmpty = false) →
      Task.Ledgered index store (next values)) :
    Task.Ledgered index store (do
      m.checkRules values .update validated
      let values ← if m.traits.timestamps then stampChange values else Pure.pure values
      next values) := by
  refine .still_bind (still_checkRules values .update) fun _ => ?_
  cases stamps : m.traits.timestamps with
  | false =>
    rw [stamps] at rest
    exact rest values fun absurd => nomatch absurd
  | true =>
    rw [if_pos rfl]
    unfold stampChange
    by_cases carried : values.contains "updated_at" = true
    · rw [if_pos carried]
      exact rest values fun _ => Row.isEmpty_of_contains carried
    · rw [if_neg carried, bind_assoc]
      refine .still_bind .stamp fun stamp => rest _ fun _ => ?_
      have set : (values.insert "updated_at" stamp).contains "updated_at" = true := by
        unfold Row.contains
        rw [Row.get?_insert_self]
        rfl
      exact Row.isEmpty_of_contains set

/-- A change is announced once the row is read back. -/
theorem ledgered_updateRow (id : Int) (values : Row) :
    Task.Ledgered index store (m.updateRow id values validated) := by
  unfold updateRow
  refine ledgered_change fun values stamped => ?_
  have reading {before after : Store} {written : Option Write}
      (follows : ∀ row, m.rowOf? after id = some row →
        (⟨m, .updated, row⟩ : Occurrence).Follows before after written) :
      Task.Reports index before after written (do
        let i := Instance.ofRow m (← m.reread id "updated")
        Task.announce m .updated i.toValue
        return i) :=
    reports_reread fun row read =>
      .bind (Task.Reports.announce (follows row read)) fun _ => .of_still (.pure _)
  -- Without values no statement runs, and the event stands alone; a stamp would be a value.
  cases filled : values.isEmpty with
  | true =>
    have unstamped : m.traits.timestamps = false := by
      cases stamps : m.traits.timestamps with
      | false => rfl
      | true => exact absurd ((stamped stamps).symm.trans filled) (by decide)
    exact .of_reports (reading fun row read => .unchanged unstamped read)
  | false =>
    simp only [Bool.not_false, if_true]
    refine .update_bind fun n after => ?_
    exact reading fun row read => .updated read

/-- A deletion is announced with the row as it was moved to the trash, or as it was. -/
theorem ledgered_deleteRow (id : Int) : Task.Ledgered index store (m.deleteRow id) := by
  unfold deleteRow Task.selectFirst
  rw [bind_assoc]
  refine .select_bind ?_
  rw [pure_bind]
  split
  · exact .of_still (.throw _)
  · next existing found =>
    cases trash : m.traits.softDeletes with
    | true =>
      rw [if_pos rfl]
      refine .still_bind .stamp fun stamp => ?_
      refine .update_bind fun n after => reports_reread fun row read => ?_
      have trashed : (⟨m, .deleted, row⟩ : Occurrence).Follows store after
          (some (.update (m.updateOf id (Row.empty.insert "deleted_at" stamp)))) := .trashed trash read
      exact .bind (Task.Reports.announce trashed) fun _ => .of_still (.pure _)
    | false =>
      rw [if_neg (by decide)]
      refine .delete_bind fun n after => ?_
      have read : m.rowOf? store id = some existing := by
        unfold deletable at found
        rw [if_neg (by simp [trash])] at found
        exact found
      have removed : (⟨m, .deleted, existing⟩ : Occurrence).Follows store after _ :=
        .removed trash read
      exact .bind (Task.Reports.announce removed) fun _ => .of_still (.pure _)

end Model

/-! ### Queries -/

/-- Selections leave a transaction still, and so does what is put together from them; errors do no
harm. -/
theorem Task.Still.selection {index : Nat} :
    Task.SelectionProperty (fun _ => True) (Task.Still index) where
  pure := .pure
  select := .select
  bind := .bind
  database rest := .bind .database fun db => rest db trivial

/-- A query changes nothing, whatever relations it loads. -/
theorem Query.still_get {index : Nat} (q : Query) : Task.Still index q.get :=
  Task.Still.selection.get fun _ _ e _ _ => .throw e

theorem Query.still_first {index : Nat} (q : Query) : Task.Still index q.first := by
  unfold first
  exact .bind (Query.still_get _) fun _ => .pure _

/-! ### Units of work -/

namespace Task

variable {α β : Type} {index : Nat}

/-- What others do meanwhile. -/
def meanwhile (actions : List Engine.Action) : Task Unit :=
  fun _ s => (.ok (), { s with engine := s.engine.run actions })

/-- Work that is put together, in a transaction, from what an entity inserts, changes and deletes,
plain writes and whatever changes nothing, while others may be at work too. What is done next can
depend on every answer, and errors may be caught. -/
inductive Composed (index : Nat) : {α : Type} → Task α → Prop where
  | still {α : Type} {work : Task α} (h : Still index work) : Composed index work
  | write (w : Write) : Composed index (Task.write w)
  | insertRows (m : Model) (rows : List Row) (validated : Bool) :
    Composed index (m.insertRows rows validated)
  | updateRow (m : Model) (id : Int) (values : Row) (validated : Bool) :
    Composed index (m.updateRow id values validated)
  | deleteRow (m : Model) (id : Int) : Composed index (m.deleteRow id)
  | meanwhile (actions : List Engine.Action)
    (apart : ∀ action ∈ actions, action.handle ≠ .transaction index) :
    Composed index (Task.meanwhile actions)
  | bind {α β : Type} {work : Task α} {next : α → Task β} (first : Composed index work)
    (rest : ∀ a, Composed index (next a)) : Composed index (work >>= next)
  | recover {α : Type} {work : Task α} {handler : Error → Task α} (first : Composed index work)
    (rest : ∀ e, Composed index (handler e)) : Composed index (tryCatch work handler)

/-! ### Operations -/

namespace Composed

theorem ite {c : Prop} [Decidable c] {work other : Task α} (yes : Composed index work)
    (no : Composed index other) : Composed index (if c then work else other) := by
  split
  · exact yes
  · exact no

theorem update (statement : Update) : Composed index (Task.update statement) := by
  unfold Task.update
  exact .bind (.write _) fun _ => .still (.pure _)

theorem delete (statement : Delete) : Composed index (Task.delete statement) := by
  unfold Task.delete
  exact .bind (.write _) fun _ => .still (.pure _)

section Models

variable (m : Model)

theorem insertOne (row : Row) (validated : Bool) : Composed index (m.insertOne row validated) := by
  unfold Model.insertOne
  refine .bind (.insertRows m _ _) fun made => ?_
  cases made.head? with
  | none => exact .still (.throw _)
  | some i => exact .still (.pure i)

theorem create (values : Row) : Composed index (m.create values) :=
  insertOne m _ _

theorem createMany (rows : List Row) : Composed index (m.createMany rows) :=
  .insertRows m _ _

theorem forceCreate (values : Row) : Composed index (m.forceCreate values) :=
  insertOne m _ _

theorem remove (id : Int) : Composed index (m.remove id) := by
  unfold Model.remove
  refine .recover (.bind (.deleteRow m id) fun _ => .still (.pure _)) fun e => ?_
  exact .ite (.still (.pure _)) (.still (.throw _))

end Models

section Instances

variable (i : Instance)

theorem writeValues (values : Row) (validated : Bool) :
    Composed index (i.writeValues values validated) := by
  unfold Instance.writeValues
  refine .bind (.still (.ofExcept _)) fun id => ?_
  exact .bind (.updateRow i.model id _ _) fun _ => .still (.pure _)

theorem save : Composed index i.save := by
  unfold Instance.save
  refine .ite (.bind (.insertRows i.model _ _) fun made => ?_) ?_
  · cases made.head? with
    | none => exact .still (.pure _)
    | some created => exact .still (.pure _)
  · refine .ite (.still (.pure _)) (.bind (.still (.ofExcept _)) fun id => ?_)
    exact .bind (.updateRow i.model id _ _) fun _ => .still (.pure _)

theorem updateInstance (values : Row) : Composed index (i.update values) :=
  writeValues i _ _

theorem forceUpdateInstance (values : Row) : Composed index (i.forceUpdate values) :=
  writeValues i _ _

theorem deleteInstance : Composed index i.delete := by
  unfold Instance.delete
  refine .bind (.still (.ofExcept _)) fun id => ?_
  exact .bind (.deleteRow i.model id) fun _ => .still (.pure _)

end Instances

/-- A row that is sought is found and changed, or made. -/
theorem updateOrCreate (m : Model) (sought values : Row) :
    Composed index (m.updateOrCreate sought values) := by
  unfold Model.updateOrCreate
  refine .bind (.still (.ofExcept _)) fun q => .bind (.still q.still_first) fun found => ?_
  cases found with
  | none => exact create m _
  | some i => exact updateInstance i values

theorem firstOrCreate (m : Model) (sought : Row) (values : Value) :
    Composed index (m.firstOrCreate sought values) := by
  unfold Model.firstOrCreate
  refine .bind (.still (.ofExcept _)) fun q => .bind (.still q.still_first) fun found => ?_
  cases found with
  | none => exact .bind (.still (.ofExcept _)) fun row => create m _
  | some i => exact .still (.pure i)

section Queries

variable (q : Query)

theorem setAll (values : Row) (validated : Bool) : Composed index (q.setAll values validated) := by
  have changed (values : Row) : Composed index
      (Task.update { table := q.model.table, values, conditions := q.scopedConditions }) :=
    update _
  unfold Query.setAll
  refine .ite (.still (.pure _)) (.bind (.still (Model.still_checkRules _ _)) fun _ => ?_)
  refine .ite (.bind ?_ changed) (.bind (.still (.pure _)) changed)
  unfold Model.stampChange
  exact .still (.ite (.pure _) (.bind .stamp fun _ => .pure _))

theorem updateAll (values : Row) : Composed index (q.update values) :=
  setAll q _ _

theorem forceUpdateAll (values : Row) : Composed index (q.forceUpdate values) :=
  setAll q _ _

theorem deleteAll : Composed index q.delete := by
  unfold Query.delete
  exact .ite (.bind (.still .stamp) fun _ => update _) (delete _)

end Queries

end Composed

/-! ### Ledgers of units of work -/

/-- What others do on handles of their own is noted nowhere. -/
theorem ledgered_meanwhile {store : Store} {actions : List Engine.Action}
    (apart : ∀ action ∈ actions, action.handle ≠ .transaction index) :
    Ledgered index store (meanwhile actions) := by
  intro db s t inside opened sees
  have same := Engine.transactions_run (Engine.active_bound opened) apart
  refine ⟨[], t, ⟨actions, rfl, ?_⟩, ?_, (List.append_nil _).symm, rfl, (List.append_nil _).symm⟩
  · intro action mem ends
    refine apart action mem ?_
    rcases List.mem_cons.1 ends with rfl | ends
    · rfl
    · rw [List.mem_singleton.1 ends]
      rfl
  · change (s.engine.run actions).active index = .ok t
    unfold Engine.active at opened ⊢
    rw [same]
    exact opened

/-- Whatever is composed is explained by a ledger. -/
theorem Composed.ledgered {work : Task α} (composed : Composed index work) (store : Store) :
    Ledgered index store work := by
  induction composed generalizing store with
  | still h => exact .of_still h
  | write w =>
    have alone : Task.write w = Task.write w >>= Pure.pure := (bind_pure _).symm
    rw [alone]
    exact .write_bind fun _ _ _ _ _ _ _ => .of_still (.pure _)
  | insertRows m rows validated => exact Model.ledgered_insertRows rows
  | updateRow m id values validated => exact Model.ledgered_updateRow id values
  | deleteRow m id => exact Model.ledgered_deleteRow id
  | meanwhile actions apart => exact ledgered_meanwhile apart
  | bind first rest begins goesOn => exact .bind (begins store) goesOn
  | recover first rest begins goesOn => exact .recover (begins store) goesOn

/-- What is left of a unit of work that was done in a transaction, with its ledger. -/
structure Accounted (work : Task α) (db : Database) (s : Session) (ledger : Ledger) : Prop where
  /-- When the work is done the transaction is open, and its journal holds the writes of the ledger.
  Each has run where those before it led from the shared store, and what happened follows from it. -/
  holds : ∃ t, (work (db.inside s) s.begun).2.engine.active s.engine.transactions.length = .ok t ∧
    t.journal = Ledger.writes ledger ∧ Ledger.Holds s.engine.shared t.working ledger
  /-- What is announced until then is what the ledger announces. -/
  announced : (work (db.inside s) s.begun).2.announcements =
    s.announcements ++ Ledger.announced db ledger
  /-- The end of the transaction announces nothing and takes nothing back, whatever the answer is. -/
  ended : (transaction work db s).2.announcements = (work (db.inside s) s.begun).2.announcements
  /-- After an answer the writes of the ledger have run on the shared store. -/
  committed : ∀ a, (transaction work db s).1 = .ok a →
    (work (db.inside s) s.begun).2.engine.shared.replay (Ledger.writes ledger) =
      .ok (transaction work db s).2.engine.shared
  /-- After an error every change of a shared table was made by others. -/
  undone : ∀ e, (transaction work db s).1 = .error e →
    ∃ actions, (transaction work db s).2.engine = s.engine.run actions ∧
      ∀ action ∈ s.engine.changing actions,
        action.handle ≠ .transaction s.engine.transactions.length

/-- The end of a transaction announces nothing and takes nothing back. -/
theorem announcements_conclude (answer : Except Error α) (db : Database) (s : Session) :
    (conclude answer db s).2.announcements = s.announcements := by
  unfold conclude
  split <;> rfl

/-- An answer is that of a commit which has run the journal on the shared store. -/
theorem replay_of_conclude {answer : Except Error α} {db : Database} {s : Session} {t : Transaction}
    {a : α} (inside : db.handle = .transaction index) (opened : s.engine.active index = .ok t)
    (succeeded : (conclude answer db s).1 = .ok a) :
    s.engine.shared.replay t.journal = .ok (conclude answer db s).2.engine.shared := by
  unfold conclude at succeeded ⊢
  rw [inside] at succeeded ⊢
  cases answer with
  | error e => cases succeeded
  | ok b =>
    have committed := s.engine.committed index
    dsimp only at succeeded ⊢
    generalize s.engine.commit index = outcome at committed succeeded ⊢
    cases committed with
    | refused closed => cases succeeded
    | failed e open_ => cases succeeded
    | done found replayed =>
      obtain rfl := Except.ok.inj (found.symm.trans opened)
      exact replayed

/-- **Events follow from writes.** Events are announced while the work goes on, each after the write
that it follows from has succeeded in the transaction, and the end of the transaction neither adds to
them nor takes one back. When the transaction answers, the writes behind them have run on the shared
store; when it fails, none of them has. -/
theorem transaction_accounted {work : Task α} {db : Database} {s : Session}
    (composed : Composed s.engine.transactions.length work) :
    (db.inTransaction = true → transaction work db s = (.error .nestedTransaction, s)) ∧
      (db.handle = .shared → ∃ ledger, Accounted work db s ledger) := by
  refine ⟨run_transaction_nested work s, fun outside => ?_⟩
  let copied : Transaction := { working := s.engine.shared }
  have opened : s.begun.engine.active s.engine.transactions.length = .ok copied := by
    have added : s.begun.engine.transactions[s.engine.transactions.length]? = some copied :=
      List.getElem?_concat_length
    exact Engine.active_eq_ok.2 ⟨added, rfl⟩
  obtain ⟨ledger, t, explains⟩ :=
    composed.ledgered s.engine.shared (db.inside s) s.begun copied rfl opened rfl
  have journal : t.journal = Ledger.writes ledger := explains.journal
  have run := run_transaction work s outside
  refine ⟨ledger, ⟨t, explains.stays, journal, explains.holds⟩, explains.announcements, ?_, ?_, ?_⟩
  · rw [run, announcements_conclude]
  · intro a answered
    rw [run] at answered ⊢
    rw [← journal]
    exact replay_of_conclude rfl explains.stays answered
  · intro e failed
    obtain ⟨actions, ran, goesOn⟩ := explains.goesOn
    obtain ⟨last, -, ended, others⟩ :=
      (undoneOnFailure work db s).undone outside actions e ran goesOn failed
    exact ⟨_, ended, others⟩

/-- Posts that announce what happens to them. -/
def blog : Schema :=
  { name := "Post", table := some "posts"
    attributes := [("title", { fillable := true })]
    traits := { observe := .all true, timestamps := false } }

/-- The entity of the posts. -/
def blogPost : Model :=
  match blog.compile ⟨[], 10⟩ with
  | .ok m => m
  | .error _ => .bare "Post" "posts" [] {}

/-- A database that keeps what is announced. -/
def desk : Database :=
  { registry := ⟨[blogPost]⟩, bus := some .recording }

/-- A post is created, and then the work stops. -/
def draft : Task Unit := do
  let _ ← blogPost.create (.ofFields [("title", .text "draft")])
  throw (.refused "stop")

/-- The announcement of the post. -/
def draftCreated : Announcement :=
  ⟨"post:created", .object [("id", .int 1), ("title", .text "draft")]⟩

theorem transaction_accounted_draft :
    Composed 0 draft ∧ ∃ ledger, Accounted draft desk { clock := ⟨0⟩ } ledger ∧
      Ledger.announced desk ledger = [draftCreated] := by
  have composed : Composed 0 draft := .bind (.create blogPost _) fun _ => .still (.throw _)
  obtain ⟨-, accounted⟩ := transaction_accounted (s := { clock := ⟨0⟩ }) composed
  obtain ⟨ledger, left⟩ := accounted (rfl : desk.handle = .shared)
  refine ⟨composed, ledger, left, ?_⟩
  have announced : (draft (desk.inside { clock := ⟨0⟩ })
      (Session.begun { clock := ⟨0⟩ })).2.announcements = [draftCreated] := by
    decide +kernel
  rw [left.announced] at announced
  exact announced

/-- The transaction fails with the error of the work. The post is announced all the same, and it is not
there. -/
theorem transaction_announces_draft :
    ({ schemas := [blog] } : Catalogue).compile = .ok desk.registry ∧
      (transaction draft desk { clock := ⟨0⟩ }).1.mapError Error.message =
        .error "Validation error: stop" ∧
      (transaction draft desk { clock := ⟨0⟩ }).2.announcements = [draftCreated] ∧
      (transaction draft desk { clock := ⟨0⟩ }).2.engine.shared.rows "posts" = [] := by
  refine ⟨by rfl, by decide +kernel, by decide +kernel, by decide +kernel⟩

end Task

end EntityStore
