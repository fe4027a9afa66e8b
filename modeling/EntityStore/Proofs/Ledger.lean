import EntityStore.Model.Operations
import EntityStore.Proofs.Commit
import EntityStore.Proofs.UnitOfWork

/-!
# The ledger of a transaction

What is done in a transaction is noted in a ledger: the writes that succeed there, each with what it
makes happen to rows of its entity. A ledger holds from one copy of the transaction to another when
every write runs in its turn, and when every occurrence follows from the write that it stands with
(`Ledger.Holds`). It explains a piece of work when the journal of the transaction has grown by its
writes, and the announcements by what it announces (`Ledger.Explains`). There is one rule for every way
in which work is put together; what is announced after a write is told apart from the write itself
(`Task.Reports`).
-/

namespace EntityStore

/-- Something that happened to a row of an entity. -/
structure Occurrence where
  model : Model
  event : LifecycleEvent
  row : Row

/-- What is announced of it; nothing, where the settings or the entity do not want it. -/
def Database.announced (db : Database) (o : Occurrence) : List Announcement :=
  if db.config.dispatchEvents && db.bus == some .recording &&
      o.model.traits.observe.observes o.event then
    [⟨o.event.nameFor o.model.name, (Instance.ofRow o.model o.row).toValue⟩]
  else []

theorem Task.run_announce (o : Occurrence) (db : Database) (s : Session) :
    announce o.model o.event (Instance.ofRow o.model o.row).toValue db s =
      (.ok (), { s with announcements := s.announcements ++ db.announced o }) := by
  unfold announce Database.announced
  split
  · rfl
  · rw [List.append_nil]

namespace Model

/-- The writes by which an entity changes the row of a key and removes it. -/
def updateOf (m : Model) (id : Int) (values : Row) : Update :=
  { table := m.table, values, conditions := [(.and, m.keyIs id)] }

def deleteOf (m : Model) (id : Int) : Delete :=
  { table := m.table, conditions := [(.and, m.keyIs id)] }

/-- The row of a key, as it is read back. -/
def rowOf? (m : Model) (store : Store) (id : Int) : Option Row :=
  (store.select { table := m.table, conditions := [(.and, m.keyIs id)], limit := some 1 }).head?

end Model

/-- The occurrence follows from the write that led from one store to another. -/
inductive Occurrence.Follows (before after : Store) : Option Write → Occurrence → Prop where
  /-- The insertion gave the row its key, and the row is there. -/
  | created {m : Model} {rows : List Row} {keys : List Int} {key : Int} {row : Row}
    (ran : before.write (.insert { table := m.table, rows, returning := m.primaryKey }) =
      .ok (.inserted keys, after))
    (given : key ∈ keys) (keyed : Store.keyOf? m.primaryKey row = some key)
    (there : row ∈ after.rows m.table) :
    Follows before after (some (.insert { table := m.table, rows, returning := m.primaryKey }))
      ⟨m, .created, row⟩
  /-- The row of the key was changed and read back. -/
  | updated {m : Model} {id : Int} {values row : Row} (read : m.rowOf? after id = some row) :
    Follows before after (some (.update (m.updateOf id values))) ⟨m, .updated, row⟩
  /-- There was nothing to change, and the row was read. -/
  | unchanged {m : Model} {id : Int} {row : Row} (unstamped : m.traits.timestamps = false)
    (read : m.rowOf? after id = some row) : Follows before after none ⟨m, .updated, row⟩
  /-- The row of the key was moved to the trash and read back. -/
  | trashed {m : Model} {id : Int} {stamp : Value} {row : Row} (trash : m.traits.softDeletes = true)
    (read : m.rowOf? after id = some row) :
    Follows before after (some (.update (m.updateOf id (Row.empty.insert "deleted_at" stamp))))
      ⟨m, .deleted, row⟩
  /-- The row of the key was there, and it was removed. -/
  | removed {m : Model} {id : Int} {row : Row} (hard : m.traits.softDeletes = false)
    (read : m.rowOf? before id = some row) :
    Follows before after (some (.delete (m.deleteOf id))) ⟨m, .deleted, row⟩

/-- At most one write that succeeds, and what follows from it. -/
structure Ledger.Entry where
  written : Option Write
  occurrences : List Occurrence

/-- The write runs on the copy of the transaction, and the occurrences follow from it. -/
structure Ledger.Entry.Holds (before after : Store) (entry : Ledger.Entry) : Prop where
  leads : before.replay entry.written.toList = .ok after
  follow : ∀ o ∈ entry.occurrences, o.Follows before after entry.written

/-- The entries, in their order. -/
abbrev Ledger : Type := List Ledger.Entry

namespace Ledger

/-- The writes that succeed. -/
def writes (ledger : Ledger) : List Write :=
  ledger.flatMap fun entry => entry.written.toList

/-- What is announced. -/
def announced (db : Database) (ledger : Ledger) : List Announcement :=
  ledger.flatMap fun entry => entry.occurrences.flatMap db.announced

/-- Each entry holds where the entries before it lead. -/
def Holds (before after : Store) : Ledger → Prop
  | [] => after = before
  | entry :: rest => ∃ between, entry.Holds before between ∧ Holds between after rest

theorem writes_append (first rest : Ledger) : writes (first ++ rest) = writes first ++ writes rest :=
  List.flatMap_append

theorem announced_append (db : Database) (first rest : Ledger) :
    announced db (first ++ rest) = announced db first ++ announced db rest :=
  List.flatMap_append

theorem Holds.append {before between after : Store} {first rest : Ledger}
    (begins : Holds before between first) (goesOn : Holds between after rest) :
    Holds before after (first ++ rest) := by
  induction first generalizing before with
  | nil =>
    obtain rfl : between = before := begins
    exact goesOn
  | cons entry first ih =>
    obtain ⟨next, holds, begins⟩ := begins
    exact ⟨next, holds, ih begins⟩

theorem Holds.single {before after : Store} {entry : Entry} (holds : entry.Holds before after) :
    Holds before after [entry] :=
  ⟨after, holds, rfl⟩

/-- A ledger that holds leads from the one store to the other by its writes alone. -/
theorem Holds.replay {before after : Store} {ledger : Ledger} (holds : Holds before after ledger) :
    before.replay (writes ledger) = .ok after := by
  induction ledger generalizing before with
  | nil =>
    obtain rfl : after = before := holds
    rfl
  | cons entry rest ih =>
    obtain ⟨between, holds, goesOn⟩ := holds
    change before.replay (entry.written.toList ++ writes rest) = .ok after
    rw [Store.replay_concat holds.leads]
    exact ih goesOn

/-- From one session to another, and from one state of the transaction `index` to another, all that
was done in it and all that was announced stands in the ledger. -/
structure Explains (ledger : Ledger) (db : Database) (index : Nat) (s s' : Session)
    (t t' : Transaction) : Prop where
  goesOn : ∃ actions, s'.engine = s.engine.run actions ∧
    ∀ action ∈ actions, action ∉ Engine.endings index
  stays : s'.engine.active index = .ok t'
  journal : t'.journal = t.journal ++ writes ledger
  holds : Holds t.working t'.working ledger
  announcements : s'.announcements = s.announcements ++ announced db ledger

namespace Explains

variable {first rest : Ledger} {db : Database} {index : Nat} {s s' s'' : Session}
  {t t' t'' : Transaction}

theorem append (begins : Explains first db index s s' t t')
    (later : Explains rest db index s' s'' t' t'') :
    Explains (first ++ rest) db index s s'' t t'' where
  goesOn := by
    obtain ⟨actions, ran, open_⟩ := begins.goesOn
    obtain ⟨more, ranMore, stillOpen⟩ := later.goesOn
    refine ⟨actions ++ more, ?_, ?_⟩
    · rw [Engine.run_append, ← ran]
      exact ranMore
    · intro action mem
      rcases List.mem_append.1 mem with mem | mem
      · exact open_ action mem
      · exact stillOpen action mem
  stays := later.stays
  journal := by rw [later.journal, begins.journal, writes_append, List.append_assoc]
  holds := begins.holds.append later.holds
  announcements := by
    rw [later.announcements, begins.announcements, announced_append, List.append_assoc]

/-- Where nothing happens there is nothing to note. -/
theorem nil (opened : s.engine.active index = .ok t) (still : s'.engine = s.engine)
    (silent : s'.announcements = s.announcements) : Explains [] db index s s' t t where
  goesOn := ⟨[], still, fun _ none => absurd none List.not_mem_nil⟩
  stays := by rw [still, opened]
  journal := (List.append_nil _).symm
  holds := rfl
  announcements := by rw [silent]; exact (List.append_nil _).symm

end Explains

end Ledger

namespace Task

variable {α β : Type} {index : Nat}

/-- In the transaction the work changes nothing there and announces nothing. -/
def Still (index : Nat) (work : Task α) : Prop :=
  ∀ (db : Database) (s : Session), db.handle = .transaction index →
    (work db s).2.engine = s.engine ∧ (work db s).2.announcements = s.announcements

namespace Still

theorem pure (a : α) : Still index (Pure.pure a : Task α) :=
  fun _ _ _ => ⟨rfl, rfl⟩

theorem throw (e : Error) : Still index (MonadExcept.throw e : Task α) :=
  fun _ _ _ => ⟨rfl, rfl⟩

theorem ofExcept (answer : Except Error α) : Still index (Work.ofExcept answer : Task α) :=
  fun _ _ _ => ⟨rfl, rfl⟩

theorem database : Still index (Work.database : Task Database) :=
  fun _ _ _ => ⟨rfl, rfl⟩

theorem select (statement : Select) : Still index (Task.select statement) :=
  fun _ _ _ => ⟨rfl, rfl⟩

theorem stamp : Still index Task.stamp :=
  fun _ _ _ => ⟨rfl, rfl⟩

theorem freshNumber : Still index Task.freshNumber :=
  fun _ _ _ => ⟨rfl, rfl⟩

theorem bind {work : Task α} {next : α → Task β} (first : Still index work)
    (rest : ∀ a, Still index (next a)) : Still index (work >>= next) := by
  intro db s inside
  obtain ⟨still, silent⟩ := first db s inside
  rw [Work.run_bind]
  cases ran : work db s with
  | mk answer s' =>
    rw [ran] at still silent
    cases answer with
    | error e => exact ⟨still, silent⟩
    | ok a =>
      obtain ⟨stays, keepsSilent⟩ := rest a db s' inside
      exact ⟨stays.trans still, keepsSilent.trans silent⟩

theorem ite {c : Prop} [Decidable c] {work other : Task α} (yes : Still index work)
    (no : Still index other) : Still index (if c then work else other) := by
  split
  · exact yes
  · exact no

theorem mapM {γ : Type} {work : γ → Task α} (each : ∀ item, Still index (work item))
    (items : List γ) : Still index (items.mapM work) := by
  induction items with
  | nil =>
    rw [List.mapM_nil]
    exact pure _
  | cons item rest ih =>
    rw [List.mapM_cons]
    exact bind (each item) fun _ => bind ih fun _ => pure _

/-- In a transaction no other one is begun. -/
theorem transaction (work : Task α) : Still index (Task.transaction work) := by
  intro db s inside
  have nested : db.inTransaction = true := by
    unfold Database.inTransaction
    rw [inside]
    rfl
  rw [run_transaction_nested work s nested]
  exact ⟨rfl, rfl⟩

end Still

/-- The work goes on after a write that led from one copy of the transaction to another. It changes
nothing more, and whatever it announces follows from the write. -/
def Reports (index : Nat) (before after : Store) (written : Option Write) (work : Task α) : Prop :=
  ∀ (db : Database) (s : Session) (t : Transaction), db.handle = .transaction index →
    s.engine.active index = .ok t → t.working = after →
    ∃ occurrences : List Occurrence, (work db s).2.engine = s.engine ∧
      (work db s).2.announcements = s.announcements ++ occurrences.flatMap db.announced ∧
      ∀ o ∈ occurrences, o.Follows before after written

namespace Reports

variable {before after : Store} {written : Option Write}

theorem of_still {work : Task α} (still : Still index work) :
    Reports index before after written work := by
  intro db s t inside _ _
  obtain ⟨same, silent⟩ := still db s inside
  refine ⟨[], same, ?_, fun _ none => absurd none List.not_mem_nil⟩
  rw [silent]
  exact (List.append_nil _).symm

theorem bind {work : Task α} {next : α → Task β} (first : Reports index before after written work)
    (rest : ∀ a, Reports index before after written (next a)) :
    Reports index before after written (work >>= next) := by
  intro db s t inside opened sees
  obtain ⟨occurrences, same, announced, follow⟩ := first db s t inside opened sees
  rw [Work.run_bind]
  cases ran : work db s with
  | mk answer s' =>
    rw [ran] at same announced
    cases answer with
    | error e => exact ⟨occurrences, same, announced, follow⟩
    | ok a =>
      have stays : s'.engine.active index = .ok t := by rw [same, opened]
      obtain ⟨more, sameAfter, announcedAfter, followAfter⟩ := rest a db s' t inside stays sees
      refine ⟨occurrences ++ more, sameAfter.trans same, ?_, ?_⟩
      · rw [announcedAfter, announced, List.flatMap_append, List.append_assoc]
      · intro o mem
        rcases List.mem_append.1 mem with mem | mem
        · exact follow o mem
        · exact followAfter o mem

/-- What is selected is selected from the copy that the write led to. -/
theorem select_bind {statement : Select} {next : List Row → Task β}
    (rest : Reports index before after written (next (after.select statement))) :
    Reports index before after written (Task.select statement >>= next) := by
  intro db s t inside opened sees
  have answered : s.engine.select db.handle statement = .ok (after.select statement) := by
    rw [Engine.select_eq, inside, Engine.storeOf_transaction, opened, ← sees]
    rfl
  rw [Work.run_bind, run_select, answered]
  exact rest db _ t inside opened sees

theorem ofExcept_bind {answer : Except Error α} {next : α → Task β}
    (rest : ∀ a, answer = .ok a → Reports index before after written (next a)) :
    Reports index before after written (Work.ofExcept answer >>= next) := by
  cases answer with
  | error e => exact of_still (.throw e)
  | ok a => exact rest a rfl

theorem announce {o : Occurrence} (follows : o.Follows before after written) :
    Reports index before after written
      (Task.announce o.model o.event (Instance.ofRow o.model o.row).toValue) := by
  intro db s t _ _ _
  rw [run_announce]
  refine ⟨[o], rfl, ?_, ?_⟩
  · rw [List.flatMap_singleton]
  · intro other mem
    rwa [List.mem_singleton.1 mem]

theorem forM {γ : Type} {work : γ → Task Unit} {items : List γ}
    (each : ∀ item ∈ items, Reports index before after written (work item)) :
    Reports index before after written (items.forM work) := by
  induction items with
  | nil => exact of_still (.pure _)
  | cons item rest ih =>
    refine bind (each item List.mem_cons_self) fun _ => ih ?_
    intro other mem
    exact each other (List.mem_cons_of_mem _ mem)

end Reports

/-- From the transaction with this copy, all that the work does there and all that is announced in the
meantime is explained by a ledger, whether the work fails or not. -/
def Ledgered (index : Nat) (store : Store) (work : Task α) : Prop :=
  ∀ (db : Database) (s : Session) (t : Transaction), db.handle = .transaction index →
    s.engine.active index = .ok t → t.working = store →
    ∃ ledger t', Ledger.Explains ledger db index s (work db s).2 t t'

namespace Ledgered

variable {store : Store}

/-- Announcements without a write stand in an entry of their own. -/
theorem of_reports {work : Task α} (reports : Reports index store store none work) :
    Ledgered index store work := by
  intro db s t inside opened sees
  obtain ⟨occurrences, same, announced, follow⟩ := reports db s t inside opened sees
  refine ⟨[⟨none, occurrences⟩], t, ⟨[], same, fun _ none => absurd none List.not_mem_nil⟩,
    by rw [same, opened], (List.append_nil _).symm, .single ⟨rfl, ?_⟩, ?_⟩
  · rw [sees]
    exact follow
  · rw [announced]
    exact congrArg _ (List.append_nil _).symm

theorem of_still {work : Task α} (still : Still index work) : Ledgered index store work :=
  of_reports (.of_still still)

theorem bind {work : Task α} {next : α → Task β} (first : Ledgered index store work)
    (rest : ∀ a after, Ledgered index after (next a)) : Ledgered index store (work >>= next) := by
  intro db s t inside opened sees
  obtain ⟨ledger, t', explains⟩ := first db s t inside opened sees
  rw [Work.run_bind]
  cases ran : work db s with
  | mk answer s' =>
    rw [ran] at explains
    cases answer with
    | error e => exact ⟨ledger, t', explains⟩
    | ok a =>
      obtain ⟨more, t'', explainsMore⟩ := rest a t'.working db s' t' inside explains.stays rfl
      exact ⟨ledger ++ more, t'', explains.append explainsMore⟩

theorem recover {work : Task α} {handler : Error → Task α} (first : Ledgered index store work)
    (rest : ∀ e after, Ledgered index after (handler e)) :
    Ledgered index store (tryCatch work handler) := by
  intro db s t inside opened sees
  obtain ⟨ledger, t', explains⟩ := first db s t inside opened sees
  change ∃ ledger t', Ledger.Explains ledger db index s (Work.catchError work handler db s).2 t t'
  unfold Work.catchError
  cases ran : work db s with
  | mk answer s' =>
    rw [ran] at explains
    cases answer with
    | ok a => exact ⟨ledger, t', explains⟩
    | error e =>
      obtain ⟨more, t'', explainsMore⟩ := rest e t'.working db s' t' inside explains.stays rfl
      exact ⟨ledger ++ more, t'', explains.append explainsMore⟩

/-- Work that changes nothing leaves the copy as it is for what comes after it. -/
theorem still_bind {work : Task α} {next : α → Task β} (still : Still index work)
    (rest : ∀ a, Ledgered index store (next a)) : Ledgered index store (work >>= next) := by
  intro db s t inside opened sees
  obtain ⟨same, silent⟩ := still db s inside
  rw [Work.run_bind]
  cases ran : work db s with
  | mk answer s' =>
    rw [ran] at same silent
    have explains : Ledger.Explains [] db index s s' t t := .nil opened same silent
    cases answer with
    | error e => exact ⟨[], t, explains⟩
    | ok a =>
      obtain ⟨ledger, t', explainsMore⟩ := rest a db s' t inside explains.stays sees
      exact ⟨ledger, t', explains.append explainsMore⟩

theorem select_bind {statement : Select} {next : List Row → Task β}
    (rest : Ledgered index store (next (store.select statement))) :
    Ledgered index store (Task.select statement >>= next) := by
  intro db s t inside opened sees
  have answered : s.engine.select db.handle statement = .ok (store.select statement) := by
    rw [Engine.select_eq, inside, Engine.storeOf_transaction, opened, ← sees]
    rfl
  rw [Work.run_bind, run_select, answered]
  let asked : Session := { s with received := s.received ++ [.select statement] }
  obtain ⟨ledger, t', explains⟩ := rest db asked t inside opened sees
  exact ⟨ledger, t', explains.goesOn, explains.stays, explains.journal, explains.holds,
    explains.announcements⟩

theorem ite {c : Prop} [Decidable c] {work other : Task α} (yes : c → Ledgered index store work)
    (no : ¬c → Ledgered index store other) :
    Ledgered index store (if c then work else other) := by
  split
  · next h => exact yes h
  · next h => exact no h

/-- A write that fails is noted nowhere; one that succeeds stands in the ledger with what is announced
after it. -/
theorem write_bind {w : Write} {next : Store.WriteAnswer → Task β}
    (rest : ∀ shared drawn prepared answer after,
      Engine.prepare shared w = .ok (prepared, drawn) → store.write prepared = .ok (answer, after) →
      Reports index store after (some prepared) (next answer)) :
    Ledgered index store (Task.write w >>= next) := by
  intro db s t inside opened sees
  have own : ∀ action ∈ [Engine.Action.run db.handle (.write w)], action ∉ Engine.endings index := by
    simp [Engine.endings]
  rw [Work.run_bind, run_write, inside]
  generalize written : s.engine.write (.transaction index) w = outcome
  have ran : outcome.2 = s.engine.run [.run db.handle (.write w)] := by
    rw [inside, ← written]
    rfl
  have wrote := s.engine.wrote index w
  rw [written] at wrote
  cases wrote with
  | refused e =>
    exact ⟨[], t, ⟨_, ran, own⟩, opened, (List.append_nil _).symm, rfl, (List.append_nil _).symm⟩
  | failed e drew =>
    exact ⟨[], t, ⟨_, ran, own⟩, opened, (List.append_nil _).symm, rfl, (List.append_nil _).symm⟩
  | @noted t' prepared shared working answer found drew succeeded =>
    obtain rfl : t' = t := Except.ok.inj (found.symm.trans opened)
    subst sees
    have openedAfter : ({ s.engine with shared } : Engine).active index = .ok t' := opened
    have going := (Engine.active_eq_ok.1 opened).2
    let changed : Transaction := { t' with working, journal := t'.journal ++ [prepared] }
    have reopened : (({ s.engine with shared } : Engine).setTransaction index changed).active index =
        .ok changed := Engine.active_setTransaction openedAfter going
    dsimp only
    generalize reached : (⟨_, _, _, _, _, _⟩ : Session) = s'
    obtain ⟨occurrences, same, announced, follow⟩ :=
      rest _ _ _ _ _ drew succeeded db s' changed inside (by rw [← reached]; exact reopened) rfl
    refine ⟨[⟨some prepared, occurrences⟩], changed, ⟨_, ?_, own⟩, ?_, rfl, .single ⟨?_, follow⟩, ?_⟩
    · rw [same, ← reached]
      exact ran
    · rw [same, ← reached]
      exact reopened
    · change (t'.working.write prepared).bind (fun result => result.2.replay []) = _
      rw [succeeded]
      rfl
    · rw [announced, ← reached]
      exact congrArg _ (List.append_nil _).symm

/-- An insertion stands in the ledger with the keys of its rows fixed. -/
theorem insert_bind {statement : Insert} {next : List Int → Task β}
    (rest : ∀ rows keys after,
      store.write (.insert { statement with rows }) = .ok (.inserted keys, after) →
      Reports index store after (some (.insert { statement with rows })) (next keys)) :
    Ledgered index store (Task.insert statement >>= next) := by
  unfold Task.insert
  rw [bind_assoc]
  refine write_bind fun shared drawn w answer after drew ran => ?_
  obtain ⟨keyed, last, -, rfl, -⟩ := Engine.prepare_insert drew
  obtain ⟨assigned, -, -, -, rfl, -⟩ := Store.write_insert ran
  exact rest _ _ _ ran

theorem update_bind {statement : Update} {next : Nat → Task β}
    (rest : ∀ n after, Reports index store after (some (.update statement)) (next n)) :
    Ledgered index store (Task.update statement >>= next) := by
  unfold Task.update
  rw [bind_assoc]
  refine write_bind fun shared drawn w answer after drew _ => ?_
  cases drew
  exact rest _ _

theorem delete_bind {statement : Delete} {next : Nat → Task β}
    (rest : ∀ n after, Reports index store after (some (.delete statement)) (next n)) :
    Ledgered index store (Task.delete statement >>= next) := by
  unfold Task.delete
  rw [bind_assoc]
  refine write_bind fun shared drawn w answer after drew _ => ?_
  cases drew
  exact rest _ _

end Ledgered

end Task

end EntityStore
