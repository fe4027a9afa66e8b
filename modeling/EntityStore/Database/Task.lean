import EntityStore.Billing.Basic
import EntityStore.Instant
import EntityStore.Model.Registry
import EntityStore.Store.Engine
import EntityStore.TwoFactor.Basic

/-!
# Tasks on a database

A database says what is known and where statements run: the registry, the settings, the handle and
the collaborators. All that work on it changes stands in a session. `Task α` is such work with an
answer of type `α`: it reads the database, changes the session, and ends with an answer or an error.
What was changed before an error stays changed. `Work` is the same over any state, so that tasks can
also change the instance that they are about.
-/

namespace EntityStore

structure Database where
  registry : Registry
  config : Config := {}
  handle : Handle := .shared
  bus : Option EventBus := none
  payments : Option PaymentsProvider := none
  twoFactor : Option TwoFactorProvider := none

/-- A request made of one of the providers. -/
inductive ProviderRequest where
  | payments (request : PaymentsRequest)
  | twoFactor (request : TwoFactorRequest)
deriving DecidableEq, Repr

/-- The name of a request and its arguments in order, as a log shows them. -/
def ProviderRequest.record : ProviderRequest → String × List Value
  | .payments request => request.record
  | .twoFactor request => request.record

/-- What work on a database changes. `received` are the statements that the storage was asked to
run, `requests` what the providers were asked for; both in order. -/
structure Session where
  engine : Engine := {}
  clock : Instant
  identifiers : Nat := 0
  announcements : List Announcement := []
  received : List Statement := []
  requests : List ProviderRequest := []
deriving Repr

namespace Database

def inTransaction (db : Database) : Bool :=
  db.handle != .shared

end Database

namespace Session

/-- The store as the statements of a handle see it. -/
def view (s : Session) : Handle → Store
  | .shared => s.engine.shared
  | .transaction index => ((s.engine.transactions[index]?).map (·.working)).getD {}

/-- The payments requests made so far. -/
def paymentsRequests (s : Session) : List PaymentsRequest :=
  s.requests.filterMap fun
    | .payments request => some request
    | .twoFactor _ => none

/-- The two-factor requests made so far. -/
def twoFactorRequests (s : Session) : List TwoFactorRequest :=
  s.requests.filterMap fun
    | .twoFactor request => some request
    | .payments _ => none

end Session

/-- Work on a database over a state. -/
def Work (σ α : Type) : Type :=
  Database → σ → Except Error α × σ

/-- Work that changes a session. -/
abbrev Task (α : Type) : Type := Work Session α

namespace Work

variable {σ α β : Type}

/-- Answers at once. -/
def pure (a : α) : Work σ α :=
  fun _ s => (.ok a, s)

/-- Goes on with the answer; an error ends the work. -/
def bind (work : Work σ α) (next : α → Work σ β) : Work σ β :=
  fun db s =>
    match work db s with
    | (.ok a, s) => next a db s
    | (.error e, s) => (.error e, s)

/-- Fails at once. -/
def fail (e : Error) : Work σ α :=
  fun _ s => (.error e, s)

/-- Goes on after a failure with what `recover` makes of the error. -/
def catchError (work : Work σ α) (recover : Error → Work σ α) : Work σ α :=
  fun db s =>
    match work db s with
    | (.ok a, s) => (.ok a, s)
    | (.error e, s) => recover e db s

instance : Monad (Work σ) where
  pure := pure
  bind := bind

instance : MonadExceptOf Error (Work σ) where
  throw := fail
  tryCatch := catchError

/-- The database that the work is done on. -/
def database : Work σ Database :=
  fun db s => (.ok db, s)

/-- The answer or the error of a computation. -/
def ofExcept (answer : Except Error α) : Work σ α :=
  fun _ s => (answer, s)

/-- The same work on another database. -/
def on (db : Database) (work : Work σ α) : Work σ α :=
  fun _ s => work db s

/-- The outcome of the work, which then cannot fail any more. -/
def outcome (work : Work σ α) : Work σ (Except Error α) :=
  fun db s =>
    let (answer, s) := work db s
    (.ok answer, s)

@[simp] theorem run_pure (a : α) (db : Database) (s : σ) :
    (Pure.pure a : Work σ α) db s = (.ok a, s) := rfl

theorem run_bind (work : Work σ α) (next : α → Work σ β) (db : Database) (s : σ) :
    (work >>= next) db s =
      match work db s with
      | (.ok a, s) => next a db s
      | (.error e, s) => (.error e, s) := rfl

/-- Two pieces of work that end with an answer have done so one after the other. -/
theorem bind_eq_ok {work : Work σ α} {next : α → Work σ β} {db : Database} {s s' : σ} {b : β} :
    (work >>= next) db s = (.ok b, s') ↔
      ∃ a between, work db s = (.ok a, between) ∧ next a db between = (.ok b, s') := by
  rw [run_bind]
  cases work db s with
  | mk answer between =>
    cases answer with
    | error e =>
      constructor
      · intro failed
        cases failed
      · rintro ⟨a, between, ran, -⟩
        cases ran
    | ok a =>
      constructor
      · intro ran
        exact ⟨a, between, rfl, ran⟩
      · rintro ⟨a, between, ran, rest⟩
        cases ran
        exact rest

theorem ofExcept_bind_eq_ok {answer : Except Error α} {next : α → Work σ β} {db : Database}
    {s s' : σ} {b : β} : (ofExcept answer >>= next) db s = (.ok b, s') ↔
      ∃ a, answer = .ok a ∧ next a db s = (.ok b, s') := by
  rw [bind_eq_ok]
  constructor
  · rintro ⟨a, _, answered, ran⟩
    cases answered
    exact ⟨a, rfl, ran⟩
  · rintro ⟨a, rfl, ran⟩
    exact ⟨a, s, rfl, ran⟩

/-- Work that ends without an error answers. -/
theorem eq_ok_of_isOk {work : Work σ α} {db : Database} {s : σ}
    (done : (work db s).1.isOk = true) : ∃ a, work db s = (.ok a, (work db s).2) := by
  generalize work db s = outcome at done
  obtain ⟨answer, s'⟩ := outcome
  cases answer with
  | error e => cases done
  | ok a => exact ⟨a, rfl⟩

@[simp] theorem run_throw (e : Error) (db : Database) (s : σ) :
    (throw e : Work σ α) db s = (.error e, s) := rfl

@[simp] theorem run_database (db : Database) (s : σ) :
    (database : Work σ Database) db s = (.ok db, s) := rfl

@[simp] theorem run_ofExcept (answer : Except Error α) (db : Database) (s : σ) :
    (ofExcept answer : Work σ α) db s = (answer, s) := rfl

/-- Nothing is lost by going on with the answer as it is. -/
theorem bind_pure_id (work : Work σ α) : (id <$> work) = work := by
  funext db s
  show Work.bind work (fun a => Work.pure (id a)) db s = work db s
  unfold bind
  split <;> simp_all [pure]

/-- Three pieces of work in a row are one after the other, however they are grouped. -/
theorem bind_bind (work : Work σ α) (next : α → Work σ β) {γ : Type} (last : β → Work σ γ) :
    (work >>= next >>= last) = work >>= fun a => next a >>= last := by
  funext db s
  show bind (bind work next) last db s = bind work (fun a => bind (next a) last) db s
  unfold bind
  cases h : work db s with
  | mk answer s' => cases answer <;> rfl

instance : LawfulMonad (Work σ) :=
  LawfulMonad.mk' (Work σ) bind_pure_id (fun _ _ => rfl) fun work next last =>
    bind_bind work next last

end Work

namespace Task

variable {α : Type}

/-- The present instant. Time moves on by being asked for. -/
def now : Task Instant :=
  fun _ s => (.ok s.clock, { s with clock := s.clock.next })

/-- The text of the present instant, as columns hold it. -/
def stamp : Task Value :=
  return .text (← now).text

/-- A number that was not drawn before. -/
def freshNumber : Task Nat :=
  fun _ s => (.ok s.identifiers, { s with identifiers := s.identifiers + 1 })

/-- Notes a statement that the storage receives. -/
def note (statement : Statement) : Task Unit :=
  fun _ s => (.ok (), { s with received := s.received ++ [statement] })

/-- Runs a selection where the statements of the database run. -/
def select (statement : Select) : Task (List Row) := do
  note (.select statement)
  fun db s => (s.engine.select db.handle statement, s)

/-- The first row of a selection. -/
def selectFirst (statement : Select) : Task (Option Row) := do
  return (← select { statement with limit := some 1 }).head?

/-- Runs a statement that changes rows. -/
def write (w : Write) : Task Store.WriteAnswer := do
  note (.write w)
  fun db s =>
    let (answer, engine) := s.engine.write db.handle w
    (answer, { s with engine })

/-- Inserts rows and answers their keys. -/
def insert (statement : Insert) : Task (List Int) := do
  return (← write (.insert statement)).keys

/-- Updates rows and answers their number. -/
def update (statement : Update) : Task Nat := do
  return (← write (.update statement)).count

/-- Deletes rows and answers their number. -/
def delete (statement : Delete) : Task Nat := do
  return (← write (.delete statement)).count

/-- Announces an event about a row, if the settings and the entity want it and there is a bus. What
becomes of the announcement does not show to the caller. -/
def announce (m : Model) (event : LifecycleEvent) (payload : Value) : Task Unit :=
  fun db s =>
    if db.config.dispatchEvents && db.bus == some .recording && m.traits.observe.observes event then
      (.ok (), { s with announcements := s.announcements ++ [⟨event.nameFor m.name, payload⟩] })
    else (.ok (), s)

/-- Makes a request of the payments provider. -/
def requestPayments (request : PaymentsRequest) : Task request.Answer :=
  fun db s =>
    match db.payments with
    | none => (.error .noPaymentsProvider, s)
    | some provider =>
      ((provider.answer s.paymentsRequests request).mapError .payments,
        { s with requests := s.requests ++ [.payments request] })

/-- Makes a request of the two-factor provider. -/
def requestTwoFactor (request : TwoFactorRequest) : Task request.Answer :=
  fun db s =>
    match db.twoFactor with
    | none => (.error .noTwoFactorProvider, s)
    | some provider =>
      ((provider.answer s.twoFactorRequests request).mapError .auth,
        { s with requests := s.requests ++ [.twoFactor request] })

/-- Opens a transaction; answers the database whose statements run in it. -/
def begin : Task Database :=
  fun db s =>
    if db.inTransaction then (.error .nestedTransaction, s)
    else
      match s.engine.begin db.handle with
      | .ok (index, engine) =>
        (.ok { db with handle := .transaction index }, { s with engine })
      | .error e => (.error e, s)

/-- Ends the transaction that the database is in: commits after an answer, rolls back after an
error. -/
def conclude (outcome : Except Error α) : Task α :=
  fun db s =>
    match db.handle, outcome with
    | .shared, outcome => (outcome, s)
    | .transaction index, .ok a =>
      let (ended, engine) := s.engine.commit index
      (ended.map fun _ => a, { s with engine })
    | .transaction index, .error e =>
      (.error e, { s with engine := (s.engine.rollback index).2 })

/-- Does all of the work in a transaction. -/
def transaction (work : Task α) : Task α := do
  let inner ← begin
  let answer ← (work.on inner).outcome
  (conclude answer).on inner

end Task

end EntityStore
