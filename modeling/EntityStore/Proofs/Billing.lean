import EntityStore.Billing.Operations
import EntityStore.Billing.Sandbox

/-!
# Requests made of a payments provider

What a call has asked the provider shows in the requests of its session (`Session.asked`). Here are
the steps that all operations on a customer are made of: finding out whose customer the instance is,
and making a request, which changes nothing but the list of the requests.
-/

namespace EntityStore

namespace Session

/-- The session once these requests were made of the payments provider. -/
def asked (s : Session) (made : List PaymentsRequest) : Session :=
  { s with requests := s.requests ++ made.map .payments }

@[simp] theorem asked_asked (s : Session) (made more : List PaymentsRequest) :
    (s.asked made).asked more = s.asked (made ++ more) := by
  unfold asked
  rw [List.map_append, List.append_assoc]

@[simp] theorem paymentsRequests_asked (s : Session) (made : List PaymentsRequest) :
    (s.asked made).paymentsRequests = s.paymentsRequests ++ made := by
  unfold paymentsRequests asked
  rw [List.filterMap_append, List.filterMap_map]
  exact congrArg (_ ++ ·) List.filterMap_some

end Session

namespace Billing

variable {db : Database} {provider : PaymentsProvider} {i : Instance} {s : Session}

@[simp] theorem run_current (db : Database) (i : Instance) (s : Session) :
    Instance.current db (i, s) = (.ok i, (i, s)) := rfl

@[simp] theorem run_ofTask {α : Type} (task : Task α) (db : Database) (i : Instance) (s : Session) :
    InstanceTask.ofTask task db (i, s) = ((task db s).1, (i, (task db s).2)) := rfl

/-- The database whose payments go to the sandbox. -/
def sandboxed : Database :=
  { registry := {}, payments := some .sandbox }

/-- The provider answers from the requests made before, and the request is noted. -/
theorem run_request (configured : db.payments = some provider) (r : PaymentsRequest) :
    request r db (i, s) =
      ((provider.answer s.paymentsRequests r).mapError .payments, (i, s.asked [r])) := by
  unfold request InstanceTask.ofTask Task.requestPayments
  rw [configured]
  rfl

/-- After an answer the work goes on with it. -/
theorem run_request_bind {β : Type} (configured : db.payments = some provider)
    {r : PaymentsRequest} {a : r.Answer} (answered : provider.answer s.paymentsRequests r = .ok a)
    (next : r.Answer → InstanceTask β) :
    (request r >>= next) db (i, s) = next a db (i, s.asked [r]) := by
  rw [Work.run_bind, run_request configured, answered]
  rfl

theorem run_requireCustomer {customer : String} (kept : customerId? i = some customer) :
    requireCustomer db (i, s) = (.ok customer, (i, s)) := by
  unfold requireCustomer
  rw [Work.run_bind, run_current]
  dsimp only
  rw [kept]
  rfl

/-- An instance that is no customer is refused. -/
theorem run_requireCustomer_none (none : customerId? i = none) :
    requireCustomer db (i, s) =
      (.error (.payments (.notACustomer i.model.name (shownId i))), (i, s)) := by
  unfold requireCustomer
  rw [Work.run_bind, run_current]
  dsimp only
  rw [none]
  rfl

end Billing

end EntityStore
