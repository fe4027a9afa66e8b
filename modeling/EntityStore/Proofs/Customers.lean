import EntityStore.Proofs.StoredCustomer

/-!
# Billing in step with storage

Calls on a billable instance mix requests, which may be refused, with writes of the identifier of the
customer. What a call has done at any point is known from the requests that it has made so far and
their answers (`Billing.Reached`), whether it goes on or ends there (`Billing.Ended`). Main result
`Billing.keepsStep`; after any calls the instance is in step with its row, a customer was created only
while none was stored, every other request was about the stored one, and a call that fails leaves all
as it was, unless it had created the customer before.
-/

namespace EntityStore

namespace PaymentsRequest

/-- The customer that a request is about, if it is about one that was created before. -/
def customer? : PaymentsRequest → Option String
  | .createCustomer _ | .updatePaymentMethod .. | .detachPaymentMethod _ | .retrievePaymentMethod _
  | .cancelSubscription _ => none
  | .retrieveCustomer customer | .updateCustomer customer _ | .deleteCustomer customer
  | .attachPaymentMethod customer _ | .listPaymentMethods customer _
  | .setDefaultPaymentMethod customer _ | .createSubscription customer _
  | .listSubscriptions customer | .createPaymentIntent customer .. | .createSetupIntent customer _ =>
    some customer
  | .createCheckoutSession request => some request.customer

/-- The request creates or deletes a customer. -/
def isRegistration : PaymentsRequest → Bool
  | .createCustomer _ | .deleteCustomer _ => true
  | _ => false

/-- The request is in place while this customer is kept: one is created only while none is, and a
request about a customer is about the one that is kept. -/
structure Fits (kept : Option String) (r : PaymentsRequest) : Prop where
  creates : ∀ params, r = .createCustomer params → kept = none
  bound : ∀ customer, r.customer? = some customer → kept = some customer

/-- The request neither creates nor deletes a customer, and is about no other one than this. -/
def IsFor (customer : String) (r : PaymentsRequest) : Prop :=
  r.isRegistration = false ∧ (r.customer? = none ∨ r.customer? = some customer)

theorem IsFor.fits {customer : String} {r : PaymentsRequest} (own : r.IsFor customer) :
    r.Fits (some customer) where
  creates params same := by
    subst same
    cases own.1
  bound other named := by
    rcases own.2 with none | some
    · cases none.symm.trans named
    · exact some.symm.trans named

end PaymentsRequest

namespace PaymentsProvider

variable {provider : PaymentsProvider} {before made more : List PaymentsRequest}
  {kept kept' kept'' : Option String} {r : PaymentsRequest}

/-- What is relied on of the answers of a provider, whatever it refuses: customers have an
identifier, and the one that is answered is the one that was asked for. -/
structure Faithful (provider : PaymentsProvider) : Prop where
  identified : ∀ before params (customer : Customer),
    provider.answer before (.createCustomer params) = .ok customer → customer.id ≠ ""
  retrieved : ∀ before id (customer : Customer),
    provider.answer before (.retrieveCustomer id) = .ok customer → customer.id = id

/-- The customer that is to be kept once a request was answered, when this one was kept before. -/
def keeps (provider : PaymentsProvider) (before : List PaymentsRequest) (kept : Option String) :
    PaymentsRequest → Option String
  | .createCustomer params =>
    match provider.answer before (.createCustomer params) with
    | .ok (customer : Customer) => some customer.id
    | .error _ => kept
  | .deleteCustomer customer =>
    match provider.answer before (.deleteCustomer customer) with
    | .ok _ => none
    | .error _ => kept
  | _ => kept

/-- Requests of which each is in place when it is made. They lead from the customer that was kept
before the first of them to the one that is to be kept after the last. -/
inductive Course (provider : PaymentsProvider) :
    List PaymentsRequest → Option String → List PaymentsRequest → Option String → Prop where
  | nil {before : List PaymentsRequest} {kept : Option String} : Course provider before kept [] kept
  | cons {before made : List PaymentsRequest} {kept kept' : Option String} {r : PaymentsRequest}
    (fits : r.Fits kept)
    (rest : Course provider (before ++ [r]) (provider.keeps before kept r) made kept') :
    Course provider before kept (r :: made) kept'

/-- The provider refused one of the requests. -/
def Refused (provider : PaymentsProvider) (before made : List PaymentsRequest) : Prop :=
  ∃ earlier r later, made = earlier ++ r :: later ∧
    ∃ e, provider.answer (before ++ earlier) r = .error e

/-- The provider created a customer by one of the requests. -/
def Created (provider : PaymentsProvider) (before made : List PaymentsRequest) : Prop :=
  ∃ earlier params later, made = earlier ++ .createCustomer params :: later ∧
    ∃ customer, provider.answer (before ++ earlier) (.createCustomer params) = .ok customer

theorem keeps_of_not_registration (other : r.isRegistration = false) (before : List PaymentsRequest)
    (kept : Option String) : provider.keeps before kept r = kept := by
  cases r <;> first | rfl | cases other

theorem keeps_of_refused {e : PaymentsError} (refused : provider.answer before r = .error e)
    (kept : Option String) : provider.keeps before kept r = kept := by
  unfold keeps
  split
  · rw [refused]
  · rw [refused]
  · rfl

namespace Course

theorem single (fits : r.Fits kept) :
    provider.Course before kept [r] (provider.keeps before kept r) :=
  .cons fits .nil

theorem append (first : provider.Course before kept made kept')
    (rest : provider.Course (before ++ made) kept' more kept'') :
    provider.Course before kept (made ++ more) kept'' := by
  induction first with
  | nil =>
    rw [List.append_nil] at rest
    exact rest
  | cons fits _ ih =>
    refine .cons fits (ih ?_)
    rw [List.append_assoc]
    exact rest

end Course

theorem not_refused_nil : ¬provider.Refused before [] := by
  rintro ⟨earlier, r, later, same, -⟩
  simp at same

/-- One of the requests up to the last one was refused: one before it or itself. -/
theorem refused_concat : provider.Refused before (made ++ [r]) ↔
    provider.Refused before made ∨ ∃ e, provider.answer (before ++ made) r = .error e := by
  constructor
  · rintro ⟨earlier, r', later, same, refused⟩
    rcases later.eq_nil_or_concat with rfl | ⟨later, last, rfl⟩
    · obtain ⟨rfl, last⟩ := List.append_inj' same rfl
      cases last
      exact Or.inr refused
    · rw [List.concat_eq_append, ← List.cons_append, ← List.append_assoc] at same
      obtain ⟨rfl, -⟩ := List.append_inj' same rfl
      exact Or.inl ⟨earlier, r', later, rfl, refused⟩
  · rintro (⟨earlier, r', later, rfl, refused⟩ | refused)
    · exact ⟨earlier, r', later ++ [r], by simp, refused⟩
    · exact ⟨made, r, [], rfl, refused⟩

theorem Created.append (created : provider.Created before made) (more : List PaymentsRequest) :
    provider.Created before (made ++ more) := by
  obtain ⟨earlier, params, later, rfl, answered⟩ := created
  exact ⟨earlier, params, later ++ more, by simp, answered⟩

end PaymentsProvider

namespace Billing

variable {m : Model} {key : Int} {n : Nat} {db : Database} {provider : PaymentsProvider}
  {start state : Instance × Session} {made more : List PaymentsRequest} {α β : Type}

/-- The instance and the storage are as they were. -/
structure Unchanged (start state : Instance × Session) : Prop where
  held : state.1 = start.1
  engine : state.2.engine = start.2.engine

/-- By these requests, all in place, one state leads to another in which the instance is in step. -/
structure Leads (m : Model) (key : Int) (n : Nat) (db : Database) (provider : PaymentsProvider)
    (start : Instance × Session) (made : List PaymentsRequest) (state : Instance × Session) :
    Prop where
  inStep : InStep m key n db state
  asked : state.2.paymentsRequests = start.2.paymentsRequests ++ made
  course : provider.Course start.2.paymentsRequests (stored? m n db start.2) made
    (stored? m n db state.2)

theorem Leads.refl (inStep : InStep m key n db state) : Leads m key n db provider state [] state :=
  ⟨inStep, (List.append_nil _).symm, .nil⟩

theorem Leads.trans {state' : Instance × Session} (first : Leads m key n db provider start made state)
    (rest : Leads m key n db provider state more state') :
    Leads m key n db provider start (made ++ more) state' where
  inStep := rest.inStep
  asked := by rw [rest.asked, first.asked, List.append_assoc]
  course := by
    have course := rest.course
    rw [first.asked] at course
    exact first.course.append course

/-- What a call has done that can go on: none of its requests was refused, and it changed nothing
unless it created the customer. -/
structure Reached (m : Model) (key : Int) (n : Nat) (db : Database) (provider : PaymentsProvider)
    (start : Instance × Session) (made : List PaymentsRequest) (state : Instance × Session) : Prop
    extends Leads m key n db provider start made state where
  accepted : ¬provider.Refused start.2.paymentsRequests made
  changed : Unchanged start state ∨ provider.Created start.2.paymentsRequests made

/-- What a call has done that has ended: if a request was refused, it ended in an error, and if it
ended in an error, it changed nothing unless it had created the customer. -/
structure Ended (m : Model) (key : Int) (n : Nat) (db : Database) (provider : PaymentsProvider)
    (start : Instance × Session) (made : List PaymentsRequest)
    (outcome : Except Error α × (Instance × Session)) : Prop
    extends Leads m key n db provider start made outcome.2 where
  refused : provider.Refused start.2.paymentsRequests made → ∃ e, outcome.1 = .error e
  failed : ∀ e, outcome.1 = .error e →
    Unchanged start outcome.2 ∨ provider.Created start.2.paymentsRequests made

/-- The work, started where the call has got to, ends the call in order. -/
def Concludes (m : Model) (key : Int) (n : Nat) (db : Database) (provider : PaymentsProvider)
    (start state : Instance × Session) (work : InstanceTask α) : Prop :=
  ∃ made, Ended m key n db provider start made (work db state)

/-- Work may be grouped otherwise. -/
theorem Concludes.grouped {first : InstanceTask α} {next : α → InstanceTask β} {γ : Type}
    {last : β → InstanceTask γ}
    (concludes : Concludes m key n db provider start state (first >>= fun a => next a >>= last)) :
    Concludes m key n db provider start state (first >>= next >>= last) := by
  rw [bind_assoc]
  exact concludes

/-- Work may go on with the instance as it is. -/
theorem Concludes.current {next : Instance → InstanceTask α}
    (concludes : Concludes m key n db provider start state (next state.1)) :
    Concludes m key n db provider start state (Instance.current >>= next) :=
  concludes

/-- Work may go on in either of two ways. -/
theorem Concludes.choice {c : Prop} [Decidable c] {work other : InstanceTask α}
    {next : α → InstanceTask β} (yes : Concludes m key n db provider start state (work >>= next))
    (no : ¬c → Concludes m key n db provider start state (other >>= next)) :
    Concludes m key n db provider start state ((if c then work else other) >>= next) := by
  split
  · exact yes
  · next h => exact no h

theorem reached_start (inStep : InStep m key n db start) :
    Reached m key n db provider start [] start :=
  { Leads.refl inStep with
    accepted := PaymentsProvider.not_refused_nil
    changed := Or.inl ⟨rfl, rfl⟩ }

namespace Reached

/-- A call may end with an answer or an error. -/
theorem ends (reached : Reached m key n db provider start made state) (answer : Except Error α) :
    Ended m key n db provider start made (answer, state) :=
  { reached.toLeads with
    refused := fun refused => absurd refused reached.accepted
    failed := fun _ _ => reached.changed }

theorem answers (reached : Reached m key n db provider start made state) (a : α) :
    Concludes m key n db provider start state (pure a) :=
  ⟨made, reached.ends _⟩

theorem fails (reached : Reached m key n db provider start made state) (e : Error) :
    Concludes m key n db provider start state (throw e : InstanceTask α) :=
  ⟨made, reached.ends _⟩

end Reached

section

variable {i : Instance} {s : Session} {r : PaymentsRequest}
  (reached : Reached m key n db provider start made (i, s)) (configured : db.payments = some provider)

include reached

/-- A request that is in place and leaves the customer as it is leads on. -/
theorem Reached.asked_leads (fits : r.Fits (stored? m n db s))
    (kept : provider.keeps s.paymentsRequests (stored? m n db s) r = stored? m n db s) :
    Leads m key n db provider start (made ++ [r]) (i, s.asked [r]) := by
  refine reached.toLeads.trans ⟨reached.inStep.asked _, s.paymentsRequests_asked _, ?_⟩
  have course : provider.Course s.paymentsRequests (stored? m n db s) [r] _ := .single fits
  rw [kept] at course
  exact course

theorem Reached.not_refused {a : r.Answer}
    (answered : provider.answer s.paymentsRequests r = .ok a) :
    ¬provider.Refused start.2.paymentsRequests (made ++ [r]) := by
  rw [PaymentsProvider.refused_concat, ← reached.asked]
  rintro (refused | ⟨e, refused⟩)
  · exact reached.accepted refused
  · cases answered.symm.trans refused

include configured

/-- A call may end with a request that is refused, or go on from the answer. -/
theorem Reached.asks (fits : r.Fits (stored? m n db s)) {next : r.Answer → InstanceTask α}
    (rest : ∀ a, provider.answer s.paymentsRequests r = .ok a →
      Concludes m key n db provider start (i, s.asked [r]) (next a)) :
    Concludes m key n db provider start (i, s) (request r >>= next) := by
  cases answered : provider.answer s.paymentsRequests r with
  | ok a =>
    unfold Concludes
    rw [run_request_bind configured answered]
    exact rest a answered
  | error e =>
    have ran : (request r >>= next) db (i, s) =
        (.error (.payments e), (i, s.asked [r])) := by
      rw [Work.run_bind, run_request configured, answered]
      rfl
    refine ⟨made ++ [r], ?_⟩
    rw [ran]
    have leads := reached.asked_leads fits (PaymentsProvider.keeps_of_refused answered _)
    refine { leads with refused := fun _ => ⟨_, rfl⟩, failed := fun _ _ => ?_ }
    exact reached.changed.imp (fun same => ⟨same.held, same.engine⟩) fun created => created.append _

/-- A request for the stored customer is refused, or the call goes on from the answer. -/
theorem Reached.inquires {customer : String} (stored : stored? m n db s = some customer)
    (own : r.IsFor customer) {next : r.Answer → InstanceTask α}
    (rest : ∀ a, provider.answer s.paymentsRequests r = .ok a →
      Reached m key n db provider start (made ++ [r]) (i, s.asked [r]) →
      Concludes m key n db provider start (i, s.asked [r]) (next a)) :
    Concludes m key n db provider start (i, s) (request r >>= next) := by
  have fits : r.Fits (stored? m n db s) := stored ▸ own.fits
  refine reached.asks configured fits fun a answered => rest a answered ?_
  have leads := reached.asked_leads fits (PaymentsProvider.keeps_of_not_registration own.1 _ _)
  refine { leads with accepted := reached.not_refused answered, changed := ?_ }
  exact reached.changed.imp (fun same => ⟨same.held, same.engine⟩) fun created => created.append _

omit configured

/-- After a customer was created or deleted, keeping what follows from it leads on. -/
theorem Reached.keeps (chargeable : Chargeable m) (fits : r.Fits (stored? m n db s))
    {value : Value} (kept : provider.keeps s.paymentsRequests (stored? m n db s) r =
      value.asText?.filter fun s => !s.isEmpty) :
    ∃ j s', Instance.storeColumn customerColumn value db (i, s.asked [r]) = (.ok (), (j, s')) ∧
      stored? m n db s' = (value.asText?.filter fun s => !s.isEmpty) ∧
      Leads m key n db provider start (made ++ [r]) (j, s') := by
  obtain ⟨j, s', ran, inStep, holds, silent⟩ :=
    InStep.exists_storeColumn chargeable (reached.inStep.asked [r]) value
  have stored : stored? m n db s' = value.asText?.filter fun s => !s.isEmpty := by
    rw [← inStep.customerId?_eq, customerId?, Instance.filledText?, holds]
    rfl
  refine ⟨j, s', ran, stored, reached.toLeads.trans ⟨inStep, ?_, ?_⟩⟩
  · unfold Session.paymentsRequests
    rw [silent]
    exact s.paymentsRequests_asked [r]
  · have course : provider.Course s.paymentsRequests (stored? m n db s) [r] _ := .single fits
    rw [kept, ← stored] at course
    exact course

/-- What needs a customer is refused, or goes on with the one that is stored. -/
theorem Reached.requires {next : String → InstanceTask α}
    (rest : ∀ customer, stored? m n db s = some customer →
      Concludes m key n db provider start (i, s) (next customer)) :
    Concludes m key n db provider start (i, s) (requireCustomer >>= next) := by
  have same := reached.inStep.customerId?_eq
  unfold Concludes
  rw [Work.run_bind]
  cases kept : customerId? i with
  | none =>
    rw [run_requireCustomer_none kept]
    exact reached.fails _
  | some customer =>
    rw [run_requireCustomer kept]
    exact rest customer (same.symm.trans kept)

include configured

/-- A call may consist of one request for the stored customer. -/
theorem Reached.serves {r : String → PaymentsRequest} (own : ∀ customer, (r customer).IsFor customer) :
    Concludes m key n db provider start (i, s)
      (requireCustomer >>= fun customer => request (r customer) >>= fun _ => pure ()) := by
  refine reached.requires fun customer stored => ?_
  exact reached.inquires configured stored (own customer) fun _ _ reached => reached.answers ()

/-- Creating a customer is refused while one is stored; else it may go on with the one that was
created and stored. -/
theorem Reached.creates (chargeable : Chargeable m) (faithful : provider.Faithful)
    {params : CustomerParams} {next : Customer → InstanceTask α}
    (rest : ∀ customer made j s, stored? m n db s = some customer.id →
      Reached m key n db provider start made (j, s) →
      Concludes m key n db provider start (j, s) (next customer)) :
    Concludes m key n db provider start (i, s) (createCustomer params >>= next) := by
  have same := reached.inStep.customerId?_eq
  refine .grouped (.current ?_)
  dsimp only
  cases kept : customerId? i with
  | some customer => exact reached.fails _
  | none =>
    have none : stored? m n db s = none := same.symm.trans kept
    have fits : (PaymentsRequest.createCustomer params).Fits (stored? m n db s) :=
      ⟨fun _ _ => none, nofun⟩
    refine .grouped (reached.asks configured fits fun customer created => ?_)
    have named : (Value.text customer.id).asText?.filter (fun s => !s.isEmpty) =
        some customer.id := by
      have filled := faithful.identified _ _ _ created
      simp [Value.asText?, Option.filter, filled]
    have kept : provider.keeps s.paymentsRequests (stored? m n db s) (.createCustomer params) =
        some customer.id := by
      unfold PaymentsProvider.keeps
      dsimp only
      rw [created]
    obtain ⟨j, s', ran, stored, leads⟩ := reached.keeps chargeable fits (kept.trans named.symm)
    unfold Concludes
    rw [Work.run_bind, Work.run_bind, ran]
    refine rest customer _ j s' (stored.trans named) { leads with
      accepted := reached.not_refused created
      changed := Or.inr ⟨made, params, [], rfl, customer, ?_⟩ }
    rw [← reached.asked]
    exact created

/-- Deleting a customer is the end of a call. -/
theorem Reached.deletes (chargeable : Chargeable m) :
    Concludes m key n db provider start (i, s) deleteCustomer := by
  refine reached.requires fun customer stored => ?_
  have fits : (PaymentsRequest.deleteCustomer customer).Fits (stored? m n db s) :=
    ⟨nofun, fun _ named => stored.trans named⟩
  refine reached.asks configured fits fun _ deleted => ?_
  have kept : provider.keeps s.paymentsRequests (stored? m n db s) (.deleteCustomer customer) =
      Value.null.asText?.filter fun s => !s.isEmpty := by
    unfold PaymentsProvider.keeps
    dsimp only
    rw [deleted]
    rfl
  obtain ⟨j, s', ran, -, leads⟩ := reached.keeps chargeable fits kept
  unfold Concludes
  rw [ran]
  exact ⟨_, { leads with
    refused := fun refused => absurd refused (reached.not_refused deleted)
    failed := nofun }⟩

/-- Work may go on with the customer that is retrieved, which is the stored one. -/
theorem Reached.retrieves (faithful : provider.Faithful) {next : Customer → InstanceTask α}
    (rest : ∀ customer made s, stored? m n db s = some customer.id →
      Reached m key n db provider start made (i, s) →
      Concludes m key n db provider start (i, s) (next customer)) :
    Concludes m key n db provider start (i, s) (retrieveCustomer >>= next) := by
  refine .grouped (reached.requires fun id stored => ?_)
  refine reached.inquires configured stored ⟨rfl, Or.inr rfl⟩ fun customer answered => ?_
  refine rest customer _ _ ?_
  rw [faithful.retrieved _ _ _ answered]
  exact stored

/-- Work may go on with the customer that is created, or else retrieved, which is the stored one. -/
theorem Reached.creates_or_retrieves (chargeable : Chargeable m) (faithful : provider.Faithful)
    {params : CustomerParams} {next : Customer → InstanceTask α}
    (rest : ∀ customer made j s, stored? m n db s = some customer.id →
      Reached m key n db provider start made (j, s) →
      Concludes m key n db provider start (j, s) (next customer)) :
    Concludes m key n db provider start (i, s) (createOrGetCustomer params >>= next) := by
  refine .grouped (.choice ?_ ?_)
  · exact reached.retrieves configured faithful fun customer made s => rest customer made i s
  · exact fun _ => reached.creates configured chargeable faithful rest

/-- Work may go on with the subscription that is found, if there is one. -/
theorem Reached.finds {kind : String} {next : Option Subscription → InstanceTask α}
    (rest : ∀ found made s, Reached m key n db provider start made (i, s) →
      Concludes m key n db provider start (i, s) (next found)) :
    Concludes m key n db provider start (i, s) (subscription? kind >>= next) := by
  have same := reached.inStep.customerId?_eq
  refine .grouped (.current ?_)
  dsimp only
  cases kept : customerId? i with
  | none => exact rest none made s reached
  | some id =>
    have stored := same.symm.trans kept
    refine .grouped (reached.inquires configured stored ⟨rfl, Or.inr rfl⟩ fun _ _ => ?_)
    exact rest _ _ _

end

/-! ### Calls -/

/-- A call on a billable instance. -/
inductive Call where
  | stripeId
  | hasStripeId
  | createCustomer (params : CustomerParams)
  | createOrGetCustomer (params : CustomerParams)
  | retrieveCustomer
  | updateCustomer (params : CustomerParams)
  | deleteCustomer
  | syncCustomer (params : CustomerParams)
  | addPaymentMethod (method : String)
  | updatePaymentMethod (method : String) (params : Value)
  | deletePaymentMethod (method : String)
  | retrievePaymentMethod (method : String)
  | paymentMethods (kind : Option String)
  | defaultPaymentMethod
  | setDefaultPaymentMethod (method : String)
  | subscribe (kind priceKey : String)
  | subscribeByInvoice (kind priceKey : String)
  | cancelSubscription (kind : String)
  | isSubscribed (kind : String)
  | isIncomplete (kind : String)
  | paymentIntent (amount : Int) (currency : Option String)
  | createSetupIntent (metadata : Value)
  | checkout (items : List LineItem) (options : CheckoutOptions)

namespace Call

/-- What the call does; its answer does not matter here. -/
def work : Call → InstanceTask Unit
  | stripeId => do let _ ← customerId? <$> Instance.current
  | hasStripeId => do let _ ← (fun i => (customerId? i).isSome) <$> Instance.current
  | createCustomer params => do let _ ← Billing.createCustomer params
  | createOrGetCustomer params => do let _ ← Billing.createOrGetCustomer params
  | retrieveCustomer => do let _ ← Billing.retrieveCustomer
  | updateCustomer params => do let _ ← Billing.updateCustomer params
  | deleteCustomer => Billing.deleteCustomer
  | syncCustomer params => do let _ ← Billing.syncCustomer params
  | addPaymentMethod method => do let _ ← Billing.addPaymentMethod method
  | updatePaymentMethod method params => do let _ ← Billing.updatePaymentMethod method params
  | deletePaymentMethod method => do let _ ← Billing.deletePaymentMethod method
  | retrievePaymentMethod method => do let _ ← Billing.retrievePaymentMethod method
  | paymentMethods kind => do let _ ← Billing.paymentMethods kind
  | defaultPaymentMethod => do let _ ← Billing.defaultPaymentMethod
  | setDefaultPaymentMethod method => do let _ ← Billing.setDefaultPaymentMethod method
  | subscribe kind priceKey => do let _ ← Billing.subscribe kind priceKey
  | subscribeByInvoice kind priceKey => do let _ ← Billing.subscribeByInvoice kind priceKey
  | cancelSubscription kind => do let _ ← Billing.cancelSubscription kind
  | isSubscribed kind => do let _ ← Billing.isSubscribed kind
  | isIncomplete kind => do let _ ← Billing.isIncomplete kind
  | paymentIntent amount currency => do let _ ← Billing.paymentIntent amount currency
  | createSetupIntent metadata => do let _ ← Billing.createSetupIntent metadata
  | checkout items options => do let _ ← Billing.checkout items options

/-- Calls are for instances of billable entities. -/
def run (call : Call) : InstanceTask Unit := do
  let i ← Instance.current
  let _ ← Work.ofExcept (allowed i)
  call.work

variable {i : Instance} {s : Session}
  (reached : Reached m key n db provider start made (i, s)) (configured : db.payments = some provider)
  (chargeable : Chargeable m) (faithful : provider.Faithful)

include reached configured chargeable faithful

/-- Every call ends in order. -/
theorem concludes (call : Call) : Concludes m key n db provider start (i, s) call.work := by
  cases call with
  | stripeId | hasStripeId => exact reached.answers ()
  | createCustomer params =>
    exact reached.creates configured chargeable faithful fun _ _ _ _ _ reached => reached.answers ()
  | createOrGetCustomer params =>
    exact reached.creates_or_retrieves configured chargeable faithful
      fun _ _ _ _ _ reached => reached.answers ()
  | retrieveCustomer =>
    exact reached.retrieves configured faithful fun _ _ _ _ reached => reached.answers ()
  | updateCustomer params =>
    exact .grouped (reached.serves configured fun _ => ⟨rfl, Or.inr rfl⟩)
  | deleteCustomer => exact reached.deletes configured chargeable
  | syncCustomer params =>
    refine .grouped (.choice ?_ fun _ => ?_)
    · exact .grouped (reached.serves configured fun _ => ⟨rfl, Or.inr rfl⟩)
    · exact reached.creates configured chargeable faithful
        fun _ _ _ _ _ reached => reached.answers ()
  | addPaymentMethod method | paymentMethods kind | setDefaultPaymentMethod method
  | subscribe kind priceKey | subscribeByInvoice kind priceKey | createSetupIntent metadata =>
    exact .grouped (reached.serves configured fun _ => ⟨rfl, Or.inr rfl⟩)
  | updatePaymentMethod method params | deletePaymentMethod method
  | retrievePaymentMethod method =>
    exact .grouped (reached.serves configured fun _ => ⟨rfl, Or.inl rfl⟩)
  | defaultPaymentMethod =>
    refine .grouped (reached.retrieves configured faithful fun customer _ _ _ reached => ?_)
    cases customer.defaultPaymentMethod with
    | none => exact reached.answers ()
    | some method => exact .grouped (reached.serves configured fun _ => ⟨rfl, Or.inl rfl⟩)
  | cancelSubscription kind =>
    refine .grouped (reached.requires fun id stored => .grouped ?_)
    refine reached.finds configured fun found made s' reached' => ?_
    have still : stored? m n db s' = some id := by
      rw [← reached'.inStep.customerId?_eq, ← stored]
      exact reached.inStep.customerId?_eq
    cases found with
    | none => exact reached'.fails _
    | some sub =>
      exact reached'.inquires configured still ⟨rfl, Or.inl rfl⟩ fun _ _ reached => reached.answers ()
  | isSubscribed kind | isIncomplete kind =>
    exact .grouped (reached.finds configured fun _ _ _ reached => reached.answers ())
  | paymentIntent amount currency =>
    refine .grouped (reached.requires fun id stored => .choice (reached.fails _) fun _ => ?_)
    exact reached.inquires configured stored ⟨rfl, Or.inr rfl⟩ fun _ _ reached => reached.answers ()
  | checkout items options =>
    refine .choice (reached.fails _) fun _ => .grouped ?_
    refine reached.creates_or_retrieves configured chargeable faithful
      fun customer _ _ _ stored reached => ?_
    exact reached.inquires configured stored ⟨rfl, Or.inr rfl⟩ fun _ _ reached => reached.answers ()

omit reached

/-- Every call on an instance that is in step ends in order. -/
theorem ended {state : Instance × Session} (inStep : InStep m key n db state) (call : Call) :
    ∃ made, Ended m key n db provider state made (call.run db state) := by
  obtain ⟨i, s⟩ := state
  have permitted : allowed i = .ok () := by
    unfold allowed
    rw [show i.model = m from inStep.model, chargeable.billable]
    rfl
  unfold run
  rw [Work.run_bind, run_current]
  dsimp only
  rw [permitted]
  exact call.concludes (reached_start inStep) configured chargeable faithful

end Call

/-- The state after calls, one after the other. -/
def inTurn (calls : List Call) (db : Database) (state : Instance × Session) : Instance × Session :=
  calls.foldl (fun state call => (call.run db state).2) state

/-- Calls in turn lead on from an instance that is in step. -/
theorem leads_inTurn (configured : db.payments = some provider) (chargeable : Chargeable m)
    (faithful : provider.Faithful) (inStep : InStep m key n db state) (calls : List Call) :
    ∃ made, Leads m key n db provider state made (inTurn calls db state) := by
  induction calls generalizing state with
  | nil => exact ⟨[], .refl inStep⟩
  | cons call rest ih =>
    obtain ⟨made, ended⟩ := call.ended configured chargeable faithful inStep
    obtain ⟨more, leads⟩ := ih ended.inStep
    exact ⟨made ++ more, ended.toLeads.trans leads⟩

/-- **Billing keeps step with storage.** An instance of a compiled billable entity, whose primary
key is written without a dot, is in step with its row, and the provider is faithful, but may refuse
any request. After any calls the instance is in step with the row, and all requests were in place: a
customer was created only while none was kept, and every other request about a customer was about the
one that was kept. Each further call ends in an error if one of its requests is refused, and if it
ends in an error, the instance and the storage are as before, unless it had created the customer. As
this holds of a provider that refuses any given request, and so ends the call there, what is kept
when a request is made is what is stored at that time. -/
theorem keepsStep {schema : Schema} {resolver : RelationResolver}
    (compiled : schema.compile resolver = .ok m) (billable : m.traits.billable = true)
    (plain : '.' ∉ m.primaryKey.toList) (configured : db.payments = some provider)
    (faithful : provider.Faithful) (inStep : InStep m key n db state) (calls : List Call) :
    (∃ made, Leads m key n db provider state made (inTurn calls db state)) ∧
      ∀ call : Call, ∃ made, Ended m key n db provider (inTurn calls db state) made
        (call.run db (inTurn calls db state)) := by
  have chargeable := chargeable_of_compile compiled billable plain
  obtain ⟨made, leads⟩ := leads_inTurn configured chargeable faithful inStep calls
  exact ⟨⟨made, leads⟩, fun call => call.ended configured chargeable faithful leads.inStep⟩

/-! ### The sandbox -/

end Billing

/-- What is answered is an item that satisfies the test, as it was changed. -/
theorem Sandbox.changeFirst_eq_some {α : Type} {test : α → Bool} {change : α → α} {items : List α}
    {b : α} {items' : List α} (changed : changeFirst test change items = some (b, items')) :
    ∃ a ∈ items, test a = true ∧ b = change a := by
  induction items generalizing items' with
  | nil => cases changed
  | cons a rest ih =>
    unfold changeFirst at changed
    split at changed
    · next own =>
      cases changed
      exact ⟨a, List.mem_cons_self, own, rfl⟩
    · obtain ⟨⟨b', items⟩, found, same⟩ := Option.map_eq_some_iff.1 changed
      cases same
      obtain ⟨a', mem, own, rfl⟩ := ih found
      exact ⟨a', List.mem_cons_of_mem _ mem, own, rfl⟩

/-- The sandbox answers faithfully. -/
theorem PaymentsProvider.faithful_sandbox : sandbox.Faithful where
  identified before params customer created := by
    change Except.map Prod.fst (Sandbox.apply _ (.createCustomer params)) = .ok customer at created
    unfold Sandbox.apply at created
    dsimp only at created
    split at created
    · cases created
    · cases created
      simp
  retrieved before id customer answered := by
    change Except.map Prod.fst ((Sandbox.after before).changeCustomer id fun c => c) =
      .ok customer at answered
    unfold Sandbox.changeCustomer at answered
    split at answered
    · next found =>
      cases answered
      obtain ⟨own, -, named, rfl⟩ := Sandbox.changeFirst_eq_some found
      exact beq_iff_eq.1 named
    · cases answered

namespace Billing

/-- Users who can be billed. -/
def users : Schema :=
  { name := "User", attributes := [("email", { fillable := true })], traits := { billable := true } }

/-- The entity of the users. -/
def user : Model :=
  match users.compile ⟨[], 10⟩ with
  | .ok m => m
  | .error _ => .bare "User" "users" [] {}

/-- A user who is no customer yet. -/
def ada : Row :=
  .ofFields [("email", .text "ada@example.com"), ("id", .int 1), ("stripe_id", .null)]

/-- The session that runs on a table with two users, one of them a customer. -/
def userSession : Session :=
  { engine := { shared := { tables := [("users",
      [.ofFields [("id", .int 2), ("stripe_id", .text "cus_9")], ada])] } }
    clock := ⟨0⟩ }

/-- A checkout that creates the customer, a second creation, a subscription that is not there to be
canceled, a deletion, and a creation that the provider declines. -/
def billed : List Call :=
  [.checkout [⟨"tea", 1⟩] {}, .createCustomer {}, .cancelSubscription "pro", .deleteCustomer,
    .syncCustomer { email := some Sandbox.declinedEmail }]

theorem keepsStep_ada :
    users.compile ⟨[], 10⟩ = .ok user ∧ PaymentsProvider.sandbox.Faithful ∧
      InStep user 1 1 sandboxed (.ofRow user ada, userSession) ∧
      (∃ made, Leads user 1 1 sandboxed .sandbox (.ofRow user ada, userSession) made
        (inTurn billed sandboxed (.ofRow user ada, userSession))) ∧
      ∃ made, Ended user 1 1 sandboxed .sandbox
        (inTurn billed sandboxed (.ofRow user ada, userSession)) made
        ((Call.createCustomer {}).run sandboxed
          (inTurn billed sandboxed (.ofRow user ada, userSession))) := by
  have compiled : users.compile ⟨[], 10⟩ = .ok user := by rfl
  have inStep : InStep user 1 1 sandboxed (.ofRow user ada, userSession) := by
    refine .ofRow rfl (by decide) fun n row other there => ?_
    match n with
    | 0 =>
      cases there
      decide +kernel
    | 1 => exact absurd rfl other
    | n + 2 => cases there
  obtain ⟨leads, ended⟩ := keepsStep compiled rfl (by decide) rfl
    PaymentsProvider.faithful_sandbox inStep billed
  exact ⟨compiled, PaymentsProvider.faithful_sandbox, inStep, leads, ended _⟩

/-- Apples that can be billed, with a primary key that is named like the qualified name of another
column. -/
def apples : Schema :=
  { name := "Apple", table := some "apples", primaryKey := some "apples.id"
    attributes := [("id", { type := .integer, fillable := true })]
    traits := { timestamps := false, billable := true } }

/-- The entity of the apples. -/
def apple : Model :=
  match apples.compile ⟨[], 10⟩ with
  | .ok m => m
  | .error _ => .bare "Apple" "apples" [] {}

/-- The first apple. -/
def boskoop : Row :=
  .ofFields [("apples.id", .int 1), ("id", .int 7)]

/-- The session that runs on a table with two apples. -/
def appleSession : Session :=
  { engine := { shared := { tables := [("apples",
      [boskoop, .ofFields [("apples.id", .int 2), ("id", .int 1)]])] } }
    clock := ⟨0⟩ }

/-- The customer that is created for the first apple is stored in the second one, whose column `id`
queries take for the key of the first one. -/
theorem not_keepsStep_apples :
    apples.compile ⟨[], 10⟩ = .ok apple ∧ PaymentsProvider.sandbox.Faithful ∧
      InStep apple 1 0 sandboxed (.ofRow apple boskoop, appleSession) ∧
      ¬∃ made, Leads apple 1 0 sandboxed .sandbox (.ofRow apple boskoop, appleSession) made
        (inTurn [.createCustomer {}] sandboxed (.ofRow apple boskoop, appleSession)) := by
  refine ⟨by rfl, PaymentsProvider.faithful_sandbox, ?_, ?_⟩
  · refine .ofRow rfl (by decide) fun n row other there => ?_
    match n with
    | 0 => exact absurd rfl other
    | 1 =>
      cases there
      decide +kernel
    | n + 2 => cases there
  · rintro ⟨made, leads⟩
    exact absurd leads.inStep.customerId?_eq (by decide +kernel)

end Billing

end EntityStore
