import EntityStore.Proofs.Billing
import EntityStore.Proofs.Terminals

/-!
# Whose subscription counts

A customer who cancels and subscribes again has several subscriptions of one kind. The provider
lists all of them, and the operations answer by the first one of the kind
(`Billing.run_isSubscribed`, `Billing.run_cancelSubscription`), whatever the others are. Main result:
`Billing.considersAll_iff`; that is the answer of all exactly when the first one of the kind serves
whenever some of them does.
-/

namespace EntityStore

/-- The subscription is of the kind and gives its subscriber what it is for: it is active or on
trial. -/
def Subscription.Serves (kind : String) (sub : Subscription) : Prop :=
  sub.kind = kind ∧ (sub.status = .active ∨ sub.status = .trialing)

instance (kind : String) (sub : Subscription) : Decidable (sub.Serves kind) :=
  inferInstanceAs (Decidable (_ ∧ _))

theorem SubscriptionStatus.isValid_iff (status : SubscriptionStatus) :
    status.isValid = true ↔ status = .active ∨ status = .trialing := by
  simp [isValid]

namespace Billing

variable {db : Database} {provider : PaymentsProvider} {i : Instance} {s : Session}
  {customer kind : String} {listed : List Subscription}

/-- The first of the listed subscriptions that is of the kind. -/
def firstOf? (kind : String) (listed : List Subscription) : Option Subscription :=
  listed.find? (·.kind == kind)

theorem kind_of_firstOf? {first : Subscription} (found : firstOf? kind listed = some first) :
    first ∈ listed ∧ first.kind = kind :=
  ⟨List.mem_of_find?_eq_some found, by simpa using List.find?_some found⟩

/-- Where some subscription of the kind is listed, there is a first one. -/
theorem exists_firstOf? {sub : Subscription} (mem : sub ∈ listed) (own : sub.kind = kind) :
    ∃ first, firstOf? kind listed = some first := by
  refine Option.isSome_iff_exists.1 (List.find?_isSome.2 ⟨sub, mem, ?_⟩)
  rw [own, beq_self_eq_true]

/-- The provider of the database lists these subscriptions for the customer that the instance is. -/
structure Lists (db : Database) (i : Instance) (s : Session) (customer : String)
    (listed : List Subscription) : Prop where
  kept : customerId? i = some customer
  answered : ∃ provider, db.payments = some provider ∧
    provider.answer s.paymentsRequests (.listSubscriptions customer) = .ok listed

namespace Lists

theorem run_subscription? (lists : Lists db i s customer listed) (kind : String) :
    subscription? kind db (i, s) =
      (.ok (firstOf? kind listed), (i, s.asked [.listSubscriptions customer])) := by
  obtain ⟨provider, configured, answered⟩ := lists.answered
  unfold subscription?
  rw [Work.run_bind, run_current]
  dsimp only
  rw [lists.kept]
  exact run_request_bind configured answered _

/-- Whether an instance is subscribed is told by the first subscription of the kind. -/
theorem run_isSubscribed (lists : Lists db i s customer listed) (kind : String) :
    isSubscribed kind db (i, s) =
      (.ok (((firstOf? kind listed).map (·.status.isValid)).getD false),
        (i, s.asked [.listSubscriptions customer])) := by
  unfold isSubscribed
  rw [Work.run_bind, lists.run_subscription?]
  rfl

/-- What the provider is asked to cancel is the first subscription of the kind. -/
theorem run_cancelSubscription (lists : Lists db i s customer listed) {first : Subscription}
    (found : firstOf? kind listed = some first) :
    (cancelSubscription kind db (i, s)).2 =
      (i, s.asked [.listSubscriptions customer, .cancelSubscription first.id]) := by
  obtain ⟨provider, configured, -⟩ := lists.answered
  unfold cancelSubscription
  rw [Work.run_bind, run_requireCustomer lists.kept]
  dsimp only
  rw [Work.run_bind, lists.run_subscription?, found]
  dsimp only
  rw [run_request configured, Session.asked_asked]
  rfl

/-- An instance is told to be subscribed exactly when the first subscription of the kind serves. -/
theorem subscribed_iff (lists : Lists db i s customer listed) (kind : String) :
    ∃ answer, (isSubscribed kind db (i, s)).1 = .ok answer ∧
      (answer = true ↔ ∃ first, firstOf? kind listed = some first ∧ first.Serves kind) := by
  refine ⟨_, congrArg Prod.fst (lists.run_isSubscribed kind), ?_⟩
  cases found : firstOf? kind listed with
  | none => simp
  | some first =>
    have own := (kind_of_firstOf? found).2
    simp [Subscription.Serves, own, SubscriptionStatus.isValid_iff]

end Lists

/-- The answers take all listed subscriptions into account. -/
structure ConsidersAll (db : Database) (i : Instance) (s : Session) (customer kind : String)
    (listed : List Subscription) : Prop where
  /-- The instance is told to be subscribed exactly when one of them serves. -/
  subscribed : ∃ answer, (isSubscribed kind db (i, s)).1 = .ok answer ∧
    (answer = true ↔ ∃ sub ∈ listed, sub.Serves kind)
  /-- When one of them serves, the provider is asked to cancel such a one. -/
  canceled : (∃ sub ∈ listed, sub.Serves kind) → ∃ sub ∈ listed, sub.Serves kind ∧
    (cancelSubscription kind db (i, s)).2.2.paymentsRequests =
      s.paymentsRequests ++ [.listSubscriptions customer, .cancelSubscription sub.id]

/-- If some subscription of the kind serves, the first one does. -/
def FirstServes (kind : String) (listed : List Subscription) : Prop :=
  (∃ sub ∈ listed, sub.Serves kind) → ∃ first, firstOf? kind listed = some first ∧ first.Serves kind

/-- A subscription that is the only one of its kind is the first. -/
theorem firstServes_of_single (single : (listed.filter (·.kind == kind)).length ≤ 1) :
    FirstServes kind listed := by
  rintro ⟨sub, mem, serves⟩
  obtain ⟨first, found⟩ := exists_firstOf? mem serves.1
  have subOwn : sub ∈ listed.filter (·.kind == kind) :=
    List.mem_filter.2 ⟨mem, beq_iff_eq.2 serves.1⟩
  have firstOwn : first ∈ listed.filter (·.kind == kind) :=
    List.mem_filter.2 ⟨(kind_of_firstOf? found).1, beq_iff_eq.2 (kind_of_firstOf? found).2⟩
  obtain ⟨only, all⟩ := List.length_eq_one_iff.1
    (Nat.le_antisymm single (List.length_pos_of_mem subOwn))
  rw [all, List.mem_singleton] at subOwn firstOwn
  refine ⟨first, found, ?_⟩
  rw [firstOwn, ← subOwn]
  exact serves

/-- **Whose subscription counts.** Whatever subscriptions the provider lists for a customer, the
answers take all of them into account exactly when the first one of the kind serves whenever some of
them does. So they do when the customer has at most one subscription of the kind. -/
theorem considersAll_iff (lists : Lists db i s customer listed) (kind : String) :
    (ConsidersAll db i s customer kind listed ↔ FirstServes kind listed) ∧
      ((listed.filter (·.kind == kind)).length ≤ 1 →
        ConsidersAll db i s customer kind listed) := by
  obtain ⟨answer, told, byFirst⟩ := lists.subscribed_iff kind
  have exactly : ConsidersAll db i s customer kind listed ↔ FirstServes kind listed := by
    constructor
    · intro considers serves
      obtain ⟨answer', told', byAll⟩ := considers.subscribed
      cases told.symm.trans told'
      exact byFirst.1 (byAll.2 serves)
    · intro leads
      refine ⟨⟨answer, told, byFirst.trans ⟨?_, leads⟩⟩, fun serves => ?_⟩
      · rintro ⟨first, found, serves⟩
        exact ⟨first, (kind_of_firstOf? found).1, serves⟩
      · obtain ⟨first, found, serves⟩ := leads serves
        refine ⟨first, (kind_of_firstOf? found).1, serves, ?_⟩
        rw [lists.run_cancelSubscription found, Session.paymentsRequests_asked]
  exact ⟨exactly, fun single => exactly.2 (firstServes_of_single single)⟩

/-! ### Subscribing again -/

/-- A user who is a customer of the sandbox. -/
def subscriber : Instance :=
  .ofRow (.bare "User" "users" [] { billable := true })
    (.ofFields [("id", .int 1), ("stripe_id", .text "cus_1")])

/-- The session in which these requests were made of the sandbox. -/
def afterRequests (made : List PaymentsRequest) : Session :=
  ({ clock := ⟨0⟩ } : Session).asked made

/-- A subscription on trial, one of another kind, and one of the first kind that was canceled. -/
def onTrial : List PaymentsRequest :=
  [.createCustomer {}, .createSubscription "cus_1" { kind := "pro", priceKey := "pro:trialing" },
   .createSubscription "cus_1" { kind := "team", priceKey := "team_monthly" },
   .createSubscription "cus_1" { kind := "pro", priceKey := "pro_monthly" },
   .cancelSubscription "sub_3"]

theorem considersAll_onTrial : ∃ listed,
    Lists sandboxed subscriber (afterRequests onTrial) "cus_1" listed ∧ listed.length = 3 ∧
      ConsidersAll sandboxed subscriber (afterRequests onTrial) "cus_1" "pro" listed := by
  have lists : Lists sandboxed subscriber (afterRequests onTrial) "cus_1"
      [⟨"sub_1", "pro", "pro:trialing", .trialing, none⟩,
       ⟨"sub_2", "team", "team_monthly", .active, none⟩,
       ⟨"sub_3", "pro", "pro_monthly", .canceled, none⟩] :=
    ⟨by decide +kernel, _, rfl, by rfl⟩
  refine ⟨_, lists, rfl, (considersAll_iff lists "pro").1.2 fun _ => ?_⟩
  exact ⟨_, rfl, by decide⟩

/-- A subscription that was canceled, and a second one of its kind. -/
def again : List PaymentsRequest :=
  [.createCustomer {}, .createSubscription "cus_1" { kind := "pro", priceKey := "pro_monthly" },
   .cancelSubscription "sub_1",
   .createSubscription "cus_1" { kind := "pro", priceKey := "pro_monthly" }]

/-- Who subscribes again is told not to be subscribed. -/
theorem not_considersAll_again : ∃ listed,
    Lists sandboxed subscriber (afterRequests again) "cus_1" listed ∧
      ¬ConsidersAll sandboxed subscriber (afterRequests again) "cus_1" "pro" listed := by
  have lists : Lists sandboxed subscriber (afterRequests again) "cus_1"
      [⟨"sub_1", "pro", "pro_monthly", .canceled, none⟩,
       ⟨"sub_2", "pro", "pro_monthly", .active, none⟩] :=
    ⟨by decide +kernel, _, rfl, by rfl⟩
  refine ⟨_, lists, fun considers => ?_⟩
  obtain ⟨answer, told, byAll⟩ := considers.subscribed
  rw [lists.run_isSubscribed] at told
  cases told
  have subscribed := byAll.2 ⟨_, List.mem_cons_of_mem _ List.mem_cons_self, by decide⟩
  exact absurd subscribed (by decide)

end Billing

end EntityStore
