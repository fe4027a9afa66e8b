import EntityStore.Billing.Basic

/-!
# A payments provider for trials

`PaymentsProvider.sandbox` keeps customers, payment methods and subscriptions in memory and charges
nobody. What it keeps is computed from the requests made before: every request that it accepts
changes its books (`Sandbox.apply`).
-/

namespace EntityStore

/-- The books of the sandbox. Methods and subscriptions stand with the customer they belong to. -/
structure Sandbox where
  created : Nat := 0
  customers : List Customer := []
  methods : List (String × PaymentMethod) := []
  subscriptions : List (String × Subscription) := []
deriving Repr

namespace Sandbox

/-- The address whose customers the sandbox declines. -/
def declinedEmail : String := "declined@example.com"

/-- Changes the first item that satisfies a test; answers it as changed, and all items. -/
def changeFirst {α : Type} (test : α → Bool) (change : α → α) : List α → Option (α × List α)
  | [] => none
  | a :: rest =>
    if test a then some (change a, change a :: rest)
    else (changeFirst test change rest).map fun (b, items) => (b, a :: items)

/-- Removes the first item that satisfies a test; answers it, and the other items. -/
def removeFirst {α : Type} (test : α → Bool) : List α → Option (α × List α)
  | [] => none
  | a :: rest =>
    if test a then some (a, rest)
    else (removeFirst test rest).map fun (b, items) => (b, a :: items)

/-- The part of a text after its last colon; all of it when there is none. -/
def afterColon (key : String) : String :=
  String.ofList (key.toList.reverse.takeWhile (· != ':')).reverse

/-- The key of a price decides the status of a new subscription. -/
def statusFor (priceKey : String) : SubscriptionStatus :=
  match afterColon priceKey with
  | "trialing" => .trialing
  | "incomplete" => .incomplete
  | "expired" => .incompleteExpired
  | "past_due" => .pastDue
  | "unpaid" => .unpaid
  | _ => .active

def noCustomer : PaymentsError := .provider "no such customer"

def noMethod : PaymentsError := .provider "no such payment method"

def noSubscription : PaymentsError := .provider "no such subscription"

/-- Changes one customer. -/
def changeCustomer (books : Sandbox) (id : String) (change : Customer → Customer) :
    Except PaymentsError (Customer × Sandbox) :=
  match changeFirst (·.id == id) change books.customers with
  | some (customer, customers) => .ok (customer, { books with customers })
  | none => .error noCustomer

/-- The method that an identifier stands for when it is attached. -/
def newMethod (id : String) : PaymentMethod :=
  { id
    kind := if "sepa".toList.isPrefixOf id.toList then "sepa_debit" else "card"
    last4 := some "4242" }

/-- Answers a request and changes the books. -/
def apply (books : Sandbox) :
    (request : PaymentsRequest) → Except PaymentsError (request.Answer × Sandbox)
  | .createCustomer params =>
    if params.email = some declinedEmail then .error (.provider "declined")
    else
      let customer : Customer :=
        { id := "cus_" ++ toString (books.created + 1), email := params.email, name := params.name }
      .ok (customer,
        { books with created := books.created + 1, customers := books.customers ++ [customer] })
  | .retrieveCustomer id => books.changeCustomer id fun c => c
  | .updateCustomer id params =>
    books.changeCustomer id fun c =>
      { c with email := params.email <|> c.email, name := params.name <|> c.name }
  | .deleteCustomer id =>
    match removeFirst (fun c : Customer => c.id == id) books.customers with
    | some (_, customers) => .ok ((), { books with customers })
    | none => .error noCustomer
  | .attachPaymentMethod customer id =>
    if id.isEmpty then .error (.invalidRequest "empty payment method")
    else .ok (newMethod id, { books with methods := books.methods ++ [(customer, newMethod id)] })
  | .updatePaymentMethod id params =>
    let brand := (Document.field (.ofValue params) "brand").toValue.asText?
    match changeFirst (·.2.id == id) (fun m => (m.1, { m.2 with brand })) books.methods with
    | some (m, methods) => .ok (m.2, { books with methods })
    | none => .error noMethod
  | .detachPaymentMethod id =>
    match removeFirst (·.2.id == id) books.methods with
    | some (m, methods) => .ok (m.2, { books with methods })
    | none => .error noMethod
  | .retrievePaymentMethod id =>
    .ok ((books.methods.find? (·.2.id == id)).map (·.2), books)
  | .listPaymentMethods customer kind =>
    .ok ((books.methods.filter fun m =>
      m.1 == customer && (kind.isNone || kind == some m.2.kind)).map (·.2), books)
  | .setDefaultPaymentMethod id method =>
    books.changeCustomer id fun c => { c with defaultPaymentMethod := some method }
  | .createSubscription customer request =>
    let subscription : Subscription :=
      { id := "sub_" ++ toString (books.subscriptions.length + 1)
        kind := request.kind
        priceKey := request.priceKey
        status := statusFor request.priceKey }
    .ok (subscription,
      { books with subscriptions := books.subscriptions ++ [(customer, subscription)] })
  | .cancelSubscription id =>
    match changeFirst (·.2.id == id) (fun s => (s.1, { s.2 with status := .canceled }))
      books.subscriptions with
    | some (s, subscriptions) => .ok (s.2, { books with subscriptions })
    | none => .error noSubscription
  | .listSubscriptions customer =>
    .ok ((books.subscriptions.filter (·.1 == customer)).map (·.2), books)
  | .createPaymentIntent _ amount currency =>
    .ok (({ id := "pi_1", amount, currency, status := "requires_payment_method" } :
      PaymentIntent), books)
  | .createSetupIntent .. =>
    .ok (({ id := "seti_1", clientSecret := some "secret" } : SetupIntent), books)
  | .createCheckoutSession request =>
    .ok (({ id := "cs_1", url := request.successUrl } : CheckoutSession), books)

/-- The books after a list of requests; refused ones leave no trace. -/
def after (requests : List PaymentsRequest) : Sandbox :=
  requests.foldl (fun books request =>
    match books.apply request with
    | .ok (_, books) => books
    | .error _ => books) {}

end Sandbox

/-- The provider that answers from the books of the sandbox. -/
def PaymentsProvider.sandbox : PaymentsProvider :=
  ⟨fun before request => ((Sandbox.after before).apply request).map (·.1)⟩

end EntityStore
