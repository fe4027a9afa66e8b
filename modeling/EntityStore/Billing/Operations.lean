import EntityStore.Instance.Write

/-!
# Billing of instances

What an instance of a billable entity can ask of the payments provider. The identifier of its
customer is kept in a column of its row; operations that change it write the row and bring the
instance up to date, also when a later step fails. That is why they are work on the instance and the
session together.
-/

namespace EntityStore

/-- Work that changes an instance and a session. -/
abbrev InstanceTask (α : Type) : Type := Work (Instance × Session) α

/-- A task that leaves the instance alone. -/
def InstanceTask.ofTask {α : Type} (task : Task α) : InstanceTask α :=
  fun db (i, s) =>
    let (answer, s) := task db s
    (answer, (i, s))

namespace Instance

/-- The instance as it stands. -/
def current : InstanceTask Instance :=
  fun _ (i, s) => (.ok i, (i, s))

/-- Replaces the instance. -/
def replace (j : Instance) : InstanceTask Unit :=
  fun _ (_, s) => (.ok (), (j, s))

/-- Writes one column without a check of the rules. -/
def storeColumn (column : String) (value : Value) : InstanceTask Unit := do
  let i ← current
  replace (← InstanceTask.ofTask (i.forceUpdate (Row.empty.insert column value)))

end Instance

/-- A text that is there and not empty. -/
def Instance.filledText? (i : Instance) (column : String) : Option String :=
  ((i.get? column).bind Value.asText?).filter fun s => !s.isEmpty

namespace Billing

/-- The column that keeps the identifier of the customer. -/
def customerColumn : String := "stripe_id"

/-- Only instances of billable entities can be billed. -/
def allowed (i : Instance) : Except Error Unit :=
  i.model.requireTrait i.model.traits.billable "billable"

/-- The identifier of the customer, if the instance is one. -/
def customerId? (i : Instance) : Option String :=
  i.filledText? customerColumn

/-- The primary key in messages; empty when there is none. -/
def shownId (i : Instance) : String :=
  (i.id?.map toString).getD ""

def requireCustomer : InstanceTask String := do
  let i ← Instance.current
  match customerId? i with
  | some id => return id
  | none => throw (.payments (.notACustomer i.model.name (shownId i)))

/-- Makes a request of the provider. -/
def request (r : PaymentsRequest) : InstanceTask r.Answer :=
  InstanceTask.ofTask (Task.requestPayments r)

/-- Makes a customer of an instance that is none, and keeps the identifier. -/
def createCustomer (params : CustomerParams) : InstanceTask Customer := do
  let i ← Instance.current
  match customerId? i with
  | some id => throw (.payments (.alreadyCustomer i.model.name (shownId i) id))
  | none =>
    let customer : Customer ← request (.createCustomer params)
    Instance.storeColumn customerColumn (.text customer.id)
    return customer

def retrieveCustomer : InstanceTask Customer := do
  request (.retrieveCustomer (← requireCustomer))

/-- The customer that the instance is, or becomes. -/
def createOrGetCustomer (params : CustomerParams) : InstanceTask Customer := do
  if (customerId? (← Instance.current)).isSome then retrieveCustomer else createCustomer params

def updateCustomer (params : CustomerParams) : InstanceTask Customer := do
  request (.updateCustomer (← requireCustomer) params)

/-- Deletes the customer and forgets the identifier. -/
def deleteCustomer : InstanceTask Unit := do
  let _ ← request (.deleteCustomer (← requireCustomer))
  Instance.storeColumn customerColumn .null

/-- Makes the customer when there is none, else updates it. -/
def syncCustomer (params : CustomerParams) : InstanceTask Customer := do
  if (customerId? (← Instance.current)).isSome then updateCustomer params
  else createCustomer params

def addPaymentMethod (method : String) : InstanceTask PaymentMethod := do
  request (.attachPaymentMethod (← requireCustomer) method)

def updatePaymentMethod (method : String) (params : Value) : InstanceTask PaymentMethod := do
  let _ ← requireCustomer
  request (.updatePaymentMethod method params)

def deletePaymentMethod (method : String) : InstanceTask PaymentMethod := do
  let _ ← requireCustomer
  request (.detachPaymentMethod method)

def retrievePaymentMethod (method : String) : InstanceTask (Option PaymentMethod) := do
  let _ ← requireCustomer
  request (.retrievePaymentMethod method)

def paymentMethods (kind : Option String) : InstanceTask (List PaymentMethod) := do
  request (.listPaymentMethods (← requireCustomer) kind)

/-- The method that the customer pays with unless told otherwise. -/
def defaultPaymentMethod : InstanceTask (Option PaymentMethod) := do
  let customer ← retrieveCustomer
  match customer.defaultPaymentMethod with
  | some method => retrievePaymentMethod method
  | none => return none

def setDefaultPaymentMethod (method : String) : InstanceTask Customer := do
  request (.setDefaultPaymentMethod (← requireCustomer) method)

/-- Subscribes the customer to a price. -/
def subscribe (kind priceKey : String) : InstanceTask Subscription := do
  request (.createSubscription (← requireCustomer) { kind, priceKey })

/-- Subscribes the customer to a price, paid by invoices that are due in 15 days. -/
def subscribeByInvoice (kind priceKey : String) : InstanceTask Subscription := do
  request (.createSubscription (← requireCustomer)
    { kind, priceKey, collectionMethod := some "send_invoice", daysUntilDue := some 15 })

/-- The first subscription of a kind; an instance that is no customer has none. -/
def subscription? (kind : String) : InstanceTask (Option Subscription) := do
  match customerId? (← Instance.current) with
  | none => return none
  | some id =>
    let subscriptions : List Subscription ← request (.listSubscriptions id)
    return subscriptions.find? (·.kind == kind)

/-- Cancels the first subscription of a kind. -/
def cancelSubscription (kind : String) : InstanceTask Subscription := do
  let _ ← requireCustomer
  match ← subscription? kind with
  | none => throw (.payments (.noSubscription kind))
  | some s => request (.cancelSubscription s.id)

/-- The first subscription of a kind is valid. -/
def isSubscribed (kind : String) : InstanceTask Bool := do
  return ((← subscription? kind).map (·.status.isValid)).getD false

/-- The first subscription of a kind waits for its first payment. -/
def isIncomplete (kind : String) : InstanceTask Bool := do
  return ((← subscription? kind).map fun s => s.status == .incomplete).getD false

/-- Charges a positive amount once; in dollars unless another currency is given. -/
def paymentIntent (amount : Int) (currency : Option String) : InstanceTask PaymentIntent := do
  let customer ← requireCustomer
  if amount ≤ 0 then throw (.payments (.invalidRequest "amount must be positive"))
  request (.createPaymentIntent customer amount (currency.getD "usd"))

def createSetupIntent (metadata : Value) : InstanceTask SetupIntent := do
  request (.createSetupIntent (← requireCustomer) metadata)

/-- Opens a checkout of at least one item, for the customer that the instance is or becomes. -/
def checkout (items : List LineItem) (options : CheckoutOptions) :
    InstanceTask CheckoutSession := do
  if items.isEmpty then
    throw (.payments (.invalidRequest "checkout needs at least one line item"))
  let customer ← createOrGetCustomer {}
  request (.createCheckoutSession
    { customer := customer.id
      mode := options.mode.getD "payment"
      items
      automaticTax := options.enableTax
      allowPromotionCodes := options.allowPromotions
      successUrl := options.successUrl
      cancelUrl := options.cancelUrl })

end Billing

end EntityStore
