import EntityStore.Error

/-!
# Payments

The records that a payments provider keeps, the requests that are made of it, and what a provider
is: a function from the requests made before and a new request to its answer. A provider may refuse
any request.
-/

namespace EntityStore

/-- What is told to the provider about a customer. -/
structure CustomerParams where
  email : Option String := none
  name : Option String := none
  phone : Option String := none
  metadata : Value := .null
deriving DecidableEq, Repr

structure Customer where
  id : String
  email : Option String := none
  name : Option String := none
  defaultPaymentMethod : Option String := none
deriving DecidableEq, Repr

structure PaymentMethod where
  id : String
  kind : String
  brand : Option String := none
  last4 : Option String := none
deriving DecidableEq, Repr

inductive SubscriptionStatus where
  | active
  | trialing
  | incomplete
  | incompleteExpired
  | pastDue
  | canceled
  | unpaid
deriving DecidableEq, Repr

structure PaymentIntent where
  id : String
  amount : Int
  currency : String
  status : String
  clientSecret : Option String := none
deriving DecidableEq, Repr

/-- A subscription; `kind` is the name that the application has for it. -/
structure Subscription where
  id : String
  kind : String
  priceKey : String
  status : SubscriptionStatus
  latestPaymentIntent : Option PaymentIntent := none
deriving DecidableEq, Repr

structure SubscriptionRequest where
  kind : String
  priceKey : String
  collectionMethod : Option String := none
  daysUntilDue : Option Nat := none
deriving DecidableEq, Repr

structure SetupIntent where
  id : String
  clientSecret : Option String := none
deriving DecidableEq, Repr

structure LineItem where
  priceId : String
  quantity : Nat := 1
deriving DecidableEq, Repr

structure CheckoutOptions where
  enableTax : Bool := false
  allowPromotions : Bool := false
  mode : Option String := none
  successUrl : Option String := none
  cancelUrl : Option String := none
deriving DecidableEq, Repr

structure CheckoutRequest where
  customer : String
  mode : String
  items : List LineItem
  automaticTax : Bool
  allowPromotionCodes : Bool
  successUrl : Option String
  cancelUrl : Option String
deriving DecidableEq, Repr

structure CheckoutSession where
  id : String
  url : Option String := none
deriving DecidableEq, Repr

/-- A request made of a payments provider. -/
inductive PaymentsRequest where
  | createCustomer (params : CustomerParams)
  | retrieveCustomer (customer : String)
  | updateCustomer (customer : String) (params : CustomerParams)
  | deleteCustomer (customer : String)
  | attachPaymentMethod (customer method : String)
  | updatePaymentMethod (method : String) (params : Value)
  | detachPaymentMethod (method : String)
  | retrievePaymentMethod (method : String)
  | listPaymentMethods (customer : String) (kind : Option String)
  | setDefaultPaymentMethod (customer method : String)
  | createSubscription (customer : String) (request : SubscriptionRequest)
  | cancelSubscription (subscription : String)
  | listSubscriptions (customer : String)
  | createPaymentIntent (customer : String) (amount : Int) (currency : String)
  | createSetupIntent (customer : String) (metadata : Value)
  | createCheckoutSession (request : CheckoutRequest)
deriving DecidableEq, Repr

/-- What a request is answered with. -/
def PaymentsRequest.Answer : PaymentsRequest → Type
  | .createCustomer _ | .retrieveCustomer _ | .updateCustomer .. | .setDefaultPaymentMethod .. =>
    Customer
  | .deleteCustomer _ => Unit
  | .attachPaymentMethod .. | .updatePaymentMethod .. | .detachPaymentMethod _ => PaymentMethod
  | .retrievePaymentMethod _ => Option PaymentMethod
  | .listPaymentMethods .. => List PaymentMethod
  | .createSubscription .. | .cancelSubscription _ => Subscription
  | .listSubscriptions _ => List Subscription
  | .createPaymentIntent .. => PaymentIntent
  | .createSetupIntent .. => SetupIntent
  | .createCheckoutSession _ => CheckoutSession

/-- A payments provider. `answer before request` may depend on all requests made before, the latest
last. -/
structure PaymentsProvider where
  answer : List PaymentsRequest → (request : PaymentsRequest) →
    Except PaymentsError request.Answer

namespace SubscriptionStatus

def names : List (String × SubscriptionStatus) :=
  [("active", .active), ("trialing", .trialing), ("incomplete", .incomplete),
    ("incomplete_expired", .incompleteExpired), ("past_due", .pastDue), ("canceled", .canceled),
    ("unpaid", .unpaid)]

def text : SubscriptionStatus → String
  | .active => "active"
  | .trialing => "trialing"
  | .incomplete => "incomplete"
  | .incompleteExpired => "incomplete_expired"
  | .pastDue => "past_due"
  | .canceled => "canceled"
  | .unpaid => "unpaid"

/-- The subscriber gets what the subscription is for. -/
def isValid (s : SubscriptionStatus) : Bool :=
  s = .active || s = .trialing

end SubscriptionStatus

namespace CustomerParams

def read : Reader CustomerParams :=
  Reader.readRecord "CustomerParams"
    [.optional "email" Reader.text fun p s => { p with email := s },
      .optional "name" Reader.text fun p s => { p with name := s },
      .optional "phone" Reader.text fun p s => { p with phone := s },
      .defaulted "metadata" Reader.value fun p v => { p with metadata := v }] {}

def toValue (p : CustomerParams) : Value :=
  .object [("email", .optionalText p.email), ("metadata", p.metadata),
    ("name", .optionalText p.name), ("phone", .optionalText p.phone)]

end CustomerParams

def Customer.toValue (c : Customer) : Value :=
  .object [("default_payment_method", .optionalText c.defaultPaymentMethod),
    ("email", .optionalText c.email), ("id", .text c.id), ("name", .optionalText c.name)]

def PaymentMethod.toValue (m : PaymentMethod) : Value :=
  .object [("brand", .optionalText m.brand), ("id", .text m.id), ("kind", .text m.kind),
    ("last4", .optionalText m.last4)]

def PaymentIntent.toValue (i : PaymentIntent) : Value :=
  .object [("amount", .int i.amount), ("client_secret", .optionalText i.clientSecret),
    ("currency", .text i.currency), ("id", .text i.id), ("status", .text i.status)]

def Subscription.toValue (s : Subscription) : Value :=
  .object [("id", .text s.id), ("kind", .text s.kind),
    ("latest_payment_intent", (s.latestPaymentIntent.map PaymentIntent.toValue).getD .null),
    ("price_lookup_key", .text s.priceKey), ("status", .text s.status.text)]

def SubscriptionRequest.toValue (r : SubscriptionRequest) : Value :=
  .object [("collection_method", .optionalText r.collectionMethod),
    ("days_until_due", .optionalNat r.daysUntilDue),
    ("kind", .text r.kind), ("price_lookup_key", .text r.priceKey)]

def SetupIntent.toValue (i : SetupIntent) : Value :=
  .object [("client_secret", .optionalText i.clientSecret), ("id", .text i.id)]

namespace LineItem

def read : Reader LineItem :=
  Reader.readRecord "CheckoutLineItem"
    [.required "price_id" Reader.text fun i s => { i with priceId := s },
      .defaulted "quantity" Reader.count32 fun i n => { i with quantity := n }] { priceId := "" }

def toValue (i : LineItem) : Value :=
  .object [("price_id", .text i.priceId), ("quantity", .int i.quantity)]

end LineItem

def CheckoutOptions.read : Reader CheckoutOptions :=
  Reader.readRecord "CheckoutOptions"
    [.defaulted "enable_tax" Reader.boolean fun o b => { o with enableTax := b },
      .defaulted "allow_promotions" Reader.boolean fun o b => { o with allowPromotions := b },
      .optional "mode" Reader.text fun o s => { o with mode := s },
      .optional "success_url" Reader.text fun o s => { o with successUrl := s },
      .optional "cancel_url" Reader.text fun o s => { o with cancelUrl := s }] {}

def CheckoutRequest.toValue (r : CheckoutRequest) : Value :=
  .object [("allow_promotion_codes", .bool r.allowPromotionCodes),
    ("automatic_tax", .bool r.automaticTax), ("cancel_url", .optionalText r.cancelUrl),
    ("customer", .text r.customer), ("line_items", .list (r.items.map LineItem.toValue)),
    ("mode", .text r.mode), ("success_url", .optionalText r.successUrl)]

def CheckoutSession.toValue (s : CheckoutSession) : Value :=
  .object [("id", .text s.id), ("url", .optionalText s.url)]

namespace PaymentsRequest

/-- The name of a request and its arguments in order, as a log shows them. -/
def record : PaymentsRequest → String × List Value
  | .createCustomer params => ("create_customer", [params.toValue])
  | .retrieveCustomer customer => ("retrieve_customer", [.text customer])
  | .updateCustomer customer params => ("update_customer", [.text customer, params.toValue])
  | .deleteCustomer customer => ("delete_customer", [.text customer])
  | .attachPaymentMethod customer method =>
    ("attach_payment_method", [.text customer, .text method])
  | .updatePaymentMethod method params => ("update_payment_method", [.text method, params])
  | .detachPaymentMethod method => ("detach_payment_method", [.text method])
  | .retrievePaymentMethod method => ("retrieve_payment_method", [.text method])
  | .listPaymentMethods customer kind =>
    ("list_payment_methods", [.text customer, .optionalText kind])
  | .setDefaultPaymentMethod customer method =>
    ("set_default_payment_method", [.text customer, .text method])
  | .createSubscription customer request =>
    ("create_subscription", [.text customer, request.toValue])
  | .cancelSubscription subscription => ("cancel_subscription", [.text subscription])
  | .listSubscriptions customer => ("list_subscriptions", [.text customer])
  | .createPaymentIntent customer amount currency =>
    ("create_payment_intent", [.text customer, .int amount, .text currency])
  | .createSetupIntent customer metadata => ("create_setup_intent", [.text customer, metadata])
  | .createCheckoutSession request => ("create_checkout_session", [request.toValue])

end PaymentsRequest

end EntityStore
