import Innovents.Payments.Statements

namespace Innovents.Payments

open Innovents.Lib JsNumber

/-- `mode: 'payment' | 'subscription'` -/
inductive CheckoutMode
  | payment | subscription
  deriving DecidableEq, Repr

/-- What one unit of is bought: something at a price that Stripe knows, or a product
described with its price. -/
inductive CheckoutLineItem
  | price (stripePriceId : String)
  | priceData (currency : String) (name description : String) (unitAmount : ℤ)

structure CreateCheckoutSessionParams where
  userId : String
  stripeCustomerId : Option String
  mode : CheckoutMode
  successUrl : String
  cancelUrl : String
  lineItem : CheckoutLineItem
  metadata : List (String × String)

structure CheckoutSessionResult where
  sessionId : String
  checkoutUrl : String
  paymentIntentId : Option String
  subscriptionId : Option String

structure RetrievedSession where
  id : String
  paymentStatus : String
  status : String
  paymentIntentId : Option String

structure PaymentWebhookEvent where
  id : String
  type : String
  data : JsValue

def PaymentWebhookEvent.toJson (event : PaymentWebhookEvent) : JsValue :=
  .obj [("id", .str event.id), ("type", .str event.type), ("data", event.data)]

/-- How the payment provider answers the calls of one request. -/
structure PaymentProvider where
  createOrGetCustomer : String → String → List (String × String) → Except Err String
  createCheckoutSession : CreateCheckoutSessionParams → Except Err CheckoutSessionResult
  retrieveCheckoutSession : String → Except Err (Option RetrievedSession)
  refundPayment : String → ℤ → Option String → Except Err Unit

/-- What one call takes from its surroundings: the clock, the provider and the
keys the database generates for the rows the call creates. -/
structure Env where
  now : Time
  provider : PaymentProvider
  eventRowId : String
  paymentId : String
  subscriptionId : String
  sponsorshipId : String
  communityId : String
  memberId : String
  outboxId : String
  outboxId₂ : String
  auditId : String

/-- A provider that answers no call. -/
def PaymentProvider.unreachable : PaymentProvider where
  createOrGetCustomer _ _ _ := .error (.provider "connection refused")
  createCheckoutSession _ := .error (.provider "connection refused")
  retrieveCheckoutSession _ := .error (.provider "connection refused")
  refundPayment _ _ _ := .error (.provider "connection refused")

/-- A call that needs no provider; `k` keys its rows, `k₂` its second outbox row. -/
def Env.offline (now : Time) (k k₂ : String) : Env :=
  ⟨now, .unreachable, k, k, k, k, k, k, k, k₂, k⟩

/-- A provider that does what it is asked; its sessions are paid and carry `sessionId`. -/
def PaymentProvider.willing (sessionId : String) : PaymentProvider where
  createOrGetCustomer _ _ _ := .ok "cus_1"
  createCheckoutSession _ := .ok ⟨sessionId, "https://checkout.stripe.com/pay", none, none⟩
  retrieveCheckoutSession id := .ok (some ⟨id, "paid", "complete", some "pi_1"⟩)
  refundPayment _ _ _ := .ok ()

/-- A call at `now` whose rows get the key `k`, and `k₂` for the second outbox row. -/
def Env.online (now : Time) (sessionId k k₂ : String) : Env :=
  ⟨now, .willing sessionId, k, k, k, k, k, k, k, k₂, k⟩

/-- An event as the Stripe library hands it out: `{ id, type, data: { object } }`. -/
structure StripeEvent where
  id : String
  type : String
  object : JsValue

/-- The configured provider: whether the Stripe client was built, the webhook
secret, and the parts of the Stripe library and of the runtime it calls. -/
structure StripePaymentProvider where
  stripe : Bool
  webhookSecret : Option String
  constructEvent : String → String → String → Except String StripeEvent
  jsonParse : String → Option JsValue

namespace StripePaymentProvider

variable (p : StripePaymentProvider)

/-- The secret that live verification uses, if the provider runs live. -/
def liveSecret : Option String :=
  match p.stripe, p.webhookSecret with
  | true, some s => if s ≠ "" ∧ s ≠ "whsec_placeholder_for_development" then some s else none
  | _, _ => none

/-- Live, the Stripe library checks the signature and parses the event. In test
mode an id or a type that is no text is refused here already, and not by the
first statement that uses it. -/
def verifyWebhookSignature (now : Time) (payload signature : String) :
    Except Err PaymentWebhookEvent :=
  match p.liveSecret with
  | some secret =>
    match p.constructEvent payload signature secret with
    | .ok event => .ok ⟨event.id, event.type, event.object⟩
    | .error _ => .error (.badRequest [.text "Invalid webhook signature"])
  | none =>
    if signature.toList.all Char.isWhitespace then
      .error (.badRequest [.text "Missing stripe-signature header"])
    else if signature = "invalid_signature" ∨ "fail".toList <:+: signature.toList then
      .error (.badRequest [.text "Invalid webhook signature"])
    else
      match p.jsonParse payload with
      | none => .error (.badRequest [.text "Malformed webhook payload"])
      | some parsed =>
        if parsed.isNullish then .error (.badRequest [.text "Malformed webhook payload"])
        else do
          let id ← textArg ((parsed.get "id").or (.str s!"evt_mock_{now}"))
          let type ← textArg ((parsed.get "type").or (.str "unknown"))
          return ⟨id, type,
            ((parsed.get "data").get "object").or ((parsed.get "data").or (.obj []))⟩

end StripePaymentProvider

end Innovents.Payments
