import Innovents.Payments.AuditOutbox

namespace Innovents.Payments

open Innovents.Lib JsNumber

/-- What a handler still has to do once its reads are made: one write
transaction, and the audit entry it logs after the transaction. -/
abbrev Commit := Env → Db → Except Err (Db × Option CreateAuditLogParams)

def noCommit : Commit := fun _ db ↦ .ok (db, none)

def Payment.metadataField (p : Payment) (field : PaymentMetadata → String) : JsValue :=
  match p.metadata with
  | some m => .str (field m)
  | none => .undefined

def columnValue : Option String → JsValue
  | some s => .str s
  | none => .null

namespace StripeWebhookService

/-- The payment that the metadata of a session names. -/
def namedPayment (session : JsValue) (db : Db) : Except Err (Option Payment) :=
  let paymentId := ((session.get "metadata").or (.obj [])).get "paymentId"
  if paymentId.truthy then do
    let id ← textArg paymentId
    require (isUuid id) .validation
    return db.payments.get? id
  else .ok none

/-- The payment that was opened with a session. -/
def openedPayment (session : JsValue) (db : Db) : Except Err (Option Payment) :=
  if (session.get "id").truthy then do
    let sessionId ← textArg (session.get "id")
    return db.payments.find? fun p ↦ p.stripeCheckoutSessionId == some sessionId
  else .ok none

/-- The payment of a checkout session: the one its metadata names, or else the
one that was opened with this session. -/
def sessionPayment (session : JsValue) (db : Db) : Except Err (Option Payment) := do
  match ← namedPayment session db with
  | some payment => return some payment
  | none => openedPayment session db

/-- `plan?.memberCapacity || 500` and `plan?.durationDays || 30` -/
def planTerms : Option CommunitySponsorshipPlan → ℤ × ℤ
  | some plan => (if plan.memberCapacity = 0 then 500 else plan.memberCapacity,
      if plan.durationDays = 0 then 30 else plan.durationDays)
  | none => (500, 30)

def markPaid (env : Env) (session : JsValue) (p : Payment) : Payment :=
  { p with
    status := .succeeded
    paidAt := some env.now
    stripePaymentIntentId := (session.get "payment_intent").asStr? }

def markSponsored (memberCapacity : ℤ) (c : Community) : Community :=
  { c with
    isSponsored := true
    isPinned := true
    memberCapacity }

/-- The rows that a sponsorship names. -/
structure SponsorshipParties where
  communityId : String
  sponsorId : String
  userId : String
  planId : String
  checkoutSessionId : Option String

def sponsorshipRow (env : Env) (payment : Payment) (parties : SponsorshipParties)
    (memberCapacity : ℤ) (endsAt : Time) : CommunitySponsorship where
  id := env.sponsorshipId
  communityId := parties.communityId
  sponsorId := parties.sponsorId
  userId := parties.userId
  planId := parties.planId
  paymentId := some payment.id
  status := .active
  amount := payment.amount
  currency := payment.currency
  sponsoredCapacity := memberCapacity
  startsAt := some env.now
  endsAt := some endsAt
  stripeCheckoutSessionId := parties.checkoutSessionId

def sponsorshipParties (session : JsValue) (payment : Payment)
    (plan : Option CommunitySponsorshipPlan) : Except Err SponsorshipParties := do
  let metadata := (session.get "metadata").or (.obj [])
  let communityId ← textArg
    ((metadata.get "communityId").or (payment.metadataField PaymentMetadata.communityId))
  let sponsorId ← textArg
    ((metadata.get "sponsorProfileId").or (columnValue payment.sponsorProfileId))
  let userId ← textArg ((metadata.get "userId").or (.str payment.userId))
  let planId ← textArg (plan.elim ((metadata.get "planId").or (.str "")) fun p ↦ .str p.id)
  let checkoutSessionId ← optionalTextArg ((session.get "id").or .null)
  return { communityId, sponsorId, userId, planId, checkoutSessionId }

/-- Mark the payment of the session paid, give its community the sponsorship and
announce both. -/
def activateSponsorship (env : Env) (session : JsValue) (payment : Payment) (db : Db) :
    Except Err (Db × Option CreateAuditLogParams) := do
  let metadata := (session.get "metadata").or (.obj [])
  let communityId := metadata.get "communityId"
  let planKey ← textArg
    ((metadata.get "planId").or (payment.metadataField PaymentMetadata.planId))
  let plan := db.communitySponsorshipPlans.get? planKey
  let (memberCapacity, durationDays) := planTerms plan
  let db ← modify paymentTable payment.id (markPaid env session) db
  let endsAt ← date (env.now + durationDays * 24 * 60 * 60 * 1000)
  let parties ← sponsorshipParties session payment plan
  let db ← createCommunitySponsorship
    (sponsorshipRow env payment parties memberCapacity endsAt) db
  let communityKey ← textArg communityId
  let db ← modify communityTable communityKey (markSponsored memberCapacity) db
  let db ← enqueue env.outboxId env.now "COMMUNITY_SPONSORSHIP" env.sponsorshipId
    "COMMUNITY_SPONSORSHIP_PAID"
    [("userId", .str payment.userId), ("communityId", communityId),
      ("amount", .num payment.amount.toNumber), ("currency", .str payment.currency),
      ("sponsorshipId", .str env.sponsorshipId)] db
  let db ← enqueue env.outboxId₂ env.now "COMMUNITY_SPONSORSHIP" env.sponsorshipId
    "COMMUNITY_SPONSORSHIP_ACTIVATED"
    [("userId", .str payment.userId), ("communityId", communityId),
      ("memberCapacity", .num memberCapacity), ("endsAt", .date endsAt),
      ("sponsorshipId", .str env.sponsorshipId)] db
  return (db, some
    { actorUserId := metadata.get "userId"
      action := "COMMUNITY_SPONSORSHIP_ACTIVATED"
      resourceType := "COMMUNITY_SPONSORSHIP"
      resourceId := env.sponsorshipId
      metadata := [("communityId", communityId),
        ("sponsorProfileId", metadata.get "sponsorProfileId"),
        ("sessionId", session.get "id")] })

def activateCommunitySponsorshipFromSession (session : JsValue) : Commit := fun env db ↦ do
  match ← sessionPayment session db with
  | none => noCommit env db
  | some payment =>
    if payment.status = .succeeded then noCommit env db
    else activateSponsorship env session payment db

def planOfKey : String → Option SubscriptionPlan
  | "SPONSOR_MONTHLY" => some .sponsorMonthly
  | "SPONSOR_ANNUAL" => some .sponsorAnnual
  | "VENDOR_MONTHLY" => some .vendorMonthly
  | "VENDOR_ANNUAL" => some .vendorAnnual
  | _ => none

/-- `planKey.startsWith('SPONSOR_')`; the other plans start with `VENDOR_`. -/
def isSponsorPlan : SubscriptionPlan → Bool
  | .sponsorMonthly | .sponsorAnnual => true
  | .vendorMonthly | .vendorAnnual => false

def periodDays : SubscriptionBillingInterval → ℤ
  | .year => 365
  | .month => 30

/-- What a subscription session says about its subscriber. -/
structure Subscriber where
  userId : String
  profileId : Option String
  stripeSubscriptionId : String

def renew (env : Env) (currentPeriodEnd : Time) (s : Subscription) : Subscription :=
  { s with
    status := .active
    currentPeriodStart := some env.now
    currentPeriodEnd := some currentPeriodEnd
    cancelAtPeriodEnd := false }

def subscriptionRow (env : Env) (subscriber : Subscriber) (planConfig : SubscriptionPlanConfig)
    (stripeCustomerId : String) (currentPeriodEnd : Time) : Subscription where
  id := env.subscriptionId
  userId := subscriber.userId
  sponsorProfileId := if isSponsorPlan planConfig.plan then subscriber.profileId else none
  vendorProfileId := if isSponsorPlan planConfig.plan then none else subscriber.profileId
  planConfigId := planConfig.id
  plan := planConfig.plan
  status := .active
  amount := planConfig.price
  currency := planConfig.currency
  interval := planConfig.interval
  stripeCustomerId
  stripeSubscriptionId := subscriber.stripeSubscriptionId
  currentPeriodStart := some env.now
  currentPeriodEnd := some currentPeriodEnd
  cancelAtPeriodEnd := false
  canceledAt := none

/-- `tx.subscription.upsert`, with the id of the subscription it returns. -/
def upsertSubscription (env : Env) (session : JsValue) (subscriber : Subscriber)
    (planConfig : SubscriptionPlanConfig) (db : Db) : Except Err (String × Db) := do
  let currentPeriodEnd ← date (env.now + periodDays planConfig.interval * 86400000)
  let stripeCustomerId ← textArg ((session.get "customer").or (.str ""))
  match db.subscriptions.find? fun s ↦
      s.stripeSubscriptionId == subscriber.stripeSubscriptionId with
  | some s =>
    let db ← modify subscriptionTable s.id (renew env currentPeriodEnd) db
    return (s.id, db)
  | none =>
    let db ← createSubscription
      (subscriptionRow env subscriber planConfig stripeCustomerId currentPeriodEnd) db
    return (env.subscriptionId, db)

def sessionPaymentRow (env : Env) (session : JsValue) (subscriber : Subscriber)
    (planConfig : SubscriptionPlanConfig) (subscriptionId : String)
    (stripeCheckoutSessionId : Option String) : Payment where
  id := env.paymentId
  userId := subscriber.userId
  sponsorProfileId := if isSponsorPlan planConfig.plan then subscriber.profileId else none
  vendorProfileId := if isSponsorPlan planConfig.plan then none else subscriber.profileId
  subscriptionId := some subscriptionId
  amount := planConfig.price
  currency := planConfig.currency
  status := .succeeded
  purpose := .subscription
  stripePaymentIntentId := (session.get "payment_intent").asStr?
  stripeCheckoutSessionId
  stripeInvoiceId := none
  metadata := none
  paidAt := some env.now
  failedAt := none
  refundedAt := none
  refundAmount := none
  refundReason := none
  createdAt := env.now

def activateSubscription (session : JsValue) : Commit := fun env db ↦ do
  let metadata := (session.get "metadata").or (.obj [])
  let planKey ← textArg (metadata.get "plan")
  let plan ← found (planOfKey planKey) .validation
  let planConfig ← found (db.subscriptionPlanConfigs.find? fun c ↦ c.plan == plan)
    (.badRequest [.text s!"Subscription plan configuration {planKey} not found"])
  let userId ← textArg (metadata.get "userId")
  let profileId ← optionalTextArg (metadata.get "profileId")
  let stripeSubscriptionId ← textArg (session.get "subscription")
  let subscriber := { userId, profileId, stripeSubscriptionId }
  let (subscriptionId, db) ← upsertSubscription env session subscriber planConfig db
  let stripeCheckoutSessionId ← optionalTextArg ((session.get "id").or .null)
  let db ← createPayment
    (sessionPaymentRow env session subscriber planConfig subscriptionId stripeCheckoutSessionId) db
  let db ← enqueue env.outboxId env.now "SUBSCRIPTION" subscriptionId "SUBSCRIPTION_ACTIVATED"
    [("userId", .str userId), ("subscriptionId", .str subscriptionId),
      ("planName", .str planConfig.name), ("amount", .num planConfig.price.toNumber),
      ("currency", .str planConfig.currency)] db
  return (db, some
    { actorUserId := metadata.get "userId"
      action := "SUBSCRIPTION_ACTIVATED"
      resourceType := "SUBSCRIPTION"
      resourceId := subscriptionId
      metadata := [("plan", .str planKey)] })

/-- Whether a session names the user, the plan and the subscription. -/
def isComplete (session : JsValue) : Bool :=
  let metadata := (session.get "metadata").or (.obj [])
  (metadata.get "userId").truthy && (metadata.get "plan").truthy &&
    (session.get "subscription").truthy

def activateSubscriptionFromSession (session : JsValue) : Commit := fun env db ↦
  if isComplete session then activateSubscription session env db else noCommit env db

/-- Whether a completed session pays a community sponsorship. -/
def paysSponsorship (session : JsValue) : Bool :=
  (session.get "mode").isStr "payment" &&
    (((session.get "metadata").or (.obj [])).get "paymentPurpose").isStr "COMMUNITY_SPONSORSHIP"

/-- Whether a completed session pays a subscription. -/
def paysSubscription (session : JsValue) : Bool :=
  (session.get "mode").isStr "subscription" ||
    (((session.get "metadata").or (.obj [])).get "purpose").isStr "SUBSCRIPTION"

def handleCheckoutSessionCompleted (session : JsValue) (_ : Db) : Except Err Commit :=
  if paysSponsorship session then .ok (activateCommunitySponsorshipFromSession session)
  else if paysSubscription session then .ok (activateSubscriptionFromSession session)
  else .ok noCommit

/-- `tx.subscription.findUnique({ where: { stripeSubscriptionId } })` -/
def subscriptionOf (stripeSubscriptionId : JsValue) (db : Db) : Except Err (Option Subscription) := do
  let id ← textArg stripeSubscriptionId
  return db.subscriptions.find? fun s ↦ s.stripeSubscriptionId == id

/-- The same read with `include: { planConfig: true }`. -/
def subscriptionWithPlan (stripeSubscriptionId : JsValue) (db : Db) :
    Except Err (Option (Subscription × SubscriptionPlanConfig)) := do
  match ← subscriptionOf stripeSubscriptionId db with
  | none => return none
  | some existing =>
    let planConfig ← found (db.subscriptionPlanConfigs.get? existing.planConfigId) .validation
    return some (existing, planConfig)

/-- The names a record literal inherits: looking one up in `statusMap` finds a
function or an object, which is no subscription status. -/
def inheritedNames : List String :=
  ["constructor", "hasOwnProperty", "isPrototypeOf", "propertyIsEnumerable", "toLocaleString",
    "toString", "valueOf", "__proto__", "__defineGetter__", "__defineSetter__",
    "__lookupGetter__", "__lookupSetter__"]

def targetStatus (status : JsValue) : Except Err SubscriptionStatus :=
  match status.asStr? with
  | some "active" => .ok .active
  | some "trialing" => .ok .trialing
  | some "past_due" => .ok .pastDue
  | some "canceled" => .ok .cancelled
  | some "unpaid" => .ok .unpaid
  | some "incomplete" => .ok .incomplete
  | some name => if name ∈ inheritedNames then .error .validation else .ok .active
  | none => .ok .active

/-- `new Date(seconds * 1000)` -/
def dateOfSeconds (seconds : ℚ) : Except Err Time :=
  let ms := fl (seconds * 1000)
  date (if 0 ≤ ms then ⌊ms⌋ else ⌈ms⌉)

/-- A period bound of a Stripe subscription; anything but a number leaves the
column as it is. -/
def periodBound (v : JsValue) : Except Err (Option Time) :=
  match v.asNum? with
  | some seconds => some <$> dateOfSeconds seconds
  | none => .ok none

def flagArg : JsValue → Except Err Bool
  | .bool b => .ok b
  | _ => .error .validation

/-- What a subscription update of Stripe writes to the subscription. -/
structure SubscriptionChange where
  status : SubscriptionStatus
  cancelAtPeriodEnd : Bool
  currentPeriodStart : Option Time
  currentPeriodEnd : Option Time

def SubscriptionChange.apply (c : SubscriptionChange) (s : Subscription) : Subscription :=
  { s with
    status := c.status
    cancelAtPeriodEnd := c.cancelAtPeriodEnd
    currentPeriodStart := c.currentPeriodStart.or s.currentPeriodStart
    currentPeriodEnd := c.currentPeriodEnd.or s.currentPeriodEnd }

def subscriptionChange (stripeSub : JsValue) : Except Err SubscriptionChange := do
  let status ← targetStatus (stripeSub.get "status")
  let cancelAtPeriodEnd ← flagArg ((stripeSub.get "cancel_at_period_end").orNullish (.bool false))
  let currentPeriodStart ← periodBound (stripeSub.get "current_period_start")
  let currentPeriodEnd ← periodBound (stripeSub.get "current_period_end")
  return { status, cancelAtPeriodEnd, currentPeriodStart, currentPeriodEnd }

def updateSubscription (stripeSub : JsValue) (existing : Subscription) : Commit := fun _ db ↦ do
  let change ← subscriptionChange stripeSub
  let db ← modify subscriptionTable existing.id change.apply db
  return (db, none)

def handleSubscriptionUpdated (stripeSub : JsValue) (db : Db) : Except Err Commit := do
  match ← subscriptionOf (stripeSub.get "id") db with
  | none => return noCommit
  | some existing => return updateSubscription stripeSub existing

def cancel (env : Env) (s : Subscription) : Subscription :=
  { s with
    status := .cancelled
    canceledAt := some env.now }

def cancelSubscription (existing : Subscription) (planConfig : SubscriptionPlanConfig) : Commit :=
  fun env db ↦ do
    let db ← modify subscriptionTable existing.id (cancel env) db
    let db ← enqueue env.outboxId env.now "SUBSCRIPTION" existing.id "SUBSCRIPTION_CANCELLED"
      [("userId", .str existing.userId), ("subscriptionId", .str existing.id),
        ("planName", .str planConfig.name)] db
    return (db, none)

def handleSubscriptionDeleted (stripeSub : JsValue) (db : Db) : Except Err Commit := do
  match ← subscriptionWithPlan (stripeSub.get "id") db with
  | none => return noCommit
  | some (existing, planConfig) => return cancelSubscription existing planConfig

/-- `typeof v === 'number' ? v / 100 : amount.toNumber()` -/
def amountOf (v : JsValue) (amount : Money) : ℚ :=
  match v.asNum? with
  | some minorUnits => fl (minorUnits / 100)
  | none => amount.toNumber

/-- `String(invoice.currency || existing.currency).toUpperCase()`, which must fit
the three characters of the column. -/
def currencyOf (v : JsValue) (currency : String) : Except Err String := do
  let c ← textArg (v.or (.str currency))
  let upper := c.toList.map Char.toUpper
  require (upper.length ≤ 3) .outOfRange
  return String.ofList upper

def invoicePaymentRow (env : Env) (existing : Subscription) (amount : Money) (currency : String)
    (stripeInvoiceId : Option String) : Payment where
  id := env.paymentId
  userId := existing.userId
  sponsorProfileId := existing.sponsorProfileId
  vendorProfileId := existing.vendorProfileId
  subscriptionId := some existing.id
  amount
  currency
  status := .succeeded
  purpose := .subscription
  stripePaymentIntentId := none
  stripeCheckoutSessionId := none
  stripeInvoiceId
  metadata := none
  paidAt := some env.now
  failedAt := none
  refundedAt := none
  refundAmount := none
  refundReason := none
  createdAt := env.now

def extend (currentPeriodEnd : Time) (s : Subscription) : Subscription :=
  { s with
    status := .active
    currentPeriodEnd := some currentPeriodEnd }

/-- The subscription moves to the end of the invoiced period, if there is one. -/
def extendSubscription (id : String) (periodEnd : Option Time) (db : Db) : Except Err Db :=
  match periodEnd with
  | some currentPeriodEnd => modify subscriptionTable id (extend currentPeriodEnd) db
  | none => .ok db

def recordInvoice (invoice : JsValue) (existing : Subscription)
    (planConfig : SubscriptionPlanConfig) : Commit := fun env db ↦ do
  let amountPaid := amountOf (invoice.get "amount_paid") existing.amount
  let amount ← Money.ofDecimal (shortest amountPaid)
  let currency ← currencyOf (invoice.get "currency") existing.currency
  let stripeInvoiceId ← optionalTextArg ((invoice.get "id").or .null)
  let db ← createPayment (invoicePaymentRow env existing amount currency stripeInvoiceId) db
  let periodEnd ← periodBound
    (((((invoice.get "lines").get "data").item 0).get "period").get "end")
  let db ← extendSubscription existing.id periodEnd db
  let db ← enqueue env.outboxId env.now "SUBSCRIPTION" existing.id "SUBSCRIPTION_RENEWED"
    [("userId", .str existing.userId), ("subscriptionId", .str existing.id),
      ("planName", .str planConfig.name), ("amount", .num amountPaid),
      ("currency", .str existing.currency)] db
  return (db, none)

def handleInvoicePaid (invoice : JsValue) (db : Db) : Except Err Commit := do
  if (invoice.get "subscription").truthy then
    match ← subscriptionWithPlan (invoice.get "subscription") db with
    | none => return noCommit
    | some (existing, planConfig) => return recordInvoice invoice existing planConfig
  else return noCommit

def lapse (s : Subscription) : Subscription := { s with status := .pastDue }

def markPastDue (existing : Subscription) (planConfig : SubscriptionPlanConfig) : Commit :=
  fun env db ↦ do
    let db ← modify subscriptionTable existing.id lapse db
    let db ← enqueue env.outboxId env.now "SUBSCRIPTION" existing.id "SUBSCRIPTION_PAYMENT_FAILED"
      [("userId", .str existing.userId), ("subscriptionId", .str existing.id),
        ("planName", .str (if planConfig.name = "" then planText existing.plan
          else planConfig.name))] db
    return (db, none)

def handleInvoicePaymentFailed (invoice : JsValue) (db : Db) : Except Err Commit := do
  if (invoice.get "subscription").truthy then
    match ← subscriptionWithPlan (invoice.get "subscription") db with
    | none => return noCommit
    | some (existing, planConfig) => return markPastDue existing planConfig
  else return noCommit

def markRefunded (env : Env) (refundAmount : Money) (p : Payment) : Payment :=
  { p with
    status := .refunded
    refundAmount := some refundAmount
    refundedAt := some env.now }

def recordRefund (charge : JsValue) (existing : Payment) : Commit := fun env db ↦ do
  let amount := amountOf (charge.get "amount_refunded") existing.amount
  let refundAmount ← Money.ofDecimal (shortest amount)
  let db ← modify paymentTable existing.id (markRefunded env refundAmount) db
  let db ← enqueue env.outboxId env.now "PAYMENT" existing.id "PAYMENT_REFUNDED"
    [("userId", .str existing.userId), ("paymentId", .str existing.id),
      ("amount", .num amount), ("currency", .str existing.currency)] db
  return (db, none)

/-- The payment a `charge.refunded` event is about. -/
def chargedPayment (charge : JsValue) (db : Db) : Except Err (Option Payment) := do
  let paymentIntentId ← textArg (charge.get "payment_intent")
  return db.payments.find? fun p ↦ p.stripePaymentIntentId == some paymentIntentId

def handleChargeRefunded (charge : JsValue) (db : Db) : Except Err Commit := do
  if (charge.get "payment_intent").truthy then
    match ← chargedPayment charge db with
    | none => return noCommit
    | some existing =>
      if existing.status = .refunded then return noCommit
      else return recordRefund charge existing
  else return noCommit

end StripeWebhookService

end Innovents.Payments
