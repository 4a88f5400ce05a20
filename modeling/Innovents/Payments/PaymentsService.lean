import Innovents.Payments.Calls

namespace Innovents.Payments

open Innovents.Lib JsNumber

structure CreateCommunitySponsorshipCheckoutDto where
  communityId : String
  planId : Option String
  successUrl : Option String
  cancelUrl : Option String

structure CheckoutSessionResponseDto where
  checkoutUrl : String
  sessionId : String
  paymentId : String

structure AdminRefundDto where
  amount : Option ℚ
  reason : Option String

namespace PaymentsService

/-- The sponsor that may open a checkout. -/
def activeSponsor (userId : String) (db : Db) : Except Err (User × SponsorProfile) := do
  let user ← found (db.users.find? fun u ↦ u.id == userId && u.deletedAt.isNone)
    (.notFound "User account not found")
  require (user.status == .active)
    (.forbidden "Only active sponsor accounts can sponsor communities")
  let noProfile := Err.forbidden
    "Only active sponsors with a valid business profile can sponsor communities"
  require (user.userRoles.contains "SPONSOR") noProfile
  let sponsorProfile ← found (db.sponsorProfiles.find? fun p ↦ p.userId == user.id) noProfile
  return (user, sponsorProfile)

/-- The first active plan in the order of creation. -/
def oldestPlan (plans : List CommunitySponsorshipPlan) : Option CommunitySponsorshipPlan :=
  plans.foldl (fun oldest plan ↦ match oldest with
    | some p => if plan.createdAt < p.createdAt then some plan else some p
    | none => some plan) none

def activePlan (planId : Option String) (db : Db) : Except Err CommunitySponsorshipPlan :=
  let active := db.communitySponsorshipPlans.rows.filter (·.isActive)
  found (match given planId with
    | some id => active.find? fun p ↦ p.id == id
    | none => oldestPlan active)
    (.notFound "No active community sponsorship plan configuration found")

def withCustomer (stripeCustomerId : String) (p : SponsorProfile) : SponsorProfile :=
  { p with stripeCustomerId := some stripeCustomerId }

/-- The Stripe customer of the sponsor, created on first use. -/
def customerOf (user : User) (sponsorProfile : SponsorProfile) : Service String :=
  match given sponsorProfile.stripeCustomerId with
  | some id => pure id
  | none => do
    let id ← query "provider.createOrGetCustomer" fun env _ ↦
      env.provider.createOrGetCustomer (orText sponsorProfile.contactEmail user.email)
        sponsorProfile.companyName
        [("sponsorProfileId", sponsorProfile.id), ("userId", user.id)]
    execute "sponsorProfile.update" fun _ db ↦ do
      let db ← modify sponsorProfileTable sponsorProfile.id (withCustomer id) db
      return (db, ())
    return id

def pendingPayment (env : Env) (userId : String) (sponsorProfile : SponsorProfile)
    (community : Community) (plan : CommunitySponsorshipPlan) : Payment where
  id := env.paymentId
  userId
  sponsorProfileId := some sponsorProfile.id
  vendorProfileId := none
  subscriptionId := none
  amount := plan.price
  currency := plan.currency
  status := .pending
  purpose := .communitySponsorship
  stripePaymentIntentId := none
  stripeCheckoutSessionId := none
  stripeInvoiceId := none
  metadata := some
    { communityId := community.id
      communityName := community.name
      planId := plan.id
      memberCapacity := plan.memberCapacity
      durationDays := plan.durationDays }
  paidAt := none
  failedAt := none
  refundedAt := none
  refundAmount := none
  refundReason := none
  createdAt := env.now

def returnUrl (community : Community) (payment : Payment) (outcome : String) : String :=
  s!"https://app.innovent.com/communities/{community.id}?payment={outcome}&payment_id={payment.id}"

def checkoutParams (userId stripeCustomerId : String) (dto : CreateCommunitySponsorshipCheckoutDto)
    (sponsorProfile : SponsorProfile) (community : Community) (plan : CommunitySponsorshipPlan)
    (payment : Payment) : CreateCheckoutSessionParams where
  userId
  stripeCustomerId := given (some stripeCustomerId)
  mode := .payment
  successUrl := orText dto.successUrl (returnUrl community payment "success")
  cancelUrl := orText dto.cancelUrl (returnUrl community payment "cancelled")
  lineItem := .priceData plan.currency.toLower s!"Community Sponsorship: {community.name}"
    (orText plan.description
      s!"{plan.durationDays}-day sponsorship with {plan.memberCapacity} members capacity")
    (mathRound (fl (plan.price.toNumber * 100)))
  metadata := [("paymentId", payment.id), ("paymentPurpose", "COMMUNITY_SPONSORSHIP"),
    ("communityId", community.id), ("planId", plan.id), ("userId", userId),
    ("sponsorProfileId", sponsorProfile.id)]

def withSession (sessionId : String) (p : Payment) : Payment :=
  { p with stripeCheckoutSessionId := some sessionId }

def createCommunitySponsorshipCheckout (userId : String)
    (dto : CreateCommunitySponsorshipCheckoutDto) : Service CheckoutSessionResponseDto := do
  let (user, sponsorProfile) ← query "user.findFirst" fun _ db ↦ activeSponsor userId db
  let community ← query "community.findFirst" fun _ db ↦
    found (db.communities.find? fun c ↦ c.id == dto.communityId && c.deletedAt.isNone)
      (.notFound "Community not found")
  query "communitySponsorship.findFirst" fun env db ↦
    require (!db.communitySponsorships.rows.any fun s ↦
        s.communityId == dto.communityId && s.isRunning env.now)
      (.conflict "This community already has an active, unexpired sponsorship")
  let plan ← query "communitySponsorshipPlan.findFirst" fun _ db ↦ activePlan dto.planId db
  let stripeCustomerId ← customerOf user sponsorProfile
  let payment ← execute "payment.create" fun env db ↦ do
    let payment := pendingPayment env userId sponsorProfile community plan
    let db ← createPayment payment db
    return (db, payment)
  let session ← query "provider.createCheckoutSession" fun env _ ↦
    env.provider.createCheckoutSession
      (checkoutParams userId stripeCustomerId dto sponsorProfile community plan payment)
  execute "payment.update" fun _ db ↦ do
    let db ← modify paymentTable payment.id (withSession session.sessionId) db
    return (db, ())
  logAudit
    { actorUserId := .str userId
      action := "COMMUNITY_SPONSORSHIP_CHECKOUT_INITIATED"
      resourceType := "PAYMENT"
      resourceId := payment.id
      metadata := [("communityId", .str community.id), ("planId", .str plan.id),
        ("amount", .num plan.price.toNumber), ("currency", .str plan.currency),
        ("sessionId", .str session.sessionId)] }
  return { checkoutUrl := session.checkoutUrl, sessionId := session.sessionId
           paymentId := payment.id }

def statusText : PaymentStatus → String
  | .pending => "PENDING"
  | .requiresAction => "REQUIRES_ACTION"
  | .succeeded => "SUCCEEDED"
  | .failed => "FAILED"
  | .cancelled => "CANCELLED"
  | .refunded => "REFUNDED"
  | .partiallyRefunded => "PARTIALLY_REFUNDED"

/-- `refundAmount ? refundAmount.toNumber() : 0` -/
def currentRefunded (payment : Payment) : ℚ := payment.refundAmount.elim 0 Money.toNumber

def maxRefundable (payment : Payment) : ℚ :=
  fl (payment.amount.toNumber - currentRefunded payment)

/-- Whether an admin may refund the payment at all. -/
def isRefundable (payment : Payment) : Bool :=
  payment.status == .succeeded || payment.status == .partiallyRefunded

/-- What is refunded of the payment, if the request is accepted. -/
def refundTarget (payment : Payment) (dto : AdminRefundDto) : Except Err ℚ := do
  require (isRefundable payment)
    (.badRequest [.text s!"Payment status is {statusText payment.status}. ",
      .text "Only succeeded payments can be refunded."])
  let targetRefund := dto.amount.getD (maxRefundable payment)
  require (0 < targetRefund && targetRefund ≤ maxRefundable payment)
    (.badRequest [.text "Invalid refund amount: ", .number targetRefund,
      .text ". Max refundable remaining is ", .number (maxRefundable payment),
      .text s!" {payment.currency}."])
  return targetRefund

/-- `new Prisma.Decimal(currentRefunded + targetRefund)` -/
def newTotalRefunded (payment : Payment) (targetRefund : ℚ) : ℚ :=
  shortest (fl (currentRefunded payment + targetRefund))

def isFullRefund (payment : Payment) (targetRefund : ℚ) : Bool :=
  payment.amount.toRat ≤ newTotalRefunded payment targetRefund

def settleRefund (env : Env) (full : Bool) (refundAmount : Money) (reason : Option String)
    (p : Payment) : Payment :=
  { p with
    status := if full then .refunded else .partiallyRefunded
    refundAmount := some refundAmount
    refundReason := some (orText reason "Admin processed refund")
    refundedAt := some env.now }

def refundNoticePayload (payment : Payment) (targetRefund : ℚ) (reason : Option String) :
    List (String × JsValue) :=
  [("userId", .str payment.userId), ("paymentId", .str payment.id), ("amount", .num targetRefund),
    ("currency", .str payment.currency), ("reason", textValue reason)]

/-- A full refund cancels the sponsorship that was bought with the payment. -/
def endRefunded (env : Env) (full : Bool) (sponsorship : Option CommunitySponsorship) (db : Db) :
    Except Err Db :=
  match full, sponsorship with
  | true, some s => endSponsorship .cancelled env.now s db
  | _, _ => .ok db

/-- The transaction that records a refund, given the payment and the sponsorship
as they were read before. -/
def recordRefund (env : Env) (payment : Payment) (sponsorship : Option CommunitySponsorship)
    (targetRefund : ℚ) (reason : Option String) (db : Db) : Except Err (Db × Payment) := do
  let full := isFullRefund payment targetRefund
  let refundAmount ← Money.ofDecimal (newTotalRefunded payment targetRefund)
  let db ← modify paymentTable payment.id (settleRefund env full refundAmount reason) db
  let updated ← found (db.payments.get? payment.id) .validation
  let db ← endRefunded env full sponsorship db
  let db ← enqueue env.outboxId env.now "PAYMENT" payment.id "PAYMENT_REFUNDED"
    (refundNoticePayload payment targetRefund reason) db
  return (db, updated)

def settle (payment : Payment) (sponsorship : Option CommunitySponsorship) (targetRefund : ℚ)
    (adminUserId : String) (reason : Option String) : Service Payment := do
  let updated ← execute "$transaction" fun env db ↦
    recordRefund env payment sponsorship targetRefund reason db
  logAudit
    { actorUserId := .str adminUserId
      action := "PAYMENT_REFUNDED"
      resourceType := "PAYMENT"
      resourceId := payment.id
      metadata := [("refundAmount", .num targetRefund), ("currency", .str payment.currency),
        ("reason", textValue reason)] }
  return updated

def giveBack (payment : Payment) (sponsorship : Option CommunitySponsorship) (targetRefund : ℚ)
    (adminUserId : String) (reason : Option String) : Service Payment :=
  match given payment.stripePaymentIntentId with
  | some intent => do
    let minorUnits := mathRound (fl (targetRefund * 100))
    Call.ask (.refundCharge intent minorUnits reason) fun env _ ↦
      env.provider.refundPayment intent minorUnits reason
    settle payment sponsorship targetRefund adminUserId reason
  | none => settle payment sponsorship targetRefund adminUserId reason

def refundPayment (paymentId adminUserId : String) (dto : AdminRefundDto) : Service Payment := do
  let (payment, sponsorship) ← Call.ask (.findPayment paymentId) fun _ db ↦ do
    let payment ← found (db.payments.get? paymentId) (.notFound "Payment not found")
    return (payment, db.communitySponsorships.find? fun s ↦ s.paymentId == some payment.id)
  let targetRefund ← Call.returned (refundTarget payment dto)
  giveBack payment sponsorship targetRefund adminUserId dto.reason

end PaymentsService

end Innovents.Payments
