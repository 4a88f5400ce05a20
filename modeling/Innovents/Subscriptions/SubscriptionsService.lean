import Innovents.Payments.PaymentsService
import Innovents.Payments.WebhookHandlers

namespace Innovents.Subscriptions

open Innovents.Lib Innovents.Payments
open StripeWebhookService (isSponsorPlan)

structure CreateSubscriptionCheckoutDto where
  plan : SubscriptionPlan
  successUrl : Option String
  cancelUrl : Option String

structure SubscriptionCheckoutResponseDto where
  checkoutUrl : String
  sessionId : String

/-- The business profile that subscribes. -/
inductive Profile
  | sponsor (p : SponsorProfile)
  | vendor (p : VendorProfile)

namespace Profile

def id : Profile → String
  | sponsor p => p.id
  | vendor p => p.id

def companyName : Profile → String
  | sponsor p => p.companyName
  | vendor p => p.companyName

def contactEmail : Profile → Option String
  | sponsor p => p.contactEmail
  | vendor p => p.contactEmail

def stripeCustomerId : Profile → Option String
  | sponsor p => p.stripeCustomerId
  | vendor p => p.stripeCustomerId

end Profile

/-- A user with the profiles that its business roles have. -/
structure Account where
  user : User
  sponsorProfile : Option SponsorProfile
  vendorProfile : Option VendorProfile

/-- `status: { in: [ACTIVE, TRIALING] }, cancelAtPeriodEnd: false` -/
def isLive (s : Subscription) : Bool :=
  (s.status == .active || s.status == .trialing) && !s.cancelAtPeriodEnd

namespace SubscriptionsService

def activeAccount (userId : String) (db : Db) : Except Err Account := do
  let inactive := Err.forbidden "Only active accounts can purchase subscriptions"
  let user ← found (db.users.find? fun u ↦ u.id == userId && u.deletedAt.isNone) inactive
  require (user.status == .active) inactive
  return {
    user
    sponsorProfile := db.sponsorProfiles.find? fun p ↦ p.userId == user.id
    vendorProfile := db.vendorProfiles.find? fun p ↦ p.userId == user.id }

def activePlanConfig (plan : SubscriptionPlan) (db : Db) : Except Err SubscriptionPlanConfig := do
  let missing := Err.notFound
    s!"Subscription plan configuration for {planText plan} not found or inactive"
  let planConfig ← found (db.subscriptionPlanConfigs.find? fun c ↦ c.plan == plan) missing
  require planConfig.isActive missing
  return planConfig

/-- The profile for which the account may subscribe to a plan. -/
def subscribingProfile (account : Account) (plan : SubscriptionPlan) : Except Err Profile :=
  if isSponsorPlan plan then do
    let noSponsor := Err.forbidden "Only verified event sponsors can subscribe to Sponsor plans"
    require (account.user.userRoles.contains "SPONSOR") noSponsor
    let p ← found account.sponsorProfile noSponsor
    return .sponsor p
  else do
    let noVendor :=
      Err.forbidden "Only verified marketplace vendors can subscribe to Vendor plans"
    require (account.user.userRoles.contains "VENDOR") noVendor
    let p ← found account.vendorProfile noVendor
    return .vendor p

def saveCustomer (profile : Profile) (customerId : String) (db : Db) : Except Err Db :=
  match profile with
  | .sponsor p => modify sponsorProfileTable p.id ({ · with stripeCustomerId := some customerId }) db
  | .vendor p => modify vendorProfileTable p.id ({ · with stripeCustomerId := some customerId }) db

/-- The Stripe customer of the profile, created on first use. -/
def customerOf (user : User) (profile : Profile) (planConfig : SubscriptionPlanConfig) :
    Service String :=
  match given profile.stripeCustomerId with
  | some id => pure id
  | none => do
    let id ← query "provider.createOrGetCustomer" fun env _ ↦
      env.provider.createOrGetCustomer (orText profile.contactEmail user.email) profile.companyName
        [("profileId", profile.id), ("userId", user.id), ("targetRole", planConfig.targetRole)]
    execute "profile.update" fun _ db ↦ do
      let db ← saveCustomer profile id db
      return (db, ())
    return id

def returnUrl (plan : SubscriptionPlan) (outcome : String) : String :=
  s!"https://app.innovent.com/subscriptions/{outcome}?plan={planText plan}"

def checkoutParams (userId stripeCustomerId : String) (dto : CreateSubscriptionCheckoutDto)
    (profile : Profile) (planConfig : SubscriptionPlanConfig) : CreateCheckoutSessionParams where
  userId
  stripeCustomerId := given (some stripeCustomerId)
  mode := .subscription
  successUrl := orText dto.successUrl (returnUrl dto.plan "success")
  cancelUrl := orText dto.cancelUrl (returnUrl dto.plan "cancelled")
  lineItem := .price (orText planConfig.stripePriceId s!"price_mock_{(planText dto.plan).toLower}")
  metadata := [("userId", userId), ("profileId", profile.id), ("plan", planText dto.plan),
    ("purpose", "SUBSCRIPTION")]

def intervalText : SubscriptionBillingInterval → String
  | .month => "MONTH"
  | .year => "YEAR"

def createCheckout (userId : String) (dto : CreateSubscriptionCheckoutDto) :
    Service SubscriptionCheckoutResponseDto := do
  let account ← query "user.findFirst" fun _ db ↦ activeAccount userId db
  let planConfig ← query "subscriptionPlanConfig.findUnique" fun _ db ↦ activePlanConfig dto.plan db
  let profile ← .returned (subscribingProfile account dto.plan)
  query "subscription.findFirst" fun _ db ↦
    require (!db.subscriptions.rows.any fun s ↦
        s.userId == userId && s.plan == dto.plan && isLive s)
      (.conflict "An active subscription already exists for this plan")
  let stripeCustomerId ← customerOf account.user profile planConfig
  let session ← query "provider.createCheckoutSession" fun env _ ↦
    env.provider.createCheckoutSession
      (checkoutParams userId stripeCustomerId dto profile planConfig)
  logAudit
    { actorUserId := .str userId
      action := "SUBSCRIPTION_CHECKOUT_INITIATED"
      resourceType := "SUBSCRIPTION"
      resourceId := session.sessionId
      metadata := [("plan", .str (planText dto.plan)), ("amount", .num planConfig.price.toNumber),
        ("interval", .str (intervalText planConfig.interval)),
        ("sessionId", .str session.sessionId)] }
  return { checkoutUrl := session.checkoutUrl, sessionId := session.sessionId }

/-- A checkout writes no subscription: only the webhook of its session does. -/
theorem createCheckout_writes (userId : String) (dto : CreateSubscriptionCheckoutDto) :
    (createCheckout userId dto).Each fun _ db db' ↦ db'.subscriptions = db.subscriptions := by
  have hsame : ∀ (_ : Request) (db : Db), db.subscriptions = db.subscriptions := fun _ _ ↦ rfl
  have hcustomer (user : User) (profile : Profile) (planConfig : SubscriptionPlanConfig) :
      (customerOf user profile planConfig).Each
        fun _ db db' ↦ db'.subscriptions = db.subscriptions := by
    unfold customerOf
    cases given profile.stripeCustomerId with
    | some id => trivial
    | none =>
      refine Call.each_bind (each_query hsame) fun id ↦ ?_
      refine Call.each_bind (each_execute hsame ?_) fun _ ↦ trivial
      intro env db db' _ h
      obtain ⟨db₁, hsave, h⟩ := bind_eq_ok.mp h
      cases h
      unfold saveCustomer at hsave
      cases profile with
      | sponsor p =>
        obtain ⟨t, _, rfl⟩ := (modify_eq_ok _).mp hsave
        rfl
      | vendor p =>
        obtain ⟨t, _, rfl⟩ := (modify_eq_ok _).mp hsave
        rfl
  refine Call.each_bind (each_query hsame) fun account ↦ ?_
  refine Call.each_bind (each_query hsame) fun planConfig ↦ ?_
  refine Call.each_bind trivial fun profile ↦ ?_
  refine Call.each_bind (each_query hsame) fun _ ↦ ?_
  refine Call.each_bind (hcustomer account.user profile planConfig) fun stripeCustomerId ↦ ?_
  refine Call.each_bind (each_query hsame) fun session ↦ ?_
  exact Call.each_bind (each_logAudit fun _ _ _ ↦ rfl) fun _ ↦ trivial

end SubscriptionsService

end Innovents.Subscriptions
