import Innovents.Lib.JsNumber
import Innovents.Lib.JsValue
import Innovents.Lib.Table

namespace Innovents.Payments

open Innovents.Lib

/-- Milliseconds since the epoch. -/
abbrev Time := ℤ

/-- A piece of a template literal. -/
inductive Part
  | text (s : String)
  | number (q : ℚ)
  deriving DecidableEq

/-- What a statement or a service can throw. -/
inductive Err
  | prisma (r : Refusal)
  | foreignKey
  | validation
  | outOfRange
  | badRequest (message : List Part)
  | notFound (message : String)
  | forbidden (message : String)
  | conflict (message : String)
  | provider (message : String)
  deriving DecidableEq

/-- A value of a `DECIMAL(12, 2)` column. -/
structure Money where
  cents : ℤ
  fits : |cents| < 10 ^ 12
  deriving DecidableEq

/-- 100.00. -/
theorem Money.fits_hundred : |(10000 : ℤ)| < 10 ^ 12 := by decide

inductive AccountStatus
  | pending | active | rejected | suspended | deactivated
  deriving DecidableEq, Repr

inductive PaymentStatus
  | pending | requiresAction | succeeded | failed | cancelled | refunded | partiallyRefunded
  deriving DecidableEq, Repr

inductive PaymentPurpose
  | communitySponsorship | subscription
  deriving DecidableEq, Repr

inductive CommunitySponsorshipStatus
  | pendingPayment | active | expired | cancelled | refunded
  deriving DecidableEq, Repr

inductive SubscriptionStatus
  | incomplete | active | pastDue | cancelled | unpaid | trialing
  deriving DecidableEq, Repr

inductive SubscriptionPlan
  | sponsorMonthly | sponsorAnnual | vendorMonthly | vendorAnnual
  deriving DecidableEq, Repr

inductive SubscriptionBillingInterval
  | month | year
  deriving DecidableEq, Repr

inductive StripeWebhookStatus
  | pending | processed | failed | ignored
  deriving DecidableEq, Repr

inductive OutboxStatus
  | pending | processing | processed | failed | deadLetter
  deriving DecidableEq, Repr

inductive CommunityType
  | free | sponsored
  deriving DecidableEq, Repr

inductive CommunityVisibility
  | isPublic | isPrivate
  deriving DecidableEq, Repr

inductive CommunityStatus
  | active | suspended | archived
  deriving DecidableEq, Repr

inductive CommunityMemberRole
  | owner | moderator | speaker | member
  deriving DecidableEq, Repr

inductive CommunityMemberStatus
  | active | left | banned
  deriving DecidableEq, Repr

/-- A user with the names of its roles. -/
structure User where
  id : String
  email : String
  status : AccountStatus
  deletedAt : Option Time
  userRoles : List String

structure SponsorProfile where
  id : String
  userId : String
  companyName : String
  contactEmail : Option String
  stripeCustomerId : Option String

structure VendorProfile where
  id : String
  userId : String
  companyName : String
  contactEmail : Option String
  stripeCustomerId : Option String

structure Event where
  id : String
  deletedAt : Option Time

structure Community where
  id : String
  eventId : String
  createdById : String
  name : String
  bio : String
  description : String
  category : String
  type : CommunityType
  visibility : CommunityVisibility
  status : CommunityStatus
  coverImageUrl : Option String
  language : Option String
  memberCapacity : ℤ
  memberCount : ℤ
  isSponsored : Bool
  isPinned : Bool
  deletedAt : Option Time

structure CommunityMember where
  id : String
  communityId : String
  userId : String
  role : CommunityMemberRole
  status : CommunityMemberStatus

structure CommunitySponsorshipPlan where
  id : String
  name : String
  description : Option String
  price : Money
  currency : String
  memberCapacity : ℤ
  durationDays : ℤ
  isActive : Bool
  createdAt : Time

structure CommunitySponsorship where
  id : String
  communityId : String
  sponsorId : String
  userId : String
  planId : String
  paymentId : Option String
  status : CommunitySponsorshipStatus
  amount : Money
  currency : String
  sponsoredCapacity : ℤ
  startsAt : Option Time
  endsAt : Option Time
  stripeCheckoutSessionId : Option String

structure SubscriptionPlanConfig where
  id : String
  plan : SubscriptionPlan
  name : String
  targetRole : String
  stripePriceId : Option String
  price : Money
  currency : String
  interval : SubscriptionBillingInterval
  isActive : Bool

structure Subscription where
  id : String
  userId : String
  sponsorProfileId : Option String
  vendorProfileId : Option String
  planConfigId : String
  plan : SubscriptionPlan
  status : SubscriptionStatus
  amount : Money
  currency : String
  interval : SubscriptionBillingInterval
  stripeCustomerId : String
  stripeSubscriptionId : String
  currentPeriodStart : Option Time
  currentPeriodEnd : Option Time
  cancelAtPeriodEnd : Bool
  canceledAt : Option Time

/-- What a sponsorship checkout keeps with its payment. -/
structure PaymentMetadata where
  communityId : String
  communityName : String
  planId : String
  memberCapacity : ℤ
  durationDays : ℤ

structure Payment where
  id : String
  userId : String
  sponsorProfileId : Option String
  vendorProfileId : Option String
  subscriptionId : Option String
  amount : Money
  currency : String
  status : PaymentStatus
  purpose : PaymentPurpose
  stripePaymentIntentId : Option String
  stripeCheckoutSessionId : Option String
  stripeInvoiceId : Option String
  metadata : Option PaymentMetadata
  paidAt : Option Time
  failedAt : Option Time
  refundedAt : Option Time
  refundAmount : Option Money
  refundReason : Option String
  createdAt : Time

structure StripeWebhookEvent where
  id : String
  provider : String
  providerEventId : String
  eventType : String
  processingStatus : StripeWebhookStatus
  processedAt : Option Time
  failureReason : Option Err
  payload : JsValue

structure OutboxEvent where
  id : String
  eventType : String
  aggregateType : String
  aggregateId : String
  payload : JsValue
  status : OutboxStatus
  attempts : ℕ
  lastError : Option String
  createdAt : Time
  processedAt : Option Time
  processingStartedAt : Option Time

structure AuditLog where
  id : String
  actorUserId : Option String
  action : String
  resourceType : String
  resourceId : Option String
  metadata : JsValue

def planText : SubscriptionPlan → String
  | .sponsorMonthly => "SPONSOR_MONTHLY"
  | .sponsorAnnual => "SPONSOR_ANNUAL"
  | .vendorMonthly => "VENDOR_MONTHLY"
  | .vendorAnnual => "VENDOR_ANNUAL"

instance : Row User := ⟨User.id, [fun u ↦ some u.email]⟩
instance : Row SponsorProfile := ⟨SponsorProfile.id, [fun p ↦ some p.userId, (·.stripeCustomerId)]⟩
instance : Row VendorProfile := ⟨VendorProfile.id, [fun p ↦ some p.userId, (·.stripeCustomerId)]⟩
instance : Row Event := ⟨Event.id, []⟩
instance : Row Community := ⟨Community.id, []⟩
instance : Row CommunityMember := ⟨CommunityMember.id, []⟩
instance : Row CommunitySponsorshipPlan := ⟨CommunitySponsorshipPlan.id, []⟩
instance : Row CommunitySponsorship :=
  ⟨CommunitySponsorship.id, [(·.paymentId), (·.stripeCheckoutSessionId)]⟩
instance : Row SubscriptionPlanConfig :=
  ⟨SubscriptionPlanConfig.id, [fun c ↦ some (planText c.plan)]⟩
instance : Row Subscription := ⟨Subscription.id, [fun s ↦ some s.stripeSubscriptionId]⟩
instance : Row Payment := ⟨Payment.id, [(·.stripePaymentIntentId), (·.stripeCheckoutSessionId)]⟩
instance : Row StripeWebhookEvent := ⟨StripeWebhookEvent.id, [fun e ↦ some e.providerEventId]⟩
instance : Row OutboxEvent := ⟨OutboxEvent.id, []⟩
instance : Row AuditLog := ⟨AuditLog.id, []⟩

/-- The tables that payments, subscriptions and communities work on. -/
structure Db where
  users : Table User
  sponsorProfiles : Table SponsorProfile
  vendorProfiles : Table VendorProfile
  events : Table Event
  communities : Table Community
  communityMembers : Table CommunityMember
  communitySponsorshipPlans : Table CommunitySponsorshipPlan
  communitySponsorships : Table CommunitySponsorship
  subscriptionPlanConfigs : Table SubscriptionPlanConfig
  subscriptions : Table Subscription
  payments : Table Payment
  stripeWebhookEvents : Table StripeWebhookEvent
  outboxEvents : Table OutboxEvent
  auditLogs : Table AuditLog

def Db.empty : Db :=
  ⟨.empty, .empty, .empty, .empty, .empty, .empty, .empty, .empty, .empty, .empty, .empty, .empty,
    .empty, .empty⟩

end Innovents.Payments
