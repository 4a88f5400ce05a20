import Innovents.Auth.AdminUsersService
import Innovents.Payments.Statements

namespace Innovents.Marketplace

open Innovents.Lib Innovents.Auth
open Innovents.Payments (Time Money)

inductive RfqStatus
  | draft | sent | viewed | clarificationRequested | quoted | accepted | rejected | expired
  | cancelled
  deriving DecidableEq, Repr

inductive QuotationStatus
  | pending | accepted | rejected | superseded | expired
  deriving DecidableEq, Repr

inductive C2bBookingStatus
  | pending | confirmed | rejected | cancelled | completed
  deriving DecidableEq, Repr

inductive DiscountType
  | percentage | fixedAmount
  deriving DecidableEq, Repr

def RfqStatus.text : RfqStatus → String
  | draft => "DRAFT"
  | sent => "SENT"
  | viewed => "VIEWED"
  | clarificationRequested => "CLARIFICATION_REQUESTED"
  | quoted => "QUOTED"
  | accepted => "ACCEPTED"
  | rejected => "REJECTED"
  | expired => "EXPIRED"
  | cancelled => "CANCELLED"

def QuotationStatus.text : QuotationStatus → String
  | pending => "PENDING"
  | accepted => "ACCEPTED"
  | rejected => "REJECTED"
  | superseded => "SUPERSEDED"
  | expired => "EXPIRED"

def C2bBookingStatus.text : C2bBookingStatus → String
  | pending => "PENDING"
  | confirmed => "CONFIRMED"
  | rejected => "REJECTED"
  | cancelled => "CANCELLED"
  | completed => "COMPLETED"

structure RfqItem where
  id : String
  vendorServiceId : Option String
  description : String
  quantity : ℤ
  unit : Option String
  targetPrice : Option Money
  notes : Option String
  createdAt : Time

/-- A request for quotation with its items, which do not change. -/
structure Rfq where
  id : String
  sponsorId : String
  vendorId : String
  eventId : Option String
  title : String
  description : String
  requirements : Option String
  status : RfqStatus
  expiresAt : Time
  sentAt : Option Time
  viewedAt : Option Time
  cancelledAt : Option Time
  acceptedAt : Option Time
  rejectedAt : Option Time
  cancellationReason : Option String
  rejectionReason : Option String
  createdAt : Time
  updatedAt : Time
  items : List RfqItem

structure RfqClarification where
  id : String
  rfqId : String
  senderId : String
  message : String
  createdAt : Time

structure QuotationItem where
  rfqItemId : Option String
  description : String
  quantity : ℤ
  unitPrice : Money
  total : Money
  notes : Option String

structure Quotation where
  id : String
  rfqId : String
  vendorId : String
  version : ℕ
  status : QuotationStatus
  subtotal : Money
  tax : Money
  discount : Money
  total : Money
  currency : String
  validUntil : Time
  notes : Option String
  acceptedAt : Option Time
  rejectedAt : Option Time
  rejectionReason : Option String
  createdAt : Time
  updatedAt : Time
  items : List QuotationItem

structure Event where
  id : String
  endsAt : Time
  deletedAt : Option Time

structure C2bService where
  id : String
  providerId : String
  eventId : String
  name : String
  category : String
  price : Option Money
  currency : String
  expiresAt : Time
  contactMethod : String
  maxBookings : Option ℤ
  bookingCount : ℤ
  isAvailable : Bool
  deletedAt : Option Time

structure C2bBooking where
  id : String
  serviceId : String
  attendeeId : String
  providerId : String
  eventId : String
  status : C2bBookingStatus
  notes : Option String
  providerNotes : Option String
  contactMethod : Option String
  contactValue : Option String
  requestedDate : Option Time
  confirmedAt : Option Time
  cancelledAt : Option Time
  completedAt : Option Time
  createdAt : Time
  updatedAt : Time

structure Coupon where
  id : String
  providerId : String
  eventId : String
  serviceId : Option String
  code : String
  normalizedCode : String
  description : Option String
  discountType : DiscountType
  discountValue : Money
  maxRedemptions : Option ℤ
  redemptionCount : ℤ
  startsAt : Option Time
  expiresAt : Time
  isActive : Bool
  createdAt : Time
  updatedAt : Time
  deletedAt : Option Time

structure CouponRedemption where
  id : String
  couponId : String
  attendeeId : String
  eventId : String
  serviceId : Option String
  discountAmount : Option Money
  idempotencyKey : Option String
  redeemedAt : Time

instance : Row Rfq := ⟨Rfq.id, []⟩
instance : Row RfqClarification := ⟨RfqClarification.id, []⟩
instance : Row Quotation := ⟨Quotation.id, [fun q ↦ some (q.rfqId ++ ":" ++ toString q.version)]⟩
instance : Row Event := ⟨Event.id, []⟩
instance : Row C2bService := ⟨C2bService.id, []⟩
instance : Row C2bBooking := ⟨C2bBooking.id, []⟩
instance : Row Coupon := ⟨Coupon.id, [fun c ↦ some c.normalizedCode]⟩
instance : Row CouponRedemption :=
  ⟨CouponRedemption.id,
    [CouponRedemption.idempotencyKey, fun r ↦ some (r.couponId ++ ":" ++ r.attendeeId)]⟩

/-- A delayed job of the cleanup queue. -/
structure CleanupJob where
  jobName : String
  rfqId : String
  delay : ℤ
  jobId : String

/-- The tables of both marketplaces, those of the accounts, and the cleanup queue. -/
structure MarketDb where
  accounts : AuthDb
  events : Table Event
  rfqs : Table Rfq
  rfqClarifications : Table RfqClarification
  quotations : Table Quotation
  c2bServices : Table C2bService
  c2bBookings : Table C2bBooking
  coupons : Table Coupon
  couponRedemptions : Table CouponRedemption
  cleanupQueueOpen : Bool
  cleanupJobs : List CleanupJob

def MarketDb.empty : MarketDb :=
  { accounts := .empty
    events := .empty
    rfqs := .empty
    rfqClarifications := .empty
    quotations := .empty
    c2bServices := .empty
    c2bBookings := .empty
    coupons := .empty
    couponRedemptions := .empty
    cleanupQueueOpen := true
    cleanupJobs := [] }

abbrev MarketCall (α : Type) := Call String AuthEnv MarketDb AuthError α

section Statements

variable {α : Type}

def throws (status : HttpStatus) (message : String) : MarketCall α :=
  .returned (.error (.http status message))

def finds (name : String) (f : AuthEnv → MarketDb → α) : MarketCall α :=
  .ask name fun env db ↦ env.fault.elim (.ok (f env db)) fun message ↦ .error (.fault message)

/-- One statement that writes, or one transaction. -/
def stores (name : String) (f : AuthEnv → MarketDb → Except AuthError (MarketDb × α)) :
    MarketCall α :=
  .perform name fun env db ↦ env.fault.elim (f env db) fun message ↦ .error (.fault message)

/-- A refusal of the service inside a transaction. -/
def refuse (status : HttpStatus) (message : String) : Except AuthError α :=
  .error (.http status message)

/-- The amount as its column keeps it. -/
def moneyOf (d : ℚ) : Except AuthError Money :=
  match Money.ofDecimal d with
  | .ok m => .ok m
  | .error _ => .error (.fault "numeric field overflow")

def log (params : CreateAuditLogParams) (client : Client) : MarketCall Unit :=
  .request params.action
    (fun env db ↦ { db with accounts := AuditService.written params client env db.accounts })
    fun _ _ ↦ .returned (.ok ())

def enqueued (params : CreateOutboxEventParams) (env : AuthEnv) (db : MarketDb) :
    Except AuthError MarketDb := do
  let accounts ← OutboxService.written params env db.accounts
  return { db with accounts }

def enqueue (params : CreateOutboxEventParams) : MarketCall Unit :=
  stores "outboxEvent.create" fun env db ↦ do
    let db ← enqueued params env db
    return (db, ())

/-- A job whose id is taken is not added again, and without the queue it is dropped. -/
def addCleanupJob (job : AuthEnv → CleanupJob) : MarketCall Unit :=
  stores "queue.add" fun env db ↦
    .ok (if db.cleanupQueueOpen && db.cleanupJobs.all fun j ↦ j.jobId != (job env).jobId then
      { db with cleanupJobs := db.cleanupJobs ++ [job env] } else db, ())

end Statements

/-- `value || null` -/
def textOrNull (text : Option String) : JsValue :=
  (text.filter (· ≠ "")).elim .null JsValue.str

def textOrUndefined (text : Option String) : JsValue :=
  text.elim .undefined JsValue.str

/-- An active account that is not deleted, with the role if one is required. -/
def assertActiveUser (userId : String) (requiredRole : Option String) : MarketCall Unit := do
  let user ← finds "user.findFirst" fun _ db ↦
    (db.accounts.users.get? userId).filter (·.deletedAt.isNone)
  match user with
  | none => throws .notFound "User account not found"
  | some user =>
    if user.status ≠ .active then
      throws .forbidden s!"Account is {AdminUsersService.accountStatusText user.status}. Only active accounts can perform this action."
    else
      match requiredRole.filter (· ∉ user.userRoles) with
      | none => return
      | some role => throws .forbidden s!"Only users with role {role} can perform this action."

section Sample

def sampleProvider : User :=
  { attendee with
    id := "provider-1"
    email := "provider@example.com"
    userRoles := ["PROVIDER"] }

def sampleEvent : Event where
  id := "event-1"
  endsAt := 100
  deletedAt := none

/-- The attendee and the provider have accounts, and there is an event. -/
def eventDb : MarketDb :=
  { MarketDb.empty with
    accounts := { AuthDb.empty with
      users := ((Table.singleton attendee).create sampleProvider).toOption.getD .empty }
    events := .singleton sampleEvent }

end Sample

end Innovents.Marketplace
