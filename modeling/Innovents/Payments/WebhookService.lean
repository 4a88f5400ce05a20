import Innovents.Payments.WebhookHandlers
import Innovents.Lib.Interleaving

namespace Innovents.Payments

open Innovents.Lib

namespace StripeWebhookService

inductive WebhookHandler
  | checkoutSessionCompleted
  | subscriptionUpdated
  | subscriptionDeleted
  | invoicePaid
  | invoicePaymentFailed
  | chargeRefunded
  deriving DecidableEq, Repr

/-- The `switch` over the event type. -/
def handlerFor : String → Option WebhookHandler
  | "checkout.session.completed" => some .checkoutSessionCompleted
  | "customer.subscription.created" => some .subscriptionUpdated
  | "customer.subscription.updated" => some .subscriptionUpdated
  | "customer.subscription.deleted" => some .subscriptionDeleted
  | "invoice.paid" => some .invoicePaid
  | "invoice.payment_failed" => some .invoicePaymentFailed
  | "charge.refunded" => some .chargeRefunded
  | _ => none

def WebhookHandler.reads : WebhookHandler → JsValue → Db → Except Err Commit
  | checkoutSessionCompleted => handleCheckoutSessionCompleted
  | subscriptionUpdated => handleSubscriptionUpdated
  | subscriptionDeleted => handleSubscriptionDeleted
  | invoicePaid => handleInvoicePaid
  | invoicePaymentFailed => handleInvoicePaymentFailed
  | chargeRefunded => handleChargeRefunded

/-- A handler run without interruption: its reads, its transaction, its audit entry. -/
def WebhookHandler.run (h : WebhookHandler) (object : JsValue) (env : Env) (db : Db) :
    Except Err Db := do
  let commit ← h.reads object db
  let (db, entry) ← commit env db
  return entry.elim db (AuditService.log env · db)

/-- `event.data?.object || event.data || {}` -/
def eventObject (event : PaymentWebhookEvent) : JsValue :=
  (event.data.get "object").or (event.data.or (.obj []))

/-- The handler that an event is dispatched to and the value it is called with. -/
def dispatchTarget (event : PaymentWebhookEvent) : Option (WebhookHandler × JsValue) :=
  (handlerFor event.type).map fun h ↦ (h, eventObject event)

def dispatchReads (event : PaymentWebhookEvent) (db : Db) : Except Err Commit :=
  match dispatchTarget event with
  | some (h, object) => h.reads object db
  | none => .ok noCommit

def dispatchWebhookEvent (env : Env) (event : PaymentWebhookEvent) (db : Db) : Except Err Db :=
  match dispatchTarget event with
  | some (h, object) => h.run object env db
  | none => .ok db

structure WebhookReply where
  received : Bool
  deduplicated : Bool
  deriving DecidableEq, Repr

def findWebhookEvent (providerEventId : String) (db : Db) : Option StripeWebhookEvent :=
  db.stripeWebhookEvents.find? fun e ↦
    e.provider == "stripe" && e.providerEventId == providerEventId

def createWebhookEvent (env : Env) (event : PaymentWebhookEvent) (db : Db) : Except Err Db :=
  insert stripeWebhookEventTable
    { id := env.eventRowId
      provider := "stripe"
      providerEventId := event.id
      eventType := event.type
      processingStatus := .pending
      processedAt := none
      failureReason := none
      payload := event.toJson } db

def asProcessed (env : Env) (e : StripeWebhookEvent) : StripeWebhookEvent :=
  { e with
    processingStatus := .processed
    processedAt := some env.now
    failureReason := none }

def asFailed (err : Err) (e : StripeWebhookEvent) : StripeWebhookEvent :=
  { e with
    processingStatus := .failed
    failureReason := some err }

def markProcessed (env : Env) (recordId : String) (db : Db) : Except Err Db :=
  modify stripeWebhookEventTable recordId (asProcessed env) db

def markFailed (err : Err) (recordId : String) (db : Db) : Except Err Db :=
  modify stripeWebhookEventTable recordId (asFailed err) db

/-- The `catch` block: record the failure and throw it again. -/
def failDelivery (err : Err) (recordId : String) (db : Db) : Except Err WebhookReply × Db :=
  match markFailed err recordId db with
  | .ok db' => (.error err, db')
  | .error err' => (.error err', db)

/-- The `try` block, which also ends in the `catch` block when it throws. -/
def processRecord (env : Env) (event : PaymentWebhookEvent) (recordId : String) (db : Db) :
    Except Err WebhookReply × Db :=
  match dispatchWebhookEvent env event db with
  | .error err => failDelivery err recordId db
  | .ok db' =>
    match markProcessed env recordId db' with
    | .error err => failDelivery err recordId db'
    | .ok db'' => (.ok ⟨true, false⟩, db'')

/-- `handleWebhook` from the verified event on. -/
def handleVerified (env : Env) (event : PaymentWebhookEvent) (db : Db) :
    Except Err WebhookReply × Db :=
  match findWebhookEvent event.id db with
  | some existing =>
    if existing.processingStatus = .processed then (.ok ⟨true, true⟩, db)
    else processRecord env event existing.id db
  | none =>
    match createWebhookEvent env event db with
    | .error err => (.error err, db)
    | .ok db' => processRecord env event env.eventRowId db'

def handleWebhook (p : StripePaymentProvider) (env : Env) (rawBody signature : String) (db : Db) :
    Except Err WebhookReply × Db :=
  match p.verifyWebhookSignature env.now rawBody signature with
  | .error (.badRequest message) =>
    (.error (.badRequest (.text "Invalid Stripe webhook signature: " :: message)), db)
  | .error err => (.error err, db)
  | .ok event => handleVerified env event db

/-- Where a delivery of an event stands between two of its statements. -/
inductive Delivery
  | received (event : PaymentWebhookEvent)
  | unrecorded (event : PaymentWebhookEvent)
  | recorded (event : PaymentWebhookEvent) (recordId : String)
  | planned (event : PaymentWebhookEvent) (recordId : String) (commit : Commit)
  | logging (event : PaymentWebhookEvent) (recordId : String) (entry : CreateAuditLogParams)
  | handled (event : PaymentWebhookEvent) (recordId : String)
  | failing (event : PaymentWebhookEvent) (recordId : String) (err : Err)
  | returned (result : Except Err WebhookReply)

/-- The next statement of a delivery. -/
def Delivery.step (env : Env) (db : Db) : Delivery → Option (Db × Delivery)
  | received event =>
    match findWebhookEvent event.id db with
    | some existing =>
      if existing.processingStatus = .processed then some (db, returned (.ok ⟨true, true⟩))
      else some (db, recorded event existing.id)
    | none => some (db, unrecorded event)
  | unrecorded event =>
    match createWebhookEvent env event db with
    | .ok db' => some (db', recorded event env.eventRowId)
    | .error err => some (db, returned (.error err))
  | recorded event recordId =>
    match dispatchReads event db with
    | .ok commit => some (db, planned event recordId commit)
    | .error err => some (db, failing event recordId err)
  | planned event recordId commit =>
    match commit env db with
    | .ok (db', some entry) => some (db', logging event recordId entry)
    | .ok (db', none) => some (db', handled event recordId)
    | .error err => some (db, failing event recordId err)
  | logging event recordId entry => some (AuditService.log env entry db, handled event recordId)
  | handled event recordId =>
    match markProcessed env recordId db with
    | .ok db' => some (db', returned (.ok ⟨true, false⟩))
    | .error err => some (db, failing event recordId err)
  | failing _ recordId err =>
    match markFailed err recordId db with
    | .ok db' => some (db', returned (.error err))
    | .error err' => some (db, returned (.error err'))
  | returned _ => none

/-- What one statement of a delivery can do. -/
inductive Delivery.Next (env : Env) (db : Db) : Delivery → Db → Delivery → Prop
  | skip {event : PaymentWebhookEvent} {row : StripeWebhookEvent} :
      findWebhookEvent event.id db = some row → row.processingStatus = .processed →
      Next env db (received event) db (returned (.ok ⟨true, true⟩))
  | resume {event : PaymentWebhookEvent} {row : StripeWebhookEvent} :
      findWebhookEvent event.id db = some row → row.processingStatus ≠ .processed →
      Next env db (received event) db (recorded event row.id)
  | miss {event : PaymentWebhookEvent} : findWebhookEvent event.id db = none →
      Next env db (received event) db (unrecorded event)
  | record {event : PaymentWebhookEvent} {db' : Db} :
      createWebhookEvent env event db = .ok db' →
      Next env db (unrecorded event) db' (recorded event env.eventRowId)
  | refuse {event : PaymentWebhookEvent} {err : Err} :
      createWebhookEvent env event db = .error err →
      Next env db (unrecorded event) db (returned (.error err))
  | plan {event : PaymentWebhookEvent} {recordId : String} {commit : Commit} :
      dispatchReads event db = .ok commit →
      Next env db (recorded event recordId) db (planned event recordId commit)
  | unread {event : PaymentWebhookEvent} {recordId : String} {err : Err} :
      dispatchReads event db = .error err →
      Next env db (recorded event recordId) db (failing event recordId err)
  | commit {event : PaymentWebhookEvent} {recordId : String} {commit : Commit} {db' : Db} :
      commit env db = .ok (db', none) →
      Next env db (planned event recordId commit) db' (handled event recordId)
  | announce {event : PaymentWebhookEvent} {recordId : String} {commit : Commit} {db' : Db}
      {entry : CreateAuditLogParams} : commit env db = .ok (db', some entry) →
      Next env db (planned event recordId commit) db' (logging event recordId entry)
  | abort {event : PaymentWebhookEvent} {recordId : String} {commit : Commit} {err : Err} :
      commit env db = .error err →
      Next env db (planned event recordId commit) db (failing event recordId err)
  | log {event : PaymentWebhookEvent} {recordId : String} {entry : CreateAuditLogParams} :
      Next env db (logging event recordId entry) (AuditService.log env entry db)
        (handled event recordId)
  | finish {event : PaymentWebhookEvent} {recordId : String} {db' : Db} :
      markProcessed env recordId db = .ok db' →
      Next env db (handled event recordId) db' (returned (.ok ⟨true, false⟩))
  | unfinished {event : PaymentWebhookEvent} {recordId : String} {err : Err} :
      markProcessed env recordId db = .error err →
      Next env db (handled event recordId) db (failing event recordId err)
  | fail {event : PaymentWebhookEvent} {recordId : String} {err : Err} {db' : Db} :
      markFailed err recordId db = .ok db' →
      Next env db (failing event recordId err) db' (returned (.error err))
  | lost {event : PaymentWebhookEvent} {recordId : String} {err err' : Err} :
      markFailed err recordId db = .error err' →
      Next env db (failing event recordId err) db (returned (.error err'))

theorem Delivery.next_of_step {env : Env} {db db' : Db} {t t' : Delivery}
    (h : t.step env db = some (db', t')) : Next env db t db' t' := by
  cases t with
  | received event =>
    simp only [step] at h
    split at h
    · split_ifs at h with hp
      · cases h; exact .skip ‹_› hp
      · cases h; exact .resume ‹_› hp
    · cases h; exact .miss ‹_›
  | unrecorded event =>
    simp only [step] at h
    split at h
    · cases h; exact .record ‹_›
    · cases h; exact .refuse ‹_›
  | recorded event recordId =>
    simp only [step] at h
    split at h
    · cases h; exact .plan ‹_›
    · cases h; exact .unread ‹_›
  | planned event recordId commit =>
    simp only [step] at h
    split at h
    · cases h; exact .announce ‹_›
    · cases h; exact .commit ‹_›
    · cases h; exact .abort ‹_›
  | logging event recordId entry => cases h; exact .log
  | handled event recordId =>
    simp only [step] at h
    split at h
    · cases h; exact .finish ‹_›
    · cases h; exact .unfinished ‹_›
  | failing event recordId err =>
    simp only [step] at h
    split at h
    · cases h; exact .fail ‹_›
    · cases h; exact .lost ‹_›
  | returned result => cases h

end StripeWebhookService

end Innovents.Payments
