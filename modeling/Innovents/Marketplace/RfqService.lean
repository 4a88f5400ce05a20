import Innovents.Marketplace.Schema
import Mathlib.Data.List.Sort

namespace Innovents.Marketplace

open Innovents.Lib Innovents.Auth
open Innovents.Payments (Time Money)

structure RfqQueryDto where
  status : Option RfqStatus
  vendorId : Option String
  sponsorId : Option String
  eventId : Option String
  page : Option ℤ
  limit : Option ℤ
  sortBy : Option String
  sortOrder : Option String

structure RfqListItemDto where
  id : String
  sponsorId : String
  vendorId : String
  eventId : Option String
  title : String
  status : RfqStatus
  expiresAt : Time
  sentAt : Option Time
  viewedAt : Option Time
  acceptedAt : Option Time
  rejectedAt : Option Time
  cancelledAt : Option Time
  itemCount : ℕ
  createdAt : Time
  updatedAt : Time

structure PaginatedRfqsDto where
  items : List RfqListItemDto
  total : ℕ
  page : ℤ
  limit : ℤ
  totalPages : ℕ

/-- All columns of the row, the number of its items and its clarifications. -/
structure RfqDetailsResponseDto where
  rfq : Rfq
  itemCount : ℕ
  clarifications : List RfqClarification

/-- The statuses in which an RFQ runs out of time. -/
def RfqStatus.canExpire (status : RfqStatus) : Bool :=
  status ∈ [RfqStatus.draft, .sent, .viewed, .clarificationRequested]

/-- `['ACCEPTED', 'REJECTED', 'CANCELLED', 'EXPIRED'].includes(status)` -/
def RfqStatus.terminal (status : RfqStatus) : Bool :=
  status ∈ [RfqStatus.accepted, .rejected, .cancelled, .expired]

def clarificationsOf (rfqId : String) (db : MarketDb) : List RfqClarification :=
  db.rfqClarifications.rows.filter (·.rfqId == rfqId)

/-- `orderBy: { createdAt: 'asc' }` -/
def clarificationsByAge (rfqId : String) (db : MarketDb) : List RfqClarification :=
  (clarificationsOf rfqId db).insertionSort fun a b ↦ a.createdAt ≤ b.createdAt

def findRfq (rfqId : String) : MarketCall (Option Rfq × Time) :=
  finds "rfq.findUnique" fun env db ↦ (db.rfqs.get? rfqId, env.now)

/-- `rfq.update`, which returns the new row. -/
def updateRfq (rfqId : String) (f : Rfq → Rfq) (env : AuthEnv) (db : MarketDb) :
    Except AuthError (MarketDb × Rfq) := do
  let rfqs ← ofRefusal (db.rfqs.update rfqId fun rfq ↦ { f rfq with updatedAt := env.now })
  match rfqs.get? rfqId with
  | some rfq => return ({ db with rfqs }, rfq)
  | none => .error (.prisma .recordNotFound)

/-- `quotation.updateMany` of those of the RFQ that are pending. -/
def updatePending (rfqId : String) (f : Quotation → Quotation) (env : AuthEnv) (db : MarketDb) :
    Except AuthError MarketDb := do
  let quotations ← ofRefusal (db.quotations.updateMany
    (fun q ↦ q.rfqId == rfqId && q.status == .pending) fun q ↦ { f q with updatedAt := env.now })
  return { db with quotations }

namespace RfqService

def mapToDetailsResponse (rfq : Rfq) (clarifications : List RfqClarification) :
    RfqDetailsResponseDto :=
  ⟨rfq, rfq.items.length, clarifications⟩

/-- The transaction of a draft that is sent. -/
def sending (sponsorId rfqId : String) (env : AuthEnv) (db : MarketDb) :
    Except AuthError (MarketDb × Rfq × List RfqClarification) := do
  let (db, result) ← updateRfq rfqId (fun rfq ↦
    { rfq with
      status := .sent
      sentAt := some env.now }) env db
  let db ← enqueued
    { eventType := "RFQ_SENT"
      aggregateType := "rfq"
      aggregateId := rfqId
      payload := [("rfqId", .str rfqId), ("sponsorId", .str sponsorId),
        ("vendorId", .str result.vendorId), ("title", .str result.title),
        ("expiresAt", .date result.expiresAt)] } env db
  return (db, result, clarificationsOf rfqId db)

def sendRfq (sponsorId rfqId : String) (client : Client) : MarketCall RfqDetailsResponseDto := do
  assertActiveUser sponsorId (some "SPONSOR")
  let (rfq, now) ← findRfq rfqId
  match rfq with
  | none => throws .notFound "RFQ not found"
  | some rfq =>
    if rfq.sponsorId ≠ sponsorId then
      throws .forbidden "You do not have permission to send this RFQ"
    else if rfq.status ≠ .draft then
      throws .badRequest s!"Cannot send RFQ in {rfq.status.text} state. Only DRAFT RFQs can be sent."
    else if rfq.expiresAt ≤ now then
      throws .badRequest "RFQ expiration date has already passed. Please update expiration date."
    else do
      let (updated, clarifications) ← stores "$transaction" (sending sponsorId rfqId)
      addCleanupJob fun env ↦
        ⟨"expire-rfq", rfqId, max 0 (updated.expiresAt - env.now), "rfq-expiration:" ++ rfqId⟩
      log
        { actorUserId := some sponsorId
          action := "RFQ_SENT"
          resourceType := "rfq"
          resourceId := some rfqId
          metadata := [("vendorId", .str updated.vendorId), ("title", .str updated.title)] } client
      return mapToDetailsResponse updated clarifications

/-- The RFQs of the caller, as sponsor or as vendor, that pass the filters. -/
def myRfqs (userId : String) (query : RfqQueryDto) (rfq : Rfq) : Bool :=
  (rfq.sponsorId == userId || rfq.vendorId == userId) &&
    query.status.all (rfq.status == ·) &&
    (query.vendorId.filter (· ≠ "")).all (rfq.vendorId == ·) &&
    (query.sponsorId.filter (· ≠ "")).all (rfq.sponsorId == ·) &&
    (query.eventId.filter (· ≠ "")).all (rfq.eventId == some ·)

/-- The position of a status in its enumeration. -/
def statusRank : RfqStatus → ℤ
  | .draft => 0
  | .sent => 1
  | .viewed => 2
  | .clarificationRequested => 3
  | .quoted => 4
  | .accepted => 5
  | .rejected => 6
  | .expired => 7
  | .cancelled => 8

def sortKey (sortBy : String) (rfq : Rfq) : ℤ :=
  if sortBy = "expiresAt" then rfq.expiresAt
  else if sortBy = "status" then statusRank rfq.status
  else rfq.createdAt

def sortRfqs (query : RfqQueryDto) (rfqs : List Rfq) : List Rfq :=
  let key := sortKey (query.sortBy.getD "createdAt")
  if query.sortOrder.getD "desc" = "asc" then rfqs.insertionSort fun a b ↦ key a ≤ key b
  else rfqs.insertionSort fun a b ↦ key b ≤ key a

/-- An RFQ that has run out of time is shown as expired. -/
def listItem (now : Time) (rfq : Rfq) : RfqListItemDto where
  id := rfq.id
  sponsorId := rfq.sponsorId
  vendorId := rfq.vendorId
  eventId := rfq.eventId
  title := rfq.title
  status := if rfq.status.canExpire && rfq.expiresAt ≤ now then .expired else rfq.status
  expiresAt := rfq.expiresAt
  sentAt := rfq.sentAt
  viewedAt := rfq.viewedAt
  acceptedAt := rfq.acceptedAt
  rejectedAt := rfq.rejectedAt
  cancelledAt := rfq.cancelledAt
  itemCount := rfq.items.length
  createdAt := rfq.createdAt
  updatedAt := rfq.updatedAt

/-- `Math.ceil(total / limit) || 1` -/
def totalPages (total limit : ℕ) : ℕ :=
  if total = 0 then 1 else (total + limit - 1) / limit

def getMyRfqs (userId : String) (query : RfqQueryDto) : MarketCall PaginatedRfqsDto := do
  assertActiveUser userId none
  let page := query.page.getD 1
  let boundedLimit := min (max 1 (query.limit.getD 20)) 100
  let skip := (max 1 page - 1) * boundedLimit
  let (rfqs, now) ← finds "rfq.findMany" fun env db ↦
    (((sortRfqs query (db.rfqs.rows.filter (myRfqs userId query))).drop skip.toNat).take
      boundedLimit.toNat, env.now)
  let total ← finds "rfq.count" fun _ db ↦ db.rfqs.rows.countP (myRfqs userId query)
  return ⟨rfqs.map (listItem now), total, page, boundedLimit, totalPages total boundedLimit.toNat⟩

/-- `rfq.update` outside of a transaction. -/
def setRfq (rfqId : String) (f : Time → Rfq → Rfq) : MarketCall Time :=
  stores "rfq.update" fun env db ↦ do
    let (db, _) ← updateRfq rfqId (f env.now) env db
    return (db, env.now)

def partiesEvent (eventType : String) (rfq : Rfq) : CreateOutboxEventParams where
  eventType
  aggregateType := "rfq"
  aggregateId := rfq.id
  payload := [("rfqId", .str rfq.id), ("sponsorId", .str rfq.sponsorId),
    ("vendorId", .str rfq.vendorId)]

/-- Reading an RFQ expires it in time, and marks it as viewed for its vendor. -/
def getRfqById (userId rfqId : String) (client : Client) : MarketCall RfqDetailsResponseDto := do
  assertActiveUser userId none
  let (rfq, clarifications, now) ← finds "rfq.findUnique" fun env db ↦
    (db.rfqs.get? rfqId, clarificationsByAge rfqId db, env.now)
  match rfq with
  | none => throws .notFound "RFQ not found"
  | some rfq =>
    if rfq.sponsorId ≠ userId ∧ rfq.vendorId ≠ userId then
      throws .forbidden "You do not have permission to view this RFQ"
    else if rfq.expiresAt ≤ now ∧ rfq.status.canExpire then do
      let _ ← setRfq rfqId fun _ rfq ↦ { rfq with status := .expired }
      enqueue (partiesEvent "RFQ_EXPIRED" rfq)
      return mapToDetailsResponse { rfq with status := .expired } clarifications
    else if userId = rfq.vendorId ∧ rfq.status = .sent then do
      let viewedAt ← setRfq rfqId fun now rfq ↦
        { rfq with
          status := .viewed
          viewedAt := some now }
      enqueue (partiesEvent "RFQ_VIEWED" rfq)
      log
        { actorUserId := some userId
          action := "RFQ_VIEWED"
          resourceType := "rfq"
          resourceId := some rfqId
          metadata := [] } client
      return mapToDetailsResponse
        { rfq with
          status := .viewed
          viewedAt := some viewedAt } clarifications
    else return mapToDetailsResponse rfq clarifications

/-- A message of the vendor moves an RFQ that it has not answered. -/
def requested (rfq : Rfq) (userId : String) (env : AuthEnv) (db : MarketDb) :
    Except AuthError MarketDb :=
  if userId = rfq.vendorId ∧ (rfq.status = .sent ∨ rfq.status = .viewed) then do
    let (db, _) ← updateRfq rfq.id (fun rfq ↦ { rfq with status := .clarificationRequested }) env db
    return db
  else .ok db

/-- The transaction of a message. -/
def clarification (rfq : Rfq) (userId recipientId message : String) (env : AuthEnv)
    (db : MarketDb) : Except AuthError (MarketDb × Option Rfq × List RfqClarification) := do
  let rfqClarifications ← ofRefusal (db.rfqClarifications.create
    { id := env.idFor db.rfqClarifications
      rfqId := rfq.id
      senderId := userId
      message
      createdAt := env.now })
  let db ← requested rfq userId env { db with rfqClarifications }
  let db ← enqueued
    { eventType := "RFQ_CLARIFICATION_REQUESTED"
      aggregateType := "rfq"
      aggregateId := rfq.id
      payload := [("rfqId", .str rfq.id), ("senderId", .str userId),
        ("recipientId", .str recipientId), ("message", .str message)] } env db
  return (db, db.rfqs.get? rfq.id, clarificationsByAge rfq.id db)

def requestClarification (userId rfqId message : String) (client : Client) :
    MarketCall RfqDetailsResponseDto := do
  assertActiveUser userId none
  let (rfq, now) ← findRfq rfqId
  match rfq with
  | none => throws .notFound "RFQ not found"
  | some rfq =>
    if rfq.sponsorId ≠ userId ∧ rfq.vendorId ≠ userId then
      throws .forbidden "You do not have permission to comment on this RFQ"
    else if rfq.status.terminal then
      throws .badRequest s!"Cannot request clarification on an RFQ in {rfq.status.text} status"
    else if rfq.expiresAt ≤ now then
      throws .badRequest "Cannot request clarification on an expired RFQ"
    else do
      let recipientId := if userId = rfq.vendorId then rfq.sponsorId else rfq.vendorId
      let (updated, clarifications) ← stores "$transaction"
        (clarification rfq userId recipientId message)
      log
        { actorUserId := some userId
          action := "RFQ_CLARIFICATION_REQUESTED"
          resourceType := "rfq"
          resourceId := some rfqId
          metadata := [("recipientId", .str recipientId),
            ("messageSnippet", .str (message.take 100).toString)] } client
      match updated with
      | some updated => return mapToDetailsResponse updated clarifications
      | none => .returned (.error (.fault "Cannot read properties of null (reading 'id')"))

/-- The transaction that cancels an RFQ and rejects its pending quotations. -/
def cancellation (sponsorId rfqId : String) (reason : Option String) (env : AuthEnv)
    (db : MarketDb) : Except AuthError (MarketDb × Rfq × List RfqClarification) := do
  let (db, res) ← updateRfq rfqId (fun rfq ↦
    { rfq with
      status := .cancelled
      cancelledAt := some env.now
      cancellationReason := reason.filter (· ≠ "") }) env db
  let db ← updatePending rfqId (fun q ↦
    { q with
      status := .rejected
      rejectedAt := some env.now
      rejectionReason := some "RFQ was cancelled by sponsor" }) env db
  let db ← enqueued
    { eventType := "RFQ_CANCELLED"
      aggregateType := "rfq"
      aggregateId := rfqId
      payload := [("rfqId", .str rfqId), ("sponsorId", .str sponsorId),
        ("vendorId", .str res.vendorId), ("reason", textOrNull reason)] } env db
  return (db, res, clarificationsOf rfqId db)

/-- The transaction that rejects an RFQ; its quotations stay as they are. -/
def rejection (vendorId rfqId : String) (reason : Option String) (env : AuthEnv)
    (db : MarketDb) : Except AuthError (MarketDb × Rfq × List RfqClarification) := do
  let (db, res) ← updateRfq rfqId (fun rfq ↦
    { rfq with
      status := .rejected
      rejectedAt := some env.now
      rejectionReason := reason.filter (· ≠ "") }) env db
  let db ← enqueued
    { eventType := "RFQ_REJECTED"
      aggregateType := "rfq"
      aggregateId := rfqId
      payload := [("rfqId", .str rfqId), ("sponsorId", .str res.sponsorId),
        ("vendorId", .str vendorId), ("reason", textOrNull reason)] } env db
  return (db, res, clarificationsOf rfqId db)

def cancelRfq (sponsorId rfqId : String) (reason : Option String) (client : Client) :
    MarketCall RfqDetailsResponseDto := do
  assertActiveUser sponsorId (some "SPONSOR")
  let (rfq, _) ← findRfq rfqId
  match rfq with
  | none => throws .notFound "RFQ not found"
  | some rfq =>
    if rfq.sponsorId ≠ sponsorId then
      throws .forbidden "Only the creating sponsor can cancel this RFQ"
    else if rfq.status.terminal then
      throws .badRequest s!"Cannot cancel RFQ in terminal status {rfq.status.text}"
    else do
      let (updated, clarifications) ← stores "$transaction" (cancellation sponsorId rfqId reason)
      log
        { actorUserId := some sponsorId
          action := "RFQ_CANCELLED"
          resourceType := "rfq"
          resourceId := some rfqId
          metadata := [("reason", textOrUndefined reason)] } client
      return mapToDetailsResponse updated clarifications

def rejectRfq (vendorId rfqId : String) (reason : Option String) (client : Client) :
    MarketCall RfqDetailsResponseDto := do
  assertActiveUser vendorId (some "VENDOR")
  let (rfq, _) ← findRfq rfqId
  match rfq with
  | none => throws .notFound "RFQ not found"
  | some rfq =>
    if rfq.vendorId ≠ vendorId then
      throws .forbidden "Only the recipient vendor can reject this RFQ"
    else if rfq.status.terminal then
      throws .badRequest s!"Cannot reject RFQ in terminal status {rfq.status.text}"
    else do
      let (updated, clarifications) ← stores "$transaction" (rejection vendorId rfqId reason)
      log
        { actorUserId := some vendorId
          action := "RFQ_REJECTED"
          resourceType := "rfq"
          resourceId := some rfqId
          metadata := [("reason", textOrUndefined reason)] } client
      return mapToDetailsResponse updated clarifications

end RfqService

end Innovents.Marketplace
