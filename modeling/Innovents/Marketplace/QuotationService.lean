import Innovents.Lib.Decimal
import Innovents.Marketplace.RfqService

namespace Innovents.Marketplace

open Innovents.Lib Innovents.Auth
open Innovents.Payments (Time Money)

structure CreateQuotationItemDto where
  rfqItemId : Option String
  description : String
  quantity : ℤ
  unitPrice : ℚ
  notes : Option String

/-- `validUntil` is absent where the text is no date. -/
structure CreateQuotationDto where
  rfqId : String
  validUntil : Option Time
  currency : Option String
  tax : Option ℚ
  discount : Option ℚ
  notes : Option String
  items : List CreateQuotationItemDto

structure QuotationListItemDto where
  id : String
  rfqId : String
  vendorId : String
  version : ℕ
  status : QuotationStatus
  subtotal : ℚ
  tax : ℚ
  discount : ℚ
  total : ℚ
  currency : String
  validUntil : Time
  acceptedAt : Option Time
  rejectedAt : Option Time
  rejectionReason : Option String
  createdAt : Time
  updatedAt : Time

structure QuotationDetailsResponseDto extends QuotationListItemDto where
  notes : Option String
  items : List QuotationItem

structure PaginatedQuotationsDto where
  items : List QuotationListItemDto
  total : ℕ
  page : ℤ
  limit : ℤ
  totalPages : ℕ

namespace QuotationService

def mapToListItem (q : Quotation) : QuotationListItemDto where
  id := q.id
  rfqId := q.rfqId
  vendorId := q.vendorId
  version := q.version
  status := q.status
  subtotal := q.subtotal.toNumber
  tax := q.tax.toNumber
  discount := q.discount.toNumber
  total := q.total.toNumber
  currency := q.currency
  validUntil := q.validUntil
  acceptedAt := q.acceptedAt
  rejectedAt := q.rejectedAt
  rejectionReason := q.rejectionReason
  createdAt := q.createdAt
  updatedAt := q.updatedAt

def mapToDetailsResponse (q : Quotation) : QuotationDetailsResponseDto :=
  { mapToListItem q with
    notes := q.notes
    items := q.items }

/-- What an operation on `Prisma.Decimal` keeps of its result. -/
def decimal (x : ℚ) : ℚ := Decimal.rounded 20 x

/-- A line with its amounts, before its columns round them. -/
structure CalculatedItem where
  rfqItemId : Option String
  description : String
  quantity : ℤ
  unitPrice : ℚ
  total : ℚ
  notes : Option String

structure Calculation where
  items : List CalculatedItem
  subtotal : ℚ
  tax : ℚ
  discount : ℚ
  total : ℚ

def calculateItem (item : CreateQuotationItemDto) : Except AuthError CalculatedItem :=
  if item.quantity ≤ 0 then refuse .badRequest "Item quantity must be greater than zero"
  else if item.unitPrice < 0 then refuse .badRequest "Item unit price cannot be negative"
  else return ⟨item.rfqItemId.filter (· ≠ ""), item.description, item.quantity, item.unitPrice,
    decimal (item.unitPrice * item.quantity), item.notes.filter (· ≠ "")⟩

/-- `calculatedSubtotal = calculatedSubtotal.add(itemTotalDec)`, line by line. -/
def addTotals (items : List CalculatedItem) : ℚ :=
  items.foldl (fun subtotal item ↦ decimal (subtotal + item.total)) 0

/-- The amounts of a quotation, computed from its lines. -/
def calculate (dto : CreateQuotationDto) : Except AuthError Calculation := do
  let items ← dto.items.mapM calculateItem
  let subtotal := addTotals items
  let tax := dto.tax.getD 0
  let discount := dto.discount.getD 0
  let total := decimal (decimal (subtotal + tax) - discount)
  if tax < 0 then refuse .badRequest "Tax cannot be negative"
  else if discount < 0 then refuse .badRequest "Discount cannot be negative"
  else if total < 0 then
    refuse .badRequest "Quotation total cannot be negative after discounts"
  else return ⟨items, subtotal, tax, discount, total⟩

/-- The quantity goes into a column of 32 bits. -/
def storedItem (item : CalculatedItem) : Except AuthError QuotationItem :=
  if item.quantity < 2 ^ 31 then do
    let unitPrice ← moneyOf item.unitPrice
    let total ← moneyOf item.total
    return ⟨item.rfqItemId, item.description, item.quantity, unitPrice, total, item.notes⟩
  else .error (.fault "Unable to fit integer value into an INT4 (32-bit signed integer).")

/-- `aggregate({ where: { rfqId }, _max: { version: true } })._max.version || 0` -/
def maxVersion (rfqId : String) (t : Table Quotation) : ℕ :=
  ((t.rows.filter (·.rfqId == rfqId)).map Quotation.version).foldr max 0

def superseded (q : Quotation) : Quotation := { q with status := .superseded }

def newQuotation (vendorId : String) (dto : CreateQuotationDto) (calculation : Calculation)
    (validUntil : Time) (version : ℕ) (env : AuthEnv) (t : Table Quotation) :
    Except AuthError Quotation := do
  let subtotal ← moneyOf calculation.subtotal
  let tax ← moneyOf calculation.tax
  let discount ← moneyOf calculation.discount
  let total ← moneyOf calculation.total
  let items ← calculation.items.mapM storedItem
  return {
    id := env.idFor t
    rfqId := dto.rfqId
    vendorId
    version
    status := .pending
    subtotal
    tax
    discount
    total
    currency := (dto.currency.filter (· ≠ "")).getD "SAR"
    validUntil
    notes := dto.notes.filter (· ≠ "")
    acceptedAt := none
    rejectedAt := none
    rejectionReason := none
    createdAt := env.now
    updatedAt := env.now
    items }

/-- The first quotation has none to supersede. -/
def supersedePending (rfqId : String) (nextVersion : ℕ) (env : AuthEnv) (db : MarketDb) :
    Except AuthError MarketDb :=
  if 1 < nextVersion then updatePending rfqId superseded env db else .ok db

/-- The transaction of a new quotation: the pending one before it is superseded, and the RFQ is
quoted. -/
def quoting (vendorId : String) (rfq : Rfq) (dto : CreateQuotationDto) (calculation : Calculation)
    (validUntil : Time) (env : AuthEnv) (db : MarketDb) :
    Except AuthError (MarketDb × Quotation) := do
  let nextVersion := maxVersion dto.rfqId db.quotations + 1
  let db ← supersedePending dto.rfqId nextVersion env db
  let quotation ← newQuotation vendorId dto calculation validUntil nextVersion env db.quotations
  let quotations ← ofRefusal (db.quotations.create quotation)
  let (db, _) ← updateRfq dto.rfqId (fun rfq ↦ { rfq with status := .quoted }) env
    { db with quotations }
  let db ← enqueued
    { eventType := "RFQ_QUOTED"
      aggregateType := "quotation"
      aggregateId := quotation.id
      payload := [("quotationId", .str quotation.id), ("rfqId", .str dto.rfqId),
        ("vendorId", .str vendorId), ("sponsorId", .str rfq.sponsorId),
        ("version", .num nextVersion), ("total", .num quotation.total.toNumber),
        ("currency", .str quotation.currency), ("validUntil", .date quotation.validUntil)] } env db
  return (db, quotation)

/-- The statuses of an RFQ that can be quoted. -/
def eligible (status : RfqStatus) : Bool :=
  status ∈ [RfqStatus.sent, .viewed, .clarificationRequested, .quoted]

def createQuotation (vendorId : String) (dto : CreateQuotationDto) (client : Client) :
    MarketCall QuotationDetailsResponseDto := do
  assertActiveUser vendorId (some "VENDOR")
  let (rfq, now) ← findRfq dto.rfqId
  match rfq with
  | none => throws .notFound "RFQ not found"
  | some rfq =>
    if rfq.vendorId ≠ vendorId then
      throws .forbidden "You do not have permission to submit quotations for this RFQ"
    else if ¬eligible rfq.status then
      throws .badRequest s!"Cannot submit quotation for RFQ in status {rfq.status.text}"
    else if rfq.expiresAt ≤ now then
      throws .badRequest "RFQ has expired. Quotations can no longer be submitted."
    else
      match dto.validUntil.filter (now < ·) with
      | none => throws .badRequest "Quotation validity timestamp must be in the future"
      | some validUntil =>
        if dto.items = [] then throws .badRequest "Quotation must contain at least one item"
        else do
          let calculation ← (.returned (calculate dto) : MarketCall Calculation)
          let created ← stores "$transaction" (quoting vendorId rfq dto calculation validUntil)
          log
            { actorUserId := some vendorId
              action := "QUOTATION_CREATED"
              resourceType := "quotation"
              resourceId := some created.id
              metadata := [("rfqId", .str dto.rfqId), ("version", .num created.version),
                ("total", .num created.total.toNumber), ("currency", .str created.currency)] } client
          return mapToDetailsResponse created

/-- `quotation.update`, which returns the new row. -/
def updateQuotation (quotationId : String) (f : Quotation → Quotation) (env : AuthEnv)
    (db : MarketDb) : Except AuthError (MarketDb × Quotation) := do
  let quotations ← ofRefusal (db.quotations.update quotationId fun q ↦
    { f q with updatedAt := env.now })
  match quotations.get? quotationId with
  | some quotation => return ({ db with quotations }, quotation)
  | none => .error (.prisma .recordNotFound)

/-- A quotation with its RFQ. -/
def quotationWithRfq (quotationId : String) (db : MarketDb) : Option (Quotation × Rfq) := do
  let quotation ← db.quotations.get? quotationId
  let rfq ← db.rfqs.get? quotation.rfqId
  return (quotation, rfq)

/-- One transaction: the RFQ is accepted unless it already is, then the quotation, and the other
pending ones are superseded. -/
def acceptance (sponsorId quotationId : String) (env : AuthEnv) (db : MarketDb) :
    Except AuthError (MarketDb × Quotation) :=
  match quotationWithRfq quotationId db with
  | none => refuse .notFound "Quotation not found"
  | some (quotation, rfq) =>
    if rfq.sponsorId ≠ sponsorId then
      refuse .forbidden "Only the creating sponsor can accept this quotation"
    else if quotation.status ≠ .pending then
      refuse .badRequest s!"Cannot accept quotation in {quotation.status.text} status. Only PENDING quotations can be accepted."
    else if quotation.validUntil ≤ env.now then
      refuse .badRequest "Quotation validity period has expired"
    else do
      let open_ (r : Rfq) : Bool := r.id == quotation.rfqId && r.status != .accepted
      let rfqs ← ofRefusal (db.rfqs.updateMany open_ fun r ↦
        { r with
          status := .accepted
          acceptedAt := some env.now
          updatedAt := env.now })
      if db.rfqs.rows.countP open_ = 0 then
        refuse .conflict "This RFQ has already been accepted or is no longer eligible for acceptance"
      else do
        let (db, updated) ← updateQuotation quotationId (fun q ↦
          { q with
            status := .accepted
            acceptedAt := some env.now }) env { db with rfqs }
        let quotations ← ofRefusal (db.quotations.updateMany
          (fun q ↦ q.rfqId == quotation.rfqId && q.id != quotationId && q.status == .pending)
          fun q ↦ { superseded q with updatedAt := env.now })
        let db ← enqueued
          { eventType := "RFQ_ACCEPTED"
            aggregateType := "quotation"
            aggregateId := quotationId
            payload := [("quotationId", .str quotationId), ("rfqId", .str quotation.rfqId),
              ("sponsorId", .str sponsorId), ("vendorId", .str quotation.vendorId),
              ("total", .num updated.total.toNumber), ("currency", .str updated.currency)] } env
          { db with quotations }
        return (db, updated)

def acceptQuotation (sponsorId quotationId : String) (client : Client) :
    MarketCall QuotationDetailsResponseDto := do
  assertActiveUser sponsorId (some "SPONSOR")
  let accepted ← stores "$transaction" (acceptance sponsorId quotationId)
  log
    { actorUserId := some sponsorId
      action := "QUOTATION_ACCEPTED"
      resourceType := "quotation"
      resourceId := some quotationId
      metadata := [("rfqId", .str accepted.rfqId), ("version", .num accepted.version),
        ("total", .num accepted.total.toNumber)] } client
  return mapToDetailsResponse accepted

/-- The transaction of a quotation that is rejected. -/
def rejection (sponsorId quotationId : String) (quotation : Quotation) (reason : Option String)
    (env : AuthEnv) (db : MarketDb) : Except AuthError (MarketDb × Quotation) := do
  let (db, res) ← updateQuotation quotationId (fun q ↦
    { q with
      status := .rejected
      rejectedAt := some env.now
      rejectionReason := reason.filter (· ≠ "") }) env db
  let db ← enqueued
    { eventType := "RFQ_REJECTED"
      aggregateType := "quotation"
      aggregateId := quotationId
      payload := [("quotationId", .str quotationId), ("rfqId", .str quotation.rfqId),
        ("sponsorId", .str sponsorId), ("vendorId", .str quotation.vendorId),
        ("reason", textOrNull reason)] } env db
  return (db, res)

def rejectQuotation (sponsorId quotationId : String) (reason : Option String) (client : Client) :
    MarketCall QuotationDetailsResponseDto := do
  assertActiveUser sponsorId (some "SPONSOR")
  let found ← finds "quotation.findUnique" fun _ db ↦ quotationWithRfq quotationId db
  match found with
  | none => throws .notFound "Quotation not found"
  | some (quotation, rfq) =>
    if rfq.sponsorId ≠ sponsorId then
      throws .forbidden "Only the creating sponsor can reject this quotation"
    else if quotation.status ≠ .pending then
      throws .badRequest s!"Cannot reject quotation in {quotation.status.text} status. Only PENDING quotations can be rejected."
    else do
      let updated ← stores "$transaction" (rejection sponsorId quotationId quotation reason)
      log
        { actorUserId := some sponsorId
          action := "QUOTATION_REJECTED"
          resourceType := "quotation"
          resourceId := some quotationId
          metadata := [("rfqId", .str quotation.rfqId), ("version", .num quotation.version),
            ("reason", textOrUndefined reason)] } client
      return mapToDetailsResponse updated

def getQuotationsForRfq (userId rfqId : String) (page limit : ℤ) :
    MarketCall PaginatedQuotationsDto := do
  assertActiveUser userId none
  let (rfq, _) ← findRfq rfqId
  match rfq with
  | none => throws .notFound "RFQ not found"
  | some rfq =>
    if rfq.sponsorId ≠ userId ∧ rfq.vendorId ≠ userId then
      throws .forbidden "You do not have permission to view quotations for this RFQ"
    else do
      let boundedLimit := min (max 1 limit) 100
      let skip := (max 1 page - 1) * boundedLimit
      let quotations ← finds "quotation.findMany" fun _ db ↦
        ((((db.quotations.rows.filter (·.rfqId == rfqId)).insertionSort fun a b ↦
          b.version ≤ a.version).drop skip.toNat).take boundedLimit.toNat)
      let total ← finds "quotation.count" fun _ db ↦
        db.quotations.rows.countP (·.rfqId == rfqId)
      return ⟨quotations.map mapToListItem, total, page, boundedLimit,
        RfqService.totalPages total boundedLimit.toNat⟩

end QuotationService

namespace RfqExpirationService

/-- The transaction of an RFQ that runs out of time with its pending quotations. -/
def expiry (rfq : Rfq) (env : AuthEnv) (db : MarketDb) : Except AuthError (MarketDb × Unit) := do
  let (db, _) ← updateRfq rfq.id (fun r ↦ { r with status := .expired }) env db
  let db ← updatePending rfq.id (fun q ↦ { q with status := .expired }) env db
  let db ← enqueued
    { eventType := "RFQ_EXPIRED"
      aggregateType := "rfq"
      aggregateId := rfq.id
      payload := [("rfqId", .str rfq.id), ("sponsorId", .str rfq.sponsorId),
        ("vendorId", .str rfq.vendorId), ("title", .str rfq.title),
        ("expiredAt", .date env.now)] } env db
  return (db, ())

def expireRfq (rfqId : String) : MarketCall Bool := do
  let (rfq, _) ← findRfq rfqId
  match rfq with
  | none => return false
  | some rfq =>
    if ¬rfq.status.canExpire then return false
    else do
      stores "$transaction" (expiry rfq)
      return true

/-- An RFQ that cannot be expired is skipped. -/
def expireAll : List String → MarketCall ℕ
  | [] => return 0
  | rfqId :: rest => do
    let success ← (expireRfq rfqId).attempt
    let count ← expireAll rest
    return count + match success with
      | .ok true => 1
      | _ => 0

def sweepExpiredRfqs : MarketCall ℕ := do
  let expired ← finds "rfq.findMany" fun env db ↦
    (db.rfqs.rows.filter fun rfq ↦ rfq.expiresAt ≤ env.now && rfq.status.canExpire).take 100
  expireAll (expired.map Rfq.id)

end RfqExpirationService

end Innovents.Marketplace
