import Innovents.Lib.Sequences
import Innovents.Marketplace.B2bMarketplaceService
import Innovents.Marketplace.RfqService
import Innovents.Platform.Accounts

namespace Innovents.Marketplace

open Innovents.Lib Innovents.Auth Innovents.Platform
open Innovents.Payments (Time Money)

structure CreateRfqItemDto where
  vendorServiceId : Option String
  description : String
  quantity : ℤ
  unit : Option String
  targetPrice : Option ℚ
  notes : Option String

/-- `expiresAt` is absent where the text is no date. -/
structure CreateRfqDto where
  vendorId : String
  eventId : Option String
  title : String
  description : String
  requirements : Option String
  expiresAt : Option Time
  items : List CreateRfqItemDto

/-- The tables of the marketplace, with the services that vendors offer. -/
structure VendorDb where
  market : MarketDb
  vendorServices : Table VendorService

namespace VendorDb

def putMarket (market : MarketDb) (db : VendorDb) : VendorDb := { db with market }

end VendorDb

instance : Accounts VendorDb :=
  ⟨fun db ↦ db.market.accounts, fun accounts db ↦ { db with market := { db.market with accounts } }⟩

abbrev VendorCall (α : Type) := Service VendorDb α

/-- A key as its `uuid` column reads it, where letters may be of either case. -/
def uuid (text : String) : String := String.ofList (text.toList.map Char.toLower)

namespace RfqService

def onMarket {α : Type} (c : MarketCall α) : VendorCall α :=
  c.focus VendorDb.market VendorDb.putMarket

/-- The services that the items refer to. -/
def serviceIds (dto : CreateRfqDto) : List String :=
  dto.items.filterMap fun item ↦ item.vendorServiceId.filter (· ≠ "")

/-- What the query for these services asks of one. -/
def offeredBy (vendorId : String) (service : VendorService) : Bool :=
  service.vendorId == uuid vendorId && service.isActive && service.deletedAt.isNone

/-- As many services of the vendor must be found as the items refer to. -/
def checkServices (dto : CreateRfqDto) : VendorCall Unit :=
  if 0 < (serviceIds dto).length then do
    let services ← Call.reads "vendorService.findMany" fun _ (db : VendorDb) ↦
      db.vendorServices.rows.filter fun service ↦
        ((serviceIds dto).map uuid).contains service.id && offeredBy dto.vendorId service
    Call.returned (demand (services.length = (serviceIds dto).length) (refusal .badRequest
      "One or more referenced vendor services do not exist or do not belong to the selected vendor"))
  else return ()

/-- The items of a new RFQ, each with a key of its own. -/
def newItems (env : AuthEnv) : List String → List CreateRfqItemDto → Except AuthError (List RfqItem)
  | _, [] => .ok []
  | taken, item :: rest => do
    let targetPrice ← item.targetPrice.mapM moneyOf
    let id := env.newId taken
    let items ← newItems env (id :: taken) rest
    return {
      id
      vendorServiceId := (item.vendorServiceId.filter (· ≠ "")).map uuid
      description := item.description
      quantity := item.quantity
      unit := item.unit.filter (· ≠ "")
      targetPrice
      notes := item.notes.filter (· ≠ "")
      createdAt := env.now } :: items

def newRfq (sponsorId : String) (dto : CreateRfqDto) (status : RfqStatus) (expiresAt : Time)
    (sentAt : Option Time) (env : AuthEnv) (db : MarketDb) : Except AuthError Rfq := do
  let items ← newItems env (db.rfqs.rows.flatMap fun rfq ↦ rfq.items.map RfqItem.id) dto.items
  return {
    id := env.idFor db.rfqs
    sponsorId
    vendorId := uuid dto.vendorId
    eventId := (dto.eventId.filter (· ≠ "")).map uuid
    title := dto.title
    description := dto.description
    requirements := dto.requirements.filter (· ≠ "")
    status
    expiresAt
    sentAt
    viewedAt := none
    cancelledAt := none
    acceptedAt := none
    rejectedAt := none
    cancellationReason := none
    rejectionReason := none
    createdAt := env.now
    updatedAt := env.now
    items }

/-- A draft is not announced. -/
def announced (sponsorId : String) (dto : CreateRfqDto) (created : Rfq) (env : AuthEnv)
    (db : MarketDb) : Except AuthError MarketDb :=
  if created.status = .sent then
    Marketplace.enqueued
      { eventType := "RFQ_SENT"
        aggregateType := "rfq"
        aggregateId := created.id
        payload := [("rfqId", .str created.id), ("sponsorId", .str sponsorId),
          ("vendorId", .str dto.vendorId), ("title", .str created.title),
          ("expiresAt", .date created.expiresAt)] } env db
  else .ok db

/-- The transaction of a new RFQ. -/
def creation (sponsorId : String) (dto : CreateRfqDto) (status : RfqStatus) (expiresAt : Time)
    (sentAt : Option Time) (env : AuthEnv) (db : MarketDb) : Except AuthError (MarketDb × Rfq) := do
  let created ← newRfq sponsorId dto status expiresAt sentAt env db
  let rfqs ← ofRefusal (db.rfqs.create created)
  let db ← announced sponsorId dto created env { db with rfqs }
  return (db, created)

/-- The recipient is an active vendor. -/
def checkVendor (vendorId : String) : VendorCall Unit := do
  let found ← Call.reads "user.findFirst" fun _ (db : VendorDb) ↦
    (db.market.accounts.users.get? (uuid vendorId)).filter (·.deletedAt.isNone)
  let refused := refusal .badRequest "Target vendor is not active or does not exist"
  let vendor ← Call.returned (present found refused)
  Call.returned (demand (vendor.status = .active) refused)
  Call.returned (demand ("VENDOR" ∈ vendor.userRoles)
    (refusal .badRequest "Specified recipient does not have the VENDOR role"))

def checkEvent (eventId : Option String) : VendorCall Unit :=
  match eventId.filter (· ≠ "") with
  | none => return ()
  | some eventId => do
    let found ← Call.reads "event.findFirst" fun _ (db : VendorDb) ↦
      (db.market.events.get? (uuid eventId)).filter (·.deletedAt.isNone)
    Call.returned (demand found.isSome (refusal .badRequest "Referenced event does not exist"))

/-- The queue drops the job where it is not there. -/
def scheduleExpiry (created : Rfq) : VendorCall Unit :=
  if created.status = .sent then
    onMarket (addCleanupJob fun env ↦ ⟨"expire-rfq", created.id,
      max 0 (created.expiresAt - env.now), "rfq-expiration:" ++ created.id⟩)
  else return ()

def createRfq (sponsorId : String) (dto : CreateRfqDto) (asDraft : Bool) (client : Client) :
    VendorCall RfqDetailsResponseDto := do
  onMarket (assertActiveUser sponsorId (some "SPONSOR"))
  checkVendor dto.vendorId
  Call.returned (demand (sponsorId ≠ dto.vendorId)
    (refusal .badRequest "Sponsors cannot send RFQs to themselves"))
  checkEvent dto.eventId
  let now ← Call.ask "Date.now" fun env (_ : VendorDb) ↦ .ok env.now
  let expiresAt ← Call.returned (present (dto.expiresAt.filter (now < ·))
    (refusal .badRequest "Expiration date must be a valid timestamp in the future"))
  Call.returned (demand (dto.items ≠ [])
    (refusal .badRequest "RFQ must contain at least one line item"))
  checkServices dto
  let status : RfqStatus := if asDraft then .draft else .sent
  let sentAt ← Call.ask "Date" fun env (_ : VendorDb) ↦
    .ok (if status = .sent then some env.now else none)
  let created ← onMarket (stores "$transaction" (creation sponsorId dto status expiresAt sentAt))
  scheduleExpiry created
  Platform.log
    { actorUserId := some sponsorId
      action := if status = .sent then "RFQ_SENT" else "RFQ_CREATED_DRAFT"
      resourceType := "rfq"
      resourceId := some created.id
      metadata := [("vendorId", .str dto.vendorId), ("title", .str dto.title),
        ("itemCount", .num dto.items.length), ("status", .str status.text)] } client
  return mapToDetailsResponse created []

/-- The key is that of a service which the vendor offers. -/
def Offered (vendorId id : String) (db : VendorDb) : Prop :=
  ∃ service, db.vendorServices.get? (uuid id) = some service ∧ service.vendorId = uuid vendorId ∧
    service.isActive = true ∧ service.deletedAt = none

/-- Every service that the items refer to is offered by the vendor. -/
def AllOffered (dto : CreateRfqDto) (db : VendorDb) : Prop :=
  ∀ id ∈ serviceIds dto, Offered dto.vendorId id db

def CheckPasses (dto : CreateRfqDto) (db : VendorDb) : Prop :=
  ∃ db', Call.Ran (fun _ ↦ True) (checkServices dto) db (.ok ()) db'

section Check

variable {dto : CreateRfqDto} {db : VendorDb}

theorem offeredBy_iff {vendorId : String} {service : VendorService} :
    offeredBy vendorId service = true ↔
      service.vendorId = uuid vendorId ∧ service.isActive = true ∧ service.deletedAt = none := by
  simp only [offeredBy, Bool.and_eq_true, beq_iff_eq, Option.isNone_iff_eq_none, and_assoc]

/-- The query finds as many services as are asked for. -/
theorem found_iff :
    (db.vendorServices.rows.filter fun service ↦
      ((serviceIds dto).map uuid).contains service.id && offeredBy dto.vendorId service).length =
        (serviceIds dto).length ↔ ((serviceIds dto).map uuid).Nodup ∧ AllOffered dto db := by
  rw [← List.length_map uuid]
  refine Table.length_found.trans ?_
  simp only [offeredBy_iff, List.forall_mem_map, AllOffered, Offered]

/-- No reference may be made twice, and each is to a service that the vendor offers. -/
theorem checkServices_passes :
    CheckPasses dto db ↔ ((serviceIds dto).map uuid).Nodup ∧ AllOffered dto db := by
  unfold CheckPasses checkServices
  split_ifs with hrefs
  · constructor
    · rintro ⟨db', hran⟩
      obtain ⟨services, db₁, hread, hran⟩ := Call.ran_bind_ok.mp hran
      obtain ⟨env, -, -, rfl, rfl⟩ := Call.ran_reads_ok.mp hread
      exact found_iff.mp (demand_eq_ok.mp (Call.ran_returned_ok.mp hran).1)
    · intro h
      refine ⟨db, Call.ran_bind_ok.mpr ⟨_, db, Call.ran_reads_ok.mpr
        ⟨sampleEnv 0 "", trivial, rfl, rfl, rfl⟩, ?_⟩⟩
      exact Call.ran_returned_ok.mpr ⟨demand_eq_ok.mpr (found_iff.mpr h), rfl⟩
  · have hnone : serviceIds dto = [] := List.length_eq_zero_iff.mp (by omega)
    simp [AllOffered, hnone, Call.ran_returned]

/-- The check is the one it should be just where no reference is made twice, or some reference is
not to a service of the vendor anyway. -/
theorem check_exact : (CheckPasses dto db ↔ AllOffered dto db) ↔
    ((serviceIds dto).map uuid).Nodup ∨ ∃ id ∈ serviceIds dto, ¬Offered dto.vendorId id db := by
  have hall : (¬∃ id ∈ serviceIds dto, ¬Offered dto.vendorId id db) ↔ AllOffered dto db := by
    simp only [AllOffered, not_exists, not_and, not_not]
  rw [checkServices_passes]
  constructor
  · intro h
    by_cases hsome : ∃ id ∈ serviceIds dto, ¬Offered dto.vendorId id db
    · exact .inr hsome
    · exact .inl (h.mpr (hall.mp hsome)).1
  · rintro (hnodup | hsome)
    · exact ⟨And.right, fun h ↦ ⟨hnodup, h⟩⟩
    · exact ⟨And.right, fun h ↦ absurd hsome (hall.mpr h)⟩

end Check

section Sample

def stageHire : VendorService where
  id := "service-1"
  vendorId := "vendor-1"
  name := "Stage hire"
  description := "A stage with lights"
  category := "AV"
  pricingModel := .fixed
  price := ⟨100000, by decide⟩
  currency := "SAR"
  deliveryDuration := "2 days"
  serviceAreas := ["Riyadh"]
  tags := []
  minimumOrder := 1
  isActive := true
  createdAt := 0
  deletedAt := none

def stageItem (description : String) : CreateRfqItemDto :=
  ⟨some "service-1", description, 1, none, none, none⟩

/-- A stage for each of two days. -/
def twoStages : CreateRfqDto where
  vendorId := "vendor-1"
  eventId := none
  title := "Stages"
  description := "Two stages"
  requirements := none
  expiresAt := some 50
  items := [stageItem "Main stage, first day", stageItem "Main stage, second day"]

def stageDb : VendorDb := ⟨.empty, .singleton stageHire⟩

/-- The vendor offers the stage, and an RFQ that asks for it on two lines is refused. -/
theorem two_stages_refused : AllOffered twoStages stageDb ∧ ¬CheckPasses twoStages stageDb := by
  constructor
  · intro id hid
    have hrefs : serviceIds twoStages = ["service-1", "service-1"] := by decide
    have hid : id = "service-1" := by simpa [hrefs] using hid
    subst hid
    exact ⟨stageHire, rfl, rfl, rfl, rfl⟩
  · intro h
    exact absurd (checkServices_passes.mp h).1 (by decide)

end Sample

end RfqService

end Innovents.Marketplace
