import Innovents.Auth.AdminUsersService
import Innovents.Events.Schema

namespace Innovents.SponsorAds

open Innovents.Lib Innovents.Auth Innovents.Platform
open Innovents.Payments (Time)

inductive SponsorAdStatus
  | draft | pendingReview | approved | published | rejected | paused | expired
  deriving DecidableEq, Repr

inductive SponsorAdPlacement
  | marketplace | eventPage | bannerTop | sidebar
  deriving DecidableEq, Repr

def SponsorAdStatus.text : SponsorAdStatus → String
  | draft => "DRAFT"
  | pendingReview => "PENDING_REVIEW"
  | approved => "APPROVED"
  | published => "PUBLISHED"
  | rejected => "REJECTED"
  | paused => "PAUSED"
  | expired => "EXPIRED"

def SponsorAdPlacement.text : SponsorAdPlacement → String
  | marketplace => "MARKETPLACE"
  | eventPage => "EVENT_PAGE"
  | bannerTop => "BANNER_TOP"
  | sidebar => "SIDEBAR"

structure SponsorAd where
  id : String
  sponsorId : String
  eventId : Option String
  title : String
  description : String
  imageUrl : String
  destinationUrl : String
  placement : SponsorAdPlacement
  status : SponsorAdStatus
  rejectionReason : Option String
  reviewedByUserId : Option String
  reviewedAt : Option Time
  startsAt : Time
  endsAt : Time
  createdAt : Time
  updatedAt : Time
  deletedAt : Option Time

instance : Row SponsorAd := ⟨SponsorAd.id, []⟩

structure AdsDb where
  accounts : AuthDb
  events : Table Events.Event
  sponsorAds : Table SponsorAd

instance : Accounts AdsDb := ⟨AdsDb.accounts, fun accounts db ↦ { db with accounts }⟩

abbrev AdsCall (α : Type) := Service AdsDb α

/-- What `new Date(text)` makes of a text, if that is a date. -/
abbrev JsDate := Option Time

structure CreateSponsorAdDto where
  eventId : Option String
  title : String
  description : String
  imageUrl : String
  destinationUrl : String
  placement : Option SponsorAdPlacement
  startsAt : JsDate
  endsAt : JsDate

/-- Each field may be missing, and may be `null`. -/
structure UpdateSponsorAdDto where
  eventId : Option (Option String)
  title : Option (Option String)
  description : Option (Option String)
  imageUrl : Option (Option String)
  destinationUrl : Option (Option String)
  placement : Option (Option SponsorAdPlacement)
  startsAt : Option (Option JsDate)
  endsAt : Option (Option JsDate)

def UpdateSponsorAdDto.empty : UpdateSponsorAdDto :=
  ⟨none, none, none, none, none, none, none, none⟩

/-- The fields of an update that are given, as JSON. -/
def UpdateSponsorAdDto.changes (dto : UpdateSponsorAdDto) : JsValue :=
  let field {α : Type} (key : String) (f : α → JsValue) (v : Option (Option α)) :=
    v.toList.map fun a ↦ (key, a.elim JsValue.null f)
  .obj (field "eventId" .str dto.eventId ++ field "title" .str dto.title ++
    field "description" .str dto.description ++ field "imageUrl" .str dto.imageUrl ++
    field "destinationUrl" .str dto.destinationUrl ++
    field "placement" (fun placement : SponsorAdPlacement ↦ .str placement.text) dto.placement ++
    field "startsAt" (fun date : JsDate ↦ date.elim .null .date) dto.startsAt ++
    field "endsAt" (fun date : JsDate ↦ date.elim .null .date) dto.endsAt)

structure RejectSponsorAdDto where
  reason : Option String

structure SponsorAdQueryDto where
  eventId : Option String
  placement : Option SponsorAdPlacement
  status : Option SponsorAdStatus
  page : Option ℕ
  pageSize : Option ℕ

structure SponsorSummary where
  companyName : String
  logoUrl : Option String

structure SponsorAdResponseDto where
  id : String
  sponsorId : String
  eventId : Option String
  title : String
  description : String
  imageUrl : String
  destinationUrl : String
  placement : SponsorAdPlacement
  status : SponsorAdStatus
  rejectionReason : Option String
  reviewedByUserId : Option String
  reviewedAt : Option Time
  startsAt : Time
  endsAt : Time
  sponsor : Option SponsorSummary
  createdAt : Time
  updatedAt : Time

structure PaginatedSponsorAdsDto where
  items : List SponsorAdResponseDto
  page : ℕ
  pageSize : ℕ
  total : ℕ
  totalPages : ℕ

/-- `value && { field: value }` for a text. -/
def textGiven (field : Option (Option String)) : Option String := field.join.filter (· ≠ "")

/-- `date && { field: date }`, where the store takes no invalid date. -/
def dateGiven (name : String) : Option JsDate → Except AuthError (Option Time)
  | none => .ok none
  | some none => .error (.fault s!"Invalid value for argument {name}: Provided Date object is invalid. Expected Date.")
  | some (some t) => .ok (some t)

/-- `endsAt <= startsAt`, which is false of an invalid date. -/
def notAfter : JsDate → JsDate → Bool
  | some endsAt, some startsAt => endsAt ≤ startsAt
  | _, _ => false

namespace SponsorAdsService

def sponsorSummary (sponsorId : String) (db : AdsDb) : Option SponsorSummary :=
  (db.accounts.profiles.find? fun p ↦
    p.table == "sponsor_profiles" && p.userId == sponsorId).map fun p ↦
      { companyName := ((p.columns.lookup "companyName").join).getD ""
        logoUrl := (p.columns.lookup "logoUrl").join }

def mapToDto (db : AdsDb) (ad : SponsorAd) : SponsorAdResponseDto where
  id := ad.id
  sponsorId := ad.sponsorId
  eventId := ad.eventId
  title := ad.title
  description := ad.description
  imageUrl := ad.imageUrl
  destinationUrl := ad.destinationUrl
  placement := ad.placement
  status := ad.status
  rejectionReason := ad.rejectionReason
  reviewedByUserId := ad.reviewedByUserId
  reviewedAt := ad.reviewedAt
  startsAt := ad.startsAt
  endsAt := ad.endsAt
  sponsor := sponsorSummary ad.sponsorId db
  createdAt := ad.createdAt
  updatedAt := ad.updatedAt

def assertActiveSponsor (userId : String) : AdsCall Unit := do
  let found ← Call.reads "user.findFirst" fun _ (db : AdsDb) ↦
    (db.accounts.users.get? userId).filter (·.deletedAt.isNone)
  let user ← Call.returned (present found (refusal .notFound "Sponsor account not found"))
  Call.returned (demand (user.status = .active) (refusal .forbidden s!"Account is {AdminUsersService.accountStatusText user.status}. Only active sponsors can manage advertising campaigns."))
  Call.returned (demand ("SPONSOR" ∈ user.userRoles)
    (refusal .forbidden "Only users with the SPONSOR role can manage sponsor ads."))

/-- `sponsorAd.findFirst({ where: { id, deletedAt: null } })` -/
def findAd (adId : String) : AdsCall SponsorAd := do
  let found ← Call.reads "sponsorAd.findFirst" fun _ (db : AdsDb) ↦
    (db.sponsorAds.get? adId).filter (·.deletedAt.isNone)
  Call.returned (present found (refusal .notFound "Sponsor ad not found"))

/-- The ad, if it is the sponsor's own. -/
def ownAd (sponsorId adId verb : String) : AdsCall SponsorAd := do
  assertActiveSponsor sponsorId
  let ad ← findAd adId
  Call.returned (demand (ad.sponsorId = sponsorId)
    (refusal .forbidden s!"You are not authorized to {verb} this ad"))
  return ad

/-- The event that an ad is for, if there is one. -/
def assertTarget (eventId : Option String) : AdsCall Unit :=
  match eventId with
  | none => return
  | some eventId => do
    let found ← Call.reads "event.findFirst" fun _ (db : AdsDb) ↦
      (db.events.get? eventId).filter (·.deletedAt.isNone)
    Call.returned (demand found.isSome (refusal .notFound "Target event not found"))

/-- `sponsorAd.create` -/
def adCreate (sponsorId : String) (dto : CreateSponsorAdDto) (startsAt endsAt : Time)
    (env : AuthEnv) (db : AdsDb) : Except AuthError (AdsDb × SponsorAdResponseDto) := do
  let eventId := dto.eventId.filter (· ≠ "")
  demand (db.accounts.users.has sponsorId ∧ eventId.all db.events.has)
    (.fault "Foreign key constraint violated")
  let ad : SponsorAd :=
    { id := env.idFor db.sponsorAds
      sponsorId
      eventId
      title := dto.title
      description := dto.description
      imageUrl := dto.imageUrl
      destinationUrl := dto.destinationUrl
      placement := dto.placement.getD .marketplace
      status := .draft
      rejectionReason := none
      reviewedByUserId := none
      reviewedAt := none
      startsAt
      endsAt
      createdAt := env.now
      updatedAt := env.now
      deletedAt := none }
  let sponsorAds ← ofRefusal (db.sponsorAds.create ad)
  let db := { db with sponsorAds }
  return (db, mapToDto db ad)

def createAd (sponsorId : String) (dto : CreateSponsorAdDto) (client : Client) :
    AdsCall SponsorAdResponseDto := do
  assertActiveSponsor sponsorId
  let (startsAt, endsAt) ← Call.returned (present
    (dto.startsAt.bind fun startsAt ↦ dto.endsAt.map fun endsAt ↦ (startsAt, endsAt))
    (refusal .badRequest "Invalid start or end date format"))
  Call.returned (demand (startsAt < endsAt)
    (refusal .badRequest "Campaign end date must be after start date"))
  assertTarget (dto.eventId.filter (· ≠ ""))
  let ad ← Call.writes "sponsorAd.create" (adCreate sponsorId dto startsAt endsAt)
  log
    { actorUserId := some sponsorId
      action := "SPONSOR_AD_CREATED"
      resourceType := "sponsor_ad"
      resourceId := some ad.id
      metadata := [("title", .str dto.title), ("placement", .str ad.placement.text)] } client
  return ad

/-- `sponsorAd.update`, which returns the new row. -/
def adUpdate (adId : String) (change : SponsorAd → SponsorAd) (env : AuthEnv) (db : AdsDb) :
    Except AuthError (AdsDb × SponsorAdResponseDto) := do
  let sponsorAds ← ofRefusal (db.sponsorAds.update adId fun ad ↦
    { change ad with updatedAt := env.now })
  let ad ← present (sponsorAds.get? adId) (.prisma .recordNotFound)
  let db := { db with sponsorAds }
  return (db, mapToDto db ad)

/-- A change of the content of an ad that is out is reviewed again. -/
def statusAfter (dto : UpdateSponsorAdDto) (status : SponsorAdStatus) : SponsorAdStatus :=
  if (status = .approved ∨ status = .published) ∧
      ((textGiven dto.title).isSome ∨ (textGiven dto.description).isSome ∨
        (textGiven dto.imageUrl).isSome ∨ (textGiven dto.destinationUrl).isSome) then
    .pendingReview
  else status

/-- The statement of `updateAd`, with the status that follows from the one that was found. -/
def detailsUpdate (adId : String) (dto : UpdateSponsorAdDto) (status : SponsorAdStatus)
    (env : AuthEnv) (db : AdsDb) : Except AuthError (AdsDb × SponsorAdResponseDto) := do
  let startsAt ← dateGiven "startsAt" dto.startsAt.join
  let endsAt ← dateGiven "endsAt" dto.endsAt.join
  adUpdate adId (fun ad ↦
    { ad with
      eventId := (dto.eventId.map fun eventId ↦ eventId.filter (· ≠ "")).getD ad.eventId
      title := (textGiven dto.title).getD ad.title
      description := (textGiven dto.description).getD ad.description
      imageUrl := (textGiven dto.imageUrl).getD ad.imageUrl
      destinationUrl := (textGiven dto.destinationUrl).getD ad.destinationUrl
      placement := dto.placement.join.getD ad.placement
      startsAt := startsAt.getD ad.startsAt
      endsAt := endsAt.getD ad.endsAt
      status }) env db

def updateAd (sponsorId adId : String) (dto : UpdateSponsorAdDto) (client : Client) :
    AdsCall SponsorAdResponseDto := do
  let ad ← ownAd sponsorId adId "update"
  let startsAt := dto.startsAt.join.getD (some ad.startsAt)
  let endsAt := dto.endsAt.join.getD (some ad.endsAt)
  Call.returned (demand (¬notAfter endsAt startsAt)
    (refusal .badRequest "Campaign end date must be after start date"))
  let updated ← Call.writes "sponsorAd.update" (detailsUpdate adId dto (statusAfter dto ad.status))
  log
    { actorUserId := some sponsorId
      action := "SPONSOR_AD_UPDATED"
      resourceType := "sponsor_ad"
      resourceId := some adId
      metadata := [("changes", dto.changes)] } client
  return updated

/-- The ad is in the state that `verb` needs. -/
def assertIn (allowed : List SponsorAdStatus) (refused : String) (status : SponsorAdStatus) :
    AdsCall Unit :=
  Call.returned (demand (status ∈ allowed) (refusal .badRequest refused))

def submitAd (sponsorId adId : String) (client : Client) : AdsCall SponsorAdResponseDto := do
  let ad ← ownAd sponsorId adId "submit"
  assertIn [.draft, .rejected, .paused] s!"Cannot submit an ad in {ad.status.text} state" ad.status
  let updated ← Call.writes "sponsorAd.update" (adUpdate adId fun ad ↦
    { ad with
      status := .pendingReview
      rejectionReason := none })
  Call.writes "outboxEvent.create" fun env (db : AdsDb) ↦ do
    let db ← enqueued
      { eventType := "SPONSOR_AD_SUBMITTED"
        aggregateType := "sponsor_ad"
        aggregateId := adId
        payload := [("adId", .str adId), ("sponsorId", .str sponsorId), ("title", .str ad.title)] }
      env db
    return (db, ())
  log
    { actorUserId := some sponsorId
      action := "SPONSOR_AD_SUBMITTED"
      resourceType := "sponsor_ad"
      resourceId := some adId
      metadata := [] } client
  return updated

/-- What pausing or resuming makes of a status. -/
def toggled (status : SponsorAdStatus) : Except AuthError SponsorAdStatus :=
  match status with
  | .published | .approved => .ok .paused
  | .paused => .ok .published
  | status => .error (refusal .badRequest s!"Cannot pause or resume ad in {status.text} state")

def togglePauseAd (sponsorId adId : String) (client : Client) : AdsCall SponsorAdResponseDto := do
  let ad ← ownAd sponsorId adId "modify"
  let nextStatus ← Call.returned (toggled ad.status)
  let updated ← Call.writes "sponsorAd.update" (adUpdate adId fun ad ↦
    { ad with status := nextStatus })
  log
    { actorUserId := some sponsorId
      action := if nextStatus = .paused then "SPONSOR_AD_PAUSED" else "SPONSOR_AD_RESUMED"
      resourceType := "sponsor_ad"
      resourceId := some adId
      metadata := [] } client
  return updated

def deleteAd (sponsorId adId : String) (client : Client) : AdsCall Unit := do
  let _ ← ownAd sponsorId adId "delete"
  let _ ← Call.writes "sponsorAd.update" fun env (db : AdsDb) ↦
    adUpdate adId (fun ad ↦ { ad with deletedAt := some env.now }) env db
  log
    { actorUserId := some sponsorId
      action := "SPONSOR_AD_DELETED"
      resourceType := "sponsor_ad"
      resourceId := some adId
      metadata := [] } client

/-- The transaction of a review, with its entry of the outbox. -/
def reviewed (adminId adId eventType : String) (payload : List (String × JsValue))
    (status : SponsorAdStatus) (rejectionReason : Option String) (now : Time) (env : AuthEnv)
    (db : AdsDb) : Except AuthError (AdsDb × SponsorAdResponseDto) := do
  demand (db.accounts.users.has adminId) (.fault "Foreign key constraint violated")
  let (db, ad) ← adUpdate adId (fun ad ↦
    { ad with
      status
      rejectionReason
      reviewedByUserId := some adminId
      reviewedAt := some now }) env db
  let db ← enqueued
    { eventType
      aggregateType := "sponsor_ad"
      aggregateId := adId
      payload } env db
  return (db, ad)

/-- The ad with the moment at which a review finds it. -/
def findForReview (adId : String) : AdsCall (SponsorAd × Time) := do
  let (found, now) ← Call.reads "sponsorAd.findFirst" fun env (db : AdsDb) ↦
    ((db.sponsorAds.get? adId).filter (·.deletedAt.isNone), env.now)
  let ad ← Call.returned (present found (refusal .notFound "Sponsor ad not found"))
  return (ad, now)

def approveAd (adminId adId : String) (client : Client) : AdsCall SponsorAdResponseDto := do
  let (ad, now) ← findForReview adId
  assertIn [.pendingReview] s!"Cannot approve ad currently in {ad.status.text} state" ad.status
  -- a campaign whose time has come is out at once
  let nextStatus := if ad.startsAt ≤ now ∧ now < ad.endsAt then .published else .approved
  let updated ← Call.writes "$transaction" (reviewed adminId adId "SPONSOR_AD_APPROVED"
    [("adId", .str adId), ("sponsorId", .str ad.sponsorId), ("title", .str ad.title)]
    nextStatus none now)
  log
    { actorUserId := some adminId
      action := "SPONSOR_AD_APPROVED"
      resourceType := "sponsor_ad"
      resourceId := some adId
      metadata := [("status", .str nextStatus.text)] } client
  return updated

def rejectAd (adminId adId : String) (dto : RejectSponsorAdDto) (client : Client) :
    AdsCall SponsorAdResponseDto := do
  let (ad, now) ← findForReview adId
  assertIn [.pendingReview] s!"Cannot reject ad currently in {ad.status.text} state" ad.status
  let reason := (dto.reason.filter (· ≠ "")).getD "Ad does not meet platform guidelines"
  let updated ← Call.writes "$transaction" (reviewed adminId adId "SPONSOR_AD_REJECTED"
    [("adId", .str adId), ("sponsorId", .str ad.sponsorId), ("title", .str ad.title),
      ("reason", .str reason)] .rejected (some reason) now)
  log
    { actorUserId := some adminId
      action := "SPONSOR_AD_REJECTED"
      resourceType := "sponsor_ad"
      resourceId := some adId
      metadata := [("reason", .str reason)] } client
  return updated

/-- Whether anyone may see the ad at the moment `now`. -/
def isPublic (now : Time) (db : AdsDb) (ad : SponsorAd) : Bool :=
  ad.deletedAt.isNone && (ad.status == .approved || ad.status == .published) &&
    decide (ad.startsAt ≤ now) && decide (now < ad.endsAt) &&
    ((db.accounts.users.get? ad.sponsorId).any fun user ↦
      user.deletedAt.isNone && user.status == .active) &&
    ad.eventId.all fun eventId ↦ (db.events.get? eventId).any fun event ↦
      event.deletedAt.isNone && decide (now < event.endsAt) &&
        (event.status == .published || event.status == .ongoing)

/-- The ads of a public search. -/
def publicAds (query : SponsorAdQueryDto) (now : Time) (db : AdsDb) : List SponsorAd :=
  db.sponsorAds.rows.filter fun ad ↦ isPublic now db ad &&
    ((query.eventId.filter (· ≠ "")).all fun eventId ↦ ad.eventId == some eventId) &&
    query.placement.all fun placement ↦ ad.placement == placement

def discoverPublicAds (query : SponsorAdQueryDto) : AdsCall PaginatedSponsorAdsDto := do
  let page := (query.page.filter (· ≠ 0)).getD 1
  let pageSize := min ((query.pageSize.filter (· ≠ 0)).getD 20) 100
  let (total, now) ← Call.reads "sponsorAd.count" fun env (db : AdsDb) ↦
    ((publicAds query env.now db).length, env.now)
  let items ← Call.reads "sponsorAd.findMany" fun _ (db : AdsDb) ↦
    ((((publicAds query now db).insertionSort fun a b ↦ b.createdAt ≤ a.createdAt).drop
      ((page - 1) * pageSize)).take pageSize).map (mapToDto db)
  return {
    items
    page
    pageSize
    total
    totalPages := max 1 ((total + pageSize - 1) / pageSize) }

def getPublicAdById (adId : String) : AdsCall SponsorAdResponseDto := do
  let found ← Call.reads "sponsorAd.findFirst" fun env (db : AdsDb) ↦
    ((db.sponsorAds.get? adId).filter (isPublic env.now db)).map (mapToDto db)
  Call.returned (present found (refusal .notFound "Ad not found or inactive"))

end SponsorAdsService

end Innovents.SponsorAds
