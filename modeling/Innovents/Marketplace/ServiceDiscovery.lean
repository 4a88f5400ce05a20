import Innovents.Lib.Pages
import Innovents.Marketplace.C2bServicesService
import Mathlib.Algebra.Order.Monoid.Unbundled.WithTop
import Mathlib.Data.Int.ConditionallyCompleteOrder

namespace Innovents.Marketplace

open Innovents.Lib Innovents.Auth Innovents.Platform
open Innovents.Payments (Time Money)

structure C2bDiscoveryQueryDto where
  eventId : Option String
  category : Option String
  providerId : Option String
  search : Option String
  minPrice : Option ℚ
  maxPrice : Option ℚ
  availableNow : Option Bool
  page : Option ℕ
  pageSize : Option ℕ
  sortBy : Option String
  sortOrder : Option String

structure PaginatedC2bServicesDto where
  items : List C2bServiceResponseDto
  page : ℕ
  pageSize : ℕ
  total : ℕ
  totalPages : ℕ

namespace C2bServicesService

/-- The other columns of a service, which are there with it. -/
def detailsOf (serviceId : String) (db : OfferDb) : C2bServiceDetails :=
  (db.details.get? serviceId).getD ⟨serviceId, "", "", [], none, none, none, 0, 0⟩

def toDto (db : OfferDb) (service : C2bService) : C2bServiceResponseDto :=
  mapToDto service (detailsOf service.id db) db

/-- An event at which services are shown. -/
def eventOpen (now : Time) (event : Events.Event) : Bool :=
  event.deletedAt.isNone && now < event.endsAt &&
    (event.status == .published || event.status == .ongoing) && event.visibility == .isPublic

def providerOpen (provider : User) : Bool :=
  provider.deletedAt.isNone && provider.status == .active

/-- What the public queries ask of a service, of its event and of its provider. -/
def isListed (now : Time) (db : OfferDb) (s : C2bService) : Bool :=
  s.deletedAt.isNone && s.isAvailable && now < s.expiresAt &&
    (db.schedule.events.get? s.eventId).any (eventOpen now) &&
    (db.schedule.accounts.users.get? s.providerId).any providerOpen

def getServiceDetails (serviceId : String) : OfferCall C2bServiceResponseDto := do
  let found ← Call.reads "c2bService.findFirst" fun env (db : OfferDb) ↦
    ((db.market.c2bServices.get? serviceId).filter (isListed env.now db)).map (toDto db)
  Call.returned (present found (refusal .notFound "Service not found or unavailable"))

/-- The `where` of a search; `ilike` tells whether a text contains another in any case. -/
def matchesQuery (ilike : String → String → Bool) (query : C2bDiscoveryQueryDto) (now : Time)
    (db : OfferDb) (s : C2bService) : Bool :=
  isListed now db s &&
    ((query.eventId.filter (· ≠ "")).all (s.eventId == ·)) &&
    ((query.category.filter (· ≠ "")).all (s.category == ·)) &&
    ((query.providerId.filter (· ≠ "")).all (s.providerId == ·)) &&
    (query.minPrice.all fun least ↦ s.price.any fun price ↦ least ≤ price.toNumber) &&
    (query.maxPrice.all fun most ↦ s.price.any fun price ↦ price.toNumber ≤ most) &&
    ((query.search.filter (· ≠ "")).all fun search ↦ ilike s.name search ||
      ilike (detailsOf s.id db).shortDescription search ||
      ilike (detailsOf s.id db).detailedDescription search)

/-- Whether the order is descending, if it is an order at all. -/
def descending (query : C2bDiscoveryQueryDto) : Option Bool :=
  let asked := query.sortOrder.filter (· ≠ "")
  let usual := if query.sortBy = some "price" ∨ query.sortBy = some "expiresAt" then "asc" else "desc"
  let order := asked.getD usual
  if order = "asc" then some false else if order = "desc" then some true else none

/-- A price that is missing comes behind all others. -/
def sortKey (sortBy : Option String) (db : OfferDb) (s : C2bService) : WithTop ℤ :=
  if sortBy = some "price" then s.price.elim ⊤ fun price ↦ (price.cents : WithTop ℤ)
  else if sortBy = some "expiresAt" then ((s.expiresAt : ℤ) : WithTop ℤ)
  else (((detailsOf s.id db).createdAt : ℤ) : WithTop ℤ)

/-- `a` may stand before `b`. -/
def InOrder (query : C2bDiscoveryQueryDto) (desc : Bool) (db : OfferDb) (a b : C2bService) : Prop :=
  if desc then sortKey query.sortBy db b ≤ sortKey query.sortBy db a
  else sortKey query.sortBy db a ≤ sortKey query.sortBy db b

instance (query : C2bDiscoveryQueryDto) (desc : Bool) (db : OfferDb) :
    DecidableRel (InOrder query desc db) := fun a b ↦
  letI : DecidableLE (WithTop ℤ) := @WithTop.decidableLE ℤ Int.instLEInt Int.decLe
  inferInstanceAs (Decidable (if desc = true
    then sortKey query.sortBy db b ≤ sortKey query.sortBy db a
    else sortKey query.sortBy db a ≤ sortKey query.sortBy db b))

/-- `s.maxBookings === null || s.bookingCount < s.maxBookings` -/
def hasRoom (s : C2bService) : Bool := s.maxBookings.all (s.bookingCount < ·)

/-- Full services are left out of the page that was read. -/
def kept (query : C2bDiscoveryQueryDto) (services : List C2bService) : List C2bService :=
  if query.availableNow = some true then services.filter hasRoom else services

def discoverServices (ilike : String → String → Bool) (query : C2bDiscoveryQueryDto) :
    OfferCall PaginatedC2bServicesDto := do
  let now ← Call.ask "Date" fun env (_ : OfferDb) ↦ .ok env.now
  let page := (query.page.filter (· ≠ 0)).getD 1
  let pageSize := min ((query.pageSize.filter (· ≠ 0)).getD 20) 100
  let desc ← Call.returned (present (descending query)
    (.fault "Invalid value for argument sortOrder. Expected SortOrder."))
  let total ← Call.reads "c2bService.count" fun _ (db : OfferDb) ↦
    db.market.c2bServices.rows.countP (matchesQuery ilike query now db)
  let items ← Call.reads "c2bService.findMany" fun _ (db : OfferDb) ↦
    (kept query (((((db.market.c2bServices.rows.filter
      (matchesQuery ilike query now db)).insertionSort (InOrder query desc db)).drop
        ((page - 1) * pageSize)).take pageSize))).map (toDto db)
  return {
    items
    page
    pageSize
    total
    totalPages := max 1 ((total + pageSize - 1) / pageSize) }

end C2bServicesService

section Sample

def sampleStay : C2bService where
  id := "service-1"
  providerId := "provider-1"
  eventId := "event-1"
  name := "Hotel package"
  category := "ACCOMMODATION"
  price := none
  currency := "SAR"
  expiresAt := 180
  contactMethod := "IN_APP"
  maxBookings := some 1
  bookingCount := 0
  isAvailable := true
  deletedAt := none

/-- A provider offers the service at an event from 100 to 200. -/
def stayDb (event : Events.Event) (service : C2bService) : OfferDb where
  schedule := { Events.sampleDb with
    accounts := eventDb.accounts
    events := .singleton event }
  market := { MarketDb.empty with c2bServices := .singleton service }
  details := .singleton ⟨service.id, "Breakfast and shuttle", "For delegates with a badge", [], none,
    none, none, 0, 0⟩

end Sample

end Innovents.Marketplace
