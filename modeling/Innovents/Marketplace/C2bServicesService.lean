import Innovents.Events.EventsService
import Innovents.Lib.Sequences
import Innovents.Marketplace.CouponsService

namespace Innovents.Marketplace

open Innovents.Lib Innovents.Auth Innovents.Platform
open Innovents.Payments (Time Money)

/-- The columns of a service that only its provider changes. -/
structure C2bServiceDetails where
  id : String
  shortDescription : String
  detailedDescription : String
  images : List String
  discountPercentage : Option ℤ
  contactValue : Option String
  promotionalCode : Option String
  createdAt : Time
  updatedAt : Time

instance : Row C2bServiceDetails := ⟨C2bServiceDetails.id, []⟩

/-- The events with all their columns, and what is offered at them. -/
structure OfferDb where
  schedule : Events.EventsDb
  market : MarketDb
  details : Table C2bServiceDetails

/-- A moment that a text is read as, if it is a date. -/
abbrev ParsedDate := Option Time

structure CreateC2bServiceDto where
  eventId : String
  name : String
  category : String
  shortDescription : String
  detailedDescription : String
  images : Option (List String)
  price : Option (Option ℚ)
  discountPercentage : Option ℤ
  currency : Option String
  expiresAt : ParsedDate
  contactMethod : String
  contactValue : Option String
  promotionalCode : Option String
  maxBookings : Option ℤ
  isAvailable : Option Bool

/-- Each field may be missing, and may be `null`. -/
structure UpdateC2bServiceDto where
  name : Option (Option String)
  category : Option (Option String)
  shortDescription : Option (Option String)
  detailedDescription : Option (Option String)
  images : Option (Option (List String))
  price : Option (Option ℚ)
  discountPercentage : Option (Option ℤ)
  currency : Option (Option String)
  expiresAt : Option (Option ParsedDate)
  contactMethod : Option (Option String)
  contactValue : Option (Option String)
  promotionalCode : Option (Option String)
  maxBookings : Option (Option ℤ)
  isAvailable : Option (Option Bool)

/-- The fields of an update that are given, as JSON. -/
def UpdateC2bServiceDto.changes (dto : UpdateC2bServiceDto) : JsValue :=
  let field {α : Type} (key : String) (f : α → JsValue) (v : Option (Option α)) :=
    v.toList.map fun a ↦ (key, a.elim JsValue.null f)
  .obj (field "name" .str dto.name ++ field "category" .str dto.category ++
    field "shortDescription" .str dto.shortDescription ++
    field "detailedDescription" .str dto.detailedDescription ++
    field "images" (fun images ↦ .arr (images.map JsValue.str)) dto.images ++
    field "price" .num dto.price ++
    field "discountPercentage" (fun n : ℤ ↦ .num n) dto.discountPercentage ++
    field "currency" .str dto.currency ++
    field "expiresAt" (fun date : ParsedDate ↦ date.elim .null .date) dto.expiresAt ++
    field "contactMethod" .str dto.contactMethod ++ field "contactValue" .str dto.contactValue ++
    field "promotionalCode" .str dto.promotionalCode ++
    field "maxBookings" (fun n : ℤ ↦ .num n) dto.maxBookings ++
    field "isAvailable" .bool dto.isAvailable)

structure PublicProviderSummaryDto where
  id : String
  businessName : String
  logoUrl : Option String
  providerType : Option String
  city : Option String
  country : Option String

structure C2bServiceResponseDto where
  id : String
  providerId : String
  eventId : String
  name : String
  category : String
  shortDescription : String
  detailedDescription : String
  images : List String
  price : Option ℚ
  discountPercentage : Option ℤ
  currency : String
  expiresAt : Time
  contactMethod : String
  contactValue : Option String
  promotionalCode : Option String
  maxBookings : Option ℤ
  bookingCount : ℤ
  isAvailable : Bool
  provider : Option PublicProviderSummaryDto
  createdAt : Time
  updatedAt : Time

namespace OfferDb

/-- The event as the services of the marketplace see it. -/
def eventSeen (e : Events.Event) : Event := ⟨e.id, e.endsAt, e.deletedAt⟩

theorem eventSeen_apart (a b : Events.Event) (h : clash a b = false) :
    clash (eventSeen a) (eventSeen b) = false := by
  simpa [clash, Row.id, Row.uniques, eventSeen] using h

/-- The tables of the marketplace, with the accounts and the events of the schedule. -/
def marketView (db : OfferDb) : MarketDb :=
  { db.market with
    accounts := db.schedule.accounts
    events := db.schedule.events.map eventSeen eventSeen_apart }

def putMarket (market : MarketDb) (db : OfferDb) : OfferDb :=
  { db with
    market
    schedule := { db.schedule with accounts := market.accounts } }

def putSchedule (schedule : Events.EventsDb) (db : OfferDb) : OfferDb := { db with schedule }

end OfferDb

instance : Accounts OfferDb :=
  ⟨fun db ↦ db.schedule.accounts,
    fun accounts db ↦ { db with schedule := { db.schedule with accounts } }⟩

abbrev OfferCall (α : Type) := Service OfferDb α

/-- `value && { field: value }` for a text. -/
def textGiven (field : Option (Option String)) : Option String := field.join.filter (· ≠ "")

/-- `new Prisma.Decimal(dto.price)`, if the field is given. -/
def newPrice (price : Option (Option ℚ)) : Except AuthError (Option (Option Money)) :=
  match price with
  | none => .ok none
  | some none => .ok (some none)
  | some (some d) => (moneyOf d).map fun m ↦ some (some m)

/-- The price of a new service, where `null` is no decimal. -/
def firstPrice (price : Option (Option ℚ)) : Except AuthError (Option (Option Money)) :=
  match price with
  | some none => .error (.fault "[DecimalError] Invalid argument: null")
  | price => newPrice price

namespace C2bServicesService

def assertActiveProvider (userId : String) : OfferCall Unit := do
  let found ← Call.reads "user.findFirst" fun _ (db : OfferDb) ↦
    (db.schedule.accounts.users.get? userId).filter (·.deletedAt.isNone)
  let user ← Call.returned (present found (refusal .notFound "Provider account not found"))
  Call.returned (demand (user.status = .active) (refusal .forbidden s!"Account is {AdminUsersService.accountStatusText user.status}. Only active providers can perform this action."))
  Call.returned (demand ("PROVIDER" ∈ user.userRoles)
    (refusal .forbidden "Only users with the PROVIDER role can manage C2B services."))

/-- The public summary of the provider, if it has a profile. -/
def providerSummary (providerId : String) (db : OfferDb) : Option PublicProviderSummaryDto :=
  (db.schedule.accounts.profiles.find? fun p ↦
    p.table == "provider_profiles" && p.userId == providerId).map fun p ↦
      let column (name : String) := (p.columns.lookup name).join
      { id := providerId
        businessName := ((column "businessName").filter (· ≠ "")).getD "Verified Provider"
        logoUrl := column "logoUrl"
        providerType := column "providerType"
        city := column "city"
        country := column "country" }

def mapToDto (service : C2bService) (details : C2bServiceDetails) (db : OfferDb) :
    C2bServiceResponseDto where
  id := service.id
  providerId := service.providerId
  eventId := service.eventId
  name := service.name
  category := service.category
  shortDescription := details.shortDescription
  detailedDescription := details.detailedDescription
  images := details.images
  price := service.price.map Money.toNumber
  discountPercentage := details.discountPercentage
  currency := service.currency
  expiresAt := service.expiresAt
  contactMethod := service.contactMethod
  contactValue := details.contactValue
  promotionalCode := details.promotionalCode
  maxBookings := service.maxBookings
  bookingCount := service.bookingCount
  isAvailable := service.isAvailable
  provider := providerSummary service.providerId db
  createdAt := details.createdAt
  updatedAt := details.updatedAt

/-- `requested > event.endsAt ? event.endsAt : requested` -/
def clamped (endsAt requested : Time) : Time := if requested > endsAt then endsAt else requested

/-- `c2bService.create` -/
def serviceCreate (providerId : String) (dto : CreateC2bServiceDto) (expiresAt : Time)
    (env : AuthEnv) (db : OfferDb) : Except AuthError (OfferDb × C2bServiceResponseDto) := do
  let price ← firstPrice dto.price
  let id := env.idFor db.market.c2bServices
  let service : C2bService :=
    { id
      providerId
      eventId := dto.eventId
      name := dto.name
      category := dto.category
      price := price.join
      currency := (dto.currency.filter (· ≠ "")).getD "SAR"
      expiresAt
      contactMethod := dto.contactMethod
      maxBookings := dto.maxBookings
      bookingCount := 0
      isAvailable := dto.isAvailable.getD true
      deletedAt := none }
  let details : C2bServiceDetails :=
    { id
      shortDescription := dto.shortDescription
      detailedDescription := dto.detailedDescription
      images := dto.images.getD []
      discountPercentage := dto.discountPercentage
      contactValue := dto.contactValue
      promotionalCode := dto.promotionalCode
      createdAt := env.now
      updatedAt := env.now }
  let c2bServices ← ofRefusal (db.market.c2bServices.create service)
  let allDetails ← ofRefusal (db.details.create details)
  let db := { db with
    market := { db.market with c2bServices }
    details := allDetails }
  return (db, mapToDto service details db)

def createService (toISOString : Time → String) (providerId : String) (dto : CreateC2bServiceDto)
    (client : Client) : OfferCall C2bServiceResponseDto := do
  assertActiveProvider providerId
  let (found, now) ← Call.reads "event.findFirst" fun env (db : OfferDb) ↦
    ((db.schedule.events.get? dto.eventId).filter (·.deletedAt.isNone), env.now)
  let event ← Call.returned (present found (refusal .notFound "Target event not found"))
  Call.returned (demand (now < event.endsAt)
    (refusal .badRequest "Cannot create services for an event that has already ended"))
  let requested ← Call.returned (present dto.expiresAt
    (refusal .badRequest "Invalid expiration date format"))
  let expiresAt := clamped event.endsAt requested
  Call.returned (demand (now < expiresAt)
    (refusal .badRequest "Expiration date must be in the future"))
  let created ← Call.writes "c2bService.create" (serviceCreate providerId dto expiresAt)
  Platform.log
    { actorUserId := some providerId
      action := "C2B_SERVICE_CREATED"
      resourceType := "c2b_service"
      resourceId := some created.id
      metadata := [("eventId", .str dto.eventId), ("name", .str dto.name),
        ("category", .str dto.category), ("expiresAt", .str (toISOString expiresAt))] } client
  return created

/-- `c2bService.update`, which returns the new row. -/
def serviceUpdate (serviceId : String) (dto : UpdateC2bServiceDto) (expiresAt : Option Time)
    (env : AuthEnv) (db : OfferDb) : Except AuthError (OfferDb × C2bServiceResponseDto) := do
  let price ← newPrice dto.price
  let isAvailable ← Events.given "isAvailable" dto.isAvailable
  let c2bServices ← ofRefusal (db.market.c2bServices.update serviceId fun s ↦
    { s with
      name := (textGiven dto.name).getD s.name
      category := (textGiven dto.category).getD s.category
      price := price.getD s.price
      currency := (textGiven dto.currency).getD s.currency
      expiresAt := expiresAt.getD s.expiresAt
      contactMethod := (textGiven dto.contactMethod).getD s.contactMethod
      maxBookings := dto.maxBookings.getD s.maxBookings
      isAvailable := isAvailable.getD s.isAvailable })
  let allDetails ← ofRefusal (db.details.update serviceId fun d ↦
    { d with
      shortDescription := (textGiven dto.shortDescription).getD d.shortDescription
      detailedDescription := (textGiven dto.detailedDescription).getD d.detailedDescription
      images := dto.images.join.getD d.images
      discountPercentage := dto.discountPercentage.getD d.discountPercentage
      contactValue := dto.contactValue.getD d.contactValue
      promotionalCode := dto.promotionalCode.getD d.promotionalCode
      updatedAt := env.now })
  let service ← present (c2bServices.get? serviceId) (.prisma .recordNotFound)
  let details ← present (allDetails.get? serviceId) (.prisma .recordNotFound)
  let db := { db with
    market := { db.market with c2bServices }
    details := allDetails }
  return (db, mapToDto service details db)

/-- The expiry that an update asks for, no later than the end of the event. -/
def newExpiresAt (dto : UpdateC2bServiceDto) (endsAt : Time) : Except AuthError (Option Time) :=
  match dto.expiresAt.join with
  | none => .ok none
  | some requested => do
    let requested ← present requested (refusal .badRequest "Invalid expiration date format")
    return some (clamped endsAt requested)

def updateService (providerId serviceId : String) (dto : UpdateC2bServiceDto) (client : Client) :
    OfferCall C2bServiceResponseDto := do
  assertActiveProvider providerId
  let found ← Call.reads "c2bService.findFirst" fun _ (db : OfferDb) ↦
    ((db.market.c2bServices.get? serviceId).filter (·.deletedAt.isNone)).bind fun s ↦
      (db.schedule.events.get? s.eventId).map fun event ↦ (s, event)
  let (service, event) ← Call.returned (present found (refusal .notFound "Service not found"))
  Call.returned (demand (service.providerId = providerId)
    (refusal .forbidden "You are not authorized to update this service"))
  let expiresAt ← Call.returned (newExpiresAt dto event.endsAt)
  let updated ← Call.writes "c2bService.update" (serviceUpdate serviceId dto expiresAt)
  Platform.log
    { actorUserId := some providerId
      action := "C2B_SERVICE_UPDATED"
      resourceType := "c2b_service"
      resourceId := some serviceId
      metadata := [("changes", dto.changes)] } client
  return updated

end C2bServicesService

end Innovents.Marketplace
