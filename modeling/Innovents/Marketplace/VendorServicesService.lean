import Innovents.Lib.Pages
import Innovents.Marketplace.C2bServicesService
import Innovents.Marketplace.RfqCreation

namespace Innovents.Marketplace

open Innovents.Lib Innovents.Auth Innovents.Platform
open Innovents.Payments (Time Money)

/-- A field that may be missing may be `null` too. -/
structure CreateVendorServiceDto where
  name : String
  description : String
  category : String
  pricingModel : Option (Option PricingModel)
  price : ℚ
  currency : Option String
  deliveryDuration : String
  serviceAreas : Option (List String)
  tags : Option (List String)
  minimumOrder : Option ℤ
  isActive : Option (Option Bool)

/-- `keys` are the keys of the body in their order. -/
structure UpdateVendorServiceDto where
  keys : List String
  name : Option (Option String)
  description : Option (Option String)
  category : Option (Option String)
  pricingModel : Option (Option PricingModel)
  price : Option (Option ℚ)
  currency : Option (Option String)
  deliveryDuration : Option (Option String)
  serviceAreas : Option (Option (List String))
  tags : Option (Option (List String))
  minimumOrder : Option (Option ℤ)
  isActive : Option (Option Bool)

structure VendorServiceResponseDto where
  id : String
  vendorId : String
  name : String
  description : String
  category : String
  pricingModel : PricingModel
  price : ℚ
  currency : String
  deliveryDuration : String
  serviceAreas : List String
  tags : List String
  minimumOrder : ℤ
  isActive : Bool
  createdAt : Time
  deletedAt : Option Time

structure PaginatedVendorServicesDto where
  items : List VendorServiceResponseDto
  total : ℕ
  page : ℤ
  limit : ℕ
  totalPages : ℕ

namespace VendorServicesService

def mapToResponse (s : VendorService) : VendorServiceResponseDto where
  id := s.id
  vendorId := s.vendorId
  name := s.name
  description := s.description
  category := s.category
  pricingModel := s.pricingModel
  price := s.price.toNumber
  currency := s.currency
  deliveryDuration := s.deliveryDuration
  serviceAreas := s.serviceAreas
  tags := s.tags
  minimumOrder := s.minimumOrder
  isActive := s.isActive
  createdAt := s.createdAt
  deletedAt := s.deletedAt

def assertActiveVendor (userId : String) : VendorCall Unit := do
  let found ← Call.reads "user.findFirst" fun _ (db : VendorDb) ↦
    (db.market.accounts.users.get? userId).filter (·.deletedAt.isNone)
  let user ← Call.returned (present found (refusal .notFound "Vendor account not found"))
  Call.returned (demand (user.status = .active) (refusal .forbidden s!"Account is {AdminUsersService.accountStatusText user.status}. Only active vendors can perform this action."))
  Call.returned (demand ("VENDOR" ∈ user.userRoles)
    (refusal .forbidden "Only users with the VENDOR role can manage vendor services."))

/-- `vendorService.create` -/
def serviceCreate (vendorId : String) (dto : CreateVendorServiceDto) (env : AuthEnv)
    (db : VendorDb) : Except AuthError (VendorDb × VendorService) := do
  let price ← moneyOf dto.price
  let pricingModel ← Events.given "pricingModel" dto.pricingModel
  let isActive ← Events.given "isActive" dto.isActive
  demand (db.market.accounts.users.has vendorId) (.fault "Foreign key constraint violated")
  let service : VendorService :=
    { id := env.idFor db.vendorServices
      vendorId
      name := dto.name
      description := dto.description
      category := dto.category
      pricingModel := pricingModel.getD .fixed
      price
      currency := (dto.currency.filter (· ≠ "")).getD "SAR"
      deliveryDuration := dto.deliveryDuration
      serviceAreas := dto.serviceAreas.getD []
      tags := dto.tags.getD []
      minimumOrder := (dto.minimumOrder.filter (· ≠ 0)).getD 1
      isActive := isActive.getD true
      createdAt := env.now
      deletedAt := none }
  let vendorServices ← ofRefusal (db.vendorServices.create service)
  return ({ db with vendorServices }, service)

/-- An entry of the log about a service. -/
def serviceAudit (action vendorId serviceId : String) (metadata : List (String × JsValue)) :
    CreateAuditLogParams where
  actorUserId := some vendorId
  action
  resourceType := "vendor_service"
  resourceId := some serviceId
  metadata

def createService (vendorId : String) (dto : CreateVendorServiceDto) (client : Client) :
    VendorCall VendorServiceResponseDto := do
  assertActiveVendor vendorId
  let created ← Call.writes "vendorService.create" (serviceCreate vendorId dto)
  Platform.log (serviceAudit "SERVICE_CREATED" vendorId created.id
    [("name", .str created.name), ("category", .str created.category), ("price", .num dto.price)])
    client
  return mapToResponse created

/-- `Math.min(Math.max(1, limit), 100)` -/
def boundedLimit (limit : ℤ) : ℕ := (min (max 1 limit) 100).toNat

/-- `Math.max(1, page) - 1` -/
def pagesBefore (page : ℤ) : ℕ := (max 1 page - 1).toNat

def ownedBy (vendorId : String) (s : VendorService) : Bool :=
  s.vendorId == vendorId && s.deletedAt.isNone

/-- `orderBy: { createdAt: 'desc' }` -/
def Newer (a b : VendorService) : Prop := b.createdAt ≤ a.createdAt

instance : DecidableRel Newer := fun a b ↦ inferInstanceAs (Decidable (b.createdAt ≤ a.createdAt))

def getMyServices (vendorId : String) (page limit : ℤ) : VendorCall PaginatedVendorServicesDto := do
  assertActiveVendor vendorId
  let items ← Call.reads "vendorService.findMany" fun _ (db : VendorDb) ↦
    Lib.page (boundedLimit limit)
      ((db.vendorServices.rows.filter (ownedBy vendorId)).insertionSort Newer) (pagesBefore page)
  let total ← Call.reads "vendorService.count" fun _ (db : VendorDb) ↦
    db.vendorServices.rows.countP (ownedBy vendorId)
  return {
    items := items.map mapToResponse
    total
    page
    limit := boundedLimit limit
    totalPages := max 1 (pageCount total (boundedLimit limit)) }

/-- A service that is not deleted. -/
def existingService (serviceId : String) (db : VendorDb) : Option VendorService :=
  (db.vendorServices.get? (uuid serviceId)).filter (·.deletedAt.isNone)

def getMyServiceById (vendorId serviceId : String) : VendorCall VendorServiceResponseDto := do
  assertActiveVendor vendorId
  let found ← Call.reads "vendorService.findFirst" fun _ (db : VendorDb) ↦
    (existingService serviceId db).filter (·.vendorId == vendorId)
  let service ← Call.returned (present found
    (refusal .notFound "Service not found or access denied"))
  return mapToResponse service

/-- The service that a vendor wants to `action`, which must be the vendor's own. -/
def assertOwnService (vendorId serviceId action : String) : VendorCall Unit := do
  assertActiveVendor vendorId
  let found ← Call.reads "vendorService.findFirst" fun _ ↦ existingService serviceId
  let existing ← Call.returned (present found (refusal .notFound "Service not found"))
  Call.returned (demand (existing.vendorId = vendorId)
    (refusal .forbidden s!"You do not have permission to {action} this service"))

/-- `vendorService.update`, which returns the new row. -/
def serviceUpdate (serviceId : String) (change : VendorService → VendorService) (db : VendorDb) :
    Except AuthError (VendorDb × VendorService) := do
  let vendorServices ← ofRefusal (db.vendorServices.update (uuid serviceId) change)
  let updated ← present (vendorServices.get? (uuid serviceId)) (.prisma .recordNotFound)
  return ({ db with vendorServices }, updated)

/-- The fields that are given; none of them may be `null`. -/
def detailsUpdate (serviceId : String) (dto : UpdateVendorServiceDto) (price : Option Money)
    (_ : AuthEnv) (db : VendorDb) : Except AuthError (VendorDb × VendorService) := do
  let name ← Events.given "name" dto.name
  let description ← Events.given "description" dto.description
  let category ← Events.given "category" dto.category
  let pricingModel ← Events.given "pricingModel" dto.pricingModel
  let currency ← Events.given "currency" dto.currency
  let deliveryDuration ← Events.given "deliveryDuration" dto.deliveryDuration
  let serviceAreas ← Events.given "serviceAreas" dto.serviceAreas
  let tags ← Events.given "tags" dto.tags
  let minimumOrder ← Events.given "minimumOrder" dto.minimumOrder
  let isActive ← Events.given "isActive" dto.isActive
  serviceUpdate serviceId (fun s ↦
    { s with
      name := name.getD s.name
      description := description.getD s.description
      category := category.getD s.category
      pricingModel := pricingModel.getD s.pricingModel
      price := price.getD s.price
      currency := currency.getD s.currency
      deliveryDuration := deliveryDuration.getD s.deliveryDuration
      serviceAreas := serviceAreas.getD s.serviceAreas
      tags := tags.getD s.tags
      minimumOrder := minimumOrder.getD s.minimumOrder
      isActive := isActive.getD s.isActive }) db

/-- `new Prisma.Decimal(dto.price)`, if the field is given, where `null` is no decimal. -/
def givenPrice (price : Option (Option ℚ)) : Except AuthError (Option Money) :=
  match price with
  | none => .ok none
  | some none => .error (.fault "[DecimalError] Invalid argument: null")
  | some (some d) => (moneyOf d).map some

def updateService (vendorId serviceId : String) (dto : UpdateVendorServiceDto) (client : Client) :
    VendorCall VendorServiceResponseDto := do
  assertOwnService vendorId serviceId "modify"
  let price ← Call.returned (givenPrice dto.price)
  let updated ← Call.writes "vendorService.update" (detailsUpdate serviceId dto price)
  Platform.log (serviceAudit "SERVICE_UPDATED" vendorId serviceId
    [("changedKeys", .arr (dto.keys.map JsValue.str))]) client
  return mapToResponse updated

def updateServiceStatus (vendorId serviceId : String) (isActive : Bool) (action : String)
    (client : Client) : VendorCall VendorServiceResponseDto := do
  assertOwnService vendorId serviceId "update"
  let updated ← Call.writes "vendorService.update" fun _ ↦
    serviceUpdate serviceId fun s ↦ { s with isActive }
  Platform.log (serviceAudit action vendorId serviceId [("isActive", .bool isActive)]) client
  return mapToResponse updated

def activateService (vendorId serviceId : String) : Client → VendorCall VendorServiceResponseDto :=
  updateServiceStatus vendorId serviceId true "SERVICE_ACTIVATED"

def deactivateService (vendorId serviceId : String) : Client → VendorCall VendorServiceResponseDto :=
  updateServiceStatus vendorId serviceId false "SERVICE_DEACTIVATED"

def deleteService (vendorId serviceId : String) (client : Client) :
    VendorCall (Bool × String) := do
  assertOwnService vendorId serviceId "delete"
  let _ ← Call.writes "vendorService.update" fun env ↦
    serviceUpdate serviceId fun s ↦
      { s with
        deletedAt := some env.now
        isActive := false }
  Platform.log (serviceAudit "SERVICE_DELETED" vendorId serviceId []) client
  return (true, "Service deleted successfully")

end VendorServicesService

end Innovents.Marketplace
