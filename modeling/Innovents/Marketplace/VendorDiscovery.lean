import Innovents.Marketplace.VendorServicesService

namespace Innovents.Marketplace

open Innovents.Lib Innovents.Auth Innovents.Platform
open Innovents.Payments (Time Money)

/-- What the database makes of texts: whether one contains another, or is the same, in any case, and
which comes before which. -/
structure Collation where
  contains : String → String → Bool
  equals : String → String → Bool
  le : String → String → Bool
  total : ∀ a b, le a b = true ∨ le b a = true
  trans : ∀ a b c, le a b = true → le b c = true → le a c = true

inductive ServiceSort
  | createdAt | price | name
  deriving DecidableEq, Repr

inductive SortOrder
  | asc | desc
  deriving DecidableEq, Repr

structure MarketplaceSearchQueryDto where
  search : Option String
  category : Option String
  serviceArea : Option String
  tag : Option String
  vendorId : Option String
  minPrice : Option ℚ
  maxPrice : Option ℚ
  page : Option ℤ
  limit : Option ℤ
  sortBy : Option ServiceSort
  sortOrder : Option SortOrder

structure PublicVendorSummaryDto where
  id : String
  companyName : String
  logoUrl : Option String
  serviceCategory : String
  city : Option String
  country : Option String
  website : Option String
  description : Option String
  deriving DecidableEq

structure MarketplaceServiceItemDto where
  id : String
  name : String
  description : String
  category : String
  pricingModel : PricingModel
  price : ℚ
  currency : String
  deliveryDuration : String
  serviceAreas : List String
  tags : List String
  minimumOrder : ℤ
  createdAt : Time
  vendor : PublicVendorSummaryDto

structure PaginatedMarketplaceServicesDto where
  items : List MarketplaceServiceItemDto
  total : ℕ
  page : ℤ
  limit : ℕ
  totalPages : ℕ

namespace B2bMarketplaceService

open VendorServicesService (boundedLimit pagesBefore)

/-- The columns of a vendor's profile that are selected. -/
structure VendorProfile where
  companyName : String
  logoUrl : Option String
  serviceCategory : String
  city : Option String
  country : Option String
  website : Option String
  description : Option String

def profileOf (vendorId : String) (db : VendorDb) : Option VendorProfile :=
  (db.market.accounts.profiles.find? fun p ↦
    p.table == "vendor_profiles" && p.userId == vendorId).map fun p ↦
      let column (name : String) := (p.columns.lookup name).join
      { companyName := (column "companyName").getD ""
        logoUrl := column "logoUrl"
        serviceCategory := (column "serviceCategory").getD ""
        city := column "city"
        country := column "country"
        website := column "website"
        description := column "description" }

/-- A text that is given, and is not empty. -/
abbrev given (text : Option String) : Option String := text.filter (· ≠ "")

def openAccount (user : User) : Bool := user.status == .active && user.deletedAt.isNone

/-- What the public queries ask of a service and of its vendor. -/
def isPublic (db : VendorDb) (s : VendorService) : Bool :=
  s.isActive && s.deletedAt.isNone && (db.market.accounts.users.get? s.vendorId).any openAccount

/-- The `where` of a search for services. -/
def matchesQuery (t : Collation) (query : MarketplaceSearchQueryDto) (db : VendorDb)
    (s : VendorService) : Bool :=
  isPublic db s &&
    ((given query.category).all (t.equals s.category)) &&
    ((given query.vendorId).all fun vendorId ↦ s.vendorId == uuid vendorId) &&
    ((given query.tag).all s.tags.contains) &&
    ((given query.serviceArea).all s.serviceAreas.contains) &&
    (query.minPrice.all fun least ↦ least ≤ s.price.toNumber) &&
    (query.maxPrice.all fun most ↦ s.price.toNumber ≤ most) &&
    ((given query.search).all fun search ↦ t.contains s.name search ||
      t.contains s.description search || t.contains s.category search ||
        (profileOf s.vendorId db).any fun p ↦ t.contains p.companyName search)

/-- `a` may stand before `b` in the ascending order. -/
def Upward (t : Collation) (sortBy : ServiceSort) (a b : VendorService) : Prop :=
  match sortBy with
  | .price => a.price.cents ≤ b.price.cents
  | .name => t.le a.name b.name = true
  | .createdAt => a.createdAt ≤ b.createdAt

instance (t : Collation) (sortBy : ServiceSort) : DecidableRel (Upward t sortBy) := fun a b ↦
  match sortBy with
  | .price => inferInstanceAs (Decidable (a.price.cents ≤ b.price.cents))
  | .name => inferInstanceAs (Decidable (t.le a.name b.name = true))
  | .createdAt => inferInstanceAs (Decidable (a.createdAt ≤ b.createdAt))

/-- The order, or the order backwards. -/
def Directed (order : SortOrder) (R : VendorService → VendorService → Prop) (a b : VendorService) :
    Prop :=
  match order with
  | .asc => R a b
  | .desc => R b a

instance (order : SortOrder) (R : VendorService → VendorService → Prop) [DecidableRel R] :
    DecidableRel (Directed order R) := fun a b ↦
  match order with
  | .asc => inferInstanceAs (Decidable (R a b))
  | .desc => inferInstanceAs (Decidable (R b a))

abbrev InOrder (t : Collation) (query : MarketplaceSearchQueryDto) :
    VendorService → VendorService → Prop :=
  Directed (query.sortOrder.getD .desc) (Upward t (query.sortBy.getD .createdAt))

/-- The vendor as services show it. -/
def vendorOf (s : VendorService) (db : VendorDb) : PublicVendorSummaryDto :=
  let profile := profileOf s.vendorId db
  let text (f : VendorProfile → Option String) := given (profile.bind f)
  { id := s.vendorId
    companyName := (text (some ·.companyName)).getD "Vendor Company"
    logoUrl := text (·.logoUrl)
    serviceCategory := (text (some ·.serviceCategory)).getD s.category
    city := text (·.city)
    country := text (·.country)
    website := text (·.website)
    description := text (·.description) }

def toItem (db : VendorDb) (s : VendorService) : MarketplaceServiceItemDto where
  id := s.id
  name := s.name
  description := s.description
  category := s.category
  pricingModel := s.pricingModel
  price := s.price.toNumber
  currency := s.currency
  deliveryDuration := s.deliveryDuration
  serviceAreas := s.serviceAreas
  tags := s.tags
  minimumOrder := s.minimumOrder
  createdAt := s.createdAt
  vendor := vendorOf s db

def discoverServices (t : Collation) (query : MarketplaceSearchQueryDto) :
    VendorCall PaginatedMarketplaceServicesDto := do
  let page := query.page.getD 1
  let limit := boundedLimit (query.limit.getD 20)
  let items ← Call.reads "vendorService.findMany" fun _ (db : VendorDb) ↦
    (Lib.page limit ((db.vendorServices.rows.filter (matchesQuery t query db)).insertionSort
      (InOrder t query)) (pagesBefore page)).map (toItem db)
  let total ← Call.reads "vendorService.count" fun _ (db : VendorDb) ↦
    db.vendorServices.rows.countP (matchesQuery t query db)
  return {
    items
    total
    page
    limit
    totalPages := max 1 (pageCount total limit) }

def getServiceDetails (serviceId : String) : VendorCall MarketplaceServiceItemDto := do
  let found ← Call.reads "vendorService.findFirst" fun _ (db : VendorDb) ↦
    ((db.vendorServices.get? (uuid serviceId)).filter (isPublic db)).map (toItem db)
  Call.returned (present found (refusal .notFound "Service not found or unavailable"))

/-- `orderBy: { createdAt: 'desc' }` -/
def Later (a b : User) : Prop := b.createdAt ≤ a.createdAt

instance : DecidableRel Later := fun a b ↦ inferInstanceAs (Decidable (b.createdAt ≤ a.createdAt))

end B2bMarketplaceService

end Innovents.Marketplace
