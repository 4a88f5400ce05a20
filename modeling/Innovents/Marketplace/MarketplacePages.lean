import Innovents.Marketplace.RfqCalls
import Innovents.Marketplace.VendorDiscovery

namespace Innovents.Marketplace

open Innovents.Lib Innovents.Auth Innovents.Platform
open Innovents.Payments (Time Money)

namespace B2bMarketplaceService

open VendorServicesService (boundedLimit pagesBefore)
open RfqService (serviceIds checkVendor CheckPasses checkServices_passes AllOffered)

section Limits

theorem boundedLimit_pos (limit : ℤ) : 0 < boundedLimit limit := by
  unfold boundedLimit
  omega

end Limits

section Services

variable {t : Collation} {query : MarketplaceSearchQueryDto} {db : VendorDb} {s : VendorService}
  {serviceId : String} {item : MarketplaceServiceItemDto}

def atPage (query : MarketplaceSearchQueryDto) (p : ℕ) : MarketplaceSearchQueryDto :=
  { query with page := some p }

/-- An answer of `discoverServices`. -/
def Discovers (t : Collation) (query : MarketplaceSearchQueryDto) (db : VendorDb)
    (answer : PaginatedMarketplaceServicesDto) : Prop :=
  ∃ db', (discoverServices t query).Ran (fun _ ↦ True) db (.ok answer) db'

/-- An answer of `getServiceDetails`. -/
def Shows (serviceId : String) (db : VendorDb) (item : MarketplaceServiceItemDto) : Prop :=
  ∃ db', (getServiceDetails serviceId).Ran (fun _ ↦ True) db (.ok item) db'

def found (t : Collation) (query : MarketplaceSearchQueryDto) (db : VendorDb) : List VendorService :=
  db.vendorServices.rows.filter (matchesQuery t query db)

instance (sortBy : ServiceSort) : Std.Total (Upward t sortBy) := ⟨fun a b ↦ by
  cases sortBy with
  | createdAt => exact le_total a.createdAt b.createdAt
  | price => exact le_total a.price.cents b.price.cents
  | name => exact t.total a.name b.name⟩

instance (sortBy : ServiceSort) : IsTrans VendorService (Upward t sortBy) := ⟨fun a b c h h' ↦ by
  cases sortBy with
  | createdAt => exact le_trans (α := ℤ) h h'
  | price => exact le_trans (α := ℤ) h h'
  | name => exact t.trans _ _ _ h h'⟩

instance (order : SortOrder) (R : VendorService → VendorService → Prop) [Std.Total R] :
    Std.Total (Directed order R) := ⟨fun a b ↦ by
  cases order with
  | asc => exact Std.Total.total (r := R) a b
  | desc => exact Std.Total.total (r := R) b a⟩

instance (order : SortOrder) (R : VendorService → VendorService → Prop)
    [IsTrans VendorService R] : IsTrans VendorService (Directed order R) := ⟨fun a b c h h' ↦ by
  cases order with
  | asc => exact IsTrans.trans (r := R) a b c h h'
  | desc => exact IsTrans.trans (r := R) c b a h' h⟩

theorem discovers_iff {a : PaginatedMarketplaceServicesDto} : Discovers t query db a ↔ a =
    { items := (page (boundedLimit (query.limit.getD 20)) ((found t query db).insertionSort
        (InOrder t query)) (pagesBefore (query.page.getD 1))).map (toItem db)
      total := db.vendorServices.rows.countP (matchesQuery t query db)
      page := query.page.getD 1
      limit := boundedLimit (query.limit.getD 20)
      totalPages := max 1 (pageCount (db.vendorServices.rows.countP (matchesQuery t query db))
        (boundedLimit (query.limit.getD 20))) } := by
  unfold Discovers discoverServices
  simp only [Call.bind_eq, Call.ran_bind_ok, ran_look]
  constructor
  · rintro ⟨db', _, _, ⟨rfl, rfl⟩, _, _, ⟨rfl, rfl⟩, hanswer⟩
    obtain ⟨hanswer, -⟩ := Call.ran_returned_ok.mp hanswer
    exact (Except.ok.inj hanswer).symm
  · rintro rfl
    exact ⟨db, _, db, ⟨rfl, rfl⟩, _, db, ⟨rfl, rfl⟩, .returned⟩

end Services

section Vendors

variable {t : Collation} {query : VendorDiscoveryQueryDto} {db : VendorDb} {user : User}
  {vendorId : String} {details : PublicVendorSummaryDto}

/-- The details as a list has them, with something in the place of names that are empty. -/
def named (details : PublicVendorSummaryDto) : PublicVendorSummaryDto :=
  { details with
    companyName := (given (some details.companyName)).getD "Vendor Company"
    serviceCategory := (given (some details.serviceCategory)).getD "Vendor" }

instance : Std.Total Later := ⟨fun a b ↦ le_total b.createdAt a.createdAt⟩

instance : IsTrans User Later := ⟨fun _ _ _ h h' ↦ le_trans (α := ℤ) h' h⟩

end Vendors

section Requests

variable {db : VendorDb} {vendorId : String} {dto : CreateRfqDto}

end Requests

end B2bMarketplaceService

end Innovents.Marketplace
