import Innovents.Marketplace.Schema

namespace Innovents.Marketplace

open Innovents.Lib Innovents.Auth
open Innovents.Payments (Time Money)

inductive PricingModel
  | fixed | hourly | daily | perUnit | custom
  deriving DecidableEq, Repr

structure VendorService where
  id : String
  vendorId : String
  name : String
  description : String
  category : String
  pricingModel : PricingModel
  price : Money
  currency : String
  deliveryDuration : String
  serviceAreas : List String
  tags : List String
  minimumOrder : ℤ
  isActive : Bool
  createdAt : Time
  deletedAt : Option Time

instance : Row VendorService := ⟨VendorService.id, []⟩

end Innovents.Marketplace
