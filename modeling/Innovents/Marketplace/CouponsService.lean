import Innovents.Marketplace.Schema

namespace Innovents.Marketplace

open Innovents.Lib Innovents.Auth
open Innovents.Payments (Time Money)

/-- The functions of the language that the service applies to a code. -/
structure CodeText where
  trim : String → String
  toUpperCase : String → String

def CodeText.normalized (text : CodeText) (code : String) : String := text.toUpperCase (text.trim code)

structure CreateCouponDto where
  eventId : String
  serviceId : Option String
  code : String
  description : Option String
  discountType : DiscountType
  discountValue : ℚ
  maxRedemptions : Option ℤ
  startsAt : Option Time
  expiresAt : Time
  isActive : Option Bool

/-- Each field may be missing, and may be `null`. -/
structure UpdateCouponDto where
  serviceId : Option (Option String)
  description : Option (Option String)
  discountType : Option (Option DiscountType)
  discountValue : Option (Option ℚ)
  maxRedemptions : Option (Option ℤ)
  startsAt : Option (Option Time)
  expiresAt : Option (Option Time)
  isActive : Option (Option Bool)

structure ValidateCouponDto where
  code : String
  eventId : String
  serviceId : Option String

structure RedeemCouponDto extends ValidateCouponDto where
  idempotencyKey : Option String

structure CouponResponseDto where
  id : String
  providerId : String
  eventId : String
  serviceId : Option String
  code : String
  normalizedCode : String
  description : Option String
  discountType : DiscountType
  discountValue : ℚ
  maxRedemptions : Option ℤ
  redemptionCount : ℤ
  startsAt : Option Time
  expiresAt : Time
  isActive : Bool
  createdAt : Time
  updatedAt : Time

structure CouponValidationResultDto where
  valid : Bool
  message : Option String
  coupon : Option CouponResponseDto
  estimatedDiscount : Option ℚ

structure CouponRedemptionResponseDto where
  redemptionId : String
  couponId : String
  code : String
  discountAmount : ℚ
  redeemedAt : Time

def DiscountType.text : DiscountType → String
  | percentage => "PERCENTAGE"
  | fixedAmount => "FIXED_AMOUNT"

/-- The fields of an update that are given, as JSON. -/
def UpdateCouponDto.changes (dto : UpdateCouponDto) : JsValue :=
  let field {α : Type} (key : String) (f : α → JsValue) (v : Option (Option α)) :=
    v.toList.map fun a ↦ (key, a.elim JsValue.null f)
  .obj (field "serviceId" .str dto.serviceId ++ field "description" .str dto.description ++
    field "discountType" (fun t ↦ .str t.text) dto.discountType ++
    field "discountValue" .num dto.discountValue ++
    field "maxRedemptions" (fun n : ℤ ↦ .num n) dto.maxRedemptions ++
    field "startsAt" .date dto.startsAt ++ field "expiresAt" .date dto.expiresAt ++
    field "isActive" .bool dto.isActive)

/-- A key that is supplied; the empty one is not. -/
def RedeemCouponDto.suppliedKey (dto : RedeemCouponDto) : Option String :=
  dto.idempotencyKey.filter (· ≠ "")

/-- The amount as a column of ten digits keeps it. -/
def discountOf (d : ℚ) : Except AuthError Money := do
  let m ← moneyOf d
  if |m.cents| < 10 ^ 10 then return m else .error (.fault "numeric field overflow")

/-- `new Prisma.Decimal(dto.discountValue)`, if the field is given. -/
def UpdateCouponDto.newDiscountValue (dto : UpdateCouponDto) : Except AuthError (Option Money) :=
  match dto.discountValue with
  | none => .ok none
  | some none => .error (.fault "[DecimalError] Invalid argument: null")
  | some (some d) => (discountOf d).map some

/-- The column does not take `null`. -/
def UpdateCouponDto.newIsActive (dto : UpdateCouponDto) : Except AuthError (Option Bool) :=
  match dto.isActive with
  | none => .ok none
  | some none => .error (.fault "Argument isActive must not be null.")
  | some (some isActive) => .ok (some isActive)

namespace CouponsService

def mapToDto (coupon : Coupon) : CouponResponseDto where
  id := coupon.id
  providerId := coupon.providerId
  eventId := coupon.eventId
  serviceId := coupon.serviceId
  code := coupon.code
  normalizedCode := coupon.normalizedCode
  description := coupon.description
  discountType := coupon.discountType
  discountValue := coupon.discountValue.toNumber
  maxRedemptions := coupon.maxRedemptions
  redemptionCount := coupon.redemptionCount
  startsAt := coupon.startsAt
  expiresAt := coupon.expiresAt
  isActive := coupon.isActive
  createdAt := coupon.createdAt
  updatedAt := coupon.updatedAt

def assertActiveProvider (userId : String) : MarketCall Unit := do
  let user ← finds "user.findFirst" fun _ db ↦
    (db.accounts.users.get? userId).filter (·.deletedAt.isNone)
  match user with
  | none => throws .notFound "Provider account not found"
  | some user =>
    if user.status ≠ .active then
      throws .forbidden s!"Account is {AdminUsersService.accountStatusText user.status}. Only active providers can manage coupons."
    else if "PROVIDER" ∉ user.userRoles then
      throws .forbidden "Only providers can manage coupons."
    else return

/-- `requested > event.endsAt ? event.endsAt : requested` -/
def clampedExpiresAt (event : Event) (requested : Time) : Time :=
  if requested > event.endsAt then event.endsAt else requested

/-- `coupon.create` -/
def couponCreate (text : CodeText) (providerId : String) (dto : CreateCouponDto) (event : Event)
    (env : AuthEnv) (db : MarketDb) : Except AuthError (MarketDb × Coupon) := do
  let discountValue ← discountOf dto.discountValue
  let coupon : Coupon :=
    { id := env.idFor db.coupons
      providerId
      eventId := dto.eventId
      serviceId := dto.serviceId.filter (· ≠ "")
      code := text.trim dto.code
      normalizedCode := text.normalized dto.code
      description := dto.description
      discountType := dto.discountType
      discountValue
      maxRedemptions := dto.maxRedemptions
      redemptionCount := 0
      startsAt := dto.startsAt
      expiresAt := clampedExpiresAt event dto.expiresAt
      isActive := dto.isActive.getD true
      createdAt := env.now
      updatedAt := env.now
      deletedAt := none }
  let coupons ← ofRefusal (db.coupons.create coupon)
  return ({ db with coupons }, coupon)

def createCoupon (text : CodeText) (providerId : String) (dto : CreateCouponDto) (client : Client) :
    MarketCall CouponResponseDto := do
  assertActiveProvider providerId
  let (event, now) ← finds "event.findFirst" fun env db ↦
    ((db.events.get? dto.eventId).filter (·.deletedAt.isNone), env.now)
  match event with
  | none => throws .notFound "Event not found"
  | some event =>
    if event.endsAt ≤ now then
      throws .badRequest "Cannot create coupon for an event that has already ended"
    else do
      let existing ← finds "coupon.findUnique" fun _ db ↦
        db.coupons.find? (·.normalizedCode == text.normalized dto.code)
      if existing.isSome then
        throws .conflict s!"Coupon code '{text.normalized dto.code}' already exists"
      else do
        let coupon ← stores "coupon.create" (couponCreate text providerId dto event)
        log
          { actorUserId := some providerId
            action := "COUPON_CREATED"
            resourceType := "coupon"
            resourceId := some coupon.id
            metadata := [("code", .str (text.normalized dto.code)), ("eventId", .str dto.eventId)] }
          client
        return mapToDto coupon

/-- `coupon.update`, which returns the new row. -/
def couponUpdate (couponId : String) (dto : UpdateCouponDto) (event : Event) (env : AuthEnv)
    (db : MarketDb) : Except AuthError (MarketDb × Coupon) := do
  let discountValue ← dto.newDiscountValue
  let isActive ← dto.newIsActive
  let coupons ← ofRefusal (db.coupons.update couponId fun c ↦
    { c with
      description := dto.description.getD c.description
      discountType := dto.discountType.join.getD c.discountType
      discountValue := discountValue.getD c.discountValue
      maxRedemptions := dto.maxRedemptions.getD c.maxRedemptions
      startsAt := dto.startsAt.join.or c.startsAt
      expiresAt := (dto.expiresAt.join.map (clampedExpiresAt event)).getD c.expiresAt
      isActive := isActive.getD c.isActive
      updatedAt := env.now })
  match coupons.get? couponId with
  | some c => return ({ db with coupons }, c)
  | none => .error (.prisma .recordNotFound)

def updateCoupon (providerId couponId : String) (dto : UpdateCouponDto) (client : Client) :
    MarketCall CouponResponseDto := do
  assertActiveProvider providerId
  let found ← finds "coupon.findFirst" fun _ db ↦
    (((db.coupons.get? couponId).filter (·.deletedAt.isNone)).bind fun c ↦
      (db.events.get? c.eventId).map fun event ↦ (c, event))
  match found with
  | none => throws .notFound "Coupon not found"
  | some (coupon, event) =>
    if coupon.providerId ≠ providerId then
      throws .forbidden "You are not authorized to update this coupon"
    else do
      let updated ← stores "coupon.update" (couponUpdate couponId dto event)
      log
        { actorUserId := some providerId
          action := "COUPON_UPDATED"
          resourceType := "coupon"
          resourceId := some couponId
          metadata := [("changes", dto.changes)] } client
      return mapToDto updated

/-- A coupon with its provider and its event. -/
def couponByCode (normalizedCode : String) (db : MarketDb) : Option (Coupon × User × Event) := do
  let coupon ← db.coupons.find? fun c ↦ c.normalizedCode == normalizedCode && c.deletedAt.isNone
  let provider ← db.accounts.users.get? coupon.providerId
  let event ← db.events.get? coupon.eventId
  return (coupon, provider, event)

def redemptionOf (couponId attendeeId : String) (db : MarketDb) : Option CouponRedemption :=
  db.couponRedemptions.find? fun r ↦ r.couponId == couponId && r.attendeeId == attendeeId

def invalid (message : String) : CouponValidationResultDto := ⟨false, some message, none, none⟩

def validateCoupon (text : CodeText) (dto : ValidateCouponDto) (attendeeId : Option String) :
    MarketCall CouponValidationResultDto := do
  let (found, now) ← finds "coupon.findFirst" fun env db ↦
    (couponByCode (text.normalized dto.code) db, env.now)
  match found with
  | none => return invalid "Invalid coupon code"
  | some (coupon, provider, event) =>
    if ¬coupon.isActive then return invalid "Coupon is not active"
    else if coupon.expiresAt ≤ now ∨ event.endsAt ≤ now then return invalid "Coupon has expired"
    else if ∃ startsAt ∈ coupon.startsAt, startsAt > now then
      return invalid "Coupon is not yet active"
    else if coupon.eventId ≠ dto.eventId then return invalid "Coupon is not valid for this event"
    else if ∃ c ∈ coupon.serviceId.filter (· ≠ ""), ∃ s ∈ dto.serviceId.filter (· ≠ ""), c ≠ s then
      return invalid "Coupon is not valid for this service"
    else if ∃ m ∈ coupon.maxRedemptions, coupon.redemptionCount ≥ m then
      return invalid "Coupon redemption limit reached"
    else if provider.status ≠ .active then return invalid "Coupon provider is not active"
    else
      let valid : CouponValidationResultDto :=
        ⟨true, some "Coupon is valid", some (mapToDto coupon), some coupon.discountValue.toNumber⟩
      match attendeeId.filter (· ≠ "") with
      | none => return valid
      | some attendeeId => do
        let existing ← finds "couponRedemption.findUnique" fun _ db ↦
          redemptionOf coupon.id attendeeId db
        if existing.isSome then return invalid "You have already redeemed this coupon"
        else return valid

/-- What a redemption and the code of its coupon show. -/
def redemptionDto (r : CouponRedemption) (code : String) : CouponRedemptionResponseDto where
  redemptionId := r.id
  couponId := r.couponId
  code
  discountAmount := r.discountAmount.elim 0 Money.toNumber
  redeemedAt := r.redeemedAt

/-- The redemption with this key and its coupon. -/
def redemptionWithKey (key : String) (db : MarketDb) : Option (CouponRedemption × Coupon) := do
  let r ← db.couponRedemptions.find? (·.idempotencyKey == some key)
  let coupon ← db.coupons.get? r.couponId
  return (r, coupon)

/-- The coupons that the conditional `UPDATE` matches. -/
def redeemable (couponId : String) (now : Time) (c : Coupon) : Bool :=
  c.id == couponId && c.isActive && now < c.expiresAt && c.startsAt.all (· ≤ now) &&
    c.maxRedemptions.all (c.redemptionCount < ·) && c.deletedAt.isNone

/-- The transaction of a redemption, with the coupon as it was found valid. -/
def redemption (attendeeId : String) (dto : RedeemCouponDto) (coupon : CouponResponseDto)
    (estimatedDiscount : Option ℚ) (env : AuthEnv) (db : MarketDb) :
    Except AuthError (MarketDb × CouponRedemption × Coupon) := do
  if (redemptionOf coupon.id attendeeId db).isSome then
    refuse .conflict "Coupon has already been redeemed by this attendee"
  else if db.coupons.rows.countP (redeemable coupon.id env.now) = 0 then
    refuse .conflict "Coupon has reached its maximum redemptions or has expired"
  else do
    let coupons ← ofRefusal (db.coupons.updateMany (redeemable coupon.id env.now) fun c ↦
      { c with redemptionCount := c.redemptionCount + 1 })
    let discountAmount ← discountOf (estimatedDiscount.getD 0)
    let newRedemption : CouponRedemption :=
      { id := env.idFor db.couponRedemptions
        couponId := coupon.id
        attendeeId
        eventId := dto.eventId
        serviceId := dto.serviceId.filter (· ≠ "")
        discountAmount := some discountAmount
        idempotencyKey := dto.suppliedKey
        redeemedAt := env.now }
    let couponRedemptions ← ofRefusal (db.couponRedemptions.create newRedemption)
    match coupons.get? coupon.id with
    | none => .error (.prisma .recordNotFound)
    | some redeemed => do
      let db ← enqueued
        { eventType := "COUPON_REDEEMED"
          aggregateType := "coupon"
          aggregateId := coupon.id
          payload := [("redemptionId", .str newRedemption.id),
            ("providerId", .str coupon.providerId), ("attendeeId", .str attendeeId),
            ("code", .str coupon.code)] } env
        { db with
          coupons
          couponRedemptions }
      return (db, newRedemption, redeemed)

/-- The redemption of a code whose key, if there is one, is new. -/
def redeemNew (text : CodeText) (attendeeId : String) (dto : RedeemCouponDto) (client : Client) :
    MarketCall CouponRedemptionResponseDto := do
  let validation ← validateCoupon text dto.toValidateCouponDto (some attendeeId)
  match validation.coupon.filter fun _ ↦ validation.valid with
  | none =>
    throws .badRequest ((validation.message.filter (· ≠ "")).getD "Invalid coupon redemption request")
  | some coupon => do
    let (r, redeemed) ← stores "$transaction"
      (redemption attendeeId dto coupon validation.estimatedDiscount)
    log
      { actorUserId := some attendeeId
        action := "COUPON_REDEEMED"
        resourceType := "coupon_redemption"
        resourceId := some r.id
        metadata := [("couponId", .str coupon.id), ("code", .str (text.normalized dto.code))] } client
    return redemptionDto r redeemed.code

def redeemCoupon (text : CodeText) (attendeeId : String) (dto : RedeemCouponDto) (client : Client) :
    MarketCall CouponRedemptionResponseDto :=
  match dto.suppliedKey with
  | none => redeemNew text attendeeId dto client
  | some key => do
    let existing ← finds "couponRedemption.findUnique" fun _ db ↦ redemptionWithKey key db
    match existing with
    | some (r, coupon) => return redemptionDto r coupon.code
    | none => redeemNew text attendeeId dto client

end CouponsService

end Innovents.Marketplace
