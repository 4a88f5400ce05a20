import Innovents.Marketplace.C2bServicesService
import Innovents.Marketplace.Statements

namespace Innovents.Marketplace

open Innovents.Lib Innovents.Auth Innovents.Platform

section Operations

inductive OfferOp
  | createService (providerId : String) (dto : CreateC2bServiceDto) (client : Client)
  | updateService (providerId serviceId : String) (dto : UpdateC2bServiceDto) (client : Client)
  | createCoupon (providerId : String) (dto : CreateCouponDto) (client : Client)
  | updateCoupon (providerId couponId : String) (dto : UpdateCouponDto) (client : Client)
  | updateEvent (eventId userId : String) (userRoles : List String) (dto : Events.UpdateEventDto)
      (client : Client)

inductive OfferReply
  | service (dto : C2bServiceResponseDto)
  | coupon (dto : CouponResponseDto)
  | event (dto : Events.EventResponseDto)

/-- The functions of the language that the services apply. -/
structure OfferText where
  code : CodeText
  event : Events.EventText

def OfferOp.runs (text : OfferText) : OfferOp → OfferCall OfferReply
  | createService providerId dto client =>
    .service <$> C2bServicesService.createService text.event.toISOString providerId dto client
  | updateService providerId serviceId dto client =>
    .service <$> C2bServicesService.updateService providerId serviceId dto client
  | createCoupon providerId dto client =>
    .coupon <$> (CouponsService.createCoupon text.code providerId dto client).focus
      OfferDb.marketView OfferDb.putMarket
  | updateCoupon providerId couponId dto client =>
    .coupon <$> (CouponsService.updateCoupon providerId couponId dto client).focus
      OfferDb.marketView OfferDb.putMarket
  | updateEvent eventId userId userRoles dto client =>
    .event <$> (Events.EventsService.update text.event eventId userId userRoles dto client).focus
      OfferDb.schedule OfferDb.putSchedule

end Operations

/-- No service and no coupon outlives its event. -/
structure Covered (db : OfferDb) : Prop where
  services : ∀ s ∈ db.market.c2bServices.rows, s.deletedAt = none →
    ∀ e ∈ db.schedule.events.get? s.eventId, s.expiresAt ≤ e.endsAt
  coupons : ∀ c ∈ db.market.coupons.rows, c.deletedAt = none →
    ∀ e ∈ db.schedule.events.get? c.eventId, c.expiresAt ≤ e.endsAt

/-- An update moves the end of the event behind the expiry of everything offered at it. -/
def OfferOp.Extends (op : OfferOp) (label : String) (db : OfferDb) : Prop :=
  match op with
  | updateEvent eventId _ _ dto _ => label = "$transaction" → ∀ endsAt ∈ dto.endsAt.join,
    (∀ s ∈ db.market.c2bServices.rows, s.eventId = eventId → s.deletedAt = none →
      s.expiresAt ≤ endsAt) ∧
    ∀ c ∈ db.market.coupons.rows, c.eventId = eventId → c.deletedAt = none → c.expiresAt ≤ endsAt
  | _ => True

instance (op : OfferOp) (label : String) (db : OfferDb) : Decidable (op.Extends label db) :=
  match op with
  | .updateEvent .. => inferInstanceAs (Decidable (_ → _))
  | .createService .. | .updateService .. | .createCoupon .. | .updateCoupon .. =>
    inferInstanceAs (Decidable True)

section Services

variable {env : AuthEnv} {db db' : OfferDb} {ok : String → OfferDb → Prop}

theorem clamped_le {endsAt requested : Payments.Time} :
    C2bServicesService.clamped endsAt requested ≤ endsAt := by
  unfold C2bServicesService.clamped
  split_ifs with h
  · exact le_refl _
  · exact not_lt.mp h

theorem beside_covered (db db' : OfferDb) (h : Beside db db') (hdb : Covered db) :
    Covered db' := by
  obtain ⟨accounts, rfl⟩ := h
  exact ⟨hdb.services, hdb.coupons⟩

theorem serviceCreate_covered {providerId : String} {dto : CreateC2bServiceDto}
    {expiresAt : Payments.Time} {r : C2bServiceResponseDto}
    (h : C2bServicesService.serviceCreate providerId dto expiresAt env db = .ok (db', r))
    (hdb : Covered db)
    (hexpiry : ∀ e ∈ db.schedule.events.get? dto.eventId, expiresAt ≤ e.endsAt) : Covered db' := by
  obtain ⟨price, -, h⟩ := andThen_eq_ok.mp h
  obtain ⟨services, hservices, h⟩ := andThen_eq_ok.mp h
  obtain ⟨details, -, h⟩ := andThen_eq_ok.mp h
  cases h
  refine ⟨fun s hs hdeleted e he ↦ ?_, hdb.coupons⟩
  rw [Table.create_eq_ok.mp (ofRefusal_eq_ok.mp hservices), List.mem_append,
    List.mem_singleton] at hs
  rcases hs with hs | rfl
  · exact hdb.services s hs hdeleted e he
  · exact hexpiry e he

theorem serviceUpdate_covered {serviceId : String} {dto : UpdateC2bServiceDto}
    {expiresAt : Option Payments.Time} {r : C2bServiceResponseDto}
    (h : C2bServicesService.serviceUpdate serviceId dto expiresAt env db = .ok (db', r))
    (hdb : Covered db) (hexpiry : ∀ t ∈ expiresAt, ∀ s ∈ db.market.c2bServices.get? serviceId,
      ∀ e ∈ db.schedule.events.get? s.eventId, t ≤ e.endsAt) : Covered db' := by
  obtain ⟨price, -, h⟩ := andThen_eq_ok.mp h
  obtain ⟨isAvailable, -, h⟩ := andThen_eq_ok.mp h
  obtain ⟨services, hservices, h⟩ := andThen_eq_ok.mp h
  obtain ⟨allDetails, -, h⟩ := andThen_eq_ok.mp h
  obtain ⟨service, -, h⟩ := andThen_eq_ok.mp h
  obtain ⟨details, -, h⟩ := andThen_eq_ok.mp h
  cases h
  refine ⟨fun s hs hdeleted e he ↦ ?_, hdb.coupons⟩
  rw [(Table.update_eq_ok.mp (ofRefusal_eq_ok.mp hservices)).2, Table.mem_updateRows] at hs
  rcases hs with ⟨old, hold, hid, rfl⟩ | ⟨hs, -⟩
  · cases expiresAt with
    | none => exact hdb.services old hold hdeleted e he
    | some t => exact hexpiry t rfl old (Table.get?_eq_some.mpr ⟨hold, hid⟩) e he
  · exact hdb.services s hs hdeleted e he

theorem newExpiresAt_le {dto : UpdateC2bServiceDto} {endsAt : Payments.Time}
    {expiresAt : Option Payments.Time}
    (h : C2bServicesService.newExpiresAt dto endsAt = .ok expiresAt) :
    ∀ t ∈ expiresAt, t ≤ endsAt := by
  unfold C2bServicesService.newExpiresAt at h
  split at h
  · cases h
    nofun
  · obtain ⟨requested, -, h⟩ := andThen_eq_ok.mp h
    cases h
    intro t ht
    cases ht
    exact clamped_le

theorem offerProvider_reads {userId : String} :
    (C2bServicesService.assertActiveProvider userId).Each fun _ db db' ↦ db' = db := by
  refine Call.each_bind (Call.each_reads fun _ ↦ rfl) fun found ↦ ?_
  refine Call.each_bind Call.each_returned fun user ↦ ?_
  exact Call.each_bind Call.each_returned fun _ ↦ Call.each_returned

theorem log_covered {params : CreateAuditLogParams} {client : Client} {α : Type}
    {x : Except AuthError α} (hdb : Covered db) :
    ((Platform.log params client).bind fun _ ↦ .returned x).Alone ok (fun _ ↦ Covered) db :=
  Call.alone_each (Call.each_bind (Platform.each_log fun db db' h _ hdb ↦ beside_covered db db' h hdb)
    fun _ ↦ Call.each_returned) hdb

theorem createService_covered {toISOString : Payments.Time → String} {providerId : String}
    {dto : CreateC2bServiceDto} {client : Client} (hdb : Covered db) :
    (C2bServicesService.createService toISOString providerId dto client).Alone ok
      (fun _ ↦ Covered) db := by
  have herror : ∀ _ : AuthError, Covered db := fun _ ↦ hdb
  refine Call.alone_reading_bind offerProvider_reads herror fun _ ↦ ?_
  refine Call.alone_reads_bind herror fun env ↦ ?_
  refine Call.alone_returned_bind herror fun event hevent ↦ ?_
  refine Call.alone_returned_bind herror fun _ _ ↦ ?_
  refine Call.alone_returned_bind herror fun requested _ ↦ ?_
  refine Call.alone_returned_bind herror fun _ _ ↦ ?_
  refine Call.alone_writes_bind herror fun env db' created _ h ↦
    log_covered (serviceCreate_covered h hdb fun e he ↦ ?_)
  have hget := (Option.filter_eq_some_iff.mp (present_eq_ok.mp hevent)).1
  cases hget.symm.trans he
  exact clamped_le

theorem updateService_covered {providerId serviceId : String} {dto : UpdateC2bServiceDto}
    {client : Client} (hdb : Covered db) :
    (C2bServicesService.updateService providerId serviceId dto client).Alone ok
      (fun _ ↦ Covered) db := by
  have herror : ∀ _ : AuthError, Covered db := fun _ ↦ hdb
  refine Call.alone_reading_bind offerProvider_reads herror fun _ ↦ ?_
  refine Call.alone_reads_bind herror fun env ↦ ?_
  refine Call.alone_returned_bind herror fun found hfound ↦ ?_
  obtain ⟨service, event⟩ := found
  refine Call.alone_returned_bind herror fun _ _ ↦ ?_
  refine Call.alone_returned_bind herror fun expiresAt hexpiresAt ↦ ?_
  refine Call.alone_writes_bind herror fun env db' updated _ h ↦
    log_covered (serviceUpdate_covered h hdb fun t ht s hs e he ↦ ?_)
  -- the service and its event are still what the call has found
  obtain ⟨s', hs', hevent⟩ := Option.bind_eq_some_iff.mp (present_eq_ok.mp hfound)
  obtain ⟨e', he', heq⟩ := Option.map_eq_some_iff.mp hevent
  cases heq
  cases (Option.filter_eq_some_iff.mp hs').1.symm.trans hs
  cases he'.symm.trans he
  exact newExpiresAt_le hexpiresAt t ht

end Services

section Coupons

variable {env : AuthEnv} {db db' : MarketDb} {ok : String → MarketDb → Prop}

/-- The same for the coupons, in the tables that their service sees. -/
def CouponsCovered (db : MarketDb) : Prop :=
  ∀ c ∈ db.coupons.rows, c.deletedAt = none → ∀ e ∈ db.events.get? c.eventId,
    c.expiresAt ≤ e.endsAt

/-- The coupon service touches neither the events nor the services. -/
def OnlyCoupons (db db' : MarketDb) : Prop :=
  db'.events = db.events ∧ db'.c2bServices = db.c2bServices

theorem OnlyCoupons.refl (db : MarketDb) : OnlyCoupons db db := ⟨rfl, rfl⟩

theorem couponProvider_reads {userId : String} {G : String → MarketDb → MarketDb → Prop}
    (hG : ∀ db, G "user.findFirst" db db) :
    (CouponsService.assertActiveProvider userId).Each G := by
  refine Call.each_bind (each_finds hG) fun user ↦ ?_
  cases user with
  | none => trivial
  | some user =>
    dsimp only
    split_ifs <;> trivial

theorem couponExpiry_le {event : Event} {requested : Payments.Time} :
    CouponsService.clampedExpiresAt event requested ≤ event.endsAt := by
  unfold CouponsService.clampedExpiresAt
  split_ifs with h
  · exact le_refl _
  · exact not_lt.mp h

theorem couponCreate_only {text : CodeText} {providerId : String} {dto : CreateCouponDto}
    {event : Event} {c : Coupon}
    (h : CouponsService.couponCreate text providerId dto event env db = .ok (db', c)) :
    OnlyCoupons db db' := by
  obtain ⟨discountValue, -, h⟩ := andThen_eq_ok.mp h
  obtain ⟨coupons, hcreate, h⟩ := andThen_eq_ok.mp h
  cases h
  exact ⟨rfl, rfl⟩

theorem couponCreate_covered {text : CodeText} {providerId : String} {dto : CreateCouponDto}
    {event : Event} {c : Coupon}
    (h : CouponsService.couponCreate text providerId dto event env db = .ok (db', c))
    (hdb : CouponsCovered db) (hevent : db.events.get? dto.eventId = some event) :
    CouponsCovered db' := by
  obtain ⟨discountValue, -, h⟩ := andThen_eq_ok.mp h
  obtain ⟨coupons, hcreate, h⟩ := andThen_eq_ok.mp h
  cases h
  intro c hc hdeleted e he
  rw [Table.create_eq_ok.mp (ofRefusal_eq_ok.mp hcreate), List.mem_append,
    List.mem_singleton] at hc
  rcases hc with hc | rfl
  · exact hdb c hc hdeleted e he
  · cases hevent.symm.trans he
    exact couponExpiry_le

theorem couponUpdate_eq {couponId : String} {dto : UpdateCouponDto} {event : Event} {c : Coupon}
    (h : CouponsService.couponUpdate couponId dto event env db = .ok (db', c)) :
    OnlyCoupons db db' ∧ ∃ f : Coupon → Coupon, db.coupons.update couponId f = .ok db'.coupons ∧
      ∀ c, (f c).eventId = c.eventId ∧ (f c).deletedAt = c.deletedAt ∧
        ((f c).expiresAt = c.expiresAt ∨ (f c).expiresAt ≤ event.endsAt) := by
  obtain ⟨discountValue, -, h⟩ := andThen_eq_ok.mp h
  obtain ⟨isActive, -, h⟩ := andThen_eq_ok.mp h
  obtain ⟨coupons, hupdate, h⟩ := andThen_eq_ok.mp h
  split at h
  · cases h
    refine ⟨⟨rfl, rfl⟩, _, ofRefusal_eq_ok.mp hupdate, fun c ↦ ⟨rfl, rfl, ?_⟩⟩
    cases dto.expiresAt.join with
    | none => exact .inl rfl
    | some requested => exact .inr couponExpiry_le
  · cases h

theorem couponUpdate_covered {couponId : String} {dto : UpdateCouponDto} {event : Event}
    {c : Coupon} (h : CouponsService.couponUpdate couponId dto event env db = .ok (db', c))
    (hdb : CouponsCovered db) (hevent : ∀ c ∈ db.coupons.get? couponId,
      db.events.get? c.eventId = some event) : CouponsCovered db' := by
  obtain ⟨⟨hevents, -⟩, f, hupdate, hf⟩ := couponUpdate_eq h
  intro c hc hdeleted e he
  rw [hevents] at he
  rw [(Table.update_eq_ok.mp hupdate).2, Table.mem_updateRows] at hc
  rcases hc with ⟨old, hold, hid, rfl⟩ | ⟨hc, -⟩
  · obtain ⟨hsame, hkept, hexpiry⟩ := hf old
    rw [hsame] at he
    rcases hexpiry with hexpiry | hexpiry
    · rw [hexpiry]
      exact hdb old hold (hkept.symm.trans hdeleted) e he
    · cases (hevent old (Table.get?_eq_some.mpr ⟨hold, hid⟩)).symm.trans he
      exact hexpiry
  · exact hdb c hc hdeleted e he

theorem createCoupon_only {text : CodeText} {providerId : String} {dto : CreateCouponDto}
    {client : Client} :
    (CouponsService.createCoupon text providerId dto client).Each fun _ ↦ OnlyCoupons := by
  refine Call.each_bind (couponProvider_reads OnlyCoupons.refl) fun _ ↦ ?_
  refine Call.each_bind (each_finds OnlyCoupons.refl) fun found ↦ ?_
  obtain ⟨event, now⟩ := found
  cases event with
  | none => trivial
  | some event =>
    dsimp only
    split_ifs
    · trivial
    refine Call.each_bind (each_finds OnlyCoupons.refl) fun existing ↦ ?_
    split_ifs
    · trivial
    refine Call.each_bind (each_stores OnlyCoupons.refl fun _ _ _ _ h ↦ couponCreate_only h)
      fun coupon ↦ ?_
    exact Call.each_bind (each_log fun _ _ ↦ ⟨rfl, rfl⟩) fun _ ↦ Call.each_returned

theorem updateCoupon_only {providerId couponId : String} {dto : UpdateCouponDto}
    {client : Client} :
    (CouponsService.updateCoupon providerId couponId dto client).Each fun _ ↦ OnlyCoupons := by
  refine Call.each_bind (couponProvider_reads OnlyCoupons.refl) fun _ ↦ ?_
  refine Call.each_bind (each_finds OnlyCoupons.refl) fun found ↦ ?_
  cases found with
  | none => trivial
  | some found =>
    obtain ⟨coupon, event⟩ := found
    dsimp only
    split_ifs
    · trivial
    refine Call.each_bind (each_stores OnlyCoupons.refl fun _ _ _ _ h ↦ (couponUpdate_eq h).1)
      fun coupon ↦ ?_
    exact Call.each_bind (each_log fun _ _ ↦ ⟨rfl, rfl⟩) fun _ ↦ Call.each_returned

theorem log_couponsCovered {params : CreateAuditLogParams} {client : Client} {α : Type}
    {x : Except AuthError α} (hdb : CouponsCovered db) :
    ((log params client).bind fun _ ↦ .returned x).Alone ok (fun _ ↦ CouponsCovered) db :=
  Call.alone_each (Call.each_bind (each_log fun _ _ _ hdb ↦ hdb) fun _ ↦ Call.each_returned) hdb

theorem createCoupon_covered {text : CodeText} {providerId : String} {dto : CreateCouponDto}
    {client : Client} (hdb : CouponsCovered db) :
    (CouponsService.createCoupon text providerId dto client).Alone ok
      (fun _ ↦ CouponsCovered) db := by
  have herror : ∀ _ : AuthError, CouponsCovered db := fun _ ↦ hdb
  refine Call.alone_reading_bind (couponProvider_reads fun _ ↦ rfl) herror fun _ ↦ ?_
  refine Call.alone_ask_bind herror fun env found hfound ↦ ?_
  cases elim_fault hfound
  dsimp only
  cases hevent : (db.events.get? dto.eventId).filter (·.deletedAt.isNone) with
  | none => exact hdb
  | some event =>
    dsimp only
    split_ifs
    · exact hdb
    refine Call.alone_ask_bind herror fun env existing _ ↦ ?_
    split_ifs
    · exact hdb
    refine Call.alone_perform_bind herror fun env db' coupon _ h ↦ log_couponsCovered ?_
    exact couponCreate_covered (elim_fault h) hdb (Option.filter_eq_some_iff.mp hevent).1

theorem updateCoupon_covered {providerId couponId : String} {dto : UpdateCouponDto}
    {client : Client} (hdb : CouponsCovered db) :
    (CouponsService.updateCoupon providerId couponId dto client).Alone ok
      (fun _ ↦ CouponsCovered) db := by
  have herror : ∀ _ : AuthError, CouponsCovered db := fun _ ↦ hdb
  refine Call.alone_reading_bind (couponProvider_reads fun _ ↦ rfl) herror fun _ ↦ ?_
  refine Call.alone_ask_bind herror fun env found hfound ↦ ?_
  have hfound := elim_fault hfound
  cases found with
  | none => exact hdb
  | some found =>
    obtain ⟨coupon, event⟩ := found
    dsimp only
    split_ifs
    · exact hdb
    refine Call.alone_perform_bind herror fun env db' updated _ h ↦ log_couponsCovered ?_
    refine couponUpdate_covered (elim_fault h) hdb fun c hc ↦ ?_
    -- the coupon and its event are still what the call has found
    obtain ⟨c', hc', hevent⟩ := Option.bind_eq_some_iff.mp (Except.ok.inj hfound)
    obtain ⟨event', hevent', heq⟩ := Option.map_eq_some_iff.mp hevent
    cases heq
    cases (Option.filter_eq_some_iff.mp hc').1.symm.trans hc
    exact hevent'

end Coupons

section Runs

variable {text : OfferText} {db db' : OfferDb}

theorem events_seen (db : OfferDb) (id : String) :
    db.marketView.events.get? id = (db.schedule.events.get? id).map OfferDb.eventSeen :=
  Table.get?_map OfferDb.eventSeen_apart (fun _ ↦ rfl) id

theorem market_part : Call.Part OfferDb.marketView OfferDb.putMarket OnlyCoupons where
  refl := OnlyCoupons.refl
  trans _ _ _ h h' := ⟨h'.1.trans h.1, h'.2.trans h.2⟩
  view_put db market h := by
    obtain ⟨hevents, -⟩ := h
    show { market with events := db.marketView.events } = market
    rw [← hevents]
  put_put _ _ _ := rfl

theorem schedule_part : Call.Part OfferDb.schedule OfferDb.putSchedule fun _ _ ↦ True where
  refl _ := trivial
  trans _ _ _ _ _ := trivial
  view_put _ _ _ := rfl
  put_put _ _ _ := rfl

theorem coupons_covered (hdb : Covered db) : CouponsCovered db.marketView := by
  intro c hc hdeleted e he
  rw [events_seen] at he
  obtain ⟨e', he', rfl⟩ := Option.map_eq_some_iff.mp he
  exact hdb.coupons c hc hdeleted e' he'

theorem covered_of_market {market : MarketDb} (hdb : Covered db)
    (hpart : Call.PartOf OfferDb.marketView OfferDb.putMarket OnlyCoupons db market db')
    (h : CouponsCovered market) : Covered db' := by
  obtain ⟨-, ⟨hevents, hservices⟩, rfl | rfl⟩ := hpart
  · exact hdb
  · refine ⟨fun s hs hdeleted e he ↦ ?_, fun c hc hdeleted e he ↦ ?_⟩
    · have hs : s ∈ db.market.c2bServices.rows := by
        have hs : s ∈ market.c2bServices.rows := hs
        rwa [hservices] at hs
      exact hdb.services s hs hdeleted e he
    · have he : OfferDb.eventSeen e ∈ market.events.get? c.eventId := by
        rw [hevents, events_seen]
        exact Option.map_eq_some_iff.mpr ⟨e, he, rfl⟩
      exact h c hc hdeleted _ he

theorem focused_covered {c : MarketCall CouponResponseDto} {ok : String → OfferDb → Prop}
    (hdb : Covered db) (honly : c.Each fun _ ↦ OnlyCoupons)
    (hc : ∀ {ok : String → MarketDb → Prop}, c.Alone ok (fun _ ↦ CouponsCovered) db.marketView) :
    (OfferReply.coupon <$> c.focus OfferDb.marketView OfferDb.putMarket).Alone ok
      (fun _ ↦ Covered) db := by
  refine Call.alone_map (Call.alone_mono (Call.alone_focus market_part honly hc) ?_)
  rintro r db' ⟨market, hpart, hcovered⟩
  exact covered_of_market hdb hpart hcovered

theorem eventUpdate_covered {eventId userId : String} {dto : Events.UpdateEventDto} {env : AuthEnv}
    {schedule : Events.EventsDb} {event : Events.Event}
    (h : Events.EventsService.eventUpdate text.event eventId userId dto env db.schedule =
      .ok (schedule, event)) (hdb : Covered db)
    (hextends : ∀ endsAt ∈ dto.endsAt.join,
      (∀ s ∈ db.market.c2bServices.rows, s.eventId = eventId → s.deletedAt = none →
        s.expiresAt ≤ endsAt) ∧
      ∀ c ∈ db.market.coupons.rows, c.eventId = eventId → c.deletedAt = none →
        c.expiresAt ≤ endsAt) : Covered (db.putSchedule schedule) := by
  obtain ⟨f, hupdate, hf, -⟩ := Events.EventsService.eventUpdate_eq h
  have hget := Table.get?_update hupdate fun e ↦ (hf e).id
  -- an event that is found has the new end, or is one of the others
  have hend : ∀ id t, (∀ e ∈ db.schedule.events.get? id, t ≤ e.endsAt) →
      (∀ endsAt ∈ dto.endsAt.join, id = eventId → t ≤ endsAt) →
      ∀ e ∈ schedule.events.get? id, t ≤ e.endsAt := by
    intro id t hold hnew e he
    rw [hget] at he
    split_ifs at he with hid
    · subst hid
      obtain ⟨old, hgot, rfl⟩ := Option.map_eq_some_iff.mp he
      rw [(hf old).endsAt]
      cases hends : dto.endsAt.join with
      | none => exact hold old hgot
      | some endsAt => exact hnew endsAt hends rfl
    · exact hold e he
  refine ⟨fun s hs hdeleted ↦ ?_, fun c hc hdeleted ↦ ?_⟩
  · exact hend _ _ (hdb.services s hs hdeleted) fun endsAt hendsAt hid ↦
      (hextends endsAt hendsAt).1 s hs hid hdeleted
  · exact hend _ _ (hdb.coupons c hc hdeleted) fun endsAt hendsAt hid ↦
      (hextends endsAt hendsAt).2 c hc hid hdeleted

theorem runs_covered (op : OfferOp) (db : OfferDb) (hdb : Covered db) :
    (op.runs text).Alone op.Extends (fun _ ↦ Covered) db := by
  cases op with
  | createService providerId dto client => exact Call.alone_map (createService_covered hdb)
  | updateService providerId serviceId dto client =>
    exact Call.alone_map (updateService_covered hdb)
  | createCoupon providerId dto client =>
    exact focused_covered hdb createCoupon_only (createCoupon_covered (coupons_covered hdb))
  | updateCoupon providerId couponId dto client =>
    exact focused_covered hdb updateCoupon_only (updateCoupon_covered (coupons_covered hdb))
  | updateEvent eventId userId userRoles dto client =>
    refine Call.alone_map (Call.alone_mono (Call.alone_focus schedule_part
      (Events.EventsService.update_each (fun _ _ ↦ trivial) (fun _ _ _ _ ↦ trivial)
        fun _ _ _ _ _ ↦ trivial) (Call.alone_each (J := fun schedule ↦
          Covered (db.putSchedule schedule)) ?_ hdb)) ?_)
    · refine Events.EventsService.update_each (fun _ _ _ h ↦ h) ?_ ?_
      · rintro _ schedule schedule' ⟨accounts, rfl⟩ - h
        exact ⟨h.services, h.coupons⟩
      · rintro env schedule schedule' event h ⟨db', ⟨rfl, -, hput⟩, hextends⟩ hcovered
        have hdb' : db.putSchedule db'.schedule = db' := by
          rcases hput with rfl | hput
          · rfl
          · exact hput.symm
        rw [hdb'] at hcovered
        have hafter := eventUpdate_covered h hcovered (hextends rfl)
        rwa [← hdb'] at hafter
    · rintro r db' ⟨schedule, ⟨-, -, rfl | rfl⟩, hcovered⟩
      · exact hdb
      · exact hcovered

/-- As long as no update of an event moves its end before the expiry of something offered at it,
nothing is offered beyond the end of its event. -/
theorem offers_end (text : OfferText)
    (h : Reach (InSequence (OfferOp.runs text) OfferOp.Extends) (fun _ _ ↦ True) Covered db) :
    (∀ s ∈ db.market.c2bServices.rows, s.deletedAt = none →
      ∀ e ∈ db.schedule.events.get? s.eventId, s.expiresAt ≤ e.endsAt) ∧
    ∀ c ∈ db.market.coupons.rows, c.deletedAt = none →
      ∀ e ∈ db.schedule.events.get? c.eventId, c.expiresAt ≤ e.endsAt := by
  have hcovered := inSequence_invariant (fun _ hs ↦ hs) runs_covered h
  exact ⟨hcovered.services, hcovered.coupons⟩

end Runs

section Sample

def sampleOfferText : OfferText where
  code := ⟨id, id⟩
  event := Events.sampleText

/-- An event from 100 to 200 and a provider who offers nothing yet. -/
def offerDb : OfferDb where
  schedule := { Events.sampleDb with accounts := eventDb.accounts }
  market := .empty
  details := .empty

theorem offerDb_covered : Covered offerDb := by
  constructor
  · intro s hs
    cases hs
  · intro c hc
    cases hc

/-- The provider offers a stay until 180. -/
def offeredStay : OfferOp := .createService "provider-1"
  { eventId := "event-1"
    name := "Hotel package"
    category := "ACCOMMODATION"
    shortDescription := "Breakfast and shuttle"
    detailedDescription := "For delegates with a badge"
    images := none
    price := some (some 450)
    discountPercentage := none
    currency := none
    expiresAt := some 180
    contactMethod := "IN_APP"
    contactValue := none
    promotionalCode := none
    maxBookings := none
    isAvailable := none } nobody

/-- The provider issues a coupon until 250, which is cut to the end of the event. -/
def offeredCoupon : OfferOp := .createCoupon "provider-1"
  { eventId := "event-1"
    serviceId := none
    code := "SUMMIT20"
    description := none
    discountType := .percentage
    discountValue := 20
    maxRedemptions := none
    startsAt := none
    expiresAt := 250
    isActive := none } nobody

/-- The owner sets a new end of the event. -/
def endMoved (endsAt : ℤ) : OfferOp := .updateEvent "event-1" "owner-1" []
  { Events.UpdateEventDto.empty with endsAt := some (some endsAt) } nobody

def offerInputs (tag : String) : List AuthEnv := (List.range 5).map fun n ↦ sampleEnv 1 s!"{tag}{n}"

/-- The event is prolonged after the provider has made its offers. -/
theorem event_prolonged : ∃ db : OfferDb,
    db.market.coupons.rows.map Coupon.expiresAt = [200] ∧
      ∀ c ∈ db.market.coupons.rows, c.deletedAt = none →
        ∀ e ∈ db.schedule.events.get? c.eventId, c.expiresAt ≤ e.endsAt := by
  have hrun : (carryOut (OfferOp.runs sampleOfferText) (fun op l db ↦ decide (op.Extends l db))
      [(offeredStay, offerInputs "a"), (offeredCoupon, offerInputs "b"), (endMoved 220, offerInputs "c")] offerDb).any
        (fun db ↦ db.market.coupons.rows.map Coupon.expiresAt == [200]) = true := by
    decide +kernel
  obtain ⟨db, hdb, htest⟩ := (Option.any_eq_true ..).mp hrun
  have hreach := reach_carryOut (fun _ _ _ h ↦ of_decide_eq_true h) (.start offerDb_covered) hdb
  exact ⟨db, beq_iff_eq.mp htest, (offers_end sampleOfferText hreach).2⟩

/-- The event is cut short after the coupon has been issued until its old end. -/
theorem event_cut_short : ∃ db : OfferDb,
    Reach (InSequence (OfferOp.runs sampleOfferText) fun _ _ _ ↦ True) (fun _ _ ↦ True) Covered db ∧
      ∃ c ∈ db.market.coupons.rows, c.deletedAt = none ∧
        ∃ e ∈ db.schedule.events.get? c.eventId, e.endsAt < c.expiresAt := by
  have hrun : (carryOut (OfferOp.runs sampleOfferText) (fun _ _ _ ↦ true)
      [(offeredCoupon, offerInputs "a"), (endMoved 150, offerInputs "b")] offerDb).any
        (fun db ↦ db.market.coupons.rows.any fun c ↦ c.deletedAt.isNone &&
          (db.schedule.events.get? c.eventId).any (·.endsAt < c.expiresAt)) = true := by
    decide +kernel
  obtain ⟨db, hdb, htest⟩ := (Option.any_eq_true ..).mp hrun
  obtain ⟨c, hc, htest⟩ := List.any_eq_true.mp htest
  obtain ⟨hdeleted, hevent⟩ := Bool.and_eq_true_iff.mp htest
  obtain ⟨e, he, hlt⟩ := (Option.any_eq_true ..).mp hevent
  exact ⟨db, reach_carryOut (fun _ _ _ _ ↦ trivial) (.start offerDb_covered) hdb, c, hc,
    Option.isNone_iff_eq_none.mp hdeleted, e, he, of_decide_eq_true hlt⟩

end Sample

end Innovents.Marketplace
