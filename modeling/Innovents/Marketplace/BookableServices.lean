import Innovents.Marketplace.BookingCounter
import Innovents.Marketplace.ServiceDiscovery

namespace Innovents.Marketplace

open Innovents.Lib Innovents.Auth Innovents.Platform
open Innovents.Payments (Time)

namespace C2bBookingsService

/-- What a booking asks of a service, of its event and of its provider. -/
def Bookable (serviceId : String) (now : Time) (db : MarketDb) : Prop :=
  ∃ service event provider, offeredService serviceId db = some (service, event, provider) ∧
    service.isAvailable = true ∧ now < service.expiresAt ∧ now < event.endsAt ∧
      provider.status = .active ∧ C2bServicesService.hasRoom service = true

/-- The booking is made at the moment `now`. -/
def Books (now : Time) (attendeeId : String) (dto : CreateC2bBookingDto) (client : Client)
    (db : MarketDb) : Prop :=
  ∃ r db', Call.Ran (fun env : AuthEnv ↦ env.now = now) (createBooking attendeeId dto client) db
    (.ok r) db'

section Bookings

variable {now : Time} {attendeeId serviceId : String} {dto : CreateC2bBookingDto} {client : Client}
  {db : MarketDb} {service : C2bService}

/-- The slot is there for the service that was read. -/
theorem takeSlot_succeeds {env : AuthEnv} (hget : db.c2bServices.get? serviceId = some service)
    (hdeleted : service.deletedAt.isNone) (havailable : service.isAvailable = true)
    (hexpires : env.now < service.expiresAt) (hroom : C2bServicesService.hasRoom service = true) :
    ∃ db', takeSlot service serviceId env db = .ok db' := by
  have hupdate (p : C2bService → Bool) : ∃ db', updateServices p bookOne db = .ok db' := by
    obtain ⟨t, ht⟩ := Table.updateMany_succeeds (t := db.c2bServices) (p := p) (f := bookOne)
      (fun _ ↦ rfl) nofun
    exact ⟨{ db with c2bServices := t }, andThen_eq_ok.mpr ⟨t, ofRefusal_eq_ok.mpr ht, rfl⟩⟩
  obtain ⟨hmem, hid⟩ := Table.get?_eq_some.mp hget
  have hid : service.id = serviceId := hid
  unfold takeSlot
  cases hlimit : service.maxBookings with
  | none => exact hupdate _
  | some limit =>
    have hcapacity : hasCapacity serviceId env.now service = true := by
      simp only [hasCapacity, Bool.and_eq_true, beq_iff_eq, decide_eq_true_eq]
      exact ⟨⟨⟨⟨hid, havailable⟩, hexpires⟩, hdeleted⟩, hroom⟩
    dsimp only
    rw [if_neg (Nat.pos_iff_ne_zero.mp (List.countP_pos_iff.mpr ⟨service, hmem, hcapacity⟩))]
    exact hupdate _

/-- With new keys the transaction of a booking commits. -/
theorem booking_succeeds {env : AuthEnv} (hfresh : ∀ taken, env.newId taken ∉ taken)
    (hget : db.c2bServices.get? dto.serviceId = some service)
    (hdeleted : service.deletedAt.isNone) (havailable : service.isAvailable = true)
    (hexpires : env.now < service.expiresAt) (hroom : C2bServicesService.hasRoom service = true) :
    ∃ db' r, booking attendeeId dto service env db = .ok (db', r) := by
  cases h : booking attendeeId dto service env db with
  | ok q => exact ⟨q.1, q.2, rfl⟩
  | error x =>
    rcases andThen_eq_error.mp h with htake | ⟨db₁, -, hcreate⟩
    · obtain ⟨db₁, htaken⟩ := takeSlot_succeeds hget hdeleted havailable hexpires hroom
      rw [htaken] at htake
      cases htake
    rcases andThen_eq_error.mp hcreate with hcreate | ⟨t, -, henqueue⟩
    · exact absurd (taken_of_ofRefusal hcreate rfl) (hfresh _)
    rcases andThen_eq_error.mp henqueue with henqueue | ⟨db₂, -, hrest⟩
    · obtain ⟨accounts, haccounts⟩ := OutboxService.written_succeeds hfresh
      rw [Marketplace.enqueued, haccounts] at henqueue
      cases henqueue
    · cases hrest

/-- A booking can be made just where the service is bookable. -/
theorem books_iff : Books now attendeeId dto client db ↔ Bookable dto.serviceId now db := by
  unfold Books createBooking
  constructor
  · rintro ⟨r, db', hran⟩
    obtain ⟨⟨found, moment⟩, db₁, hfind, hrest⟩ := Call.ran_bind_ok.mp hran
    obtain ⟨env, rfl, -, hread, rfl⟩ := ran_finds_ok.mp hfind
    obtain ⟨hfound, rfl⟩ := Prod.mk.inj hread
    dsimp only at hrest
    cases found with
    | none => cases hrest
    | some found =>
      obtain ⟨service, event, provider⟩ := found
      dsimp only at hrest
      split_ifs at hrest with havailable hexpires hends hactive
      · cases hrest
      · cases hrest
      · cases hrest
      · obtain ⟨created, db₂, hstore, -⟩ := Call.ran_bind_ok.mp hrest
        obtain ⟨env₁, hnow, -, hbooking⟩ := ran_stores_ok.mp hstore
        obtain ⟨db₃, htake, -⟩ := andThen_eq_ok.mp hbooking
        have hlimit := (takeSlot_eq_ok htake).2.2
        have hget := (offeredService_eq hfound).1
        refine ⟨service, event, provider, hfound, havailable, not_le.mp hexpires,
          not_le.mp hends, not_not.mp hactive, ?_⟩
        unfold C2bServicesService.hasRoom
        cases hmax : service.maxBookings with
        | none => rfl
        | some m => exact decide_eq_true (hlimit (by rw [hmax]; rfl) service hget m hmax)
      · cases hrest
  · rintro ⟨service, event, provider, hfound, havailable, hexpires, hends, hactive, hroom⟩
    obtain ⟨env, rfl, hfault, hfresh⟩ := exists_fresh now
    obtain ⟨hget, hdeleted⟩ := offeredService_eq hfound
    obtain ⟨db', r, hbooking⟩ : ∃ db' r, booking attendeeId dto service env db = .ok (db', r) :=
      booking_succeeds hfresh hget hdeleted havailable hexpires hroom
    refine ⟨r, Call.exists_ran_bind.mpr ⟨_, db, ran_finds_ok.mpr ⟨env, rfl, hfault, rfl, rfl⟩, ?_⟩⟩
    dsimp only
    rw [hfound]
    dsimp only
    rw [if_neg (not_not.mpr havailable), if_neg (not_le.mpr hexpires), if_neg (not_le.mpr hends),
      if_neg (not_not.mpr hactive)]
    refine Call.exists_ran_bind.mpr ⟨r, db', ran_stores_ok.mpr ⟨env, rfl, hfault, hbooking⟩, ?_⟩
    exact Call.exists_ran_bind.mpr ⟨(), _, .request (e := env) rfl .returned, _, .returned⟩

end Bookings

end C2bBookingsService

namespace C2bServicesService

/-- The details of the service are shown at the moment `now`. -/
def ShowsDetails (now : Time) (serviceId : String) (db : OfferDb) : Prop :=
  ∃ r db', Call.Ran (fun env : AuthEnv ↦ env.now = now) (getServiceDetails serviceId) db (.ok r) db'

/-- A booking is only possible where the details are shown. -/
def Agree (serviceId : String) (now : Time) (db : OfferDb) : Prop :=
  ∀ attendeeId dto client, dto.serviceId = serviceId →
    C2bBookingsService.Books now attendeeId dto client db.marketView → ShowsDetails now serviceId db

/-- The event is there for everybody, and the provider is not deleted. -/
def Presented (serviceId : String) (db : OfferDb) : Prop :=
  ∀ s ∈ db.market.c2bServices.get? serviceId,
    (∀ event ∈ db.schedule.events.get? s.eventId, event.deletedAt = none ∧
      (event.status = .published ∨ event.status = .ongoing) ∧ event.visibility = .isPublic) ∧
    ∀ provider ∈ db.schedule.accounts.users.get? s.providerId, provider.deletedAt = none

section Details

variable {now : Time} {serviceId : String} {db : OfferDb}

theorem showsDetails_iff : ShowsDetails now serviceId db ↔
    ∃ s, db.market.c2bServices.get? serviceId = some s ∧ isListed now db s = true := by
  unfold ShowsDetails getServiceDetails
  constructor
  · rintro ⟨r, db', hran⟩
    obtain ⟨found, db₁, hread, hrest⟩ := Call.ran_bind_ok.mp hran
    obtain ⟨env, rfl, -, hfound, rfl⟩ := Call.ran_reads_ok.mp hread
    have hsome := present_eq_ok.mp (Call.ran_returned_ok.mp hrest).1
    obtain ⟨s, hs, -⟩ := Option.map_eq_some_iff.mp (hfound.trans hsome)
    exact ⟨s, Option.filter_eq_some_iff.mp hs⟩
  · rintro ⟨s, hget, hlisted⟩
    refine ⟨toDto db s, db, Call.ran_bind_ok.mpr ⟨some (toDto db s), db, ?_, .returned⟩⟩
    refine Call.ran_reads_ok.mpr ⟨sampleEnv now "", rfl, rfl, ?_, rfl⟩
    exact Option.map_eq_some_iff.mpr ⟨s, Option.filter_eq_some_iff.mpr ⟨hget, hlisted⟩, rfl⟩

theorem seen_event {id : String} {event : Event} (h : db.marketView.events.get? id = some event) :
    ∃ e, db.schedule.events.get? id = some e ∧ OfferDb.eventSeen e = event := by
  have hmap : db.marketView.events.get? id = (db.schedule.events.get? id).map OfferDb.eventSeen :=
    Table.get?_map OfferDb.eventSeen_apart (fun _ ↦ rfl) id
  exact Option.map_eq_some_iff.mp (hmap.symm.trans h)

/-- The details of a bookable service are shown just where it is presented. -/
theorem shown_of_bookable (h : C2bBookingsService.Bookable serviceId now db.marketView) :
    ShowsDetails now serviceId db ↔ Presented serviceId db := by
  obtain ⟨service, seen, provider, hfound, havailable, hexpires, hends, hactive, -⟩ := h
  obtain ⟨s, hs, hfound⟩ := Option.bind_eq_some_iff.mp hfound
  obtain ⟨e, he, hfound⟩ := Option.bind_eq_some_iff.mp hfound
  obtain ⟨p, hprovider, hfound⟩ := Option.bind_eq_some_iff.mp hfound
  cases hfound
  obtain ⟨hget, hdeleted⟩ := Option.filter_eq_some_iff.mp hs
  obtain ⟨event, hevent, rfl⟩ := seen_event he
  have hget : db.market.c2bServices.get? serviceId = some service := hget
  have hprovider : db.schedule.accounts.users.get? service.providerId = some provider := hprovider
  have hends : now < event.endsAt := hends
  have hlisted : isListed now db service = true ↔
      (event.deletedAt = none ∧ (event.status = .published ∨ event.status = .ongoing) ∧
        event.visibility = .isPublic) ∧ provider.deletedAt = none := by
    simp [isListed, hdeleted, havailable, hexpires, hevent, hprovider, eventOpen, providerOpen,
      hends, hactive, and_assoc]
  rw [showsDetails_iff]
  constructor
  · rintro ⟨s, hs, hshown⟩ s' hs'
    cases hget.symm.trans hs
    cases hget.symm.trans hs'
    obtain ⟨hopen, hkept⟩ := hlisted.mp hshown
    refine ⟨fun e he ↦ ?_, fun p hp ↦ ?_⟩
    · cases hevent.symm.trans he
      exact hopen
    · cases hprovider.symm.trans hp
      exact hkept
  · intro h
    obtain ⟨hopen, hkept⟩ := h service hget
    exact ⟨service, hget, hlisted.mpr ⟨hopen event hevent, hkept provider hprovider⟩⟩

/-- Booking and details agree just where the service cannot be booked or is presented. -/
theorem agree_iff : Agree serviceId now db ↔
    ¬C2bBookingsService.Bookable serviceId now db.marketView ∨ Presented serviceId db := by
  constructor
  · intro h
    refine Classical.or_iff_not_imp_left.mpr fun hbookable ↦ ?_
    have hbookable := not_not.mp hbookable
    refine (shown_of_bookable hbookable).mp ?_
    refine h "" ⟨serviceId, none, none, none, none⟩ ⟨none, none⟩ rfl ?_
    exact C2bBookingsService.books_iff.mpr hbookable
  · rintro h attendeeId dto client rfl hbooks
    have hbookable := C2bBookingsService.books_iff.mp hbooks
    exact (shown_of_bookable hbookable).mpr (h.resolve_left (not_not.mpr hbookable))

end Details

section Sample

/-- The event is cancelled, and its services are still booked. -/
def cancelledDb : OfferDb := stayDb { Events.sampleEvent with status := .cancelled } sampleStay

theorem cancelled_event_booked : ¬Agree "service-1" 50 cancelledDb := by
  intro h
  rcases agree_iff.mp h with hbookable | hpresented
  · exact hbookable ⟨sampleStay, ⟨"event-1", 200, none⟩, sampleProvider, rfl, rfl, by decide,
      by decide, rfl, rfl⟩
  · obtain ⟨-, hstatus, -⟩ := (hpresented sampleStay rfl).1 _ rfl
    exact absurd hstatus (by decide)

end Sample

end C2bServicesService

end Innovents.Marketplace
