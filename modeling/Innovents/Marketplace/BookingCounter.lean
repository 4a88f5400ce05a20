import Innovents.Marketplace.C2bBookingsService
import Innovents.Marketplace.Statements

namespace Innovents.Marketplace

open Innovents.Lib Innovents.Auth C2bBookingsService

/-- The bookings that take a slot of their service. -/
def C2bBookingStatus.active (status : C2bBookingStatus) : Bool :=
  status ∈ [C2bBookingStatus.pending, .confirmed, .completed]

def activeBookings (k : String) (db : MarketDb) : ℕ :=
  db.c2bBookings.rows.countP fun b ↦ b.serviceId == k && b.status.active

/-- The counter of the service is the number of its active bookings. -/
def Counted (k : String) (db : MarketDb) : Prop :=
  ∀ s ∈ db.c2bServices.get? k, s.bookingCount = activeBookings k db

/-- No service has more active bookings than its limit, if there is one. -/
def WithinLimit (k : String) (db : MarketDb) : Prop :=
  ∀ s ∈ db.c2bServices.get? k, ∀ m ∈ s.maxBookings, (activeBookings k db : ℤ) ≤ m

/-- Bookings stay with their services, and the limits of the services do not change. -/
structure SameOffers (db db' : MarketDb) : Prop where
  bookings : ∀ id, ∀ b ∈ db.c2bBookings.get? id,
    ∃ b' ∈ db'.c2bBookings.get? id, b'.serviceId = b.serviceId
  limits : ∀ id, (db'.c2bServices.get? id).map C2bService.maxBookings =
    (db.c2bServices.get? id).map C2bService.maxBookings

inductive BookingOp
  | createBooking (attendeeId : String) (dto : CreateC2bBookingDto) (client : Client)
  | updateBookingStatus (providerId bookingId : String) (dto : UpdateC2bBookingStatusDto)
    (client : Client)
  | cancelBooking (attendeeId bookingId : String) (client : Client)

def BookingOp.runs : BookingOp → MarketCall Unit
  | createBooking attendeeId dto client => do
    let _ ← C2bBookingsService.createBooking attendeeId dto client
  | updateBookingStatus providerId bookingId dto client => do
    let _ ← C2bBookingsService.updateBookingStatus providerId bookingId dto client
  | cancelBooking attendeeId bookingId client => do
    let _ ← C2bBookingsService.cancelBooking attendeeId bookingId client

abbrev BookingTask := Task BookingOp String AuthEnv MarketDb AuthError Unit

/-- A transaction to an active status finds the booking active, one to another status finds it as
active as the call has read it, and that of `cancelBooking` finds it active. Without any active
booking the floor of the counter hides the difference. -/
def Accurate (k : String) : BookingOp → MarketHistory → String → MarketDb → Prop
  | .createBooking _ _ _, _, _, _ => True
  | .updateBookingStatus _ bookingId dto _, history, label, db => label = "$transaction" →
    ∀ b ∈ db.c2bBookings.get? bookingId, b.serviceId = k →
      if dto.status.active then b.status.active
      else activeBookings k db = 0 ∨ ∀ db₀ ∈ history.last,
        ∀ b₀ ∈ db₀.c2bBookings.get? bookingId, b.status.active = b₀.status.active
  | .cancelBooking _ bookingId _, _, label, db => label = "$transaction" →
    ∀ b ∈ db.c2bBookings.get? bookingId, b.serviceId = k →
      activeBookings k db = 0 ∨ b.status.active

section Tables

variable {k serviceId bookingId : String} {db db' : MarketDb} {env : AuthEnv} {service : C2bService}

theorem active_iff {status : C2bBookingStatus} : status.active = !status.released := by
  cases status <;> rfl

theorem updateServices_eq_ok {p : C2bService → Bool} {f : C2bService → C2bService}
    (h : updateServices p f db = .ok db') (hid : ∀ s, (f s).id = s.id) :
    (∃ t, db' = { db with c2bServices := t }) ∧
      ∀ k, db'.c2bServices.get? k = (db.c2bServices.get? k).map fun s ↦ if p s then f s else s := by
  obtain ⟨t, ht, h⟩ := andThen_eq_ok.mp h
  cases h
  exact ⟨⟨t, rfl⟩, Table.get?_updateMany (ofRefusal_eq_ok.mp ht) hid⟩

theorem hasCapacity_id {now : Payments.Time} {s : C2bService}
    (h : hasCapacity serviceId now s = true) : s.id = serviceId := by
  simp only [hasCapacity, Bool.and_eq_true, beq_iff_eq] at h
  exact h.1.1.1.1

/-- A slot is taken, and if the service that was read has a limit then one was left. -/
theorem takeSlot_eq_ok (h : takeSlot service serviceId env db = .ok db') :
    (∃ t, db' = { db with c2bServices := t }) ∧
      (∀ k, db'.c2bServices.get? k = (db.c2bServices.get? k).map fun s ↦
        if k = serviceId then bookOne s else s) ∧
      (service.maxBookings.isSome → ∀ s ∈ db.c2bServices.get? serviceId,
        ∀ m ∈ s.maxBookings, s.bookingCount < m) := by
  unfold takeSlot at h
  cases hlimit : service.maxBookings with
  | none =>
    rw [hlimit] at h
    obtain ⟨ht, hget⟩ := updateServices_eq_ok h fun _ ↦ rfl
    refine ⟨ht, fun k ↦ ?_, nofun⟩
    rw [hget]
    refine Option.map_congr fun s hs ↦ ?_
    have hid : s.id = k := (Table.get?_eq_some.mp hs).2
    simp [hid]
  | some limit =>
    rw [hlimit] at h
    dsimp only at h
    split_ifs at h with hnone
    · cases h
    · obtain ⟨t, ht, h⟩ := andThen_eq_ok.mp h
      cases h
      -- the statement has found the service, and there is only one
      obtain ⟨⟨r, hr, hcapacity⟩, hget⟩ := Table.get?_updateMany_found (ofRefusal_eq_ok.mp ht)
        (fun _ ↦ rfl) (fun s hs ↦ hasCapacity_id hs) hnone
      refine ⟨⟨t, rfl⟩, hget, fun _ s hs m hm ↦ ?_⟩
      rw [Option.mem_def.mp hs] at hr
      cases hr
      simp only [hasCapacity, Bool.and_eq_true] at hcapacity
      have hleft := hcapacity.2
      rw [Option.mem_def.mp hm, Option.all_some, decide_eq_true_eq] at hleft
      exact hleft

/-- What a new status of a booking does to the number of active ones. -/
theorem updateBooking_eq_ok {f : C2bBooking → C2bBooking} {res : C2bBooking}
    (h : updateBooking bookingId f env db = .ok (db', res))
    (hid : ∀ b, (f b).id = b.id ∧ (f b).serviceId = b.serviceId) :
    (∃ t, db' = { db with c2bBookings := t }) ∧
      (∀ id, db'.c2bBookings.get? id = (db.c2bBookings.get? id).map fun b ↦
        if id = bookingId then { f b with updatedAt := env.now } else b) ∧
      ∃ b, db.c2bBookings.get? bookingId = some b ∧ ∀ k,
        activeBookings k db' + (b.serviceId == k && b.status.active).toNat =
          activeBookings k db + (b.serviceId == k && (f b).status.active).toNat := by
  obtain ⟨t, ht, h⟩ := andThen_eq_ok.mp h
  have ht := ofRefusal_eq_ok.mp ht
  have hdb' : db' = { db with c2bBookings := t } := by
    split at h
    · cases h
      rfl
    · cases h
  subst hdb'
  obtain ⟨⟨b, hb, hkey⟩, hrows⟩ := Table.update_eq_ok.mp ht
  have hb := Table.get?_eq_some.mpr ⟨hb, hkey⟩
  refine ⟨⟨t, rfl⟩, fun id ↦ ?_, b, hb, fun k ↦ ?_⟩
  · rw [Table.get?_update ht fun b ↦ (hid b).1]
    split_ifs with hk
    · rw [hk]
    · exact (Option.map_id' ..).symm
  · have hcount := Table.countP_update_row (f := fun b ↦ { f b with updatedAt := env.now })
      (p := fun b ↦ b.serviceId == k && b.status.active) hb
    rw [← hrows] at hcount
    dsimp only at hcount
    rw [(hid b).2] at hcount
    exact hcount

end Tables

section Transactions

variable {k : String} {db db' : MarketDb} {env : AuthEnv} {service : C2bService} {found : C2bBooking}

theorem SameOffers.refl (db : MarketDb) : SameOffers db db := ⟨fun _ b hb ↦ ⟨b, hb, rfl⟩, fun _ ↦ rfl⟩

theorem SameOffers.trans {db₁ db₂ db₃ : MarketDb} (h : SameOffers db₁ db₂) (h' : SameOffers db₂ db₃) :
    SameOffers db₁ db₃ := by
  refine ⟨fun id b hb ↦ ?_, fun id ↦ (h'.limits id).trans (h.limits id)⟩
  obtain ⟨b', hb', hservice⟩ := h.bookings id b hb
  obtain ⟨b'', hb'', hservice'⟩ := h'.bookings id b' hb'
  exact ⟨b'', hb'', hservice'.trans hservice⟩

theorem sameOffers_services {f : String → C2bService → C2bService} {t : Table C2bService}
    (hget : ∀ k, t.get? k = (db.c2bServices.get? k).map (f k))
    (hf : ∀ k s, (f k s).maxBookings = s.maxBookings) :
    SameOffers db { db with c2bServices := t } := by
  refine ⟨fun _ b hb ↦ ⟨b, hb, rfl⟩, fun k ↦ ?_⟩
  rw [hget, Option.map_map]
  exact Option.map_congr fun s _ ↦ hf k s

theorem sameOffers_bookings {f : String → C2bBooking → C2bBooking} {t : Table C2bBooking}
    (hget : ∀ id, t.get? id = (db.c2bBookings.get? id).map (f id))
    (hf : ∀ id b, (f id b).serviceId = b.serviceId) :
    SameOffers db { db with c2bBookings := t } := by
  refine ⟨fun id b hb ↦ ⟨f id b, ?_, hf id b⟩, fun _ ↦ rfl⟩
  show t.get? id = some (f id b)
  rw [hget, Option.mem_def.mp hb, Option.map_some]

theorem SameMarket.offers (h : SameMarket db db') : SameOffers db db' := by
  obtain ⟨accounts, rfl⟩ := h
  exact ⟨fun _ b hb ↦ ⟨b, hb, rfl⟩, fun _ ↦ rfl⟩

theorem SameMarket.active (h : SameMarket db db') : activeBookings k db' = activeBookings k db := by
  obtain ⟨accounts, rfl⟩ := h
  rfl

theorem SameMarket.services (h : SameMarket db db') : db'.c2bServices = db.c2bServices := by
  obtain ⟨accounts, rfl⟩ := h
  rfl

/-- What a booking does to the counters and to the numbers of active bookings. -/
theorem booking_eq_ok {attendeeId : String} {dto : CreateC2bBookingDto} {r : C2bBookingResponseDto}
    (h : booking attendeeId dto service env db = .ok (db', r)) : SameOffers db db' ∧
      (∀ k, db'.c2bServices.get? k = (db.c2bServices.get? k).map fun s ↦
        if k = dto.serviceId then bookOne s else s) ∧
      (∀ k, activeBookings k db' = activeBookings k db + if k = dto.serviceId then 1 else 0) ∧
      (service.maxBookings.isSome → ∀ s ∈ db.c2bServices.get? dto.serviceId,
        ∀ m ∈ s.maxBookings, s.bookingCount < m) := by
  obtain ⟨db₁, htake, h⟩ := andThen_eq_ok.mp h
  obtain ⟨t, hcreate, h⟩ := andThen_eq_ok.mp h
  obtain ⟨db₂, henqueued, h⟩ := andThen_eq_ok.mp h
  cases h
  obtain ⟨⟨t', rfl⟩, hget, hlimit⟩ := takeSlot_eq_ok htake
  have hsame := enqueued_eq_ok henqueued
  have hcreate := ofRefusal_eq_ok.mp hcreate
  refine ⟨?_, fun k ↦ ?_, fun k ↦ ?_, hlimit⟩
  · have hservices : SameOffers db { db with c2bServices := t' } := by
      refine sameOffers_services hget fun k s ↦ ?_
      split_ifs <;> rfl
    have hbookings : SameOffers { db with c2bServices := t' }
        { db with
          c2bServices := t'
          c2bBookings := t } :=
      ⟨fun id b hb ↦ ⟨b, (Table.get?_create_taken hb hcreate).2, rfl⟩, fun _ ↦ rfl⟩
    exact (hservices.trans hbookings).trans hsame.offers
  · rw [hsame.services]
    exact hget k
  · rw [hsame.active, activeBookings, Table.create_eq_ok.mp hcreate, List.countP_append,
      List.countP_singleton, activeBookings]
    congr 1
    by_cases hk : k = dto.serviceId
    · simp [hk, C2bBookingStatus.active]
    · simp [hk, Ne.symm hk]

/-- What a change of a booking's status does: the slot of the service is released or not, and the
booking has the new status. -/
structure Changes (found : C2bBooking) (status : C2bBookingStatus) (release : Bool)
    (db db' : MarketDb) : Prop where
  offers : SameOffers db db'
  services : ∀ k, db'.c2bServices.get? k = (db.c2bServices.get? k).map fun s ↦
    if k = found.serviceId ∧ release then releaseOne s else s
  bookings : ∃ b, db.c2bBookings.get? found.id = some b ∧ ∀ k,
    activeBookings k db' + (b.serviceId == k && b.status.active).toNat =
      activeBookings k db + (b.serviceId == k && status.active).toNat

theorem changes_of_update {f : C2bBooking → C2bBooking} {res : C2bBooking} {release : Bool}
    {status : C2bBookingStatus} {db₁ db₂ : MarketDb}
    (hrelease : (if release then updateServices (·.id == found.serviceId) releaseOne db else .ok db) =
      .ok db₁)
    (hupdate : updateBooking found.id f env db₁ = .ok (db₂, res)) (hsame : SameMarket db₂ db')
    (hf : ∀ b, (f b).id = b.id ∧ (f b).serviceId = b.serviceId ∧ (f b).status = status) :
    Changes found status release db db' := by
  have hfirst : (∃ t, db₁ = { db with c2bServices := t }) ∧ ∀ k, db₁.c2bServices.get? k =
      (db.c2bServices.get? k).map fun s ↦ if k = found.serviceId ∧ release then releaseOne s else s := by
    split_ifs at hrelease with hr
    · obtain ⟨ht, hget⟩ := updateServices_eq_ok hrelease fun _ ↦ rfl
      refine ⟨ht, fun k ↦ (hget k).trans (Option.map_congr fun s hs ↦ ?_)⟩
      have hid : s.id = k := (Table.get?_eq_some.mp hs).2
      simp [hid, hr]
    · cases hrelease
      exact ⟨⟨db.c2bServices, rfl⟩, fun k ↦ by simp [hr]⟩
  obtain ⟨⟨t, rfl⟩, hservices⟩ := hfirst
  obtain ⟨⟨t', rfl⟩, hget, b, hb, hcount⟩ :=
    updateBooking_eq_ok hupdate fun b ↦ ⟨(hf b).1, (hf b).2.1⟩
  refine ⟨?_, fun k ↦ ?_, b, hb, fun k ↦ ?_⟩
  · have hfirst : SameOffers db { db with c2bServices := t } := by
      refine sameOffers_services hservices fun k s ↦ ?_
      split_ifs <;> rfl
    have hsecond := sameOffers_bookings hget fun id b ↦ by
      split_ifs
      · exact (hf b).2.1
      · rfl
    exact (hfirst.trans hsecond).trans hsame.offers
  · rw [hsame.services]
    exact hservices k
  · rw [hsame.active, hcount k, (hf b).2.2]
    rfl

theorem statusUpdate_changes {dto : UpdateC2bBookingStatusDto} {r : C2bBookingResponseDto}
    (h : statusUpdate found service dto env db = .ok (db', r)) :
    Changes found dto.status (dto.status.released && !found.status.released) db db' := by
  obtain ⟨db₁, hrelease, h⟩ := andThen_eq_ok.mp h
  obtain ⟨⟨db₂, res⟩, hupdate, h⟩ := andThen_eq_ok.mp h
  obtain ⟨db₃, henqueued, h⟩ := andThen_eq_ok.mp h
  cases h
  refine changes_of_update ?_ hupdate (enqueued_eq_ok henqueued) fun _ ↦ ⟨rfl, rfl, rfl⟩
  rw [← hrelease, releaseSlot]
  simp only [Bool.and_eq_true, Bool.not_eq_true', Bool.not_eq_true]

theorem cancellation_changes {r : C2bBookingResponseDto}
    (h : C2bBookingsService.cancellation found service env db = .ok (db', r)) :
    Changes found .cancelled true db db' := by
  obtain ⟨db₁, hrelease, h⟩ := andThen_eq_ok.mp h
  obtain ⟨⟨db₂, res⟩, hupdate, h⟩ := andThen_eq_ok.mp h
  obtain ⟨db₃, henqueued, h⟩ := andThen_eq_ok.mp h
  cases h
  exact changes_of_update hrelease hupdate (enqueued_eq_ok henqueued) fun _ ↦ ⟨rfl, rfl, rfl⟩

/-- The release of the slot is right for the booking as it is, or the floor hides it. -/
theorem Changes.keeps {status : C2bBookingStatus} {release : Bool}
    (h : Changes found status release db db') (hcounted : Counted k db)
    (hservice : ∀ b ∈ db.c2bBookings.get? found.id, b.serviceId = found.serviceId)
    (hright : ∀ b ∈ db.c2bBookings.get? found.id, b.serviceId = k →
      (status.active → b.status.active) ∧
        (activeBookings k db = 0 ∨ release = (b.status.active && !status.active))) :
    Counted k db' ∧ activeBookings k db' ≤ activeBookings k db := by
  obtain ⟨b, hb, hcount⟩ := h.bookings
  have hcount := hcount k
  have hsame := hservice b hb
  have hread : ∀ s' ∈ db'.c2bServices.get? k, ∃ s ∈ db.c2bServices.get? k,
      s' = if k = found.serviceId ∧ release then releaseOne s else s := by
    intro s' hs'
    have hget := h.services k
    rw [Option.mem_def.mp hs'] at hget
    obtain ⟨s, hs, hs'⟩ := Option.map_eq_some_iff.mp hget.symm
    exact ⟨s, hs, hs'.symm⟩
  by_cases hk : b.serviceId = k
  · obtain ⟨hstatus, hrelease⟩ := hright b hb hk
    rw [beq_iff_eq.mpr hk, Bool.true_and, Bool.true_and] at hcount
    have hle : status.active.toNat ≤ b.status.active.toNat := by
      cases hactive : status.active with
      | false => exact Nat.zero_le _
      | true => rw [hstatus hactive]
    refine ⟨fun s' hs' ↦ ?_, by omega⟩
    obtain ⟨s, hs, rfl⟩ := hread s' hs'
    have hs := hcounted s hs
    rcases hrelease with hzero | hrelease
    · have hzero' : activeBookings k db' = 0 := by omega
      rw [hzero] at hs
      rw [hzero']
      split_ifs
      · show max 0 (s.bookingCount - 1) = _
        rw [hs]
        rfl
      · exact hs
    · have hnumber : activeBookings k db' + release.toNat = activeBookings k db := by
        rw [hrelease]
        cases hactive : b.status.active <;> cases hactive' : status.active <;> simp_all
      cases hr : release with
      | false =>
        rw [hr, Bool.toNat_false, Nat.add_zero] at hnumber
        rw [if_neg (by simp), hs, hnumber]
      | true =>
        rw [hr, Bool.toNat_true] at hnumber
        rw [if_pos ⟨hk.symm.trans hsame, rfl⟩]
        show max 0 (s.bookingCount - 1) = _
        rw [hs]
        omega
  · have hnumber : activeBookings k db' = activeBookings k db := by
      rw [beq_false_of_ne hk, Bool.false_and, Bool.false_and] at hcount
      exact hcount
    refine ⟨fun s' hs' ↦ ?_, hnumber.le⟩
    obtain ⟨s, hs, rfl⟩ := hread s' hs'
    rw [if_neg fun hne ↦ hk (hsame.trans hne.1.symm), hnumber]
    exact hcounted s hs

end Transactions

section Calls

variable {k : String} {client : Client} {history : MarketHistory}

theorem log_offers {params : CreateAuditLogParams} : (log params client).Each fun _ ↦ SameOffers :=
  each_log fun _ accounts ↦ SameMarket.offers ⟨accounts, rfl⟩

theorem log_active {params : CreateAuditLogParams} :
    (log params client).Each fun _ db db' ↦ SameMarket db db' := each_log fun _ accounts ↦ ⟨accounts, rfl⟩

/-- The calls keep the offers. -/
theorem runs_offers (op : BookingOp) : op.runs.Each fun _ ↦ SameOffers := by
  have hread : ∀ {name : String} {α : Type} {f : AuthEnv → MarketDb → α},
      (finds name f).Each fun _ ↦ SameOffers := each_finds SameOffers.refl
  cases op with
  | createBooking attendeeId dto client =>
    refine Call.each_bind (Call.each_bind hread fun ⟨found, now⟩ ↦ ?_) fun _ ↦ trivial
    rcases found with _ | ⟨service, event, provider⟩
    · trivial
    · dsimp only
      split_ifs
      · trivial
      · trivial
      · trivial
      · exact Call.each_bind (each_stores SameOffers.refl fun _ _ _ _ hs ↦ (booking_eq_ok hs).1)
          fun _ ↦ Call.each_bind log_offers fun _ ↦ trivial
      · trivial
  | updateBookingStatus providerId bookingId dto client =>
    refine Call.each_bind (Call.each_bind hread fun found ↦ ?_) fun _ ↦ trivial
    rcases found with _ | ⟨found, service⟩
    · trivial
    · dsimp only
      split_ifs
      · trivial
      · exact Call.each_bind (each_stores SameOffers.refl fun _ _ _ _ hs ↦
          (statusUpdate_changes hs).offers) fun _ ↦ Call.each_bind log_offers fun _ ↦ trivial
  | cancelBooking attendeeId bookingId client =>
    refine Call.each_bind (Call.each_bind hread fun found ↦ ?_) fun _ ↦ trivial
    rcases found with _ | ⟨⟨found, service⟩, dto⟩
    · trivial
    · dsimp only
      split_ifs
      · trivial
      · trivial
      · trivial
      · exact Call.each_bind (each_stores SameOffers.refl fun _ _ _ _ hs ↦
          (cancellation_changes hs).offers) fun _ ↦ Call.each_bind log_offers fun _ ↦ trivial

/-- No request makes the number of active bookings exceed the limit. -/
def Bounded (k : String) (db db' : MarketDb) : Prop :=
  activeBookings k db' ≤ activeBookings k db ∨ WithinLimit k db'

/-- The condition, and what every call keeps since the latest statement. -/
def AccurateSince (k : String) (op : BookingOp) (history : MarketHistory) (label : String)
    (db : MarketDb) : Prop :=
  Accurate k op history label db ∧ ∀ db₀ ∈ history.last, SameOffers db₀ db

abbrev KeepsCount (k : String) (op : BookingOp) {α : Type} (c : MarketCall α)
    (history : MarketHistory) : Prop :=
  c.Heeds (Counted k) (AccurateSince k op) (fun _ ↦ Bounded k) (fun _ _ ↦ True) history

theorem Counted.of_same {db db' : MarketDb} (h : Counted k db) (hsame : SameMarket db db') :
    Counted k db' := by
  obtain ⟨accounts, rfl⟩ := hsame
  exact h

theorem log_counts {params : CreateAuditLogParams} {op : BookingOp} :
    KeepsCount k op (log params client) history :=
  Call.heeds_each log_active (fun _ _ _ h hsame ↦ h.of_same hsame)
    fun _ _ _ _ hsame ↦ .inl hsame.active.le

theorem bookingWithService_eq {bookingId : String} {db : MarketDb} {found : C2bBooking}
    {service : C2bService} (h : bookingWithService bookingId db = some (found, service)) :
    db.c2bBookings.get? bookingId = some found := by
  obtain ⟨b, hb, h⟩ := Option.bind_eq_some_iff.mp h
  obtain ⟨s, -, h⟩ := Option.bind_eq_some_iff.mp h
  cases h
  exact hb

theorem offeredService_eq {serviceId : String} {db : MarketDb} {service : C2bService}
    {event : Event} {provider : User}
    (h : offeredService serviceId db = some (service, event, provider)) :
    db.c2bServices.get? serviceId = some service ∧ service.deletedAt.isNone := by
  obtain ⟨s, hs, h⟩ := Option.bind_eq_some_iff.mp h
  obtain ⟨e, -, h⟩ := Option.bind_eq_some_iff.mp h
  obtain ⟨u, -, h⟩ := Option.bind_eq_some_iff.mp h
  cases h
  exact Option.filter_eq_some_iff.mp hs

/-- The booking has not changed its service since it was found. -/
theorem found_service {bookingId : String} {db₀ db : MarketDb} {found : C2bBooking}
    (hfound : db₀.c2bBookings.get? bookingId = some found) (hsame : SameOffers db₀ db) :
    found.id = bookingId ∧
      ∀ b ∈ db.c2bBookings.get? found.id, b.serviceId = found.serviceId := by
  have hid : found.id = bookingId := (Table.get?_eq_some.mp hfound).2
  refine ⟨hid, fun b hb ↦ ?_⟩
  obtain ⟨b', hb', hservice⟩ := hsame.bookings bookingId found hfound
  rw [hid, Option.mem_def.mp hb'] at hb
  rw [← Option.mem_some_iff.mp hb]
  exact hservice

theorem createBooking_counts {attendeeId : String} {dto : CreateC2bBookingDto} :
    KeepsCount k (.createBooking attendeeId dto client) (createBooking attendeeId dto client) [] := by
  refine Call.heeds_bind (heeds_finds (fun _ ↦ .inl le_rfl) fun env db₀ _ _ ↦ ?_)
  cases hfound : offeredService dto.serviceId db₀ with
  | none => trivial
  | some found =>
    obtain ⟨service, event, provider⟩ := found
    dsimp only
    split_ifs
    · trivial
    · trivial
    · trivial
    · refine Call.heeds_bind (heeds_stores (fun _ ↦ .inl le_rfl) fun env db db' a hcounted hok hs ↦
        ⟨fun s' hs' ↦ ?_, ?_, Call.heeds_bind (log_counts.mono fun _ _ _ ↦ trivial)⟩)
      · obtain ⟨-, hservices, hactive, -⟩ := booking_eq_ok hs
        rw [Option.mem_def, hservices] at hs'
        obtain ⟨s, hs, rfl⟩ := Option.map_eq_some_iff.mp hs'
        have hcount := hcounted s hs
        rw [hactive]
        split_ifs
        · show s.bookingCount + 1 = _
          rw [hcount]
          rfl
        · exact hcount
      · obtain ⟨hsame, -, hactive, hlimit⟩ := booking_eq_ok hs
        by_cases hk : k = dto.serviceId
        · subst hk
          refine .inr fun s' hs' m hm ↦ ?_
          have hlimits := hsame.limits dto.serviceId
          rw [Option.mem_def.mp hs'] at hlimits
          obtain ⟨s, hget, hmax⟩ := Option.map_eq_some_iff.mp hlimits.symm
          -- the limit has not changed since the service was read
          have hlimits := (hok.2 db₀ History.last_concat).limits dto.serviceId
          rw [hget, (offeredService_eq hfound).1] at hlimits
          have hm' : m ∈ s.maxBookings := hmax ▸ hm
          have hset : service.maxBookings.isSome := by
            rw [← Option.some.inj hlimits, Option.mem_def.mp hm', Option.isSome_some]
          have hleft := hlimit hset s hget m hm'
          rw [hcounted s hget] at hleft
          rw [hactive, if_pos rfl]
          omega
        · left
          rw [hactive, if_neg hk, Nat.add_zero]
    · trivial

theorem updateBookingStatus_counts {providerId bookingId : String} {dto : UpdateC2bBookingStatusDto} :
    KeepsCount k (.updateBookingStatus providerId bookingId dto client)
      (updateBookingStatus providerId bookingId dto client) [] := by
  refine Call.heeds_bind (heeds_finds (fun _ ↦ .inl le_rfl) fun env db₀ _ _ ↦ ?_)
  cases hread : bookingWithService bookingId db₀ with
  | none => trivial
  | some found =>
    obtain ⟨found, service⟩ := found
    dsimp only
    split_ifs
    · trivial
    · refine Call.heeds_bind (heeds_stores (fun _ ↦ .inl le_rfl) fun env db db' a hcounted hok hs ↦ ?_)
      have hfound := bookingWithService_eq hread
      obtain ⟨hid, hservice⟩ := found_service hfound (hok.2 db₀ History.last_concat)
      have haccurate := hok.1 rfl
      obtain ⟨hcounted, hle⟩ := (statusUpdate_changes hs).keeps hcounted hservice fun b hb hk ↦ by
        have hb := haccurate b (hid ▸ hb) hk
        cases hactive : dto.status.active with
        | true =>
          rw [if_pos hactive] at hb
          have hreleased : dto.status.released = false := by
            rw [active_iff] at hactive
            simpa using hactive
          exact ⟨fun _ ↦ hb, .inr (by rw [hreleased, Bool.false_and, hb]; rfl)⟩
        | false =>
          rw [if_neg (by rw [hactive]; nofun)] at hb
          refine ⟨nofun, hb.imp_right fun hb ↦ ?_⟩
          have hreleased : dto.status.released = true := by
            rw [active_iff] at hactive
            simpa using hactive
          rw [hb db₀ History.last_concat found hfound, hreleased, Bool.true_and, active_iff,
            Bool.not_false, Bool.and_true]
      exact ⟨hcounted, .inl hle, Call.heeds_bind (log_counts.mono fun _ _ _ ↦ trivial)⟩

theorem cancelBooking_counts {attendeeId bookingId : String} :
    KeepsCount k (.cancelBooking attendeeId bookingId client)
      (cancelBooking attendeeId bookingId client) [] := by
  refine Call.heeds_bind (heeds_finds (fun _ ↦ .inl le_rfl) fun env db₀ _ _ ↦ ?_)
  cases hread : bookingWithService bookingId db₀ with
  | none => trivial
  | some found =>
    obtain ⟨found, service⟩ := found
    dsimp only [Option.map_some]
    split_ifs
    · trivial
    · trivial
    · trivial
    · refine Call.heeds_bind (heeds_stores (fun _ ↦ .inl le_rfl) fun env db db' a hcounted hok hs ↦ ?_)
      obtain ⟨hid, hservice⟩ :=
        found_service (bookingWithService_eq hread) (hok.2 db₀ History.last_concat)
      have haccurate := hok.1 rfl
      obtain ⟨hcounted, hle⟩ := (cancellation_changes hs).keeps hcounted hservice fun b hb hk ↦
        ⟨nofun, (haccurate b (hid ▸ hb) hk).imp_right fun hactive ↦ by rw [hactive]; rfl⟩
      exact ⟨hcounted, .inl hle, Call.heeds_bind (log_counts.mono fun _ _ _ ↦ trivial)⟩

theorem runs_counts (op : BookingOp) : KeepsCount k op op.runs [] := by
  cases op with
  | createBooking attendeeId dto client =>
    exact Call.heeds_bind (createBooking_counts.mono fun _ _ _ ↦ trivial)
  | updateBookingStatus providerId bookingId dto client =>
    exact Call.heeds_bind (updateBookingStatus_counts.mono fun _ _ _ ↦ trivial)
  | cancelBooking attendeeId bookingId client =>
    exact Call.heeds_bind (cancelBooking_counts.mono fun _ _ _ ↦ trivial)

end Calls

section Runs

variable {k : String} {p q : Pool MarketDb BookingTask}

def bookingCalls : Machine MarketDb BookingTask AuthEnv := tasks BookingOp.runs

def CountedAtFirst (k : String) (p : Pool MarketDb BookingTask) : Prop :=
  p.threads = [] ∧ Counted k p.shared

abbrev CountingCalls (k : String) (p : Pool MarketDb BookingTask) : Prop :=
  Heedful (Counted k) (AccurateSince k) (fun _ _ ↦ Bounded k) (fun _ _ _ ↦ True) p

theorem counting_reach (h : Reach bookingCalls.Step (Heeding (Accurate k)) (CountedAtFirst k) p) :
    CountingCalls k p ∧ Remembered SameOffers p := by
  obtain ⟨hreach, hremembered⟩ := h.remember SameOffers.refl (fun _ _ _ ↦ SameOffers.trans)
    runs_offers fun p hp ↦ hp.1
  refine ⟨(heedful_reach (I := fun _ ↦ True) runs_counts (fun p hp ↦ ⟨⟨hp.2, ?_⟩, trivial⟩)
    (fun _ _ _ _ _ _ ↦ trivial) hreach).1, hremembered⟩
  simp [hp.1]

/-- When every change of a status fits the booking as it is, the counter of a service is the number
of its active bookings, and no call makes that number exceed the limit. -/
theorem bookings_counted (k : String)
    (h : Reach bookingCalls.Step (Heeding (Accurate k)) (CountedAtFirst k) p) :
    Counted k p.shared ∧ ∀ m q, Heeding (Accurate k) p m → bookingCalls.Step p m q →
      Bounded k p.shared q.shared := by
  obtain ⟨hp, hremembered⟩ := counting_reach h
  refine ⟨hp.shared, fun m q hok hs ↦ ?_⟩
  obtain ⟨-, hmoved⟩ := hp.step runs_counts (hremembered.heeding hok) hs
  cases hmoved with
  | spawned op hshared => exact .inl (by rw [hshared])
  | ran i t t' label _ _ hG => exact hG

end Runs

section Sample

def sampleService : C2bService where
  id := "service-1"
  providerId := "provider-1"
  eventId := "event-1"
  name := "Stage photos"
  category := "Photography"
  price := none
  currency := "EGP"
  expiresAt := 90
  contactMethod := "EMAIL"
  maxBookings := some 2
  bookingCount := 0
  isAvailable := true
  deletedAt := none

/-- The provider offers a service at the event. -/
def serviceDb : MarketDb := { eventDb with c2bServices := .singleton sampleService }

theorem serviceDb_counted : CountedAtFirst "service-1" ⟨serviceDb, []⟩ := by
  refine ⟨rfl, fun s hs ↦ ?_⟩
  rw [List.mem_singleton.mp (Table.get?_eq_some.mp hs).1]
  rfl

def sampleBooking : CreateC2bBookingDto where
  serviceId := "service-1"
  notes := none
  contactMethod := none
  contactValue := none
  requestedDate := none

/-- Bookings are made at any time, and cancelled while all of them are active. -/
def cancelsActive (p : Pool MarketDb BookingTask) (i : ℕ) (_ : AuthEnv) : Bool :=
  p.threads[i]?.all fun t ↦
    match t.op with
    | .createBooking .. => true
    | .cancelBooking .. => t.call.label? != some "$transaction" ||
        p.shared.c2bBookings.rows.all (·.status.active)
    | .updateBookingStatus .. => false

theorem cancelsActive_sound {p : Pool MarketDb BookingTask} {i : ℕ} {env : AuthEnv}
    (h : cancelsActive p i env = true) : Heeding (Accurate "service-1") p (.run i env) := by
  intro t label hi hlabel
  rw [cancelsActive, hi, Option.all_some] at h
  obtain ⟨op, history, call⟩ := t
  cases op with
  | createBooking => trivial
  | updateBookingStatus => cases h
  | cancelBooking attendeeId bookingId client =>
    intro htransaction b hb _
    dsimp only at h hlabel
    rw [hlabel, htransaction, bne_self_eq_false, Bool.false_or, List.all_eq_true] at h
    exact .inr (h b (Table.get?_eq_some.mp hb).1)

/-- The attendee books twice and cancels one of the bookings. -/
theorem booked_twice : ∃ p : Pool MarketDb BookingTask,
    p.shared.c2bBookings.rows.map C2bBooking.status = [.cancelled, .pending] ∧
      Counted "service-1" p.shared := by
  have hrun : (bookingCalls.play cancelsActive
      ((List.range 3).map (fun n ↦ (0, sampleEnv 1 s!"a{n}")) ++
        (List.range 3).map (fun n ↦ (1, sampleEnv 2 s!"b{n}")) ++
        (List.range 3).map (fun n ↦ (2, sampleEnv 3 s!"c{n}")))
      ⟨serviceDb, ([.createBooking "user-1" sampleBooking nobody,
        .createBooking "user-1" sampleBooking nobody,
        .cancelBooking "user-1" "id-a1" nobody] : List BookingOp).map
          fun op ↦ ⟨op, [], op.runs⟩⟩).any
        (fun p ↦ p.shared.c2bBookings.rows.map C2bBooking.status == [.cancelled, .pending]) = true := by
    decide +kernel
  obtain ⟨p, hp, htest⟩ := (Option.any_eq_true ..).mp hrun
  have hreach := reach_tasks (fun _ _ _ h ↦ cancelsActive_sound h) serviceDb_counted hp
  exact ⟨p, beq_iff_eq.mp htest, (bookings_counted "service-1" hreach).1⟩

/-- The provider rejects one of two bookings, the attendee cancels it all the same, and the slot of
the other one is free again. -/
theorem rejected_then_cancelled : ∃ p : Pool MarketDb BookingTask,
    Reach bookingCalls.Step (Heeding fun _ _ _ _ ↦ True) (CountedAtFirst "service-1") p ∧
      p.threads.all (·.call.label?.isNone) = true ∧ activeBookings "service-1" p.shared = 1 ∧
      ¬ Counted "service-1" p.shared := by
  have hrun : (bookingCalls.play (fun _ _ _ ↦ true)
      ((List.range 3).map (fun n ↦ (0, sampleEnv 1 s!"a{n}")) ++
        (List.range 3).map (fun n ↦ (1, sampleEnv 2 s!"b{n}")) ++
        (List.range 3).map (fun n ↦ (2, sampleEnv 3 s!"c{n}")) ++
        (List.range 3).map (fun n ↦ (3, sampleEnv 4 s!"d{n}")))
      ⟨serviceDb, ([.createBooking "user-1" sampleBooking nobody,
        .createBooking "user-1" sampleBooking nobody,
        .updateBookingStatus "provider-1" "id-a1" ⟨.rejected, none⟩ nobody,
        .cancelBooking "user-1" "id-a1" nobody] : List BookingOp).map
          fun op ↦ ⟨op, [], op.runs⟩⟩).any
        (fun p ↦ p.threads.all (·.call.label?.isNone) &&
          activeBookings "service-1" p.shared == 1 &&
          (p.shared.c2bServices.get? "service-1").any (·.bookingCount == 0)) = true := by
    decide +kernel
  obtain ⟨p, hp, htest⟩ := (Option.any_eq_true ..).mp hrun
  simp only [Bool.and_eq_true, beq_iff_eq] at htest
  obtain ⟨⟨hdone, hactive⟩, hcount⟩ := htest
  obtain ⟨s, hs, hzero⟩ := (Option.any_eq_true ..).mp hcount
  refine ⟨p, reach_tasks (fun _ _ _ _ _ _ _ _ ↦ trivial) serviceDb_counted hp, hdone, hactive,
    fun hcounted ↦ ?_⟩
  have hs := hcounted s hs
  rw [beq_iff_eq.mp hzero, hactive] at hs
  cases hs

end Sample

end Innovents.Marketplace
