import Innovents.Lib.Journal
import Innovents.Lib.Placement
import Innovents.Marketplace.BookingCounter

namespace Innovents.Marketplace

open Innovents.Lib Innovents.Auth C2bBookingsService
open Innovents.Payments (OutboxEvent)

section Ledger

def C2bBookingStatus.ofText? (text : String) : Option C2bBookingStatus :=
  [C2bBookingStatus.pending, .confirmed, .rejected, .cancelled, .completed].find? (·.text == text)

/-- The status of a booking, and which of its moments have come. -/
structure Standing where
  status : C2bBookingStatus
  confirmed : Bool
  cancelled : Bool
  completed : Bool
  deriving DecidableEq

def Standing.first : Standing := ⟨.pending, false, false, false⟩

def Standing.next (s : Standing) (status : C2bBookingStatus) : Standing where
  status
  confirmed := s.confirmed || status == .confirmed
  cancelled := s.cancelled || status == .cancelled
  completed := s.completed || status == .completed

def C2bBooking.standing (b : C2bBooking) : Standing where
  status := b.status
  confirmed := b.confirmedAt.isSome
  cancelled := b.cancelledAt.isSome
  completed := b.completedAt.isSome

/-- The attendee, the provider, the service and the event of a booking. -/
def C2bBooking.parties (b : C2bBooking) : String × String × String × String :=
  (b.attendeeId, b.providerId, b.serviceId, b.eventId)

/-- The status that an event announces for the booking. -/
def announces (k : String) (e : OutboxEvent) : Option C2bBookingStatus :=
  if e.eventType = "C2B_BOOKING_STATUS_CHANGED" ∧ e.aggregateId = k then
    (e.payload.get "status").asStr?.bind C2bBookingStatus.ofText?
  else none

/-- The attendee and the provider that an event names as those of the new booking. -/
def introduces (k : String) (e : OutboxEvent) : Option (JsValue × JsValue) :=
  if e.eventType = "C2B_BOOKING_REQUESTED" ∧ e.aggregateId = k then
    some (e.payload.get "attendeeId", e.payload.get "providerId")
  else none

/-- The events of the outbox tell the history of every booking, and of no others. -/
structure Announced (db : MarketDb) : Prop where
  journal : Journal announces Standing.next .first C2bBooking.standing
    db.accounts.outboxEvents.rows db.c2bBookings
  introduced : ∀ k, told introduces k db.accounts.outboxEvents.rows =
    ((db.c2bBookings.get? k).map fun b ↦ (JsValue.str b.attendeeId, .str b.providerId)).toList
  addressed : ∀ e ∈ db.accounts.outboxEvents.rows, e.eventType = "C2B_BOOKING_STATUS_CHANGED" →
    ∃ b ∈ db.c2bBookings.get? e.aggregateId, e.payload.get "attendeeId" = .str b.attendeeId

/-- The call asks for the booking, after it has found the service on offer. -/
def BookingOp.Asks (op : BookingOp) (history : MarketHistory) (b : C2bBooking) : Prop :=
  match op with
  | createBooking attendeeId dto _ => b.attendeeId = attendeeId ∧ b.serviceId = dto.serviceId ∧
      b.standing = .first ∧ Saw history fun db ↦ ∃ service event provider,
        offeredService dto.serviceId db = some (service, event, provider) ∧
          service.isAvailable = true ∧ provider.status = .active ∧
            b.providerId = service.providerId ∧ b.eventId = service.eventId
  | updateBookingStatus _ _ _ _ | cancelBooking _ _ _ => False

/-- The call may give the booking that it has found the status. -/
def BookingOp.Orders (op : BookingOp) (found : C2bBooking) (status : C2bBookingStatus) : Prop :=
  match op with
  | createBooking _ _ _ => False
  | updateBookingStatus providerId bookingId dto _ =>
    found.id = bookingId ∧ found.providerId = providerId ∧ status = dto.status
  | cancelBooking attendeeId bookingId _ => found.id = bookingId ∧ found.attendeeId = attendeeId ∧
      status = .cancelled ∧ found.status ≠ .cancelled ∧ found.status ≠ .completed

/-- The event of a new booking. -/
structure Introduces (e : OutboxEvent) (b : C2bBooking) : Prop where
  eventType : e.eventType = "C2B_BOOKING_REQUESTED"
  aggregateId : e.aggregateId = b.id
  attendeeId : e.payload.get "attendeeId" = .str b.attendeeId
  providerId : e.payload.get "providerId" = .str b.providerId

/-- The event of a new status. -/
structure Announces (e : OutboxEvent) (found : C2bBooking) (status : C2bBookingStatus) : Prop where
  eventType : e.eventType = "C2B_BOOKING_STATUS_CHANGED"
  aggregateId : e.aggregateId = found.id
  attendeeId : e.payload.get "attendeeId" = .str found.attendeeId
  status : e.payload.get "status" = .str status.text

/-- What a request does to the bookings and the outbox, after the history of its call. -/
inductive Books (op : BookingOp) (history : MarketHistory) (db db' : MarketDb) : Prop
  | quiet : db'.c2bBookings = db.c2bBookings →
      db'.accounts.outboxEvents = db.accounts.outboxEvents → Books op history db db'
  | asked (b : C2bBooking) (e : OutboxEvent) : op.Asks history b → Introduces e b →
      db.c2bBookings.create b = .ok db'.c2bBookings →
      db.accounts.outboxEvents.create e = .ok db'.accounts.outboxEvents → Books op history db db'
  | ordered (found : C2bBooking) (status : C2bBookingStatus) (f : C2bBooking → C2bBooking)
      (e : OutboxEvent) : op.Orders found status →
      Saw history (fun db ↦ db.c2bBookings.get? found.id = some found) →
      (∀ b, (f b).id = b.id ∧ (f b).parties = b.parties ∧
        (f b).standing = b.standing.next status) → Announces e found status →
      db.c2bBookings.update found.id f = .ok db'.c2bBookings →
      db.accounts.outboxEvents.create e = .ok db'.accounts.outboxEvents → Books op history db db'

variable {op : BookingOp} {history : MarketHistory} {db db' : MarketDb} {e : OutboxEvent}
  {b found : C2bBooking} {status : C2bBookingStatus} {k : String}

theorem ofText?_text : C2bBookingStatus.ofText? status.text = some status := by
  cases status <;> decide

theorem Introduces.silent (h : Introduces e b) : announces k e = none := by
  rw [announces, h.eventType]
  exact if_neg fun hne ↦ absurd hne.1 (by decide)

theorem Introduces.introduces (h : Introduces e b) : introduces k e =
    if b.id = k then some (.str b.attendeeId, .str b.providerId) else none := by
  simp only [Marketplace.introduces, h.eventType, h.aggregateId, h.attendeeId, h.providerId,
    true_and]

theorem Announces.silent (h : Announces e found status) : introduces k e = none := by
  rw [introduces, h.eventType]
  exact if_neg fun hne ↦ absurd hne.1 (by decide)

theorem Announces.announces (h : Announces e found status) :
    announces k e = if found.id = k then some status else none := by
  simp only [Marketplace.announces, h.eventType, h.aggregateId, h.status, JsValue.asStr?_str,
    Option.bind_some, ofText?_text, true_and]

/-- Bookings stay, with their parties. -/
theorem Books.stay (h : Books op history db db') :
    Stay C2bBooking.parties db.c2bBookings db'.c2bBookings := by
  cases h with
  | quiet hbookings _ =>
    rw [hbookings]
    exact stay_refl
  | asked b e _ _ hcreate _ => exact (created_onlyIn hcreate).stay
  | ordered found status f e _ _ hf _ hupdate _ =>
    exact (updated_onlyAt hupdate fun b ↦ ⟨(hf b).1, (hf b).2.1⟩).stay

theorem attendeeId_eq {b b' : C2bBooking} (h : b'.parties = b.parties) :
    b'.attendeeId = b.attendeeId ∧ b'.providerId = b.providerId :=
  ⟨congrArg Prod.fst h, congrArg (·.2.1) h⟩

/-- The addressees of earlier events are still those of the bookings. -/
theorem addressed_stays (hstay : Stay C2bBooking.parties db.c2bBookings db'.c2bBookings)
    (h : Announced db) {e : OutboxEvent} (he : e ∈ db.accounts.outboxEvents.rows)
    (htype : e.eventType = "C2B_BOOKING_STATUS_CHANGED") :
    ∃ b ∈ db'.c2bBookings.get? e.aggregateId, e.payload.get "attendeeId" = .str b.attendeeId := by
  obtain ⟨b, hb, hattendee⟩ := h.addressed e he htype
  obtain ⟨b', hb', hparties⟩ := hstay _ b hb
  exact ⟨b', hb', (attendeeId_eq hparties).1 ▸ hattendee⟩

theorem Books.announced (h : Books op history db db')
    (hsince : ∀ event ∈ history, Stay C2bBooking.parties event.2.2.c2bBookings db.c2bBookings)
    (hdb : Announced db) : Announced db' := by
  have hstay := h.stay
  cases h with
  | quiet hbookings hevents =>
    constructor
    · rw [hbookings, hevents]
      exact hdb.journal
    · rw [hbookings, hevents]
      exact hdb.introduced
    · rw [hbookings, hevents]
      exact hdb.addressed
  | asked b e hasks he hcreate hevent =>
    have hrows := Table.create_eq_ok.mp hevent
    have hfirst : b.standing = .first := by
      cases op with
      | createBooking => exact hasks.2.2.1
      | updateBookingStatus | cancelBooking => exact hasks.elim
    constructor
    · rw [hrows]
      exact hdb.journal.created hcreate hfirst fun k ↦ he.silent
    · intro k
      rw [hrows, told_append, hdb.introduced, he.introduces, Table.get?_create hcreate]
      have hid : Row.id b = b.id := rfl
      rw [hid]
      by_cases hk : b.id = k
      · have hfree : db.c2bBookings.get? k = none := by
          cases hold : db.c2bBookings.get? k with
          | none => rfl
          | some old => exact absurd hk (Table.get?_create_taken hold hcreate).1
        simp [hk, hfree]
      · simp [hk]
    · intro e' he' htype
      rw [hrows] at he'
      rcases List.mem_append.mp he' with he' | he'
      · exact addressed_stays hstay hdb he' htype
      · rw [List.mem_singleton.mp he', he.eventType] at htype
        exact absurd htype (by decide)
  | ordered found status f e horders hsaw hf he hupdate hevent =>
    have hrows := Table.create_eq_ok.mp hevent
    have hget := fun k ↦ Table.get?_update (k := k) hupdate fun b ↦ (hf b).1
    constructor
    · rw [hrows]
      refine hdb.journal.updated hupdate (fun b ↦ (hf b).1) (he.announces.trans (if_pos rfl))
        (fun j hj ↦ he.announces.trans (if_neg (Ne.symm hj))) fun b ↦ (hf b).2.2
    · intro k
      rw [hrows, told_silent he.silent, hdb.introduced, hget]
      split_ifs with hk
      · rw [hk, Option.map_map]
        congr 2
        funext b
        obtain ⟨hattendee, hprovider⟩ := attendeeId_eq (hf b).2.1
        simp [hattendee, hprovider]
      · rfl
    · intro e' he' htype
      rw [hrows] at he'
      rcases List.mem_append.mp he' with he' | he'
      · exact addressed_stays hstay hdb he' htype
      · rw [List.mem_singleton.mp he', he.aggregateId, he.attendeeId]
        obtain ⟨event, hmem, hfound⟩ := hsaw
        obtain ⟨b, hb, hparties⟩ := hsince event hmem found.id found hfound
        obtain ⟨b', hb', hparties'⟩ := hstay found.id b hb
        exact ⟨b', hb', by rw [(attendeeId_eq (hparties'.trans hparties)).1]⟩

/-- A booking is new and was asked for, or has the status that one of its parties orders. -/
theorem Books.changed (h : Books op history db db')
    (hsince : ∀ event ∈ history, Stay C2bBooking.parties event.2.2.c2bBookings db.c2bBookings)
    (hchanged : Changed db.c2bBookings db'.c2bBookings k b) :
    (db.c2bBookings.get? k = none ∧ op.Asks history b) ∨
      ∃ old ∈ db.c2bBookings.get? k, b.parties = old.parties ∧
        ∃ found status, Saw history (fun db ↦ db.c2bBookings.get? k = some found) ∧
          found.parties = b.parties ∧ op.Orders found status ∧
            b.standing = old.standing.next status := by
  obtain ⟨hnew, hold⟩ := hchanged
  cases h with
  | quiet hbookings _ => exact absurd (hbookings ▸ hnew) hold
  | asked new e hasks _ hcreate _ =>
    rw [Table.get?_create hcreate] at hnew
    split_ifs at hnew with hk
    · cases hnew
      refine .inl ⟨?_, hasks⟩
      cases hfound : db.c2bBookings.get? k with
      | none => rfl
      | some old => exact absurd hk (Table.get?_create_taken hfound hcreate).1
    · exact absurd hnew hold
  | ordered found status f e horders hsaw hf _ hupdate _ =>
    rw [Table.get?_update hupdate fun b ↦ (hf b).1] at hnew
    split_ifs at hnew with hk
    · subst hk
      obtain ⟨old, hfound, rfl⟩ := Option.map_eq_some_iff.mp hnew
      obtain ⟨event, hmem, hfirst⟩ := id hsaw
      obtain ⟨later, hlater, hparties⟩ := hsince event hmem found.id found hfirst
      cases hfound.symm.trans hlater
      exact .inr ⟨old, hfound, (hf old).2.1, found, status, hsaw,
        (hparties.symm.trans (hf old).2.1.symm), horders, (hf old).2.2⟩
    · exact absurd hnew hold

end Ledger

section Transactions

variable {op : BookingOp} {history : MarketHistory} {db db' : MarketDb} {env : AuthEnv}
  {service : C2bService} {found : C2bBooking} {r : C2bBookingResponseDto}

theorem enqueued_creates {params : CreateOutboxEventParams} (h : enqueued params env db = .ok db') :
    (∃ accounts, db' = { db with accounts }) ∧ ∃ e : OutboxEvent,
      e.eventType = params.eventType ∧ e.aggregateId = params.aggregateId ∧
        e.payload = .obj params.payload ∧
          db.accounts.outboxEvents.create e = .ok db'.accounts.outboxEvents := by
  obtain ⟨accounts, hwritten, h⟩ := andThen_eq_ok.mp h
  obtain ⟨outboxEvents, hcreate, hwritten⟩ := andThen_eq_ok.mp hwritten
  cases h
  cases hwritten
  exact ⟨⟨_, rfl⟩, _, rfl, rfl, rfl, ofRefusal_eq_ok.mp hcreate⟩

theorem booking_books {attendeeId : String} {dto : CreateC2bBookingDto} {client : Client}
    (h : booking attendeeId dto service env db = .ok (db', r))
    (hsaw : Saw history fun db ↦ ∃ event provider,
      offeredService dto.serviceId db = some (service, event, provider) ∧
        service.isAvailable = true ∧ provider.status = .active) :
    Books (.createBooking attendeeId dto client) history db db' := by
  obtain ⟨db₁, htake, h⟩ := andThen_eq_ok.mp h
  obtain ⟨t, hcreate, h⟩ := andThen_eq_ok.mp h
  obtain ⟨db₂, henqueued, h⟩ := andThen_eq_ok.mp h
  cases h
  obtain ⟨⟨t', rfl⟩, -⟩ := takeSlot_eq_ok htake
  obtain ⟨⟨accounts, rfl⟩, e, htype, hid, hpayload, hevent⟩ := enqueued_creates henqueued
  refine .asked _ e ⟨rfl, rfl, rfl, ?_⟩ ⟨htype, hid, ?_, ?_⟩ (ofRefusal_eq_ok.mp hcreate) hevent
  · obtain ⟨event, hmem, offer, provider, hfound, havailable, hactive⟩ := hsaw
    exact ⟨event, hmem, service, offer, provider, hfound, havailable, hactive, rfl, rfl⟩
  · rw [hpayload]
    rfl
  · rw [hpayload]
    rfl

/-- The two transactions that change a status. -/
theorem change_books {status : C2bBookingStatus} {rest : List (String × JsValue)} {db₁ db₂ : MarketDb}
    {f : C2bBooking → C2bBooking} {res : C2bBooking} (horders : op.Orders found status)
    (hsaw : Saw history fun db ↦ db.c2bBookings.get? found.id = some found)
    (hservices : ∃ t, db₁ = { db with c2bServices := t })
    (hupdate : updateBooking found.id f env db₁ = .ok (db₂, res))
    (henqueued : enqueued (statusChanged found service status rest) env db₂ = .ok db')
    (hf : ∀ b, (f b).id = b.id ∧ (f b).parties = b.parties ∧
      (f b).standing = b.standing.next status) : Books op history db db' := by
  obtain ⟨t, rfl⟩ := hservices
  obtain ⟨t', ht, hupdate⟩ := andThen_eq_ok.mp hupdate
  have hdb₂ : db₂ = { db with
      c2bServices := t
      c2bBookings := t' } := by
    split at hupdate
    · cases hupdate
      rfl
    · cases hupdate
  subst hdb₂
  obtain ⟨⟨accounts, rfl⟩, e, htype, hid, hpayload, hevent⟩ := enqueued_creates henqueued
  refine .ordered found status (fun b ↦ { f b with updatedAt := env.now }) e horders hsaw hf
    ⟨htype, hid, ?_, ?_⟩ (ofRefusal_eq_ok.mp ht) hevent
  · rw [hpayload]
    rfl
  · rw [hpayload]
    rfl

theorem releaseSlot_services {status : C2bBookingStatus} (h : releaseSlot found status db = .ok db') :
    ∃ t, db' = { db with c2bServices := t } := by
  unfold releaseSlot at h
  split_ifs at h
  · exact (updateServices_eq_ok h fun _ ↦ rfl).1
  · cases h
    exact ⟨_, rfl⟩

theorem statusUpdate_books {dto : UpdateC2bBookingStatusDto}
    (h : statusUpdate found service dto env db = .ok (db', r)) (horders : op.Orders found dto.status)
    (hsaw : Saw history fun db ↦ db.c2bBookings.get? found.id = some found) :
    Books op history db db' := by
  obtain ⟨db₁, hrelease, h⟩ := andThen_eq_ok.mp h
  obtain ⟨⟨db₂, res⟩, hupdate, h⟩ := andThen_eq_ok.mp h
  obtain ⟨db₃, henqueued, h⟩ := andThen_eq_ok.mp h
  cases h
  refine change_books horders hsaw (releaseSlot_services hrelease) hupdate henqueued fun b ↦
    ⟨rfl, rfl, ?_⟩
  cases dto.status <;> simp [C2bBooking.standing, Standing.next]

theorem cancellation_books (h : C2bBookingsService.cancellation found service env db = .ok (db', r))
    (horders : op.Orders found .cancelled)
    (hsaw : Saw history fun db ↦ db.c2bBookings.get? found.id = some found) :
    Books op history db db' := by
  obtain ⟨db₁, hrelease, h⟩ := andThen_eq_ok.mp h
  obtain ⟨⟨db₂, res⟩, hupdate, h⟩ := andThen_eq_ok.mp h
  obtain ⟨db₃, henqueued, h⟩ := andThen_eq_ok.mp h
  cases h
  refine change_books horders hsaw (updateServices_eq_ok hrelease fun _ ↦ rfl).1 hupdate henqueued
    fun b ↦ ⟨rfl, rfl, ?_⟩
  simp [C2bBooking.standing, Standing.next]

end Transactions

section Calls

variable {history : MarketHistory} {client : Client}

/-- What the requests of a call do to the bookings and the outbox. -/
def BookingOp.Does (op : BookingOp) (history : MarketHistory) (_ : String) (_ : AuthEnv)
    (db db' : MarketDb) : Prop := Books op history db db'

theorem books_read {op : BookingOp} {db : MarketDb} : Books op history db db := .quiet rfl rfl

theorem log_books {op : BookingOp} {params : CreateAuditLogParams} :
    (log params client).Traces op.Does (fun _ _ ↦ True) history := by
  refine fun env db ↦ ⟨.quiet rfl ?_, trivial⟩
  obtain ⟨t, ht⟩ := AuditService.written_frame params client env db.accounts
  dsimp only
  rw [ht]

theorem runs_books (op : BookingOp) : op.runs.Traces op.Does (fun _ _ ↦ True) [] := by
  cases op with
  | createBooking attendeeId dto client =>
    refine Call.traces_bind (Call.traces_bind (traces_finds (fun _ _ ↦ books_read) fun env db ↦ ?_))
    cases hfound : offeredService dto.serviceId db with
    | none => trivial
    | some found =>
      obtain ⟨service, event, provider⟩ := found
      dsimp only
      split_ifs with havailable _ _ hactive
      · trivial
      · trivial
      · trivial
      · refine Call.traces_bind (traces_stores (fun _ _ ↦ books_read) fun env db db' r h ↦
          ⟨booking_books h (saw_concat ⟨event, provider, hfound, ?_, ?_⟩), ?_⟩)
        · simpa using havailable
        · simpa using hactive
        · exact Call.traces_bind (log_books.mono fun _ _ _ ↦ trivial)
      · trivial
  | updateBookingStatus providerId bookingId dto client =>
    refine Call.traces_bind (Call.traces_bind (traces_finds (fun _ _ ↦ books_read) fun env db ↦ ?_))
    cases hfound : bookingWithService bookingId db with
    | none => trivial
    | some found =>
      obtain ⟨found, service⟩ := found
      have hget := bookingWithService_eq hfound
      have hid : found.id = bookingId := (Table.get?_eq_some.mp hget).2
      dsimp only
      split_ifs with hprovider
      · trivial
      · refine Call.traces_bind (traces_stores (fun _ _ ↦ books_read) fun env db db' r h ↦
          ⟨statusUpdate_books h ⟨hid, not_not.mp hprovider, rfl⟩ (saw_concat (hid ▸ hget)), ?_⟩)
        exact Call.traces_bind (log_books.mono fun _ _ _ ↦ trivial)
  | cancelBooking attendeeId bookingId client =>
    refine Call.traces_bind (Call.traces_bind (traces_finds (fun _ _ ↦ books_read) fun env db ↦ ?_))
    cases hfound : bookingWithService bookingId db with
    | none => trivial
    | some found =>
      obtain ⟨found, service⟩ := found
      have hget := bookingWithService_eq hfound
      have hid : found.id = bookingId := (Table.get?_eq_some.mp hget).2
      dsimp only [Option.map_some]
      split_ifs with hattendee hcancelled hcompleted
      · trivial
      · trivial
      · trivial
      · refine Call.traces_bind (traces_stores (fun _ _ ↦ books_read) fun env db db' r h ↦
          ⟨cancellation_books h ⟨hid, not_not.mp hattendee, rfl, hcancelled, hcompleted⟩
            (saw_concat (hid ▸ hget)), ?_⟩)
        exact Call.traces_bind (log_books.mono fun _ _ _ ↦ trivial)

end Calls

/-- However bookings are made, answered and cancelled: the events of the outbox tell how each booking
came to its status and its moments, one event introduces it with its attendee and its provider, and
the others are addressed to its attendee; a new booking is pending and was asked for by its
attendee when the service was on offer; after that only its provider orders a status, or its
attendee a cancellation of what was found open; and bookings never leave their parties. -/
theorem bookings_announced {p : Pool MarketDb BookingTask}
    (h : Reach bookingCalls.Step (fun _ _ ↦ True) (fun p ↦ p.threads = [] ∧ Announced p.shared) p) :
    Announced p.shared ∧ ∀ t ∈ p.threads, ∀ earlier label db db' later,
      t.history = earlier ++ (label, db, db') :: later →
        Stay C2bBooking.parties db'.c2bBookings p.shared.c2bBookings ∧
          ∀ k b, Changed db.c2bBookings db'.c2bBookings k b →
            (db.c2bBookings.get? k = none ∧ t.op.Asks earlier b) ∨
              ∃ old ∈ db.c2bBookings.get? k, b.parties = old.parties ∧
                ∃ found status, Saw earlier (fun db ↦ db.c2bBookings.get? k = some found) ∧
                  found.parties = b.parties ∧ t.op.Orders found status ∧
                    b.standing = old.standing.next status := by
  have hrecorded := recorded_reach
    (R := fun db db' : MarketDb ↦ Stay C2bBooking.parties db.c2bBookings db'.c2bBookings)
    (fun _ ↦ stay_refl) (fun _ _ _ ↦ Stay.trans) runs_books
    (fun _ _ _ _ _ _ hdoes ↦ hdoes.stay) (fun _ hp ↦ hp.1) h
  refine ⟨recorded_stays
    (R := fun db db' : MarketDb ↦ Stay C2bBooking.parties db.c2bBookings db'.c2bBookings)
    (fun _ ↦ stay_refl) (fun _ _ _ ↦ Stay.trans) runs_books
    (fun _ _ _ _ _ _ hdoes ↦ hdoes.stay) (fun _ _ _ _ _ _ hdoes ↦ hdoes.announced)
    (fun _ hp ↦ hp) h, ?_⟩
  intro t ht earlier label db db' later hhistory
  obtain ⟨⟨env, hdoes⟩, hsince⟩ := hrecorded.made t ht earlier label db db' later hhistory
  have hevent : (label, db, db') ∈ t.history := by
    rw [hhistory]
    exact List.mem_append_right _ List.mem_cons_self
  exact ⟨hrecorded.since t ht _ hevent, fun k b ↦ hdoes.changed hsince⟩

section Sample

theorem serviceDb_announced : Announced serviceDb := by
  constructor
  · exact ⟨fun k r hr ↦ (by cases hr), fun _ _ ↦ rfl⟩
  · exact fun _ ↦ rfl
  · exact fun e he ↦ absurd he List.not_mem_nil

/-- The provider confirms the booking while the attendee cancels it. -/
theorem confirmed_and_cancelled : ∃ p : Pool MarketDb BookingTask,
    p.shared.c2bBookings.rows.map C2bBooking.standing = [⟨.cancelled, true, true, false⟩] ∧
      told announces "id-a1" p.shared.accounts.outboxEvents.rows = [.confirmed, .cancelled] ∧
        Announced p.shared ∧ ∀ t ∈ p.threads, ∀ earlier label db db' later,
          t.history = earlier ++ (label, db, db') :: later →
            Stay C2bBooking.parties db'.c2bBookings p.shared.c2bBookings ∧
              ∀ k b, Changed db.c2bBookings db'.c2bBookings k b →
                (db.c2bBookings.get? k = none ∧ t.op.Asks earlier b) ∨
                  ∃ old ∈ db.c2bBookings.get? k, b.parties = old.parties ∧
                    ∃ found status, Saw earlier (fun db ↦ db.c2bBookings.get? k = some found) ∧
                      found.parties = b.parties ∧ t.op.Orders found status ∧
                        b.standing = old.standing.next status := by
  have hrun : (bookingCalls.play (fun _ _ _ ↦ true)
      ((List.range 3).map (fun n ↦ (0, sampleEnv 1 s!"a{n}")) ++
        [(2, sampleEnv 2 "c"), (1, sampleEnv 2 "b"), (1, sampleEnv 3 "b"), (2, sampleEnv 4 "c")])
      ⟨serviceDb, ([.createBooking "user-1" sampleBooking nobody,
        .updateBookingStatus "provider-1" "id-a1" ⟨.confirmed, none⟩ nobody,
        .cancelBooking "user-1" "id-a1" nobody] : List BookingOp).map
          fun op ↦ ⟨op, [], op.runs⟩⟩).any (fun p ↦
        p.shared.c2bBookings.rows.map C2bBooking.standing == [⟨.cancelled, true, true, false⟩] &&
          told announces "id-a1" p.shared.accounts.outboxEvents.rows ==
            [.confirmed, .cancelled]) = true := by
    decide +kernel
  obtain ⟨p, hp, htest⟩ := (Option.any_eq_true ..).mp hrun
  obtain ⟨hstanding, htold⟩ := Bool.and_eq_true_iff.mp htest
  have hreach : Reach bookingCalls.Step (Heeding fun _ _ _ _ ↦ True)
      (fun p ↦ p.threads = [] ∧ Announced p.shared) p :=
    reach_tasks (fun _ _ _ _ _ _ _ _ ↦ trivial) ⟨rfl, serviceDb_announced⟩ hp
  exact ⟨p, beq_iff_eq.mp hstanding, beq_iff_eq.mp htold,
    bookings_announced (hreach.mono fun _ _ _ ↦ trivial)⟩

end Sample

end Innovents.Marketplace
