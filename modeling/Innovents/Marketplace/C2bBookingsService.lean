import Innovents.Marketplace.Schema

namespace Innovents.Marketplace

open Innovents.Lib Innovents.Auth
open Innovents.Payments (Time)

structure CreateC2bBookingDto where
  serviceId : String
  notes : Option String
  contactMethod : Option String
  contactValue : Option String
  requestedDate : Option Time

structure UpdateC2bBookingStatusDto where
  status : C2bBookingStatus
  providerNotes : Option String

/-- All columns of the row, with what its service, its provider and its attendee show. -/
structure C2bBookingResponseDto where
  booking : C2bBooking
  service : Option (String × String × Option ℚ × String)
  provider : Option (Option String × Option String × Option String)
  attendee : Option (String × Option String)

/-- Bookings that do not need a slot. -/
def C2bBookingStatus.released (status : C2bBookingStatus) : Bool :=
  status == .rejected || status == .cancelled

namespace C2bBookingsService

/-- The row with its relations. -/
def mapToDto (booking : C2bBooking) (db : MarketDb) : C2bBookingResponseDto where
  booking
  service := (db.c2bServices.get? booking.serviceId).map fun s ↦
    (s.name, s.category, s.price.map (·.toNumber), s.currency)
  provider := (db.accounts.profiles.find? fun p ↦
      p.table == "provider_profiles" && p.userId == booking.providerId).map fun p ↦
    let column (name : String) : Option String := (p.columns.lookup name).join
    (column "businessName", column "contactEmail", column "contactPhone")
  attendee := (db.accounts.users.get? booking.attendeeId).map fun u ↦ (u.email, u.phone)

/-- A service with its event and its provider. -/
def offeredService (serviceId : String) (db : MarketDb) : Option (C2bService × Event × User) := do
  let service ← (db.c2bServices.get? serviceId).filter (·.deletedAt.isNone)
  let event ← db.events.get? service.eventId
  let provider ← db.accounts.users.get? service.providerId
  return (service, event, provider)

/-- The services that the conditional `UPDATE` matches. -/
def hasCapacity (serviceId : String) (now : Time) (s : C2bService) : Bool :=
  s.id == serviceId && s.isAvailable && now < s.expiresAt && s.deletedAt.isNone &&
    s.maxBookings.all (s.bookingCount < ·)

def bookOne (s : C2bService) : C2bService := { s with bookingCount := s.bookingCount + 1 }

/-- `GREATEST(0, booking_count - 1)` -/
def releaseOne (s : C2bService) : C2bService := { s with bookingCount := max 0 (s.bookingCount - 1) }

def updateServices (p : C2bService → Bool) (f : C2bService → C2bService) (db : MarketDb) :
    Except AuthError MarketDb := do
  let c2bServices ← ofRefusal (db.c2bServices.updateMany p f)
  return { db with c2bServices }

/-- Without a limit on the service the slot is taken in any case. -/
def takeSlot (service : C2bService) (serviceId : String) (env : AuthEnv) (db : MarketDb) :
    Except AuthError MarketDb :=
  match service.maxBookings with
  | some _ =>
    if db.c2bServices.rows.countP (hasCapacity serviceId env.now) = 0 then
      refuse .conflict "Booking capacity for this service has been reached"
    else updateServices (hasCapacity serviceId env.now) bookOne db
  | none => updateServices (·.id == serviceId) bookOne db

/-- The transaction of a booking. -/
def booking (attendeeId : String) (dto : CreateC2bBookingDto) (service : C2bService) (env : AuthEnv)
    (db : MarketDb) : Except AuthError (MarketDb × C2bBookingResponseDto) := do
  let db ← takeSlot service dto.serviceId env db
  let newBooking : C2bBooking :=
    { id := env.idFor db.c2bBookings
      serviceId := dto.serviceId
      attendeeId
      providerId := service.providerId
      eventId := service.eventId
      status := .pending
      notes := dto.notes
      providerNotes := none
      contactMethod := some ((dto.contactMethod.filter (· ≠ "")).getD service.contactMethod)
      contactValue := dto.contactValue
      requestedDate := dto.requestedDate
      confirmedAt := none
      cancelledAt := none
      completedAt := none
      createdAt := env.now
      updatedAt := env.now }
  let c2bBookings ← ofRefusal (db.c2bBookings.create newBooking)
  let db ← enqueued
    { eventType := "C2B_BOOKING_REQUESTED"
      aggregateType := "c2b_booking"
      aggregateId := newBooking.id
      payload := [("bookingId", .str newBooking.id), ("providerId", .str service.providerId),
        ("attendeeId", .str attendeeId), ("serviceName", .str service.name),
        ("requestedDate", newBooking.requestedDate.elim .undefined JsValue.date)] } env
    { db with c2bBookings }
  return (db, mapToDto newBooking db)

def createBooking (attendeeId : String) (dto : CreateC2bBookingDto) (client : Client) :
    MarketCall C2bBookingResponseDto := do
  let (found, now) ← finds "c2bService.findFirst" fun env db ↦
    (offeredService dto.serviceId db, env.now)
  match found with
  | none => throws .notFound "Service not found"
  | some (service, event, provider) =>
    if ¬service.isAvailable then
      throws .badRequest "Service is currently not available for bookings"
    else if service.expiresAt ≤ now then throws .badRequest "Service offering has expired"
    else if event.endsAt ≤ now then throws .badRequest "Associated event has ended"
    else if provider.status ≠ .active then
      throws .badRequest "Service provider is not active"
    else do
      let created ← stores "$transaction" (booking attendeeId dto service)
      log
        { actorUserId := some attendeeId
          action := "C2B_BOOKING_CREATED"
          resourceType := "c2b_booking"
          resourceId := some created.booking.id
          metadata := [("serviceId", .str dto.serviceId), ("providerId", .str service.providerId)] }
        client
      return created

/-- `c2bBooking.update`, which returns the new row. -/
def updateBooking (bookingId : String) (f : C2bBooking → C2bBooking) (env : AuthEnv)
    (db : MarketDb) : Except AuthError (MarketDb × C2bBooking) := do
  let c2bBookings ← ofRefusal (db.c2bBookings.update bookingId fun b ↦
    { f b with updatedAt := env.now })
  match c2bBookings.get? bookingId with
  | some b => return ({ db with c2bBookings }, b)
  | none => .error (.prisma .recordNotFound)

/-- A booking with the name of its service. -/
def bookingWithService (bookingId : String) (db : MarketDb) : Option (C2bBooking × C2bService) := do
  let booking ← db.c2bBookings.get? bookingId
  let service ← db.c2bServices.get? booking.serviceId
  return (booking, service)

/-- What both changes of a booking's status announce. -/
def statusChanged (found : C2bBooking) (service : C2bService) (status : C2bBookingStatus)
    (rest : List (String × JsValue)) : CreateOutboxEventParams where
  eventType := "C2B_BOOKING_STATUS_CHANGED"
  aggregateType := "c2b_booking"
  aggregateId := found.id
  payload := [("bookingId", .str found.id), ("attendeeId", .str found.attendeeId),
    ("status", .str status.text), ("serviceName", .str service.name)] ++ rest

/-- The slot of a booking that was found active is free again. -/
def releaseSlot (found : C2bBooking) (status : C2bBookingStatus) (db : MarketDb) :
    Except AuthError MarketDb :=
  if status.released ∧ ¬found.status.released then
    updateServices (·.id == found.serviceId) releaseOne db
  else .ok db

/-- The transaction of a new status, with the booking as it was found. -/
def statusUpdate (found : C2bBooking) (service : C2bService) (dto : UpdateC2bBookingStatusDto)
    (env : AuthEnv) (db : MarketDb) : Except AuthError (MarketDb × C2bBookingResponseDto) := do
  let db ← releaseSlot found dto.status db
  let (db, res) ← updateBooking found.id (fun b ↦
    { b with
      status := dto.status
      providerNotes := dto.providerNotes.or b.providerNotes
      confirmedAt := if dto.status = .confirmed then some env.now else b.confirmedAt
      cancelledAt := if dto.status = .cancelled then some env.now else b.cancelledAt
      completedAt := if dto.status = .completed then some env.now else b.completedAt }) env db
  let db ← enqueued
    (statusChanged found service dto.status [("providerNotes", textOrUndefined dto.providerNotes)])
    env db
  return (db, mapToDto res db)

def updateBookingStatus (providerId bookingId : String) (dto : UpdateC2bBookingStatusDto)
    (client : Client) : MarketCall C2bBookingResponseDto := do
  let found ← finds "c2bBooking.findFirst" fun _ db ↦ bookingWithService bookingId db
  match found with
  | none => throws .notFound "Booking request not found"
  | some (found, service) =>
    if found.providerId ≠ providerId then
      throws .forbidden "You are not authorized to manage this booking"
    else do
      let updated ← stores "$transaction" (statusUpdate found service dto)
      log
        { actorUserId := some providerId
          action := "C2B_BOOKING_STATUS_UPDATED"
          resourceType := "c2b_booking"
          resourceId := some bookingId
          metadata := [("newStatus", .str dto.status.text),
            ("notes", textOrUndefined dto.providerNotes)] } client
      return updated

/-- The transaction of a cancellation by the attendee. -/
def cancellation (found : C2bBooking) (service : C2bService) (env : AuthEnv) (db : MarketDb) :
    Except AuthError (MarketDb × C2bBookingResponseDto) := do
  let db ← updateServices (·.id == found.serviceId) releaseOne db
  let (db, res) ← updateBooking found.id (fun b ↦
    { b with
      status := .cancelled
      cancelledAt := some env.now }) env db
  let db ← enqueued (statusChanged found service .cancelled []) env db
  return (db, mapToDto res db)

def cancelBooking (attendeeId bookingId : String) (client : Client) :
    MarketCall C2bBookingResponseDto := do
  let found ← finds "c2bBooking.findFirst" fun _ db ↦
    (bookingWithService bookingId db).map fun found ↦ (found, mapToDto found.1 db)
  match found with
  | none => throws .notFound "Booking request not found"
  | some ((found, service), dto) =>
    if found.attendeeId ≠ attendeeId then
      throws .forbidden "You are not authorized to cancel this booking"
    else if found.status = .cancelled then return dto
    else if found.status = .completed then
      throws .badRequest "Cannot cancel a completed booking"
    else do
      let updated ← stores "$transaction" (cancellation found service)
      log
        { actorUserId := some attendeeId
          action := "C2B_BOOKING_CANCELLED"
          resourceType := "c2b_booking"
          resourceId := some bookingId
          metadata := [] } client
      return updated

end C2bBookingsService

end Innovents.Marketplace
