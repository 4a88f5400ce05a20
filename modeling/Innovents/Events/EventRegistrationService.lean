import Innovents.Events.EventsService

namespace Innovents.Events

open Innovents.Lib Innovents.Auth Innovents.Platform
open Innovents.Payments (Time)

structure RegistrationResponseDto where
  id : String
  eventId : String
  userId : String
  userEmail : String
  status : RegistrationStatus
  registeredAt : Time
  cancelledAt : Option Time

/-- What a request answers that has nothing else to tell. -/
structure MessageDto where
  success : Bool
  message : String

def registrationOf (eventId userId : String) (db : EventsDb) : Option EventRegistration :=
  db.eventRegistrations.find? fun r ↦ r.eventId == eventId && r.userId == userId

namespace EventRegistrationService

/-- Whether the event, as it is locked, takes registrations. -/
def assertRegistrable (event : Event) (now : Time) : Except AuthError Unit := do
  demand (event.status ≠ .cancelled)
    (refusal .conflict "Cannot register for a cancelled event")
  demand (event.status ≠ .completed)
    (refusal .conflict "Cannot register for a completed event")
  demand (event.status ≠ .draft)
    (refusal .conflict "Cannot register for an unpublished draft event")
  demand (¬event.endsAt < now) (refusal .conflict "Event has already ended")

/-- A cancelled registration is taken up again, otherwise there is a new one. -/
def registrationStored (eventId userId : String) (existing : Option EventRegistration)
    (env : AuthEnv) (db : EventsDb) :
    Except AuthError (Table EventRegistration × EventRegistration) :=
  match existing.filter (·.status = .cancelled) with
  | some cancelled => do
    let eventRegistrations ← ofRefusal (db.eventRegistrations.update cancelled.id fun r ↦
      { r with
        status := .registered
        cancelledAt := none
        registeredAt := env.now })
    let registration ← present (eventRegistrations.get? cancelled.id) (.prisma .recordNotFound)
    return (eventRegistrations, registration)
  | none => do
    let registration : EventRegistration :=
      { id := env.idFor db.eventRegistrations
        eventId
        userId
        status := .registered
        registeredAt := env.now
        cancelledAt := none }
    let eventRegistrations ← ofRefusal (db.eventRegistrations.create registration)
    return (eventRegistrations, registration)

/-- The transaction of a registration, which holds the lock of the event. -/
def registration (eventId userId userEmail : String) (env : AuthEnv) (db : EventsDb) :
    Except AuthError (EventsDb × EventRegistration) := do
  let event ← present ((db.events.get? eventId).filter (·.deletedAt.isNone))
    (refusal .notFound "Event not found")
  assertRegistrable event env.now
  let existing := registrationOf eventId userId db
  demand (∀ r ∈ existing, r.status ≠ .registered)
    (refusal .conflict "You are already registered for this event")
  demand (registeredCount eventId db < event.capacity)
    (refusal .conflict "Event capacity has been reached")
  let (eventRegistrations, registration) ← registrationStored eventId userId existing env db
  let db ← enqueued
    { eventType := "EVENT_REGISTRATION_CREATED"
      aggregateType := "event:registration"
      aggregateId := registration.id
      payload := [("registrationId", .str registration.id), ("eventId", .str eventId),
        ("userId", .str userId), ("userEmail", .str userEmail)] } env
    { db with eventRegistrations }
  return (db, registration)

def register (eventId userId : String) (client : Client) : EventsCall RegistrationResponseDto := do
  let found ← Call.reads "user.findFirst" fun _ db ↦
    (db.accounts.users.get? userId).filter (·.deletedAt.isNone)
  let user ← Call.returned (present (found.filter (·.status = .active))
    (refusal .badRequest "Only active users may register for events"))
  let registration ← Call.writes "$transaction" (registration eventId userId user.email)
  log
    { actorUserId := some userId
      action := "EVENT_REGISTRATION_CREATED"
      resourceType := "event:registration"
      resourceId := some registration.id
      metadata := [("eventId", .str eventId)] } client
  return {
    id := registration.id
    eventId := registration.eventId
    userId := registration.userId
    userEmail := user.email
    status := registration.status
    registeredAt := registration.registeredAt
    cancelledAt := registration.cancelledAt }

/-- The transaction of a cancellation, with the registration as it was found. -/
def cancellation (eventId userId registrationId : String) (env : AuthEnv) (db : EventsDb) :
    Except AuthError (EventsDb × Unit) := do
  let eventRegistrations ← ofRefusal (db.eventRegistrations.update registrationId fun r ↦
    { r with
      status := .cancelled
      cancelledAt := some env.now })
  let db ← enqueued
    { eventType := "EVENT_REGISTRATION_CANCELLED"
      aggregateType := "event:registration"
      aggregateId := registrationId
      payload := [("registrationId", .str registrationId), ("eventId", .str eventId),
        ("userId", .str userId)] } env { db with eventRegistrations }
  return (db, ())

def cancel (eventId userId : String) (client : Client) : EventsCall MessageDto := do
  let found ← Call.reads "eventRegistration.findUnique" fun _ ↦ registrationOf eventId userId
  let existing ← Call.returned (present (found.filter (·.status = .registered))
    (refusal .notFound "Active registration not found"))
  Call.writes "$transaction" (cancellation eventId userId existing.id)
  log
    { actorUserId := some userId
      action := "EVENT_REGISTRATION_CANCELLED"
      resourceType := "event:registration"
      resourceId := some existing.id
      metadata := [("eventId", .str eventId)] } client
  return ⟨true, "Registration cancelled successfully"⟩

end EventRegistrationService

end Innovents.Events
