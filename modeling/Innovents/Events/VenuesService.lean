import Innovents.Events.EventsService

namespace Innovents.Events

open Innovents.Lib Innovents.Auth Innovents.Platform
open Innovents.Payments (Time)

structure CreateVenueDto where
  name : String
  description : Option String
  capacity : Option (Option ℤ)
  floor : Option String
  location : Option String

structure VenueResponseDto where
  id : String
  eventId : String
  name : String
  description : Option String
  capacity : Option ℤ
  floor : Option String
  location : Option String
  createdAt : Time
  updatedAt : Time

namespace VenuesService

def mapToResponse (venue : Venue) : VenueResponseDto where
  id := venue.id
  eventId := venue.eventId
  name := venue.name
  description := venue.description
  capacity := venue.capacity
  floor := venue.floor
  location := venue.location
  createdAt := venue.createdAt
  updatedAt := venue.updatedAt

/-- `venue.create` -/
def venueCreate (text : EventText) (eventId : String) (dto : CreateVenueDto) (env : AuthEnv)
    (db : EventsDb) : Except AuthError (EventsDb × Venue) := do
  let venue : Venue :=
    { id := env.idFor db.venues
      eventId
      name := text.trim dto.name
      description := orNull (dto.description.map text.trim)
      capacity := dto.capacity.join.filter (· ≠ 0)
      floor := orNull (dto.floor.map text.trim)
      location := orNull (dto.location.map text.trim)
      createdAt := env.now
      updatedAt := env.now }
  let venues ← ofRefusal (db.venues.create venue)
  return ({ db with venues }, venue)

/-- For the comparison `null` counts as zero. -/
def create (text : EventText) (eventId userId : String) (userRoles : List String)
    (dto : CreateVenueDto) (client : Client) : EventsCall VenueResponseDto := do
  let _ ← EventAuthorizationService.assertCanManageEvent userId userRoles eventId
  Call.returned (demand (∀ capacity ∈ dto.capacity, 1 ≤ capacity.getD 0)
    (refusal .badRequest "Capacity must be at least 1"))
  let venue ← Call.writes "venue.create" (venueCreate text eventId dto)
  log
    { actorUserId := some userId
      action := "VENUE_CREATED"
      resourceType := "event:venue"
      resourceId := some venue.id
      metadata := [("eventId", .str eventId), ("name", .str venue.name)] } client
  return mapToResponse venue

/-- `venue.delete`: the sessions that were in the venue are left without one. -/
def venueDelete (venueId : String) (_ : AuthEnv) (db : EventsDb) :
    Except AuthError (EventsDb × Unit) := do
  let venues ← ofRefusal (db.venues.delete venueId)
  let sessions ← ofRefusal (db.sessions.updateMany (·.venueId == some venueId) fun s ↦
    { s with venueId := none })
  return ({ db with
    venues
    sessions }, ())

def activeSessions (venueId : String) (db : EventsDb) : ℕ :=
  db.sessions.rows.countP fun s ↦ s.venueId == some venueId && s.deletedAt.isNone

def delete (eventId venueId userId : String) (userRoles : List String) (client : Client) :
    EventsCall Unit := do
  let _ ← EventAuthorizationService.assertCanManageEvent userId userRoles eventId
  let found ← Call.reads "venue.findFirst" fun _ db ↦
    (db.venues.get? venueId).filter (·.eventId = eventId)
  let venue ← Call.returned (present found (refusal .notFound "Venue not found in this event"))
  let activeSessionsCount ← Call.reads "session.count" fun _ ↦ activeSessions venueId
  Call.returned (demand (activeSessionsCount = 0) (refusal .conflict s!"Cannot delete venue: {activeSessionsCount} session(s) are currently scheduled in this venue. Reassign or delete the sessions first."))
  Call.writes "venue.delete" (venueDelete venueId)
  log
    { actorUserId := some userId
      action := "VENUE_DELETED"
      resourceType := "event:venue"
      resourceId := some venueId
      metadata := [("eventId", .str eventId), ("name", .str venue.name)] } client

variable {eventId venueId : String} {env : AuthEnv} {db db' : EventsDb}

theorem venueCreate_eq {text : EventText} {dto : CreateVenueDto} {venue : Venue}
    (h : venueCreate text eventId dto env db = .ok (db', venue)) :
    db.venues.create venue = .ok db'.venues ∧ db' = { db with venues := db'.venues } := by
  obtain ⟨venues, hvenues, h⟩ := andThen_eq_ok.mp h
  cases h
  exact ⟨ofRefusal_eq_ok.mp hvenues, rfl⟩

theorem venueDelete_eq {u : Unit} (h : venueDelete venueId env db = .ok (db', u)) :
    db.venues.delete venueId = .ok db'.venues ∧
      (db.sessions.updateMany (·.venueId == some venueId) fun s ↦ { s with venueId := none }) =
        .ok db'.sessions ∧
      db' = { db with
        venues := db'.venues
        sessions := db'.sessions } := by
  obtain ⟨venues, hvenues, h⟩ := andThen_eq_ok.mp h
  obtain ⟨sessions, hsessions, h⟩ := andThen_eq_ok.mp h
  cases h
  exact ⟨ofRefusal_eq_ok.mp hvenues, ofRefusal_eq_ok.mp hsessions, rfl⟩

end VenuesService

end Innovents.Events
