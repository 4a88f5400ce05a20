import Innovents.Events.EventsService

namespace Innovents.Events

open Innovents.Lib Innovents.Auth Innovents.Platform
open Innovents.Payments (Time)

structure CreateSpeakerDto where
  fullName : String
  jobTitle : String
  company : String
  bio : Option String
  photoUrl : Option String
  linkedinUrl : Option String

structure SpeakerResponseDto where
  id : String
  eventId : String
  fullName : String
  jobTitle : String
  company : String
  bio : Option String
  photoUrl : Option String
  linkedinUrl : Option String
  createdAt : Time
  updatedAt : Time

namespace SpeakersService

def mapToResponse (speaker : Speaker) : SpeakerResponseDto where
  id := speaker.id
  eventId := speaker.eventId
  fullName := speaker.fullName
  jobTitle := speaker.jobTitle
  company := speaker.company
  bio := speaker.bio
  photoUrl := speaker.photoUrl
  linkedinUrl := speaker.linkedinUrl
  createdAt := speaker.createdAt
  updatedAt := speaker.updatedAt

/-- `speaker.create` -/
def speakerCreate (text : EventText) (eventId : String) (dto : CreateSpeakerDto) (env : AuthEnv)
    (db : EventsDb) : Except AuthError (EventsDb × Speaker) := do
  let speaker : Speaker :=
    { id := env.idFor db.speakers
      eventId
      fullName := text.trim dto.fullName
      jobTitle := text.trim dto.jobTitle
      company := text.trim dto.company
      bio := orNull (dto.bio.map text.trim)
      photoUrl := orNull (dto.photoUrl.map text.trim)
      linkedinUrl := orNull (dto.linkedinUrl.map text.trim)
      createdAt := env.now
      updatedAt := env.now }
  let speakers ← ofRefusal (db.speakers.create speaker)
  return ({ db with speakers }, speaker)

def create (text : EventText) (eventId userId : String) (userRoles : List String)
    (dto : CreateSpeakerDto) (client : Client) : EventsCall SpeakerResponseDto := do
  let _ ← EventAuthorizationService.assertCanManageEvent userId userRoles eventId
  let speaker ← Call.writes "speaker.create" (speakerCreate text eventId dto)
  log
    { actorUserId := some userId
      action := "SPEAKER_CREATED"
      resourceType := "event:speaker"
      resourceId := some speaker.id
      metadata := [("eventId", .str eventId), ("fullName", .str speaker.fullName)] } client
  return mapToResponse speaker

/-- `speaker.delete`, with the assignments of the speaker. -/
def speakerDelete (speakerId : String) (_ : AuthEnv) (db : EventsDb) :
    Except AuthError (EventsDb × Unit) := do
  let speakers ← ofRefusal (db.speakers.delete speakerId)
  return ({ db with
    speakers
    sessionSpeakers := db.sessionSpeakers.deleteMany (·.speakerId == speakerId) }, ())

/-- How many sessions that are not deleted the speaker is assigned to. -/
def assignedSessions (speakerId : String) (db : EventsDb) : ℕ :=
  db.sessionSpeakers.rows.countP fun a ↦ a.speakerId == speakerId &&
    (db.sessions.get? a.sessionId).any (·.deletedAt.isNone)

def delete (eventId speakerId userId : String) (userRoles : List String) (client : Client) :
    EventsCall Unit := do
  let _ ← EventAuthorizationService.assertCanManageEvent userId userRoles eventId
  let found ← Call.reads "speaker.findFirst" fun _ db ↦
    (db.speakers.get? speakerId).filter (·.eventId = eventId)
  let speaker ← Call.returned (present found
    (refusal .notFound "Speaker not found in this event"))
  let assignedSessionsCount ← Call.reads "sessionSpeaker.count" fun _ ↦ assignedSessions speakerId
  Call.returned (demand (assignedSessionsCount = 0) (refusal .conflict s!"Cannot delete speaker: speaker is assigned to {assignedSessionsCount} session(s). Unassign speaker first."))
  Call.writes "speaker.delete" (speakerDelete speakerId)
  log
    { actorUserId := some userId
      action := "SPEAKER_DELETED"
      resourceType := "event:speaker"
      resourceId := some speakerId
      metadata := [("eventId", .str eventId), ("fullName", .str speaker.fullName)] } client

variable {eventId speakerId : String} {env : AuthEnv} {db db' : EventsDb}

theorem speakerCreate_eq {text : EventText} {dto : CreateSpeakerDto} {speaker : Speaker}
    (h : speakerCreate text eventId dto env db = .ok (db', speaker)) :
    db.speakers.create speaker = .ok db'.speakers ∧ db' = { db with speakers := db'.speakers } := by
  obtain ⟨speakers, hspeakers, h⟩ := andThen_eq_ok.mp h
  cases h
  exact ⟨ofRefusal_eq_ok.mp hspeakers, rfl⟩

theorem speakerDelete_eq {u : Unit} (h : speakerDelete speakerId env db = .ok (db', u)) :
    db.speakers.delete speakerId = .ok db'.speakers ∧
      db' = { db with
        speakers := db'.speakers
        sessionSpeakers := db.sessionSpeakers.deleteMany (·.speakerId == speakerId) } := by
  obtain ⟨speakers, hspeakers, h⟩ := andThen_eq_ok.mp h
  cases h
  exact ⟨ofRefusal_eq_ok.mp hspeakers, rfl⟩

end SpeakersService

end Innovents.Events
