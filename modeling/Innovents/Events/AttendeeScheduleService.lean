import Innovents.Events.EventRegistrationService
import Innovents.Events.SessionsService

namespace Innovents.Events

open Innovents.Lib Innovents.Auth Innovents.Platform
open Innovents.Payments (Time)

structure UserSessionSchedule where
  id : String
  userId : String
  sessionId : String
  createdAt : Time

structure UserSessionNote where
  id : String
  userId : String
  sessionId : String
  note : String

structure SessionReminderJobData where
  userId : String
  sessionId : String
  eventId : String
  sessionTitle : String
  startsAt : String
  venueName : Option String

/-- A job of the queue of reminders, which is kept for a while after it was carried out. -/
structure ReminderJob where
  jobId : String
  data : SessionReminderJobData
  dueAt : Time
  completed : Bool

instance : Row UserSessionSchedule :=
  ⟨UserSessionSchedule.id, [fun s ↦ some (s.userId ++ ":" ++ s.sessionId)]⟩
instance : Row UserSessionNote :=
  ⟨UserSessionNote.id, [fun n ↦ some (n.userId ++ ":" ++ n.sessionId)]⟩
instance : Row ReminderJob := ⟨ReminderJob.jobId, []⟩

/-- The tables of the events, the schedules of the attendees and the queue of reminders, which
may not have been initialised. -/
structure ScheduleDb where
  agenda : EventsDb
  userSessionSchedules : Table UserSessionSchedule
  userSessionNotes : Table UserSessionNote
  reminders : Option (Table ReminderJob)

instance : Accounts ScheduleDb :=
  ⟨fun db ↦ db.agenda.accounts, fun accounts db ↦ { db with agenda := { db.agenda with accounts } }⟩

abbrev ScheduleCall (α : Type) := Service ScheduleDb α

structure ScheduleItemResponseDto where
  id : String
  userId : String
  sessionId : String
  session : SessionResponseDto
  note : Option String
  createdAt : Time

namespace QueueService

/-- A job with the id of another one is ignored, and so is every job if there is no queue. -/
def addJob (job : ReminderJob) (db : ScheduleDb) : ScheduleDb :=
  match db.reminders with
  | none => db
  | some reminders =>
    match reminders.create job with
    | .ok reminders => { db with reminders := some reminders }
    | .error _ => db

end QueueService

namespace AttendeeScheduleService

/-- The session as it is included with its event. -/
def sessionFound (eventId sessionId : String) (db : ScheduleDb) :
    Option (SessionResponseDto × Event) := do
  let session ← SessionsService.sessionOf eventId sessionId db.agenda
  let event ← db.agenda.events.get? session.eventId
  return (SessionsService.mapToResponse session db.agenda, event)

def assertSchedulable (session : SessionResponseDto) (event : Event) : Except AuthError Unit := do
  demand (session.status ≠ .cancelled)
    (refusal .conflict "Cannot add a cancelled session to personal schedule")
  demand (event.deletedAt = none ∧ event.status ≠ .cancelled ∧ event.status ≠ .draft)
    (refusal .conflict
      "Cannot add session from an unpublished or cancelled event to personal schedule")

/-- The entry of the user for the session. -/
def scheduled (userId sessionId : String) (db : ScheduleDb) : Option UserSessionSchedule :=
  db.userSessionSchedules.find? fun s ↦ s.userId == userId && s.sessionId == sessionId

/-- `userSessionSchedule.upsert` -/
def scheduleUpsert (userId sessionId : String) (env : AuthEnv) (db : ScheduleDb) :
    Except AuthError (ScheduleDb × UserSessionSchedule) :=
  match scheduled userId sessionId db with
  | some item => .ok (db, item)
  | none => do
    let item : UserSessionSchedule :=
      { id := env.idFor db.userSessionSchedules
        userId
        sessionId
        createdAt := env.now }
    let userSessionSchedules ← ofRefusal (db.userSessionSchedules.create item)
    return ({ db with userSessionSchedules }, item)

def reminderTargetTime (session : SessionResponseDto) : Time := session.startsAt - 15 * 60 * 1000

def reminderJobId (userId sessionId : String) : String := s!"session-reminder:{userId}:{sessionId}"

/-- The job of the reminder, if there is still time for it. -/
def reminderAdd (text : EventText) (userId : String) (session : SessionResponseDto) (env : AuthEnv)
    (db : ScheduleDb) : Except AuthError (ScheduleDb × Bool) :=
  if env.now < reminderTargetTime session then
    let delayMs := reminderTargetTime session - env.now
    .ok (QueueService.addJob
      { jobId := reminderJobId userId session.id
        data :=
          { userId
            sessionId := session.id
            eventId := session.eventId
            sessionTitle := session.title
            startsAt := text.toISOString session.startsAt
            venueName := orNull (session.venue.map (·.name)) }
        dueAt := env.now + delayMs
        completed := false } db, true)
  else .ok (db, false)

/-- The body of the `try` block. -/
def remind (text : EventText) (userId : String) (session : SessionResponseDto)
    (scheduleItemId : String) : ScheduleCall Unit := do
  let added ← Call.writes "queue.add" (reminderAdd text userId session)
  if added then
    Call.writes "outboxEvent.create" fun env db ↦ do
      let db ← enqueued
        { eventType := "SESSION_REMINDER_SCHEDULED"
          aggregateType := "event:schedule"
          aggregateId := scheduleItemId
          payload := [("userId", .str userId), ("sessionId", .str session.id),
            ("jobId", .str (reminderJobId userId session.id)),
            ("reminderTargetTime", .str (text.toISOString (reminderTargetTime session)))] } env db
      return (db, ())
  else return

def addSession (text : EventText) (userId eventId sessionId : String) :
    ScheduleCall ScheduleItemResponseDto := do
  let found ← Call.reads "session.findFirst" fun _ ↦ sessionFound eventId sessionId
  let (session, event) ← Call.returned (present found
    (refusal .notFound "Session not found in this event"))
  Call.returned (assertSchedulable session event)
  let scheduleItem ← Call.writes "userSessionSchedule.upsert" (scheduleUpsert userId sessionId)
  let _ ← (remind text userId session scheduleItem.id).attempt
  let note ← Call.reads "userSessionNote.findUnique" fun _ (db : ScheduleDb) ↦
    db.userSessionNotes.find? fun n ↦ n.userId == userId && n.sessionId == sessionId
  return {
    id := scheduleItem.id
    userId := scheduleItem.userId
    sessionId := scheduleItem.sessionId
    session
    note := orNull (note.map (·.note))
    createdAt := scheduleItem.createdAt }

def scheduleDelete (id : String) (_ : AuthEnv) (db : ScheduleDb) :
    Except AuthError (ScheduleDb × Unit) := do
  let userSessionSchedules ← ofRefusal (db.userSessionSchedules.delete id)
  return ({ db with userSessionSchedules }, ())

def removeSession (userId eventId sessionId : String) : ScheduleCall MessageDto := do
  let found ← Call.reads "session.findFirst" fun _ (db : ScheduleDb) ↦
    SessionsService.sessionOf eventId sessionId db.agenda
  let _ ← Call.returned (present found (refusal .notFound "Session not found in this event"))
  let found ← Call.reads "userSessionSchedule.findUnique" fun _ ↦ scheduled userId sessionId
  let existing ← Call.returned (present found
    (refusal .notFound "Session is not in your personal schedule"))
  Call.writes "userSessionSchedule.delete" (scheduleDelete existing.id)
  return ⟨true, "Session removed from schedule successfully"⟩

end AttendeeScheduleService

end Innovents.Events
