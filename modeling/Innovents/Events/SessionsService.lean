import Innovents.Events.EventsService

namespace Innovents.Events

open Innovents.Lib Innovents.Auth Innovents.Platform
open Innovents.Payments (Time)

structure CreateSessionDto where
  title : String
  description : Option String
  startsAt : Time
  endsAt : Time
  venueId : Option String
  speakerIds : Option (List String)
  displayOrder : Option ℤ
  status : Option SessionStatus

/-- Each field may be missing, and may be `null`. -/
structure UpdateSessionDto where
  title : Option (Option String)
  description : Option (Option String)
  startsAt : Option (Option Time)
  endsAt : Option (Option Time)
  venueId : Option (Option String)
  speakerIds : Option (Option (List String))
  displayOrder : Option (Option ℤ)
  status : Option (Option SessionStatus)

def UpdateSessionDto.empty : UpdateSessionDto :=
  ⟨none, none, none, none, none, none, none, none⟩

/-- `Object.keys(dto)` -/
def UpdateSessionDto.keys (dto : UpdateSessionDto) : List String :=
  ([("title", dto.title.isSome), ("description", dto.description.isSome),
    ("startsAt", dto.startsAt.isSome), ("endsAt", dto.endsAt.isSome),
    ("venueId", dto.venueId.isSome), ("speakerIds", dto.speakerIds.isSome),
    ("displayOrder", dto.displayOrder.isSome), ("status", dto.status.isSome)].filter
      fun field ↦ field.2).map Prod.fst

/-- The ids of the sessions of an event in their new order. -/
structure ReorderSessionsDto where
  sessionIds : List String

structure SessionResponseDto where
  id : String
  eventId : String
  venueId : Option String
  title : String
  description : Option String
  startsAt : Time
  endsAt : Time
  displayOrder : ℤ
  status : SessionStatus
  venue : Option Venue
  speakers : List Speaker
  createdAt : Time
  updatedAt : Time

namespace SessionsService

/-- Whether a session takes up its venue. -/
def live (s : Session) : Bool := s.deletedAt.isNone && s.status != .cancelled

/-- Another session that takes up the venue at some time between the two. -/
def overlapping (eventId venueId : String) (startsAt endsAt : Time) (db : EventsDb) :
    Option Session :=
  db.sessions.find? fun s ↦ s.eventId == eventId && s.venueId == some venueId && live s &&
    s.startsAt < endsAt && startsAt < s.endsAt

/-- The same without one session. -/
def overlappingBut (sessionId eventId venueId : String) (startsAt endsAt : Time) (db : EventsDb) :
    Option Session :=
  db.sessions.find? fun s ↦ s.id != sessionId && s.eventId == eventId &&
    s.venueId == some venueId && live s && s.startsAt < endsAt && startsAt < s.endsAt

def overlapMessage : String :=
  "Another session is already scheduled in this venue during the requested time window"

def validateVenue (venueId : Option String) (eventId : String) : EventsCall Unit :=
  match orNull venueId with
  | none => return
  | some venueId => do
    let venue ← Call.reads "venue.findFirst" fun _ db ↦
      (db.venues.get? venueId).filter (·.eventId = eventId)
    Call.returned (demand venue.isSome
      (refusal .badRequest "Assigned venue does not belong to this event"))

def validateSpeakers (speakerIds : Option (List String)) (eventId : String) : EventsCall Unit :=
  match speakerIds with
  | none => return
  | some speakerIds => do
    let validSpeakers ← Call.reads "speaker.findMany" fun _ db ↦
      db.speakers.rows.filter fun s ↦ speakerIds.contains s.id && s.eventId == eventId
    Call.returned (demand (validSpeakers.length = speakerIds.length)
      (refusal .badRequest "One or more assigned speakers do not belong to this event"))

/-- The rows that assign the speakers to a session in their order. -/
def assignSpeakers (sessionId : String) (speakerIds : List String) (env : AuthEnv)
    (t : Table SessionSpeaker) : Except AuthError (Table SessionSpeaker) :=
  speakerIds.zipIdx.foldlM (fun t (speakerId, idx) ↦ ofRefusal (t.create
    { id := env.idFor t
      sessionId
      speakerId
      displayOrder := idx })) t

/-- The assignments of the speakers after an update, which replaces them if it gives new ones. -/
def speakersReplaced (sessionId : String) (dto : UpdateSessionDto) (env : AuthEnv)
    (db : EventsDb) : Except AuthError (Table SessionSpeaker) :=
  match dto.speakerIds.join with
  | none => .ok db.sessionSpeakers
  | some speakerIds => assignSpeakers sessionId speakerIds env
      (db.sessionSpeakers.deleteMany (·.sessionId == sessionId))

def mapToResponse (session : Session) (db : EventsDb) : SessionResponseDto where
  id := session.id
  eventId := session.eventId
  venueId := session.venueId
  title := session.title
  description := session.description
  startsAt := session.startsAt
  endsAt := session.endsAt
  displayOrder := session.displayOrder
  status := session.status
  createdAt := session.createdAt
  updatedAt := session.updatedAt
  venue := session.venueId.bind db.venues.get?
  speakers := ((db.sessionSpeakers.rows.filter (·.sessionId == session.id)).mergeSort
    (·.displayOrder ≤ ·.displayOrder)).filterMap fun s ↦ db.speakers.get? s.speakerId

/-- The transaction that adds a session, which holds the lock of the venue. -/
def sessionCreate (text : EventText) (eventId : String) (dto : CreateSessionDto) (env : AuthEnv)
    (db : EventsDb) : Except AuthError (EventsDb × SessionResponseDto) := do
  demand (∀ venueId ∈ orNull dto.venueId,
    (overlapping eventId venueId dto.startsAt dto.endsAt db).isNone)
    (refusal .conflict overlapMessage)
  let created : Session :=
    { id := env.idFor db.sessions
      eventId
      venueId := orNull dto.venueId
      title := text.trim dto.title
      description := orNull (dto.description.map text.trim)
      startsAt := dto.startsAt
      endsAt := dto.endsAt
      displayOrder := dto.displayOrder.getD 0
      status := dto.status.getD .scheduled
      deletedAt := none
      createdAt := env.now
      updatedAt := env.now }
  let sessions ← ofRefusal (db.sessions.create created)
  let sessionSpeakers ← assignSpeakers created.id (dto.speakerIds.getD []) env db.sessionSpeakers
  let db ← enqueued
    { eventType := "SESSION_CREATED"
      aggregateType := "event:session"
      aggregateId := created.id
      payload := [("sessionId", .str created.id), ("eventId", .str eventId),
        ("title", .str created.title), ("startsAt", .str (text.toISOString created.startsAt))] } env
    { db with
      sessions
      sessionSpeakers }
  return (db, mapToResponse created db)

def create (text : EventText) (eventId userId : String) (userRoles : List String)
    (dto : CreateSessionDto) (client : Client) : EventsCall SessionResponseDto := do
  let event ← EventAuthorizationService.assertCanManageEvent userId userRoles eventId
  Call.returned (demand (dto.startsAt < dto.endsAt)
    (refusal .badRequest "Session endsAt must be after startsAt"))
  Call.returned (demand (event.startsAt ≤ dto.startsAt ∧ dto.endsAt ≤ event.endsAt) (refusal .badRequest s!"Session time window [{text.toISOString dto.startsAt} - {text.toISOString dto.endsAt}] must fall within the event time window [{text.toISOString event.startsAt} - {text.toISOString event.endsAt}]"))
  validateVenue dto.venueId eventId
  validateSpeakers (dto.speakerIds.filter (· ≠ [])) eventId
  let created ← Call.writes "$transaction" (sessionCreate text eventId dto)
  log
    { actorUserId := some userId
      action := "SESSION_CREATED"
      resourceType := "event:session"
      resourceId := some created.id
      metadata := [("eventId", .str eventId), ("title", .str created.title)] } client
  return created

/-- The session of the event, if it is not deleted. -/
def sessionOf (eventId sessionId : String) (db : EventsDb) : Option Session :=
  (db.sessions.get? sessionId).filter fun s ↦ s.eventId = eventId ∧ s.deletedAt.isNone

/-- The session as an update writes it, with the venue that the update has found. -/
def merged (text : EventText) (dto : UpdateSessionDto) (targetVenueId : Option String)
    (s : Session) : Session :=
  { s with
    venueId := orNull targetVenueId
    title := (dto.title.join.map text.trim).getD s.title
    description := (dto.description.map fun d ↦ orNull (d.map text.trim)).getD s.description
    startsAt := dto.startsAt.join.getD s.startsAt
    endsAt := dto.endsAt.join.getD s.endsAt
    displayOrder := dto.displayOrder.join.getD s.displayOrder
    status := dto.status.join.getD s.status }

/-- The transaction of an update, with the venue and the times that the update has found. -/
def sessionUpdate (text : EventText) (eventId sessionId userId : String) (dto : UpdateSessionDto)
    (targetVenueId : Option String) (startsAt endsAt : Time) (env : AuthEnv) (db : EventsDb) :
    Except AuthError (EventsDb × SessionResponseDto) := do
  demand (∀ venueId ∈ orNull targetVenueId,
    (overlappingBut sessionId eventId venueId startsAt endsAt db).isNone)
    (refusal .conflict overlapMessage)
  let sessionSpeakers ← speakersReplaced sessionId dto env db
  let _ ← given "displayOrder" dto.displayOrder
  let _ ← given "status" dto.status
  let sessions ← ofRefusal (db.sessions.update sessionId fun s ↦
    { merged text dto targetVenueId s with updatedAt := env.now })
  let updated ← present (sessions.get? sessionId) (.prisma .recordNotFound)
  let db ← enqueued
    { eventType := "SESSION_UPDATED"
      aggregateType := "event:session"
      aggregateId := sessionId
      payload := [("sessionId", .str sessionId), ("eventId", .str eventId),
        ("updatedBy", .str userId)] } env
    { db with
      sessions
      sessionSpeakers }
  return (db, mapToResponse updated db)

def update (text : EventText) (eventId sessionId userId : String) (userRoles : List String)
    (dto : UpdateSessionDto) (client : Client) : EventsCall SessionResponseDto := do
  let event ← EventAuthorizationService.assertCanManageEvent userId userRoles eventId
  let found ← Call.reads "session.findFirst" fun _ ↦ sessionOf eventId sessionId
  let existing ← Call.returned (present found
    (refusal .notFound "Session not found in this event"))
  let startsAt := dto.startsAt.join.getD existing.startsAt
  let endsAt := dto.endsAt.join.getD existing.endsAt
  Call.returned (demand (startsAt < endsAt)
    (refusal .badRequest "Session endsAt must be after startsAt"))
  Call.returned (demand (event.startsAt ≤ startsAt ∧ endsAt ≤ event.endsAt)
    (refusal .badRequest "Session times must fall within the event time window"))
  let targetVenueId := dto.venueId.getD existing.venueId
  validateVenue targetVenueId eventId
  validateSpeakers dto.speakerIds.join eventId
  let updated ← Call.writes "$transaction"
    (sessionUpdate text eventId sessionId userId dto targetVenueId startsAt endsAt)
  log
    { actorUserId := some userId
      action := "SESSION_UPDATED"
      resourceType := "event:session"
      resourceId := some sessionId
      metadata := [("eventId", .str eventId),
        ("modifiedFields", .arr (dto.keys.map JsValue.str))] } client
  return updated

/-- The transaction that numbers the sessions. -/
def sessionsReorder (eventId : String) (dto : ReorderSessionsDto) (env : AuthEnv) (db : EventsDb) :
    Except AuthError (EventsDb × Unit) := do
  let sessions ← dto.sessionIds.zipIdx.foldlM (fun (t : Table Session) (sessionId, i) ↦
    ofRefusal (t.update sessionId fun s ↦ { s with displayOrder := i, updatedAt := env.now }))
    db.sessions
  let db ← enqueued
    { eventType := "SESSION_ORDER_UPDATED"
      aggregateType := "event"
      aggregateId := eventId
      payload := [("eventId", .str eventId), ("sessionIds", .arr (dto.sessionIds.map JsValue.str))] }
    env { db with sessions }
  return (db, ())

def reorder (eventId userId : String) (userRoles : List String) (dto : ReorderSessionsDto)
    (client : Client) : EventsCall Unit := do
  let _ ← EventAuthorizationService.assertCanManageEvent userId userRoles eventId
  let sessions ← Call.reads "session.findMany" fun _ db ↦ db.sessions.rows.filter fun s ↦
    dto.sessionIds.contains s.id && s.eventId == eventId && s.deletedAt.isNone
  Call.returned (demand (sessions.length = dto.sessionIds.length) (refusal .badRequest
    "One or more session IDs are invalid, duplicated, or belong to another event"))
  Call.writes "$transaction" (sessionsReorder eventId dto)
  log
    { actorUserId := some userId
      action := "SESSION_ORDER_UPDATED"
      resourceType := "event"
      resourceId := some eventId
      metadata := [("sessionCount", .num dto.sessionIds.length)] } client

/-- The transaction that deletes a session. -/
def sessionDelete (eventId sessionId userId : String) (env : AuthEnv) (db : EventsDb) :
    Except AuthError (EventsDb × Unit) := do
  let sessions ← ofRefusal (db.sessions.update sessionId fun s ↦
    { s with
      deletedAt := some env.now
      status := .cancelled
      updatedAt := env.now })
  let db ← enqueued
    { eventType := "SESSION_DELETED"
      aggregateType := "event:session"
      aggregateId := sessionId
      payload := [("sessionId", .str sessionId), ("eventId", .str eventId),
        ("deletedBy", .str userId)] } env { db with sessions }
  return (db, ())

def delete (eventId sessionId userId : String) (userRoles : List String) (client : Client) :
    EventsCall Unit := do
  let _ ← EventAuthorizationService.assertCanManageEvent userId userRoles eventId
  let found ← Call.reads "session.findFirst" fun _ ↦ sessionOf eventId sessionId
  let session ← Call.returned (present found
    (refusal .notFound "Session not found in this event"))
  Call.writes "$transaction" (sessionDelete eventId sessionId userId)
  log
    { actorUserId := some userId
      action := "SESSION_DELETED"
      resourceType := "event:session"
      resourceId := some sessionId
      metadata := [("eventId", .str eventId), ("title", .str session.title)] } client

section Transactions

variable {text : EventText} {eventId sessionId userId : String} {env : AuthEnv} {db db' : EventsDb}

/-- What the transaction of a new session writes. -/
theorem sessionCreate_eq {dto : CreateSessionDto} {r : SessionResponseDto}
    (h : sessionCreate text eventId dto env db = .ok (db', r)) :
    (∀ venueId ∈ orNull dto.venueId,
      overlapping eventId venueId dto.startsAt dto.endsAt db = none) ∧
      ∃ s, s.eventId = eventId ∧ s.venueId = orNull dto.venueId ∧ s.startsAt = dto.startsAt ∧
        s.endsAt = dto.endsAt ∧ db.sessions.create s = .ok db'.sessions ∧
        assignSpeakers s.id (dto.speakerIds.getD []) env db.sessionSpeakers =
          .ok db'.sessionSpeakers ∧
        Beside { db with
          sessions := db'.sessions
          sessionSpeakers := db'.sessionSpeakers } db' := by
  obtain ⟨_, hfree, h⟩ := andThen_eq_ok.mp h
  obtain ⟨sessions, hsessions, h⟩ := andThen_eq_ok.mp h
  obtain ⟨speakers, hspeakers, h⟩ := andThen_eq_ok.mp h
  obtain ⟨db'', hdb, h⟩ := andThen_eq_ok.mp h
  cases h
  obtain ⟨accounts, rfl⟩ := enqueued_eq_ok hdb
  exact ⟨fun venueId hv ↦ Option.isNone_iff_eq_none.mp (demand_eq_ok.mp hfree venueId hv), _,
    by rfl, by rfl, by rfl, by rfl, ofRefusal_eq_ok.mp hsessions, hspeakers, accounts, rfl⟩

/-- What the transaction of an update writes. -/
theorem sessionUpdate_eq {dto : UpdateSessionDto} {targetVenueId : Option String}
    {startsAt endsAt : Time} {r : SessionResponseDto}
    (h : sessionUpdate text eventId sessionId userId dto targetVenueId startsAt endsAt env db =
      .ok (db', r)) :
    (db.sessions.update sessionId fun s ↦
      { merged text dto targetVenueId s with updatedAt := env.now }) = .ok db'.sessions ∧
      speakersReplaced sessionId dto env db = .ok db'.sessionSpeakers ∧
      Beside { db with
        sessions := db'.sessions
        sessionSpeakers := db'.sessionSpeakers } db' := by
  obtain ⟨_, -, h⟩ := andThen_eq_ok.mp h
  obtain ⟨speakers, hspeakers, h⟩ := andThen_eq_ok.mp h
  obtain ⟨_, -, h⟩ := andThen_eq_ok.mp h
  obtain ⟨_, -, h⟩ := andThen_eq_ok.mp h
  obtain ⟨sessions, hsessions, h⟩ := andThen_eq_ok.mp h
  obtain ⟨updated, -, h⟩ := andThen_eq_ok.mp h
  obtain ⟨db'', hdb, h⟩ := andThen_eq_ok.mp h
  cases h
  obtain ⟨accounts, rfl⟩ := enqueued_eq_ok hdb
  exact ⟨ofRefusal_eq_ok.mp hsessions, hspeakers, accounts, rfl⟩

theorem sessionDelete_eq {u : Unit} (h : sessionDelete eventId sessionId userId env db = .ok (db', u)) :
    (db.sessions.update sessionId fun s ↦
      { s with
        deletedAt := some env.now
        status := .cancelled
        updatedAt := env.now }) = .ok db'.sessions ∧
      Beside { db with sessions := db'.sessions } db' := by
  obtain ⟨sessions, hsessions, h⟩ := andThen_eq_ok.mp h
  obtain ⟨db'', hdb, h⟩ := andThen_eq_ok.mp h
  cases h
  obtain ⟨accounts, rfl⟩ := enqueued_eq_ok hdb
  exact ⟨ofRefusal_eq_ok.mp hsessions, accounts, rfl⟩

/-- What each numbering of a session keeps, the transaction that numbers them keeps. -/
theorem sessionsReorder_eq {dto : ReorderSessionsDto} {u : Unit} {I : Table Session → Prop}
    (hI : ∀ t t' id (i : ℤ), I t →
      (t.update id fun s ↦ { s with displayOrder := i, updatedAt := env.now }) = .ok t' → I t')
    (h : sessionsReorder eventId dto env db = .ok (db', u)) (hdb : I db.sessions) :
    I db'.sessions ∧ Beside { db with sessions := db'.sessions } db' := by
  obtain ⟨sessions, hsessions, h⟩ := andThen_eq_ok.mp h
  obtain ⟨db'', hdb', h⟩ := andThen_eq_ok.mp h
  cases h
  obtain ⟨accounts, rfl⟩ := enqueued_eq_ok hdb'
  refine ⟨foldlM_keeps (fun a _ t t' ht ht' ↦ ?_) hdb hsessions, accounts, rfl⟩
  exact hI t t' a.1 a.2 ht (ofRefusal_eq_ok.mp ht')

end Transactions

section Checks

variable {G : String → EventsDb → EventsDb → Prop} {eventId : String}

theorem validateVenue_each {venueId : Option String} (hG : ∀ db, G "venue.findFirst" db db) :
    (validateVenue venueId eventId).Each G := by
  unfold validateVenue
  cases orNull venueId with
  | none => exact Call.each_returned
  | some venueId => exact Call.each_bind (Call.each_reads hG) fun _ ↦ Call.each_returned

theorem validateSpeakers_each {speakerIds : Option (List String)}
    (hG : ∀ db, G "speaker.findMany" db db) : (validateSpeakers speakerIds eventId).Each G := by
  unfold validateSpeakers
  cases speakerIds with
  | none => exact Call.each_returned
  | some speakerIds => exact Call.each_bind (Call.each_reads hG) fun _ ↦ Call.each_returned

variable {text : EventText} {sessionId userId : String} {userRoles : List String} {client : Client}

/-- An update reads, and then writes once. -/
theorem update_each {dto : UpdateSessionDto} (hread : ∀ label db, G label db db)
    (hlog : ∀ label db db', Beside db db' → G label db db')
    (hwrite : ∀ targetVenueId startsAt endsAt env db db' r,
      sessionUpdate text eventId sessionId userId dto targetVenueId startsAt endsAt env db =
        .ok (db', r) → G "$transaction" db db') :
    (update text eventId sessionId userId userRoles dto client).Each G := by
  refine Call.each_bind (EventAuthorizationService.assertCanManageEvent_each (hread _) (hread _))
    fun event ↦ ?_
  refine Call.each_bind (Call.each_reads (hread _)) fun found ↦ ?_
  refine Call.each_bind Call.each_returned fun existing ↦ ?_
  refine Call.each_bind Call.each_returned fun _ ↦ Call.each_bind Call.each_returned fun _ ↦ ?_
  refine Call.each_bind (validateVenue_each (hread _)) fun _ ↦ ?_
  refine Call.each_bind (validateSpeakers_each (hread _)) fun _ ↦ ?_
  refine Call.each_bind (Call.each_writes (hread _) (hwrite _ _ _)) fun _ ↦ ?_
  exact Call.each_bind (each_log (hlog _)) fun _ ↦ Call.each_returned

theorem delete_each (hread : ∀ label db, G label db db)
    (hlog : ∀ label db db', Beside db db' → G label db db')
    (hwrite : ∀ env db db' u, sessionDelete eventId sessionId userId env db = .ok (db', u) →
      G "$transaction" db db') : (delete eventId sessionId userId userRoles client).Each G := by
  refine Call.each_bind (EventAuthorizationService.assertCanManageEvent_each (hread _) (hread _))
    fun event ↦ ?_
  refine Call.each_bind (Call.each_reads (hread _)) fun found ↦ ?_
  refine Call.each_bind Call.each_returned fun existing ↦ ?_
  refine Call.each_bind (Call.each_writes (hread _) hwrite) fun _ ↦ ?_
  exact each_log (hlog _)

end Checks

end SessionsService

end Innovents.Events
