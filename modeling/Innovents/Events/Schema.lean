import Innovents.Platform.Accounts

namespace Innovents.Events

open Innovents.Lib Innovents.Auth Innovents.Platform
open Innovents.Payments (Time)

inductive EventType
  | conference | exhibition | summit | workshop | festival | networking
  deriving DecidableEq, Repr

inductive EventStatus
  | draft | published | ongoing | completed | cancelled
  deriving DecidableEq, Repr

inductive EventVisibility
  | isPublic | isPrivate
  deriving DecidableEq, Repr

inductive TicketType
  | free | paid | multiTier
  deriving DecidableEq, Repr

inductive RegistrationStatus
  | registered | cancelled | attended | noShow
  deriving DecidableEq, Repr

inductive SessionStatus
  | scheduled | live | completed | cancelled
  deriving DecidableEq, Repr

structure Event where
  id : String
  ownerId : String
  name : String
  type : EventType
  shortDescription : String
  description : String
  startsAt : Time
  endsAt : Time
  venueName : String
  address : String
  city : String
  country : String
  capacity : ℤ
  coverImageUrl : String
  logoUrl : String
  mainVideoUrl : String
  tags : List String
  officialLanguages : List String
  visibility : EventVisibility
  ticketType : TicketType
  websiteUrl : Option String
  isHybrid : Bool
  status : EventStatus
  deletedAt : Option Time
  createdAt : Time
  updatedAt : Time

structure EventRegistration where
  id : String
  eventId : String
  userId : String
  status : RegistrationStatus
  registeredAt : Time
  cancelledAt : Option Time

structure Venue where
  id : String
  eventId : String
  name : String
  description : Option String
  capacity : Option ℤ
  floor : Option String
  location : Option String
  createdAt : Time
  updatedAt : Time

structure Speaker where
  id : String
  eventId : String
  fullName : String
  jobTitle : String
  company : String
  bio : Option String
  photoUrl : Option String
  linkedinUrl : Option String
  createdAt : Time
  updatedAt : Time

structure Session where
  id : String
  eventId : String
  venueId : Option String
  title : String
  description : Option String
  startsAt : Time
  endsAt : Time
  displayOrder : ℤ
  status : SessionStatus
  deletedAt : Option Time
  createdAt : Time
  updatedAt : Time

structure SessionSpeaker where
  id : String
  sessionId : String
  speakerId : String
  displayOrder : ℤ

instance : Row Event := ⟨Event.id, []⟩
instance : Row EventRegistration :=
  ⟨EventRegistration.id, [fun r ↦ some (r.eventId ++ ":" ++ r.userId)]⟩
instance : Row Venue := ⟨Venue.id, []⟩
instance : Row Speaker := ⟨Speaker.id, []⟩
instance : Row Session := ⟨Session.id, []⟩
instance : Row SessionSpeaker :=
  ⟨SessionSpeaker.id, [fun s ↦ some (s.sessionId ++ ":" ++ s.speakerId)]⟩

/-- The tables of the events and those of the accounts, which list the organizers. -/
structure EventsDb where
  accounts : AuthDb
  events : Table Event
  eventRegistrations : Table EventRegistration
  venues : Table Venue
  speakers : Table Speaker
  sessions : Table Session
  sessionSpeakers : Table SessionSpeaker

def EventsDb.empty : EventsDb :=
  { accounts := .empty
    events := .empty
    eventRegistrations := .empty
    venues := .empty
    speakers := .empty
    sessions := .empty
    sessionSpeakers := .empty }

instance : Accounts EventsDb := ⟨EventsDb.accounts, fun accounts db ↦ { db with accounts }⟩

abbrev EventsCall (α : Type) := Service EventsDb α

/-- A field of an update whose column does not take `null`. -/
def given {α : Type} (name : String) : Option (Option α) → Except AuthError (Option α)
  | none => .ok none
  | some none => .error (.fault s!"Argument {name} must not be null.")
  | some (some a) => .ok (some a)

theorem given_join {α : Type} {name : String} {field : Option (Option α)} {a : Option α}
    (h : given name field = .ok a) : field.join = a := by
  match field with
  | none =>
    cases h
    rfl
  | some none => cases h
  | some (some b) =>
    cases h
    rfl

namespace EventAuthorizationService

/-- The event, if the user may manage it. -/
def assertCanManageEvent (userId : String) (userRoles : List String) (eventId : String) :
    EventsCall Event := do
  let found ← Call.reads "event.findFirst" fun _ db ↦
    (db.events.get? eventId).filter (·.deletedAt.isNone)
  let event ← Call.returned (present found (refusal .notFound "Event not found"))
  if "ADMIN" ∈ userRoles then return event
  else if event.ownerId = userId then return event
  else if "ORGANIZER" ∈ userRoles then do
    let assignment ← Call.reads "eventOrganizer.findUnique" fun _ db ↦
      db.accounts.eventOrganizers.find? fun o ↦ o.eventId == eventId && o.userId == userId
    Call.returned (demand assignment.isSome
      (refusal .forbidden "You do not have permission to manage this event"))
    return event
  else Call.returned (.error (refusal .forbidden "You do not have permission to manage this event"))

/-- The check only reads. -/
theorem assertCanManageEvent_each {userId : String} {userRoles : List String} {eventId : String}
    {G : String → EventsDb → EventsDb → Prop} (hevent : ∀ db, G "event.findFirst" db db)
    (hassignment : ∀ db, G "eventOrganizer.findUnique" db db) :
    (assertCanManageEvent userId userRoles eventId).Each G := by
  refine Call.each_bind (Call.each_reads hevent) fun found ↦ ?_
  refine Call.each_bind Call.each_returned fun event ↦ ?_
  split_ifs
  · exact Call.each_returned
  · exact Call.each_returned
  · refine Call.each_bind (Call.each_reads hassignment) fun assignment ↦ ?_
    exact Call.each_bind Call.each_returned fun _ ↦ Call.each_returned
  · exact Call.each_returned

/-- The event is not deleted, and the user is an administrator, its owner or one of its
organizers. -/
theorem assertCanManageEvent_finds {userId : String} {userRoles : List String} {eventId : String}
    {db : EventsDb} : (assertCanManageEvent userId userRoles eventId).Finds (fun event ↦
      db.events.get? eventId = some event ∧ event.deletedAt = none ∧
        ("ADMIN" ∈ userRoles ∨ event.ownerId = userId ∨ "ORGANIZER" ∈ userRoles ∧
          ∃ o ∈ db.accounts.eventOrganizers.rows, o.eventId = eventId ∧ o.userId = userId)) db := by
  refine Call.finds_bind (Call.finds_reads fun _ ↦ rfl) fun found hfound ↦ ?_
  refine Call.finds_bind (Call.finds_returned fun event hevent ↦ hevent) fun event hevent ↦ ?_
  obtain ⟨hget, hdeleted⟩ :=
    Option.filter_eq_some_iff.mp (hfound.trans (present_eq_ok.mp hevent))
  have hdeleted := Option.isNone_iff_eq_none.mp hdeleted
  split_ifs with hadmin howner horganizer
  · exact Call.finds_pure ⟨hget, hdeleted, .inl hadmin⟩
  · exact Call.finds_pure ⟨hget, hdeleted, .inr (.inl howner)⟩
  · refine Call.finds_bind (Call.finds_reads fun _ ↦ rfl) fun assignment hassignment ↦ ?_
    refine Call.finds_bind (Call.finds_returned fun _ h ↦ demand_eq_ok.mp h) fun _ hsome ↦ ?_
    obtain ⟨o, ho⟩ := Option.isSome_iff_exists.mp hsome
    obtain ⟨hmem, hof⟩ := Table.find?_mem (hassignment.trans ho)
    simp only [Bool.and_eq_true, beq_iff_eq] at hof
    exact Call.finds_pure ⟨hget, hdeleted, .inr (.inr ⟨horganizer, o, hmem, hof⟩)⟩
  · refine Call.finds_returned fun _ h ↦ ?_
    cases h

/-- Whether everybody may see the event. -/
def isPublicEligible (event : Event) : Bool :=
  event.visibility == .isPublic &&
    (event.status == .published || event.status == .ongoing || event.status == .completed)

/-- The event, which is not for everybody, if the caller manages it. -/
def managerView (eventId : String) (event : Event) (userId : Option String)
    (userRoles : List String) : EventsCall Event := do
  let userId ← Call.returned (present (userId.filter (· ≠ ""))
    (refusal .notFound "Event not found"))
  if "ADMIN" ∈ userRoles ∨ event.ownerId = userId then return event
  else if "ORGANIZER" ∈ userRoles then do
    let assignment ← Call.reads "eventOrganizer.findUnique" fun _ db ↦
      db.accounts.eventOrganizers.find? fun o ↦ o.eventId == eventId && o.userId == userId
    Call.returned (demand assignment.isSome (refusal .notFound "Event not found"))
    return event
  else Call.returned (.error (refusal .notFound "Event not found"))

/-- The event, if the caller may see it. -/
def assertCanViewEvent (eventId : String) (userId : Option String) (userRoles : List String) :
    EventsCall Event := do
  let found ← Call.reads "event.findFirst" fun _ db ↦
    (db.events.get? eventId).filter (·.deletedAt.isNone)
  let event ← Call.returned (present found (refusal .notFound "Event not found"))
  if isPublicEligible event then return event
  else managerView eventId event userId userRoles

end EventAuthorizationService

section Sample

def sampleEvent : Event where
  id := "event-1"
  ownerId := "owner-1"
  name := "Riyadh Global Tech Summit 2026"
  type := .summit
  shortDescription := "A technology summit"
  description := "Three days of keynotes and workshops"
  startsAt := 100
  endsAt := 200
  venueName := "Riyadh Front"
  address := "Airport Road"
  city := "Riyadh"
  country := "Saudi Arabia"
  capacity := 2
  coverImageUrl := "https://cdn.example.com/cover.png"
  logoUrl := "https://cdn.example.com/logo.png"
  mainVideoUrl := "https://cdn.example.com/video.mp4"
  tags := ["AI"]
  officialLanguages := ["Arabic"]
  visibility := .isPublic
  ticketType := .free
  websiteUrl := none
  isHybrid := false
  status := .published
  deletedAt := none
  createdAt := 0
  updatedAt := 0

/-- Two attendees have accounts, and the event takes two. -/
def sampleDb : EventsDb :=
  { EventsDb.empty with
    accounts := { AuthDb.empty with
      users := ((Table.singleton attendee).create { attendee with
        id := "user-2"
        email := "second@example.com" }).toOption.getD .empty }
    events := .singleton sampleEvent }

end Sample

end Innovents.Events
