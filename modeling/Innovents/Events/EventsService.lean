import Innovents.Auth.AdminUsersService
import Innovents.Events.Schema

namespace Innovents.Events

open Innovents.Lib Innovents.Auth Innovents.Platform
open Innovents.Payments (Time)

/-- The functions of the language that the services apply to texts and dates. -/
structure EventText where
  trim : String → String
  toISOString : Time → String

def sampleText : EventText where
  trim := id
  toISOString t := toString t

structure CreateEventDto where
  name : String
  type : EventType
  shortDescription : String
  description : String
  startsAt : Time
  endsAt : Time
  venueName : String
  address : String
  city : String
  country : String
  capacity : ℤ
  coverImageUrl : String
  logoUrl : String
  mainVideoUrl : String
  tags : List String
  officialLanguages : List String
  visibility : Option EventVisibility
  ticketType : Option TicketType
  websiteUrl : Option String
  isHybrid : Option Bool

/-- Each field may be missing, and may be `null`. -/
structure UpdateEventDto where
  name : Option (Option String)
  type : Option (Option EventType)
  shortDescription : Option (Option String)
  description : Option (Option String)
  startsAt : Option (Option Time)
  endsAt : Option (Option Time)
  venueName : Option (Option String)
  address : Option (Option String)
  city : Option (Option String)
  country : Option (Option String)
  capacity : Option (Option ℤ)
  coverImageUrl : Option (Option String)
  logoUrl : Option (Option String)
  mainVideoUrl : Option (Option String)
  tags : Option (Option (List String))
  officialLanguages : Option (Option (List String))
  visibility : Option (Option EventVisibility)
  ticketType : Option (Option TicketType)
  websiteUrl : Option (Option String)
  isHybrid : Option (Option Bool)

def UpdateEventDto.empty : UpdateEventDto :=
  ⟨none, none, none, none, none, none, none, none, none, none, none, none, none, none, none, none,
    none, none, none, none⟩

/-- `Object.keys(dto)` -/
def UpdateEventDto.keys (dto : UpdateEventDto) : List String :=
  ([("name", dto.name.isSome), ("type", dto.type.isSome),
    ("shortDescription", dto.shortDescription.isSome), ("description", dto.description.isSome),
    ("startsAt", dto.startsAt.isSome), ("endsAt", dto.endsAt.isSome),
    ("venueName", dto.venueName.isSome), ("address", dto.address.isSome),
    ("city", dto.city.isSome), ("country", dto.country.isSome),
    ("capacity", dto.capacity.isSome), ("coverImageUrl", dto.coverImageUrl.isSome),
    ("logoUrl", dto.logoUrl.isSome), ("mainVideoUrl", dto.mainVideoUrl.isSome),
    ("tags", dto.tags.isSome), ("officialLanguages", dto.officialLanguages.isSome),
    ("visibility", dto.visibility.isSome), ("ticketType", dto.ticketType.isSome),
    ("websiteUrl", dto.websiteUrl.isSome), ("isHybrid", dto.isHybrid.isSome)].filter
      fun field ↦ field.2).map Prod.fst

structure EventResponseDto where
  id : String
  ownerId : String
  name : String
  type : EventType
  shortDescription : String
  description : String
  startsAt : Time
  endsAt : Time
  venueName : String
  address : String
  city : String
  country : String
  capacity : ℤ
  registeredCount : ℕ
  coverImageUrl : String
  logoUrl : String
  mainVideoUrl : String
  tags : List String
  officialLanguages : List String
  visibility : EventVisibility
  ticketType : TicketType
  websiteUrl : Option String
  isHybrid : Bool
  status : EventStatus
  createdAt : Time
  updatedAt : Time

/-- `text || null` -/
def orNull (text : Option String) : Option String := text.filter (· ≠ "")

structure EventQueryDto where
  page : Option ℤ
  pageSize : Option ℤ
  search : Option String
  city : Option String
  country : Option String
  type : Option EventType
  ticketType : Option TicketType
  status : Option EventStatus
  tag : Option String
  startDate : Option Time
  endDate : Option Time

def EventQueryDto.empty : EventQueryDto :=
  ⟨none, none, none, none, none, none, none, none, none, none, none⟩

structure PaginatedEventsResponseDto where
  items : List EventResponseDto
  page : ℕ
  pageSize : ℕ
  total : ℕ
  totalPages : ℕ

structure AssignOrganizerDto where
  userId : String

structure OrganizerResponseDto where
  id : String
  eventId : String
  userId : String
  email : String
  assignedAt : Time

/-- How many attendees are registered for the event. -/
def registeredCount (eventId : String) (db : EventsDb) : ℕ :=
  db.eventRegistrations.rows.countP fun r ↦ r.eventId == eventId && r.status == .registered

namespace EventsService

def mapToResponse (event : Event) (registeredCount : ℕ) : EventResponseDto where
  id := event.id
  ownerId := event.ownerId
  name := event.name
  type := event.type
  shortDescription := event.shortDescription
  description := event.description
  startsAt := event.startsAt
  endsAt := event.endsAt
  venueName := event.venueName
  address := event.address
  city := event.city
  country := event.country
  capacity := event.capacity
  registeredCount
  coverImageUrl := event.coverImageUrl
  logoUrl := event.logoUrl
  mainVideoUrl := event.mainVideoUrl
  tags := event.tags
  officialLanguages := event.officialLanguages
  visibility := event.visibility
  ticketType := event.ticketType
  websiteUrl := event.websiteUrl
  isHybrid := event.isHybrid
  status := event.status
  createdAt := event.createdAt
  updatedAt := event.updatedAt

/-- `event.create`, and the entry of the outbox. -/
def eventCreate (text : EventText) (ownerId : String) (dto : CreateEventDto) (env : AuthEnv)
    (db : EventsDb) : Except AuthError (EventsDb × Event) := do
  let created : Event :=
    { id := env.idFor db.events
      ownerId
      name := text.trim dto.name
      type := dto.type
      shortDescription := text.trim dto.shortDescription
      description := text.trim dto.description
      startsAt := dto.startsAt
      endsAt := dto.endsAt
      venueName := text.trim dto.venueName
      address := text.trim dto.address
      city := text.trim dto.city
      country := text.trim dto.country
      capacity := dto.capacity
      coverImageUrl := text.trim dto.coverImageUrl
      logoUrl := text.trim dto.logoUrl
      mainVideoUrl := text.trim dto.mainVideoUrl
      tags := dto.tags
      officialLanguages := dto.officialLanguages
      visibility := dto.visibility.getD .isPublic
      ticketType := dto.ticketType.getD .free
      websiteUrl := orNull (dto.websiteUrl.map text.trim)
      isHybrid := dto.isHybrid.getD false
      status := .draft
      deletedAt := none
      createdAt := env.now
      updatedAt := env.now }
  let events ← ofRefusal (db.events.create created)
  let db ← enqueued
    { eventType := "EVENT_CREATED"
      aggregateType := "event"
      aggregateId := created.id
      payload := [("eventId", .str created.id), ("name", .str created.name),
        ("ownerId", .str created.ownerId),
        ("startsAt", .str (text.toISOString created.startsAt))] } env { db with events }
  return (db, created)

def create (text : EventText) (ownerId : String) (dto : CreateEventDto) (client : Client) :
    EventsCall EventResponseDto := do
  Call.returned (demand (dto.startsAt < dto.endsAt)
    (refusal .badRequest "Event endsAt must be after startsAt"))
  let owner ← Call.reads "user.findFirst" fun _ db ↦
    (db.accounts.users.get? ownerId).filter (·.deletedAt.isNone)
  Call.returned (demand (owner.any (·.status = .active))
    (refusal .badRequest "Event owner account must be active"))
  let event ← Call.writes "$transaction" (eventCreate text ownerId dto)
  log
    { actorUserId := some ownerId
      action := "EVENT_CREATED"
      resourceType := "event"
      resourceId := some event.id
      metadata := [("name", .str event.name), ("capacity", .num event.capacity)] } client
  return mapToResponse event 0

theorem eventCreate_eq {text : EventText} {ownerId : String} {dto : CreateEventDto} {env : AuthEnv}
    {db db' : EventsDb} {event : Event} (h : eventCreate text ownerId dto env db = .ok (db', event)) :
    db.events.create event = .ok db'.events ∧ Beside { db with events := db'.events } db' := by
  obtain ⟨events, hevents, h⟩ := andThen_eq_ok.mp h
  obtain ⟨db'', hdb, h⟩ := andThen_eq_ok.mp h
  cases h
  obtain ⟨accounts, rfl⟩ := enqueued_eq_ok hdb
  exact ⟨ofRefusal_eq_ok.mp hevents, accounts, rfl⟩

/-- The part of a search that says which events the caller is shown. -/
def shown (query : EventQueryDto) (userRoles : List String) (event : Event) : Bool :=
  if "ADMIN" ∈ userRoles then query.status.all fun status ↦ event.status == status
  else event.visibility == .isPublic && match query.status with
    | some status => event.status == status
    | none => event.status == .published || event.status == .ongoing

/-- The `where` of a search; `ilike` tells whether a text contains another in any case. -/
def matchesQuery (text : EventText) (ilike : String → String → Bool) (query : EventQueryDto)
    (userRoles : List String) (event : Event) : Bool :=
  event.deletedAt.isNone && shown query userRoles event &&
    ((orNull query.city).all fun city ↦ ilike event.city city) &&
    ((orNull query.country).all fun country ↦ ilike event.country country) &&
    (query.type.all fun type ↦ event.type == type) &&
    (query.ticketType.all fun ticketType ↦ event.ticketType == ticketType) &&
    ((orNull query.tag).all fun tag ↦ event.tags.contains tag) &&
    (query.startDate.all fun startDate ↦ startDate ≤ event.startsAt) &&
    (query.endDate.all fun endDate ↦ event.endsAt ≤ endDate) &&
    ((orNull query.search).all fun search ↦ ilike event.name (text.trim search) ||
      ilike event.shortDescription (text.trim search) || event.tags.contains (text.trim search))

def findAll (text : EventText) (ilike : String → String → Bool) (query : EventQueryDto)
    (_userId : Option String) (userRoles : List String) :
    EventsCall PaginatedEventsResponseDto := do
  let page := (max 1 ((query.page.filter (· ≠ 0)).getD 1)).toNat
  let pageSize := (min 100 (max 1 ((query.pageSize.filter (· ≠ 0)).getD 20))).toNat
  let total ← Call.reads "event.count" fun _ db ↦
    db.events.rows.countP (matchesQuery text ilike query userRoles)
  let items ← Call.reads "event.findMany" fun _ db ↦
    (((((db.events.rows.filter (matchesQuery text ilike query userRoles)).mergeSort
      (·.startsAt ≤ ·.startsAt)).drop ((page - 1) * pageSize)).take pageSize).map fun e ↦
        mapToResponse e (registeredCount e.id db))
  return {
    items
    page
    pageSize
    total
    totalPages := max 1 ((total + pageSize - 1) / pageSize) }

def findById (eventId : String) (userId : Option String) (userRoles : List String) :
    EventsCall EventResponseDto := do
  let event ← EventAuthorizationService.assertCanViewEvent eventId userId userRoles
  let registeredCount ← Call.reads "eventRegistration.count" fun _ ↦ registeredCount eventId
  return mapToResponse event registeredCount

/-- The sessions that the proposed window of the event leaves out. -/
def violatingSessions (eventId : String) (startsAt endsAt : Time) (db : EventsDb) : List Session :=
  db.sessions.rows.filter fun s ↦ s.eventId == eventId && s.deletedAt.isNone &&
    (s.startsAt < startsAt || endsAt < s.endsAt)

def validateDates (text : EventText) (eventId : String) (dto : UpdateEventDto)
    (startsAt endsAt : Time) : EventsCall Unit :=
  if dto.startsAt.join.isSome ∨ dto.endsAt.join.isSome then do
    let violating ← Call.reads "session.findMany" fun _ ↦
      violatingSessions eventId startsAt endsAt
    Call.returned (demand (violating.length = 0) (refusal .badRequest s!"Cannot update event dates: {violating.length} existing session(s) fall outside proposed event window [{text.toISOString startsAt} - {text.toISOString endsAt}]. Adjust sessions first."))
  else return

/-- The check of a new capacity, for which `null` counts as zero. -/
def validateCapacity (eventId : String) (dto : UpdateEventDto) : EventsCall Unit :=
  match dto.capacity with
  | none => return
  | some capacity => do
    let capacity := capacity.getD 0
    Call.returned (demand (1 ≤ capacity) (refusal .badRequest "Capacity must be at least 1"))
    let activeRegistrations ← Call.reads "eventRegistration.count" fun _ ↦ registeredCount eventId
    Call.returned (demand (activeRegistrations ≤ capacity) (refusal .conflict s!"Cannot reduce capacity to {capacity}: event already has {activeRegistrations} registered attendees."))

section Checks

variable {G : String → EventsDb → EventsDb → Prop}

theorem validateDates_each {text : EventText} {eventId : String} {dto : UpdateEventDto}
    {startsAt endsAt : Time} (hG : ∀ db, G "session.findMany" db db) :
    (validateDates text eventId dto startsAt endsAt).Each G := by
  unfold validateDates
  split_ifs
  · exact Call.each_bind (Call.each_reads hG) fun _ ↦ Call.each_returned
  · exact Call.each_returned

theorem validateCapacity_each {eventId : String} {dto : UpdateEventDto}
    (hG : ∀ db, G "eventRegistration.count" db db) : (validateCapacity eventId dto).Each G := by
  unfold validateCapacity
  cases dto.capacity with
  | none => exact Call.each_returned
  | some capacity =>
    refine Call.each_bind Call.each_returned fun _ ↦ ?_
    exact Call.each_bind (Call.each_reads hG) fun _ ↦ Call.each_returned

end Checks

/-- `event.update`, which returns the new row, and the entry of the outbox. -/
def eventUpdate (text : EventText) (eventId userId : String) (dto : UpdateEventDto) (env : AuthEnv)
    (db : EventsDb) : Except AuthError (EventsDb × Event) := do
  let type ← given "type" dto.type
  let capacity ← given "capacity" dto.capacity
  let tags ← given "tags" dto.tags
  let officialLanguages ← given "officialLanguages" dto.officialLanguages
  let visibility ← given "visibility" dto.visibility
  let ticketType ← given "ticketType" dto.ticketType
  let isHybrid ← given "isHybrid" dto.isHybrid
  let trimmed (field : Option (Option String)) (old : String) := (field.join.map text.trim).getD old
  let events ← ofRefusal (db.events.update eventId fun e ↦
    { e with
      name := trimmed dto.name e.name
      type := type.getD e.type
      shortDescription := trimmed dto.shortDescription e.shortDescription
      description := trimmed dto.description e.description
      startsAt := dto.startsAt.join.getD e.startsAt
      endsAt := dto.endsAt.join.getD e.endsAt
      venueName := trimmed dto.venueName e.venueName
      address := trimmed dto.address e.address
      city := trimmed dto.city e.city
      country := trimmed dto.country e.country
      capacity := capacity.getD e.capacity
      coverImageUrl := trimmed dto.coverImageUrl e.coverImageUrl
      logoUrl := trimmed dto.logoUrl e.logoUrl
      mainVideoUrl := trimmed dto.mainVideoUrl e.mainVideoUrl
      tags := tags.getD e.tags
      officialLanguages := officialLanguages.getD e.officialLanguages
      visibility := visibility.getD e.visibility
      ticketType := ticketType.getD e.ticketType
      websiteUrl := (dto.websiteUrl.map fun url ↦ (url.map text.trim).filter (· ≠ "")).getD
        e.websiteUrl
      isHybrid := isHybrid.getD e.isHybrid
      updatedAt := env.now })
  let updated ← present (events.get? eventId) (.prisma .recordNotFound)
  let db ← enqueued
    { eventType := "EVENT_UPDATED"
      aggregateType := "event"
      aggregateId := eventId
      payload := [("eventId", .str eventId), ("updatedBy", .str userId)] } env { db with events }
  return (db, updated)

/-- The event `e'` is the event `e` after an update. -/
structure UpdateOf (dto : UpdateEventDto) (e e' : Event) : Prop where
  id : e'.id = e.id
  ownerId : e'.ownerId = e.ownerId
  startsAt : e'.startsAt = dto.startsAt.join.getD e.startsAt
  endsAt : e'.endsAt = dto.endsAt.join.getD e.endsAt
  capacity : e'.capacity = dto.capacity.join.getD e.capacity
  status : e'.status = e.status
  deletedAt : e'.deletedAt = e.deletedAt

/-- What the transaction of an update writes. -/
theorem eventUpdate_eq {text : EventText} {eventId userId : String} {dto : UpdateEventDto}
    {env : AuthEnv} {db db' : EventsDb} {event : Event}
    (h : eventUpdate text eventId userId dto env db = .ok (db', event)) :
    ∃ f : Event → Event, db.events.update eventId f = .ok db'.events ∧
      (∀ e, UpdateOf dto e (f e)) ∧ Beside { db with events := db'.events } db' := by
  obtain ⟨type, -, h⟩ := andThen_eq_ok.mp h
  obtain ⟨capacity, hcapacity, h⟩ := andThen_eq_ok.mp h
  obtain ⟨tags, -, h⟩ := andThen_eq_ok.mp h
  obtain ⟨officialLanguages, -, h⟩ := andThen_eq_ok.mp h
  obtain ⟨visibility, -, h⟩ := andThen_eq_ok.mp h
  obtain ⟨ticketType, -, h⟩ := andThen_eq_ok.mp h
  obtain ⟨isHybrid, -, h⟩ := andThen_eq_ok.mp h
  obtain ⟨events, hevents, h⟩ := andThen_eq_ok.mp h
  obtain ⟨updated, -, h⟩ := andThen_eq_ok.mp h
  obtain ⟨db'', hdb, h⟩ := andThen_eq_ok.mp h
  cases h
  obtain ⟨accounts, rfl⟩ := enqueued_eq_ok hdb
  refine ⟨_, ofRefusal_eq_ok.mp hevents, fun e ↦ ⟨rfl, rfl, rfl, rfl, ?_, rfl, rfl⟩, accounts, rfl⟩
  rw [given_join hcapacity]

def update (text : EventText) (eventId userId : String) (userRoles : List String)
    (dto : UpdateEventDto) (client : Client) : EventsCall EventResponseDto := do
  let existing ← EventAuthorizationService.assertCanManageEvent userId userRoles eventId
  let proposedStartsAt := dto.startsAt.join.getD existing.startsAt
  let proposedEndsAt := dto.endsAt.join.getD existing.endsAt
  Call.returned (demand (proposedStartsAt < proposedEndsAt)
    (refusal .badRequest "Event endsAt must be after startsAt"))
  validateDates text eventId dto proposedStartsAt proposedEndsAt
  validateCapacity eventId dto
  let updated ← Call.writes "$transaction" (eventUpdate text eventId userId dto)
  log
    { actorUserId := some userId
      action := "EVENT_UPDATED"
      resourceType := "event"
      resourceId := some eventId
      metadata := [("modifiedFields", .arr (dto.keys.map JsValue.str))] } client
  let count ← Call.reads "eventRegistration.count" fun _ ↦ registeredCount eventId
  return mapToResponse updated count

/-- An update reads, and then writes once. -/
theorem update_each {text : EventText} {eventId userId : String} {userRoles : List String}
    {dto : UpdateEventDto} {client : Client} {G : String → EventsDb → EventsDb → Prop}
    (hread : ∀ label db, G label db db) (hlog : ∀ label db db', Beside db db' → G label db db')
    (hwrite : ∀ env db db' event, eventUpdate text eventId userId dto env db = .ok (db', event) →
      G "$transaction" db db') : (update text eventId userId userRoles dto client).Each G := by
  refine Call.each_bind (EventAuthorizationService.assertCanManageEvent_each (hread _) (hread _))
    fun existing ↦ ?_
  refine Call.each_bind Call.each_returned fun _ ↦ ?_
  refine Call.each_bind (validateDates_each (hread _)) fun _ ↦ ?_
  refine Call.each_bind (validateCapacity_each (hread _)) fun _ ↦ ?_
  refine Call.each_bind (Call.each_writes (hread _) hwrite) fun event ↦ ?_
  refine Call.each_bind (each_log (hlog _)) fun _ ↦ ?_
  exact Call.each_bind (Call.each_reads (hread _)) fun _ ↦ Call.each_returned

/-- `eventOrganizer.upsert` -/
def organizerUpsert (eventId userId assignedBy : String) (env : AuthEnv) (db : EventsDb) :
    Except AuthError (EventsDb × EventOrganizer) :=
  match db.accounts.eventOrganizers.find? fun o ↦ o.eventId == eventId && o.userId == userId with
  | some old => do
    let eventOrganizers ← ofRefusal (db.accounts.eventOrganizers.update old.id fun o ↦
      { o with
        assignedAt := env.now
        assignedBy })
    let assignment ← present (eventOrganizers.get? old.id) (.prisma .recordNotFound)
    return ({ db with accounts := { db.accounts with eventOrganizers } }, assignment)
  | none => do
    let assignment : EventOrganizer :=
      { id := env.idFor db.accounts.eventOrganizers
        eventId
        userId
        assignedAt := env.now
        assignedBy }
    let eventOrganizers ← ofRefusal (db.accounts.eventOrganizers.create assignment)
    return ({ db with accounts := { db.accounts with eventOrganizers } }, assignment)

def assignOrganizer (eventId currentUserId : String) (userRoles : List String)
    (dto : AssignOrganizerDto) (client : Client) : EventsCall OrganizerResponseDto := do
  let _ ← EventAuthorizationService.assertCanManageEvent currentUserId userRoles eventId
  Call.returned (demand (dto.userId ≠ currentUserId)
    (refusal .badRequest "Event owner cannot be assigned as organizer"))
  let found ← Call.reads "user.findFirst" fun _ db ↦
    (db.accounts.users.get? dto.userId).filter (·.deletedAt.isNone)
  let targetUser ← Call.returned (present found (refusal .notFound "Target user not found"))
  Call.returned (demand (targetUser.status = .active) (refusal .badRequest s!"Cannot assign organizer: user status is {AdminUsersService.accountStatusText targetUser.status}. User must be ACTIVE."))
  Call.returned (demand ("ORGANIZER" ∈ targetUser.userRoles)
    (refusal .badRequest "Target user does not hold the ORGANIZER role"))
  let assignment ← Call.writes "eventOrganizer.upsert"
    (organizerUpsert eventId dto.userId currentUserId)
  log
    { actorUserId := some currentUserId
      action := "ORGANIZER_ASSIGNED"
      resourceType := "event:organizer"
      resourceId := some assignment.id
      metadata := [("eventId", .str eventId), ("targetUserId", .str dto.userId)] } client
  return ⟨assignment.id, assignment.eventId, assignment.userId, targetUser.email,
    assignment.assignedAt⟩

def organizerDelete (id : String) (_ : AuthEnv) (db : EventsDb) :
    Except AuthError (EventsDb × Unit) := do
  let eventOrganizers ← ofRefusal (db.accounts.eventOrganizers.delete id)
  return ({ db with accounts := { db.accounts with eventOrganizers } }, ())

def removeOrganizer (eventId currentUserId : String) (userRoles : List String)
    (targetUserId : String) (client : Client) : EventsCall Unit := do
  let _ ← EventAuthorizationService.assertCanManageEvent currentUserId userRoles eventId
  let found ← Call.reads "eventOrganizer.findUnique" fun _ db ↦
    db.accounts.eventOrganizers.find? fun o ↦ o.eventId == eventId && o.userId == targetUserId
  let assignment ← Call.returned (present found
    (refusal .notFound "Organizer assignment not found"))
  Call.writes "eventOrganizer.delete" (organizerDelete assignment.id)
  log
    { actorUserId := some currentUserId
      action := "ORGANIZER_REMOVED"
      resourceType := "event:organizer"
      resourceId := some assignment.id
      metadata := [("eventId", .str eventId), ("targetUserId", .str targetUserId)] } client

/-- The rows after an assignment are old ones or the one of the user. -/
theorem organizerUpsert_eq {eventId userId assignedBy : String} {env : AuthEnv} {db db' : EventsDb}
    {assignment : EventOrganizer}
    (h : organizerUpsert eventId userId assignedBy env db = .ok (db', assignment)) :
    db' = { db with accounts := { db.accounts with
      eventOrganizers := db'.accounts.eventOrganizers } } ∧
      ∀ o ∈ db'.accounts.eventOrganizers.rows, o ∈ db.accounts.eventOrganizers.rows ∨
        o.eventId = eventId ∧ o.userId = userId ∧ o.assignedBy = assignedBy := by
  unfold organizerUpsert at h
  cases hfound : db.accounts.eventOrganizers.find? fun o ↦
      o.eventId == eventId && o.userId == userId with
  | some old =>
    obtain ⟨hmem, hold⟩ := Table.find?_mem hfound
    rw [Bool.and_eq_true, beq_iff_eq, beq_iff_eq] at hold
    rw [hfound] at h
    obtain ⟨eventOrganizers, hupdate, h⟩ := andThen_eq_ok.mp h
    obtain ⟨updated, -, h⟩ := andThen_eq_ok.mp h
    cases h
    refine ⟨rfl, fun o ho ↦ ?_⟩
    rw [(Table.update_eq_ok.mp (ofRefusal_eq_ok.mp hupdate)).2, Table.mem_updateRows] at ho
    rcases ho with ⟨o, ho, hid, rfl⟩ | ⟨ho, -⟩
    · cases db.accounts.eventOrganizers.eq_of_id ho hmem hid
      exact .inr ⟨hold.1, hold.2, rfl⟩
    · exact .inl ho
  | none =>
    rw [hfound] at h
    obtain ⟨eventOrganizers, hcreate, h⟩ := andThen_eq_ok.mp h
    cases h
    refine ⟨rfl, fun o ho ↦ ?_⟩
    rw [Table.create_eq_ok.mp (ofRefusal_eq_ok.mp hcreate), List.mem_append,
      List.mem_singleton] at ho
    rcases ho with ho | rfl
    · exact .inl ho
    · exact .inr ⟨rfl, rfl, rfl⟩

end EventsService

end Innovents.Events
