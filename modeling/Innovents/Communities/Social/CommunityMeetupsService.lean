import Innovents.Communities.Social.Schema

namespace Innovents.Communities.Social

open Innovents.Lib Innovents.Auth Innovents.Platform
open Innovents.Payments (Time)

/-- The dates are as `new Date` reads them, and `none` is an invalid one. -/
structure CreateMeetupDto where
  title : String
  description : String
  startsAt : Option Time
  endsAt : Option (Option Time)
  location : String
  mapUrl : Option String
  participantLimit : Option ℤ

/-- Each field may be missing, and may be `null`. -/
structure UpdateMeetupDto where
  title : Option (Option String)
  description : Option (Option String)
  startsAt : Option (Option Time)
  endsAt : Option (Option (Option Time))
  location : Option (Option String)
  mapUrl : Option (Option String)
  participantLimit : Option (Option ℤ)
  status : Option (Option CommunityMeetupStatus)

def UpdateMeetupDto.empty : UpdateMeetupDto :=
  ⟨none, none, none, none, none, none, none, none⟩

structure MeetupResponseDto where
  id : String
  communityId : String
  eventId : String
  createdById : String
  title : String
  description : String
  startsAt : Time
  endsAt : Option Time
  location : String
  mapUrl : Option String
  participantLimit : Option ℤ
  participantCount : ℤ
  isPinned : Bool
  status : CommunityMeetupStatus
  createdAt : Time
  updatedAt : Time
  creator : Option UserSummary
  isParticipating : Bool

/-- The meetup of the community, if it is not deleted. -/
def existingMeetup (communityId meetupId : String) (db : SocialDb) : Option CommunityMeetup :=
  (db.communityMeetups.get? meetupId).filter fun m ↦
    m.communityId == communityId && m.deletedAt.isNone

/-- `communityMeetupParticipant.findUnique({ where: { meetupId_userId } })` -/
def participationOf (meetupId userId : String) (db : SocialDb) :
    Option CommunityMeetupParticipant :=
  db.communityMeetupParticipants.find? fun p ↦ p.meetupId == meetupId && p.userId == userId

namespace CommunityMeetupsService

def mapToResponseDto (meetup : CommunityMeetup) (creator : Option UserSummary)
    (isParticipating : Bool) : MeetupResponseDto where
  id := meetup.id
  communityId := meetup.communityId
  eventId := meetup.eventId
  createdById := meetup.createdById
  title := meetup.title
  description := meetup.description
  startsAt := meetup.startsAt
  endsAt := meetup.endsAt
  location := meetup.location
  mapUrl := meetup.mapUrl
  participantLimit := meetup.participantLimit
  participantCount := meetup.participantCount
  isPinned := meetup.isPinned
  status := meetup.status
  createdAt := meetup.createdAt
  updatedAt := meetup.updatedAt
  creator
  isParticipating

/-- A date that is given, where the store takes no invalid date. -/
def dateGiven (name : String) : Option (Option Time) → Except AuthError (Option Time)
  | none => .ok none
  | some none => .error (.fault s!"Invalid value for argument {name}: Provided Date object is invalid. Expected Date.")
  | some (some t) => .ok (some t)

/-- The creator takes part, and the meetup is pinned. -/
def newMeetup (id communityId eventId creatorId : String) (dto : CreateMeetupDto) (startsAt : Time)
    (endsAt : Option Time) (now : Time) : CommunityMeetup where
  id
  communityId
  eventId
  createdById := creatorId
  title := dto.title
  description := dto.description
  startsAt
  endsAt
  location := dto.location
  mapUrl := dto.mapUrl
  participantLimit := dto.participantLimit
  participantCount := 1
  isPinned := true
  status := .scheduled
  deletedAt := none
  createdAt := now
  updatedAt := now

/-- `communityMeetupParticipant.create` -/
def participantAdded (meetupId userId : String) (env : AuthEnv) (db : SocialDb) :
    Except AuthError SocialDb := do
  foreignKeys (db.communityMeetups.has meetupId ∧ db.accounts.users.has userId)
  let communityMeetupParticipants ← ofRefusal (db.communityMeetupParticipants.create
    { id := env.idFor db.communityMeetupParticipants
      meetupId
      userId })
  return { db with communityMeetupParticipants }

/-- The transaction of `create`. -/
def meetupCreated (communityId eventId creatorId : String) (dto : CreateMeetupDto)
    (startsAt : Time) (client : Client) (env : AuthEnv) (db : SocialDb) :
    Except AuthError (SocialDb × CommunityMeetup) := do
  foreignKeys (db.communities.has communityId ∧ db.events.has eventId ∧
    db.accounts.users.has creatorId)
  let endsAt ← dateGiven "endsAt" dto.endsAt
  let m := newMeetup (env.idFor db.communityMeetups) communityId eventId creatorId dto startsAt
    endsAt env.now
  let communityMeetups ← ofRefusal (db.communityMeetups.create m)
  let db ← participantAdded m.id creatorId env { db with communityMeetups }
  let db ← enqueued
    { eventType := "COMMUNITY_MEETUP_CREATED"
      aggregateType := "COMMUNITY_MEETUP"
      aggregateId := m.id
      payload := [("meetupId", .str m.id), ("communityId", .str communityId),
        ("eventId", .str eventId), ("creatorId", .str creatorId), ("title", .str m.title)] } env db
  let db ← audited
    { actorUserId := some creatorId
      action := "COMMUNITY_MEETUP_CREATE"
      resourceType := "COMMUNITY_MEETUP"
      resourceId := some m.id
      metadata := [("communityId", .str communityId), ("title", .str m.title)] } client env db
  return (db, m)

/-- `endsAt <= startsAt`, which is false of an invalid date. -/
def endsBefore (startsAt : Time) (endsAt : Option (Option Time)) : Bool :=
  endsAt.join.any fun endsAt ↦ endsAt ≤ startsAt

def create (communityId creatorId : String) (dto : CreateMeetupDto) (client : Client) :
    SocialCall MeetupResponseDto := do
  let (community, _) ← CommunityAuthorizationService.assertActiveMember creatorId communityId
  let startsAt ← Call.returned (present dto.startsAt
    (refusal .badRequest "Invalid startsAt timestamp"))
  Call.returned (demand (endsBefore startsAt dto.endsAt = false)
    (refusal .badRequest "endsAt must be after startsAt"))
  let event ← Call.reads "event.findUnique" fun _ (db : SocialDb) ↦
    db.events.get? community.eventId
  -- up to seven days after the event
  Call.returned (demand (∀ e ∈ event, e.startsAt ≤ startsAt ∧
      startsAt ≤ e.endsAt + 7 * 24 * 60 * 60 * 1000) (refusal .badRequest
    "Meetup startsAt must fall within or immediately after (up to 7 days) the parent event timeframe"))
  let meetup ← Call.writes "$transaction"
    (meetupCreated communityId community.eventId creatorId dto startsAt client)
  let creator ← Call.reads "user.findUnique" fun _ ↦ userSummary creatorId
  return mapToResponseDto meetup creator true

/-- `communityMeetup.update({ where: { id }, data: { participantCount: { increment: change } } })` -/
def participantsMoved (meetupId : String) (change : ℤ) (env : AuthEnv) (db : SocialDb) :
    Except AuthError SocialDb := do
  let communityMeetups ← ofRefusal (db.communityMeetups.update meetupId fun m ↦
    { m with
      participantCount := m.participantCount + change
      updatedAt := env.now })
  return { db with communityMeetups }

/-- Whether the meetup, as it is locked, takes one more participant. -/
def assertJoinable (m : CommunityMeetup) (existing : Option CommunityMeetupParticipant) :
    Except AuthError Unit := do
  demand (m.status = .scheduled) (refusal .conflict "Cannot join a meetup that is not scheduled")
  demand existing.isNone
    (refusal .conflict "You are already registered as a participant in this meetup")
  demand (∀ limit ∈ m.participantLimit, m.participantCount < limit)
    (refusal .conflict "Meetup has reached its maximum participant capacity")

/-- The transaction of `join`, which holds the lock of the meetup. -/
def meetupJoined (communityId meetupId userId : String) (env : AuthEnv) (db : SocialDb) :
    Except AuthError (SocialDb × CommunityMeetup) := do
  let m ← present (existingMeetup communityId meetupId db)
    (refusal .notFound "Meetup not found in this community")
  assertJoinable m (participationOf meetupId userId db)
  let db ← participantAdded meetupId userId env db
  let db ← participantsMoved meetupId 1 env db
  let updated ← present (db.communityMeetups.get? meetupId) (.prisma .recordNotFound)
  let db ← enqueued
    { eventType := "COMMUNITY_MEETUP_JOINED"
      aggregateType := "COMMUNITY_MEETUP"
      aggregateId := meetupId
      payload := [("meetupId", .str meetupId), ("communityId", .str communityId),
        ("userId", .str userId)] } env db
  return (db, updated)

def join (communityId meetupId userId : String) : SocialCall MeetupResponseDto := do
  let _ ← CommunityAuthorizationService.assertActiveMember userId communityId
  let meetup ← Call.writes "$transaction" (meetupJoined communityId meetupId userId)
  let creator ← Call.reads "user.findUnique" fun _ ↦ userSummary meetup.createdById
  return mapToResponseDto meetup creator true

/-- The transaction of `leave`, with the participation as it was found. -/
def meetupLeft (communityId meetupId userId participantId : String) (env : AuthEnv)
    (db : SocialDb) : Except AuthError (SocialDb × Unit) := do
  let communityMeetupParticipants ←
    ofRefusal (db.communityMeetupParticipants.delete participantId)
  let db ← participantsMoved meetupId (-1) env { db with communityMeetupParticipants }
  let db ← enqueued
    { eventType := "COMMUNITY_MEETUP_LEFT"
      aggregateType := "COMMUNITY_MEETUP"
      aggregateId := meetupId
      payload := [("meetupId", .str meetupId), ("communityId", .str communityId),
        ("userId", .str userId)] } env db
  return (db, ())

def leave (communityId meetupId userId : String) : SocialCall MessageDto := do
  let _ ← CommunityAuthorizationService.assertActiveMember userId communityId
  let found ← Call.reads "communityMeetup.findFirst" fun _ ↦ existingMeetup communityId meetupId
  let meetup ← Call.returned (present found (refusal .notFound "Meetup not found"))
  Call.returned (demand (meetup.createdById ≠ userId) (refusal .badRequest
    "The meetup creator cannot leave the meetup. Cancel the meetup instead."))
  let found ← Call.reads "communityMeetupParticipant.findUnique" fun _ ↦
    participationOf meetupId userId
  let existing ← Call.returned (present found
    (refusal .notFound "You are not registered for this meetup"))
  Call.writes "$transaction" (meetupLeft communityId meetupId userId existing.id)
  return ⟨true, "Successfully left the meetup"⟩

/-- The creator may change a meetup, and who may manage the community. -/
def assertCanChange (communityId userId : String) (userRoles : List String)
    (meetup : CommunityMeetup) : SocialCall Unit :=
  if meetup.createdById = userId ∨ "ADMIN" ∈ userRoles then return
  else do
    let _ ← CommunityAuthorizationService.assertCanManageCommunity userId userRoles communityId
    return

/-- `communityMeetup.update`, which returns the new row. -/
def meetupUpdate (meetupId : String) (dto : UpdateMeetupDto) (env : AuthEnv) (db : SocialDb) :
    Except AuthError (SocialDb × (CommunityMeetup × Option UserSummary)) := do
  let title ← Events.given "title" dto.title
  let description ← Events.given "description" dto.description
  let startsAt ← dateGiven "startsAt" dto.startsAt
  let endsAt ← dateGiven "endsAt" dto.endsAt.join
  let location ← Events.given "location" dto.location
  let status ← Events.given "status" dto.status
  let communityMeetups ← ofRefusal (db.communityMeetups.update meetupId fun m ↦
    { m with
      title := title.getD m.title
      description := description.getD m.description
      startsAt := startsAt.getD m.startsAt
      endsAt := if dto.endsAt.isSome then endsAt else m.endsAt
      location := location.getD m.location
      mapUrl := dto.mapUrl.getD m.mapUrl
      participantLimit := dto.participantLimit.getD m.participantLimit
      status := status.getD m.status
      updatedAt := env.now })
  let updated ← present (communityMeetups.get? meetupId) (.prisma .recordNotFound)
  return ({ db with communityMeetups }, updated, userSummary updated.createdById db)

def update (communityId meetupId userId : String) (userRoles : List String)
    (dto : UpdateMeetupDto) : SocialCall MeetupResponseDto := do
  let found ← Call.reads "communityMeetup.findFirst" fun _ ↦ existingMeetup communityId meetupId
  let meetup ← Call.returned (present found (refusal .notFound "Meetup not found"))
  assertCanChange communityId userId userRoles meetup
  let (updated, creator) ← Call.writes "communityMeetup.update" (meetupUpdate meetupId dto)
  return mapToResponseDto updated creator true

/-- The transaction of `cancel`. -/
def meetupCancelled (communityId meetupId userId : String) (client : Client) (env : AuthEnv)
    (db : SocialDb) : Except AuthError (SocialDb × Unit) := do
  let communityMeetups ← ofRefusal (db.communityMeetups.update meetupId fun m ↦
    { m with
      status := .cancelled
      updatedAt := env.now })
  let db ← enqueued
    { eventType := "COMMUNITY_MEETUP_STATUS_UPDATED"
      aggregateType := "COMMUNITY_MEETUP"
      aggregateId := meetupId
      payload := [("meetupId", .str meetupId), ("communityId", .str communityId),
        ("status", .str "CANCELLED")] } env { db with communityMeetups }
  let db ← audited
    { actorUserId := some userId
      action := "COMMUNITY_MEETUP_CANCEL"
      resourceType := "COMMUNITY_MEETUP"
      resourceId := some meetupId
      metadata := [("communityId", .str communityId)] } client env db
  return (db, ())

def cancel (communityId meetupId userId : String) (userRoles : List String) (client : Client) :
    SocialCall MessageDto := do
  let found ← Call.reads "communityMeetup.findFirst" fun _ ↦ existingMeetup communityId meetupId
  let meetup ← Call.returned (present found (refusal .notFound "Meetup not found"))
  assertCanChange communityId userId userRoles meetup
  Call.writes "$transaction" (meetupCancelled communityId meetupId userId client)
  return ⟨true, "Meetup cancelled successfully"⟩

/-- A meetup is changed and its number of participants moves by `change`; its creator stays. -/
def MeetupChanged (meetupId : String) (change : ℤ) (db db' : SocialDb) : Prop :=
  ∃ f : CommunityMeetup → CommunityMeetup,
    db.communityMeetups.update meetupId f = .ok db'.communityMeetups ∧
      ∀ m, (f m).id = m.id ∧ (f m).createdById = m.createdById ∧
        (f m).participantCount = m.participantCount + change

section Statements

variable {communityId eventId creatorId meetupId userId participantId : String}
  {dto : CreateMeetupDto} {startsAt : Time} {client : Client} {env : AuthEnv} {db db' : SocialDb}
  {change : ℤ}

theorem participantAdded_eq (h : participantAdded meetupId userId env db = .ok db') :
    db.communityMeetupParticipants.create
      ⟨env.idFor db.communityMeetupParticipants, meetupId, userId⟩ =
        .ok db'.communityMeetupParticipants ∧ db'.communityMeetups = db.communityMeetups := by
  obtain ⟨_, -, h⟩ := andThen_eq_ok.mp h
  obtain ⟨participants, hcreate, h⟩ := andThen_eq_ok.mp h
  cases h
  exact ⟨ofRefusal_eq_ok.mp hcreate, rfl⟩

theorem participantsMoved_eq (h : participantsMoved meetupId change env db = .ok db') :
    MeetupChanged meetupId change db db' ∧
      db'.communityMeetupParticipants = db.communityMeetupParticipants ∧
        ∀ m ∈ db'.communityMeetups.get? meetupId, ∃ old ∈ db.communityMeetups.get? meetupId,
          m.participantLimit = old.participantLimit ∧
            m.participantCount = old.participantCount + change := by
  obtain ⟨meetups, hupdate, h⟩ := andThen_eq_ok.mp h
  cases h
  have hupdate := ofRefusal_eq_ok.mp hupdate
  refine ⟨⟨_, hupdate, fun m ↦ ⟨rfl, rfl, rfl⟩⟩, rfl, fun m hm ↦ ?_⟩
  rw [Table.get?_update hupdate fun _ ↦ rfl, if_pos rfl] at hm
  obtain ⟨old, hold, rfl⟩ := Option.map_eq_some_iff.mp hm
  exact ⟨old, hold, rfl, rfl⟩

/-- The transaction of `create` adds a meetup, in which the creator takes part. -/
theorem meetupCreated_eq {m : CommunityMeetup}
    (h : meetupCreated communityId eventId creatorId dto startsAt client env db = .ok (db', m)) :
    db.communityMeetups.create m = .ok db'.communityMeetups ∧ m.createdById = creatorId ∧
      m.participantCount = 1 ∧
        db.communityMeetupParticipants.create
          ⟨env.idFor db.communityMeetupParticipants, m.id, creatorId⟩ =
            .ok db'.communityMeetupParticipants := by
  obtain ⟨_, -, h⟩ := andThen_eq_ok.mp h
  obtain ⟨endsAt, -, h⟩ := andThen_eq_ok.mp h
  obtain ⟨meetups, hcreate, h⟩ := andThen_eq_ok.mp h
  obtain ⟨db₁, hadded, h⟩ := andThen_eq_ok.mp h
  obtain ⟨db₂, hevent, h⟩ := andThen_eq_ok.mp h
  obtain ⟨db₃, haudit, h⟩ := andThen_eq_ok.mp h
  obtain ⟨hparticipant, hmeetups⟩ := participantAdded_eq hadded
  obtain ⟨accounts, rfl⟩ := enqueued_eq_ok hevent
  obtain ⟨accounts', rfl⟩ := audited_eq_ok haudit
  cases h
  refine ⟨?_, rfl, rfl, hparticipant⟩
  show _ = Except.ok db₁.communityMeetups
  rw [hmeetups]
  exact ofRefusal_eq_ok.mp hcreate

/-- The transaction of `join` keeps to the limit that the meetup has. -/
theorem meetupJoined_eq {m : CommunityMeetup}
    (h : meetupJoined communityId meetupId userId env db = .ok (db', m)) :
    db.communityMeetupParticipants.create
      ⟨env.idFor db.communityMeetupParticipants, meetupId, userId⟩ =
        .ok db'.communityMeetupParticipants ∧
      MeetupChanged meetupId 1 db db' ∧
        ∀ m ∈ db'.communityMeetups.get? meetupId, ∀ limit ∈ m.participantLimit,
          m.participantCount ≤ limit := by
  obtain ⟨locked, hlocked, h⟩ := andThen_eq_ok.mp h
  obtain ⟨_, hjoinable, h⟩ := andThen_eq_ok.mp h
  obtain ⟨db₁, hadded, h⟩ := andThen_eq_ok.mp h
  obtain ⟨db₂, hmoved, h⟩ := andThen_eq_ok.mp h
  obtain ⟨updated, -, h⟩ := andThen_eq_ok.mp h
  obtain ⟨db₃, hevent, h⟩ := andThen_eq_ok.mp h
  obtain ⟨hparticipant, hmeetups⟩ := participantAdded_eq hadded
  obtain ⟨⟨f, hupdate, hf⟩, hkept, hcount⟩ := participantsMoved_eq hmoved
  obtain ⟨accounts, rfl⟩ := enqueued_eq_ok hevent
  cases h
  refine ⟨?_, ⟨f, ?_, hf⟩, ?_⟩
  · show _ = Except.ok db₂.communityMeetupParticipants
    rw [hkept]
    exact hparticipant
  · show _ = Except.ok db₂.communityMeetups
    rw [← hmeetups]
    exact hupdate
  · show ∀ m ∈ db₂.communityMeetups.get? meetupId, _
    intro m hm limit hlimit
    obtain ⟨old, hold, hsame, hone⟩ := hcount m hm
    obtain ⟨hfound, -⟩ := Option.filter_eq_some_iff.mp (present_eq_ok.mp hlocked)
    rw [hmeetups] at hold
    cases hold.symm.trans hfound
    obtain ⟨_, -, hjoinable⟩ := andThen_eq_ok.mp hjoinable
    obtain ⟨_, -, hroom⟩ := andThen_eq_ok.mp hjoinable
    have hless := demand_eq_ok.mp hroom limit (hsame ▸ hlimit)
    omega

/-- The transaction of `leave` deletes the participant that was found before. -/
theorem meetupLeft_eq {u : Unit}
    (h : meetupLeft communityId meetupId userId participantId env db = .ok (db', u)) :
    db.communityMeetupParticipants.delete participantId = .ok db'.communityMeetupParticipants ∧
      MeetupChanged meetupId (-1) db db' := by
  obtain ⟨participants, hdelete, h⟩ := andThen_eq_ok.mp h
  obtain ⟨db₁, hmoved, h⟩ := andThen_eq_ok.mp h
  obtain ⟨db₂, hevent, h⟩ := andThen_eq_ok.mp h
  obtain ⟨⟨f, hupdate, hf⟩, hkept, -⟩ := participantsMoved_eq hmoved
  obtain ⟨accounts, rfl⟩ := enqueued_eq_ok hevent
  cases h
  refine ⟨?_, f, hupdate, hf⟩
  show _ = Except.ok db₁.communityMeetupParticipants
  rw [hkept]
  exact ofRefusal_eq_ok.mp hdelete

theorem meetupUpdate_eq {dto : UpdateMeetupDto} {a : CommunityMeetup × Option UserSummary}
    (h : meetupUpdate meetupId dto env db = .ok (db', a)) :
    MeetupChanged meetupId 0 db db' ∧
      db'.communityMeetupParticipants = db.communityMeetupParticipants := by
  obtain ⟨title, -, h⟩ := andThen_eq_ok.mp h
  obtain ⟨description, -, h⟩ := andThen_eq_ok.mp h
  obtain ⟨startsAt, -, h⟩ := andThen_eq_ok.mp h
  obtain ⟨endsAt, -, h⟩ := andThen_eq_ok.mp h
  obtain ⟨location, -, h⟩ := andThen_eq_ok.mp h
  obtain ⟨status, -, h⟩ := andThen_eq_ok.mp h
  obtain ⟨meetups, hupdate, h⟩ := andThen_eq_ok.mp h
  obtain ⟨updated, -, h⟩ := andThen_eq_ok.mp h
  cases h
  exact ⟨⟨_, ofRefusal_eq_ok.mp hupdate, fun m ↦ ⟨rfl, rfl, (add_zero _).symm⟩⟩, rfl⟩

theorem meetupCancelled_eq {u : Unit}
    (h : meetupCancelled communityId meetupId userId client env db = .ok (db', u)) :
    MeetupChanged meetupId 0 db db' ∧
      db'.communityMeetupParticipants = db.communityMeetupParticipants := by
  obtain ⟨meetups, hupdate, h⟩ := andThen_eq_ok.mp h
  obtain ⟨db₁, hevent, h⟩ := andThen_eq_ok.mp h
  obtain ⟨db₂, haudit, h⟩ := andThen_eq_ok.mp h
  obtain ⟨accounts, rfl⟩ := enqueued_eq_ok hevent
  obtain ⟨accounts', rfl⟩ := audited_eq_ok haudit
  cases h
  exact ⟨⟨_, ofRefusal_eq_ok.mp hupdate, fun m ↦ ⟨rfl, rfl, (add_zero _).symm⟩⟩, rfl⟩

end Statements

end CommunityMeetupsService

end Innovents.Communities.Social
