import Innovents.Communities.Social.Schema

namespace Innovents.Communities.Social

open Innovents.Lib Innovents.Auth Innovents.Platform
open Innovents.Payments (Time CommunityType CommunityVisibility CommunityStatus CommunityMemberRole
  CommunityMemberStatus CommunitySponsorship)

structure CommunityResponseDto where
  id : String
  eventId : String
  createdById : String
  name : String
  bio : String
  description : String
  category : String
  type : CommunityType
  visibility : CommunityVisibility
  status : CommunityStatus
  coverImageUrl : Option String
  language : Option String
  memberCapacity : ℤ
  memberCount : ℤ
  isSponsored : Bool
  isPinned : Bool
  createdAt : Time
  updatedAt : Time
  creator : Option UserSummary
  currentUserRole : Option CommunityMemberRole
  isMember : Bool

structure CommunityMemberResponseDto where
  id : String
  communityId : String
  userId : String
  role : CommunityMemberRole
  status : CommunityMemberStatus
  joinedAt : Time
  leftAt : Option Time
  bannedAt : Option Time
  user : Option UserSummary

/-- Any role of the enumeration is admitted. -/
structure UpdateMemberRoleDto where
  role : CommunityMemberRole

def roleText : CommunityMemberRole → String
  | .owner => "OWNER"
  | .moderator => "MODERATOR"
  | .speaker => "SPEAKER"
  | .member => "MEMBER"

/-- `user.findFirst({ where: { id, deletedAt: null } })`, if the user is active. -/
def activeUser (userId refused : String) : SocialCall User := do
  let found ← Call.reads "user.findFirst" fun _ (db : SocialDb) ↦
    (db.accounts.users.get? userId).filter (·.deletedAt.isNone)
  Call.returned (present (found.filter (·.status = .active)) (refusal .forbidden refused))

namespace CommunitiesService

def mapToResponseDto (comm : Community) (creator : Option UserSummary)
    (currentUserRole : Option CommunityMemberRole) (isMember : Bool) : CommunityResponseDto where
  id := comm.id
  eventId := comm.eventId
  createdById := comm.createdById
  name := comm.name
  bio := comm.bio
  description := comm.description
  category := comm.category
  type := comm.type
  visibility := comm.visibility
  status := comm.status
  coverImageUrl := comm.coverImageUrl
  language := comm.language
  memberCapacity := comm.memberCapacity
  memberCount := comm.memberCount
  isSponsored := comm.isSponsored
  isPinned := comm.isPinned
  createdAt := comm.createdAt
  updatedAt := comm.updatedAt
  creator
  currentUserRole
  isMember

def newCommunity (id userId : String) (dto : CreateCommunityDto) (now : Time) : Community where
  id
  eventId := dto.eventId
  createdById := userId
  name := dto.name
  bio := dto.bio
  description := dto.description
  category := dto.category
  type := dto.type.getD .free
  visibility := dto.visibility.getD .isPublic
  status := .active
  coverImageUrl := dto.coverImageUrl
  language := dto.language
  memberCapacity := Communities.CommunitiesService.newCapacity dto
  memberCount := 1
  isSponsored := Communities.CommunitiesService.isSponsoredType dto
  isPinned := Communities.CommunitiesService.isSponsoredType dto
  deletedAt := none
  createdAt := now
  updatedAt := now

/-- A new membership of a community. -/
def newMember (id communityId userId : String) (role : CommunityMemberRole) (now : Time) :
    CommunityMember where
  id
  communityId
  userId
  role
  status := .active
  joinedAt := now
  leftAt := none
  bannedAt := none
  bannedBy := none

/-- The transaction that creates a community with its owner. -/
def communityCreate (userId : String) (dto : CreateCommunityDto) (client : Client) (env : AuthEnv)
    (db : SocialDb) : Except AuthError (SocialDb × Community) := do
  let community := newCommunity (env.idFor db.communities) userId dto env.now
  foreignKeys (db.events.has community.eventId ∧ db.accounts.users.has userId)
  let communities ← ofRefusal (db.communities.create community)
  let communityMembers ← ofRefusal (db.communityMembers.create
    (newMember (env.idFor db.communityMembers) community.id userId .owner env.now))
  let db ← enqueued
    { eventType := "COMMUNITY_CREATED"
      aggregateType := "COMMUNITY"
      aggregateId := community.id
      payload := [("communityId", .str community.id), ("eventId", .str community.eventId),
        ("createdById", .str userId), ("type", .str (typeText community.type)),
        ("name", .str community.name), ("visibility", .str (visibilityText community.visibility))] }
    env { db with communities, communityMembers }
  let db ← audited
    { actorUserId := some userId
      action := "COMMUNITY_CREATE"
      resourceType := "COMMUNITY"
      resourceId := some community.id
      metadata := [("eventId", .str community.eventId), ("type", .str (typeText community.type)),
        ("name", .str community.name), ("visibility", .str (visibilityText community.visibility))] }
    client env db
  return (db, community)

def create (userId : String) (userRoles : List String) (dto : CreateCommunityDto)
    (client : Client) : SocialCall CommunityResponseDto := do
  let creator ← activeUser userId "Only active users can create communities"
  let event ← Call.reads "event.findFirst" fun _ (db : SocialDb) ↦
    (db.events.get? dto.eventId).filter (·.deletedAt.isNone)
  Call.returned (demand event.isSome (refusal .notFound "Target event not found"))
  Call.returned (demand
    (Communities.CommunitiesService.isSponsoredType dto → "SPONSOR" ∈ userRoles ∨ "ADMIN" ∈ userRoles)
    (refusal .forbidden "Only users with role SPONSOR or ADMIN can create sponsored communities"))
  let community ← Call.writes "$transaction" (communityCreate userId dto client)
  return mapToResponseDto community (some ⟨creator.id, creator.email⟩) (some .owner) true

end CommunitiesService

namespace CommunityMembersService

def mapToResponseDto (member : CommunityMember) (user : Option UserSummary) :
    CommunityMemberResponseDto where
  id := member.id
  communityId := member.communityId
  userId := member.userId
  role := member.role
  status := member.status
  joinedAt := member.joinedAt
  leftAt := member.leftAt
  bannedAt := member.bannedAt
  user

/-- `communitySponsorship.findFirst({ where: { communityId, status: ACTIVE, endsAt: { gt: now } } })` -/
def activeSponsorship (communityId : String) (now : Time) (db : SocialDb) :
    Option CommunitySponsorship :=
  db.communitySponsorships.find? fun s ↦ s.communityId == communityId && s.isRunning now

/-- What `join` computes as the capacity of the community. -/
def effectiveCapacityAt (communityId : String) (now : Time) (db : SocialDb) : ℤ :=
  Communities.CommunityMembersService.effectiveCapacity (activeSponsorship communityId now db)

/-- A membership that was left is taken up again, otherwise there is a new one. -/
def membershipStored (communityId userId : String) (existing : Option CommunityMember)
    (env : AuthEnv) (db : SocialDb) : Except AuthError (Table CommunityMember × CommunityMember) :=
  match existing.filter (·.status = .left) with
  | some old => do
    let communityMembers ← ofRefusal (db.communityMembers.update old.id fun m ↦
      { m with
        status := .active
        leftAt := none
        joinedAt := env.now })
    let saved ← present (communityMembers.get? old.id) (.prisma .recordNotFound)
    return (communityMembers, saved)
  | none => do
    foreignKeys (db.accounts.users.has userId)
    let saved := CommunitiesService.newMember (env.idFor db.communityMembers) communityId userId
      .member env.now
    let communityMembers ← ofRefusal (db.communityMembers.create saved)
    return (communityMembers, saved)

/-- `memberCount: { increment }` -/
def countMoved (communityId : String) (change : ℤ) (env : AuthEnv) (communities : Table Community) :
    Except AuthError (Table Community) :=
  ofRefusal (communities.update communityId fun c ↦
    { c with
      memberCount := c.memberCount + change
      updatedAt := env.now })

/-- What a transaction on a membership reports to the outbox and to the audit log. -/
def reported (eventType action aggregateId actorUserId : String)
    (payload metadata : List (String × JsValue)) (client : Client) (env : AuthEnv) (db : SocialDb) :
    Except AuthError SocialDb := do
  let db ← enqueued
    { eventType
      aggregateType := "COMMUNITY_MEMBER"
      aggregateId
      payload } env db
  audited
    { actorUserId := some actorUserId
      action
      resourceType := "COMMUNITY_MEMBER"
      resourceId := some aggregateId
      metadata } client env db

/-- Whether a user with the membership `existing`, if there is one, may join. -/
def assertJoinable (community : Community) (userRoles : List String)
    (existing : Option CommunityMember) (capacity : ℤ) : Except AuthError Unit := do
  demand (community.status = .active) (refusal .conflict "Community is not active")
  demand (community.visibility = .isPrivate → "ADMIN" ∈ userRoles)
    (refusal .forbidden "Private communities require an invitation to join")
  demand (∀ m ∈ existing, m.status ≠ .active)
    (refusal .conflict "You are already an active member of this community")
  demand (∀ m ∈ existing, m.status ≠ .banned)
    (refusal .conflict "You have been banned from this community")
  demand (community.memberCount < capacity)
    (refusal .conflict "Community has reached its maximum member capacity")

/-- The transaction of a join, which holds the lock of the community. -/
def joined (userId communityId : String) (userRoles : List String) (client : Client) (env : AuthEnv)
    (db : SocialDb) : Except AuthError (SocialDb × CommunityMember) := do
  let community ← present (existingCommunity communityId db)
    (refusal .notFound "Community not found")
  let existing := membershipOf communityId userId db
  assertJoinable community userRoles existing (effectiveCapacityAt communityId env.now db)
  let (communityMembers, saved) ← membershipStored communityId userId existing env db
  let communities ← countMoved communityId 1 env db.communities
  let db ← reported "COMMUNITY_MEMBER_JOINED" "COMMUNITY_MEMBER_JOIN" saved.id userId
    [("communityId", .str communityId), ("userId", .str userId), ("memberId", .str saved.id)]
    [("communityId", .str communityId)] client env { db with communityMembers, communities }
  return (db, saved)

def join (userId communityId : String) (userRoles : List String) (client : Client) :
    SocialCall CommunityMemberResponseDto := do
  let user ← activeUser userId "Only active users can join communities"
  let member ← Call.writes "$transaction" (joined userId communityId userRoles client)
  return mapToResponseDto member (some ⟨user.id, user.email⟩)

/-- The transaction of a leave, with the membership as it was found. -/
def memberLeft (userId communityId membershipId : String) (client : Client) (env : AuthEnv)
    (db : SocialDb) : Except AuthError (SocialDb × Unit) := do
  let communityMembers ← ofRefusal (db.communityMembers.update membershipId fun m ↦
    { m with
      status := .left
      leftAt := some env.now })
  let communities ← countMoved communityId (-1) env db.communities
  let db ← reported "COMMUNITY_MEMBER_LEFT" "COMMUNITY_MEMBER_LEAVE" membershipId userId
    [("communityId", .str communityId), ("userId", .str userId)]
    [("communityId", .str communityId)] client env { db with communityMembers, communities }
  return (db, ())

def leave (userId communityId : String) (client : Client) : SocialCall MessageDto := do
  let found ← Call.reads "communityMember.findUnique" fun _ ↦ membershipOf communityId userId
  let existing ← Call.returned (present (found.filter (·.status = .active))
    (refusal .notFound "Active membership not found"))
  Call.returned (demand (existing.role ≠ .owner) (refusal .badRequest "Community owner cannot leave without transferring ownership or deleting the community"))
  Call.writes "$transaction" (memberLeft userId communityId existing.id client)
  return ⟨true, "Successfully left the community"⟩

/-- The transaction of a change of a role. -/
def roleUpdated (communityId targetUserId operatorUserId membershipId : String)
    (dto : UpdateMemberRoleDto) (client : Client) (env : AuthEnv) (db : SocialDb) :
    Except AuthError (SocialDb × CommunityMember) := do
  let communityMembers ← ofRefusal (db.communityMembers.update membershipId fun m ↦
    { m with role := dto.role })
  let updated ← present (communityMembers.get? membershipId) (.prisma .recordNotFound)
  let db ← reported "COMMUNITY_MEMBER_ROLE_UPDATED" "COMMUNITY_MEMBER_ROLE_UPDATE" membershipId
    operatorUserId [("communityId", .str communityId), ("targetUserId", .str targetUserId),
      ("newRole", .str (roleText dto.role)), ("updatedBy", .str operatorUserId)]
    [("newRole", .str (roleText dto.role))] client env { db with communityMembers }
  return (db, updated)

def updateRole (communityId targetUserId operatorUserId : String) (operatorRoles : List String)
    (dto : UpdateMemberRoleDto) (client : Client) : SocialCall CommunityMemberResponseDto := do
  let _ ← CommunityAuthorizationService.assertCanManageCommunity operatorUserId operatorRoles
    communityId
  Call.returned (demand (targetUserId ≠ operatorUserId)
    (refusal .badRequest "Cannot modify your own owner role directly"))
  let (found, user) ← Call.reads "communityMember.findUnique" fun _ db ↦
    (membershipOf communityId targetUserId db, userSummary targetUserId db)
  let targetMember ← Call.returned (present (found.filter (·.status = .active))
    (refusal .notFound "Active member not found"))
  let updated ← Call.writes "$transaction"
    (roleUpdated communityId targetUserId operatorUserId targetMember.id dto client)
  return mapToResponseDto updated user

/-- The counter after a ban, if the member was found active. -/
def banCounted (communityId : String) (targetMember : CommunityMember) (env : AuthEnv)
    (communities : Table Community) : Except AuthError (Table Community) :=
  if targetMember.status = .active then countMoved communityId (-1) env communities
  else .ok communities

/-- The transaction of a ban, with the membership as it was found. -/
def memberBanned (communityId targetUserId operatorUserId : String) (targetMember : CommunityMember)
    (client : Client) (env : AuthEnv) (db : SocialDb) : Except AuthError (SocialDb × Unit) := do
  let communityMembers ← ofRefusal (db.communityMembers.update targetMember.id fun m ↦
    { m with
      status := .banned
      bannedAt := some env.now
      bannedBy := some operatorUserId })
  let communities ← banCounted communityId targetMember env db.communities
  let db ← reported "COMMUNITY_MEMBER_BANNED" "COMMUNITY_MEMBER_BAN" targetMember.id operatorUserId
    [("communityId", .str communityId), ("targetUserId", .str targetUserId),
      ("bannedBy", .str operatorUserId)]
    [("targetUserId", .str targetUserId), ("communityId", .str communityId)] client env
    { db with communityMembers, communities }
  return (db, ())

/-- Whether someone who moderates in the role `operatorRole` may ban the member. -/
def assertBannable (targetMember : CommunityMember) (operatorRole : CommunityMemberRole)
    (operatorRoles : List String) : Except AuthError Unit := do
  demand (targetMember.role ≠ .owner) (refusal .forbidden "The community owner cannot be banned")
  demand (¬(targetMember.role = .moderator ∧ operatorRole = .moderator ∧ "ADMIN" ∉ operatorRoles))
    (refusal .forbidden "Moderators cannot ban fellow moderators")

def banMember (communityId targetUserId operatorUserId : String) (operatorRoles : List String)
    (client : Client) : SocialCall MessageDto := do
  let (_, operatorRole) ← CommunityAuthorizationService.assertCanModerateCommunity operatorUserId
    operatorRoles communityId
  Call.returned (demand (targetUserId ≠ operatorUserId)
    (refusal .badRequest "You cannot ban yourself"))
  let found ← Call.reads "communityMember.findUnique" fun _ ↦ membershipOf communityId targetUserId
  let targetMember ← Call.returned (present found (refusal .notFound "Community member not found"))
  Call.returned (assertBannable targetMember operatorRole operatorRoles)
  Call.writes "$transaction" (memberBanned communityId targetUserId operatorUserId targetMember client)
  return ⟨true, "Member has been banned from the community"⟩

/-- The transaction that lifts a ban. -/
def memberUnbanned (communityId targetUserId operatorUserId membershipId : String) (client : Client)
    (env : AuthEnv) (db : SocialDb) : Except AuthError (SocialDb × Unit) := do
  let communityMembers ← ofRefusal (db.communityMembers.update membershipId fun m ↦
    { m with
      status := .left
      bannedAt := none
      bannedBy := none
      leftAt := some env.now })
  let db ← reported "COMMUNITY_MEMBER_UNBANNED" "COMMUNITY_MEMBER_UNBAN" membershipId operatorUserId
    [("communityId", .str communityId), ("targetUserId", .str targetUserId),
      ("unbannedBy", .str operatorUserId)]
    [("targetUserId", .str targetUserId), ("communityId", .str communityId)] client env
    { db with communityMembers }
  return (db, ())

def unbanMember (communityId targetUserId operatorUserId : String) (operatorRoles : List String)
    (client : Client) : SocialCall MessageDto := do
  let _ ← CommunityAuthorizationService.assertCanModerateCommunity operatorUserId operatorRoles
    communityId
  let found ← Call.reads "communityMember.findUnique" fun _ ↦ membershipOf communityId targetUserId
  let targetMember ← Call.returned (present (found.filter (·.status = .banned))
    (refusal .notFound "Banned member record not found"))
  Call.writes "$transaction"
    (memberUnbanned communityId targetUserId operatorUserId targetMember.id client)
  return ⟨true, "Member ban has been lifted"⟩

end CommunityMembersService

end Innovents.Communities.Social
