import Innovents.Payments.Calls

namespace Innovents.Communities

open Innovents.Lib Innovents.Payments

@[simp] def communityMemberTable : Relation CommunityMember :=
  ⟨Db.communityMembers, fun db t ↦ { db with communityMembers := t }⟩

/-- One membership for each user of a community. -/
def createCommunityMember (m : CommunityMember) (db : Db) : Except Err Db := do
  require (db.communities.has m.communityId && db.users.has m.userId) .foreignKey
  require (!db.communityMembers.rows.any fun n ↦
    n.communityId == m.communityId && n.userId == m.userId) (.prisma .uniqueConstraint)
  insert communityMemberTable m db

/-- An audit row written inside a transaction, as it is given. -/
def createAuditLog (env : Env) (actorUserId action resourceType resourceId : String)
    (metadata : List (String × JsValue)) (db : Db) : Except Err Db := do
  require (db.users.has actorUserId) .foreignKey
  insert auditLogTable
    { id := env.auditId
      actorUserId := some actorUserId
      action
      resourceType
      resourceId := some resourceId
      metadata := .obj metadata } db

/-- `COMMUNITY_LIMITS` -/
def freeCommunityMaxMembers : ℤ := 20

def defaultSponsoredCapacity : ℤ := 500

structure CreateCommunityDto where
  eventId : String
  name : String
  bio : String
  description : String
  category : String
  type : Option CommunityType
  visibility : Option CommunityVisibility
  coverImageUrl : Option String
  language : Option String
  memberCapacity : Option ℤ

structure UpdateCommunityDto where
  name : Option String
  bio : Option String
  description : Option String
  category : Option String
  visibility : Option CommunityVisibility
  coverImageUrl : Option String
  language : Option String
  memberCapacity : Option ℤ

def typeText : CommunityType → String
  | .free => "FREE"
  | .sponsored => "SPONSORED"

def visibilityText : CommunityVisibility → String
  | .isPublic => "PUBLIC"
  | .isPrivate => "PRIVATE"

/-- The fields of an update that are given, as JSON. -/
def UpdateCommunityDto.changes (dto : UpdateCommunityDto) : JsValue :=
  let text (key : String) (v : Option String) := v.toList.map fun s ↦ (key, JsValue.str s)
  .obj (text "name" dto.name ++ text "bio" dto.bio ++ text "description" dto.description ++
    text "category" dto.category ++ text "visibility" (dto.visibility.map visibilityText) ++
    text "coverImageUrl" dto.coverImageUrl ++ text "language" dto.language ++
    dto.memberCapacity.toList.map fun n ↦ ("memberCapacity", JsValue.num n))

namespace CommunitiesService

def isSponsoredType (dto : CreateCommunityDto) : Bool := dto.type == some .sponsored

def newCapacity (dto : CreateCommunityDto) : ℤ :=
  if isSponsoredType dto then dto.memberCapacity.getD defaultSponsoredCapacity
  else freeCommunityMaxMembers

def newCommunity (env : Env) (userId : String) (dto : CreateCommunityDto) : Community where
  id := env.communityId
  eventId := dto.eventId
  createdById := userId
  name := dto.name
  bio := dto.bio
  description := dto.description
  category := dto.category
  type := dto.type.getD .free
  visibility := dto.visibility.getD .isPublic
  status := .active
  coverImageUrl := dto.coverImageUrl
  language := dto.language
  memberCapacity := newCapacity dto
  memberCount := 1
  isSponsored := isSponsoredType dto
  isPinned := isSponsoredType dto
  deletedAt := none

def newOwner (env : Env) (userId : String) : CommunityMember :=
  ⟨env.memberId, env.communityId, userId, .owner, .active⟩

/-- The transaction that creates a community with its owner. -/
def createCommunity (userId : String) (dto : CreateCommunityDto) (env : Env) (db : Db) :
    Except Err (Db × Community) := do
  let community := newCommunity env userId dto
  require (db.events.has community.eventId && db.users.has userId) .foreignKey
  let db ← insert communityTable community db
  let db ← createCommunityMember (newOwner env userId) db
  let db ← enqueue env.outboxId env.now "COMMUNITY" community.id "COMMUNITY_CREATED"
    [("communityId", .str community.id), ("eventId", .str community.eventId),
      ("createdById", .str userId), ("type", .str (typeText community.type)),
      ("name", .str community.name), ("visibility", .str (visibilityText community.visibility))] db
  let db ← createAuditLog env userId "COMMUNITY_CREATE" "COMMUNITY" community.id
    [("eventId", .str community.eventId), ("type", .str (typeText community.type)),
      ("name", .str community.name), ("visibility", .str (visibilityText community.visibility))] db
  return (db, community)

def create (userId : String) (userRoles : List String) (dto : CreateCommunityDto) :
    Service Community := do
  query "user.findFirst" fun _ db ↦
    require (db.users.rows.any fun u ↦ u.id == userId && u.deletedAt.isNone && u.status == .active)
      (.forbidden "Only active users can create communities")
  query "event.findFirst" fun _ db ↦
    require (db.events.rows.any fun e ↦ e.id == dto.eventId && e.deletedAt.isNone)
      (.notFound "Target event not found")
  Call.returned (require (!isSponsoredType dto ||
      userRoles.contains "SPONSOR" || userRoles.contains "ADMIN")
    (.forbidden "Only users with role SPONSOR or ADMIN can create sponsored communities"))
  execute "$transaction" (createCommunity userId dto)

/-- `assertCanManageCommunity` -/
def managedCommunity (userId : String) (userRoles : List String) (communityId : String) (db : Db) :
    Except Err Community := do
  let community ← found
    (db.communities.find? fun c ↦ c.id == communityId && c.deletedAt.isNone)
    (.notFound "Community not found")
  require (userRoles.contains "ADMIN" || community.createdById == userId)
    (.forbidden "You do not have permission to manage this community")
  return community

/-- The capacity that an update writes, if it writes one. -/
def updatedCapacity (community : Community) (dto : UpdateCommunityDto) : Except Err (Option ℤ) :=
  match community.type with
  | .free =>
    if dto.memberCapacity.any (freeCommunityMaxMembers < ·) then
      .error (.forbidden "Free communities cannot have more than 20 member capacity")
    else .ok (some freeCommunityMaxMembers)
  | .sponsored => .ok dto.memberCapacity

def withChanges (dto : UpdateCommunityDto) (memberCapacity : Option ℤ) (c : Community) :
    Community :=
  { c with
    name := dto.name.getD c.name
    bio := dto.bio.getD c.bio
    description := dto.description.getD c.description
    category := dto.category.getD c.category
    visibility := dto.visibility.getD c.visibility
    coverImageUrl := dto.coverImageUrl.or c.coverImageUrl
    language := dto.language.or c.language
    memberCapacity := memberCapacity.getD c.memberCapacity }

/-- The transaction that updates a community. -/
def updateCommunity (communityId userId : String) (dto : UpdateCommunityDto)
    (memberCapacity : Option ℤ) (env : Env) (db : Db) : Except Err (Db × Community) := do
  let db ← modify communityTable communityId (withChanges dto memberCapacity) db
  let comm ← found (db.communities.get? communityId) .validation
  let db ← enqueue env.outboxId env.now "COMMUNITY" comm.id "COMMUNITY_UPDATED"
    [("communityId", .str comm.id), ("updatedBy", .str userId), ("changes", dto.changes)] db
  let db ← createAuditLog env userId "COMMUNITY_UPDATE" "COMMUNITY" comm.id
    [("changes", dto.changes)] db
  return (db, comm)

def update (communityId userId : String) (userRoles : List String) (dto : UpdateCommunityDto) :
    Service Community := do
  let community ← query "community.findFirst" fun _ db ↦
    managedCommunity userId userRoles communityId db
  let memberCapacity ← Call.returned (updatedCapacity community dto)
  execute "$transaction" (updateCommunity communityId userId dto memberCapacity)

section Run

variable {ok : Env → Prop} {env : Env} {userId communityId : String} {userRoles : List String}
  {db db' : Db} {r : Except Err Community}

theorem createAuditLog_writes {actorUserId action resourceType resourceId : String}
    {metadata : List (String × JsValue)}
    (h : createAuditLog env actorUserId action resourceType resourceId metadata db = .ok db') :
    ∃ t, db' = { db with auditLogs := t } := by
  simp only [createAuditLog, bind_eq_ok, insert_eq_ok] at h
  obtain ⟨_, _, t, _, rfl⟩ := h
  exact ⟨t, rfl⟩

theorem createCommunity_writes {dto : CreateCommunityDto} {community : Community}
    (h : createCommunity userId dto env db = .ok (db', community)) :
    db'.communities.rows = db.communities.rows ++ [newCommunity env userId dto] ∧
      db'.communitySponsorships = db.communitySponsorships := by
  simp only [createCommunity, createCommunityMember, bind_eq_ok, insert_eq_ok, enqueue_eq_ok,
    pure_eq_ok, Prod.mk.injEq] at h
  obtain ⟨_, _, _, ⟨t, ht, rfl⟩, _, ⟨_, _, _, _, m, _, rfl⟩, _, ⟨o, _, rfl⟩, _, haudit, rfl, _⟩ := h
  obtain ⟨a, rfl⟩ := createAuditLog_writes haudit
  exact ⟨ht, rfl⟩

theorem updateCommunity_writes {dto : UpdateCommunityDto} {memberCapacity : Option ℤ}
    {comm : Community}
    (h : updateCommunity communityId userId dto memberCapacity env db = .ok (db', comm)) :
    db'.communities.rows =
        Table.updateRows communityId (withChanges dto memberCapacity) db.communities.rows ∧
      db'.communitySponsorships = db.communitySponsorships := by
  simp only [updateCommunity, bind_eq_ok, modify_eq_ok, enqueue_eq_ok, pure_eq_ok,
    Prod.mk.injEq] at h
  obtain ⟨_, ⟨t, ⟨_, ht⟩, rfl⟩, _, _, _, ⟨o, _, rfl⟩, _, haudit, rfl, _⟩ := h
  obtain ⟨a, rfl⟩ := createAuditLog_writes haudit
  exact ⟨ht, rfl⟩

/-- A transaction that is refused changes nothing. -/
theorem execute_ran {α : Type} {name : String} {f : Env → Db → Except Err (Db × α)}
    {q : Except Err α} (h : (execute name f).Ran ok db q db') :
    db' = db ∨ ∃ env a, ok env ∧ f env db = .ok (db', a) := by
  obtain ⟨env, hok, _, rfl⟩ := Call.ran_perform.mp h
  cases hf : f env db with
  | error err => exact .inl rfl
  | ok q => exact .inr ⟨env, q.2, hok, hf⟩

theorem create_ran {dto : CreateCommunityDto} (h : (create userId userRoles dto).Ran ok db r db') :
    db' = db ∨ ∃ env, ok env ∧
      db'.communities.rows = db.communities.rows ++ [newCommunity env userId dto] ∧
      db'.communitySponsorships = db.communitySponsorships := by
  unfold create at h
  rcases Call.ran_bind.mp h with ⟨_, h₁, _⟩ | ⟨_, db₁, h₁, hrest₁⟩
  · obtain ⟨_, _, _, rfl⟩ := Call.ran_ask.mp h₁
    exact .inl rfl
  rcases Call.ran_bind.mp hrest₁ with ⟨_, h₂, _⟩ | ⟨_, db₂, h₂, hrest₂⟩
  · obtain ⟨_, _, _, rfl⟩ := Call.ran_ask.mp h₁
    obtain ⟨_, _, _, rfl⟩ := Call.ran_ask.mp h₂
    exact .inl rfl
  obtain ⟨_, _, _, rfl⟩ := Call.ran_ask.mp h₁
  obtain ⟨_, _, _, rfl⟩ := Call.ran_ask.mp h₂
  rcases Call.ran_bind.mp hrest₂ with ⟨_, h₃, _⟩ | ⟨_, db₃, h₃, hrest₃⟩
  · exact .inl (Call.ran_returned.mp h₃).2
  rw [(Call.ran_returned.mp h₃).2] at hrest₃
  rcases execute_ran hrest₃ with he | ⟨env, community, hok, hcreate⟩
  · exact .inl he
  · exact .inr ⟨env, hok, createCommunity_writes hcreate⟩

theorem update_ran {dto : UpdateCommunityDto}
    (h : (update communityId userId userRoles dto).Ran ok db r db') :
    db' = db ∨ ∃ community memberCapacity,
      managedCommunity userId userRoles communityId db = .ok community ∧
      updatedCapacity community dto = .ok memberCapacity ∧
      db'.communities.rows =
        Table.updateRows communityId (withChanges dto memberCapacity) db.communities.rows ∧
      db'.communitySponsorships = db.communitySponsorships := by
  unfold update at h
  rcases Call.ran_bind.mp h with ⟨_, h₁, _⟩ | ⟨community, db₁, h₁, hrest₁⟩
  · obtain ⟨_, _, _, rfl⟩ := Call.ran_ask.mp h₁
    exact .inl rfl
  obtain ⟨_, _, hread, rfl⟩ := Call.ran_ask.mp h₁
  rcases Call.ran_bind.mp hrest₁ with ⟨_, h₂, _⟩ | ⟨memberCapacity, db₂, h₂, hrest₂⟩
  · exact .inl (Call.ran_returned.mp h₂).2
  obtain ⟨hcapacity, he₂⟩ := Call.ran_returned.mp h₂
  rw [he₂] at hrest₂
  rcases execute_ran hrest₂ with he | ⟨env, comm, _, hupdate⟩
  · exact .inl he
  · exact .inr ⟨community, memberCapacity, hread.symm, hcapacity.symm, updateCommunity_writes hupdate⟩

end Run

end CommunitiesService

namespace CommunityMembersService

/-- What `findFirst` may find as the active sponsorship of a community. -/
def ActiveSponsorship (communityId : String) (now : Time) (db : Db) :
    Option CommunitySponsorship → Prop
  | some s => s ∈ db.communitySponsorships.rows ∧ s.communityId = communityId ∧
      s.isRunning now = true
  | none => ∀ s ∈ db.communitySponsorships.rows, s.communityId = communityId →
      s.isRunning now = false

/-- The capacity that `join` enforces. -/
def effectiveCapacity (activeSponsorship : Option CommunitySponsorship) : ℤ :=
  match activeSponsorship with
  | some s => s.sponsoredCapacity
  | none => 20

end CommunityMembersService

end Innovents.Communities
