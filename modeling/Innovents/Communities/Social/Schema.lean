import Innovents.Communities.CommunitiesService
import Innovents.Events.Schema

namespace Innovents.Communities.Social

open Innovents.Lib Innovents.Auth Innovents.Platform
open Innovents.Payments (Time CommunityType CommunityVisibility CommunityStatus CommunityMemberRole
  CommunityMemberStatus CommunitySponsorship)

inductive CommunityPostStatus
  | published | hidden | deleted
  deriving DecidableEq, Repr

inductive CommunityMeetupStatus
  | scheduled | completed | cancelled
  deriving DecidableEq, Repr

structure Community where
  id : String
  eventId : String
  createdById : String
  name : String
  bio : String
  description : String
  category : String
  type : CommunityType
  visibility : CommunityVisibility
  status : CommunityStatus
  coverImageUrl : Option String
  language : Option String
  memberCapacity : ℤ
  memberCount : ℤ
  isSponsored : Bool
  isPinned : Bool
  deletedAt : Option Time
  createdAt : Time
  updatedAt : Time

structure CommunityMember where
  id : String
  communityId : String
  userId : String
  role : CommunityMemberRole
  status : CommunityMemberStatus
  joinedAt : Time
  leftAt : Option Time
  bannedAt : Option Time
  bannedBy : Option String

structure CommunityPost where
  id : String
  communityId : String
  authorId : String
  content : String
  attachments : List String
  linkUrl : Option String
  isPinned : Bool
  status : CommunityPostStatus
  likeCount : ℤ
  replyCount : ℤ
  deletedAt : Option Time
  createdAt : Time
  updatedAt : Time

structure CommunityPostReply where
  id : String
  postId : String
  authorId : String
  parentReplyId : Option String
  content : String
  status : CommunityPostStatus
  likeCount : ℤ
  deletedAt : Option Time
  createdAt : Time
  updatedAt : Time

structure CommunityPostLike where
  id : String
  postId : String
  userId : String

structure CommunityReplyLike where
  id : String
  replyId : String
  userId : String

structure CommunityMention where
  id : String
  actorId : String
  mentionedUserId : String
  postId : Option String
  replyId : Option String

structure CommunityMeetup where
  id : String
  communityId : String
  eventId : String
  createdById : String
  title : String
  description : String
  startsAt : Time
  endsAt : Option Time
  location : String
  mapUrl : Option String
  participantLimit : Option ℤ
  participantCount : ℤ
  isPinned : Bool
  status : CommunityMeetupStatus
  deletedAt : Option Time
  createdAt : Time
  updatedAt : Time

structure CommunityMeetupParticipant where
  id : String
  meetupId : String
  userId : String

structure CommunityChatMessage where
  id : String
  communityId : String
  senderId : String
  content : String
  createdAt : Time

instance : Row Community := ⟨Community.id, []⟩
instance : Row CommunityMember :=
  ⟨CommunityMember.id, [fun m ↦ some (m.communityId ++ ":" ++ m.userId)]⟩
instance : Row CommunityPost := ⟨CommunityPost.id, []⟩
instance : Row CommunityPostReply := ⟨CommunityPostReply.id, []⟩
instance : Row CommunityPostLike :=
  ⟨CommunityPostLike.id, [fun l ↦ some (l.postId ++ ":" ++ l.userId)]⟩
instance : Row CommunityReplyLike :=
  ⟨CommunityReplyLike.id, [fun l ↦ some (l.replyId ++ ":" ++ l.userId)]⟩
instance : Row CommunityMention := ⟨CommunityMention.id, []⟩
instance : Row CommunityMeetup := ⟨CommunityMeetup.id, []⟩
instance : Row CommunityMeetupParticipant :=
  ⟨CommunityMeetupParticipant.id, [fun p ↦ some (p.meetupId ++ ":" ++ p.userId)]⟩
instance : Row CommunityChatMessage := ⟨CommunityChatMessage.id, []⟩

/-- The tables of the communities, with those of the accounts and the events. -/
structure SocialDb where
  accounts : AuthDb
  events : Table Events.Event
  communities : Table Community
  communityMembers : Table CommunityMember
  communitySponsorships : Table CommunitySponsorship
  communityPosts : Table CommunityPost
  communityPostReplies : Table CommunityPostReply
  communityPostLikes : Table CommunityPostLike
  communityReplyLikes : Table CommunityReplyLike
  communityMentions : Table CommunityMention
  communityMeetups : Table CommunityMeetup
  communityMeetupParticipants : Table CommunityMeetupParticipant
  communityChatMessages : Table CommunityChatMessage

def SocialDb.empty : SocialDb :=
  { accounts := .empty
    events := .empty
    communities := .empty
    communityMembers := .empty
    communitySponsorships := .empty
    communityPosts := .empty
    communityPostReplies := .empty
    communityPostLikes := .empty
    communityReplyLikes := .empty
    communityMentions := .empty
    communityMeetups := .empty
    communityMeetupParticipants := .empty
    communityChatMessages := .empty }

instance : Accounts SocialDb := ⟨SocialDb.accounts, fun accounts db ↦ { db with accounts }⟩

abbrev SocialCall (α : Type) := Service SocialDb α

/-- What a request answers that has nothing else to tell. -/
structure MessageDto where
  success : Bool
  message : String

/-- `select: { id: true, email: true }` -/
structure UserSummary where
  id : String
  email : String

def userSummary (userId : String) (db : SocialDb) : Option UserSummary :=
  (db.accounts.users.get? userId).map fun user ↦ ⟨user.id, user.email⟩

def foreignKeys (p : Prop) [Decidable p] : Except AuthError Unit :=
  demand p (.fault "Foreign key constraint violated")

/-- `communityMember.findUnique({ where: { communityId_userId } })` -/
def membershipOf (communityId userId : String) (db : SocialDb) : Option CommunityMember :=
  db.communityMembers.find? fun m ↦ m.communityId == communityId && m.userId == userId

theorem membershipOf_eq_some {communityId userId : String} {db : SocialDb} {m : CommunityMember}
    (h : membershipOf communityId userId db = some m) :
    m ∈ db.communityMembers.rows ∧ m.communityId = communityId ∧ m.userId = userId := by
  obtain ⟨hmem, hkey⟩ := Table.find?_mem h
  rw [Bool.and_eq_true, beq_iff_eq, beq_iff_eq] at hkey
  exact ⟨hmem, hkey⟩

/-- A user has one membership of a community. -/
theorem membershipOf_mem {db : SocialDb} {m : CommunityMember}
    (h : m ∈ db.communityMembers.rows) : membershipOf m.communityId m.userId db = some m := by
  cases hfound : membershipOf m.communityId m.userId db with
  | none =>
    have hnone := Table.find?_eq_none.mp hfound m h
    simp at hnone
  | some m' =>
    obtain ⟨hmem, hcommunity, huser⟩ := membershipOf_eq_some hfound
    refine congrArg some (db.communityMembers.eq_of_unique (List.mem_singleton_self _) hmem h ?_ rfl)
    rw [hcommunity, huser]

/-- The community, if it is not deleted. -/
def existingCommunity (communityId : String) (db : SocialDb) : Option Community :=
  (db.communities.get? communityId).filter (·.deletedAt.isNone)

namespace CommunityAuthorizationService

/-- `community.findFirst({ where: { id, deletedAt: null } })` -/
def findCommunity (communityId : String) : SocialCall Community := do
  let found ← Call.reads "community.findFirst" fun _ ↦ existingCommunity communityId
  Call.returned (present found (refusal .notFound "Community not found"))

def assertCanManageCommunity (userId : String) (userRoles : List String) (communityId : String) :
    SocialCall Community := do
  let community ← findCommunity communityId
  Call.returned (demand ("ADMIN" ∈ userRoles ∨ community.createdById = userId)
    (refusal .forbidden "You do not have permission to manage this community"))
  return community

/-- The community, with the role in which the user may moderate it. -/
def assertCanModerateCommunity (userId : String) (userRoles : List String) (communityId : String) :
    SocialCall (Community × CommunityMemberRole) := do
  let community ← findCommunity communityId
  if "ADMIN" ∈ userRoles ∨ community.createdById = userId then return (community, .owner)
  else do
    let member ← Call.reads "communityMember.findUnique" fun _ ↦ membershipOf communityId userId
    Call.returned (demand (∃ m ∈ member, m.status = .active ∧ m.role = .moderator)
      (refusal .forbidden "You do not have moderation privileges in this community"))
    return (community, .moderator)

def assertActiveMember (userId communityId : String) :
    SocialCall (Community × CommunityMember) := do
  let community ← findCommunity communityId
  let found ← Call.reads "communityMember.findUnique" fun _ ↦ membershipOf communityId userId
  let member ← Call.returned (present (found.filter (·.status = .active)) (refusal .forbidden
    "You must be an active member of this community to perform this action"))
  return (community, member)

section Each

variable {userId communityId : String} {userRoles : List String}
  {G : String → SocialDb → SocialDb → Prop}

theorem findCommunity_each (hG : ∀ db, G "community.findFirst" db db) :
    (findCommunity communityId).Each G :=
  Call.each_bind (Call.each_reads hG) fun _ ↦ Call.each_returned

theorem assertCanManageCommunity_each (hG : ∀ db, G "community.findFirst" db db) :
    (assertCanManageCommunity userId userRoles communityId).Each G := by
  refine Call.each_bind (findCommunity_each hG) fun community ↦ ?_
  exact Call.each_bind Call.each_returned fun _ ↦ Call.each_returned

theorem assertCanModerateCommunity_each (hcommunity : ∀ db, G "community.findFirst" db db)
    (hmember : ∀ db, G "communityMember.findUnique" db db) :
    (assertCanModerateCommunity userId userRoles communityId).Each G := by
  refine Call.each_bind (findCommunity_each hcommunity) fun community ↦ ?_
  split_ifs
  · exact Call.each_returned
  · refine Call.each_bind (Call.each_reads hmember) fun member ↦ ?_
    exact Call.each_bind Call.each_returned fun _ ↦ Call.each_returned

theorem assertActiveMember_each (hcommunity : ∀ db, G "community.findFirst" db db)
    (hmember : ∀ db, G "communityMember.findUnique" db db) :
    (assertActiveMember userId communityId).Each G := by
  refine Call.each_bind (findCommunity_each hcommunity) fun community ↦ ?_
  refine Call.each_bind (Call.each_reads hmember) fun found ↦ ?_
  exact Call.each_bind Call.each_returned fun _ ↦ Call.each_returned

end Each

end CommunityAuthorizationService

end Innovents.Communities.Social
