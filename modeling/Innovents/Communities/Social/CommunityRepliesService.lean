import Innovents.Communities.Social.CommunityLikesService
import Innovents.Lib.Stability

namespace Innovents.Communities.Social

open Innovents.Lib Innovents.Auth Innovents.Platform
open Innovents.Payments (Time CommunityMemberRole CommunityMemberStatus)

structure CreateReplyDto where
  content : String
  parentReplyId : Option String
  mentionedUserIds : Option (List String)

/-- An author with the role in the community. -/
structure AuthorDto where
  id : String
  email : String
  communityRole : Option CommunityMemberRole

structure ReplyResponseDto where
  id : String
  postId : String
  authorId : String
  parentReplyId : Option String
  content : String
  status : CommunityPostStatus
  likeCount : ℤ
  createdAt : Time
  updatedAt : Time
  author : AuthorDto
  likedByCurrentUser : Bool

namespace CommunityRepliesService

def mapToResponseDto (reply : CommunityPostReply) (author : AuthorDto) (likedByCurrentUser : Bool) :
    ReplyResponseDto where
  id := reply.id
  postId := reply.postId
  authorId := reply.authorId
  parentReplyId := reply.parentReplyId
  content := reply.content
  status := reply.status
  likeCount := reply.likeCount
  createdAt := reply.createdAt
  updatedAt := reply.updatedAt
  author
  likedByCurrentUser

def newReply (id postId authorId : String) (dto : CreateReplyDto) (now : Time) :
    CommunityPostReply where
  id
  postId
  authorId
  parentReplyId := dto.parentReplyId
  content := dto.content
  status := .published
  likeCount := 0
  deletedAt := none
  createdAt := now
  updatedAt := now

/-- `communityPost.update({ where: { id }, data: { replyCount: { increment: change } } })` -/
def repliesMoved (postId : String) (change : ℤ) (env : AuthEnv) (db : SocialDb) :
    Except AuthError SocialDb := do
  let communityPosts ← ofRefusal (db.communityPosts.update postId fun post ↦
    { post with
      replyCount := post.replyCount + change
      updatedAt := env.now })
  return { db with communityPosts }

/-- A mentioned user is told, if there is one with the id. -/
def mention (communityId postId replyId authorId : String) (env : AuthEnv) (db : SocialDb)
    (targetUserId : String) : Except AuthError SocialDb :=
  if db.accounts.users.has targetUserId then do
    let communityMentions ← ofRefusal (db.communityMentions.create
      { id := env.idFor db.communityMentions
        actorId := authorId
        mentionedUserId := targetUserId
        postId := none
        replyId := some replyId })
    enqueued
      { eventType := "COMMUNITY_MENTION_CREATED"
        aggregateType := "COMMUNITY_MENTION"
        aggregateId := replyId ++ ":" ++ targetUserId
        payload := [("communityId", .str communityId), ("postId", .str postId),
          ("replyId", .str replyId), ("actorId", .str authorId),
          ("mentionedUserId", .str targetUserId)] }
      env { db with communityMentions }
  else return db

/-- Whom a reply mentions besides its author, each once. -/
def uniqueMentionIds (authorId : String) (mentionedUserIds : Option (List String)) : List String :=
  (mentionedUserIds.getD []).eraseDups.filter (· ≠ authorId)

/-- The transaction of `create`. -/
def replyCreated (communityId postId authorId : String) (dto : CreateReplyDto) (env : AuthEnv)
    (db : SocialDb) : Except AuthError (SocialDb × CommunityPostReply) := do
  let r := newReply (env.idFor db.communityPostReplies) postId authorId dto env.now
  foreignKeys (db.communityPosts.has postId ∧ db.accounts.users.has authorId ∧
    dto.parentReplyId.all db.communityPostReplies.has)
  let communityPostReplies ← ofRefusal (db.communityPostReplies.create r)
  let db ← repliesMoved postId 1 env { db with communityPostReplies }
  let db ← (uniqueMentionIds authorId dto.mentionedUserIds).foldlM
    (mention communityId postId r.id authorId env) db
  let db ← enqueued
    { eventType := "COMMUNITY_POST_REPLY_CREATED"
      aggregateType := "COMMUNITY_POST_REPLY"
      aggregateId := r.id
      payload := [("replyId", .str r.id), ("postId", .str postId),
        ("communityId", .str communityId), ("authorId", .str authorId),
        ("parentReplyId", r.parentReplyId.elim .null .str)] }
    env db
  return (db, r)

/-- The parent of a threaded reply has to be a reply to the same post. -/
def assertParent (postId : String) (parentReplyId : Option String) : SocialCall Unit :=
  match parentReplyId with
  | none => return
  | some parentReplyId => do
    let parent ← Call.reads "communityPostReply.findFirst" fun _ ↦ existingReply postId parentReplyId
    Call.returned (demand parent.isSome (refusal .notFound "Parent reply not found"))

/-- Only active members reply. -/
def create (communityId postId authorId : String) (dto : CreateReplyDto) :
    SocialCall ReplyResponseDto := do
  let (_, member) ← CommunityAuthorizationService.assertActiveMember authorId communityId
  let found ← Call.reads "communityPost.findFirst" fun _ ↦ existingPost communityId postId
  let post ← Call.returned (present found (refusal .notFound "Post not found in this community"))
  Call.returned (demand (post.status = .published)
    (refusal .badRequest "Cannot reply to an unpublished post"))
  assertParent postId dto.parentReplyId
  let reply ← Call.writes "$transaction" (replyCreated communityId postId authorId dto)
  let found ← Call.reads "user.findUnique" fun _ ↦ userSummary authorId
  let author ← Call.returned (present found (.fault "Cannot read properties of null"))
  return mapToResponseDto reply ⟨author.id, author.email, some member.role⟩ false

/-- The transaction of `delete`. -/
def replyDeleted (postId replyId : String) (env : AuthEnv) (db : SocialDb) :
    Except AuthError (SocialDb × Unit) := do
  let communityPostReplies ← ofRefusal (db.communityPostReplies.update replyId fun reply ↦
    { reply with
      deletedAt := some env.now
      status := .deleted
      updatedAt := env.now })
  let db ← repliesMoved postId (-1) env { db with communityPostReplies }
  return (db, ())

/-- The author may delete a reply, and who may moderate the community of the path. -/
def assertCanDelete (communityId userId : String) (userRoles : List String)
    (reply : CommunityPostReply) : SocialCall Unit :=
  if reply.authorId = userId then return
  else do
    let _ ← CommunityAuthorizationService.assertCanModerateCommunity userId userRoles communityId
    return

def delete (communityId postId replyId userId : String) (userRoles : List String) :
    SocialCall MessageDto := do
  let found ← Call.reads "communityPostReply.findFirst" fun _ ↦ existingReply postId replyId
  let reply ← Call.returned (present found (refusal .notFound "Reply not found"))
  assertCanDelete communityId userId userRoles reply
  Call.writes "$transaction" (replyDeleted postId replyId)
  return ⟨true, "Reply deleted successfully"⟩

section Statements

variable {communityId postId replyId authorId : String} {dto : CreateReplyDto} {env : AuthEnv}
  {db db' : SocialDb} {change : ℤ}

theorem repliesMoved_eq (h : repliesMoved postId change env db = .ok db') :
    NumberMoved CommunityPost.replyCount postId change db.communityPosts db'.communityPosts ∧
      db'.communityPostReplies = db.communityPostReplies := by
  obtain ⟨communityPosts, hupdate, h⟩ := andThen_eq_ok.mp h
  cases h
  exact ⟨⟨_, ofRefusal_eq_ok.mp hupdate, fun post ↦ ⟨rfl, rfl⟩⟩, rfl⟩

/-- Mentions touch neither the posts nor the replies. -/
theorem mention_eq {targetUserId : String}
    (h : mention communityId postId replyId authorId env db targetUserId = .ok db') :
    db'.communityPosts = db.communityPosts ∧
      db'.communityPostReplies = db.communityPostReplies := by
  unfold mention at h
  split_ifs at h
  · obtain ⟨communityMentions, -, h⟩ := andThen_eq_ok.mp h
    obtain ⟨accounts, rfl⟩ := enqueued_eq_ok h
    exact ⟨rfl, rfl⟩
  · cases h
    exact ⟨rfl, rfl⟩

/-- The transaction of `create` adds a reply that is not deleted. -/
theorem replyCreated_eq {r : CommunityPostReply}
    (h : replyCreated communityId postId authorId dto env db = .ok (db', r)) :
    db.communityPostReplies.create r = .ok db'.communityPostReplies ∧ r.postId = postId ∧
      r.deletedAt = none ∧
        NumberMoved CommunityPost.replyCount postId 1 db.communityPosts db'.communityPosts := by
  obtain ⟨_, -, h⟩ := andThen_eq_ok.mp h
  obtain ⟨communityPostReplies, hcreate, h⟩ := andThen_eq_ok.mp h
  obtain ⟨db₁, hmoved, h⟩ := andThen_eq_ok.mp h
  obtain ⟨db₂, hmentions, h⟩ := andThen_eq_ok.mp h
  obtain ⟨db₃, hevent, h⟩ := andThen_eq_ok.mp h
  obtain ⟨hnumber, hreplies⟩ := repliesMoved_eq hmoved
  obtain ⟨accounts, rfl⟩ := enqueued_eq_ok hevent
  have hkept : db₂.communityPosts = db₁.communityPosts ∧
      db₂.communityPostReplies = db₁.communityPostReplies := by
    refine foldlM_keeps (I := fun db ↦ db.communityPosts = db₁.communityPosts ∧
      db.communityPostReplies = db₁.communityPostReplies) (fun _ _ db db' hdb hmention ↦ ?_)
        ⟨rfl, rfl⟩ hmentions
    obtain ⟨hposts, hreplies⟩ := mention_eq hmention
    exact ⟨hposts.trans hdb.1, hreplies.trans hdb.2⟩
  cases h
  refine ⟨?_, rfl, rfl, ?_⟩
  · show _ = Except.ok db₂.communityPostReplies
    rw [hkept.2, hreplies]
    exact ofRefusal_eq_ok.mp hcreate
  · show NumberMoved _ _ _ _ db₂.communityPosts
    rw [hkept.1]
    exact hnumber

/-- The transaction of `delete` deletes the reply, whatever it finds it to be. -/
theorem replyDeleted_eq {u : Unit} (h : replyDeleted postId replyId env db = .ok (db', u)) :
    (∃ f : CommunityPostReply → CommunityPostReply,
      db.communityPostReplies.update replyId f = .ok db'.communityPostReplies ∧
        ∀ r, (f r).id = r.id ∧ (f r).postId = r.postId ∧ (f r).deletedAt = some env.now) ∧
      NumberMoved CommunityPost.replyCount postId (-1) db.communityPosts db'.communityPosts := by
  obtain ⟨communityPostReplies, hupdate, h⟩ := andThen_eq_ok.mp h
  obtain ⟨db₁, hmoved, h⟩ := andThen_eq_ok.mp h
  obtain ⟨hnumber, hreplies⟩ := repliesMoved_eq hmoved
  cases h
  rw [hreplies]
  exact ⟨⟨_, ofRefusal_eq_ok.mp hupdate, fun r ↦ ⟨rfl, rfl, rfl⟩⟩, hnumber⟩

end Statements

end CommunityRepliesService

end Innovents.Communities.Social
