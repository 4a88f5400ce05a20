import Innovents.Communities.Social.Schema
import Innovents.Lib.Answers
import Innovents.Lib.Tally

namespace Innovents.Communities.Social

open Innovents.Lib Innovents.Auth Innovents.Platform

structure ToggledLike where
  liked : Bool
  likeCount : ℤ

/-- `communityPost.findFirst({ where: { id, communityId, deletedAt: null } })` -/
def existingPost (communityId postId : String) (db : SocialDb) : Option CommunityPost :=
  (db.communityPosts.get? postId).filter fun post ↦
    post.communityId = communityId ∧ post.deletedAt = none

/-- `communityPostReply.findFirst({ where: { id, postId, deletedAt: null } })` -/
def existingReply (postId replyId : String) (db : SocialDb) : Option CommunityPostReply :=
  (db.communityPostReplies.get? replyId).filter fun reply ↦
    reply.postId = postId ∧ reply.deletedAt = none

namespace CommunityLikesService

/-- `communityPostLike.findUnique({ where: { postId_userId } })` -/
def postLikeOf (postId userId : String) (db : SocialDb) : Option CommunityPostLike :=
  db.communityPostLikes.find? fun l ↦ l.postId == postId && l.userId == userId

/-- `communityReplyLike.findUnique({ where: { replyId_userId } })` -/
def replyLikeOf (replyId userId : String) (db : SocialDb) : Option CommunityReplyLike :=
  db.communityReplyLikes.find? fun l ↦ l.replyId == replyId && l.userId == userId

/-- `communityPost.update({ where: { id }, data: { likeCount: { increment: change } } })` -/
def postLikesMoved (postId : String) (change : ℤ) (env : AuthEnv) (db : SocialDb) :
    Except AuthError (SocialDb × CommunityPost) := do
  let communityPosts ← ofRefusal (db.communityPosts.update postId fun post ↦
    { post with
      likeCount := post.likeCount + change
      updatedAt := env.now })
  let updated ← present (communityPosts.get? postId) (.prisma .recordNotFound)
  return ({ db with communityPosts }, updated)

/-- `communityPostReply.update({ where: { id }, data: { likeCount: { increment: change } } })` -/
def replyLikesMoved (replyId : String) (change : ℤ) (env : AuthEnv) (db : SocialDb) :
    Except AuthError (SocialDb × CommunityPostReply) := do
  let communityPostReplies ← ofRefusal (db.communityPostReplies.update replyId fun reply ↦
    { reply with
      likeCount := reply.likeCount + change
      updatedAt := env.now })
  let updated ← present (communityPostReplies.get? replyId) (.prisma .recordNotFound)
  return ({ db with communityPostReplies }, updated)

def postLikeEvent (eventType communityId postId userId : String) : CreateOutboxEventParams where
  eventType
  aggregateType := "COMMUNITY_POST_LIKE"
  aggregateId := postId ++ ":" ++ userId
  payload := [("communityId", .str communityId), ("postId", .str postId), ("userId", .str userId)]

/-- The transaction of `togglePostLike`. -/
def postLikeToggled (communityId postId userId : String) (env : AuthEnv) (db : SocialDb) :
    Except AuthError (SocialDb × ToggledLike) :=
  match postLikeOf postId userId db with
  | some existing => do
    let communityPostLikes ← ofRefusal (db.communityPostLikes.delete existing.id)
    let (db, updated) ← postLikesMoved postId (-1) env { db with communityPostLikes }
    let db ← enqueued (postLikeEvent "COMMUNITY_POST_UNLIKED" communityId postId userId) env db
    return (db, ⟨false, max 0 updated.likeCount⟩)
  | none => do
    foreignKeys (db.communityPosts.has postId ∧ db.accounts.users.has userId)
    let communityPostLikes ← ofRefusal (db.communityPostLikes.create
      { id := env.idFor db.communityPostLikes
        postId
        userId })
    let (db, updated) ← postLikesMoved postId 1 env { db with communityPostLikes }
    let db ← enqueued (postLikeEvent "COMMUNITY_POST_LIKED" communityId postId userId) env db
    return (db, ⟨true, updated.likeCount⟩)

/-- The transaction of `toggleReplyLike`. -/
def replyLikeToggled (replyId userId : String) (env : AuthEnv) (db : SocialDb) :
    Except AuthError (SocialDb × ToggledLike) :=
  match replyLikeOf replyId userId db with
  | some existing => do
    let communityReplyLikes ← ofRefusal (db.communityReplyLikes.delete existing.id)
    let (db, updated) ← replyLikesMoved replyId (-1) env { db with communityReplyLikes }
    return (db, ⟨false, max 0 updated.likeCount⟩)
  | none => do
    foreignKeys (db.communityPostReplies.has replyId ∧ db.accounts.users.has userId)
    let communityReplyLikes ← ofRefusal (db.communityReplyLikes.create
      { id := env.idFor db.communityReplyLikes
        replyId
        userId })
    let (db, updated) ← replyLikesMoved replyId 1 env { db with communityReplyLikes }
    return (db, ⟨true, updated.likeCount⟩)

/-- Only active members like posts. -/
def togglePostLike (communityId postId userId : String) : SocialCall ToggledLike := do
  let _ ← CommunityAuthorizationService.assertActiveMember userId communityId
  let post ← Call.reads "communityPost.findFirst" fun _ ↦ existingPost communityId postId
  Call.returned (demand post.isSome (refusal .notFound "Post not found"))
  Call.writes "$transaction" (postLikeToggled communityId postId userId)

/-- The reply is looked up under the post of the path, which need not be in the community of the
path. -/
def toggleReplyLike (communityId postId replyId userId : String) : SocialCall ToggledLike := do
  let _ ← CommunityAuthorizationService.assertActiveMember userId communityId
  let reply ← Call.reads "communityPostReply.findFirst" fun _ ↦ existingReply postId replyId
  Call.returned (demand reply.isSome (refusal .notFound "Reply not found"))
  Call.writes "$transaction" (replyLikeToggled replyId userId)

section Toggles

variable {communityId postId replyId userId : String} {env : AuthEnv} {db db' : SocialDb}
  {result : ToggledLike} {change : ℤ}

/-- What the transaction of a toggle does to the likes of the posts. -/
def PostToggled (postId userId : String) (db db' : SocialDb) : Prop :=
  Toggled CommunityPostLike.postId CommunityPostLike.userId CommunityPost.likeCount postId userId
    db.communityPostLikes db.communityPosts db'.communityPostLikes db'.communityPosts

/-- What the transaction of a toggle does to the likes of the replies. -/
def ReplyToggled (replyId userId : String) (db db' : SocialDb) : Prop :=
  Toggled CommunityReplyLike.replyId CommunityReplyLike.userId CommunityPostReply.likeCount replyId
    userId db.communityReplyLikes db.communityPostReplies db'.communityReplyLikes
    db'.communityPostReplies

theorem postLikesMoved_eq {post : CommunityPost}
    (h : postLikesMoved postId change env db = .ok (db', post)) :
    NumberMoved CommunityPost.likeCount postId change db.communityPosts db'.communityPosts ∧
      db' = { db with communityPosts := db'.communityPosts } := by
  obtain ⟨communityPosts, hupdate, h⟩ := andThen_eq_ok.mp h
  obtain ⟨updated, -, h⟩ := andThen_eq_ok.mp h
  cases h
  exact ⟨⟨_, ofRefusal_eq_ok.mp hupdate, fun post ↦ ⟨rfl, rfl⟩⟩, rfl⟩

theorem replyLikesMoved_eq {reply : CommunityPostReply}
    (h : replyLikesMoved replyId change env db = .ok (db', reply)) :
    NumberMoved CommunityPostReply.likeCount replyId change db.communityPostReplies
      db'.communityPostReplies ∧
      db' = { db with communityPostReplies := db'.communityPostReplies } := by
  obtain ⟨communityPostReplies, hupdate, h⟩ := andThen_eq_ok.mp h
  obtain ⟨updated, -, h⟩ := andThen_eq_ok.mp h
  cases h
  exact ⟨⟨_, ofRefusal_eq_ok.mp hupdate, fun reply ↦ ⟨rfl, rfl⟩⟩, rfl⟩

theorem postLikeOf_eq_none (h : postLikeOf postId userId db = none) :
    has CommunityPostLike.postId CommunityPostLike.userId postId userId db.communityPostLikes =
      false := by
  rw [← Bool.not_eq_true, has_iff]
  rintro ⟨l, hl, hpost, huser⟩
  have hnone := Table.find?_eq_none.mp h l hl
  simp [hpost, huser] at hnone

theorem replyLikeOf_eq_none (h : replyLikeOf replyId userId db = none) :
    has CommunityReplyLike.replyId CommunityReplyLike.userId replyId userId db.communityReplyLikes =
      false := by
  rw [← Bool.not_eq_true, has_iff]
  rintro ⟨l, hl, hreply, huser⟩
  have hnone := Table.find?_eq_none.mp h l hl
  simp [hreply, huser] at hnone

theorem postLikeToggled_eq
    (h : postLikeToggled communityId postId userId env db = .ok (db', result)) :
    PostToggled postId userId db db' ∧ db'.communityReplyLikes = db.communityReplyLikes ∧
      db'.communityPostReplies = db.communityPostReplies := by
  unfold postLikeToggled at h
  cases hexisting : postLikeOf postId userId db with
  | some existing =>
    rw [hexisting] at h
    obtain ⟨hmem, hkey⟩ := Table.find?_mem hexisting
    rw [Bool.and_eq_true, beq_iff_eq, beq_iff_eq] at hkey
    obtain ⟨communityPostLikes, hdelete, h⟩ := andThen_eq_ok.mp h
    obtain ⟨⟨db₁, updated⟩, hmoved, h⟩ := andThen_eq_ok.mp h
    obtain ⟨db₂, hevent, h⟩ := andThen_eq_ok.mp h
    obtain ⟨accounts, rfl⟩ := enqueued_eq_ok hevent
    obtain ⟨hnumber, hdb⟩ := postLikesMoved_eq hmoved
    cases h
    rw [hdb]
    exact ⟨.removed existing hmem hkey.1 hkey.2 (ofRefusal_eq_ok.mp hdelete) hnumber, rfl, rfl⟩
  | none =>
    rw [hexisting] at h
    obtain ⟨_, -, h⟩ := andThen_eq_ok.mp h
    obtain ⟨communityPostLikes, hcreate, h⟩ := andThen_eq_ok.mp h
    obtain ⟨⟨db₁, updated⟩, hmoved, h⟩ := andThen_eq_ok.mp h
    obtain ⟨db₂, hevent, h⟩ := andThen_eq_ok.mp h
    obtain ⟨accounts, rfl⟩ := enqueued_eq_ok hevent
    obtain ⟨hnumber, hdb⟩ := postLikesMoved_eq hmoved
    cases h
    rw [hdb]
    exact ⟨.added _ rfl rfl (postLikeOf_eq_none hexisting) (ofRefusal_eq_ok.mp hcreate) hnumber, rfl, rfl⟩

theorem replyLikeToggled_eq (h : replyLikeToggled replyId userId env db = .ok (db', result)) :
    ReplyToggled replyId userId db db' ∧ db'.communityPostLikes = db.communityPostLikes ∧
      db'.communityPosts = db.communityPosts := by
  unfold replyLikeToggled at h
  cases hexisting : replyLikeOf replyId userId db with
  | some existing =>
    rw [hexisting] at h
    obtain ⟨hmem, hkey⟩ := Table.find?_mem hexisting
    rw [Bool.and_eq_true, beq_iff_eq, beq_iff_eq] at hkey
    obtain ⟨communityReplyLikes, hdelete, h⟩ := andThen_eq_ok.mp h
    obtain ⟨⟨db₁, updated⟩, hmoved, h⟩ := andThen_eq_ok.mp h
    obtain ⟨hnumber, hdb⟩ := replyLikesMoved_eq hmoved
    cases h
    rw [hdb]
    exact ⟨.removed existing hmem hkey.1 hkey.2 (ofRefusal_eq_ok.mp hdelete) hnumber, rfl, rfl⟩
  | none =>
    rw [hexisting] at h
    obtain ⟨_, -, h⟩ := andThen_eq_ok.mp h
    obtain ⟨communityReplyLikes, hcreate, h⟩ := andThen_eq_ok.mp h
    obtain ⟨⟨db₁, updated⟩, hmoved, h⟩ := andThen_eq_ok.mp h
    obtain ⟨hnumber, hdb⟩ := replyLikesMoved_eq hmoved
    cases h
    rw [hdb]
    exact ⟨.added _ rfl rfl (replyLikeOf_eq_none hexisting) (ofRefusal_eq_ok.mp hcreate) hnumber, rfl,
      rfl⟩

end Toggles

end CommunityLikesService

end Innovents.Communities.Social
