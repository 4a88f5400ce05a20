import Innovents.Communities.Social.CommunityPostsService
import Innovents.Communities.Social.LikeCounters
import Innovents.Communities.Social.MeetupParticipation
import Innovents.Lib.Placement

namespace Innovents.Communities.Social

open Innovents.Lib Innovents.Auth Innovents.Platform

section Operations

inductive PostOp
  | create (communityId authorId : String) (dto : CreatePostDto) (client : Client)
  | update (communityId postId userId : String) (userRoles : List String) (dto : UpdatePostDto)
  | delete (communityId postId userId : String) (userRoles : List String) (client : Client)
  | pin (communityId postId userId : String) (userRoles : List String) (client : Client)
  | unpin (communityId postId userId : String) (userRoles : List String) (client : Client)

inductive PostAnswer
  | post (dto : PostResponseDto)
  | message (dto : MessageDto)

def PostOp.runs : PostOp → SocialCall PostAnswer
  | create communityId authorId dto client =>
    .post <$> CommunityPostsService.create communityId authorId dto client
  | update communityId postId userId userRoles dto =>
    .post <$> CommunityPostsService.update communityId postId userId userRoles dto
  | delete communityId postId userId userRoles client =>
    .message <$> CommunityPostsService.delete communityId postId userId userRoles client
  | pin communityId postId userId userRoles client =>
    .post <$> CommunityPostsService.pin communityId postId userId userRoles client
  | unpin communityId postId userId userRoles client =>
    .post <$> CommunityPostsService.unpin communityId postId userId userRoles client

/-- The operations that write what members publish, with the ids of their paths. -/
inductive SocialOp
  | post (op : PostOp)
  | reply (op : ReplyOp)
  | like (op : LikeOp)
  | meetup (op : MeetupOp)

inductive SocialAnswer
  | post (answer : PostAnswer)
  | reply (answer : ReplyAnswer)
  | like (answer : ToggledLike)
  | meetup (answer : MeetupAnswer)

def SocialOp.runs : SocialOp → SocialCall SocialAnswer
  | post op => .post <$> op.runs
  | reply op => .reply <$> op.runs
  | like op => .like <$> op.runs
  | meetup op => .meetup <$> op.runs

abbrev SocialTask := Task SocialOp String AuthEnv SocialDb AuthError SocialAnswer

abbrev SocialHistory := History String SocialDb

def socialCalls : Machine SocialDb SocialTask AuthEnv := tasks SocialOp.runs

end Operations

section Rights

/-- The user was found to be an active member of the community, which was there. -/
structure MemberIn (communityId userId : String) (history : SocialHistory) : Prop where
  community : Saw history fun db ↦ (existingCommunity communityId db).isSome = true
  member : Saw history fun db ↦ ∃ m ∈ membershipOf communityId userId db, m.status = .active

/-- The user was found to have the community, or is an admin of the platform. -/
def ManagerOf (communityId userId : String) (userRoles : List String) (history : SocialHistory) :
    Prop :=
  Saw history fun db ↦ ∃ c ∈ existingCommunity communityId db,
    "ADMIN" ∈ userRoles ∨ c.createdById = userId

/-- The user was found to have the community, or to be one of its moderators. -/
def ModeratorOf (communityId userId : String) (userRoles : List String) (history : SocialHistory) :
    Prop :=
  ManagerOf communityId userId userRoles history ∨
    (Saw history fun db ↦ (existingCommunity communityId db).isSome = true) ∧
      Saw history fun db ↦ ∃ m ∈ membershipOf communityId userId db,
        m.status = .active ∧ m.role = .moderator

/-- What the user of a path has been found to be before anything is written. -/
def SocialOp.Entitled (op : SocialOp) (history : SocialHistory) : Prop :=
  match op with
  | post (.create communityId userId _ _) | reply (.create communityId _ userId _)
  | like (.togglePostLike communityId _ userId) | like (.toggleReplyLike communityId _ _ userId)
  | meetup (.create communityId userId _ _) | meetup (.join communityId _ userId)
  | meetup (.leave communityId _ userId) => MemberIn communityId userId history
  | post (.update communityId postId userId userRoles _) => "ADMIN" ∈ userRoles ∨
    Saw history fun db ↦ ∃ p ∈ existingPost communityId postId db, p.authorId = userId
  | post (.delete communityId postId userId userRoles _) =>
    ModeratorOf communityId userId userRoles history ∨
      Saw history fun db ↦ ∃ p ∈ existingPost communityId postId db, p.authorId = userId
  | post (.pin communityId _ userId userRoles _) | post (.unpin communityId _ userId userRoles _) =>
    ModeratorOf communityId userId userRoles history
  | reply (.delete communityId postId replyId userId userRoles) =>
    ModeratorOf communityId userId userRoles history ∨
      Saw history fun db ↦ ∃ r ∈ existingReply postId replyId db, r.authorId = userId
  | meetup (.update communityId meetupId userId userRoles _)
  | meetup (.cancel communityId meetupId userId userRoles _) => "ADMIN" ∈ userRoles ∨
    ManagerOf communityId userId userRoles history ∨
      Saw history fun db ↦ ∃ m ∈ existingMeetup communityId meetupId db, m.createdById = userId

/-- The community of the path. -/
def SocialOp.communityId : SocialOp → String
  | post (.create communityId ..) | post (.update communityId ..) | post (.delete communityId ..)
  | post (.pin communityId ..) | post (.unpin communityId ..) | reply (.create communityId ..)
  | reply (.delete communityId ..) | like (.togglePostLike communityId ..)
  | like (.toggleReplyLike communityId ..) | meetup (.create communityId ..)
  | meetup (.join communityId ..) | meetup (.leave communityId ..)
  | meetup (.update communityId ..) | meetup (.cancel communityId ..) => communityId

/-- The post of the path, where nobody asks whether it is in the community of the path. -/
def SocialOp.unasked : SocialOp → Option String
  | reply (.delete _ postId ..) | like (.toggleReplyLike _ postId ..) => some postId
  | _ => none

/-- A post, a reply or a meetup of the community is new, or is not as it was. -/
def Touched (communityId : String) (db db' : SocialDb) : Prop :=
  (∃ k p, Changed db.communityPosts db'.communityPosts k p ∧ p.communityId = communityId) ∨
    (∃ k r, Changed db.communityPostReplies db'.communityPostReplies k r ∧
      ∃ p ∈ db.communityPosts.get? r.postId, p.communityId = communityId) ∨
    ∃ k m, Changed db.communityMeetups db'.communityMeetups k m ∧ m.communityId = communityId

end Rights

section Writes

/-- Posts, replies and meetups stay, and where they belong. -/
structure InPlace (db db' : SocialDb) : Prop where
  posts : Stay CommunityPost.communityId db.communityPosts db'.communityPosts
  replies : Stay CommunityPostReply.postId db.communityPostReplies db'.communityPostReplies
  meetups : Stay CommunityMeetup.communityId db.communityMeetups db'.communityMeetups

/-- What is published is as it was. -/
structure SameContent (db db' : SocialDb) : Prop where
  posts : db'.communityPosts = db.communityPosts
  replies : db'.communityPostReplies = db.communityPostReplies
  meetups : db'.communityMeetups = db.communityMeetups

/-- What is done to the tables of what is published. -/
structure Wrote (posts : Table CommunityPost → Table CommunityPost → Prop)
    (replies : Table CommunityPostReply → Table CommunityPostReply → Prop)
    (meetups : Table CommunityMeetup → Table CommunityMeetup → Prop) (db db' : SocialDb) :
    Prop where
  posts : posts db.communityPosts db'.communityPosts
  replies : replies db.communityPostReplies db'.communityPostReplies
  meetups : meetups db.communityMeetups db'.communityMeetups

def Same {ρ : Type} [Row ρ] (t t' : Table ρ) : Prop := t' = t

/-- What the statement or the transaction of an operation does. -/
def SocialOp.Writes : SocialOp → SocialDb → SocialDb → Prop
  | post (.create communityId ..) => Wrote (OnlyIn CommunityPost.communityId communityId) Same Same
  | post (.update _ postId ..) | post (.delete _ postId ..) | post (.pin _ postId ..)
  | post (.unpin _ postId ..) | like (.togglePostLike _ postId _) =>
    Wrote (OnlyAt CommunityPost.communityId postId) Same Same
  | reply (.create _ postId ..) => Wrote (OnlyAt CommunityPost.communityId postId)
    (OnlyIn CommunityPostReply.postId postId) Same
  | reply (.delete _ postId replyId ..) => Wrote (OnlyAt CommunityPost.communityId postId)
    (OnlyAt CommunityPostReply.postId replyId) Same
  | like (.toggleReplyLike _ _ replyId _) =>
    Wrote Same (OnlyAt CommunityPostReply.postId replyId) Same
  | meetup (.create communityId ..) =>
    Wrote Same Same (OnlyIn CommunityMeetup.communityId communityId)
  | meetup (.join _ meetupId ..) | meetup (.leave _ meetupId ..) | meetup (.update _ meetupId ..)
  | meetup (.cancel _ meetupId ..) => Wrote Same Same (OnlyAt CommunityMeetup.communityId meetupId)

/-- What has been found under the ids of the path when the operation writes. -/
def SocialOp.Found (op : SocialOp) (history : SocialHistory) (db : SocialDb) : Prop :=
  match op with
  | post (.create ..) | meetup (.create ..) => True
  | post (.update communityId postId ..) | post (.delete communityId postId ..)
  | post (.pin communityId postId ..) | post (.unpin communityId postId ..)
  | reply (.create communityId postId ..) | like (.togglePostLike communityId postId _) =>
    Saw history fun db ↦ (existingPost communityId postId db).isSome = true
  | reply (.delete _ postId replyId ..) | like (.toggleReplyLike _ postId replyId _) =>
    Saw history fun db ↦ (existingReply postId replyId db).isSome = true
  | meetup (.leave communityId meetupId ..) | meetup (.update communityId meetupId ..)
  | meetup (.cancel communityId meetupId ..) =>
    Saw history fun db ↦ (existingMeetup communityId meetupId db).isSome = true
  | meetup (.join communityId meetupId _) => (existingMeetup communityId meetupId db).isSome = true

/-- A request only reads, or writes what the caller is entitled to write. -/
def SocialOp.Does (op : SocialOp) (history : SocialHistory) (_ : String) (_ : AuthEnv)
    (db db' : SocialDb) : Prop :=
  SameContent db db' ∨ op.Writes db db' ∧ op.Entitled history ∧ op.Found history db

variable {db db' db'' : SocialDb} {op : SocialOp} {history : SocialHistory} {c k : String}

theorem SameContent.refl (db : SocialDb) : SameContent db db := ⟨rfl, rfl, rfl⟩

theorem SameContent.trans (h : SameContent db db') (h' : SameContent db' db'') :
    SameContent db db'' :=
  ⟨h'.posts.trans h.posts, h'.replies.trans h.replies, h'.meetups.trans h.meetups⟩

theorem beside_same (h : Beside db db') : SameContent db db' := by
  obtain ⟨accounts, rfl⟩ := h
  exact ⟨rfl, rfl, rfl⟩

theorem InPlace.refl (db : SocialDb) : InPlace db db := ⟨stay_refl, stay_refl, stay_refl⟩

theorem InPlace.trans (h : InPlace db db') (h' : InPlace db' db'') : InPlace db db'' :=
  ⟨h.posts.trans h'.posts, h.replies.trans h'.replies, h.meetups.trans h'.meetups⟩

theorem same_stay {ρ : Type} [Row ρ] {place : ρ → String} {t t' : Table ρ} (h : Same t t') :
    Stay place t t' := by
  cases h
  exact stay_refl

theorem SameContent.inPlace (h : SameContent db db') : InPlace db db' :=
  ⟨same_stay h.posts, same_stay h.replies, same_stay h.meetups⟩

theorem SocialOp.Writes.inPlace (h : op.Writes db db') : InPlace db db' := by
  cases op with
  | post op =>
    cases op <;> exact ⟨h.posts.stay, same_stay h.replies, same_stay h.meetups⟩
  | reply op => cases op <;> exact ⟨h.posts.stay, h.replies.stay, same_stay h.meetups⟩
  | like op =>
    cases op with
    | togglePostLike => exact ⟨h.posts.stay, same_stay h.replies, same_stay h.meetups⟩
    | toggleReplyLike => exact ⟨same_stay h.posts, h.replies.stay, same_stay h.meetups⟩
  | meetup op => cases op <;> exact ⟨same_stay h.posts, same_stay h.replies, h.meetups.stay⟩

theorem SocialOp.Does.inPlace {label : String} {env : AuthEnv}
    (h : op.Does history label env db db') : InPlace db db' := by
  rcases h with hsame | ⟨hwrites, -, -⟩
  · exact hsame.inPlace
  · exact hwrites.inPlace

theorem existingPost_placed (db : SocialDb) {p : CommunityPost} {postId : String}
    (hp : p ∈ existingPost c postId db) :
    p ∈ db.communityPosts.get? postId ∧ p.communityId = c := by
  obtain ⟨hget, hmeets⟩ := Option.filter_eq_some_iff.mp hp
  exact ⟨hget, (of_decide_eq_true hmeets).1⟩

theorem existingReply_placed (db : SocialDb) {r : CommunityPostReply} {postId replyId : String}
    (hr : r ∈ existingReply postId replyId db) :
    r ∈ db.communityPostReplies.get? replyId ∧ r.postId = postId := by
  obtain ⟨hget, hmeets⟩ := Option.filter_eq_some_iff.mp hr
  exact ⟨hget, (of_decide_eq_true hmeets).1⟩

theorem existingMeetup_placed (db : SocialDb) {m : CommunityMeetup} {meetupId : String}
    (hm : m ∈ existingMeetup c meetupId db) :
    m ∈ db.communityMeetups.get? meetupId ∧ m.communityId = c := by
  obtain ⟨hget, hmeets⟩ := Option.filter_eq_some_iff.mp hm
  exact ⟨hget, beq_iff_eq.mp (Bool.and_eq_true_iff.mp hmeets).1⟩

theorem same_untouched (h : SameContent db db') : ¬Touched c db db' := by
  rintro (⟨k, p, hp, -⟩ | ⟨k, r, hr, -⟩ | ⟨k, m, hm, -⟩)
  · exact not_changed (h.posts ▸ hp)
  · exact not_changed (h.replies ▸ hr)
  · exact not_changed (h.meetups ▸ hm)

/-- Only the post `k` may be written. -/
theorem post_touched {replies : Table CommunityPostReply → Table CommunityPostReply → Prop}
    (h : Wrote (OnlyAt CommunityPost.communityId k) replies Same db db')
    (htouched : Touched c db db') :
    (∃ p ∈ db.communityPosts.get? k, p.communityId = c) ∨
      ∃ j r, Changed db.communityPostReplies db'.communityPostReplies j r ∧
        ∃ p ∈ db.communityPosts.get? r.postId, p.communityId = c := by
  rcases htouched with ⟨j, p, hp, hc⟩ | hreply | ⟨j, m, hm, -⟩
  · obtain ⟨-, old, hold, hplace⟩ := h.posts.changed j p hp
    exact .inl ⟨old, hold, hplace.trans hc⟩
  · exact .inr hreply
  · exact absurd (h.meetups ▸ hm) not_changed

theorem meetup_touched (h : Wrote Same Same (OnlyAt CommunityMeetup.communityId k) db db')
    (htouched : Touched c db db') : ∃ m ∈ db.communityMeetups.get? k, m.communityId = c := by
  rcases htouched with ⟨j, p, hp, -⟩ | ⟨j, r, hr, -⟩ | ⟨j, m, hm, hc⟩
  · exact absurd (h.posts ▸ hp) not_changed
  · exact absurd (h.replies ▸ hr) not_changed
  · obtain ⟨-, old, hold, hplace⟩ := h.meetups.changed j m hm
    exact ⟨old, hold, hplace.trans hc⟩

/-- What is written is in the community of the path, or under the post of the path where nobody
has asked for its community. -/
theorem SocialOp.Writes.located (h : op.Writes db db') (hfound : op.Found history db)
    (hsince : ∀ event ∈ history, InPlace event.2.2 db) (htouched : Touched c db db') :
    c = op.communityId ∨ ∃ postId ∈ op.unasked, ∃ p ∈ db.communityPosts.get? postId,
      p.communityId = c := by
  have hposts {communityId postId : String}
      (hsaw : Saw history fun db ↦ (existingPost communityId postId db).isSome = true) :
      ∀ p ∈ db.communityPosts.get? postId, p.communityId = communityId :=
    found_placed (fun db _ ↦ existingPost_placed db) hsaw
      fun event hevent ↦ (hsince event hevent).posts
  have hreplies {postId replyId : String}
      (hsaw : Saw history fun db ↦ (existingReply postId replyId db).isSome = true) :
      ∀ r ∈ db.communityPostReplies.get? replyId, r.postId = postId :=
    found_placed (fun db _ ↦ existingReply_placed db) hsaw
      fun event hevent ↦ (hsince event hevent).replies
  have hmeetups {communityId meetupId : String}
      (hsaw : Saw history fun db ↦ (existingMeetup communityId meetupId db).isSome = true) :
      ∀ m ∈ db.communityMeetups.get? meetupId, m.communityId = communityId :=
    found_placed (fun db _ ↦ existingMeetup_placed db) hsaw
      fun event hevent ↦ (hsince event hevent).meetups
  cases op with
  | post op =>
    cases op with
    | create communityId userId dto client =>
      rcases htouched with ⟨j, p, hp, hc⟩ | ⟨j, r, hr, -⟩ | ⟨j, m, hm, -⟩
      · exact .inl (hc.symm.trans (h.posts.changed j p hp))
      · exact absurd (h.replies ▸ hr) not_changed
      · exact absurd (h.meetups ▸ hm) not_changed
    | update | delete | pin | unpin =>
      rcases post_touched h htouched with ⟨p, hp, hc⟩ | ⟨j, r, hr, -⟩
      · exact .inl (hc.symm.trans (hposts hfound p hp))
      · exact absurd (h.replies ▸ hr) not_changed
  | reply op =>
    cases op with
    | create communityId postId userId dto =>
      rcases post_touched h htouched with ⟨p, hp, hc⟩ | ⟨j, r, hr, p, hp, hc⟩
      · exact .inl (hc.symm.trans (hposts hfound p hp))
      · rw [h.replies.changed j r hr] at hp
        exact .inl (hc.symm.trans (hposts hfound p hp))
    | delete communityId postId replyId userId userRoles =>
      rcases post_touched h htouched with ⟨p, hp, hc⟩ | ⟨j, r, hr, p, hp, hc⟩
      · exact .inr ⟨postId, rfl, p, hp, hc⟩
      · obtain ⟨-, old, hold, hplace⟩ := h.replies.changed j r hr
        rw [← hplace, hreplies hfound old hold] at hp
        exact .inr ⟨postId, rfl, p, hp, hc⟩
  | like op =>
    cases op with
    | togglePostLike communityId postId userId =>
      rcases post_touched h htouched with ⟨p, hp, hc⟩ | ⟨j, r, hr, -⟩
      · exact .inl (hc.symm.trans (hposts hfound p hp))
      · exact absurd (h.replies ▸ hr) not_changed
    | toggleReplyLike communityId postId replyId userId =>
      rcases htouched with ⟨j, p, hp, -⟩ | ⟨j, r, hr, p, hp, hc⟩ | ⟨j, m, hm, -⟩
      · exact absurd (h.posts ▸ hp) not_changed
      · obtain ⟨-, old, hold, hplace⟩ := h.replies.changed j r hr
        rw [← hplace, hreplies hfound old hold] at hp
        exact .inr ⟨postId, rfl, p, hp, hc⟩
      · exact absurd (h.meetups ▸ hm) not_changed
  | meetup op =>
    cases op with
    | create communityId userId dto client =>
      rcases htouched with ⟨j, p, hp, -⟩ | ⟨j, r, hr, -⟩ | ⟨j, m, hm, hc⟩
      · exact absurd (h.posts ▸ hp) not_changed
      · exact absurd (h.replies ▸ hr) not_changed
      · exact .inl (hc.symm.trans (h.meetups.changed j m hm))
    | join communityId meetupId userId =>
      obtain ⟨m, hm, hc⟩ := meetup_touched h htouched
      obtain ⟨m', hm'⟩ := Option.isSome_iff_exists.mp hfound
      obtain ⟨hget, hplace⟩ := existingMeetup_placed db hm'
      cases hm.symm.trans hget
      exact .inl (hc.symm.trans hplace)
    | leave | update | cancel =>
      obtain ⟨m, hm, hc⟩ := meetup_touched h htouched
      exact .inl (hc.symm.trans (hmeetups hfound m hm))

end Writes

section Statements

open CommunityPostsService

variable {communityId postId replyId meetupId authorId userId : String} {client : Client}
  {env : AuthEnv} {db db' : SocialDb} {change : ℤ}

theorem post_mention_same {targetUserId : String}
    (h : mention communityId postId authorId env db targetUserId = .ok db') :
    SameContent db db' := by
  unfold mention at h
  split_ifs at h
  · obtain ⟨communityMentions, -, h⟩ := andThen_eq_ok.mp h
    obtain ⟨accounts, rfl⟩ := enqueued_eq_ok h
    exact ⟨rfl, rfl, rfl⟩
  · cases h
    exact SameContent.refl _

theorem reply_mention_same {targetUserId : String}
    (h : CommunityRepliesService.mention communityId postId replyId authorId env db targetUserId =
      .ok db') : SameContent db db' := by
  unfold CommunityRepliesService.mention at h
  split_ifs at h
  · obtain ⟨communityMentions, -, h⟩ := andThen_eq_ok.mp h
    obtain ⟨accounts, rfl⟩ := enqueued_eq_ok h
    exact ⟨rfl, rfl, rfl⟩
  · cases h
    exact SameContent.refl _

theorem mentions_same {f : SocialDb → String → Except AuthError SocialDb} {ids : List String}
    (hf : ∀ db db' id, f db id = .ok db' → SameContent db db') (h : ids.foldlM f db = .ok db') :
    SameContent db db' :=
  foldlM_keeps (I := SameContent db) (fun _ _ _ _ hdb hmention ↦ hdb.trans (hf _ _ _ hmention))
    (SameContent.refl db) h

theorem Wrote.after {posts : Table CommunityPost → Table CommunityPost → Prop}
    {replies : Table CommunityPostReply → Table CommunityPostReply → Prop}
    {meetups : Table CommunityMeetup → Table CommunityMeetup → Prop} {db'' : SocialDb}
    (h : Wrote posts replies meetups db db') (hsame : SameContent db' db'') :
    Wrote posts replies meetups db db'' := by
  refine ⟨?_, ?_, ?_⟩
  · rw [hsame.posts]
    exact h.posts
  · rw [hsame.replies]
    exact h.replies
  · rw [hsame.meetups]
    exact h.meetups

theorem Wrote.before {posts : Table CommunityPost → Table CommunityPost → Prop}
    {replies : Table CommunityPostReply → Table CommunityPostReply → Prop}
    {meetups : Table CommunityMeetup → Table CommunityMeetup → Prop} {db'' : SocialDb}
    (h : Wrote posts replies meetups db' db'') (hsame : SameContent db db') :
    Wrote posts replies meetups db db'' := by
  refine ⟨?_, ?_, ?_⟩
  · rw [← hsame.posts]
    exact h.posts
  · rw [← hsame.replies]
    exact h.replies
  · rw [← hsame.meetups]
    exact h.meetups

theorem postCreated_writes {dto : CreatePostDto} {p : CommunityPost}
    (h : postCreated communityId authorId dto client env db = .ok (db', p)) :
    (SocialOp.post (.create communityId authorId dto client)).Writes db db' := by
  obtain ⟨_, -, h⟩ := andThen_eq_ok.mp h
  obtain ⟨communityPosts, hcreate, h⟩ := andThen_eq_ok.mp h
  obtain ⟨db₁, hmentions, h⟩ := andThen_eq_ok.mp h
  obtain ⟨db₂, hevent, h⟩ := andThen_eq_ok.mp h
  obtain ⟨db₃, haudit, h⟩ := andThen_eq_ok.mp h
  cases h
  have hcreated : Wrote (OnlyIn CommunityPost.communityId communityId) Same Same db
      { db with communityPosts } := ⟨created_onlyIn (ofRefusal_eq_ok.mp hcreate), rfl, rfl⟩
  exact hcreated.after ((mentions_same (fun _ _ _ ↦ post_mention_same) hmentions).trans
    ((beside_same (enqueued_eq_ok hevent)).trans (beside_same (audited_eq_ok haudit))))

theorem postUpdate_writes {f : CommunityPost → CommunityPost} {p : IncludedPost}
    (h : postUpdate postId f env db = .ok (db', p))
    (hf : ∀ post, (f post).id = post.id ∧ (f post).communityId = post.communityId) :
    Wrote (OnlyAt CommunityPost.communityId postId) Same Same db db' := by
  obtain ⟨communityPosts, hupdate, h⟩ := andThen_eq_ok.mp h
  obtain ⟨updated, -, h⟩ := andThen_eq_ok.mp h
  obtain ⟨included, -, h⟩ := andThen_eq_ok.mp h
  cases h
  exact ⟨updated_onlyAt (ofRefusal_eq_ok.mp hupdate) hf, rfl, rfl⟩

theorem contentUpdate_writes {dto : UpdatePostDto} {p : IncludedPost}
    (h : contentUpdate postId dto env db = .ok (db', p)) :
    Wrote (OnlyAt CommunityPost.communityId postId) Same Same db db' := by
  obtain ⟨content, -, h⟩ := andThen_eq_ok.mp h
  obtain ⟨attachments, -, h⟩ := andThen_eq_ok.mp h
  exact postUpdate_writes h fun _ ↦ ⟨rfl, rfl⟩

theorem postDeleted_writes {u : Unit}
    (h : postDeleted communityId postId userId client env db = .ok (db', u)) :
    Wrote (OnlyAt CommunityPost.communityId postId) Same Same db db' := by
  obtain ⟨communityPosts, hupdate, h⟩ := andThen_eq_ok.mp h
  obtain ⟨db₁, hevent, h⟩ := andThen_eq_ok.mp h
  obtain ⟨db₂, haudit, h⟩ := andThen_eq_ok.mp h
  cases h
  have hdeleted : Wrote (OnlyAt CommunityPost.communityId postId) Same Same db
      { db with communityPosts } :=
    ⟨updated_onlyAt (ofRefusal_eq_ok.mp hupdate) fun _ ↦ ⟨rfl, rfl⟩, rfl, rfl⟩
  exact hdeleted.after ((beside_same (enqueued_eq_ok hevent)).trans
    (beside_same (audited_eq_ok haudit)))

theorem pinnedMoved_writes {isPinned : Bool} {eventType actor action : String} {p : IncludedPost}
    (h : pinnedMoved isPinned eventType actor action communityId postId userId client env db =
      .ok (db', p)) : Wrote (OnlyAt CommunityPost.communityId postId) Same Same db db' := by
  obtain ⟨⟨db₁, p'⟩, hupdate, h⟩ := andThen_eq_ok.mp h
  obtain ⟨db₂, hevent, h⟩ := andThen_eq_ok.mp h
  obtain ⟨db₃, haudit, h⟩ := andThen_eq_ok.mp h
  cases h
  exact (postUpdate_writes hupdate fun _ ↦ ⟨rfl, rfl⟩).after ((beside_same
    (enqueued_eq_ok hevent)).trans (beside_same (audited_eq_ok haudit)))

theorem repliesMoved_writes
    (h : CommunityRepliesService.repliesMoved postId change env db = .ok db') :
    Wrote (OnlyAt CommunityPost.communityId postId) Same Same db db' := by
  obtain ⟨communityPosts, hupdate, h⟩ := andThen_eq_ok.mp h
  cases h
  exact ⟨updated_onlyAt (ofRefusal_eq_ok.mp hupdate) fun _ ↦ ⟨rfl, rfl⟩, rfl, rfl⟩

theorem replyCreated_writes {dto : CreateReplyDto} {r : CommunityPostReply}
    (h : CommunityRepliesService.replyCreated communityId postId authorId dto env db =
      .ok (db', r)) :
    (SocialOp.reply (.create communityId postId authorId dto)).Writes db db' := by
  obtain ⟨_, -, h⟩ := andThen_eq_ok.mp h
  obtain ⟨replies, hcreate, h⟩ := andThen_eq_ok.mp h
  obtain ⟨db₁, hmoved, h⟩ := andThen_eq_ok.mp h
  obtain ⟨db₂, hmentions, h⟩ := andThen_eq_ok.mp h
  obtain ⟨db₃, hevent, h⟩ := andThen_eq_ok.mp h
  cases h
  have hposts := repliesMoved_writes hmoved
  have hcreated : (SocialOp.reply (.create communityId postId authorId dto)).Writes db db₁ := by
    refine ⟨hposts.posts, ?_, hposts.meetups⟩
    rw [hposts.replies]
    exact created_onlyIn (ofRefusal_eq_ok.mp hcreate)
  exact hcreated.after ((mentions_same (fun _ _ _ ↦ reply_mention_same) hmentions).trans
    (beside_same (enqueued_eq_ok hevent)))

theorem replyDeleted_writes {u : Unit}
    (h : CommunityRepliesService.replyDeleted postId replyId env db = .ok (db', u)) :
    Wrote (OnlyAt CommunityPost.communityId postId) (OnlyAt CommunityPostReply.postId replyId) Same
      db db' := by
  obtain ⟨replies, hupdate, h⟩ := andThen_eq_ok.mp h
  obtain ⟨db₁, hmoved, h⟩ := andThen_eq_ok.mp h
  cases h
  have hposts := repliesMoved_writes hmoved
  refine ⟨hposts.posts, ?_, hposts.meetups⟩
  rw [hposts.replies]
  exact updated_onlyAt (ofRefusal_eq_ok.mp hupdate) fun _ ↦ ⟨rfl, rfl⟩

theorem postLikesMoved_writes {p : CommunityPost}
    (h : CommunityLikesService.postLikesMoved postId change env db = .ok (db', p)) :
    Wrote (OnlyAt CommunityPost.communityId postId) Same Same db db' := by
  obtain ⟨communityPosts, hupdate, h⟩ := andThen_eq_ok.mp h
  obtain ⟨updated, -, h⟩ := andThen_eq_ok.mp h
  cases h
  exact ⟨updated_onlyAt (ofRefusal_eq_ok.mp hupdate) fun _ ↦ ⟨rfl, rfl⟩, rfl, rfl⟩

theorem replyLikesMoved_writes {r : CommunityPostReply}
    (h : CommunityLikesService.replyLikesMoved replyId change env db = .ok (db', r)) :
    Wrote Same (OnlyAt CommunityPostReply.postId replyId) Same db db' := by
  obtain ⟨replies, hupdate, h⟩ := andThen_eq_ok.mp h
  obtain ⟨updated, -, h⟩ := andThen_eq_ok.mp h
  cases h
  exact ⟨rfl, updated_onlyAt (ofRefusal_eq_ok.mp hupdate) fun _ ↦ ⟨rfl, rfl⟩, rfl⟩

theorem postLikeToggled_writes {result : ToggledLike}
    (h : CommunityLikesService.postLikeToggled communityId postId userId env db =
      .ok (db', result)) :
    Wrote (OnlyAt CommunityPost.communityId postId) Same Same db db' := by
  unfold CommunityLikesService.postLikeToggled at h
  split at h
  · obtain ⟨likes, -, h⟩ := andThen_eq_ok.mp h
    obtain ⟨⟨db₁, updated⟩, hmoved, h⟩ := andThen_eq_ok.mp h
    obtain ⟨db₂, hevent, h⟩ := andThen_eq_ok.mp h
    cases h
    have hwrote : Wrote (OnlyAt CommunityPost.communityId postId) Same Same db db₁ :=
      (postLikesMoved_writes hmoved).before ⟨rfl, rfl, rfl⟩
    exact hwrote.after (beside_same (enqueued_eq_ok hevent))
  · obtain ⟨_, -, h⟩ := andThen_eq_ok.mp h
    obtain ⟨likes, -, h⟩ := andThen_eq_ok.mp h
    obtain ⟨⟨db₁, updated⟩, hmoved, h⟩ := andThen_eq_ok.mp h
    obtain ⟨db₂, hevent, h⟩ := andThen_eq_ok.mp h
    cases h
    have hwrote : Wrote (OnlyAt CommunityPost.communityId postId) Same Same db db₁ :=
      (postLikesMoved_writes hmoved).before ⟨rfl, rfl, rfl⟩
    exact hwrote.after (beside_same (enqueued_eq_ok hevent))

theorem replyLikeToggled_writes {result : ToggledLike}
    (h : CommunityLikesService.replyLikeToggled replyId userId env db = .ok (db', result)) :
    Wrote Same (OnlyAt CommunityPostReply.postId replyId) Same db db' := by
  unfold CommunityLikesService.replyLikeToggled at h
  split at h
  · obtain ⟨likes, -, h⟩ := andThen_eq_ok.mp h
    obtain ⟨⟨db₁, updated⟩, hmoved, h⟩ := andThen_eq_ok.mp h
    cases h
    exact (replyLikesMoved_writes hmoved).before ⟨rfl, rfl, rfl⟩
  · obtain ⟨_, -, h⟩ := andThen_eq_ok.mp h
    obtain ⟨likes, -, h⟩ := andThen_eq_ok.mp h
    obtain ⟨⟨db₁, updated⟩, hmoved, h⟩ := andThen_eq_ok.mp h
    cases h
    exact (replyLikesMoved_writes hmoved).before ⟨rfl, rfl, rfl⟩

section Meetups

open CommunityMeetupsService

variable {eventId creatorId participantId : String}

theorem participantAdded_same (h : participantAdded meetupId userId env db = .ok db') :
    SameContent db db' := by
  obtain ⟨_, -, h⟩ := andThen_eq_ok.mp h
  obtain ⟨participants, -, h⟩ := andThen_eq_ok.mp h
  cases h
  exact ⟨rfl, rfl, rfl⟩

theorem participantsMoved_writes (h : participantsMoved meetupId change env db = .ok db') :
    Wrote Same Same (OnlyAt CommunityMeetup.communityId meetupId) db db' := by
  obtain ⟨meetups, hupdate, h⟩ := andThen_eq_ok.mp h
  cases h
  exact ⟨rfl, rfl, updated_onlyAt (ofRefusal_eq_ok.mp hupdate) fun _ ↦ ⟨rfl, rfl⟩⟩

theorem meetupCreated_writes {dto : CreateMeetupDto} {startsAt : Payments.Time}
    {m : CommunityMeetup}
    (h : meetupCreated communityId eventId creatorId dto startsAt client env db = .ok (db', m)) :
    (SocialOp.meetup (.create communityId creatorId dto client)).Writes db db' := by
  obtain ⟨_, -, h⟩ := andThen_eq_ok.mp h
  obtain ⟨endsAt, -, h⟩ := andThen_eq_ok.mp h
  obtain ⟨meetups, hcreate, h⟩ := andThen_eq_ok.mp h
  obtain ⟨db₁, hadded, h⟩ := andThen_eq_ok.mp h
  obtain ⟨db₂, hevent, h⟩ := andThen_eq_ok.mp h
  obtain ⟨db₃, haudit, h⟩ := andThen_eq_ok.mp h
  cases h
  have hcreated : Wrote Same Same (OnlyIn CommunityMeetup.communityId communityId) db
      { db with communityMeetups := meetups } :=
    ⟨rfl, rfl, created_onlyIn (ofRefusal_eq_ok.mp hcreate)⟩
  exact hcreated.after ((participantAdded_same hadded).trans ((beside_same
    (enqueued_eq_ok hevent)).trans (beside_same (audited_eq_ok haudit))))

theorem meetupJoined_writes {m : CommunityMeetup}
    (h : meetupJoined communityId meetupId userId env db = .ok (db', m)) :
    Wrote Same Same (OnlyAt CommunityMeetup.communityId meetupId) db db' ∧
      (existingMeetup communityId meetupId db).isSome = true := by
  obtain ⟨locked, hlocked, h⟩ := andThen_eq_ok.mp h
  obtain ⟨_, -, h⟩ := andThen_eq_ok.mp h
  obtain ⟨db₁, hadded, h⟩ := andThen_eq_ok.mp h
  obtain ⟨db₂, hmoved, h⟩ := andThen_eq_ok.mp h
  obtain ⟨updated, -, h⟩ := andThen_eq_ok.mp h
  obtain ⟨db₃, hevent, h⟩ := andThen_eq_ok.mp h
  cases h
  refine ⟨((participantsMoved_writes hmoved).before (participantAdded_same hadded)).after
    (beside_same (enqueued_eq_ok hevent)), ?_⟩
  rw [present_eq_ok.mp hlocked]
  rfl

theorem meetupLeft_writes {u : Unit}
    (h : meetupLeft communityId meetupId userId participantId env db = .ok (db', u)) :
    Wrote Same Same (OnlyAt CommunityMeetup.communityId meetupId) db db' := by
  obtain ⟨participants, -, h⟩ := andThen_eq_ok.mp h
  obtain ⟨db₁, hmoved, h⟩ := andThen_eq_ok.mp h
  obtain ⟨db₂, hevent, h⟩ := andThen_eq_ok.mp h
  cases h
  have hwrote : Wrote Same Same (OnlyAt CommunityMeetup.communityId meetupId) db db₁ :=
    (participantsMoved_writes hmoved).before ⟨rfl, rfl, rfl⟩
  exact hwrote.after (beside_same (enqueued_eq_ok hevent))

theorem meetupUpdate_writes {dto : UpdateMeetupDto} {a : CommunityMeetup × Option UserSummary}
    (h : meetupUpdate meetupId dto env db = .ok (db', a)) :
    Wrote Same Same (OnlyAt CommunityMeetup.communityId meetupId) db db' := by
  obtain ⟨title, -, h⟩ := andThen_eq_ok.mp h
  obtain ⟨description, -, h⟩ := andThen_eq_ok.mp h
  obtain ⟨startsAt, -, h⟩ := andThen_eq_ok.mp h
  obtain ⟨endsAt, -, h⟩ := andThen_eq_ok.mp h
  obtain ⟨location, -, h⟩ := andThen_eq_ok.mp h
  obtain ⟨status, -, h⟩ := andThen_eq_ok.mp h
  obtain ⟨meetups, hupdate, h⟩ := andThen_eq_ok.mp h
  obtain ⟨updated, -, h⟩ := andThen_eq_ok.mp h
  cases h
  exact ⟨rfl, rfl, updated_onlyAt (ofRefusal_eq_ok.mp hupdate) fun _ ↦ ⟨rfl, rfl⟩⟩

theorem meetupCancelled_writes {u : Unit}
    (h : meetupCancelled communityId meetupId userId client env db = .ok (db', u)) :
    Wrote Same Same (OnlyAt CommunityMeetup.communityId meetupId) db db' := by
  obtain ⟨meetups, hupdate, h⟩ := andThen_eq_ok.mp h
  obtain ⟨db₁, hevent, h⟩ := andThen_eq_ok.mp h
  obtain ⟨db₂, haudit, h⟩ := andThen_eq_ok.mp h
  cases h
  have hcancelled : Wrote Same Same (OnlyAt CommunityMeetup.communityId meetupId) db
      { db with communityMeetups := meetups } :=
    ⟨rfl, rfl, updated_onlyAt (ofRefusal_eq_ok.mp hupdate) fun _ ↦ ⟨rfl, rfl⟩⟩
  exact hcancelled.after ((beside_same (enqueued_eq_ok hevent)).trans
    (beside_same (audited_eq_ok haudit)))

end Meetups

end Statements

section Calls

open CommunityAuthorizationService

variable {op : SocialOp} {history : SocialHistory} {communityId userId : String}
  {userRoles : List String} {q : SocialDb → Prop} {db : SocialDb} {label : String} {env : AuthEnv}

theorem MemberIn.append {later : SocialHistory} (h : MemberIn communityId userId history) :
    MemberIn communityId userId (history ++ later) := ⟨h.community.append, h.member.append⟩

theorem ModeratorOf.append {later : SocialHistory}
    (h : ModeratorOf communityId userId userRoles history) :
    ModeratorOf communityId userId userRoles (history ++ later) := by
  rcases h with h | ⟨hcommunity, hmember⟩
  · exact .inl h.append
  · exact .inr ⟨hcommunity.append, hmember.append⟩

theorem does_read : op.Does history label env db db := .inl (SameContent.refl db)

theorem findCommunity_sees : (findCommunity communityId).Traces op.Does (fun history' c ↦
    history <+: history' ∧ Saw history' fun db ↦ c ∈ existingCommunity communityId db) history := by
  refine Call.traces_bind (Call.traces_reads (fun _ _ ↦ does_read) fun env db ↦ ?_)
  refine Call.traces_returned fun c hc ↦ ⟨List.prefix_append _ _, saw_concat ?_⟩
  exact present_eq_ok.mp hc

theorem assertActiveMember_sees : (assertActiveMember userId communityId).Traces op.Does
    (fun history' _ ↦ history <+: history' ∧ MemberIn communityId userId history') history := by
  refine Call.traces_bind (findCommunity_sees.mono fun history₁ c ⟨hgrown, hcommunity⟩ ↦ ?_)
  refine Call.traces_bind (Call.traces_reads (fun _ _ ↦ does_read) fun env db ↦ ?_)
  refine Call.traces_bind (Call.traces_returned fun m hm ↦ Call.traces_returned fun _ _ ↦ ?_)
  obtain ⟨hfound, hactive⟩ := Option.filter_eq_some_iff.mp (present_eq_ok.mp hm)
  refine ⟨hgrown.trans (List.prefix_append _ _), ?_, saw_concat ⟨m, hfound, ?_⟩⟩
  · obtain ⟨event, hevent, hc⟩ := hcommunity
    exact ⟨event, List.mem_append_left _ hevent, Option.isSome_of_mem hc⟩
  · exact of_decide_eq_true hactive

theorem assertCanManageCommunity_sees :
    (assertCanManageCommunity userId userRoles communityId).Traces op.Does (fun history' _ ↦
      history <+: history' ∧ ManagerOf communityId userId userRoles history') history := by
  refine Call.traces_bind (findCommunity_sees.mono fun history₁ c ⟨hgrown, hcommunity⟩ ↦ ?_)
  refine Call.traces_bind (Call.traces_returned fun _ hmay ↦ Call.traces_returned fun _ _ ↦ ?_)
  obtain ⟨event, hevent, hc⟩ := hcommunity
  exact ⟨hgrown, event, hevent, c, hc, demand_eq_ok.mp hmay⟩

theorem assertCanModerateCommunity_sees :
    (assertCanModerateCommunity userId userRoles communityId).Traces op.Does (fun history' _ ↦
      history <+: history' ∧ ModeratorOf communityId userId userRoles history') history := by
  refine Call.traces_bind (findCommunity_sees.mono fun history₁ c ⟨hgrown, hcommunity⟩ ↦ ?_)
  obtain ⟨event, hevent, hc⟩ := hcommunity
  split_ifs with hmay
  · exact Call.traces_returned fun _ _ ↦ ⟨hgrown, .inl ⟨event, hevent, c, hc, hmay⟩⟩
  · refine Call.traces_bind (Call.traces_reads (fun _ _ ↦ does_read) fun env db ↦ ?_)
    refine Call.traces_bind (Call.traces_returned fun _ hmember ↦ Call.traces_returned fun _ _ ↦ ?_)
    obtain ⟨m, hm, hactive, hrole⟩ := demand_eq_ok.mp hmember
    refine ⟨hgrown.trans (List.prefix_append _ _), .inr ⟨?_, saw_concat ⟨m, hm, hactive, hrole⟩⟩⟩
    exact ⟨event, List.mem_append_left _ hevent, Option.isSome_of_mem hc⟩

theorem reading_does {α : Type} {c : SocialCall α} (hc : c.Each fun _ db db' ↦ db' = db) :
    c.Traces op.Does (fun _ _ ↦ True) history := by
  refine Call.traces_each hc ?_
  rintro history label env db _ rfl
  exact does_read

theorem findPost_sees {postId : String} : (CommunityPostsService.findPost communityId postId).Traces
    op.Does (fun history' p ↦ history <+: history' ∧
      Saw history' fun db ↦ p.post ∈ existingPost communityId postId db) history := by
  refine Call.traces_bind (Call.traces_reads (fun _ _ ↦ does_read) fun env db ↦ ?_)
  refine Call.traces_bind (Call.traces_returned fun found hfound ↦ ?_)
  refine Call.traces_returned fun p hp ↦ ⟨List.prefix_append _ _, saw_concat ?_⟩
  have hp : found = some p := present_eq_ok.mp hp
  subst hp
  cases hpost : existingPost communityId postId db with
  | none =>
    rw [hpost] at hfound
    cases hfound
  | some post =>
    rw [hpost] at hfound
    obtain ⟨p', hp', hsome⟩ := andThen_eq_ok.mp hfound
    obtain ⟨author, -, hincluded⟩ := andThen_eq_ok.mp hp'
    cases hincluded
    cases hsome
    rfl

theorem posts_does (op : PostOp) : op.runs.Traces (SocialOp.post op).Does (fun _ _ ↦ True) [] := by
  cases op with
  | create communityId userId dto client =>
    refine Call.traces_map (Call.traces_bind (assertActiveMember_sees.mono
      fun history _ ⟨_, hmember⟩ ↦ ?_))
    refine Call.traces_bind (Call.traces_writes (fun _ _ ↦ does_read) fun env db db' p h ↦
      ⟨.inr ⟨postCreated_writes h, hmember, trivial⟩, ?_⟩)
    exact reading_does (Call.each_bind (Call.each_reads fun _ ↦ rfl) fun _ ↦
      Call.each_bind Call.each_returned fun _ ↦ Call.each_returned)
  | update communityId postId userId userRoles dto =>
    refine Call.traces_map (Call.traces_bind (findPost_sees.mono fun history p ⟨_, hfound⟩ ↦ ?_))
    refine Call.traces_bind (Call.traces_returned fun _ hmay ↦ ?_)
    refine Call.traces_bind (Call.traces_writes (fun _ _ ↦ does_read) fun env db db' p h ↦
      ⟨.inr ⟨contentUpdate_writes h, ?_, ?_⟩, Call.traces_returned fun _ _ ↦ trivial⟩)
    · obtain ⟨event, hevent, hp⟩ := hfound
      exact (demand_eq_ok.mp hmay).symm.imp id fun hauthor ↦ ⟨event, hevent, _, hp, hauthor⟩
    · obtain ⟨event, hevent, hp⟩ := hfound
      exact ⟨event, hevent, Option.isSome_of_mem hp⟩
  | delete communityId postId userId userRoles client =>
    refine Call.traces_map (Call.traces_bind (Call.traces_reads (fun _ _ ↦ does_read)
      fun env before ↦ ?_))
    refine Call.traces_bind (Call.traces_returned fun p hp ↦ ?_)
    have hp : existingPost communityId postId before = some p := present_eq_ok.mp hp
    have hfound : Saw ([] ++ [("communityPost.findFirst", before, before)])
        fun db ↦ (existingPost communityId postId db).isSome = true :=
      saw_concat (Option.isSome_of_mem hp)
    dsimp only
    split_ifs with hauthor
    · exact Call.traces_bind (Call.traces_writes (fun _ _ ↦ does_read) fun env db db' u h ↦
        ⟨.inr ⟨postDeleted_writes h, .inr (saw_concat ⟨p, hp, hauthor⟩), hfound⟩,
          Call.traces_returned fun _ _ ↦ trivial⟩)
    · refine Call.traces_bind (assertCanModerateCommunity_sees.mono
        fun history _ ⟨hgrown, hmoderator⟩ ↦ ?_)
      exact Call.traces_bind (Call.traces_writes (fun _ _ ↦ does_read) fun env db db' u h ↦
        ⟨.inr ⟨postDeleted_writes h, .inl hmoderator, hfound.of_prefix hgrown⟩,
          Call.traces_returned fun _ _ ↦ trivial⟩)
  | pin communityId postId userId userRoles client
  | unpin communityId postId userId userRoles client =>
    refine Call.traces_map (Call.traces_bind (assertCanModerateCommunity_sees.mono
      fun history _ ⟨_, hmoderator⟩ ↦ ?_))
    refine Call.traces_bind (findPost_sees.mono fun history p ⟨hgrown, hfound⟩ ↦ ?_)
    refine Call.traces_bind (Call.traces_writes (fun _ _ ↦ does_read) fun env db db' p h ↦
      ⟨.inr ⟨pinnedMoved_writes h, ?_, ?_⟩, Call.traces_returned fun _ _ ↦ trivial⟩)
    · obtain ⟨later, rfl⟩ := hgrown
      exact hmoderator.append
    · obtain ⟨event, hevent, hp⟩ := hfound
      exact ⟨event, hevent, Option.isSome_of_mem hp⟩

theorem replies_does (op : ReplyOp) :
    op.runs.Traces (SocialOp.reply op).Does (fun _ _ ↦ True) [] := by
  cases op with
  | create communityId postId userId dto =>
    refine Call.traces_map (Call.traces_bind (assertActiveMember_sees.mono
      fun history _ ⟨_, hmember⟩ ↦ ?_))
    refine Call.traces_bind (Call.traces_reads (fun _ _ ↦ does_read) fun env before ↦ ?_)
    refine Call.traces_bind (Call.traces_returned fun p hp ↦ ?_)
    have hfound : Saw (history ++ [("communityPost.findFirst", before, before)])
        fun db ↦ (existingPost communityId postId db).isSome = true :=
      saw_concat (Option.isSome_of_mem (present_eq_ok.mp hp))
    refine Call.traces_bind (Call.traces_returned fun _ _ ↦ ?_)
    have hparent : (CommunityRepliesService.assertParent postId dto.parentReplyId).Each
        fun _ db db' ↦ db' = db := by
      unfold CommunityRepliesService.assertParent
      split
      · exact Call.each_returned
      · exact Call.each_bind (Call.each_reads fun _ ↦ rfl) fun _ ↦ Call.each_returned
    refine Call.traces_bind ((reading_does hparent).grows.mono fun later _ ⟨hgrown, _⟩ ↦ ?_)
    have hentitled : (SocialOp.reply (.create communityId postId userId dto)).Entitled later := by
      obtain ⟨rest, rfl⟩ := hgrown
      exact hmember.append.append
    refine Call.traces_bind (Call.traces_writes (fun _ _ ↦ does_read) fun env db db' r h ↦
      ⟨.inr ⟨replyCreated_writes h, hentitled, hfound.of_prefix hgrown⟩, ?_⟩)
    exact reading_does (Call.each_bind (Call.each_reads fun _ ↦ rfl) fun _ ↦
      Call.each_bind Call.each_returned fun _ ↦ Call.each_returned)
  | delete communityId postId replyId userId userRoles =>
    refine Call.traces_map (Call.traces_bind (Call.traces_reads (fun _ _ ↦ does_read)
      fun env before ↦ ?_))
    refine Call.traces_bind (Call.traces_returned fun r hr ↦ ?_)
    have hr : existingReply postId replyId before = some r := present_eq_ok.mp hr
    have hfound : Saw ([] ++ [("communityPostReply.findFirst", before, before)])
        fun db ↦ (existingReply postId replyId db).isSome = true :=
      saw_concat (Option.isSome_of_mem hr)
    have hwrites : ∀ history, SocialOp.Entitled (.reply
        (.delete communityId postId replyId userId userRoles)) history →
        Saw history (fun db ↦ (existingReply postId replyId db).isSome = true) →
        Call.Traces (SocialOp.reply (.delete communityId postId replyId userId userRoles)).Does
          (fun _ _ ↦ True) history (do
            Call.writes "$transaction" (CommunityRepliesService.replyDeleted postId replyId)
            return (⟨true, "Reply deleted successfully"⟩ : MessageDto)) :=
      fun history hentitled hfound ↦ Call.traces_bind (Call.traces_writes (fun _ _ ↦ does_read)
        fun env db db' u h ↦ ⟨.inr ⟨replyDeleted_writes h, hentitled, hfound⟩,
          Call.traces_returned fun _ _ ↦ trivial⟩)
    refine Call.traces_bind ?_
    unfold CommunityRepliesService.assertCanDelete
    split_ifs with hauthor
    · exact Call.traces_returned fun _ _ ↦ hwrites _ (.inr (saw_concat ⟨r, hr, hauthor⟩)) hfound
    · refine Call.traces_bind (assertCanModerateCommunity_sees.mono
        fun history _ ⟨hgrown, hmoderator⟩ ↦ Call.traces_returned fun _ _ ↦ ?_)
      exact hwrites _ (.inl hmoderator) (hfound.of_prefix hgrown)

theorem likes_does (op : LikeOp) : op.runs.Traces (SocialOp.like op).Does (fun _ _ ↦ True) [] := by
  cases op with
  | togglePostLike communityId postId userId =>
    refine Call.traces_bind (assertActiveMember_sees.mono fun history _ ⟨_, hmember⟩ ↦ ?_)
    refine Call.traces_bind (Call.traces_reads (fun _ _ ↦ does_read) fun env before ↦ ?_)
    refine Call.traces_bind (Call.traces_returned fun _ hsome ↦ ?_)
    have hfound : Saw (history ++ [("communityPost.findFirst", before, before)])
        fun db ↦ (existingPost communityId postId db).isSome = true :=
      saw_concat (demand_eq_ok.mp hsome)
    exact Call.traces_writes (fun _ _ ↦ does_read) fun env db db' result h ↦
      ⟨.inr ⟨postLikeToggled_writes h, hmember.append, hfound⟩, trivial⟩
  | toggleReplyLike communityId postId replyId userId =>
    refine Call.traces_bind (assertActiveMember_sees.mono fun history _ ⟨_, hmember⟩ ↦ ?_)
    refine Call.traces_bind (Call.traces_reads (fun _ _ ↦ does_read) fun env before ↦ ?_)
    refine Call.traces_bind (Call.traces_returned fun _ hsome ↦ ?_)
    have hfound : Saw (history ++ [("communityPostReply.findFirst", before, before)])
        fun db ↦ (existingReply postId replyId db).isSome = true :=
      saw_concat (demand_eq_ok.mp hsome)
    exact Call.traces_writes (fun _ _ ↦ does_read) fun env db db' result h ↦
      ⟨.inr ⟨replyLikeToggled_writes h, hmember.append, hfound⟩, trivial⟩

section Meetups

open CommunityMeetupsService

/-- The creator may change a meetup, and so may admins and who has the community. -/
theorem assertCanChange_sees {meetupId : String} {m : CommunityMeetup}
    (hm : Saw history fun db ↦ m ∈ existingMeetup communityId meetupId db) :
    (assertCanChange communityId userId userRoles m).Traces op.Does (fun history' _ ↦
      history <+: history' ∧ ("ADMIN" ∈ userRoles ∨
        ManagerOf communityId userId userRoles history' ∨ Saw history' fun db ↦
          ∃ m ∈ existingMeetup communityId meetupId db, m.createdById = userId))
      history := by
  obtain ⟨event, hevent, hm⟩ := hm
  unfold assertCanChange
  split_ifs with hmay
  · refine Call.traces_returned fun _ _ ↦ ⟨List.prefix_rfl, ?_⟩
    rcases hmay with hcreator | hadmin
    · exact .inr (.inr ⟨event, hevent, m, hm, hcreator⟩)
    · exact .inl hadmin
  · exact Call.traces_bind (assertCanManageCommunity_sees.mono fun history' _ ⟨hgrown, hmanager⟩ ↦
      Call.traces_returned fun _ _ ↦ ⟨hgrown, .inr (.inl hmanager)⟩)

theorem meetups_does (op : MeetupOp) :
    op.runs.Traces (SocialOp.meetup op).Does (fun _ _ ↦ True) [] := by
  cases op with
  | create communityId userId dto client =>
    refine Call.traces_map (Call.traces_bind (assertActiveMember_sees.mono
      fun history _ ⟨_, hmember⟩ ↦ ?_))
    refine Call.traces_bind (Call.traces_returned fun startsAt _ ↦ ?_)
    refine Call.traces_bind (Call.traces_returned fun _ _ ↦ ?_)
    refine Call.traces_bind (Call.traces_reads (fun _ _ ↦ does_read) fun env before ↦ ?_)
    refine Call.traces_bind (Call.traces_returned fun _ _ ↦ ?_)
    refine Call.traces_bind (Call.traces_writes (fun _ _ ↦ does_read) fun env db db' m h ↦
      ⟨.inr ⟨meetupCreated_writes h, hmember.append, trivial⟩, ?_⟩)
    exact reading_does (Call.each_bind (Call.each_reads fun _ ↦ rfl) fun _ ↦ Call.each_returned)
  | join communityId meetupId userId =>
    refine Call.traces_map (Call.traces_bind (assertActiveMember_sees.mono
      fun history _ ⟨_, hmember⟩ ↦ ?_))
    refine Call.traces_bind (Call.traces_writes (fun _ _ ↦ does_read) fun env db db' m h ↦
      ⟨.inr ⟨(meetupJoined_writes h).1, hmember, (meetupJoined_writes h).2⟩, ?_⟩)
    exact reading_does (Call.each_bind (Call.each_reads fun _ ↦ rfl) fun _ ↦ Call.each_returned)
  | leave communityId meetupId userId =>
    refine Call.traces_map (Call.traces_bind (assertActiveMember_sees.mono
      fun history _ ⟨_, hmember⟩ ↦ ?_))
    refine Call.traces_bind (Call.traces_reads (fun _ _ ↦ does_read) fun env before ↦ ?_)
    refine Call.traces_bind (Call.traces_returned fun m hm ↦ ?_)
    have hfound : Saw (history ++ [("communityMeetup.findFirst", before, before)])
        fun db ↦ (existingMeetup communityId meetupId db).isSome = true :=
      saw_concat (Option.isSome_of_mem (present_eq_ok.mp hm))
    refine Call.traces_bind (Call.traces_returned fun _ _ ↦ ?_)
    refine Call.traces_bind (Call.traces_reads (fun _ _ ↦ does_read) fun env before ↦ ?_)
    refine Call.traces_bind (Call.traces_returned fun existing _ ↦ ?_)
    exact Call.traces_bind (Call.traces_writes (fun _ _ ↦ does_read) fun env db db' u h ↦
      ⟨.inr ⟨meetupLeft_writes h, hmember.append.append, hfound.append⟩,
        Call.traces_returned fun _ _ ↦ trivial⟩)
  | update communityId meetupId userId userRoles dto =>
    refine Call.traces_map (Call.traces_bind (Call.traces_reads (fun _ _ ↦ does_read)
      fun env before ↦ ?_))
    refine Call.traces_bind (Call.traces_returned fun m hm ↦ ?_)
    have hm : Saw ([] ++ [("communityMeetup.findFirst", before, before)])
        fun db ↦ m ∈ existingMeetup communityId meetupId db := saw_concat (present_eq_ok.mp hm)
    refine Call.traces_bind ((assertCanChange_sees hm).mono fun history _ ⟨hgrown, hmay⟩ ↦ ?_)
    refine Call.traces_bind (Call.traces_writes (fun _ _ ↦ does_read) fun env db db' a h ↦
      ⟨.inr ⟨meetupUpdate_writes h, hmay, ?_⟩, Call.traces_returned fun _ _ ↦ trivial⟩)
    obtain ⟨event, hevent, hm⟩ := hm.of_prefix hgrown
    exact ⟨event, hevent, Option.isSome_of_mem hm⟩
  | cancel communityId meetupId userId userRoles client =>
    refine Call.traces_map (Call.traces_bind (Call.traces_reads (fun _ _ ↦ does_read)
      fun env before ↦ ?_))
    refine Call.traces_bind (Call.traces_returned fun m hm ↦ ?_)
    have hm : Saw ([] ++ [("communityMeetup.findFirst", before, before)])
        fun db ↦ m ∈ existingMeetup communityId meetupId db := saw_concat (present_eq_ok.mp hm)
    refine Call.traces_bind ((assertCanChange_sees hm).mono fun history _ ⟨hgrown, hmay⟩ ↦ ?_)
    refine Call.traces_bind (Call.traces_writes (fun _ _ ↦ does_read) fun env db db' u h ↦
      ⟨.inr ⟨meetupCancelled_writes h, hmay, ?_⟩, Call.traces_returned fun _ _ ↦ trivial⟩)
    obtain ⟨event, hevent, hm⟩ := hm.of_prefix hgrown
    exact ⟨event, hevent, Option.isSome_of_mem hm⟩

end Meetups

theorem social_does (op : SocialOp) : op.runs.Traces op.Does (fun _ _ ↦ True) [] := by
  cases op with
  | post op => exact Call.traces_map (posts_does op)
  | reply op => exact Call.traces_map (replies_does op)
  | like op => exact Call.traces_map (likes_does op)
  | meetup op => exact Call.traces_map (meetups_does op)

/-- Whatever ids a path combines, and whoever else is at work: who writes a post, a reply or a
meetup of a community, or the numbers beside it, was found entitled to it in the community of the
path, and that is the community of the content, unless a reply is deleted or liked under a post
which is in another community. -/
theorem content_rights {p : Pool SocialDb SocialTask}
    (h : Reach socialCalls.Step (fun _ _ ↦ True) (fun p ↦ p.threads = []) p) :
    ∀ t ∈ p.threads, ∀ earlier label db db' later,
      t.history = earlier ++ (label, db, db') :: later → ∀ c, Touched c db db' →
        t.op.Entitled earlier ∧ (c = t.op.communityId ∨ ∃ postId ∈ t.op.unasked,
          ∃ p ∈ db.communityPosts.get? postId, p.communityId = c) := by
  intro t ht earlier label db db' later hhistory c htouched
  have hrecorded := recorded_reach (R := InPlace) InPlace.refl (fun _ _ _ ↦ InPlace.trans)
    social_does (fun _ _ _ _ _ _ hdoes ↦ hdoes.inPlace) (fun _ hp ↦ hp) h
  obtain ⟨⟨env, hdoes⟩, hsince⟩ := hrecorded.made t ht earlier label db db' later hhistory
  rcases hdoes with hsame | ⟨hwrites, hentitled, hfound⟩
  · exact absurd htouched (same_untouched hsame)
  · exact ⟨hentitled, hwrites.located hfound hsince htouched⟩

end Calls

section Sample

/-- The creator of the community pins the post. -/
theorem post_pinned : ∃ p : Pool SocialDb SocialTask,
    p.shared.communityPosts.rows.map CommunityPost.isPinned = [true] ∧
    ∀ t ∈ p.threads, ∀ earlier label db db' later,
      t.history = earlier ++ (label, db, db') :: later → ∀ c, Touched c db db' →
        t.op.Entitled earlier ∧ (c = t.op.communityId ∨ ∃ postId ∈ t.op.unasked,
          ∃ p ∈ db.communityPosts.get? postId, p.communityId = c) := by
  have hrun : (socialCalls.play (fun _ _ _ ↦ true) (requests 0 3 "a") ⟨postDb,
      [SocialOp.post (.pin "community-1" "post-1" "user-1" [] nobody)].map fun op ↦
        ⟨op, [], op.runs⟩⟩).any
          (fun p ↦ p.shared.communityPosts.rows.map CommunityPost.isPinned == [true]) = true := by
    decide +kernel
  obtain ⟨p, hp, htest⟩ := (Option.any_eq_true ..).mp hrun
  have hreach : Reach socialCalls.Step (Heeding fun _ _ _ _ ↦ True) (fun p ↦ p.threads = []) p :=
    reach_tasks (fun _ _ _ _ _ _ _ _ ↦ trivial) rfl hp
  exact ⟨p, beq_iff_eq.mp htest, content_rights (hreach.mono fun _ _ _ ↦ trivial)⟩

/-- Beside the community of the reply there is another one. -/
def twoCommunitiesDb : SocialDb :=
  { replyDb with
    communities := (replyDb.communities.create
      { sampleCommunity with
        id := "community-2"
        createdById := "user-3" }).toOption.getD .empty }

/-- Who has the other community deletes the reply on a path with that community. -/
theorem reply_deleted_astray : ∃ p : Pool SocialDb SocialTask,
    Reach socialCalls.Step (fun _ _ ↦ True) (fun p ↦ p.threads = []) p ∧
      p.threads.map (fun t ↦ t.op.communityId) = ["community-2"] ∧
      p.shared.communityPosts.rows.map CommunityPost.communityId = ["community-1"] ∧
      p.shared.communityPostReplies.rows.map CommunityPostReply.status = [.deleted] := by
  have hrun : (socialCalls.play (fun _ _ _ ↦ true) (requests 0 3 "a") ⟨twoCommunitiesDb,
      [SocialOp.reply (.delete "community-2" "post-1" "reply-1" "user-3" [])].map fun op ↦
        ⟨op, [], op.runs⟩⟩).any (fun p ↦
          p.threads.map (fun t ↦ t.op.communityId) == ["community-2"] &&
          p.shared.communityPosts.rows.map CommunityPost.communityId == ["community-1"] &&
          p.shared.communityPostReplies.rows.map CommunityPostReply.status == [.deleted]) =
            true := by
    decide +kernel
  obtain ⟨p, hp, htest⟩ := (Option.any_eq_true ..).mp hrun
  obtain ⟨htest, hdeleted⟩ := Bool.and_eq_true_iff.mp htest
  obtain ⟨hpath, hcommunity⟩ := Bool.and_eq_true_iff.mp htest
  have hreach : Reach socialCalls.Step (Heeding fun _ _ _ _ ↦ True) (fun p ↦ p.threads = []) p :=
    reach_tasks (fun _ _ _ _ _ _ _ _ ↦ trivial) rfl hp
  exact ⟨p, hreach.mono fun _ _ _ ↦ trivial, beq_iff_eq.mp hpath, beq_iff_eq.mp hcommunity,
    beq_iff_eq.mp hdeleted⟩

end Sample

end Innovents.Communities.Social
