import Innovents.Communities.Social.CommunityLikesService
import Innovents.Communities.Social.Memberships
import Mathlib.Data.Nat.Bits

namespace Innovents.Communities.Social

open Innovents.Lib Innovents.Auth Innovents.Platform CommunityLikesService

inductive LikeOp
  | togglePostLike (communityId postId userId : String)
  | toggleReplyLike (communityId postId replyId userId : String)

def LikeOp.runs : LikeOp → SocialCall ToggledLike
  | togglePostLike communityId postId userId =>
    CommunityLikesService.togglePostLike communityId postId userId
  | toggleReplyLike communityId postId replyId userId =>
    CommunityLikesService.toggleReplyLike communityId postId replyId userId

abbrev LikeTask := Task LikeOp String AuthEnv SocialDb AuthError ToggledLike

def likeCalls : Machine SocialDb LikeTask AuthEnv := tasks LikeOp.runs

section Counts

/-- Every like belongs to a post or a reply, whose counter counts its likes. -/
structure LikesTallied (db : SocialDb) : Prop where
  posts : Tallied CommunityPostLike.postId (fun _ ↦ true) CommunityPost.likeCount
    db.communityPostLikes db.communityPosts
  replies : Tallied CommunityReplyLike.replyId (fun _ ↦ true) CommunityPostReply.likeCount
    db.communityReplyLikes db.communityPostReplies

def postLikes (postId : String) (db : SocialDb) : ℕ :=
  db.communityPostLikes.rows.countP fun l ↦ l.postId == postId

def replyLikes (replyId : String) (db : SocialDb) : ℕ :=
  db.communityReplyLikes.rows.countP fun l ↦ l.replyId == replyId

def postLiked (postId userId : String) (db : SocialDb) : Bool :=
  has CommunityPostLike.postId CommunityPostLike.userId postId userId db.communityPostLikes

def replyLiked (replyId userId : String) (db : SocialDb) : Bool :=
  has CommunityReplyLike.replyId CommunityReplyLike.userId replyId userId db.communityReplyLikes

variable {db db' : SocialDb}

theorem LikesTallied.post (h : LikesTallied db) {k : String} {post : CommunityPost}
    (hpost : db.communityPosts.get? k = some post) :
    post.likeCount = postLikes k db ∧ 0 ≤ post.likeCount := by
  refine ⟨?_, h.posts.nonneg hpost⟩
  have hcount := h.posts.tally k post hpost
  simp only [counted, Bool.and_true] at hcount
  exact hcount

theorem LikesTallied.reply (h : LikesTallied db) {k : String} {reply : CommunityPostReply}
    (hreply : db.communityPostReplies.get? k = some reply) :
    reply.likeCount = replyLikes k db ∧ 0 ≤ reply.likeCount := by
  refine ⟨?_, h.replies.nonneg hreply⟩
  have hcount := h.replies.tally k reply hreply
  simp only [counted, Bool.and_true] at hcount
  exact hcount

theorem postLike_unique (db : SocialDb) : ∀ a ∈ db.communityPostLikes.rows,
    ∀ b ∈ db.communityPostLikes.rows, a.postId = b.postId → a.userId = b.userId → a = b := by
  intro a ha b hb hpost huser
  refine db.communityPostLikes.eq_of_unique (List.mem_singleton_self _) ha hb rfl ?_
  rw [hpost, huser]

theorem replyLike_unique (db : SocialDb) : ∀ a ∈ db.communityReplyLikes.rows,
    ∀ b ∈ db.communityReplyLikes.rows, a.replyId = b.replyId → a.userId = b.userId → a = b := by
  intro a ha b hb hreply huser
  refine db.communityReplyLikes.eq_of_unique (List.mem_singleton_self _) ha hb rfl ?_
  rw [hreply, huser]

end Counts

section Toggles

variable {db db' : SocialDb}

/-- What a call has done that succeeds. -/
def LikeOp.Toggles (op : LikeOp) (db db' : SocialDb) : Prop :=
  match op with
  | togglePostLike _ postId userId => PostToggled postId userId db db' ∧
    db'.communityReplyLikes = db.communityReplyLikes ∧
      db'.communityPostReplies = db.communityPostReplies
  | toggleReplyLike _ _ replyId userId => ReplyToggled replyId userId db db' ∧
    db'.communityPostLikes = db.communityPostLikes ∧ db'.communityPosts = db.communityPosts

/-- A request toggles the like if the call succeeds with it, and changes nothing otherwise. -/
def LikeOp.Does (op : LikeOp) (_ : AuthEnv) (_ : String) (db db' : SocialDb)
    (r : Option (Except AuthError ToggledLike)) : Prop :=
  if r.any Except.isOk then op.Toggles db db' else db' = db

/-- Whether the operation toggles the like of the post by the user. -/
def LikeOp.onPost (postId userId : String) : LikeOp → Bool
  | togglePostLike _ post user => post == postId && user == userId
  | toggleReplyLike .. => false

/-- Whether the operation toggles the like of the reply by the user. -/
def LikeOp.onReply (replyId userId : String) : LikeOp → Bool
  | togglePostLike .. => false
  | toggleReplyLike _ _ reply user => reply == replyId && user == userId

theorem LikeOp.Toggles.tallied {op : LikeOp} (h : op.Toggles db db') (hdb : LikesTallied db) :
    LikesTallied db' := by
  cases op with
  | togglePostLike communityId postId userId =>
    obtain ⟨htoggled, hlikes, hreplies⟩ := h
    refine ⟨htoggled.tallied hdb.posts, ?_⟩
    rw [hlikes, hreplies]
    exact hdb.replies
  | toggleReplyLike communityId postId replyId userId =>
    obtain ⟨htoggled, hlikes, hposts⟩ := h
    refine ⟨?_, htoggled.tallied hdb.replies⟩
    rw [hlikes, hposts]
    exact hdb.posts

theorem LikeOp.Toggles.postLiked {op : LikeOp} (h : op.Toggles db db') (postId userId : String) :
    postLiked postId userId db' = (postLiked postId userId db ^^ op.onPost postId userId) := by
  cases op with
  | togglePostLike communityId post user => exact h.1.has (postLike_unique db) postId userId
  | toggleReplyLike communityId post reply user =>
    rw [Social.postLiked, h.2.1, LikeOp.onPost, Bool.xor_false]
    rfl

theorem LikeOp.Toggles.replyLiked {op : LikeOp} (h : op.Toggles db db') (replyId userId : String) :
    replyLiked replyId userId db' = (replyLiked replyId userId db ^^ op.onReply replyId userId) := by
  cases op with
  | togglePostLike communityId post user =>
    rw [Social.replyLiked, h.2.1, LikeOp.onReply, Bool.xor_false]
    rfl
  | toggleReplyLike communityId post reply user =>
    exact h.1.has (replyLike_unique db) replyId userId

theorem transaction_does {op : LikeOp}
    {transaction : AuthEnv → SocialDb → Except AuthError (SocialDb × ToggledLike)}
    (h : ∀ env db db' result, transaction env db = .ok (db', result) → op.Toggles db db') :
    (Call.writes "$transaction" transaction : SocialCall ToggledLike).Answers op.Does := by
  intro env db
  refine ⟨?_, trivial⟩
  dsimp only
  cases hr : (Faulty.fault env).elim (transaction env db) .error with
  | ok q => exact h env db q.1 q.2 (Call.elim_fault hr).2
  | error x => rfl

theorem runs_toggle (op : LikeOp) : op.runs.Answers op.Does := by
  have hreads : ∀ env label db (r : Option (Except AuthError ToggledLike)),
      (∀ b, r ≠ some (.ok b)) → op.Does env label db db r := by
    intro env label db r hr
    have hfails : r.any Except.isOk = false := by
      rcases r with _ | _ | b
      · rfl
      · rfl
      · exact absurd rfl (hr b)
    simp only [LikeOp.Does, hfails, Bool.false_eq_true, if_false]
  cases op with
  | togglePostLike communityId postId userId =>
    refine Call.answers_reading_bind (CommunityAuthorizationService.assertActiveMember_each
      (fun _ ↦ rfl) fun _ ↦ rfl) hreads (fun _ _ ↦ nofun) fun _ ↦ ?_
    refine Call.answers_reading_bind (Call.each_reads fun _ ↦ rfl) hreads ?_ fun post ↦ ?_
    · intro post b
      rw [Call.bind_eq, Call.result?_bind]
      cases post <;> exact nofun
    refine Call.answers_returned_bind fun _ ↦ ?_
    exact transaction_does fun env db db' result h ↦ postLikeToggled_eq h
  | toggleReplyLike communityId postId replyId userId =>
    refine Call.answers_reading_bind (CommunityAuthorizationService.assertActiveMember_each
      (fun _ ↦ rfl) fun _ ↦ rfl) hreads (fun _ _ ↦ nofun) fun _ ↦ ?_
    refine Call.answers_reading_bind (Call.each_reads fun _ ↦ rfl) hreads ?_ fun reply ↦ ?_
    · intro reply b
      rw [Call.bind_eq, Call.result?_bind]
      cases reply <;> exact nofun
    refine Call.answers_returned_bind fun _ ↦ ?_
    exact transaction_does fun env db db' result h ↦ replyLikeToggled_eq h

end Toggles

section Runs

variable {db : SocialDb} {p q : Pool SocialDb LikeTask} {m : Move LikeTask AuthEnv}

/-- The counters are right, and every like is as the successful toggles have left it. -/
structure Liked (db : SocialDb) (p : Pool SocialDb LikeTask) : Prop where
  tallied : LikesTallied p.shared
  posts : ∀ postId userId, postLiked postId userId p.shared =
    (postLiked postId userId db ^^ (successes (LikeOp.onPost postId userId) p).bodd)
  replies : ∀ replyId userId, replyLiked replyId userId p.shared =
    (replyLiked replyId userId db ^^ (successes (LikeOp.onReply replyId userId) p).bodd)

theorem Liked.step (hp : Liked db p) (hanswering : Answering LikeOp.Does p)
    (hs : likeCalls.Step p m q) : Liked db q := by
  have hbegun : ∀ op : LikeOp, op.runs.result? = none := by
    intro op
    cases op <;> rfl
  rcases hanswering.successes hbegun hs with ⟨hshared, hcounts⟩ | ⟨op, e, label, r, hdoes, hcounts⟩
  · refine ⟨?_, fun postId userId ↦ ?_, fun replyId userId ↦ ?_⟩
    · rw [hshared]
      exact hp.tallied
    · rw [hshared, hcounts, hp.posts]
    · rw [hshared, hcounts, hp.replies]
  · have hodd : ∀ (n : ℕ) (b : Bool), (n + if b then 1 else 0).bodd = (n.bodd ^^ b) := by
      intro n b
      rw [Nat.bodd_add]
      cases b <;> rfl
    unfold LikeOp.Does at hdoes
    split_ifs at hdoes with hok
    · refine ⟨hdoes.tallied hp.tallied, fun postId userId ↦ ?_, fun replyId userId ↦ ?_⟩
      · rw [hdoes.postLiked, hp.posts, hcounts, hok, Bool.and_true, hodd, Bool.xor_assoc]
      · rw [hdoes.replyLiked, hp.replies, hcounts, hok, Bool.and_true, hodd, Bool.xor_assoc]
    · refine ⟨?_, fun postId userId ↦ ?_, fun replyId userId ↦ ?_⟩
      · rw [hdoes]
        exact hp.tallied
      · rw [hdoes, hcounts, hp.posts, Bool.eq_false_iff.mpr hok, Bool.and_false, hodd, Bool.xor_false]
      · rw [hdoes, hcounts, hp.replies, Bool.eq_false_iff.mpr hok, Bool.and_false, hodd,
          Bool.xor_false]

/-- In every interleaving, every counter counts the likes, and a like is there exactly if it has
been turned over by an even number of successful toggles when it was there at first, and by an odd
number when it was not. -/
theorem like_counters (hdb : LikesTallied db)
    (h : Reach likeCalls.Step (fun _ _ ↦ True) (fun p ↦ p = ⟨db, []⟩) p) :
    (∀ k, ∀ post ∈ p.shared.communityPosts.get? k,
      post.likeCount = postLikes k p.shared ∧ 0 ≤ post.likeCount) ∧
    (∀ k, ∀ reply ∈ p.shared.communityPostReplies.get? k,
      reply.likeCount = replyLikes k p.shared ∧ 0 ≤ reply.likeCount) ∧
    (∀ postId userId, postLiked postId userId p.shared =
      (postLiked postId userId db ^^ (successes (LikeOp.onPost postId userId) p).bodd)) ∧
    ∀ replyId userId, replyLiked replyId userId p.shared =
      (replyLiked replyId userId db ^^ (successes (LikeOp.onReply replyId userId) p).bodd) := by
  have hliked : Liked db p ∧ Answering LikeOp.Does p := by
    refine h.invariant (I := fun p ↦ Liked db p ∧ Answering LikeOp.Does p) ?_
      fun p m q ⟨hp, hanswering⟩ _ hs ↦ ⟨hp.step hanswering hs, hanswering.step runs_toggle hs⟩
    rintro _ rfl
    refine ⟨⟨hdb, fun _ _ ↦ ?_, fun _ _ ↦ ?_⟩, nofun⟩
    · simp [successes]
    · simp [successes]
  exact ⟨fun k post hpost ↦ hliked.1.tallied.post hpost, fun k reply hreply ↦
    hliked.1.tallied.reply hreply, hliked.1.posts, hliked.1.replies⟩

end Runs

section Sample

def samplePost : CommunityPost where
  id := "post-1"
  communityId := "community-1"
  authorId := "user-1"
  content := "Welcome"
  attachments := []
  linkUrl := none
  isPinned := false
  status := .published
  likeCount := 0
  replyCount := 0
  deletedAt := none
  createdAt := 0
  updatedAt := 0

/-- A community with a post that nobody likes. -/
def postDb : SocialDb := { socialDb with communityPosts := .singleton samplePost }

theorem postDb_tallied : LikesTallied postDb := by
  refine ⟨⟨nofun, fun k post hpost ↦ ?_⟩, ⟨nofun, fun k reply hreply ↦ ?_⟩⟩
  · obtain ⟨hmem, -⟩ := Table.get?_eq_some.mp hpost
    rw [List.mem_singleton.mp hmem]
    rfl
  · cases hreply

/-- Two toggles of one user run side by side, after which the like is gone again. -/
theorem liked_twice : ∃ p : Pool SocialDb LikeTask,
    successes (LikeOp.onPost "post-1" "user-2") p = 2 ∧
      postLiked "post-1" "user-2" p.shared = false ∧
      ∀ k, ∀ post ∈ p.shared.communityPosts.get? k, post.likeCount = postLikes k p.shared := by
  have hrun : (likeCalls.play (fun _ _ _ ↦ true) (requests 0 3 "a" ++ requests 1 4 "b" ++
      requests 0 1 "c") ⟨postDb, (List.replicate 2 (LikeOp.togglePostLike "community-1" "post-1"
        "user-2")).map fun op ↦ ⟨op, [], op.runs⟩⟩).any
          (fun p ↦ successes (LikeOp.onPost "post-1" "user-2") p == 2) = true := by
    decide +kernel
  obtain ⟨p, hp, htest⟩ := (Option.any_eq_true ..).mp hrun
  have hreach : Reach likeCalls.Step (Heeding fun _ _ _ _ ↦ True) (fun p ↦ p = ⟨postDb, []⟩) p :=
    reach_tasks (fun _ _ _ _ _ _ _ _ ↦ trivial) rfl hp
  obtain ⟨hposts, -, hliked, -⟩ := like_counters postDb_tallied (hreach.mono fun _ _ _ ↦ trivial)
  refine ⟨p, beq_iff_eq.mp htest, ?_, fun k post hpost ↦ (hposts k post hpost).1⟩
  rw [hliked, beq_iff_eq.mp htest]
  rfl

end Sample

end Innovents.Communities.Social
