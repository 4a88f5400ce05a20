import Innovents.Communities.Social.CommunityRepliesService
import Innovents.Communities.Social.LikeCounters

namespace Innovents.Communities.Social

open Innovents.Lib Innovents.Auth Innovents.Platform CommunityRepliesService

inductive ReplyOp
  | create (communityId postId authorId : String) (dto : CreateReplyDto)
  | delete (communityId postId replyId userId : String) (userRoles : List String)

inductive ReplyAnswer
  | reply (dto : ReplyResponseDto)
  | message (dto : MessageDto)

def ReplyOp.runs : ReplyOp → SocialCall ReplyAnswer
  | create communityId postId authorId dto =>
    .reply <$> CommunityRepliesService.create communityId postId authorId dto
  | delete communityId postId replyId userId userRoles =>
    .message <$> CommunityRepliesService.delete communityId postId replyId userId userRoles

abbrev ReplyTask := Task ReplyOp String AuthEnv SocialDb AuthError ReplyAnswer

abbrev ReplyHistory := History String SocialDb

def replyCalls : Machine SocialDb ReplyTask AuthEnv := tasks ReplyOp.runs

/-- Every reply belongs to a post, whose counter counts the replies that are not deleted. -/
abbrev RepliesTallied (db : SocialDb) : Prop :=
  Tallied CommunityPostReply.postId (·.deletedAt.isNone) CommunityPost.replyCount
    db.communityPostReplies db.communityPosts

/-- How many replies of the post are not deleted. -/
def liveReplies (postId : String) (db : SocialDb) : ℕ :=
  db.communityPostReplies.rows.countP fun r ↦ r.postId == postId && r.deletedAt.isNone

/-- Replies stay with their posts. -/
def RepliesStay (db db' : SocialDb) : Prop :=
  ∀ id, ∀ r ∈ db.communityPostReplies.get? id, ∃ r' ∈ db'.communityPostReplies.get? id,
    r'.postId = r.postId

/-- The transaction of a delete finds the reply not yet deleted. -/
def ReplyOp.FindsLive (op : ReplyOp) (_ : ReplyHistory) (label : String) (db : SocialDb) : Prop :=
  match op with
  | create .. => True
  | delete _ _ replyId _ _ => label = "$transaction" →
    ∃ r ∈ db.communityPostReplies.get? replyId, r.deletedAt = none

instance (op : ReplyOp) (history : ReplyHistory) (label : String) (db : SocialDb) :
    Decidable (op.FindsLive history label db) :=
  match op with
  | .create .. => inferInstanceAs (Decidable True)
  | .delete .. => inferInstanceAs (Decidable (_ → _))

theorem RepliesStay.refl (db : SocialDb) : RepliesStay db db := fun _ r hr ↦ ⟨r, hr, rfl⟩

theorem RepliesStay.trans (a b c : SocialDb) (hab : RepliesStay a b) (hbc : RepliesStay b c) :
    RepliesStay a c := by
  intro id r hr
  obtain ⟨r', hr', hpost⟩ := hab id r hr
  obtain ⟨r'', hr'', hpost'⟩ := hbc id r' hr'
  exact ⟨r'', hr'', hpost'.trans hpost⟩

section Requests

variable {communityId postId replyId authorId userId : String} {userRoles : List String}
  {dto : CreateReplyDto} {J : SocialDb → Prop} {ok : ReplyHistory → String → SocialDb → Prop}
  {G : String → SocialDb → SocialDb → Prop}

theorem assertParent_each (hG : ∀ label db, G label db db) (parentReplyId : Option String) :
    (assertParent postId parentReplyId).Each G := by
  cases parentReplyId with
  | none => exact Call.each_returned
  | some parentReplyId =>
    exact Call.each_bind (Call.each_reads (hG _)) fun _ ↦ Call.each_returned

theorem assertCanDelete_each (hG : ∀ label db, G label db db) (reply : CommunityPostReply) :
    (assertCanDelete communityId userId userRoles reply).Each G := by
  unfold assertCanDelete
  split_ifs
  · exact Call.each_returned
  · exact Call.each_bind (CommunityAuthorizationService.assertCanModerateCommunity_each (hG _) (hG _))
      fun _ ↦ Call.each_returned

/-- What the transaction of `create` has to keep. -/
theorem replyCreate_heeds (hread : ∀ label db, G label db db)
    (h : ∀ (history : ReplyHistory) env db db' r, J db → ok history "$transaction" db →
      replyCreated communityId postId authorId dto env db = .ok (db', r) →
        J db' ∧ G "$transaction" db db') :
    (create communityId postId authorId dto).Heeds J ok G (fun _ _ ↦ True) [] := by
  refine Call.heeds_bind ((Call.heeds_reader (CommunityAuthorizationService.assertActiveMember_each
    (fun _ ↦ rfl) fun _ ↦ rfl) hread).mono fun _ _ _ ↦ ?_)
  refine Call.heeds_bind (Call.heeds_reads (hread _) fun _ _ _ _ ↦ ?_)
  refine Call.heeds_bind (Call.heeds_returned fun post _ ↦ ?_)
  refine Call.heeds_bind (Call.heeds_returned fun _ _ ↦ ?_)
  refine Call.heeds_bind ((Call.heeds_reader (assertParent_each
    (G := fun _ db db' ↦ db' = db) (fun _ _ ↦ rfl) _) hread).mono
    fun _ _ _ ↦ ?_)
  refine Call.heeds_bind (Call.heeds_writes (hread _) fun env db db' r hdb hok hr ↦ ?_)
  obtain ⟨hJ, hG⟩ := h _ env db db' r hdb hok hr
  refine ⟨hJ, hG, Call.heeds_bind (Call.heeds_reads (hread _) fun _ _ _ _ ↦ ?_)⟩
  exact Call.heeds_bind (Call.heeds_returned fun _ _ ↦ trivial)

/-- What the transaction of `delete` has to keep, which may rely on the reply that was read. -/
theorem replyDelete_heeds (hread : ∀ label db, G label db db)
    (h : ∀ (history : ReplyHistory) env db db' u, J db → ok history "$transaction" db →
      (∀ r, db.communityPostReplies.get? replyId = some r → r.postId = postId) →
        replyDeleted postId replyId env db = .ok (db', u) → J db' ∧ G "$transaction" db db') :
    (delete communityId postId replyId userId userRoles).Heeds J (Among RepliesStay ok) G
      (fun _ _ ↦ True) [] := by
  -- what the read has found of the reply stays true
  let belongs (db : SocialDb) : Prop :=
    ∃ r ∈ db.communityPostReplies.get? replyId, r.postId = postId
  have hstays : ∀ db db', belongs db → RepliesStay db db' → belongs db' := by
    intro db db' hdb hstay
    obtain ⟨r, hr, hpost⟩ := hdb
    obtain ⟨r', hr', hpost'⟩ := hstay replyId r hr
    exact ⟨r', hr', hpost'.trans hpost⟩
  refine Call.heeds_bind (Call.heeds_reads (hread _) fun _ db₀ _ _ ↦ ?_)
  refine Call.heeds_bind (Call.heeds_returned fun reply hreply ↦ ?_)
  obtain ⟨hfound, hreply⟩ := Option.filter_eq_some_iff.mp (present_eq_ok.mp hreply)
  have hsure : History.Sure RepliesStay belongs
      ([] ++ [("communityPostReply.findFirst", db₀, db₀)]) :=
    History.sure_concat hstays ⟨reply, hfound, (of_decide_eq_true hreply).1⟩
  have hreads : (assertCanDelete communityId userId userRoles reply).Each
      fun _ db db' ↦ True ∧ db' = db := assertCanDelete_each (fun _ _ ↦ ⟨trivial, rfl⟩) reply
  refine Call.heeds_bind ((Call.heeds_reading hreads (fun label db _ ↦ hread label db) hstays
    hsure).mono fun history _ ⟨_, hsure⟩ ↦ ?_)
  refine Call.heeds_bind (Call.heeds_writes (hread _) fun env db db' u hdb hok hu ↦ ?_)
  have hpost : ∀ r, db.communityPostReplies.get? replyId = some r → r.postId = postId := by
    intro r hr
    obtain ⟨r', hr', hpost⟩ := hsure db hok.2
    cases hr.symm.trans hr'
    exact hpost
  obtain ⟨hJ, hG⟩ := h _ env db db' u hdb hok.1 hpost hu
  exact ⟨hJ, hG, trivial⟩

end Requests

section Runs

theorem reply_created_stay {db db' : SocialDb} {r : CommunityPostReply}
    (h : db.communityPostReplies.create r = .ok db'.communityPostReplies) : RepliesStay db db' :=
  fun _ r' hr' ↦ ⟨r', (Table.get?_create_taken hr' h).2, rfl⟩

theorem reply_deleted_stay {db db' : SocialDb} {replyId : String}
    {f : CommunityPostReply → CommunityPostReply} {now : Payments.Time}
    (h : db.communityPostReplies.update replyId f = .ok db'.communityPostReplies)
    (hf : ∀ r, (f r).id = r.id ∧ (f r).postId = r.postId ∧ (f r).deletedAt = some now) :
    RepliesStay db db' := by
  intro id r hr
  rw [Table.get?_update h fun r ↦ (hf r).1]
  split_ifs with hid
  · rw [← hid, hr]
    exact ⟨f r, rfl, (hf r).2.1⟩
  · exact ⟨r, hr, rfl⟩

theorem runs_replies_stay (op : ReplyOp) : op.runs.Each fun _ ↦ RepliesStay := by
  have hread : ∀ (_ : String) db, RepliesStay db db := fun _ ↦ RepliesStay.refl
  cases op with
  | create communityId postId authorId dto =>
    refine Call.each_map (Call.each_bind (CommunityAuthorizationService.assertActiveMember_each
      RepliesStay.refl RepliesStay.refl) fun _ ↦ ?_)
    refine Call.each_bind (Call.each_reads RepliesStay.refl) fun found ↦ Call.each_bind Call.each_returned
      fun post ↦ Call.each_bind Call.each_returned fun _ ↦ ?_
    refine Call.each_bind (assertParent_each hread _) fun _ ↦ ?_
    refine Call.each_bind (Call.each_writes RepliesStay.refl fun env db db' r h ↦ ?_) fun reply ↦ ?_
    · exact reply_created_stay (replyCreated_eq h).1
    · exact Call.each_bind (Call.each_reads RepliesStay.refl) fun _ ↦ Call.each_bind Call.each_returned
        fun _ ↦ Call.each_returned
  | delete communityId postId replyId userId userRoles =>
    refine Call.each_map (Call.each_bind (Call.each_reads RepliesStay.refl) fun found ↦ ?_)
    refine Call.each_bind Call.each_returned fun reply ↦ ?_
    refine Call.each_bind (assertCanDelete_each hread _) fun _ ↦ ?_
    refine Call.each_bind (Call.each_writes RepliesStay.refl fun env db db' u h ↦ ?_) fun _ ↦
      Call.each_returned
    obtain ⟨⟨f, hupdate, hf⟩, -⟩ := replyDeleted_eq h
    exact reply_deleted_stay hupdate hf

theorem runs_replies_tallied (op : ReplyOp) : op.runs.Heeds RepliesTallied
    (Among RepliesStay op.FindsLive) (fun _ _ _ ↦ True) (fun _ _ ↦ True) [] := by
  have hread : ∀ (label : String) (db : SocialDb), True := fun _ _ ↦ trivial
  cases op with
  | create communityId postId authorId dto =>
    refine Call.heeds_map (replyCreate_heeds hread fun _ env db db' r hdb _ h ↦ ⟨?_, trivial⟩)
    obtain ⟨hcreate, hpost, hlive, hmoved⟩ := replyCreated_eq h
    refine hdb.created hcreate ?_
    rw [hpost, weight, hlive]
    exact hmoved
  | delete communityId postId replyId userId userRoles =>
    refine Call.heeds_map (replyDelete_heeds hread fun _ env db db' u hdb hok hpost h ↦ ⟨?_, trivial⟩)
    obtain ⟨⟨f, hupdate, hf⟩, hmoved⟩ := replyDeleted_eq h
    obtain ⟨r, hr, hlive⟩ := hok rfl
    refine hdb.updated hupdate hr (fun r ↦ (hf r).2.1) ?_
    rw [hpost r hr, weight, weight, (hf r).2.2, hlive]
    exact hmoved

def RepliesAtFirst (p : Pool SocialDb ReplyTask) : Prop :=
  p.threads = [] ∧ RepliesTallied p.shared

/-- As long as every delete finds the reply not yet deleted when it deletes it, every counter counts
the replies that are not deleted, whether calls are in flight or not. -/
theorem reply_counter {p : Pool SocialDb ReplyTask}
    (h : Reach replyCalls.Step (Heeding ReplyOp.FindsLive) RepliesAtFirst p) :
    ∀ k, ∀ post ∈ p.shared.communityPosts.get? k, post.replyCount = liveReplies k p.shared := by
  have hremember := (h.remember RepliesStay.refl RepliesStay.trans runs_replies_stay
    fun _ hp ↦ hp.1).1
  have htallied := (heedful_reach (I := fun _ ↦ True) runs_replies_tallied
    (fun p hp ↦ ⟨⟨hp.2, by simp [hp.1]⟩, trivial⟩) (fun _ _ _ _ _ _ ↦ trivial) hremember).1.shared
  exact fun k post hpost ↦ htallied.tally k post hpost

end Runs

section Sample

def sampleReply : CommunityPostReply := newReply "reply-1" "post-1" "user-2"
  { content := "Thank you"
    parentReplyId := none
    mentionedUserIds := none } 0

/-- A post with one reply, which the second member has written. -/
def replyDb : SocialDb :=
  { socialDb with
    communityPosts := .singleton { samplePost with replyCount := 1 }
    communityPostReplies := .singleton sampleReply }

/-- The author deletes the reply. -/
def deleting : ReplyOp := .delete "community-1" "post-1" "reply-1" "user-2" []

/-- The creator of the community deletes the reply. -/
def moderating : ReplyOp := .delete "community-1" "post-1" "reply-1" "user-1" []

theorem replyDb_tallied : RepliesAtFirst ⟨replyDb, []⟩ := by
  refine ⟨rfl, fun r hr ↦ ?_, fun k post hpost ↦ ?_⟩
  · rw [List.mem_singleton.mp hr]
    rfl
  · obtain ⟨hmem, hid⟩ := Table.get?_eq_some.mp hpost
    rw [List.mem_singleton.mp hmem] at hid ⊢
    rw [← hid]
    decide

/-- The calls with the operations, none of which has begun. -/
def replying (ops : List ReplyOp) : Pool SocialDb ReplyTask :=
  ⟨replyDb, ops.map fun op ↦ ⟨op, [], op.runs⟩⟩

/-- The number in the counter of the post and the number of its replies. -/
def replyCounts (db : SocialDb) : Option ℤ × ℕ :=
  ((db.communityPosts.get? "post-1").map (·.replyCount), liveReplies "post-1" db)

/-- The creator of the community comes after the author, and finds the reply no more. -/
theorem deleted_in_turn : ∃ p : Pool SocialDb ReplyTask, replyCounts p.shared = (some 0, 0) ∧
    ∀ k, ∀ post ∈ p.shared.communityPosts.get? k, post.replyCount = liveReplies k p.shared := by
  have hrun : (replyCalls.play (meets ReplyOp.FindsLive) (requests 0 2 "a" ++ requests 1 1 "b")
      (replying [deleting, moderating])).any (fun p ↦
        p.threads.all (·.call.label?.isNone) && replyCounts p.shared == (some 0, 0)) = true := by
    decide +kernel
  obtain ⟨p, hp, htest⟩ := (Option.any_eq_true ..).mp hrun
  have hreach := reach_tasks (fun _ _ _ h ↦ meets_sound h) replyDb_tallied hp
  exact ⟨p, beq_iff_eq.mp (Bool.and_eq_true_iff.mp htest).2, reply_counter hreach⟩

/-- The author and the creator of the community both find the reply before either deletes it. -/
theorem deleted_twice : ∃ p : Pool SocialDb ReplyTask,
    Reach replyCalls.Step (Heeding fun _ _ _ _ ↦ True) RepliesAtFirst p ∧
      p.threads.all (·.call.label?.isNone) = true ∧
      ¬ ∀ k, ∀ post ∈ p.shared.communityPosts.get? k, post.replyCount = liveReplies k p.shared := by
  have hrun : (replyCalls.play (fun _ _ _ ↦ true) (requests 0 1 "a" ++ requests 1 3 "b" ++
      requests 0 1 "c") (replying [deleting, moderating])).any (fun p ↦
        p.threads.all (·.call.label?.isNone) && replyCounts p.shared == (some (-1), 0)) = true := by
    decide +kernel
  obtain ⟨p, hp, htest⟩ := (Option.any_eq_true ..).mp hrun
  obtain ⟨hdone, hcounts⟩ := Bool.and_eq_true_iff.mp htest
  refine ⟨p, reach_tasks (fun _ _ _ _ _ _ _ _ ↦ trivial) replyDb_tallied hp, hdone,
    fun hall ↦ ?_⟩
  obtain ⟨hcount, hlive⟩ := Prod.mk.injEq .. ▸ beq_iff_eq.mp hcounts
  obtain ⟨post, hpost, hminus⟩ := Option.map_eq_some_iff.mp hcount
  have hsame := hall "post-1" post hpost
  rw [hlive, hminus] at hsame
  exact absurd hsame (by decide)

end Sample

end Innovents.Communities.Social
