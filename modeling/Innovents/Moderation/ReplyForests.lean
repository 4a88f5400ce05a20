import Innovents.Communities.Social.ReplyThreads
import Innovents.Moderation.AdminModerationService

namespace Innovents.Moderation

open Innovents.Lib Innovents.Auth Innovents.Platform
open Innovents.Communities.Social CommunityRepliesService AdminModerationService

section Operations

inductive ThreadOp
  | reply (op : ReplyOp)
  | moderateContent (adminUserId : String) (dto : AdminModerationDto) (client : Client)

inductive ThreadAnswer
  | reply (answer : ReplyAnswer)
  | moderated (result : ModerationResultDto)

def ThreadOp.runs : ThreadOp → ContentCall ThreadAnswer
  | reply op => .reply <$> op.runs.focus ContentDb.socialView ContentDb.putSocial
  | moderateContent adminUserId dto client =>
    .moderated <$> AdminModerationService.moderateContent adminUserId dto client

abbrev ThreadTask := Task ThreadOp String AuthEnv ContentDb AuthError ThreadAnswer

def threadCalls : Machine ContentDb ThreadTask AuthEnv := tasks ThreadOp.runs

end Operations

/-- Every reply has its author, and no thread leads back to where it begins. -/
structure Discussed (db : SocialDb) : Prop where
  threaded : Threaded db.communityPostReplies
  authors : ∀ r ∈ db.communityPostReplies.rows, db.accounts.users.has r.authorId = true

section Statements

variable {communityId postId replyId authorId : String} {dto : CreateReplyDto} {env : AuthEnv}
  {db db' : SocialDb}

theorem Discussed.rethreaded (h : Discussed db)
    (hreplies : Rethreaded db.communityPostReplies db'.communityPostReplies)
    (hauthors : ∀ r' ∈ db'.communityPostReplies.rows, db.accounts.users.has r'.authorId = true ∨
      ∃ r ∈ db.communityPostReplies.rows, r.authorId = r'.authorId)
    (husers : db'.accounts.users = db.accounts.users) : Discussed db' := by
  refine ⟨h.threaded.step hreplies, fun r' hr' ↦ ?_⟩
  rw [husers]
  rcases hauthors r' hr' with hnew | ⟨r, hr, hauthor⟩
  · exact hnew
  · rw [← hauthor]
    exact h.authors r hr

/-- The updates of a reply keep where it belongs. -/
theorem Discussed.updated {f : CommunityPostReply → CommunityPostReply} (h : Discussed db)
    (hupdate : db.communityPostReplies.update replyId f = .ok db'.communityPostReplies)
    (hf : ∀ r, (f r).id = r.id ∧ (f r).parentReplyId = r.parentReplyId ∧
      (f r).authorId = r.authorId)
    (husers : db'.accounts.users = db.accounts.users) : Discussed db' := by
  refine h.rethreaded (rethreaded_of_update hupdate fun r ↦ ⟨(hf r).1, (hf r).2.1⟩)
    (fun r' hr' ↦ .inr ?_) husers
  rw [(Table.update_eq_ok.mp hupdate).2] at hr'
  obtain ⟨r, hr, rfl⟩ := List.mem_map.mp hr'
  refine ⟨r, hr, ?_⟩
  split_ifs
  · exact (hf r).2.2.symm
  · rfl

theorem repliesMoved_users {change : ℤ} (h : repliesMoved postId change env db = .ok db') :
    db'.accounts = db.accounts := by
  obtain ⟨communityPosts, -, h⟩ := andThen_eq_ok.mp h
  cases h
  rfl

theorem enqueued_users {params : CreateOutboxEventParams}
    (h : enqueued params env db = .ok db') : db'.accounts.users = db.accounts.users := by
  obtain ⟨accounts, hwritten, h⟩ := andThen_eq_ok.mp h
  obtain ⟨outboxEvents, -, hwritten⟩ := andThen_eq_ok.mp hwritten
  cases hwritten
  cases h
  rfl

theorem mention_users {targetUserId : String}
    (h : mention communityId postId replyId authorId env db targetUserId = .ok db') :
    db'.accounts.users = db.accounts.users := by
  unfold mention at h
  split_ifs at h
  · obtain ⟨communityMentions, -, h⟩ := andThen_eq_ok.mp h
    have husers := enqueued_users h
    exact husers
  · cases h
    rfl

theorem Discussed.created {r : CommunityPostReply} (hdb : Discussed db)
    (h : replyCreated communityId postId authorId dto env db = .ok (db', r)) : Discussed db' := by
  obtain ⟨hcreate, -⟩ := replyCreated_eq h
  obtain ⟨_, hkeys, h⟩ := andThen_eq_ok.mp h
  obtain ⟨communityPostReplies, -, h⟩ := andThen_eq_ok.mp h
  obtain ⟨db₁, hmoved, h⟩ := andThen_eq_ok.mp h
  obtain ⟨db₂, hmentions, h⟩ := andThen_eq_ok.mp h
  obtain ⟨db₃, hevent, h⟩ := andThen_eq_ok.mp h
  obtain ⟨-, hauthor, hparent⟩ := demand_eq_ok.mp hkeys
  cases h
  have husers : db₂.accounts.users = db.accounts.users := by
    refine foldlM_keeps (I := fun s : SocialDb ↦ s.accounts.users = db.accounts.users)
      (fun _ _ s s' hs hmention ↦ (mention_users hmention).trans hs) ?_ hmentions
    rw [repliesMoved_users hmoved]
  refine hdb.rethreaded (.created _ hcreate fun p hp ↦ ?_) (fun r' hr' ↦ ?_)
    ((enqueued_users hevent).trans husers)
  · rw [show dto.parentReplyId = some p from hp] at hparent
    exact hparent
  · rw [Table.create_eq_ok.mp hcreate, List.mem_append, List.mem_singleton] at hr'
    rcases hr' with hr' | rfl
    · exact .inr ⟨r', hr', rfl⟩
    · exact .inl hauthor

theorem Discussed.deleted {u : Unit} (hdb : Discussed db)
    (h : replyDeleted postId replyId env db = .ok (db', u)) : Discussed db' := by
  obtain ⟨communityPostReplies, hupdate, h⟩ := andThen_eq_ok.mp h
  obtain ⟨db₁, hmoved, h⟩ := andThen_eq_ok.mp h
  have hreplies : db₁.communityPostReplies = communityPostReplies := (repliesMoved_eq hmoved).2
  have haccounts := repliesMoved_users hmoved
  rw [← hreplies] at hupdate
  cases h
  refine hdb.updated (ofRefusal_eq_ok.mp hupdate) (fun r ↦ ⟨rfl, rfl, rfl⟩) ?_
  rw [haccounts]

end Statements

section Requests

variable {communityId postId replyId authorId userId : String} {userRoles : List String}
  {dto : CreateReplyDto}

theorem runs_discussed (op : ReplyOp) :
    op.runs.Each fun _ db db' ↦ Discussed db → Discussed db' := by
  have hread : ∀ db : SocialDb, Discussed db → Discussed db := fun _ ↦ id
  cases op with
  | create communityId postId authorId dto =>
    refine Call.each_map (Call.each_bind (CommunityAuthorizationService.assertActiveMember_each
      hread hread) fun _ ↦ Call.each_bind (Call.each_reads hread) fun found ↦ ?_)
    refine Call.each_bind Call.each_returned fun post ↦ Call.each_bind Call.each_returned fun _ ↦ ?_
    refine Call.each_bind (assertParent_each (fun _ ↦ hread) _) fun _ ↦ ?_
    refine Call.each_bind (Call.each_writes hread fun env db db' r h hdb ↦ hdb.created h) fun reply ↦ ?_
    exact Call.each_bind (Call.each_reads hread) fun _ ↦ Call.each_bind Call.each_returned
      fun _ ↦ Call.each_returned
  | delete communityId postId replyId userId userRoles =>
    refine Call.each_map (Call.each_bind (Call.each_reads hread) fun found ↦ ?_)
    refine Call.each_bind Call.each_returned fun reply ↦ ?_
    refine Call.each_bind (assertCanDelete_each (fun _ ↦ hread) _) fun _ ↦ ?_
    exact Call.each_bind (Call.each_writes hread fun env db db' u h hdb ↦ hdb.deleted h) fun _ ↦
      Call.each_returned

/-- What the updates of moderation keep, whatever they update. -/
theorem moderated_each {J : ContentDb → Prop} {model missing : String} {found : ContentDb → Bool}
    {write : AuthEnv → ContentDb → Except AuthError ContentDb}
    (h : ∀ env db db', write env db = .ok db' → J db → J db') :
    (moderated model missing found write).Each fun _ db db' ↦ J db → J db' := by
  refine Call.each_bind (Call.each_reads fun _ ↦ id) fun _ ↦ Call.each_bind Call.each_returned
    fun _ ↦ Call.each_writes (fun _ ↦ id) fun env db db' u hu ↦ ?_
  obtain ⟨_, hwrite, hu⟩ := andThen_eq_ok.mp hu
  cases hu
  exact h env db db' hwrite

theorem moderate_discussed (dto : AdminModerationDto) :
    (moderate dto).Each fun _ db db' ↦ Discussed db.socialView → Discussed db'.socialView := by
  obtain ⟨targetType, targetId, action, reason⟩ := dto
  cases targetType with
  | communityReply =>
    refine moderated_each fun env db db' h hdb ↦ ?_
    obtain ⟨communityPostReplies, hupdate, h⟩ := andThen_eq_ok.mp h
    cases h
    exact hdb.updated (ofRefusal_eq_ok.mp hupdate) (fun r ↦ ⟨rfl, rfl, rfl⟩) rfl
  | c2bService =>
    refine moderated_each fun env db db' h hdb ↦ ?_
    obtain ⟨c2bServices, -, h⟩ := andThen_eq_ok.mp h
    obtain ⟨details, -, h⟩ := andThen_eq_ok.mp h
    cases h
    exact ⟨hdb.threaded, hdb.authors⟩
  | communityPost | communityMeetup | sponsorAd | vendorService | event =>
    refine moderated_each fun env db db' h hdb ↦ ?_
    obtain ⟨_, -, h⟩ := andThen_eq_ok.mp h
    cases h
    exact ⟨hdb.threaded, hdb.authors⟩
  | communityChatMessage | community | user => exact Call.each_returned

theorem threads_discussed (op : ThreadOp) :
    op.runs.Each fun _ db db' ↦ Discussed db.socialView → Discussed db'.socialView := by
  cases op with
  | reply op =>
    refine Call.each_map ((Call.each_focus (runs_discussed op)).mono ?_)
    rintro _ db _ ⟨social, hsocial, rfl⟩ hdb
    exact ⟨(hsocial hdb).threaded, (hsocial hdb).authors⟩
  | moderateContent adminUserId dto client =>
    refine Call.each_map (Call.each_bind (moderate_discussed dto) fun _ ↦ Call.each_bind ?_ fun _ ↦
      Call.each_bind (Call.each_ask fun _ ↦ id) fun _ ↦ Call.each_returned)
    intro env db
    refine ⟨fun hdb ↦ ?_, trivial⟩
    obtain ⟨auditLogs, hwritten⟩ := AuditService.written_frame _ client env (Accounts.get db)
    dsimp only
    rw [hwritten]
    exact ⟨hdb.threaded, hdb.authors⟩

end Requests

section Runs

/-- Nobody has replied yet. -/
def ThreadsAtFirst (p : Pool ContentDb ThreadTask) : Prop :=
  p.threads = [] ∧ p.shared.social.communityPostReplies.rows = []

/-- Whatever calls to create, to delete and to moderate run, alone or together, the replies of a
post are returned as a forest, if no two of them were created at the same time. -/
theorem replies_form_forest {p : Pool ContentDb ThreadTask} {communityId postId : String}
    {currentUserId : Option String} {currentUserRoles : List String}
    (h : Reach threadCalls.Step (Heeding fun _ _ _ _ ↦ True) ThreadsAtFirst p)
    (hdistinct : ((publishedReplies postId p.shared.socialView).map (·.createdAt)).Nodup) :
    ((findAll communityId postId currentUserId currentUserRoles).Returns (fun _ ↦ True)
      p.shared.socialView fun linked _ ↦ ∃ forest, Unfolds linked forest ∧
        ReplyForest postId p.shared.socialView forest) ∧
      (AdmitsTo communityId currentUserId currentUserRoles p.shared.socialView →
        (existingPost communityId postId p.shared.socialView).isSome →
          ∃ linked, (findAll communityId postId currentUserId currentUserRoles).Ran (fun _ ↦ True)
            p.shared.socialView (.ok linked) p.shared.socialView) := by
  have hdb : Discussed p.shared.socialView := by
    refine guarded_reach (J := fun db : ContentDb ↦ Discussed db.socialView) (fun op ↦ ?_)
      (fun q hq ↦ ⟨hq.1, ?_⟩) h
    · exact (threads_discussed op).mono fun _ _ _ h _ ↦ h
    · have hnone : ∀ r, r ∉ q.shared.socialView.communityPostReplies.rows := by
        intro r hr
        rw [show q.shared.socialView.communityPostReplies.rows = [] from hq.2] at hr
        exact List.not_mem_nil hr
      exact ⟨⟨fun _ ↦ 0, fun r hr ↦ absurd hr (hnone r)⟩, fun r hr ↦ absurd hr (hnone r)⟩
  exact ⟨findAll_forest hdb.threaded hdistinct, fun hadmits hpost ↦
    exists_findAll hadmits hpost hdb.authors⟩

end Runs

section Sample

/-- A community of two members with a post. -/
def discussionDb : ContentDb := { contentDb with social := postDb }

/-- A member replies to the post, or to a reply. -/
def answering (userId : String) (parentReplyId : Option String) : ThreadOp :=
  .reply (.create "community-1" "post-1" userId
    { content := "I agree"
      parentReplyId
      mentionedUserIds := none })

/-- An admin hides the reply. -/
def concealing (replyId : String) : ThreadOp := .moderateContent "user-1"
  { targetType := .communityReply
    targetId := replyId
    action := .hide
    reason := "Spam" } nobody

/-- The calls with the operations, none of which has begun. -/
def discussing (ops : List ThreadOp) : Pool ContentDb ThreadTask :=
  ⟨discussionDb, ops.map fun op ↦ ⟨op, [], op.runs⟩⟩

/-- The requests of the threads, one after another. -/
def turns (threads : List ℕ) : List (ℕ × AuthEnv) :=
  threads.zipIdx.map fun (i, k) ↦ (i, sampleEnv k s!"{k}")

/-- The reply has been hidden, its answer has not, and everybody may see the post. -/
def answerLeft (p : Pool ContentDb ThreadTask) : Bool :=
  ((publishedReplies "post-1" p.shared.socialView).map fun r ↦ (r.id, r.parentReplyId)) ==
      [("id-9", some "id-3")] &&
    decide ((publishedReplies "post-1" p.shared.socialView).map (·.createdAt)).Nodup &&
    (existingPost "community-1" "post-1" p.shared.socialView).isSome &&
    (Call.outcome [sampleEnv 20 ""] p.shared.socialView
      (CommunityAuthorizationService.assertCanViewCommunity "community-1" none [])).any
        fun q ↦ q.1.toOption.any fun _ ↦ true

/-- A reply is hidden when it has been answered, and the answer becomes a root. -/
theorem answer_of_hidden : ∃ (p : Pool ContentDb ThreadTask) (linked : Linked ReplyResponseDto String)
    (forest : List (RoseTree ReplyResponseDto)),
    (publishedReplies "post-1" p.shared.socialView).map (fun r ↦ (r.id, r.parentReplyId)) =
      [("id-9", some "id-3")] ∧
        (findAll "community-1" "post-1" none []).Ran (fun _ ↦ True) p.shared.socialView (.ok linked)
          p.shared.socialView ∧
        Unfolds linked forest ∧ ReplyForest "post-1" p.shared.socialView forest := by
  have hrun : (threadCalls.play (meets fun _ _ _ _ ↦ True)
      (turns (List.replicate 5 0 ++ List.replicate 6 1 ++ List.replicate 4 2))
      (discussing [answering "user-2" none, answering "user-1" (some "id-3"),
        concealing "id-3"])).any answerLeft = true := by
    decide +kernel
  obtain ⟨p, hp, htest⟩ := (Option.any_eq_true ..).mp hrun
  have hreach : Reach threadCalls.Step (Heeding fun _ _ _ _ ↦ True) ThreadsAtFirst p :=
    reach_tasks (fun _ _ _ h ↦ meets_sound h) ⟨rfl, rfl⟩ hp
  simp only [answerLeft, Bool.and_eq_true, decide_eq_true_eq, beq_iff_eq] at htest
  obtain ⟨⟨⟨hleft, hdistinct⟩, hpost⟩, hview⟩ := htest
  obtain ⟨community, db', hcommunity, -⟩ := Call.exists_ran_of_outcome hview
  obtain ⟨hforest, hreturns⟩ := @replies_form_forest p "community-1" "post-1" none [] hreach
    hdistinct
  obtain ⟨linked, hlinked⟩ := hreturns ⟨community, db', hcommunity⟩ hpost
  obtain ⟨forest, hunfolds, hreplies⟩ := hforest linked _ hlinked
  exact ⟨p, linked, forest, hleft, hlinked, hunfolds, hreplies⟩

end Sample

end Innovents.Moderation
