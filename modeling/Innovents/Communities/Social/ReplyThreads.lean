import Innovents.Communities.Social.CommunityViews
import Innovents.Communities.Social.ReplyCounter
import Innovents.Lib.Forest

namespace Innovents.Communities.Social

open Innovents.Lib Innovents.Auth Innovents.Platform
open Innovents.Payments (Time CommunityMemberRole)

namespace CommunityRepliesService

open Innovents.Communities.Social.CommunitiesService (asked)

/-- The replies of the post that are published and not deleted. -/
def publishedReplies (postId : String) (db : SocialDb) : List CommunityPostReply :=
  db.communityPostReplies.rows.filter fun r ↦
    r.postId == postId && r.deletedAt.isNone && r.status == .published

/-- `orderBy: { createdAt: 'asc' }` -/
def Earlier (a b : CommunityPostReply) : Prop := a.createdAt ≤ b.createdAt

instance : DecidableRel Earlier := fun a b ↦ inferInstanceAs (Decidable (a.createdAt ≤ b.createdAt))

instance : Std.Total Earlier := ⟨fun a b ↦ le_total a.createdAt b.createdAt⟩

instance : IsTrans CommunityPostReply Earlier := ⟨fun a _ _ ↦ le_trans (a := a.createdAt)⟩

/-- A reply with what the search includes: its author, and whether the caller has liked it. -/
structure IncludedReply where
  reply : CommunityPostReply
  author : UserSummary
  liked : Bool

/-- An author is required. -/
def included (found : CommunityPostReply × Option UserSummary × Bool) : Except AuthError IncludedReply := do
  let author ← present found.2.1 (.fault
    "Inconsistent query result: Field author is required to return data, got null instead.")
  return ⟨found.1, author, found.2.2⟩

/-- `new Map(memberships.map((m) => [m.userId, m.role]))`, where a later entry replaces an earlier. -/
def roleIn (memberships : List CommunityMember) (userId : String) : Option CommunityMemberRole :=
  (memberships.reverse.find? fun m ↦ m.userId == userId).map (·.role)

def toDto (memberships : List CommunityMember) (r : IncludedReply) : ReplyResponseDto :=
  mapToResponseDto r.reply
    { id := r.author.id
      email := r.author.email
      communityRole := roleIn memberships r.reply.authorId } r.liked

/-- The parent of a reply, if it is in the map of the replies. -/
def parentIn (dtos : List ReplyResponseDto) (dto : ReplyResponseDto) : Option String :=
  (asked dto.parentReplyId).filter fun id ↦ dtos.any (·.id == id)

/-- A reply that is found, with its author and with whether the caller has liked it. -/
def withAuthor (currentUserId : Option String) (db : SocialDb) (r : CommunityPostReply) :
    CommunityPostReply × Option UserSummary × Bool :=
  (r, userSummary r.authorId db, (asked currentUserId).any fun userId ↦
    db.communityReplyLikes.rows.any fun l ↦ l.replyId == r.id && l.userId == userId)

/-- The hierarchy is built of objects, which refer to the objects in their `childReplies`. -/
def findAll (communityId postId : String) (currentUserId : Option String)
    (currentUserRoles : List String) : SocialCall (Linked ReplyResponseDto String) := do
  let _ ← CommunityAuthorizationService.assertCanViewCommunity communityId currentUserId
    currentUserRoles
  let post ← Call.reads "communityPost.findFirst" fun _ ↦ existingPost communityId postId
  Call.returned (demand post.isSome (refusal .notFound "Post not found"))
  let found ← Call.reads "communityPostReply.findMany" fun _ (db : SocialDb) ↦
    ((publishedReplies postId db).insertionSort Earlier).map (withAuthor currentUserId db)
  let replies ← Call.returned (found.mapM included)
  let memberships ← Call.reads "communityMember.findMany" fun _ (db : SocialDb) ↦
    db.communityMembers.rows.filter fun m ↦
      m.communityId == communityId && (replies.map (·.reply.authorId)).contains m.userId
  let dtos := replies.map (toDto memberships)
  return link (parentIn dtos) dtos

end CommunityRepliesService

open CommunityRepliesService

section Threads

variable {t t' : Table CommunityPostReply} {db db' : SocialDb} {postId : String}

/-- Every reply has a parent of a smaller rank, if it has one. -/
def Threaded (t : Table CommunityPostReply) : Prop :=
  ∃ rank : String → ℕ, ∀ r ∈ t.rows, ∀ p ∈ r.parentReplyId, t.has p = true ∧ rank p < rank r.id

/-- A reply is added with a parent that is there, or replies stay with their parents. -/
inductive Rethreaded (t t' : Table CommunityPostReply) : Prop
  | created (r : CommunityPostReply) : t.create r = .ok t' →
      (∀ p ∈ r.parentReplyId, t.has p = true) → Rethreaded t t'
  | kept (f : CommunityPostReply → CommunityPostReply) : t'.rows = t.rows.map f →
      (∀ r, (f r).id = r.id ∧ (f r).parentReplyId = r.parentReplyId) → Rethreaded t t'

theorem Rethreaded.refl (t : Table CommunityPostReply) : Rethreaded t t :=
  .kept id (List.map_id _).symm fun _ ↦ ⟨rfl, rfl⟩

theorem rethreaded_of_update {id : String} {f : CommunityPostReply → CommunityPostReply}
    (h : t.update id f = .ok t')
    (hf : ∀ r, (f r).id = r.id ∧ (f r).parentReplyId = r.parentReplyId) : Rethreaded t t' := by
  refine .kept (fun r ↦ if Row.id r = id then f r else r) (Table.update_eq_ok.mp h).2 fun r ↦ ?_
  split_ifs
  · exact hf r
  · exact ⟨rfl, rfl⟩

/-- A new reply ranks above its parent, and above nothing. -/
theorem Threaded.step (h : Threaded t) (hstep : Rethreaded t t') : Threaded t' := by
  obtain ⟨rank, hrank⟩ := h
  cases hstep with
  | created r hcreate hparent =>
    have hrows := Table.create_eq_ok.mp hcreate
    have hgrows : ∀ p, t.has p = true → t'.has p = true := by
      intro p hp
      obtain ⟨q, hq, hid⟩ := Table.has_iff.mp hp
      exact Table.has_iff.mpr ⟨q, hrows ▸ List.mem_append_left _ hq, hid⟩
    have hnew : ∀ p, t.has p = true → p ≠ r.id := by
      rintro p hp rfl
      obtain ⟨q, hq, hid⟩ := Table.has_iff.mp hp
      rw [Table.create_refused hq (clash_of_id hid)] at hcreate
      cases hcreate
    let above := (r.parentReplyId.elim 0 rank) + 1
    refine ⟨fun id ↦ if id = r.id then above else rank id, fun a ha p hp ↦ ?_⟩
    rw [hrows] at ha
    rcases List.mem_append.mp ha with ha | ha
    · obtain ⟨hhas, hlt⟩ := hrank a ha p hp
      have hold : t.has a.id = true := Table.has_iff.mpr ⟨a, ha, rfl⟩
      refine ⟨hgrows p hhas, ?_⟩
      dsimp only
      rwa [if_neg (hnew p hhas), if_neg (hnew _ hold)]
    · rw [List.mem_singleton.mp ha] at hp ⊢
      refine ⟨hgrows p (hparent p hp), ?_⟩
      dsimp only
      rw [if_neg (hnew p (hparent p hp)), if_pos rfl]
      simp only [above, Option.mem_def.mp hp, Option.elim_some]
      exact Nat.lt_succ_self _
  | kept f hrows hf =>
    refine ⟨rank, fun a ha p hp ↦ ?_⟩
    rw [hrows] at ha
    obtain ⟨b, hb, rfl⟩ := List.mem_map.mp ha
    rw [(hf b).2] at hp
    obtain ⟨hhas, hlt⟩ := hrank b hb p hp
    obtain ⟨q, hq, hid⟩ := Table.has_iff.mp hhas
    refine ⟨Table.has_iff.mpr ⟨f q, hrows ▸ List.mem_map_of_mem hq, (hf q).1.trans hid⟩, ?_⟩
    rwa [(hf b).1]

end Threads

section Forests

open Innovents.Communities.Social.CommunitiesService (asked)

variable {postId : String} {db : SocialDb} {dtos : List ReplyResponseDto} {dto : ReplyResponseDto}

/-- The object is made of the reply. -/
def Shows (r : CommunityPostReply) (dto : ReplyResponseDto) : Prop :=
  ∃ author liked, dto = mapToResponseDto r author liked

/-- The objects refer to each other as the trees do. -/
def Unfolds (linked : Linked ReplyResponseDto String) (forest : List (RoseTree ReplyResponseDto)) : Prop :=
  forest.map RoseTree.value = linked.roots ∧
    ∀ t ∈ RoseTree.nodesOf forest, t.children.map RoseTree.value = linked.below t.value.id

/-- Every published reply of the post occurs once, below its parent if that occurs and as a root
otherwise, and in the order of the times. -/
structure ReplyForest (postId : String) (db : SocialDb) (forest : List (RoseTree ReplyResponseDto)) :
    Prop where
  complete : ((RoseTree.nodesOf forest).map (·.value.id)).Perm ((publishedReplies postId db).map (·.id))
  shows : ∀ t ∈ RoseTree.nodesOf forest, ∃ r ∈ publishedReplies postId db, Shows r t.value
  roots : ∀ t ∈ forest, ∀ p ∈ asked t.value.parentReplyId, ∀ u ∈ RoseTree.nodesOf forest, u.value.id ≠ p
  children : ∀ t ∈ RoseTree.nodesOf forest, ∀ c ∈ t.children, c.value.parentReplyId = some t.value.id
  rootsInOrder : forest.Pairwise fun t u ↦ t.value.createdAt < u.value.createdAt
  childrenInOrder : ∀ t ∈ RoseTree.nodesOf forest,
    t.children.Pairwise fun t u ↦ t.value.createdAt < u.value.createdAt

/-- What is made of the published replies, in the order of the times. -/
structure Listed (postId : String) (db : SocialDb) (dtos : List ReplyResponseDto) : Prop where
  shows : ∀ dto ∈ dtos, ∃ r ∈ publishedReplies postId db, Shows r dto
  ids : (dtos.map (·.id)).Perm ((publishedReplies postId db).map (·.id))
  inOrder : dtos.Pairwise fun a b ↦ a.createdAt < b.createdAt

theorem mem_publishedReplies {r : CommunityPostReply} (h : r ∈ publishedReplies postId db) :
    r ∈ db.communityPostReplies.rows := (List.mem_filter.mp h).1

theorem mem_parentIn {id : String} (h : parentIn dtos dto = some id) :
    dto.parentReplyId = some id ∧ ∃ b ∈ dtos, b.id = id := by
  obtain ⟨hasked, hany⟩ := Option.filter_eq_some_iff.mp h
  obtain ⟨b, hb, hid⟩ := List.any_eq_true.mp hany
  exact ⟨(Option.filter_eq_some_iff.mp hasked).1, b, hb, beq_iff_eq.mp hid⟩

theorem Listed.ranked (h : Listed postId db dtos) (hdb : Threaded db.communityPostReplies) :
    ∃ rank, Ranked ReplyResponseDto.id (parentIn dtos) rank dtos := by
  obtain ⟨rank, hrank⟩ := hdb
  refine ⟨rank, h.ids.nodup_iff.mpr ?_, fun dto hdto id hid ↦ ?_⟩
  · exact db.communityPostReplies.nodup_ids.sublist (List.filter_sublist.map CommunityPostReply.id)
  · obtain ⟨hparent, b, hb, rfl⟩ := mem_parentIn hid
    obtain ⟨r, hr, author, liked, rfl⟩ := h.shows dto hdto
    exact ⟨b, hb, rfl, (hrank r (mem_publishedReplies hr) b.id hparent).2⟩

/-- The objects that are linked in one pass unfold to the forest of the replies. -/
theorem Listed.forest (h : Listed postId db dtos) (hdb : Threaded db.communityPostReplies) :
    ∃ forest, Unfolds (link (parentIn dtos) dtos) forest ∧ ReplyForest postId db forest := by
  obtain ⟨rank, hranked⟩ := h.ranked hdb
  obtain ⟨forest, hroots, hchildren, hperm⟩ := hranked.exists_forest
  have hvalue : ∀ t ∈ RoseTree.nodesOf forest, t.value ∈ dtos := fun t ht ↦
    hperm.mem_iff.mp (List.mem_map_of_mem ht)
  refine ⟨forest, ⟨hroots.trans (link_roots _ _).symm, fun t ht ↦ ?_⟩, ?_, fun t ht ↦ ?_,
    fun t ht p hp u hu hid ↦ ?_, fun t ht c hc ↦ ?_, ?_, fun t ht ↦ ?_⟩
  · rw [hchildren t ht, link_below]
    rfl
  · have hids := (hperm.map ReplyResponseDto.id).trans h.ids
    rwa [List.map_map] at hids
  · exact h.shows _ (hvalue t ht)
  · have hroot : t.value ∈ dtos.filter fun a ↦ (parentIn dtos a).isNone :=
      hroots ▸ List.mem_map_of_mem ht
    have hnone := Option.isNone_iff_eq_none.mp (List.mem_filter.mp hroot).2
    have hany := Option.filter_eq_none_iff.mp hnone p hp
    exact hany (List.any_eq_true.mpr ⟨u.value, hvalue u hu, beq_iff_eq.mpr hid⟩)
  · have hbelow : c.value ∈ childrenOf ReplyResponseDto.id (parentIn dtos) dtos t.value :=
      hchildren t ht ▸ List.mem_map_of_mem hc
    exact (mem_parentIn (mem_childrenOf.mp hbelow).2).1
  · have hsorted := h.inOrder.sublist (List.filter_sublist (p := fun a ↦ (parentIn dtos a).isNone))
    rw [← hroots, List.pairwise_map] at hsorted
    exact hsorted
  · have hsorted := h.inOrder.sublist
      (List.filter_sublist (p := fun b ↦ parentIn dtos b == some t.value.id))
    rw [show dtos.filter (fun b ↦ parentIn dtos b == some t.value.id) =
      childrenOf ReplyResponseDto.id (parentIn dtos) dtos t.value from rfl, ← hchildren t ht,
      List.pairwise_map] at hsorted
    exact hsorted

theorem included_shows {found : CommunityPostReply × Option UserSummary × Bool} {r : IncludedReply}
    (h : included found = .ok r) : r.reply = found.1 := by
  obtain ⟨author, -, h⟩ := andThen_eq_ok.mp h
  cases h
  rfl

theorem listed_of_included {memberships : List CommunityMember} {replies : List IncludedReply}
    (hdistinct : ((publishedReplies postId db).map (·.createdAt)).Nodup)
    (h : replies.map (·.reply) = (publishedReplies postId db).insertionSort Earlier) :
    Listed postId db (replies.map (toDto memberships)) := by
  have hperm : (replies.map (·.reply)).Perm (publishedReplies postId db) :=
    h ▸ List.perm_insertionSort _ _
  refine ⟨fun dto hdto ↦ ?_, ?_, ?_⟩
  · obtain ⟨r, hr, rfl⟩ := List.mem_map.mp hdto
    exact ⟨r.reply, hperm.mem_iff.mp (List.mem_map_of_mem hr), _, _, rfl⟩
  · rw [List.map_map]
    have hids := hperm.map CommunityPostReply.id
    rwa [List.map_map] at hids
  · have hsorted : (replies.map (·.reply)).Pairwise Earlier := by
      rw [h]
      exact List.pairwise_insertionSort _ _
    have htimes : ((replies.map (·.reply)).map fun r ↦ r.createdAt).Nodup :=
      (hperm.map fun r : CommunityPostReply ↦ r.createdAt).nodup_iff.mpr hdistinct
    have hapart : (replies.map (·.reply)).Pairwise fun a b ↦ a.createdAt ≠ b.createdAt := by
      rw [List.Nodup, List.pairwise_map] at htimes
      exact htimes
    have hstrict : (replies.map (·.reply)).Pairwise fun a b ↦ a.createdAt < b.createdAt :=
      List.Pairwise.imp₂ (fun _ _ hle hne ↦ lt_of_le_of_ne hle hne) hsorted hapart
    rw [List.pairwise_map] at hstrict ⊢
    exact hstrict

theorem reply_of_mapM {found : List (CommunityPostReply × Option UserSummary × Bool)}
    {replies : List IncludedReply} (h : found.mapM included = .ok replies) :
    replies.map (·.reply) = found.map (·.1) := by
  induction found generalizing replies with
  | nil =>
    cases h
    rfl
  | cons f found ih =>
    rw [List.mapM_cons] at h
    obtain ⟨r, hr, h⟩ := andThen_eq_ok.mp h
    obtain ⟨rest, hrest, h⟩ := andThen_eq_ok.mp h
    cases h
    rw [List.map_cons, List.map_cons, included_shows hr, ih hrest]

theorem exists_mapM {found : List (CommunityPostReply × Option UserSummary × Bool)}
    (h : ∀ f ∈ found, f.2.1.isSome) : ∃ replies, found.mapM included = .ok replies := by
  induction found with
  | nil => exact ⟨[], rfl⟩
  | cons f found ih =>
    obtain ⟨rest, hrest⟩ := ih fun g hg ↦ h g (List.mem_cons_of_mem _ hg)
    obtain ⟨author, hauthor⟩ := Option.isSome_iff_exists.mp (h f List.mem_cons_self)
    refine ⟨⟨f.1, author, f.2.2⟩ :: rest, ?_⟩
    rw [List.mapM_cons, included, hauthor, hrest]
    rfl

end Forests

section Reading

open CommunityAuthorizationService

variable {communityId postId : String} {currentUserId : Option String}
  {currentUserRoles : List String} {db : SocialDb}

theorem withAuthor_reply : (((publishedReplies postId db).insertionSort Earlier).map
    (withAuthor currentUserId db)).map (·.1) = (publishedReplies postId db).insertionSort Earlier := by
  rw [List.map_map]
  exact List.map_id _

theorem assertCanView_unchanged {community : Community} {db' : SocialDb}
    (h : (assertCanViewCommunity communityId currentUserId currentUserRoles).Ran (fun _ ↦ True) db
      (.ok community) db') : db' = db := by
  have hreads : (assertCanViewCommunity communityId currentUserId currentUserRoles).Each
      fun _ s s' ↦ s' = s := assertCanViewCommunity_each fun _ _ ↦ rfl
  exact hreads.ran (J := fun s ↦ s = db) (fun _ _ _ hs hs' ↦ hs'.trans hs) h rfl

/-- What the call returns unfolds to the forest of the replies. -/
theorem findAll_forest (hdb : Threaded db.communityPostReplies)
    (hdistinct : ((publishedReplies postId db).map (·.createdAt)).Nodup) :
    (findAll communityId postId currentUserId currentUserRoles).Returns (fun _ ↦ True) db
      fun linked _ ↦ ∃ forest, Unfolds linked forest ∧ ReplyForest postId db forest := by
  intro linked db' hran
  simp only [findAll, Call.bind_eq, Call.ran_bind_ok, ran_look, Call.ran_returned_ok] at hran
  obtain ⟨community, _, hcommunity, hran⟩ := hran
  rw [assertCanView_unchanged hcommunity] at hran
  obtain ⟨_, _, ⟨-, rfl⟩, _, _, ⟨-, rfl⟩, found, _, ⟨rfl, rfl⟩, replies, _, ⟨hreplies, rfl⟩,
    memberships, _, ⟨-, rfl⟩, hlinked⟩ := hran
  obtain ⟨hlinked, -⟩ := Call.ran_returned_ok.mp hlinked
  cases hlinked
  exact (listed_of_included hdistinct
    ((reply_of_mapM hreplies).trans withAuthor_reply)).forest hdb

/-- Who may view the community and asks for a post that is there gets the replies. -/
theorem exists_findAll (hadmits : AdmitsTo communityId currentUserId currentUserRoles db)
    (hpost : (existingPost communityId postId db).isSome)
    (hauthors : ∀ r ∈ db.communityPostReplies.rows, db.accounts.users.has r.authorId = true) :
    ∃ linked, (findAll communityId postId currentUserId currentUserRoles).Ran (fun _ ↦ True) db
      (.ok linked) db := by
  obtain ⟨community, db', hcommunity⟩ := hadmits
  cases assertCanView_unchanged hcommunity
  obtain ⟨replies, hreplies⟩ : ∃ replies, (((publishedReplies postId db).insertionSort Earlier).map
      (withAuthor currentUserId db)).mapM included = .ok replies := by
    refine exists_mapM fun f hf ↦ ?_
    obtain ⟨r, hr, rfl⟩ := List.mem_map.mp hf
    have hhas := hauthors r (mem_publishedReplies ((List.mem_insertionSort Earlier).mp hr))
    rw [withAuthor, userSummary, Option.isSome_map]
    exact hhas
  simp only [findAll, Call.bind_eq, Call.ran_bind_ok, ran_look, Call.ran_returned_ok]
  exact ⟨_, community, db, hcommunity, _, _, ⟨rfl, rfl⟩, (), _, ⟨demand_eq_ok.mpr hpost, rfl⟩, _, _,
    ⟨rfl, rfl⟩, replies, _, ⟨hreplies, rfl⟩, _, _, ⟨rfl, rfl⟩, .returned⟩

end Reading

end Innovents.Communities.Social
