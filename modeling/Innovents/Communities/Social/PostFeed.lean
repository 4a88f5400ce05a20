import Innovents.Communities.Social.CommunityPostsService

namespace Innovents.Communities.Social

open Innovents.Lib Innovents.Auth Innovents.Platform
open Innovents.Payments (Time CommunityMemberRole)

namespace CommunityPostsService

open Innovents.Communities.Social.CommunityRepliesService (roleIn)

def atPage (query : PostQueryDto) (p : ℕ) : PostQueryDto := { query with page := some p }

def pageSize (query : PostQueryDto) : ℕ := query.pageSize.getD 20

/-- Who asks, for the posts of which community. -/
structure Asking where
  communityId : String
  currentUserId : Option String
  currentUserRoles : List String

/-- An answer of `findAll`. -/
def Lists (w : Asking) (query : PostQueryDto) (db : SocialDb) (answer : PaginatedPostsDto) : Prop :=
  ∃ db', (findAll w.communityId query w.currentUserId w.currentUserRoles).Ran (fun _ ↦ True) db
    (.ok answer) db'

/-- An answer of `findOne`. -/
def Finds (w : Asking) (postId : String) (db : SocialDb) (answer : PostResponseDto) : Prop :=
  ∃ db', (findOne w.communityId postId w.currentUserId w.currentUserRoles).Ran (fun _ ↦ True) db
    (.ok answer) db'

def listed (w : Asking) (query : PostQueryDto) (db : SocialDb) : List CommunityPost :=
  db.communityPosts.rows.filter (isListed w.communityId query.isPinned)

/-- The pages count the listed posts and are together these posts, pinned ones first and later ones
before earlier ones, each as `findOne` answers it. What `findOne` answers for a published post is on
one page. -/
structure ExactFeed (w : Asking) (query : PostQueryDto) (db : SocialDb)
    (pages : ℕ → PaginatedPostsDto) : Prop where
  total : ∀ p, 1 ≤ p → (pages p).total = (listed w query db).length
  listing : Listing (fun post dto ↦ Finds w post.id db dto) Before (pageSize query)
    (listed w query db) (pages 1).totalPages fun k ↦ (pages (k + 1)).data
  onePage : ∀ postId dto, Finds w postId db dto → dto.status = .published →
    query.isPinned.all (dto.isPinned == ·) = true → ∃! k, dto ∈ (pages (k + 1)).data

section Rows

variable {w : Asking} {query : PostQueryDto} {db : SocialDb} {post : CommunityPost}

instance : Std.Total Before := ⟨fun a b ↦ by
  unfold Before
  cases a.isPinned <;> cases b.isPinned <;> simp [le_total]⟩

instance : IsTrans CommunityPost Before := ⟨fun a b c h h' ↦ by
  unfold Before at *
  rcases h with ⟨ha, hb⟩ | ⟨hab, hle⟩
  · rcases h' with ⟨hb', -⟩ | ⟨hbc, -⟩
    · rw [hb] at hb'
      cases hb'
    · exact .inl ⟨ha, hbc ▸ hb⟩
  · rcases h' with ⟨hb, hc⟩ | ⟨hbc, hle'⟩
    · exact .inl ⟨hab.trans hb, hc⟩
    · exact .inr ⟨hab.trans hbc, le_trans hle' hle⟩⟩

/-- The role that a search for the memberships of several users finds is that of the user. -/
theorem roleIn_eq {communityId userId : String} {userIds : List String} (h : userId ∈ userIds) :
    roleIn (db.communityMembers.rows.filter fun m ↦
      m.communityId == communityId && userIds.contains m.userId) userId =
        (membershipOf communityId userId db).map (·.role) := by
  unfold roleIn
  congr 1
  cases hfound : membershipOf communityId userId db with
  | none =>
    have hnone := Table.find?_eq_none.mp hfound
    rw [List.find?_eq_none]
    intro m hm huser
    obtain ⟨hrow, hkey⟩ := List.mem_filter.mp (List.mem_reverse.mp hm)
    have hcommunity := (Bool.and_eq_true_iff.mp hkey).1
    have hm' := hnone m hrow
    rw [hcommunity, huser] at hm'
    cases hm'
  | some m =>
    obtain ⟨hrow, hcommunity, huser⟩ := membershipOf_eq_some hfound
    have hmem : m ∈ (db.communityMembers.rows.filter fun m ↦
        m.communityId == communityId && userIds.contains m.userId).reverse := by
      simp [hrow, hcommunity, huser, h]
    cases hfirst : List.find? (fun m ↦ m.userId == userId) (db.communityMembers.rows.filter fun m ↦
        m.communityId == communityId && userIds.contains m.userId).reverse with
    | none => simpa [huser] using List.find?_eq_none.mp hfirst m hmem
    | some m' =>
      have huser' : m'.userId = userId := by simpa using List.find?_some hfirst
      obtain ⟨hrow', hkey⟩ := List.mem_filter.mp (List.mem_reverse.mp (List.mem_of_find?_eq_some hfirst))
      have hcommunity' := beq_iff_eq.mp (Bool.and_eq_true_iff.mp hkey).1
      have hown := membershipOf_mem hrow'
      rwa [hcommunity', huser', hfound, eq_comm] at hown

theorem mem_listed : post ∈ listed w query db ↔
    existingPost w.communityId post.id db = some post ∧ post.status = .published ∧
      query.isPinned.all (post.isPinned == ·) = true := by
  unfold listed isListed existingPost
  rw [List.mem_filter, Option.filter_eq_some_iff]
  simp only [Bool.and_eq_true, beq_iff_eq, Option.isNone_iff_eq_none, decide_eq_true_eq,
    Table.get?_eq_some]
  tauto

end Rows

section Answers

variable {w : Asking} {query : PostQueryDto} {db : SocialDb} {post : CommunityPost}
  {postId : String} {dto : PostResponseDto}

/-- The answer for the post, with its author and the role that the author has in the community. -/
def Shown (w : Asking) (db : SocialDb) (post : CommunityPost) (dto : PostResponseDto) : Prop :=
  ∃ p, included (withAuthor w.currentUserId db post) = .ok p ∧
    dto = toDto ((membershipOf w.communityId post.authorId db).map (·.role)) p

theorem included_post {p : IncludedPost} (h : included (withAuthor w.currentUserId db post) = .ok p) :
    p.post = post := by
  obtain ⟨author, -, h⟩ := andThen_eq_ok.mp h
  cases h
  rfl

theorem Shown.id_eq (h : Shown w db post dto) : dto.id = post.id := by
  obtain ⟨p, hp, rfl⟩ := h
  exact congrArg CommunityPost.id (included_post hp)

theorem Shown.status_eq (h : Shown w db post dto) : dto.status = post.status := by
  obtain ⟨p, hp, rfl⟩ := h
  exact congrArg CommunityPost.status (included_post hp)

theorem Shown.isPinned_eq (h : Shown w db post dto) : dto.isPinned = post.isPinned := by
  obtain ⟨p, hp, rfl⟩ := h
  exact congrArg CommunityPost.isPinned (included_post hp)

theorem Shown.unique {dto' : PostResponseDto} (h : Shown w db post dto)
    (h' : Shown w db post dto') : dto' = dto := by
  obtain ⟨p, hp, rfl⟩ := h
  obtain ⟨p', hp', rfl⟩ := h'
  rw [hp] at hp'
  cases hp'
  rfl

theorem exists_shown (hauthor : db.accounts.users.has post.authorId = true) :
    ∃ p, included (withAuthor w.currentUserId db post) = .ok p := by
  obtain ⟨user, huser⟩ := Option.isSome_iff_exists.mp hauthor
  refine ⟨⟨post, ⟨user.id, user.email⟩, (withAuthor w.currentUserId db post).2.2⟩, ?_⟩
  rw [included, withAuthor, userSummary, huser]
  rfl

theorem finds_iff : Finds w postId db dto ↔
    AdmitsTo w.communityId w.currentUserId w.currentUserRoles db ∧
      ∃ post, existingPost w.communityId postId db = some post ∧ Shown w db post dto := by
  unfold Finds findOne
  simp only [Call.bind_eq, Call.ran_bind_ok, ran_look, Call.ran_returned_ok, present_eq_ok]
  constructor
  · rintro ⟨db', community, db₁, hview, hrest⟩
    refine ⟨⟨community, db₁, hview⟩, ?_⟩
    rw [assertCanView_unchanged hview] at hrest
    cases hpost : existingPost w.communityId postId db with
    | none =>
      obtain ⟨_, _, ⟨rfl, rfl⟩, _, _, ⟨hincluded, -⟩, p, _, ⟨rfl, -⟩, -⟩ := hrest
      rw [hpost] at hincluded
      cases hincluded
    | some post =>
      obtain ⟨_, _, ⟨rfl, rfl⟩, _, _, ⟨hincluded, rfl⟩, p, _, ⟨rfl, rfl⟩, membership, _,
        ⟨rfl, rfl⟩, hdto⟩ := hrest
      obtain ⟨hdto, -⟩ := Call.ran_returned_ok.mp hdto
      rw [hpost] at hincluded
      obtain ⟨q, hq, hsame⟩ := andThen_eq_ok.mp hincluded
      cases hsame
      refine ⟨post, rfl, p, hq, ?_⟩
      rw [← Except.ok.inj hdto, included_post hq]
  · rintro ⟨⟨community, db₁, hview⟩, post, hpost, p, hp, rfl⟩
    rw [assertCanView_unchanged hview] at hview
    refine ⟨db, community, db, hview, _, _, ⟨rfl, rfl⟩, some p, db, ⟨?_, rfl⟩, p, db, ⟨rfl, rfl⟩,
      _, _, ⟨rfl, rfl⟩, ?_⟩
    · rw [hpost, Option.map_some]
      exact andThen_eq_ok.mpr ⟨p, hp, rfl⟩
    · rw [included_post hp]
      exact .returned

/-- The listed posts in their order. -/
def sorted (w : Asking) (query : PostQueryDto) (db : SocialDb) : List CommunityPost :=
  (listed w query db).insertionSort Before

theorem mem_sorted : post ∈ sorted w query db ↔ post ∈ listed w query db :=
  List.mem_insertionSort Before

/-- The posts of the page that is asked for, each with what a search includes. -/
def Included (w : Asking) (query : PostQueryDto) (db : SocialDb) (posts : List IncludedPost) : Prop :=
  ((page (pageSize query) (sorted w query db) (query.page.getD 1 - 1)).map
    (withAuthor w.currentUserId db)).mapM included = .ok posts

/-- The answer that is made of the posts. -/
def answer (w : Asking) (query : PostQueryDto) (db : SocialDb) (posts : List IncludedPost) :
    PaginatedPostsDto :=
  let memberships := db.communityMembers.rows.filter fun m ↦
    m.communityId == w.communityId && (posts.map (·.post.authorId)).contains m.userId
  let total := db.communityPosts.rows.countP (isListed w.communityId query.isPinned)
  { data := posts.map fun p ↦ toDto (roleIn memberships p.post.authorId) p
    total
    page := query.page.getD 1
    pageSize := pageSize query
    totalPages := max 1 (pageCount total (pageSize query)) }

theorem lists_iff {a : PaginatedPostsDto} : Lists w query db a ↔
    AdmitsTo w.communityId w.currentUserId w.currentUserRoles db ∧
      ∃ posts, Included w query db posts ∧ a = answer w query db posts := by
  unfold Lists findAll
  simp only [Call.bind_eq, Call.ran_bind_ok, ran_look, Call.ran_returned_ok]
  constructor
  · rintro ⟨db', community, db₁, hview, hrest⟩
    refine ⟨⟨community, db₁, hview⟩, ?_⟩
    rw [assertCanView_unchanged hview] at hrest
    obtain ⟨found, _, ⟨rfl, rfl⟩, posts, _, ⟨hposts, rfl⟩, total, _, ⟨rfl, rfl⟩, memberships, _,
      ⟨rfl, rfl⟩, ha⟩ := hrest
    obtain ⟨ha, -⟩ := Call.ran_returned_ok.mp ha
    exact ⟨posts, hposts, (Except.ok.inj ha).symm⟩
  · rintro ⟨⟨community, db₁, hview⟩, posts, hposts, rfl⟩
    rw [assertCanView_unchanged hview] at hview
    exact ⟨db, community, db, hview, _, _, ⟨rfl, rfl⟩, posts, db, ⟨hposts, rfl⟩, _, _, ⟨rfl, rfl⟩,
      _, _, ⟨rfl, rfl⟩, .returned⟩

/-- The posts of a page are answered as they are one by one. -/
theorem shown_of_included {posts : List IncludedPost} (h : Included w query db posts) :
    List.Forall₂ (Shown w db) (page (pageSize query) (sorted w query db) (query.page.getD 1 - 1))
      (answer w query db posts).data := by
  have hrows := mapM_forall₂ h
  rw [List.forall₂_map_left_iff] at hrows
  rw [answer, List.forall₂_map_right_iff]
  have hauthors : ∀ p ∈ posts, p.post.authorId ∈ posts.map (·.post.authorId) :=
    fun p hp ↦ List.mem_map_of_mem hp
  have hboth := (List.forall₂_and_left posts _).mpr ⟨hauthors, hrows.flip⟩
  refine hboth.flip.imp ?_
  rintro post p ⟨hauthor, hp⟩
  refine ⟨p, hp, ?_⟩
  rw [roleIn_eq hauthor, included_post hp]

end Answers

section Exactness

variable {w : Asking} {query : PostQueryDto} {db : SocialDb} {pages : ℕ → PaginatedPostsDto}

theorem exists_page (hauthors : ∀ post ∈ db.communityPosts.rows,
      db.accounts.users.has post.authorId = true)
    (hadmits : AdmitsTo w.communityId w.currentUserId w.currentUserRoles db) :
    ∃ a, Lists w query db a := by
  have hincluded : ∀ rows : List CommunityPost, (∀ post ∈ rows, post ∈ db.communityPosts.rows) →
      ∃ posts, (rows.map (withAuthor w.currentUserId db)).mapM included = .ok posts := by
    intro rows
    induction rows with
    | nil => exact fun _ ↦ ⟨[], rfl⟩
    | cons post rows ih =>
      intro hrows
      obtain ⟨p, hp⟩ := exists_shown (w := w) (hauthors post (hrows post List.mem_cons_self))
      obtain ⟨posts, hposts⟩ := ih fun q hq ↦ hrows q (List.mem_cons_of_mem _ hq)
      refine ⟨p :: posts, ?_⟩
      rw [List.map_cons, List.mapM_cons, hp, hposts]
      rfl
  obtain ⟨posts, hposts⟩ := hincluded (page (pageSize query) (sorted w query db)
    (query.page.getD 1 - 1)) fun post hpost ↦ by
      have hlisted := mem_sorted.mp ((page_sublist _).mem hpost)
      exact (List.mem_filter.mp hlisted).1
  exact ⟨_, lists_iff.mpr ⟨hadmits, posts, hposts, rfl⟩⟩

/-- The pages of a feed are exact, and who may view the community gets each of them. -/
theorem feed_exact (hsize : query.pageSize ≠ some 0)
    (hauthors : ∀ post ∈ db.communityPosts.rows, db.accounts.users.has post.authorId = true)
    (hadmits : AdmitsTo w.communityId w.currentUserId w.currentUserRoles db) :
    (∀ p, ∃ a, Lists w (atPage query p) db a) ∧
      ∀ pages, (∀ p, 1 ≤ p → Lists w (atPage query p) db (pages p)) → ExactFeed w query db pages := by
  refine ⟨fun p ↦ exists_page hauthors hadmits, fun pages hpages ↦ ?_⟩
  have hpos : 0 < pageSize query := by
    unfold pageSize
    cases hquery : query.pageSize with
    | none => decide
    | some size =>
      have hne : size ≠ 0 := fun h ↦ hsize (h ▸ hquery)
      simpa using Nat.pos_of_ne_zero hne
  have hanswer : ∀ p, 1 ≤ p → ∃ posts, Included w (atPage query p) db posts ∧
      pages p = answer w (atPage query p) db posts := fun p hp ↦ (lists_iff.mp (hpages p hp)).2
  have htotal : ∀ p, 1 ≤ p → (pages p).total = (listed w query db).length ∧
      (pages p).totalPages = max 1 (pageCount (listed w query db).length (pageSize query)) := by
    intro p hp
    obtain ⟨posts, -, heq⟩ := hanswer p hp
    rw [heq, listed, ← List.countP_eq_length_filter]
    exact ⟨rfl, rfl⟩
  have hshown : ∀ k, List.Forall₂ (Shown w db) (page (pageSize query) (sorted w query db) k)
      (pages (k + 1)).data := by
    intro k
    obtain ⟨posts, hposts, heq⟩ := hanswer (k + 1) (Nat.succ_pos k)
    rw [heq]
    exact shown_of_included hposts
  have hlisting := listing hpos hshown
  rw [← (htotal 1 le_rfl).2] at hlisting
  refine ⟨fun p hp ↦ (htotal p hp).1, hlisting.mono fun post hpost dto hdto ↦ ?_,
    fun postId dto hfinds hstatus hpinned ↦ ?_⟩
  · exact finds_iff.mpr ⟨hadmits, post, (mem_listed.mp hpost).1, hdto⟩
  · obtain ⟨-, post, hpost, hdto⟩ := finds_iff.mp hfinds
    have hid : post.id = postId :=
      (Table.get?_eq_some.mp (Option.filter_eq_some_iff.mp hpost).1).2
    rw [hdto.status_eq] at hstatus
    rw [hdto.isPinned_eq] at hpinned
    have hlisted : post ∈ listed w query db := mem_listed.mpr ⟨hid ▸ hpost, hstatus, hpinned⟩
    have hids : ((listed w query db).map CommunityPost.id).Nodup :=
      db.communityPosts.nodup_ids.sublist (List.filter_sublist.map CommunityPost.id)
    exact hlisting.existsUnique (fun _ _ h ↦ h.id_eq.symm) hids hlisted fun dto' ↦ hdto.unique

end Exactness

section Sample

/-- A private community with a post, a pinned post and a hidden post. -/
def feedDb : SocialDb :=
  { privateDb with
    communityPosts :=
      (((Table.singleton samplePost).create
        { samplePost with
          id := "post-2"
          isPinned := true }).bind fun t ↦ t.create
        { samplePost with
          id := "post-3"
          status := .hidden }).toOption.getD .empty }

/-- The second member asks. -/
def member : Asking := ⟨"community-1", some "user-2", []⟩

def onePerPage : PostQueryDto := ⟨none, some 1, none⟩

/-- The member gets the pinned post and the other one, on a page each. -/
theorem member_reads_feed : ∃ pages : ℕ → PaginatedPostsDto,
    (∀ p, 1 ≤ p → Lists member (atPage onePerPage p) feedDb (pages p)) ∧ (pages 1).total = 2 ∧
      ExactFeed member onePerPage feedDb pages := by
  have hadmits : AdmitsTo "community-1" (some "user-2") [] feedDb := by
    have hmember : ∃ userId ∈ CommunitiesService.asked (some "user-2"), "ADMIN" ∈ ([] : List String) ∨
        (activeMembership "community-1" userId feedDb).isSome := ⟨"user-2", rfl, .inr (by decide)⟩
    let c : Community := { sampleCommunity with
      visibility := .isPrivate
      memberCount := 2 }
    exact admits_of (c := c) (List.mem_singleton_self _) rfl (.inr hmember)
  have hauthors : ∀ post ∈ feedDb.communityPosts.rows,
      feedDb.accounts.users.has post.authorId = true := by decide +kernel
  have hsize : onePerPage.pageSize ≠ some 0 := by decide
  have ⟨hanswers, hexact⟩ : _ ∧ ∀ pages, _ → ExactFeed member onePerPage feedDb pages :=
    feed_exact hsize hauthors hadmits
  choose answers hlists using hanswers
  have hpages := hexact answers fun p _ ↦ hlists p
  refine ⟨answers, fun p _ ↦ hlists p, ?_, hpages⟩
  rw [hpages.total 1 le_rfl]
  decide +kernel

end Sample

end CommunityPostsService

end Innovents.Communities.Social
