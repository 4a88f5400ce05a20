import Innovents.Communities.Social.Memberships
import Mathlib.Data.List.Sort

namespace Innovents.Communities.Social

open Innovents.Lib Innovents.Auth Innovents.Platform
open Innovents.Payments (CommunityType CommunityVisibility CommunityStatus CommunityMemberRole)

namespace CommunityAuthorizationService

/-- Everybody may view a public community that is active. Whoever may not view one is told that there
is none. -/
def assertCanViewCommunity (communityId : String) (userId : Option String)
    (userRoles : List String) : SocialCall Community := do
  let community ← findCommunity communityId
  if community.visibility = .isPublic ∧ community.status = .active then return community
  else do
    let userId ← Call.returned (present (userId.filter (· ≠ ""))
      (refusal .notFound "Community not found"))
    if "ADMIN" ∈ userRoles ∨ community.createdById = userId then return community
    else do
      let membership ← Call.reads "communityMember.findUnique" fun _ ↦
        membershipOf communityId userId
      Call.returned (demand (∃ m ∈ membership, m.status = .active)
        (refusal .notFound "Community not found"))
      return community

variable {communityId : String} {userId : Option String} {userRoles : List String}

theorem assertCanViewCommunity_each {G : String → SocialDb → SocialDb → Prop}
    (hG : ∀ label db, G label db db) :
    (assertCanViewCommunity communityId userId userRoles).Each G := by
  refine Call.each_bind (findCommunity_each (hG _)) fun community ↦ ?_
  split_ifs
  · exact Call.each_returned
  · refine Call.each_bind Call.each_returned fun userId ↦ ?_
    split_ifs
    · exact Call.each_returned
    · refine Call.each_bind (Call.each_reads (hG _)) fun membership ↦ ?_
      exact Call.each_bind Call.each_returned fun _ ↦ Call.each_returned

end CommunityAuthorizationService

structure CommunityQueryDto where
  page : Option ℕ
  pageSize : Option ℕ
  eventId : Option String
  search : Option String
  category : Option String
  type : Option CommunityType
  visibility : Option CommunityVisibility
  status : Option CommunityStatus

/-- The conditions of a search that have been set; `memberId` is the user of the condition `OR`, and
`search` the text of the condition `AND`. -/
structure CommunityWhereInput where
  eventId : Option String
  category : Option String
  type : Option CommunityType
  status : CommunityStatus
  visibility : Option CommunityVisibility
  memberId : Option String
  search : Option String

structure PaginatedCommunitiesDto where
  data : List CommunityResponseDto
  total : ℕ
  page : ℕ
  pageSize : ℕ
  totalPages : ℕ

/-- `members: { some: { userId, status: ACTIVE } }` -/
def activeMembership (communityId userId : String) (db : SocialDb) : Option CommunityMember :=
  (membershipOf communityId userId db).filter (·.status = .active)

namespace CommunitiesService

/-- What is true of a text that is not there, or is empty. -/
abbrev asked (text : Option String) : Option String := text.filter (· ≠ "")

def whereOf (query : CommunityQueryDto) (currentUserId : Option String)
    (currentUserRoles : List String) : CommunityWhereInput where
  eventId := asked query.eventId
  category := asked query.category
  type := query.type
  status := if "ADMIN" ∈ currentUserRoles then query.status.getD .active else .active
  visibility := if "ADMIN" ∈ currentUserRoles then query.visibility
    else if (asked currentUserId).isSome then none else some .isPublic
  memberId := if "ADMIN" ∈ currentUserRoles then none else asked currentUserId
  search := asked query.search

/-- Whether a community that is not deleted meets the conditions; `ilike` tells whether a text
contains another in any case. -/
def matchesWhere (ilike : String → String → Bool) (w : CommunityWhereInput) (db : SocialDb)
    (c : Community) : Bool :=
  c.deletedAt.isNone && w.eventId.all (c.eventId == ·) && w.category.all (ilike c.category) &&
    w.type.all (c.type == ·) && c.status == w.status && w.visibility.all (c.visibility == ·) &&
    (w.memberId.all fun userId ↦ c.visibility == .isPublic ||
      c.visibility == .isPrivate && (activeMembership c.id userId db).isSome) &&
    (w.search.all fun text ↦ ilike c.name text || ilike c.bio text || ilike c.description text)

/-- `orderBy: [{ isPinned: 'desc' }, { createdAt: 'desc' }]` -/
def Before (a b : Community) : Prop :=
  a.isPinned = true ∧ b.isPinned = false ∨ a.isPinned = b.isPinned ∧ b.createdAt ≤ a.createdAt

instance : DecidableRel Before := fun a b ↦
  inferInstanceAs (Decidable (a.isPinned = true ∧ b.isPinned = false ∨
    a.isPinned = b.isPinned ∧ b.createdAt ≤ a.createdAt))

/-- A community with its creator and the membership of the caller. -/
def toDto (currentUserId : Option String) (db : SocialDb) (c : Community) : CommunityResponseDto :=
  let membership := (asked currentUserId).bind fun userId ↦ activeMembership c.id userId db
  mapToResponseDto c (userSummary c.createdById db) (membership.map (·.role)) membership.isSome

def findAll (ilike : String → String → Bool) (query : CommunityQueryDto)
    (currentUserId : Option String) (currentUserRoles : List String) :
    SocialCall PaginatedCommunitiesDto := do
  let page := query.page.getD 1
  let pageSize := query.pageSize.getD 20
  let w := whereOf query currentUserId currentUserRoles
  let data ← Call.reads "community.findMany" fun _ (db : SocialDb) ↦
    ((((db.communities.rows.filter (matchesWhere ilike w db)).insertionSort Before).drop
      ((page - 1) * pageSize)).take pageSize).map (toDto currentUserId db)
  let total ← Call.reads "community.count" fun _ (db : SocialDb) ↦
    db.communities.rows.countP (matchesWhere ilike w db)
  return {
    data
    total
    page
    pageSize
    totalPages := max 1 ((total + pageSize - 1) / pageSize) }

end CommunitiesService

section Discovery

open CommunityAuthorizationService Innovents.Communities.Social.CommunitiesService

variable {currentUserId : Option String} {currentUserRoles : List String} {db : SocialDb}
  {c : Community}

/-- `assertCanViewCommunity` admits the caller. -/
def AdmitsTo (communityId : String) (userId : Option String) (userRoles : List String)
    (db : SocialDb) : Prop :=
  ∃ community db', (assertCanViewCommunity communityId userId userRoles).Ran (fun _ ↦ True) db
    (.ok community) db'

/-- Whom the check admits. -/
theorem admits_of (hc : c ∈ db.communities.rows) (hdeleted : c.deletedAt = none)
    (h : c.visibility = .isPublic ∧ c.status = .active ∨ ∃ userId ∈ asked currentUserId,
      "ADMIN" ∈ currentUserRoles ∨ (activeMembership c.id userId db).isSome) :
    AdmitsTo c.id currentUserId currentUserRoles db := by
  refine ⟨c, db, ?_⟩
  have hget : db.communities.get? c.id = some c := Table.get?_eq_some.mpr ⟨hc, rfl⟩
  have hfound : existingCommunity c.id db = some c :=
    Option.filter_eq_some_iff.mpr ⟨hget, Option.isNone_iff_eq_none.mpr hdeleted⟩
  simp only [assertCanViewCommunity, findCommunity, Call.bind_eq, Call.ran_bind_ok, ran_look,
    Call.ran_returned_ok, present_eq_ok]
  refine ⟨c, db, ⟨_, _, ⟨rfl, rfl⟩, hfound, rfl⟩, ?_⟩
  split_ifs with hopen
  · exact .returned
  · obtain ⟨userId, huser, hmay⟩ := h.resolve_left hopen
    simp only [Call.ran_bind_ok, Call.ran_returned_ok, present_eq_ok]
    refine ⟨userId, db, ⟨huser, rfl⟩, ?_⟩
    split_ifs with howner
    · exact .returned
    · obtain ⟨m, hm⟩ := Option.isSome_iff_exists.mp (hmay.resolve_left (howner ∘ .inl))
      obtain ⟨hm, hactive⟩ := Option.filter_eq_some_iff.mp hm
      simp only [Call.ran_bind_ok, ran_look, Call.ran_returned_ok, demand_eq_ok]
      exact ⟨_, db, ⟨rfl, rfl⟩, (), db, ⟨⟨m, hm, of_decide_eq_true hactive⟩, rfl⟩, .returned⟩

/-- A community that meets the conditions of the caller is one that the caller may view. -/
theorem admits_of_matches {ilike : String → String → Bool} {query : CommunityQueryDto}
    (hadmin : "ADMIN" ∈ currentUserRoles → (asked currentUserId).isSome) (hc : c ∈ db.communities.rows)
    (h : matchesWhere ilike (whereOf query currentUserId currentUserRoles) db c = true) :
    AdmitsTo c.id currentUserId currentUserRoles db := by
  simp only [matchesWhere, whereOf, Bool.and_eq_true, beq_iff_eq] at h
  obtain ⟨⟨⟨⟨⟨⟨⟨hdeleted, -⟩, -⟩, -⟩, hstatus⟩, hvisibility⟩, hmember⟩, -⟩ := h
  refine admits_of hc (Option.isNone_iff_eq_none.mp hdeleted) ?_
  by_cases hrole : "ADMIN" ∈ currentUserRoles
  · obtain ⟨userId, huser⟩ := Option.isSome_iff_exists.mp (hadmin hrole)
    exact .inr ⟨userId, huser, .inl hrole⟩
  · rw [if_neg hrole] at hstatus hvisibility hmember
    cases huser : asked currentUserId with
    | none =>
      rw [huser, Option.isSome_none, if_neg Bool.false_ne_true, Option.all_some, beq_iff_eq]
        at hvisibility
      exact .inl ⟨hvisibility, hstatus⟩
    | some userId =>
      rw [huser, Option.all_some, Bool.or_eq_true, Bool.and_eq_true, beq_iff_eq] at hmember
      rcases hmember with hopen | ⟨-, hmember⟩
      · exact .inl ⟨hopen, hstatus⟩
      · exact .inr ⟨userId, rfl, .inr hmember⟩

/-- Whatever the caller asks for, only communities that the caller may view are listed and counted. -/
theorem discovery_respects_visibility (ilike : String → String → Bool) (query : CommunityQueryDto)
    (hadmin : "ADMIN" ∈ currentUserRoles → (asked currentUserId).isSome) :
    (findAll ilike query currentUserId currentUserRoles).Returns (fun _ ↦ True) db fun result _ ↦
      (∀ dto ∈ result.data, AdmitsTo dto.id currentUserId currentUserRoles db) ∧
        ∃ counted : List Community, counted.Sublist db.communities.rows ∧
          result.total = counted.length ∧
            ∀ c ∈ counted, AdmitsTo c.id currentUserId currentUserRoles db := by
  intro result db' hran
  simp only [findAll, Call.bind_eq, Call.ran_bind_ok, ran_look, Call.pure_eq,
    Call.ran_returned_ok] at hran
  obtain ⟨_, _, ⟨rfl, rfl⟩, _, _, ⟨rfl, rfl⟩, hresult, -⟩ := hran
  cases hresult
  constructor
  · intro dto hdto
    obtain ⟨c, hc, rfl⟩ := List.mem_map.mp hdto
    have hsorted := List.mem_of_mem_drop (List.mem_of_mem_take hc)
    obtain ⟨hmem, hmatches⟩ := List.mem_filter.mp ((List.mem_insertionSort _).mp hsorted)
    exact admits_of_matches hadmin hmem hmatches
  · refine ⟨_, List.filter_sublist, List.countP_eq_length_filter, fun c hc ↦ ?_⟩
    obtain ⟨hmem, hmatches⟩ := List.mem_filter.mp hc
    exact admits_of_matches hadmin hmem hmatches

end Discovery

section Sample

/-- The community of the owner and the second member, which is private. -/
def privateDb : SocialDb :=
  { socialDb with
    communities := .singleton { sampleCommunity with
      visibility := .isPrivate
      memberCount := 2 } }

def anyCommunity : CommunityQueryDto := ⟨none, none, none, none, none, none, none, none⟩

/-- The second member finds the private community, and may view it. -/
theorem member_discovers : ∃ result : PaginatedCommunitiesDto,
    result.data.map (·.id) = ["community-1"] ∧ result.total = 1 ∧
      (∀ dto ∈ result.data, AdmitsTo dto.id (some "user-2") [] privateDb) ∧
        ∃ counted : List Community, counted.Sublist privateDb.communities.rows ∧
          result.total = counted.length ∧ ∀ c ∈ counted, AdmitsTo c.id (some "user-2") [] privateDb := by
  have hrun : (Call.outcome [sampleEnv 1 "a", sampleEnv 1 "b"] privateDb
      (Innovents.Communities.Social.CommunitiesService.findAll (fun _ _ ↦ false) anyCommunity
        (some "user-2") [])).any (fun q ↦ q.1.toOption.any fun result ↦
          result.data.map (·.id) == ["community-1"] && result.total == 1) = true := by
    decide +kernel
  obtain ⟨result, db', hran, htest⟩ := Call.exists_ran_of_outcome hrun
  obtain ⟨hids, htotal⟩ := Bool.and_eq_true_iff.mp htest
  exact ⟨result, beq_iff_eq.mp hids, beq_iff_eq.mp htotal,
    discovery_respects_visibility _ _ (by decide) result db' hran⟩

end Sample

end Innovents.Communities.Social
