import Innovents.Communities.Social.CommunityMembersService
import Innovents.Lib.Stability

namespace Innovents.Communities.Social

open Innovents.Lib Innovents.Auth Innovents.Platform
open Innovents.Payments (Time CommunityMemberRole CommunityMemberStatus)

section Operations

inductive MembershipOp
  | create (userId : String) (userRoles : List String) (dto : CreateCommunityDto) (client : Client)
  | join (userId communityId : String) (userRoles : List String) (client : Client)
  | leave (userId communityId : String) (client : Client)
  | updateRole (communityId targetUserId operatorUserId : String) (operatorRoles : List String)
      (dto : UpdateMemberRoleDto) (client : Client)
  | banMember (communityId targetUserId operatorUserId : String) (operatorRoles : List String)
      (client : Client)
  | unbanMember (communityId targetUserId operatorUserId : String) (operatorRoles : List String)
      (client : Client)

inductive MembershipReply
  | community (dto : CommunityResponseDto)
  | member (dto : CommunityMemberResponseDto)
  | message (dto : MessageDto)

def MembershipOp.runs : MembershipOp → SocialCall MembershipReply
  | create userId userRoles dto client =>
    .community <$> CommunitiesService.create userId userRoles dto client
  | join userId communityId userRoles client =>
    .member <$> CommunityMembersService.join userId communityId userRoles client
  | leave userId communityId client =>
    .message <$> CommunityMembersService.leave userId communityId client
  | updateRole communityId targetUserId operatorUserId operatorRoles dto client =>
    .member <$> CommunityMembersService.updateRole communityId targetUserId operatorUserId
      operatorRoles dto client
  | banMember communityId targetUserId operatorUserId operatorRoles client =>
    .message <$> CommunityMembersService.banMember communityId targetUserId operatorUserId
      operatorRoles client
  | unbanMember communityId targetUserId operatorUserId operatorRoles client =>
    .message <$> CommunityMembersService.unbanMember communityId targetUserId operatorUserId
      operatorRoles client

abbrev MembershipTask := Task MembershipOp String AuthEnv SocialDb AuthError MembershipReply

abbrev MembershipHistory := History String SocialDb

def membershipCalls : Machine SocialDb MembershipTask AuthEnv := tasks MembershipOp.runs

end Operations

section Statements

variable {db db' : SocialDb} {m : CommunityMember} {f : CommunityMember → CommunityMember}
  {communityId userId : String} {change : ℤ}

/-- The membership `m` becomes `f m`, which has the same keys. -/
structure Rewritten (m : CommunityMember) (f : CommunityMember → CommunityMember)
    (db db' : SocialDb) : Prop where
  found : m ∈ db.communityMembers.rows
  update : db.communityMembers.update m.id f = .ok db'.communityMembers
  keys : ∀ m, (f m).id = m.id ∧ (f m).communityId = m.communityId ∧ (f m).userId = m.userId

/-- The membership `m` gets a status. -/
def MemberSet (m : CommunityMember) (status : CommunityMemberStatus) (db db' : SocialDb) : Prop :=
  ∃ f, Rewritten m f db db' ∧ ∀ m, (f m).status = status ∧ (f m).role = m.role

/-- The membership `m` gets a role. -/
def RoleSet (m : CommunityMember) (role : CommunityMemberRole) (db db' : SocialDb) : Prop :=
  ∃ f, Rewritten m f db db' ∧ ∀ m, (f m).status = m.status ∧ (f m).role = role

/-- The counter of a community is moved, and the community stays what it is otherwise. -/
def CountMoved (communityId : String) (change : ℤ) (db db' : SocialDb) : Prop :=
  ∃ g : Community → Community, db.communities.update communityId g = .ok db'.communities ∧
    ∀ c, (g c).id = c.id ∧ (g c).createdById = c.createdById ∧
      (g c).memberCount = c.memberCount + change

theorem Rewritten.lookup (h : Rewritten m f db db') (communityId userId : String) :
    membershipOf communityId userId db' =
      if communityId = m.communityId ∧ userId = m.userId then some (f m)
      else membershipOf communityId userId db := by
  have hfind : membershipOf communityId userId db' =
      (membershipOf communityId userId db).map fun r ↦ if r.id = m.id then f r else r := by
    rw [membershipOf, Table.find?, (Table.update_eq_ok.mp h.update).2]
    exact Table.find?_updateRows f fun r ↦ by rw [(h.keys r).2.1, (h.keys r).2.2]
  rw [hfind]
  split_ifs with hkey
  · rw [hkey.1, hkey.2, membershipOf_mem h.found, Option.map_some, if_pos rfl]
  · cases hr : membershipOf communityId userId db with
    | none => rfl
    | some r =>
      obtain ⟨hmem, hcommunity, huser⟩ := membershipOf_eq_some hr
      have hne : r.id ≠ m.id := by
        intro hid
        rw [db.communityMembers.eq_of_id hmem h.found hid] at hcommunity huser
        exact hkey ⟨hcommunity.symm, huser.symm⟩
      rw [Option.map_some, if_neg hne]

def statusOf (communityId userId : String) (db : SocialDb) : Option CommunityMemberStatus :=
  (membershipOf communityId userId db).map (·.status)

theorem statusOf_eq (h : membershipOf communityId userId db = some m) :
    statusOf communityId userId db = some .active ↔ m.status = .active := by
  rw [statusOf, h, Option.map_some, Option.some_inj]

theorem Rewritten.status (h : Rewritten m f db db') (communityId userId : String) :
    statusOf communityId userId db' =
      if communityId = m.communityId ∧ userId = m.userId then some (f m).status
      else statusOf communityId userId db := by
  rw [statusOf, h.lookup]
  split_ifs <;> rfl

/-- How many active members the community has. -/
def activeMembers (communityId : String) (db : SocialDb) : ℕ :=
  db.communityMembers.rows.countP fun m ↦ m.communityId == communityId && m.status == .active

theorem Rewritten.active (h : Rewritten m f db db') (communityId : String) :
    activeMembers communityId db' +
        (if m.communityId = communityId ∧ m.status = .active then 1 else 0) =
      activeMembers communityId db +
        (if m.communityId = communityId ∧ (f m).status = .active then 1 else 0) := by
  have hnat (p q : Prop) [Decidable p] [Decidable q] :
      (decide p && decide q).toNat = if p ∧ q then 1 else 0 := by
    by_cases hp : p <;> by_cases hq : q <;> simp [hp, hq]
  have hcount := Table.countP_update_row (t := db.communityMembers) (f := f)
    (p := fun r ↦ r.communityId == communityId && r.status == .active)
    (Table.get?_eq_some.mpr ⟨h.found, rfl⟩)
  simp only [beq_eq_decide, hnat, (h.keys m).2.1] at hcount
  simp only [activeMembers, (Table.update_eq_ok.mp h.update).2, beq_eq_decide]
  exact hcount

/-- A new membership, of a user who had none of the community. -/
theorem lookup_create (h : db.communityMembers.create m = .ok db'.communityMembers)
    (communityId userId : String) : membershipOf communityId userId db' =
      if communityId = m.communityId ∧ userId = m.userId then some m
      else membershipOf communityId userId db := by
  have hrows := Table.create_eq_ok.mp h
  split_ifs with hkey
  · have hmem : m ∈ db'.communityMembers.rows := by
      rw [hrows]
      exact List.mem_append_right _ (List.mem_singleton_self m)
    rw [hkey.1, hkey.2]
    exact membershipOf_mem hmem
  · rw [membershipOf, Table.find?, hrows, List.find?_append, List.find?_singleton]
    rw [if_neg, Option.or_none]
    · rfl
    · rw [Bool.and_eq_true, beq_iff_eq, beq_iff_eq]
      rintro ⟨hcommunity, huser⟩
      exact hkey ⟨hcommunity.symm, huser.symm⟩

theorem status_create (h : db.communityMembers.create m = .ok db'.communityMembers)
    (communityId userId : String) : statusOf communityId userId db' =
      if communityId = m.communityId ∧ userId = m.userId then some m.status
      else statusOf communityId userId db := by
  rw [statusOf, lookup_create h]
  split_ifs <;> rfl

theorem active_create (h : db.communityMembers.create m = .ok db'.communityMembers)
    (hm : m.status = .active) (communityId : String) : activeMembers communityId db' =
      activeMembers communityId db + if m.communityId = communityId then 1 else 0 := by
  rw [activeMembers, Table.create_eq_ok.mp h, List.countP_append, List.countP_singleton, hm]
  by_cases hid : m.communityId = communityId <;> simp [hid, activeMembers]

theorem CountMoved.lookup (h : CountMoved communityId change db db') {k : String} {c : Community}
    (hc : db'.communities.get? k = some c) : ∃ old, db.communities.get? k = some old ∧
      c.createdById = old.createdById ∧
        c.memberCount = old.memberCount + if k = communityId then change else 0 := by
  obtain ⟨g, hupdate, hg⟩ := h
  rw [Table.get?_update hupdate fun c ↦ (hg c).1] at hc
  split_ifs at hc with hk
  · subst hk
    obtain ⟨old, hold, rfl⟩ := Option.map_eq_some_iff.mp hc
    exact ⟨old, hold, (hg old).2.1, by rw [if_pos rfl, (hg old).2.2]⟩
  · exact ⟨c, hc, rfl, by rw [if_neg hk, add_zero]⟩

end Statements

section Transactions

open Innovents.Communities.Social.CommunityMembersService

variable {db db' : SocialDb} {env : AuthEnv} {client : Client}
  {communityId userId operatorUserId : String} {m : CommunityMember}

theorem reported_eq_ok {eventType action aggregateId actorUserId : String}
    {payload metadata : List (String × JsValue)}
    (h : reported eventType action aggregateId actorUserId payload metadata client env db = .ok db') :
    ∃ accounts, db' = { db with accounts } := by
  obtain ⟨db₁, h₁, h⟩ := andThen_eq_ok.mp h
  obtain ⟨_, rfl⟩ := enqueued_eq_ok h₁
  obtain ⟨accounts, rfl⟩ := audited_eq_ok h
  exact ⟨accounts, rfl⟩

theorem countMoved_eq_ok {communities : Table Community} {change : ℤ}
    (h : countMoved communityId change env db.communities = .ok communities)
    (hsame : db'.communities = communities) : CountMoved communityId change db db' := by
  refine ⟨_, (ofRefusal_eq_ok.mp h).trans ?_, fun c ↦ ⟨rfl, rfl, rfl⟩⟩
  rw [hsame]

/-- A transaction that starts with the update of a membership finds it. -/
theorem exists_member {α : Type} {id : String} {f : CommunityMember → CommunityMember} {a : α}
    {rest : Table CommunityMember → Except AuthError α}
    (h : (ofRefusal (db.communityMembers.update id f) >>= rest) = .ok a) :
    ∃ m ∈ db.communityMembers.rows, m.id = id := by
  obtain ⟨t, hupdate, -⟩ := andThen_eq_ok.mp h
  exact (Table.update_eq_ok.mp (ofRefusal_eq_ok.mp hupdate)).1

theorem memberLeft_eq {u : Unit} (hm : m ∈ db.communityMembers.rows)
    (h : memberLeft userId communityId m.id client env db = .ok (db', u)) :
    CountMoved communityId (-1) db db' ∧ MemberSet m .left db db' := by
  obtain ⟨communityMembers, hmembers, h⟩ := andThen_eq_ok.mp h
  obtain ⟨communities, hcommunities, h⟩ := andThen_eq_ok.mp h
  obtain ⟨db₁, hreported, h⟩ := andThen_eq_ok.mp h
  cases h
  obtain ⟨accounts, rfl⟩ := reported_eq_ok hreported
  exact ⟨countMoved_eq_ok hcommunities rfl, _,
    ⟨hm, ofRefusal_eq_ok.mp hmembers, fun _ ↦ ⟨rfl, rfl, rfl⟩⟩, fun _ ↦ ⟨rfl, rfl⟩⟩

theorem roleUpdated_eq {dto : UpdateMemberRoleDto} {updated : CommunityMember}
    (hm : m ∈ db.communityMembers.rows)
    (h : roleUpdated communityId userId operatorUserId m.id dto client env db = .ok (db', updated)) :
    db'.communities = db.communities ∧ RoleSet m dto.role db db' := by
  obtain ⟨communityMembers, hmembers, h⟩ := andThen_eq_ok.mp h
  obtain ⟨updated, -, h⟩ := andThen_eq_ok.mp h
  obtain ⟨db₁, hreported, h⟩ := andThen_eq_ok.mp h
  cases h
  obtain ⟨accounts, rfl⟩ := reported_eq_ok hreported
  exact ⟨rfl, _, ⟨hm, ofRefusal_eq_ok.mp hmembers, fun _ ↦ ⟨rfl, rfl, rfl⟩⟩, fun _ ↦ ⟨rfl, rfl⟩⟩

theorem memberBanned_eq {found : CommunityMember} {u : Unit} (hm : m ∈ db.communityMembers.rows)
    (hid : m.id = found.id)
    (h : memberBanned communityId userId operatorUserId found client env db = .ok (db', u)) :
    (if found.status = .active then CountMoved communityId (-1) db db'
      else db'.communities = db.communities) ∧ MemberSet m .banned db db' := by
  obtain ⟨communityMembers, hmembers, h⟩ := andThen_eq_ok.mp h
  obtain ⟨communities, hcommunities, h⟩ := andThen_eq_ok.mp h
  obtain ⟨db₁, hreported, h⟩ := andThen_eq_ok.mp h
  cases h
  obtain ⟨accounts, rfl⟩ := reported_eq_ok hreported
  rw [← hid] at hmembers
  refine ⟨?_, _, ⟨hm, ofRefusal_eq_ok.mp hmembers, fun _ ↦ ⟨rfl, rfl, rfl⟩⟩, fun _ ↦ ⟨rfl, rfl⟩⟩
  unfold banCounted at hcommunities
  split_ifs at hcommunities ⊢
  · exact countMoved_eq_ok hcommunities rfl
  · cases hcommunities
    rfl

theorem memberUnbanned_eq {u : Unit} (hm : m ∈ db.communityMembers.rows)
    (h : memberUnbanned communityId userId operatorUserId m.id client env db = .ok (db', u)) :
    db'.communities = db.communities ∧ MemberSet m .left db db' := by
  obtain ⟨communityMembers, hmembers, h⟩ := andThen_eq_ok.mp h
  obtain ⟨db₁, hreported, h⟩ := andThen_eq_ok.mp h
  cases h
  obtain ⟨accounts, rfl⟩ := reported_eq_ok hreported
  exact ⟨rfl, _, ⟨hm, ofRefusal_eq_ok.mp hmembers, fun _ ↦ ⟨rfl, rfl, rfl⟩⟩, fun _ ↦ ⟨rfl, rfl⟩⟩

/-- The membership that a join leaves: the old one, or a new one. -/
inductive Admitted (communityId userId : String) (db db' : SocialDb) : Prop
  | rejoined (m : CommunityMember) : membershipOf communityId userId db = some m →
      m.status = .left → MemberSet m .active db db' → Admitted communityId userId db db'
  | added (m : CommunityMember) : membershipOf communityId userId db = none →
      db.communityMembers.create m = .ok db'.communityMembers → m.communityId = communityId →
      m.userId = userId → m.status = .active → m.role = .member →
      Admitted communityId userId db db'

theorem joined_eq {userRoles : List String}
    (h : joined userId communityId userRoles client env db = .ok (db', m)) :
    Admitted communityId userId db db' ∧ CountMoved communityId 1 db db' ∧
      ∃ community, db.communities.get? communityId = some community ∧
        community.memberCount < effectiveCapacityAt communityId env.now db := by
  obtain ⟨community, hcommunity, h⟩ := andThen_eq_ok.mp h
  obtain ⟨_, hjoinable, h⟩ := andThen_eq_ok.mp h
  obtain ⟨⟨communityMembers, saved⟩, hstored, h⟩ := andThen_eq_ok.mp h
  obtain ⟨communities, hcommunities, h⟩ := andThen_eq_ok.mp h
  obtain ⟨db₁, hreported, h⟩ := andThen_eq_ok.mp h
  cases h
  obtain ⟨accounts, rfl⟩ := reported_eq_ok hreported
  obtain ⟨_, -, hjoinable⟩ := andThen_eq_ok.mp hjoinable
  obtain ⟨_, -, hjoinable⟩ := andThen_eq_ok.mp hjoinable
  obtain ⟨_, hactive, hjoinable⟩ := andThen_eq_ok.mp hjoinable
  obtain ⟨_, hbanned, hfree⟩ := andThen_eq_ok.mp hjoinable
  refine ⟨?_, countMoved_eq_ok hcommunities rfl, community,
    (Option.filter_eq_some_iff.mp (present_eq_ok.mp hcommunity)).1, demand_eq_ok.mp hfree⟩
  unfold membershipStored at hstored
  split at hstored
  · rename_i old hold
    obtain ⟨hfound, hleft⟩ := Option.filter_eq_some_iff.mp hold
    obtain ⟨t, hupdate, hstored⟩ := andThen_eq_ok.mp hstored
    obtain ⟨_, -, hstored⟩ := andThen_eq_ok.mp hstored
    cases hstored
    exact .rejoined old hfound (of_decide_eq_true hleft) ⟨_, ⟨(membershipOf_eq_some hfound).1,
      ofRefusal_eq_ok.mp hupdate, fun _ ↦ ⟨rfl, rfl, rfl⟩⟩, fun _ ↦ ⟨rfl, rfl⟩⟩
  · rename_i hnone
    obtain ⟨_, -, hstored⟩ := andThen_eq_ok.mp hstored
    obtain ⟨t, hcreate, hstored⟩ := andThen_eq_ok.mp hstored
    cases hstored
    refine .added _ ?_ (ofRefusal_eq_ok.mp hcreate) rfl rfl rfl rfl
    -- the user is neither a member nor banned, and has not left either
    cases hfound : membershipOf communityId userId db with
    | none => rfl
    | some old =>
      have hstatus := (Option.filter_eq_none_iff.mp hnone) old hfound
      have hnotActive := demand_eq_ok.mp hactive old hfound
      have hnotBanned := demand_eq_ok.mp hbanned old hfound
      cases hs : old.status <;> simp_all

theorem communityCreate_eq {dto : CreateCommunityDto} {community : Community}
    (h : CommunitiesService.communityCreate userId dto client env db = .ok (db', community)) :
    community.createdById = userId ∧ community.memberCount = 1 ∧
      db.communities.create community = .ok db'.communities ∧
        ∃ m : CommunityMember, db.communityMembers.create m = .ok db'.communityMembers ∧
          m.communityId = community.id ∧ m.userId = userId ∧ m.role = .owner ∧ m.status = .active := by
  obtain ⟨_, -, h⟩ := andThen_eq_ok.mp h
  obtain ⟨communities, hcommunities, h⟩ := andThen_eq_ok.mp h
  obtain ⟨communityMembers, hmembers, h⟩ := andThen_eq_ok.mp h
  obtain ⟨db₁, henqueued, h⟩ := andThen_eq_ok.mp h
  obtain ⟨db₂, haudited, h⟩ := andThen_eq_ok.mp h
  cases h
  obtain ⟨_, rfl⟩ := enqueued_eq_ok henqueued
  obtain ⟨accounts, rfl⟩ := audited_eq_ok haudited
  exact ⟨rfl, rfl, ofRefusal_eq_ok.mp hcommunities, _, ofRefusal_eq_ok.mp hmembers, rfl, rfl, rfl,
    rfl⟩

end Transactions

section Stays

variable {db db' : SocialDb} {communityId userId : String} {m : CommunityMember}

/-- The memberships stay those of their users, and the communities those of their creators. -/
structure MembersStay (db db' : SocialDb) : Prop where
  members : ∀ id, ∀ m ∈ db.communityMembers.get? id, ∃ m' ∈ db'.communityMembers.get? id,
    m'.communityId = m.communityId ∧ m'.userId = m.userId
  communities : ∀ id, ∀ c ∈ db.communities.get? id, ∃ c' ∈ db'.communities.get? id,
    c'.createdById = c.createdById

theorem MembersStay.refl (db : SocialDb) : MembersStay db db where
  members _ m hm := ⟨m, hm, rfl, rfl⟩
  communities _ c hc := ⟨c, hc, rfl⟩

theorem MembersStay.trans (a b c : SocialDb) (h : MembersStay a b) (h' : MembersStay b c) :
    MembersStay a c := by
  constructor
  · intro id m hm
    obtain ⟨m', hm', hcommunity, huser⟩ := h.members id m hm
    obtain ⟨m'', hm'', hcommunity', huser'⟩ := h'.members id m' hm'
    exact ⟨m'', hm'', hcommunity'.trans hcommunity, huser'.trans huser⟩
  · intro id c hc
    obtain ⟨c', hc', hcreator⟩ := h.communities id c hc
    obtain ⟨c'', hc'', hcreator'⟩ := h'.communities id c' hc'
    exact ⟨c'', hc'', hcreator'.trans hcreator⟩

theorem Rewritten.stay {f : CommunityMember → CommunityMember} (h : Rewritten m f db db') (id : String) :
    ∀ m ∈ db.communityMembers.get? id, ∃ m' ∈ db'.communityMembers.get? id,
      m'.communityId = m.communityId ∧ m'.userId = m.userId := by
  intro r hr
  rw [Table.get?_update h.update fun r ↦ (h.keys r).1]
  split_ifs with hid
  · subst hid
    exact ⟨f r, by rw [Option.mem_def.mp hr]; rfl, (h.keys r).2⟩
  · exact ⟨r, hr, rfl, rfl⟩

theorem created_stay (h : db.communityMembers.create m = .ok db'.communityMembers) (id : String) :
    ∀ m ∈ db.communityMembers.get? id, ∃ m' ∈ db'.communityMembers.get? id,
      m'.communityId = m.communityId ∧ m'.userId = m.userId :=
  fun r hr ↦ ⟨r, (Table.get?_create_taken hr h).2, rfl, rfl⟩

theorem CountMoved.stay {change : ℤ} (h : CountMoved communityId change db db') (id : String) :
    ∀ c ∈ db.communities.get? id, ∃ c' ∈ db'.communities.get? id, c'.createdById = c.createdById := by
  obtain ⟨g, hupdate, hg⟩ := h
  intro c hc
  rw [Table.get?_update hupdate fun c ↦ (hg c).1]
  split_ifs with hid
  · subst hid
    exact ⟨g c, by rw [Option.mem_def.mp hc]; rfl, (hg c).2.1⟩
  · exact ⟨c, hc, rfl⟩

theorem communities_stay (h : db'.communities = db.communities) (id : String) :
    ∀ c ∈ db.communities.get? id, ∃ c' ∈ db'.communities.get? id, c'.createdById = c.createdById := by
  rw [h]
  exact fun c hc ↦ ⟨c, hc, rfl⟩

theorem Admitted.stay (h : Admitted communityId userId db db') (id : String) :
    ∀ m ∈ db.communityMembers.get? id, ∃ m' ∈ db'.communityMembers.get? id,
      m'.communityId = m.communityId ∧ m'.userId = m.userId := by
  cases h with
  | rejoined m _ _ hset =>
    obtain ⟨f, hrewritten, -⟩ := hset
    exact hrewritten.stay id
  | added m _ hcreate _ _ _ _ => exact created_stay hcreate id

/-- The memberships are of communities that exist. -/
def Known (db : SocialDb) : Prop :=
  ∀ m ∈ db.communityMembers.rows, ∃ c, db.communities.get? m.communityId = some c

theorem Known.rewritten {f : CommunityMember → CommunityMember} (hdb : Known db)
    (h : Rewritten m f db db') (hcommunities : ∀ id, ∀ c ∈ db.communities.get? id,
      ∃ c' ∈ db'.communities.get? id, c'.createdById = c.createdById) : Known db' := by
  have hkept : ∀ r ∈ db.communityMembers.rows, ∃ c, db'.communities.get? r.communityId = some c := by
    intro r hr
    obtain ⟨c, hc⟩ := hdb r hr
    obtain ⟨c', hc', -⟩ := hcommunities _ c hc
    exact ⟨c', hc'⟩
  intro r hr
  rw [(Table.update_eq_ok.mp h.update).2, Table.mem_updateRows] at hr
  rcases hr with ⟨r, hr, -, rfl⟩ | ⟨hr, -⟩
  · rw [(h.keys r).2.1]
    exact hkept r hr
  · exact hkept r hr

theorem Known.created (hdb : Known db) (h : db.communityMembers.create m = .ok db'.communityMembers)
    (hcommunities : ∀ id, ∀ c ∈ db.communities.get? id, ∃ c' ∈ db'.communities.get? id,
      c'.createdById = c.createdById)
    (hm : ∃ c, db'.communities.get? m.communityId = some c) : Known db' := by
  intro r hr
  rw [Table.create_eq_ok.mp h] at hr
  rcases List.mem_append.mp hr with hr | hr
  · obtain ⟨c, hc⟩ := hdb r hr
    obtain ⟨c', hc', -⟩ := hcommunities _ c hc
    exact ⟨c', hc'⟩
  · rwa [List.mem_singleton.mp hr]

/-- A transaction finds the membership `m` that an earlier read found as `m₀`. -/
structure Relies (communityId userId : String) (db₀ db : SocialDb) (m₀ m : CommunityMember) :
    Prop where
  before : membershipOf communityId userId db₀ = some m₀
  stay : MembersStay db₀ db
  now : membershipOf communityId userId db = some m
  same : m.id = m₀.id

theorem exists_relies {db₀ : SocialDb} {m₀ : CommunityMember}
    (h : membershipOf communityId userId db₀ = some m₀) (hstay : MembersStay db₀ db) :
    ∃ m, Relies communityId userId db₀ db m₀ m := by
  obtain ⟨hmem, hcommunity, huser⟩ := membershipOf_eq_some h
  obtain ⟨m, hm, hcommunity', huser'⟩ := hstay.members m₀.id m₀ (Table.get?_eq_some.mpr ⟨hmem, rfl⟩)
  obtain ⟨hmem', hid⟩ := Table.get?_eq_some.mp hm
  have hnow := membershipOf_mem hmem'
  rw [hcommunity'.trans hcommunity, huser'.trans huser] at hnow
  exact ⟨m, h, hstay, hnow, hid⟩

theorem Relies.mem {db₀ : SocialDb} {m₀ : CommunityMember}
    (h : Relies communityId userId db₀ db m₀ m) : m ∈ db.communityMembers.rows :=
  (membershipOf_eq_some h.now).1

end Stays

section Rules

open Innovents.Communities.Social.CommunityMembersService

variable {J : SocialDb → Prop} {ok : MembershipHistory → String → SocialDb → Prop}
  {G : String → SocialDb → SocialDb → Prop} {post : MembershipHistory → Prop}
  {communityId userId operatorUserId : String} {operatorRoles : List String} {client : Client}

/-- What the transaction of an operation has to keep, that relies on a membership it has read and
then does `effect`. -/
def Transacts (J : SocialDb → Prop) (ok : MembershipHistory → String → SocialDb → Prop)
    (G : String → SocialDb → SocialDb → Prop) (post : MembershipHistory → Prop)
    (communityId userId : String) (guard : CommunityMember → Prop)
    (effect : CommunityMember → CommunityMember → SocialDb → SocialDb → Prop) : Prop :=
  ∀ (history : MembershipHistory) db₀ db db' m₀ m, J db₀ → guard m₀ →
    Relies communityId userId db₀ db m₀ m → J db → history.last = some db₀ →
    ok history "$transaction" db → effect m₀ m db db' →
    J db' ∧ G "$transaction" db db' ∧ post (history ++ [("$transaction", db, db')])

/-- The transaction after the membership `m₀` has been read. -/
theorem transacts_heeds {α β : Type} {history : MembershipHistory} {guard : CommunityMember → Prop}
    {effect : CommunityMember → CommunityMember → SocialDb → SocialDb → Prop}
    {transaction : AuthEnv → SocialDb → Except AuthError (SocialDb × α)}
    {reply : α → β} {db₀ : SocialDb} {m₀ : CommunityMember} (hread : ∀ label db, G label db db)
    (h : Transacts J ok G post communityId userId guard effect)
    (heffect : ∀ env db db' m a, m ∈ db.communityMembers.rows → m.id = m₀.id →
      transaction env db = .ok (db', a) → effect m₀ m db db')
    (hm₀ : membershipOf communityId userId db₀ = some m₀) (hguard : guard m₀) (hdb₀ : J db₀) :
    ((Call.writes "$transaction" transaction).bind fun a ↦
      (Call.returned (.ok (reply a)) : SocialCall β)).Heeds J (Among MembersStay ok) G
        (fun history _ ↦ post history) (history ++ [("communityMember.findUnique", db₀, db₀)]) := by
  refine Call.heeds_bind (Call.heeds_writes (hread _) fun env db db' a hdb hok ha ↦ ?_)
  obtain ⟨m, hm⟩ := exists_relies hm₀ (hok.2 db₀ (by rw [History.last_concat, Option.mem_some]))
  exact h _ db₀ db db' m₀ m hdb₀ hguard hm hdb History.last_concat hok.1
    (heffect env db db' m a hm.mem hm.same ha)

theorem filter_found {p : CommunityMember → Prop} [DecidablePred p] {o : Option CommunityMember}
    {m : CommunityMember} {x : AuthError} (h : present (o.filter fun m ↦ p m) x = .ok m) :
    o = some m ∧ p m := by
  obtain ⟨hm, hp⟩ := Option.filter_eq_some_iff.mp (present_eq_ok.mp h)
  exact ⟨hm, of_decide_eq_true hp⟩

theorem leave_heeds (hread : ∀ label db, G label db db)
    (h : Transacts J ok G post communityId userId (fun m ↦ m.status = .active ∧ m.role ≠ .owner)
      fun _ m db db' ↦ CountMoved communityId (-1) db db' ∧ MemberSet m .left db db') :
    (leave userId communityId client).Heeds J (Among MembersStay ok) G
      (fun history _ ↦ post history) [] := by
  refine Call.heeds_bind (Call.heeds_reads (hread _) fun _ db₀ hdb₀ _ ↦ ?_)
  refine Call.heeds_bind (Call.heeds_returned fun m₀ hm₀ ↦ ?_)
  obtain ⟨hfound, hactive⟩ := filter_found hm₀
  refine Call.heeds_bind (Call.heeds_returned fun _ hrole ↦ ?_)
  refine transacts_heeds hread h (fun env db db' m u hm hid ha ↦ ?_) hfound
    ⟨hactive, demand_eq_ok.mp hrole⟩ hdb₀
  rw [← hid] at ha
  exact memberLeft_eq hm ha

theorem updateRole_heeds {dto : UpdateMemberRoleDto} (hread : ∀ label db, G label db db)
    (h : Transacts J ok G post communityId userId (fun m ↦ m.status = .active)
      fun _ m db db' ↦ db'.communities = db.communities ∧ RoleSet m dto.role db db') :
    (updateRole communityId userId operatorUserId operatorRoles dto client).Heeds J
      (Among MembersStay ok) G (fun history _ ↦ post history) [] := by
  refine Call.heeds_bind ((Call.heeds_reader
    (CommunityAuthorizationService.assertCanManageCommunity_each fun _ ↦ rfl) hread).mono
      fun _ _ _ ↦ ?_)
  refine Call.heeds_bind (Call.heeds_returned fun _ _ ↦ ?_)
  refine Call.heeds_bind (Call.heeds_reads (hread _) fun _ db₀ hdb₀ _ ↦ ?_)
  refine Call.heeds_bind (Call.heeds_returned fun m₀ hm₀ ↦ ?_)
  obtain ⟨hfound, hactive⟩ := filter_found hm₀
  refine transacts_heeds hread h (fun env db db' m u hm hid ha ↦ ?_) hfound hactive hdb₀
  rw [← hid] at ha
  exact roleUpdated_eq hm ha

theorem banMember_heeds (hread : ∀ label db, G label db db)
    (h : Transacts J ok G post communityId userId (fun m ↦ m.role ≠ .owner)
      fun m₀ m db db' ↦ (if m₀.status = .active then CountMoved communityId (-1) db db'
        else db'.communities = db.communities) ∧ MemberSet m .banned db db') :
    (banMember communityId userId operatorUserId operatorRoles client).Heeds J
      (Among MembersStay ok) G (fun history _ ↦ post history) [] := by
  refine Call.heeds_bind ((Call.heeds_reader
    (CommunityAuthorizationService.assertCanModerateCommunity_each (fun _ ↦ rfl) fun _ ↦ rfl)
      hread).mono fun _ _ _ ↦ ?_)
  refine Call.heeds_bind (Call.heeds_returned fun _ _ ↦ ?_)
  refine Call.heeds_bind (Call.heeds_reads (hread _) fun _ db₀ hdb₀ _ ↦ ?_)
  refine Call.heeds_bind (Call.heeds_returned fun m₀ hm₀ ↦ ?_)
  refine Call.heeds_bind (Call.heeds_returned fun _ hbannable ↦ ?_)
  obtain ⟨_, hrole, -⟩ := andThen_eq_ok.mp hbannable
  exact transacts_heeds hread h (fun env db db' m u hm hid ha ↦ memberBanned_eq hm hid ha)
    (present_eq_ok.mp hm₀) (demand_eq_ok.mp hrole) hdb₀

theorem unbanMember_heeds (hread : ∀ label db, G label db db)
    (h : Transacts J ok G post communityId userId (fun m ↦ m.status = .banned)
      fun _ m db db' ↦ db'.communities = db.communities ∧ MemberSet m .left db db') :
    (unbanMember communityId userId operatorUserId operatorRoles client).Heeds J
      (Among MembersStay ok) G (fun history _ ↦ post history) [] := by
  refine Call.heeds_bind ((Call.heeds_reader
    (CommunityAuthorizationService.assertCanModerateCommunity_each (fun _ ↦ rfl) fun _ ↦ rfl)
      hread).mono fun _ _ _ ↦ ?_)
  refine Call.heeds_bind (Call.heeds_reads (hread _) fun _ db₀ hdb₀ _ ↦ ?_)
  refine Call.heeds_bind (Call.heeds_returned fun m₀ hm₀ ↦ ?_)
  obtain ⟨hfound, hbanned⟩ := filter_found hm₀
  refine transacts_heeds hread h (fun env db db' m u hm hid ha ↦ ?_) hfound hbanned hdb₀
  rw [← hid] at ha
  exact memberUnbanned_eq hm ha

theorem join_heeds {userRoles : List String} (hread : ∀ label db, G label db db)
    (h : ∀ (history : MembershipHistory) db db' env m, J db → ok history "$transaction" db →
      joined userId communityId userRoles client env db = .ok (db', m) →
      J db' ∧ G "$transaction" db db' ∧ post (history ++ [("$transaction", db, db')])) :
    (join userId communityId userRoles client).Heeds J (Among MembersStay ok) G
      (fun history _ ↦ post history) [] := by
  refine Call.heeds_bind (Call.heeds_bind (Call.heeds_reads (hread _) fun _ _ _ _ ↦ ?_))
  refine Call.heeds_returned fun user _ ↦ Call.heeds_bind ?_
  exact Call.heeds_writes (hread _) fun env db db' m hdb hok hm ↦ h _ db db' env m hdb hok.1 hm

theorem create_heeds {userRoles : List String} {dto : CreateCommunityDto}
    (hread : ∀ label db, G label db db)
    (h : ∀ (history : MembershipHistory) db db' env community, J db → ok history "$transaction" db →
      CommunitiesService.communityCreate userId dto client env db = .ok (db', community) →
      J db' ∧ G "$transaction" db db' ∧ post (history ++ [("$transaction", db, db')])) :
    (CommunitiesService.create userId userRoles dto client).Heeds J (Among MembersStay ok) G
      (fun history _ ↦ post history) [] := by
  refine Call.heeds_bind (Call.heeds_bind (Call.heeds_reads (hread _) fun _ _ _ _ ↦ ?_))
  refine Call.heeds_returned fun user _ ↦ Call.heeds_bind ?_
  refine Call.heeds_reads (hread _) fun _ _ _ _ ↦ Call.heeds_bind (Call.heeds_returned fun _ _ ↦ ?_)
  refine Call.heeds_bind (Call.heeds_returned fun _ _ ↦ Call.heeds_bind ?_)
  exact Call.heeds_writes (hread _) fun env db db' m hdb hok hm ↦ h _ db db' env m hdb hok.1 hm

theorem activeUser_reads {refused : String} :
    (activeUser userId refused).Each fun _ db db' ↦ db' = db :=
  Call.each_bind (Call.each_reads fun _ ↦ rfl) fun _ ↦ Call.each_returned

/-- The memberships stay whatever an operation does. -/
theorem runs_stay (op : MembershipOp) : op.runs.Each fun _ ↦ MembersStay := by
  have hread : ∀ db, MembersStay db db := MembersStay.refl
  cases op with
  | create userId userRoles dto client =>
    refine Call.each_map (Call.each_bind (Call.each_bind (Call.each_reads hread) fun _ ↦
      Call.each_returned) fun creator ↦ ?_)
    refine Call.each_bind (Call.each_reads hread) fun event ↦ Call.each_bind Call.each_returned
      fun _ ↦ Call.each_bind Call.each_returned fun _ ↦ ?_
    refine Call.each_bind (Call.each_writes hread fun env db db' community h ↦ ?_) fun _ ↦
      Call.each_returned
    obtain ⟨-, -, hcommunities, m, hmembers, -⟩ := communityCreate_eq h
    exact ⟨created_stay hmembers, fun id c hc ↦ ⟨c, (Table.get?_create_taken hc hcommunities).2, rfl⟩⟩
  | join userId communityId userRoles client =>
    refine Call.each_map (Call.each_bind (Call.each_bind (Call.each_reads hread) fun _ ↦
      Call.each_returned) fun user ↦ ?_)
    refine Call.each_bind (Call.each_writes hread fun env db db' m h ↦ ?_) fun _ ↦
      Call.each_returned
    obtain ⟨hadmitted, hmoved, -⟩ := joined_eq h
    exact ⟨hadmitted.stay, hmoved.stay⟩
  | leave userId communityId client =>
    refine Call.each_map (Call.each_bind (Call.each_reads hread) fun found ↦ ?_)
    refine Call.each_bind Call.each_returned fun existing ↦ Call.each_bind Call.each_returned
      fun _ ↦ ?_
    refine Call.each_bind (Call.each_writes hread fun env db db' u h ↦ ?_) fun _ ↦
      Call.each_returned
    obtain ⟨m, hm, hid⟩ := exists_member h
    rw [← hid] at h
    obtain ⟨hmoved, f, hrewritten, -⟩ := memberLeft_eq hm h
    exact ⟨hrewritten.stay, hmoved.stay⟩
  | updateRole communityId targetUserId operatorUserId operatorRoles dto client =>
    refine Call.each_map (Call.each_bind
      (CommunityAuthorizationService.assertCanManageCommunity_each hread) fun _ ↦ ?_)
    refine Call.each_bind Call.each_returned fun _ ↦ Call.each_bind (Call.each_reads hread)
      fun found ↦ Call.each_bind Call.each_returned fun targetMember ↦ ?_
    refine Call.each_bind (Call.each_writes hread fun env db db' updated h ↦ ?_) fun _ ↦
      Call.each_returned
    obtain ⟨m, hm, hid⟩ := exists_member h
    rw [← hid] at h
    obtain ⟨hsame, f, hrewritten, -⟩ := roleUpdated_eq hm h
    exact ⟨hrewritten.stay, communities_stay hsame⟩
  | banMember communityId targetUserId operatorUserId operatorRoles client =>
    refine Call.each_map (Call.each_bind
      (CommunityAuthorizationService.assertCanModerateCommunity_each hread hread) fun _ ↦ ?_)
    refine Call.each_bind Call.each_returned fun _ ↦ Call.each_bind (Call.each_reads hread)
      fun found ↦ Call.each_bind Call.each_returned fun targetMember ↦ ?_
    refine Call.each_bind Call.each_returned fun _ ↦ ?_
    refine Call.each_bind (Call.each_writes hread fun env db db' u h ↦ ?_) fun _ ↦
      Call.each_returned
    obtain ⟨m, hm, hid⟩ := exists_member h
    obtain ⟨hmoved, f, hrewritten, -⟩ := memberBanned_eq hm hid h
    refine ⟨hrewritten.stay, ?_⟩
    split_ifs at hmoved
    · exact hmoved.stay
    · exact communities_stay hmoved
  | unbanMember communityId targetUserId operatorUserId operatorRoles client =>
    refine Call.each_map (Call.each_bind
      (CommunityAuthorizationService.assertCanModerateCommunity_each hread hread) fun _ ↦ ?_)
    refine Call.each_bind (Call.each_reads hread) fun found ↦ Call.each_bind Call.each_returned
      fun targetMember ↦ ?_
    refine Call.each_bind (Call.each_writes hread fun env db db' u h ↦ ?_) fun _ ↦
      Call.each_returned
    obtain ⟨m, hm, hid⟩ := exists_member h
    rw [← hid] at h
    obtain ⟨hsame, f, hrewritten, -⟩ := memberUnbanned_eq hm h
    exact ⟨hrewritten.stay, communities_stay hsame⟩

end Rules

section Sample

def sampleCommunity : Community :=
  CommunitiesService.newCommunity "community-1" "user-1"
    { eventId := "event-1"
      name := "AI Innovators"
      bio := "Frontier research"
      description := "Discussions and meetups"
      category := "Technology"
      type := none
      visibility := none
      coverImageUrl := none
      language := none
      memberCapacity := none } 0

/-- A community of its owner and a second member. -/
def socialDb : SocialDb :=
  { SocialDb.empty with
    accounts := Events.sampleDb.accounts
    events := Events.sampleDb.events
    communities := .singleton { sampleCommunity with memberCount := 2 }
    communityMembers := ((Table.singleton
      (CommunitiesService.newMember "member-1" "community-1" "user-1" .owner 0)).create
        (CommunitiesService.newMember "member-2" "community-1" "user-2" .member 0)).toOption.getD
          .empty }

/-- The second member leaves the community. -/
def leaving : MembershipOp := .leave "user-2" "community-1" nobody

/-- The second member joins the community. -/
def joining : MembershipOp := .join "user-2" "community-1" [] nobody

/-- The owner bans the second member. -/
def banning : MembershipOp := .banMember "community-1" "user-2" "user-1" [] nobody

/-- The owner lifts the ban of the second member. -/
def unbanning : MembershipOp := .unbanMember "community-1" "user-2" "user-1" [] nobody

/-- The next `n` requests of the thread `i`. -/
def requests (i n : ℕ) (tag : String) : List (ℕ × AuthEnv) :=
  (List.range n).map fun k ↦ (i, sampleEnv 1 s!"{tag}{k}")

end Sample

end Innovents.Communities.Social
