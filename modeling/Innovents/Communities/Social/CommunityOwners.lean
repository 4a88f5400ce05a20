import Innovents.Communities.Social.Memberships

namespace Innovents.Communities.Social

open Innovents.Lib Innovents.Auth Innovents.Platform
open Innovents.Payments (Time CommunityMemberRole CommunityMemberStatus)

/-- Every community is owned by its creator, who is an active member, and by nobody else. -/
structure Owned (db : SocialDb) : Prop where
  known : Known db
  owner : ∀ k c, db.communities.get? k = some c → ∃ m, membershipOf k c.createdById db = some m ∧
    m.role = .owner ∧ m.status = .active
  only : ∀ m ∈ db.communityMembers.rows, m.role = .owner →
    ∀ c, db.communities.get? m.communityId = some c → m.userId = c.createdById

/-- A change of a role neither makes an owner nor takes the role of one. -/
def MembershipOp.KeepsOwners (op : MembershipOp) (label : String) (db : SocialDb) : Prop :=
  match op with
  | updateRole communityId targetUserId _ _ dto _ => label = "$transaction" →
    ∀ m ∈ membershipOf communityId targetUserId db, m.role = .owner ↔ dto.role = .owner
  | _ => True

instance (op : MembershipOp) (label : String) (db : SocialDb) :
    Decidable (op.KeepsOwners label db) :=
  match op with
  | .updateRole .. => inferInstanceAs (Decidable (_ → _))
  | .create .. | .join .. | .leave .. | .banMember .. | .unbanMember .. =>
    inferInstanceAs (Decidable True)

section Transactions

variable {db db' : SocialDb} {m : CommunityMember} {communityId userId : String}

/-- The communities are the same, with the same creators. -/
def SameCreators (db db' : SocialDb) : Prop :=
  ∀ k c', db'.communities.get? k = some c' → ∃ c, db.communities.get? k = some c ∧
    c'.createdById = c.createdById

theorem CountMoved.creators {change : ℤ} (h : CountMoved communityId change db db') :
    SameCreators db db' := by
  intro k c' hc'
  obtain ⟨c, hc, hcreator, -⟩ := h.lookup hc'
  exact ⟨c, hc, hcreator⟩

theorem communities_creators (h : db'.communities = db.communities) : SameCreators db db' := by
  intro k c hc
  rw [h] at hc
  exact ⟨c, hc, rfl⟩

/-- Who owns a community is an active member. -/
theorem Owned.active (hdb : Owned db) (hm : m ∈ db.communityMembers.rows) (hrole : m.role = .owner) :
    m.status = .active := by
  obtain ⟨c, hc⟩ := hdb.known m hm
  obtain ⟨o, ho, -, hactive⟩ := hdb.owner _ c hc
  rw [← hdb.only m hm hrole c hc, membershipOf_mem hm] at ho
  cases ho
  exact hactive

/-- Who did not own the community when the membership was read does not own it now. -/
theorem Owned.not_owner {db₀ : SocialDb} {m₀ : CommunityMember} (hdb₀ : Owned db₀) (hdb : Owned db)
    (hm : Relies communityId userId db₀ db m₀ m) (hrole : m₀.role ≠ .owner) : m.role ≠ .owner := by
  intro howner
  obtain ⟨hmem₀, hcommunity₀, -⟩ := membershipOf_eq_some hm.before
  obtain ⟨hmem, hcommunity, huser⟩ := membershipOf_eq_some hm.now
  obtain ⟨c₀, hc₀⟩ := hdb₀.known m₀ hmem₀
  rw [hcommunity₀] at hc₀
  obtain ⟨c, hc, hcreator⟩ := hm.stay.communities _ c₀ hc₀
  -- the user is the creator, and so was the owner already
  have hcreated := hdb.only m hmem howner c (hcommunity ▸ hc)
  obtain ⟨o, ho, hrole', -⟩ := hdb₀.owner _ c₀ hc₀
  rw [← hcreator, ← hcreated, huser, hm.before] at ho
  cases ho
  exact hrole hrole'

theorem Owned.rewritten {f : CommunityMember → CommunityMember} (hdb : Owned db)
    (h : Rewritten m f db db') (hstay : MembersStay db db') (hcreators : SameCreators db db')
    (hrole : (f m).role = .owner ↔ m.role = .owner)
    (hstatus : m.role = .owner → (f m).status = .active) : Owned db' := by
  refine ⟨hdb.known.rewritten h hstay.communities, fun k c' hc' ↦ ?_, fun r hr howner c' hc' ↦ ?_⟩
  · obtain ⟨c, hc, hcreator⟩ := hcreators k c' hc'
    obtain ⟨o, ho, horole, hactive⟩ := hdb.owner k c hc
    rw [h.lookup, hcreator]
    split_ifs with hkey
    · rw [hkey.1, hkey.2, membershipOf_mem h.found] at ho
      cases ho
      exact ⟨f m, rfl, hrole.mpr horole, hstatus horole⟩
    · exact ⟨o, ho, horole, hactive⟩
  · obtain ⟨c, hc, hcreator⟩ := hcreators _ c' hc'
    rw [hcreator]
    rw [(Table.update_eq_ok.mp h.update).2, Table.mem_updateRows] at hr
    rcases hr with ⟨r, hr, hid, rfl⟩ | ⟨hr, -⟩
    · cases db.communityMembers.eq_of_id hr h.found hid
      rw [(h.keys m).2.1] at hc
      rw [(h.keys m).2.2]
      exact hdb.only m hr (hrole.mp howner) c hc
    · exact hdb.only r hr howner c hc

theorem Owned.admitted (hdb : Owned db) (h : Admitted communityId userId db db')
    (hmoved : CountMoved communityId 1 db db') : Owned db' := by
  have hstay : MembersStay db db' := ⟨h.stay, hmoved.stay⟩
  cases h with
  | rejoined m hfound hleft hset =>
    obtain ⟨f, hrewritten, hf⟩ := hset
    have hnot : m.role ≠ .owner := by
      intro hrole
      rw [hdb.active (membershipOf_eq_some hfound).1 hrole] at hleft
      cases hleft
    refine hdb.rewritten hrewritten hstay hmoved.creators ?_ fun hrole ↦ absurd hrole hnot
    rw [(hf m).2]
  | added m hnone hcreate hcommunity huser hstatus hrole =>
    have hknown : ∃ c, db'.communities.get? m.communityId = some c := by
      obtain ⟨g, hupdate, -⟩ := hmoved
      obtain ⟨⟨old, hold, hid⟩, -⟩ := Table.update_eq_ok.mp hupdate
      obtain ⟨c, hc, -⟩ := hstay.communities _ old (Table.get?_eq_some.mpr ⟨hold, hid⟩)
      exact ⟨c, hcommunity ▸ hc⟩
    refine ⟨hdb.known.created hcreate hstay.communities hknown, fun k c' hc' ↦ ?_,
      fun r hr howner c' hc' ↦ ?_⟩
    · obtain ⟨c, hc, hcreator⟩ := hmoved.creators k c' hc'
      obtain ⟨o, ho, horole, hactive⟩ := hdb.owner k c hc
      rw [lookup_create hcreate, hcreator]
      split_ifs with hkey
      · rw [hkey.1, hkey.2, hcommunity, huser, hnone] at ho
        cases ho
      · exact ⟨o, ho, horole, hactive⟩
    · obtain ⟨c, hc, hcreator⟩ := hmoved.creators _ c' hc'
      rw [Table.create_eq_ok.mp hcreate] at hr
      rcases List.mem_append.mp hr with hr | hr
      · rw [hcreator]
        exact hdb.only r hr howner c hc
      · rw [List.mem_singleton.mp hr, hrole] at howner
        cases howner

theorem Owned.created {community : Community} (hdb : Owned db)
    (hcommunities : db.communities.create community = .ok db'.communities)
    (hmembers : db.communityMembers.create m = .ok db'.communityMembers)
    (hm : m.communityId = community.id) (huser : m.userId = community.createdById)
    (hrole : m.role = .owner) (hstatus : m.status = .active) : Owned db' := by
  have hlookup := Table.get?_create hcommunities
  have hnew : ∀ r ∈ db.communityMembers.rows, r.communityId ≠ community.id := by
    intro r hr heq
    obtain ⟨c, hc⟩ := hdb.known r hr
    rw [heq] at hc
    exact (Table.get?_create_taken hc hcommunities).1 rfl
  refine ⟨hdb.known.created hmembers (fun id c hc ↦ ⟨c, (Table.get?_create_taken hc hcommunities).2,
    rfl⟩) ⟨community, by rw [hlookup, hm]; exact if_pos rfl⟩, fun k c hc ↦ ?_,
      fun r hr howner c hc ↦ ?_⟩
  · rw [hlookup] at hc
    rw [lookup_create hmembers]
    split_ifs at hc with hk
    · cases hc
      have hk : community.id = k := hk
      rw [if_pos ⟨hk.symm.trans hm.symm, huser.symm⟩]
      exact ⟨m, rfl, hrole, hstatus⟩
    · have hk : ¬community.id = k := hk
      rw [if_neg fun hkey ↦ hk (hm.symm.trans hkey.1.symm)]
      exact hdb.owner k c hc
  · rw [hlookup] at hc
    rw [Table.create_eq_ok.mp hmembers] at hr
    rcases List.mem_append.mp hr with hr | hr
    · rw [if_neg (show ¬Row.id community = r.communityId from Ne.symm (hnew r hr))] at hc
      exact hdb.only r hr howner c hc
    · rw [List.mem_singleton.mp hr] at hc ⊢
      rw [hm, if_pos (show Row.id community = community.id from rfl)] at hc
      cases hc
      exact huser

end Transactions

section Runs

theorem runs_owned (op : MembershipOp) : op.runs.Heeds Owned
    (Among MembersStay fun _ ↦ op.KeepsOwners) (fun _ _ _ ↦ True) (fun _ _ ↦ True) [] := by
  have hread : ∀ (label : String) (db : SocialDb), True := fun _ _ ↦ trivial
  cases op with
  | create userId userRoles dto client =>
    refine Call.heeds_map (create_heeds hread fun _ db db' env community hdb _ h ↦
      ⟨?_, trivial, trivial⟩)
    obtain ⟨hcreator, -, hcommunities, m, hmembers, hm, huser, hrole, hstatus⟩ :=
      communityCreate_eq h
    exact hdb.created hcommunities hmembers hm (huser.trans hcreator.symm) hrole hstatus
  | join userId communityId userRoles client =>
    refine Call.heeds_map (join_heeds hread fun _ db db' env m hdb _ h ↦ ⟨?_, trivial, trivial⟩)
    obtain ⟨hadmitted, hmoved, -⟩ := joined_eq h
    exact hdb.admitted hadmitted hmoved
  | leave userId communityId client =>
    refine Call.heeds_map (leave_heeds hread ?_)
    rintro history db₀ db db' m₀ m hdb₀ ⟨-, hrole⟩ hm hdb _ _ ⟨hmoved, f, hrewritten, hf⟩
    refine ⟨hdb.rewritten hrewritten ⟨hrewritten.stay, hmoved.stay⟩ hmoved.creators
      (by rw [(hf m).2]) fun howner ↦ ?_, trivial, trivial⟩
    exact absurd howner (hdb₀.not_owner hdb hm hrole)
  | updateRole communityId targetUserId operatorUserId operatorRoles dto client =>
    refine Call.heeds_map (updateRole_heeds hread ?_)
    rintro history db₀ db db' m₀ m _ _ hm hdb _ hok ⟨hsame, f, hrewritten, hf⟩
    refine ⟨hdb.rewritten hrewritten ⟨hrewritten.stay, communities_stay hsame⟩
      (communities_creators hsame) ?_ fun howner ↦ ?_, trivial, trivial⟩
    · rw [(hf m).2]
      exact (hok rfl m hm.now).symm
    · rw [(hf m).1]
      exact hdb.active hm.mem howner
  | banMember communityId targetUserId operatorUserId operatorRoles client =>
    refine Call.heeds_map (banMember_heeds hread ?_)
    rintro history db₀ db db' m₀ m hdb₀ hrole hm hdb _ _ ⟨hmoved, f, hrewritten, hf⟩
    have hnot := hdb₀.not_owner hdb hm hrole
    refine ⟨?_, trivial, trivial⟩
    split_ifs at hmoved
    · exact hdb.rewritten hrewritten ⟨hrewritten.stay, hmoved.stay⟩ hmoved.creators
        (by rw [(hf m).2]) fun howner ↦ absurd howner hnot
    · exact hdb.rewritten hrewritten ⟨hrewritten.stay, communities_stay hmoved⟩
        (communities_creators hmoved) (by rw [(hf m).2]) fun howner ↦ absurd howner hnot
  | unbanMember communityId targetUserId operatorUserId operatorRoles client =>
    refine Call.heeds_map (unbanMember_heeds hread ?_)
    rintro history db₀ db db' m₀ m hdb₀ hbanned hm hdb _ _ ⟨hsame, f, hrewritten, hf⟩
    have hrole : m₀.role ≠ .owner := by
      intro howner
      rw [hdb₀.active (membershipOf_eq_some hm.before).1 howner] at hbanned
      cases hbanned
    refine ⟨hdb.rewritten hrewritten ⟨hrewritten.stay, communities_stay hsame⟩
      (communities_creators hsame) (by rw [(hf m).2]) fun howner ↦ ?_, trivial, trivial⟩
    exact absurd howner (hdb₀.not_owner hdb hm hrole)

def OwnedAtFirst (p : Pool SocialDb MembershipTask) : Prop := p.threads = [] ∧ Owned p.shared

/-- As long as no change of a role makes an owner or unmakes one, every community has one owner,
its creator, who is an active member. -/
theorem one_owner {p : Pool SocialDb MembershipTask}
    (h : Reach membershipCalls.Step (Heeding fun op _ ↦ op.KeepsOwners) OwnedAtFirst p) :
    ∀ k, ∀ c ∈ p.shared.communities.get? k, ∃ m,
      (∀ r, r ∈ p.shared.communityMembers.rows ∧ r.communityId = k ∧ r.role = .owner ↔ r = m) ∧
        m.userId = c.createdById ∧ m.status = .active := by
  have hremember := (h.remember MembersStay.refl MembersStay.trans runs_stay fun _ hp ↦ hp.1).1
  have howned : Owned p.shared := by
    refine (heedful_reach (I := fun _ ↦ True) runs_owned (fun p hp ↦ ⟨⟨hp.2, ?_⟩, trivial⟩)
      (fun _ _ _ _ _ _ ↦ trivial) hremember).1.shared
    simp [hp.1]
  intro k c hc
  obtain ⟨m, hm, hrole, hactive⟩ := howned.owner k c hc
  obtain ⟨hmem, hcommunity, huser⟩ := membershipOf_eq_some hm
  refine ⟨m, fun r ↦ ⟨?_, ?_⟩, huser, hactive⟩
  · rintro ⟨hr, hrk, hrrole⟩
    subst hrk
    have hlookup := membershipOf_mem hr
    rw [howned.only r hr hrrole c hc, hm] at hlookup
    exact (Option.some.inj hlookup).symm
  · rintro rfl
    exact ⟨hmem, hcommunity, hrole⟩

end Runs

section Sample

theorem socialDb_owned : OwnedAtFirst ⟨socialDb, []⟩ := by
  refine ⟨rfl, ⟨fun m hm ↦ ?_, fun k c hc ↦ ?_, fun m hm hrole c hc ↦ ?_⟩⟩
  · have hknown : ∀ m ∈ socialDb.communityMembers.rows,
        (socialDb.communities.get? m.communityId).isSome = true := by decide
    exact Option.isSome_iff_exists.mp (hknown m hm)
  · obtain ⟨hmem, hid⟩ := Table.get?_eq_some.mp hc
    rw [List.mem_singleton.mp hmem] at hid ⊢
    rw [← hid]
    exact ⟨_, rfl, rfl, rfl⟩
  · obtain ⟨hmem, -⟩ := Table.get?_eq_some.mp hc
    rw [List.mem_singleton.mp hmem]
    have howner : ∀ m ∈ socialDb.communityMembers.rows, m.role = .owner → m.userId = "user-1" := by
      decide
    exact howner m hm hrole

/-- The owner gives the second member a role. -/
def promoting (role : CommunityMemberRole) : MembershipOp :=
  .updateRole "community-1" "user-2" "user-1" [] ⟨role⟩ nobody

/-- The owners of the community. -/
def ownersOf (db : SocialDb) : List String :=
  (db.communityMembers.rows.filter fun m ↦
    m.communityId == "community-1" && m.role == .owner).map (·.userId)

/-- The second member becomes a moderator. -/
theorem moderator_promoted : ∃ p : Pool SocialDb MembershipTask, ownersOf p.shared = ["user-1"] ∧
    ∀ k, ∀ c ∈ p.shared.communities.get? k, ∃ m,
      (∀ r, r ∈ p.shared.communityMembers.rows ∧ r.communityId = k ∧ r.role = .owner ↔ r = m) ∧
        m.userId = c.createdById ∧ m.status = .active := by
  have hrun : (membershipCalls.play (meets fun op _ ↦ op.KeepsOwners) (requests 0 3 "a")
      ⟨socialDb, [promoting .moderator].map fun op ↦ ⟨op, [], op.runs⟩⟩).any
        (fun p ↦ p.threads.all (·.call.label?.isNone) && ownersOf p.shared == ["user-1"]) = true := by
    decide +kernel
  obtain ⟨p, hp, htest⟩ := (Option.any_eq_true ..).mp hrun
  have hreach := reach_tasks (fun _ _ _ h ↦ meets_sound h) socialDb_owned hp
  exact ⟨p, beq_iff_eq.mp (Bool.and_eq_true_iff.mp htest).2, one_owner hreach⟩

/-- The second member becomes a second owner. -/
theorem owner_promoted : ∃ p : Pool SocialDb MembershipTask,
    Reach membershipCalls.Step (Heeding fun _ _ _ _ ↦ True) OwnedAtFirst p ∧
      p.threads.all (·.call.label?.isNone) = true ∧
      ¬ ∀ k, ∀ c ∈ p.shared.communities.get? k, ∃ m,
        (∀ r, r ∈ p.shared.communityMembers.rows ∧ r.communityId = k ∧ r.role = .owner ↔ r = m) ∧
          m.userId = c.createdById ∧ m.status = .active := by
  have hrun : (membershipCalls.play (fun _ _ _ ↦ true) (requests 0 3 "a")
      ⟨socialDb, [promoting .owner].map fun op ↦ ⟨op, [], op.runs⟩⟩).any
        (fun p ↦ p.threads.all (·.call.label?.isNone) &&
          (p.shared.communities.get? "community-1").isSome &&
          ["user-1", "user-2"].all fun userId ↦ p.shared.communityMembers.rows.any fun r ↦
            r.communityId == "community-1" && r.role == .owner && r.userId == userId) = true := by
    decide +kernel
  obtain ⟨p, hp, htest⟩ := (Option.any_eq_true ..).mp hrun
  simp only [Bool.and_eq_true, List.all_cons, List.all_nil, List.any_eq_true, beq_iff_eq,
    and_true] at htest
  obtain ⟨⟨hdone, hexists⟩, ⟨r, hr, ⟨hrk, hrrole⟩, hruser⟩, s, hs, ⟨hsk, hsrole⟩, hsuser⟩ := htest
  refine ⟨p, reach_tasks (fun _ _ _ _ _ _ _ _ ↦ trivial) socialDb_owned hp, hdone, fun hall ↦ ?_⟩
  obtain ⟨c, hc⟩ := Option.isSome_iff_exists.mp hexists
  obtain ⟨m, hm, -⟩ := hall "community-1" c hc
  have hsame : r = s := ((hm r).mp ⟨hr, hrk, hrrole⟩).trans ((hm s).mp ⟨hs, hsk, hsrole⟩).symm
  rw [hsame, hsuser] at hruser
  exact absurd hruser (by decide)

end Sample

end Innovents.Communities.Social
