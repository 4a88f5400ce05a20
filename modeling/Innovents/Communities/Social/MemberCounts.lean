import Innovents.Communities.Social.Memberships
import Innovents.Lib.Answers

namespace Innovents.Communities.Social

open Innovents.Lib Innovents.Auth Innovents.Platform
open Innovents.Payments (Time CommunityMemberRole CommunityMemberStatus)

/-- The counter of every community counts its active members. -/
structure Counted (db : SocialDb) : Prop where
  known : Known db
  count : ∀ k c, db.communities.get? k = some c → c.memberCount = activeMembers k db

/-- The transaction of a leave, of a ban or of the end of a ban finds the membership as it was when
the operation decided. -/
def MembershipOp.CountsOn (op : MembershipOp) (history : MembershipHistory) (label : String)
    (db : SocialDb) : Prop :=
  match op with
  | leave userId communityId _ => label = "$transaction" →
    statusOf communityId userId db = some .active
  | banMember communityId targetUserId _ _ _ => label = "$transaction" → ∀ db₀ ∈ history.last,
    (statusOf communityId targetUserId db = some .active ↔
      statusOf communityId targetUserId db₀ = some .active)
  | unbanMember communityId targetUserId _ _ _ => label = "$transaction" →
    statusOf communityId targetUserId db ≠ some .active
  | _ => True

instance (op : MembershipOp) (history : MembershipHistory) (label : String) (db : SocialDb) :
    Decidable (op.CountsOn history label db) :=
  match op with
  | .leave .. | .banMember .. | .unbanMember .. => inferInstanceAs (Decidable (_ → _))
  | .create .. | .join .. | .updateRole .. => inferInstanceAs (Decidable True)

section Transactions

variable {db db' : SocialDb} {m : CommunityMember} {f : CommunityMember → CommunityMember}
  {change : ℤ}

/-- One membership and the counter of its community are moved alike. -/
theorem Counted.rewritten (hdb : Counted db) (h : Rewritten m f db db')
    (hmoved : CountMoved m.communityId change db db') (hchange : change =
      (if (f m).status = .active then 1 else 0) - if m.status = .active then 1 else 0) :
    Counted db' := by
  refine ⟨hdb.known.rewritten h hmoved.stay, fun k c hc ↦ ?_⟩
  obtain ⟨old, hold, -, hcount⟩ := hmoved.lookup hc
  have hactive := h.active k
  rw [hcount, hdb.count k old hold, hchange]
  by_cases hk : m.communityId = k
  · simp only [hk, true_and, if_true] at hactive ⊢
    split_ifs at hactive ⊢ <;> omega
  · simp only [hk, false_and, if_false, add_zero, Ne.symm hk] at hactive ⊢
    rw [hactive]

/-- The counters stay, and so does the number of active members. -/
theorem Counted.kept (hdb : Counted db) (h : Rewritten m f db db')
    (hsame : db'.communities = db.communities)
    (hstatus : (f m).status = .active ↔ m.status = .active) : Counted db' := by
  refine ⟨hdb.known.rewritten h (communities_stay hsame), fun k c hc ↦ ?_⟩
  rw [hsame] at hc
  have hactive := h.active k
  rw [hdb.count k c hc]
  simp only [hstatus] at hactive
  omega

theorem Counted.admitted {communityId userId : String} (hdb : Counted db)
    (h : Admitted communityId userId db db') (hmoved : CountMoved communityId 1 db db') :
    Counted db' := by
  cases h with
  | rejoined m hfound hleft hset =>
    obtain ⟨f, hrewritten, hf⟩ := hset
    obtain ⟨-, hcommunity, -⟩ := membershipOf_eq_some hfound
    rw [← hcommunity] at hmoved
    refine hdb.rewritten hrewritten hmoved ?_
    rw [(hf m).1, hleft]
    decide
  | added m hnone hcreate hcommunity huser hstatus hrole =>
    have hcommunities := hmoved.stay
    refine ⟨hdb.known.created hcreate hcommunities ?_, fun k c hc ↦ ?_⟩
    · obtain ⟨g, hupdate, hg⟩ := hmoved
      obtain ⟨⟨old, hold, hid⟩, -⟩ := Table.update_eq_ok.mp hupdate
      obtain ⟨c, hc, -⟩ := hcommunities _ old (Table.get?_eq_some.mpr ⟨hold, hid⟩)
      rw [hcommunity]
      exact ⟨c, hc⟩
    · obtain ⟨old, hold, -, hcount⟩ := hmoved.lookup hc
      rw [hcount, hdb.count k old hold, active_create hcreate hstatus, hcommunity]
      by_cases hk : k = communityId
      · simp [hk]
      · simp [hk, Ne.symm hk]

theorem Counted.created {community : Community} (hdb : Counted db)
    (hcommunities : db.communities.create community = .ok db'.communities)
    (hmembers : db.communityMembers.create m = .ok db'.communityMembers)
    (hm : m.communityId = community.id) (hstatus : m.status = .active)
    (hcount : community.memberCount = 1) : Counted db' := by
  have hlookup := Table.get?_create hcommunities
  have hstay : ∀ id, ∀ c ∈ db.communities.get? id, ∃ c' ∈ db'.communities.get? id,
      c'.createdById = c.createdById := fun id c hc ↦
    ⟨c, (Table.get?_create_taken hc hcommunities).2, rfl⟩
  refine ⟨hdb.known.created hmembers hstay ⟨community, ?_⟩, fun k c hc ↦ ?_⟩
  · rw [hlookup, hm]
    exact if_pos rfl
  · rw [active_create hmembers hstatus, hm]
    rw [hlookup] at hc
    split_ifs at hc with hk
    · cases hc
      have hk : community.id = k := hk
      -- nobody is a member of a community that does not exist yet
      have hnone : activeMembers k db = 0 := by
        refine List.countP_eq_zero.mpr fun r hr hp ↦ ?_
        rw [Bool.and_eq_true, beq_iff_eq] at hp
        obtain ⟨c, hc⟩ := hdb.known r hr
        rw [hp.1, ← hk] at hc
        exact (Table.get?_create_taken hc hcommunities).1 rfl
      rw [hnone, if_pos hk, hcount]
      rfl
    · rw [if_neg (show ¬community.id = k from hk), hdb.count k c hc, add_zero]

end Transactions

section Runs

open Innovents.Communities.Social.CommunityMembersService

theorem runs_counted (op : MembershipOp) : op.runs.Heeds Counted (Among MembersStay op.CountsOn)
    (fun _ _ _ ↦ True) (fun _ _ ↦ True) [] := by
  have hread : ∀ (label : String) (db : SocialDb), True := fun _ _ ↦ trivial
  cases op with
  | create userId userRoles dto client =>
    refine Call.heeds_map (create_heeds hread fun _ db db' env community hdb _ h ↦
      ⟨?_, trivial, trivial⟩)
    obtain ⟨-, hcount, hcommunities, m, hmembers, hm, -, -, hstatus⟩ := communityCreate_eq h
    exact hdb.created hcommunities hmembers hm hstatus hcount
  | join userId communityId userRoles client =>
    refine Call.heeds_map (join_heeds hread fun _ db db' env m hdb _ h ↦ ⟨?_, trivial, trivial⟩)
    obtain ⟨hadmitted, hmoved, -⟩ := joined_eq h
    exact hdb.admitted hadmitted hmoved
  | leave userId communityId client =>
    refine Call.heeds_map (leave_heeds hread ?_)
    rintro history db₀ db db' m₀ m _ _ hm hdb _ hok ⟨hmoved, f, hrewritten, hf⟩
    have hactive := (statusOf_eq hm.now).mp (hok rfl)
    rw [← (membershipOf_eq_some hm.now).2.1] at hmoved
    refine ⟨hdb.rewritten hrewritten hmoved ?_, trivial, trivial⟩
    rw [(hf m).1, hactive]
    decide
  | updateRole communityId targetUserId operatorUserId operatorRoles dto client =>
    refine Call.heeds_map (updateRole_heeds hread ?_)
    rintro history db₀ db db' m₀ m _ _ hm hdb _ _ ⟨hsame, f, hrewritten, hf⟩
    exact ⟨hdb.kept hrewritten hsame (by rw [(hf m).1]), trivial, trivial⟩
  | banMember communityId targetUserId operatorUserId operatorRoles client =>
    refine Call.heeds_map (banMember_heeds hread ?_)
    rintro history db₀ db db' m₀ m _ _ hm hdb hlast hok ⟨hmoved, f, hrewritten, hf⟩
    have hactive := hok rfl db₀ (by rw [hlast, Option.mem_some])
    rw [statusOf_eq hm.now, statusOf_eq hm.before] at hactive
    refine ⟨?_, trivial, trivial⟩
    split_ifs at hmoved with hfound
    · rw [← (membershipOf_eq_some hm.now).2.1] at hmoved
      refine hdb.rewritten hrewritten hmoved ?_
      rw [(hf m).1, hactive.mpr hfound]
      decide
    · refine hdb.kept hrewritten hmoved ?_
      rw [(hf m).1, hactive]
      exact ⟨nofun, fun h ↦ absurd h hfound⟩
  | unbanMember communityId targetUserId operatorUserId operatorRoles client =>
    refine Call.heeds_map (unbanMember_heeds hread ?_)
    rintro history db₀ db db' m₀ m _ _ hm hdb _ hok ⟨hsame, f, hrewritten, hf⟩
    have hinactive := mt (statusOf_eq hm.now).mpr (hok rfl)
    refine ⟨hdb.kept hrewritten hsame ?_, trivial, trivial⟩
    rw [(hf m).1]
    exact ⟨nofun, fun h ↦ absurd h hinactive⟩

/-- A join that succeeds has found the community with fewer members than it takes. -/
def MembershipOp.Fills (op : MembershipOp) (env : AuthEnv) (_ : String) (db db' : SocialDb)
    (r : Option (Except AuthError MembershipReply)) : Prop :=
  match op with
  | join _ communityId _ _ => Counted db → ∀ reply, r = some (.ok reply) →
    (activeMembers communityId db' : ℤ) ≤ effectiveCapacityAt communityId env.now db
  | _ => True

theorem joined_fills {userId communityId : String} {userRoles : List String} {client : Client}
    {env : AuthEnv} {db db' : SocialDb} {m : CommunityMember} (hdb : Counted db)
    (h : joined userId communityId userRoles client env db = .ok (db', m)) :
    (activeMembers communityId db' : ℤ) ≤ effectiveCapacityAt communityId env.now db := by
  obtain ⟨hadmitted, hmoved, community, hcommunity, hfree⟩ := joined_eq h
  obtain ⟨c, hc, -⟩ := hmoved.stay communityId community hcommunity
  obtain ⟨old, hold, -, hcount⟩ := hmoved.lookup hc
  have hafter := (hdb.admitted hadmitted hmoved).count communityId c hc
  cases hold.symm.trans hcommunity
  rw [if_pos rfl] at hcount
  omega

theorem runs_fill (op : MembershipOp) : op.runs.Answers op.Fills := by
  cases op with
  | join userId communityId userRoles client =>
    refine Call.answers_map (Call.answers_reading_bind activeUser_reads ?_ ?_ fun user ↦ ?_)
    · rintro env label db r hr - reply hreply
      obtain ⟨_ | m, rfl, hm⟩ := Option.map_eq_some_iff.mp hreply
      · cases hm
      · exact (hr m rfl).elim
    · exact fun _ _ ↦ nofun
    refine Call.answers_writes_bind ?_ ?_ fun _ ↦ Call.answers_returned
    · rintro env db x - reply hreply
      cases hreply
    · rintro env db db' m h hdb - -
      exact joined_fills hdb h
  | _ => exact Call.answers_trivial fun _ _ _ _ _ ↦ trivial

def CountedAtFirst (p : Pool SocialDb MembershipTask) : Prop := p.threads = [] ∧ Counted p.shared

theorem reach_counted {p : Pool SocialDb MembershipTask}
    (h : Reach membershipCalls.Step (Heeding MembershipOp.CountsOn) CountedAtFirst p) :
    Counted p.shared := by
  have hremember := (h.remember MembersStay.refl MembersStay.trans runs_stay fun _ hp ↦ hp.1).1
  refine (heedful_reach (I := fun _ ↦ True) runs_counted (fun p hp ↦ ⟨⟨hp.2, ?_⟩, trivial⟩)
    (fun _ _ _ _ _ _ ↦ trivial) hremember).1.shared
  simp [hp.1]

/-- As long as leaves, bans and their ends find the membership as it was when they decided, every
counter counts the active members, and a join that succeeds keeps to the capacity. -/
theorem member_counts {p : Pool SocialDb MembershipTask}
    (h : Reach membershipCalls.Step (Heeding MembershipOp.CountsOn) CountedAtFirst p) :
    (∀ k, ∀ c ∈ p.shared.communities.get? k, c.memberCount = activeMembers k p.shared) ∧
    ∀ i env q t t' userId communityId userRoles client reply,
      membershipCalls.Step p (.run i env) q → p.threads[i]? = some t → q.threads[i]? = some t' →
      t.op = .join userId communityId userRoles client → t'.call = .returned (.ok reply) →
      (activeMembers communityId q.shared : ℤ) ≤ effectiveCapacityAt communityId env.now p.shared := by
  have hcounted := reach_counted h
  refine ⟨fun k c hc ↦ hcounted.count k c hc, ?_⟩
  intro i env q t t' userId communityId userRoles client reply hs ht ht' hop hreply
  have hanswering := h.answering runs_fill fun _ hp ↦ hp.1
  obtain ⟨-, label, -, hfills⟩ := hanswering.run hs ht ht'
  rw [hop, hreply] at hfills
  exact hfills hcounted reply rfl

end Runs

section Sample

theorem socialDb_counted : CountedAtFirst ⟨socialDb, []⟩ := by
  refine ⟨rfl, ⟨fun m hm ↦ ?_, fun k c hc ↦ ?_⟩⟩
  · have hknown : ∀ m ∈ socialDb.communityMembers.rows,
        (socialDb.communities.get? m.communityId).isSome = true := by decide
    exact Option.isSome_iff_exists.mp (hknown m hm)
  · obtain ⟨hmem, hid⟩ := Table.get?_eq_some.mp hc
    rw [List.mem_singleton.mp hmem] at hid ⊢
    rw [← hid]
    decide

/-- The calls with the operations, none of which has begun. -/
def begun (ops : List MembershipOp) : Pool SocialDb MembershipTask :=
  ⟨socialDb, ops.map fun op ↦ ⟨op, [], op.runs⟩⟩

/-- The number in the counter of the community and the number of its active members. -/
def counts (db : SocialDb) : Option ℤ × ℕ :=
  ((db.communities.get? "community-1").map (·.memberCount), activeMembers "community-1" db)

/-- The member leaves, and joins again. -/
theorem left_and_joined : ∃ p : Pool SocialDb MembershipTask, counts p.shared = (some 2, 2) ∧
    ∀ k, ∀ c ∈ p.shared.communities.get? k, c.memberCount = activeMembers k p.shared := by
  have hrun : (membershipCalls.play (meets MembershipOp.CountsOn)
      (requests 0 2 "a" ++ requests 1 2 "b") (begun [leaving, joining])).any
        (fun p ↦ p.threads.all (·.call.label?.isNone) && counts p.shared == (some 2, 2)) = true := by
    decide +kernel
  obtain ⟨p, hp, htest⟩ := (Option.any_eq_true ..).mp hrun
  have hreach := reach_tasks (fun _ _ _ h ↦ meets_sound h) socialDb_counted hp
  exact ⟨p, beq_iff_eq.mp (Bool.and_eq_true_iff.mp htest).2, (member_counts hreach).1⟩

/-- The member sends two requests to leave, and both find the membership active. -/
theorem left_twice : ∃ p : Pool SocialDb MembershipTask,
    Reach membershipCalls.Step (Heeding fun _ _ _ _ ↦ True) CountedAtFirst p ∧
      p.threads.all (·.call.label?.isNone) = true ∧
      ¬ ∀ k, ∀ c ∈ p.shared.communities.get? k, c.memberCount = activeMembers k p.shared := by
  have hrun : (membershipCalls.play (fun _ _ _ ↦ true)
      (requests 0 1 "a" ++ requests 1 2 "b" ++ requests 0 1 "c") (begun [leaving, leaving])).any
        (fun p ↦ p.threads.all (·.call.label?.isNone) && counts p.shared == (some 0, 1)) = true := by
    decide +kernel
  obtain ⟨p, hp, htest⟩ := (Option.any_eq_true ..).mp hrun
  obtain ⟨hdone, hcounts⟩ := Bool.and_eq_true_iff.mp htest
  refine ⟨p, reach_tasks (fun _ _ _ _ _ _ _ _ ↦ trivial) socialDb_counted hp, hdone, fun hall ↦ ?_⟩
  obtain ⟨hcount, hactive⟩ := Prod.mk.injEq .. ▸ beq_iff_eq.mp hcounts
  obtain ⟨c, hc, hzero⟩ := Option.map_eq_some_iff.mp hcount
  have hsame := hall "community-1" c hc
  rw [hactive, hzero] at hsame
  exact absurd hsame (by decide)

end Sample

end Innovents.Communities.Social
