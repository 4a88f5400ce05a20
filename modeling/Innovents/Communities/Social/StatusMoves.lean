import Innovents.Communities.Social.Memberships
import Innovents.Lib.Answers

namespace Innovents.Communities.Social

open Innovents.Lib Innovents.Auth Innovents.Platform
open Innovents.Payments (Time CommunityMemberRole CommunityMemberStatus)

/-- The membership that the transaction of an operation is about, and the status that it gets. -/
def MembershipOp.target : MembershipOp → Option ((String × String) × CommunityMemberStatus)
  | join userId communityId _ _ => some ((communityId, userId), .active)
  | leave userId communityId _ => some ((communityId, userId), .left)
  | banMember communityId targetUserId _ _ _ => some ((communityId, targetUserId), .banned)
  | unbanMember communityId targetUserId _ _ _ => some ((communityId, targetUserId), .left)
  | create .. | updateRole .. => none

/-- What a request of an operation does to the status of a user in a community. -/
inductive StatusMove (op : MembershipOp) (label : String) (db db' : SocialDb)
    (communityId userId : String) : Prop
  | stayed : statusOf communityId userId db' = statusOf communityId userId db →
      StatusMove op label db db' communityId userId
  | founded : statusOf communityId userId db = none →
      StatusMove op label db db' communityId userId
  | moved (status : CommunityMemberStatus) : label = "$transaction" →
      op.target = some ((communityId, userId), status) →
      statusOf communityId userId db' = some status →
      (status = .active → ∀ old ∈ statusOf communityId userId db, old = .left) →
      StatusMove op label db db' communityId userId

def MembershipOp.Moves (op : MembershipOp) (label : String) (db db' : SocialDb) : Prop :=
  ∀ communityId userId, StatusMove op label db db' communityId userId

/-- After its last request an operation has set the status. -/
def MembershipOp.Settles (op : MembershipOp) (history : MembershipHistory) : Prop :=
  ∀ communityId userId status, op.target = some ((communityId, userId), status) →
    ∀ db ∈ history.last, statusOf communityId userId db = some status

section Moves

open Innovents.Communities.Social.CommunityMembersService

variable {op : MembershipOp} {db db' : SocialDb} {m : CommunityMember}
  {communityId userId label : String} {status : CommunityMemberStatus} {history : MembershipHistory}

theorem moves_refl (op : MembershipOp) (label : String) (db : SocialDb) : op.Moves label db db :=
  fun _ _ ↦ .stayed rfl

theorem settles_concat (htarget : op.target = some ((communityId, userId), status))
    (h : statusOf communityId userId db' = some status) :
    op.Settles (history ++ [(label, db, db')]) := by
  intro c u s hs db₁ hdb₁
  rw [History.last_concat] at hdb₁
  cases hdb₁
  cases htarget.symm.trans hs
  exact h

theorem settles_none (htarget : op.target = none) : op.Settles history := by
  intro c u s hs
  rw [htarget] at hs
  cases hs

/-- A transaction that sets the status of its membership. -/
theorem MemberSet.moves (hset : MemberSet m status db db')
    (hm : membershipOf communityId userId db = some m)
    (htarget : op.target = some ((communityId, userId), status))
    (hrejoin : status = .active → m.status = .left) :
    op.Moves "$transaction" db db' ∧ op.Settles (history ++ [(label, db, db')]) := by
  obtain ⟨f, hrewritten, hf⟩ := hset
  obtain ⟨-, hcommunity, huser⟩ := membershipOf_eq_some hm
  have hstatus := hrewritten.status
  rw [hcommunity, huser] at hstatus
  have hafter : statusOf communityId userId db' = some status := by
    rw [hstatus, if_pos ⟨rfl, rfl⟩, (hf m).1]
  refine ⟨fun c u ↦ ?_, settles_concat htarget hafter⟩
  by_cases hkey : c = communityId ∧ u = userId
  · obtain ⟨rfl, rfl⟩ := hkey
    refine .moved status rfl htarget hafter fun hactive old hold ↦ ?_
    rw [statusOf, hm, Option.map_some, Option.mem_some] at hold
    rw [← hold, hrejoin hactive]
  · exact .stayed (by rw [hstatus, if_neg hkey])

/-- A user who becomes a member has not been one. -/
theorem status_before (h : db.communityMembers.create m = .ok db'.communityMembers) :
    statusOf m.communityId m.userId db = none := by
  cases hfound : membershipOf m.communityId m.userId db with
  | none => rw [statusOf, hfound, Option.map_none]
  | some old =>
    obtain ⟨hmem, hcommunity, huser⟩ := membershipOf_eq_some hfound
    have hclash : clash old m = true := by
      refine clash_of_unique (List.mem_singleton_self _) ?_ rfl
      rw [hcommunity, huser]
    rw [Table.create_refused hmem hclash] at h
    cases h

theorem Admitted.moves (h : Admitted communityId userId db db')
    (htarget : op.target = some ((communityId, userId), .active)) :
    op.Moves "$transaction" db db' ∧ op.Settles (history ++ [(label, db, db')]) := by
  cases h with
  | rejoined m hfound hleft hset => exact hset.moves hfound htarget fun _ ↦ hleft
  | added m hnone hcreate hcommunity huser hactive hrole =>
    have hstatus := status_create hcreate
    rw [hcommunity, huser, hactive] at hstatus
    have hafter : statusOf communityId userId db' = some .active := by
      rw [hstatus, if_pos ⟨rfl, rfl⟩]
    refine ⟨fun c u ↦ ?_, settles_concat htarget hafter⟩
    by_cases hkey : c = communityId ∧ u = userId
    · obtain ⟨rfl, rfl⟩ := hkey
      refine .moved .active rfl htarget hafter fun _ old hold ↦ ?_
      rw [statusOf, hnone] at hold
      cases hold
    · exact .stayed (by rw [hstatus, if_neg hkey])

theorem created_moves (h : db.communityMembers.create m = .ok db'.communityMembers) :
    op.Moves label db db' := by
  intro c u
  by_cases hkey : c = m.communityId ∧ u = m.userId
  · obtain ⟨rfl, rfl⟩ := hkey
    exact .founded (status_before h)
  · exact .stayed (by rw [status_create h, if_neg hkey])

/-- Only its transaction lets an operation change the status of a user, and only that of the user
whom it is about. -/
theorem runs_move (op : MembershipOp) : op.runs.Heeds (fun _ ↦ True)
    (Among MembersStay fun _ _ _ ↦ True) op.Moves (fun history _ ↦ op.Settles history) [] := by
  cases op with
  | create userId userRoles dto client =>
    refine Call.heeds_map (create_heeds (moves_refl _) fun history db db' env community _ _ h ↦ ?_)
    obtain ⟨-, -, -, m, hmembers, -⟩ := communityCreate_eq h
    exact ⟨trivial, created_moves hmembers, settles_none rfl⟩
  | join userId communityId userRoles client =>
    refine Call.heeds_map (join_heeds (moves_refl _) fun history db db' env m _ _ h ↦ ?_)
    exact ⟨trivial, (joined_eq h).1.moves rfl⟩
  | leave userId communityId client =>
    refine Call.heeds_map (leave_heeds (moves_refl _) ?_)
    rintro history db₀ db db' m₀ m _ _ hm _ _ _ ⟨-, hset⟩
    exact ⟨trivial, hset.moves hm.now rfl fun h ↦ (by cases h)⟩
  | updateRole communityId targetUserId operatorUserId operatorRoles dto client =>
    refine Call.heeds_map (updateRole_heeds (moves_refl _) ?_)
    rintro history db₀ db db' m₀ m _ _ hm _ _ _ ⟨-, f, hrewritten, hf⟩
    refine ⟨trivial, fun c u ↦ .stayed ?_, settles_none rfl⟩
    rw [hrewritten.status]
    split_ifs with hkey
    · rw [statusOf, hkey.1, hkey.2, membershipOf_mem hm.mem, Option.map_some, (hf m).1]
    · rfl
  | banMember communityId targetUserId operatorUserId operatorRoles client =>
    refine Call.heeds_map (banMember_heeds (moves_refl _) ?_)
    rintro history db₀ db db' m₀ m _ _ hm _ _ _ ⟨-, hset⟩
    exact ⟨trivial, hset.moves hm.now rfl fun h ↦ (by cases h)⟩
  | unbanMember communityId targetUserId operatorUserId operatorRoles client =>
    refine Call.heeds_map (unbanMember_heeds (moves_refl _) ?_)
    rintro history db₀ db db' m₀ m _ _ hm _ _ _ ⟨-, hset⟩
    exact ⟨trivial, hset.moves hm.now rfl fun h ↦ (by cases h)⟩

end Moves

end Innovents.Communities.Social
