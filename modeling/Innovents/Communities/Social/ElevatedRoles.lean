import Innovents.Communities.Social.CommunityBans
import Innovents.Lib.Sequences

namespace Innovents.Communities.Social

open Innovents.Lib Innovents.Auth Innovents.Platform
open Innovents.Payments (CommunityMemberRole CommunityMemberStatus)

/-- The roles that a community gives to members it trusts. -/
def Elevated (role : CommunityMemberRole) : Prop := role = .moderator ∨ role = .speaker

instance (role : CommunityMemberRole) : Decidable (Elevated role) :=
  inferInstanceAs (Decidable (_ ∨ _))

/-- The operations with their results, the latest first. -/
abbrev MembershipLog := List (MembershipOp × Except AuthError MembershipReply)

def MembershipOp.Gives (communityId userId : String) (role : CommunityMemberRole) :
    MembershipOp → Prop
  | updateRole community target _ _ dto _ => community = communityId ∧ target = userId ∧ dto.role = role
  | _ => False

/-- An `updateRole` has given the user the role, and the user has not joined since. -/
def GivenSinceJoin (communityId userId : String) (role : CommunityMemberRole) (log : MembershipLog) :
    Prop :=
  ∃ later op reply earlier, log = later ++ (op, .ok reply) :: earlier ∧
    op.Gives communityId userId role ∧
      ∀ op reply, (op, .ok reply) ∈ later → ¬MembershipOp.Joins communityId userId op

/-- Every active member with an elevated role has been given it since the last join. -/
def RolesGiven (db : SocialDb) (log : MembershipLog) : Prop :=
  ∀ m ∈ db.communityMembers.rows, m.status = .active → Elevated m.role →
    GivenSinceJoin m.communityId m.userId m.role log

/-- No membership has an elevated role, and nothing has been done. -/
def NoneElevated (s : SocialDb × MembershipLog) : Prop :=
  s.2 = [] ∧ ∀ m ∈ s.1.communityMembers.rows, ¬Elevated m.role

/-- The transaction of a join does not find a membership that was left with an elevated role. -/
def MembershipOp.RejoinsPlain (op : MembershipOp) (label : String) (db : SocialDb) : Prop :=
  match op with
  | join userId communityId _ _ => label = "$transaction" →
    ∀ m ∈ membershipOf communityId userId db, m.status = .left → ¬Elevated m.role
  | _ => True

instance (op : MembershipOp) (label : String) (db : SocialDb) : Decidable (op.RejoinsPlain label db) :=
  match op with
  | .join .. => inferInstanceAs (Decidable (_ → _))
  | .create .. | .leave .. | .updateRole .. | .banMember .. | .unbanMember .. =>
    inferInstanceAs (Decidable True)

section Effects

open Innovents.Communities.Social.CommunityMembersService
open Innovents.Communities.Social.CommunityAuthorizationService

variable {db db' : SocialDb} {log : MembershipLog}

/-- What an operation does to the memberships when it succeeds. -/
def MembershipOp.Effect (op : MembershipOp) (db db' : SocialDb) : Prop :=
  match op with
  | create .. => ∃ m, db.communityMembers.create m = .ok db'.communityMembers ∧ m.role = .owner
  | join userId communityId _ _ => Admitted communityId userId db db' ∧ op.RejoinsPlain "$transaction" db
  | leave .. => ∃ m, MemberSet m .left db db'
  | updateRole communityId targetUserId _ _ dto _ =>
    ∃ m, m.communityId = communityId ∧ m.userId = targetUserId ∧ RoleSet m dto.role db db'
  | banMember .. => ∃ m, MemberSet m .banned db db'
  | unbanMember .. => ∃ m, MemberSet m .left db db'

/-- An operation takes effect if it succeeds, and changes nothing otherwise. -/
def MembershipOp.Ends (op : MembershipOp) (db : SocialDb) (r : Except AuthError MembershipReply)
    (db' : SocialDb) : Prop :=
  match r with
  | .ok _ => op.Effect db db'
  | .error _ => db' = db

theorem runs_end (op : MembershipOp) (db : SocialDb) :
    op.runs.Alone op.RejoinsPlain (op.Ends db) db := by
  have herror : ∀ x : AuthError, op.Ends db (.error x) db := fun _ ↦ rfl
  cases op with
  | create userId userRoles dto client =>
    refine Call.alone_map (Call.alone_reading_bind activeUser_reads herror fun creator ↦ ?_)
    refine Call.alone_reads_bind herror fun env ↦ ?_
    refine Call.alone_returned_bind herror fun _ _ ↦ Call.alone_returned_bind herror fun _ _ ↦ ?_
    refine Call.alone_writes_bind herror fun env db' community _ h ↦ ?_
    obtain ⟨-, -, -, m, hcreate, -, -, hrole, -⟩ := communityCreate_eq h
    exact ⟨m, hcreate, hrole⟩
  | join userId communityId userRoles client =>
    refine Call.alone_map (Call.alone_reading_bind activeUser_reads herror fun user ↦ ?_)
    refine Call.alone_writes_bind herror fun env db' m hok h ↦ ?_
    exact ⟨(joined_eq h).1, hok⟩
  | leave userId communityId client =>
    refine Call.alone_map (Call.alone_reads_bind herror fun env ↦ ?_)
    refine Call.alone_returned_bind herror fun m hm ↦ Call.alone_returned_bind herror fun _ _ ↦ ?_
    refine Call.alone_writes_bind herror fun env db' u _ h ↦ ?_
    exact ⟨m, (memberLeft_eq (membershipOf_eq_some (filter_found hm).1).1 h).2⟩
  | updateRole communityId targetUserId operatorUserId operatorRoles dto client =>
    refine Call.alone_map (Call.alone_reading_bind (assertCanManageCommunity_each fun _ ↦ rfl) herror
      fun _ ↦ ?_)
    refine Call.alone_returned_bind herror fun _ _ ↦ Call.alone_reads_bind herror fun env ↦ ?_
    refine Call.alone_returned_bind herror fun m hm ↦ ?_
    refine Call.alone_writes_bind herror fun env db' updated _ h ↦ ?_
    obtain ⟨hmem, hcommunity, huser⟩ := membershipOf_eq_some (filter_found hm).1
    exact ⟨m, hcommunity, huser, (roleUpdated_eq hmem h).2⟩
  | banMember communityId targetUserId operatorUserId operatorRoles client =>
    refine Call.alone_map (Call.alone_reading_bind
      (assertCanModerateCommunity_each (fun _ ↦ rfl) fun _ ↦ rfl) herror fun _ ↦ ?_)
    refine Call.alone_returned_bind herror fun _ _ ↦ Call.alone_reads_bind herror fun env ↦ ?_
    refine Call.alone_returned_bind herror fun m hm ↦ Call.alone_returned_bind herror fun _ _ ↦ ?_
    refine Call.alone_writes_bind herror fun env db' u _ h ↦ ?_
    exact ⟨m, (memberBanned_eq (membershipOf_eq_some (present_eq_ok.mp hm)).1 rfl h).2⟩
  | unbanMember communityId targetUserId operatorUserId operatorRoles client =>
    refine Call.alone_map (Call.alone_reading_bind
      (assertCanModerateCommunity_each (fun _ ↦ rfl) fun _ ↦ rfl) herror fun _ ↦ ?_)
    refine Call.alone_reads_bind herror fun env ↦ Call.alone_returned_bind herror fun m hm ↦ ?_
    refine Call.alone_writes_bind herror fun env db' u _ h ↦ ?_
    exact ⟨m, (memberUnbanned_eq (membershipOf_eq_some (filter_found hm).1).1 h).2⟩

end Effects

section Runs

variable {db db' : SocialDb} {log : MembershipLog} {op : MembershipOp} {m : CommunityMember}
  {reply : MembershipReply} {r : Except AuthError MembershipReply} {communityId userId : String}
  {role : CommunityMemberRole}

/-- What has been given stays given until the user joins. -/
theorem GivenSinceJoin.cons (h : GivenSinceJoin communityId userId role log)
    (hop : ∀ reply, r = .ok reply → ¬op.Joins communityId userId) :
    GivenSinceJoin communityId userId role ((op, r) :: log) := by
  obtain ⟨later, given, reply, earlier, rfl, hgives, hlater⟩ := h
  refine ⟨(op, r) :: later, given, reply, earlier, rfl, hgives, fun op' reply' hmem ↦ ?_⟩
  rcases List.mem_cons.mp hmem with heq | hmem
  · cases heq
    exact hop reply' rfl
  · exact hlater op' reply' hmem

/-- The operation leaves the membership of a user as it is, or accounts for its role. -/
theorem RolesGiven.next (h : RolesGiven db log)
    (hstep : ∀ communityId userId m, membershipOf communityId userId db' = some m →
      (membershipOf communityId userId db = some m ∧ ¬op.Joins communityId userId) ∨
        (m.status = .active → Elevated m.role →
          GivenSinceJoin communityId userId m.role ((op, .ok reply) :: log))) :
    RolesGiven db' ((op, .ok reply) :: log) := by
  intro m hm hactive helevated
  rcases hstep _ _ m (membershipOf_mem hm) with ⟨hsame, hop⟩ | hgiven
  · exact (h m (membershipOf_eq_some hsame).1 hactive helevated).cons fun _ _ ↦ hop
  · exact hgiven hactive helevated

/-- A membership that is no longer active needs no account. -/
theorem RolesGiven.set {status : CommunityMemberStatus} (h : RolesGiven db log)
    (hset : MemberSet m status db db') (hstatus : status ≠ .active)
    (hop : ∀ communityId userId, ¬op.Joins communityId userId) :
    RolesGiven db' ((op, .ok reply) :: log) := by
  obtain ⟨f, hrewritten, hf⟩ := hset
  refine h.next fun communityId userId m' hm' ↦ ?_
  rw [hrewritten.lookup] at hm'
  split_ifs at hm' with hkey
  · cases hm'
    refine .inr fun hactive ↦ absurd hactive ?_
    rwa [(hf m).1]
  · exact .inl ⟨hm', hop communityId userId⟩

theorem RolesGiven.joined {userRoles : List String} {client : Client} (h : RolesGiven db log)
    (hadmitted : Admitted communityId userId db db')
    (hplain : ∀ m ∈ membershipOf communityId userId db, m.status = .left → ¬Elevated m.role) :
    RolesGiven db' ((.join userId communityId userRoles client, .ok reply) :: log) := by
  refine h.next fun c u m' hm' ↦ ?_
  have hother : ¬(c = communityId ∧ u = userId) →
      ¬(MembershipOp.join userId communityId userRoles client).Joins c u :=
    fun hkey ⟨hc, hu⟩ ↦ hkey ⟨hc.symm, hu.symm⟩
  cases hadmitted with
  | rejoined m hm hleft hset =>
    obtain ⟨f, hrewritten, hf⟩ := hset
    obtain ⟨-, hcommunity, huser⟩ := membershipOf_eq_some hm
    rw [hrewritten.lookup, hcommunity, huser] at hm'
    split_ifs at hm' with hkey
    · cases hm'
      refine .inr fun _ helevated ↦ absurd helevated ?_
      rw [(hf m).2]
      exact hplain m hm hleft
    · exact .inl ⟨hm', hother hkey⟩
  | added m _ hcreate hcommunity huser _ hrole =>
    rw [lookup_create hcreate, hcommunity, huser] at hm'
    split_ifs at hm' with hkey
    · cases hm'
      refine .inr fun _ helevated ↦ ?_
      rw [hrole] at helevated
      rcases helevated with hrole | hrole <;> cases hrole
    · exact .inl ⟨hm', hother hkey⟩

theorem RolesGiven.step (h : RolesGiven db log) (heffect : op.Effect db db') :
    RolesGiven db' ((op, .ok reply) :: log) := by
  cases op with
  | create userId userRoles dto client =>
    obtain ⟨m, hcreate, hrole⟩ := heffect
    refine h.next fun communityId userId m' hm' ↦ ?_
    rw [lookup_create hcreate] at hm'
    split_ifs at hm' with hkey
    · cases hm'
      refine .inr fun _ helevated ↦ ?_
      rw [hrole] at helevated
      rcases helevated with hrole | hrole <;> cases hrole
    · exact .inl ⟨hm', id⟩
  | join userId communityId userRoles client => exact h.joined heffect.1 (heffect.2 rfl)
  | leave userId communityId client =>
    obtain ⟨m, hset⟩ := heffect
    exact h.set hset (by decide) fun _ _ ↦ id
  | updateRole communityId targetUserId operatorUserId operatorRoles dto client =>
    obtain ⟨m, hcommunity, huser, f, hrewritten, hf⟩ := heffect
    refine h.next fun c u m' hm' ↦ ?_
    rw [hrewritten.lookup, hcommunity, huser] at hm'
    split_ifs at hm' with hkey
    · cases hm'
      rw [(hf m).2, hkey.1, hkey.2]
      exact .inr fun _ _ ↦ ⟨[], _, reply, log, rfl, ⟨rfl, rfl, rfl⟩,
        fun _ _ hlater ↦ absurd hlater List.not_mem_nil⟩
    · exact .inl ⟨hm', id⟩
  | banMember communityId targetUserId operatorUserId operatorRoles client =>
    obtain ⟨m, hset⟩ := heffect
    exact h.set hset (by decide) fun _ _ ↦ id
  | unbanMember communityId targetUserId operatorUserId operatorRoles client =>
    obtain ⟨m, hset⟩ := heffect
    exact h.set hset (by decide) fun _ _ ↦ id

theorem runs_roles_given (op : MembershipOp) (db : SocialDb) (log : MembershipLog)
    (h : RolesGiven db log) :
    op.runs.Alone op.RejoinsPlain (fun r db' ↦ RolesGiven db' ((op, r) :: log)) db := by
  refine Call.alone_mono (runs_end op db) fun r db' hend ↦ ?_
  cases r with
  | ok reply => exact h.step hend
  | error x =>
    cases hend
    refine fun m hm hactive helevated ↦ (h m hm hactive helevated).cons fun reply hreply ↦ ?_
    cases hreply

/-- As long as nobody takes up again a membership that was left with an elevated role, every active
moderator or speaker has been given the role since the last join. -/
theorem elevated_roles_given
    (h : Reach (Logged MembershipOp.runs MembershipOp.RejoinsPlain) (fun _ _ ↦ True) NoneElevated
      (db, log)) :
    ∀ m ∈ db.communityMembers.rows, m.status = .active → m.role = .moderator ∨ m.role = .speaker →
      GivenSinceJoin m.communityId m.userId m.role log :=
  logged_invariant (J := RolesGiven)
    (fun _ hs m hm _ helevated ↦ absurd helevated (hs.2 m hm)) runs_roles_given h

end Runs

section Sample

/-- The owner makes the second member a moderator. -/
def promotingModerator : MembershipOp :=
  .updateRole "community-1" "user-2" "user-1" [] ⟨.moderator⟩ nobody

/-- The state and the log after the operations, each with inputs of its own. -/
def carriedOut (check : MembershipOp → String → SocialDb → Bool) (ops : List MembershipOp) :
    Option (SocialDb × MembershipLog) :=
  carryLogged MembershipOp.runs check (ops.zipIdx.map fun (op, n) ↦
    (op, (List.range 4).map fun m ↦ sampleEnv 1 s!"{n}:{m}")) (socialDb, [])

/-- The second member is an active moderator. -/
def moderates (db : SocialDb) : Bool :=
  (membershipOf "community-1" "user-2" db).any fun m ↦ m.status == .active && m.role == .moderator

theorem exists_moderator {db : SocialDb} (h : moderates db = true) : ∃ m ∈ db.communityMembers.rows,
    m.communityId = "community-1" ∧ m.userId = "user-2" ∧ m.status = .active ∧ m.role = .moderator := by
  obtain ⟨m, hm, htest⟩ := (Option.any_eq_true ..).mp h
  obtain ⟨hactive, hrole⟩ := Bool.and_eq_true_iff.mp htest
  obtain ⟨hmem, hcommunity, huser⟩ := membershipOf_eq_some hm
  exact ⟨m, hmem, hcommunity, huser, beq_iff_eq.mp hactive, beq_iff_eq.mp hrole⟩

theorem socialDb_plain : NoneElevated (socialDb, []) := ⟨rfl, by decide⟩

/-- The member leaves and joins again, and is a moderator after that. -/
theorem promoted_after_join : ∃ db log, moderates db = true ∧
    ∀ m ∈ db.communityMembers.rows, m.status = .active → m.role = .moderator ∨ m.role = .speaker →
      GivenSinceJoin m.communityId m.userId m.role log := by
  have hrun : (carriedOut (fun op l db ↦ decide (op.RejoinsPlain l db))
      [leaving, joining, promotingModerator]).any (fun q ↦ moderates q.1) = true := by
    decide +kernel
  obtain ⟨⟨db, log⟩, hq, hmoderates⟩ := (Option.any_eq_true ..).mp hrun
  exact ⟨db, log, hmoderates, elevated_roles_given
    (reach_carryLogged (fun _ _ _ h ↦ of_decide_eq_true h) (.start socialDb_plain) hq)⟩

/-- The second member has just joined. -/
def justJoined : MembershipLog → Bool
  | (.join userId communityId _ _, .ok _) :: _ => userId == "user-2" && communityId == "community-1"
  | _ => false

theorem not_given_of_justJoined {log : MembershipLog} {role : CommunityMemberRole}
    (h : justJoined log = true) : ¬GivenSinceJoin "community-1" "user-2" role log := by
  rintro ⟨later, op, reply, earlier, rfl, hgives, hlater⟩
  cases later with
  | nil => cases op <;> first | exact hgives.elim | cases h
  | cons entry later =>
    obtain ⟨op', r⟩ := entry
    cases r with
    | error x => cases op' <;> cases h
    | ok reply' =>
      refine hlater op' reply' List.mem_cons_self ?_
      cases op' with
      | join userId communityId userRoles client =>
        obtain ⟨huser, hcommunity⟩ := Bool.and_eq_true_iff.mp h
        exact ⟨beq_iff_eq.mp hcommunity, beq_iff_eq.mp huser⟩
      | _ => cases h

/-- A moderator leaves, joins again and is a moderator as before. -/
theorem role_kept_on_rejoin : ∃ db log,
    Reach (Logged MembershipOp.runs fun _ _ _ ↦ True) (fun _ _ ↦ True) NoneElevated (db, log) ∧
      ¬ ∀ m ∈ db.communityMembers.rows, m.status = .active → m.role = .moderator ∨ m.role = .speaker →
        GivenSinceJoin m.communityId m.userId m.role log := by
  have hrun : (carriedOut (fun _ _ _ ↦ true) [promotingModerator, leaving, joining]).any
      (fun q ↦ moderates q.1 && justJoined q.2) = true := by
    decide +kernel
  obtain ⟨⟨db, log⟩, hq, htest⟩ := (Option.any_eq_true ..).mp hrun
  obtain ⟨hmoderates, hjoined⟩ := Bool.and_eq_true_iff.mp htest
  obtain ⟨m, hm, hcommunity, huser, hactive, hrole⟩ := exists_moderator hmoderates
  refine ⟨db, log, reach_carryLogged (fun _ _ _ _ ↦ trivial) (.start socialDb_plain) hq, fun hall ↦ ?_⟩
  have hgiven := hall m hm hactive (.inl hrole)
  rw [hcommunity, huser] at hgiven
  exact not_given_of_justJoined hjoined hgiven

end Sample

end Innovents.Communities.Social
