import Innovents.Auth.AdminApprovalsService
import Innovents.Auth.Writes

namespace Innovents.Auth

open Innovents.Lib Innovents.Payments AdminUsersService AdminApprovalsService

/-- The calls that move an account through its life, a verification of its email among them. -/
inductive LifecycleCall
  | verifyOtp (email code : String) (client : Client)
  | activateUser (id adminUserId : String) (client : Client)
  | suspendUser (id adminUserId reason : String) (client : Client)
  | reactivateUser (id adminUserId : String) (client : Client)
  | deactivateUser (id adminUserId reason : String) (client : Client)
  | approveAccount (userId adminId : String) (client : Client)
  | rejectAccount (userId adminId : String) (reason : Option String) (client : Client)
  | suspendAccount (userId adminId : String) (reason : Option String) (client : Client)
  | reactivateAccount (userId adminId : String) (client : Client)

/-- The call runs from `db` to `db'`, whatever it answers. -/
def Leads {α : Type} (call : AuthCall α) (db db' : AuthDb) : Prop :=
  ∃ r, Call.Ran (fun _ ↦ True) call db r db'

def Performs (rt : Runtime) (db : AuthDb) (op : LifecycleCall) (db' : AuthDb) : Prop :=
  match op with
  | .verifyOtp email code client =>
    Leads (AuthService.verifyOtp rt email code .emailVerification client) db db'
  | .activateUser id adminUserId client => Leads (activateUser id adminUserId client) db db'
  | .suspendUser id adminUserId reason client =>
    Leads (suspendUser rt id adminUserId reason client) db db'
  | .reactivateUser id adminUserId client => Leads (reactivateUser id adminUserId client) db db'
  | .deactivateUser id adminUserId reason client =>
    Leads (deactivateUser id adminUserId reason client) db db'
  | .approveAccount userId adminId client => Leads (approveAccount userId adminId client) db db'
  | .rejectAccount userId adminId reason client =>
    Leads (rejectAccount rt userId adminId reason client) db db'
  | .suspendAccount userId adminId reason client =>
    Leads (suspendAccount rt userId adminId reason client) db db'
  | .reactivateAccount userId adminId client =>
    Leads (reactivateAccount userId adminId client) db db'

/-- What a call does to the account that it updates, and which accounts it updates. -/
inductive Effect : LifecycleCall → User → User → Prop
  | verifies {u : User} {email code : String} {client : Client} (now : Time) :
      u.deletedAt = none → Effect (.verifyOtp email code client) u
        { u with
          status := (AuthService.verified now u).1
          emailVerifiedAt := (AuthService.verified now u).2 }
  | activates {u : User} {adminUserId : String} {client : Client} (now : Time) :
      Effect (.activateUser u.id adminUserId client) u (activated u adminUserId now u)
  | suspends {u : User} {adminUserId reason : String} {client : Client} (note : Option String)
      (now : Time) : Effect (.suspendUser u.id adminUserId reason client) u (suspended note now u)
  | reactivates {u : User} {adminUserId : String} {client : Client} :
      u.status = .suspended ∨ u.status = .rejected →
      Effect (.reactivateUser u.id adminUserId client) u (reactivated u)
  | deactivates {u : User} {adminUserId reason : String} {client : Client} (now : Time) :
      Effect (.deactivateUser u.id adminUserId reason client) u (deactivated now u)
  | approves {u : User} {adminId : String} {client : Client} (now : Time) :
      u.deletedAt = none → u.status = .pending → u.emailVerifiedAt.isSome = true →
      Effect (.approveAccount u.id adminId client) u (approved adminId now u)
  | rejects {u : User} {adminId : String} {reason : Option String} {client : Client}
      (note : String) (now : Time) : u.deletedAt = none → u.status = .pending →
      Effect (.rejectAccount u.id adminId reason client) u (rejected note now u)
  | suspendsAccount {u : User} {adminId : String} {reason : Option String} {client : Client}
      (note : Option String) (now : Time) : u.deletedAt = none → u.status = .active →
      Effect (.suspendAccount u.id adminId reason client) u (suspended note now u)
  | reactivatesAccount {u : User} {adminId : String} {client : Client} :
      isBusinessAccount u = true → u.status = .suspended →
      Effect (.reactivateAccount u.id adminId client) u (reactivated u)
  | reopens {u : User} {adminId : String} {client : Client} : u.status = .rejected →
      Effect (.reactivateAccount u.id adminId client) u (reopened u)

/-- Every account is as it was, or has changed by `P`. -/
def Moves (P : User → User → Prop) (t t' : Table User) : Prop :=
  ∀ id, t'.get? id = t.get? id ∨ ∃ u u', t.get? id = some u ∧ t'.get? id = some u' ∧ P u u'

/-- The others may do anything but write accounts. -/
def SameUsers (db db' : AuthDb) : Prop := db'.users = db.users

section Calls

variable {α : Type} {P : User → User → Prop} {t t' : Table User} {db : AuthDb}
  {ok : String → AuthEnv → Prop} {client : Client}

theorem Moves.refl (t : Table User) : Moves P t t := fun _ ↦ .inl rfl

theorem moves_update {id : String} {f : User → User} (h : t.update id f = .ok t')
    (hid : ∀ u, (f u).id = u.id) (hP : ∀ u, t.get? id = some u → P u (f u)) : Moves P t t' := by
  intro k
  have hget := Table.get?_update h hid k
  split_ifs at hget with hk
  · subst hk
    cases hu : t.get? k with
    | none => exact .inl (by rw [hget, hu]; rfl)
    | some u => exact .inr ⟨u, f u, rfl, by rw [hget, hu]; rfl, hP u hu⟩
  · exact .inl hget

theorem updateAccount_users {id : String} {f : User → User} {revokesTokens : Bool}
    {event : CreateOutboxEventParams} {env : AuthEnv} {db' : AuthDb} {a : Option User}
    (h : updateAccount id f revokesTokens event env db = .ok (db', a)) :
    db.users.update id f = .ok db'.users := by
  obtain ⟨users, husers, h⟩ := andThen_eq_ok.mp h
  obtain ⟨refreshTokens, -, h⟩ := andThen_eq_ok.mp h
  obtain ⟨db₁, hwritten, h⟩ := andThen_eq_ok.mp h
  obtain ⟨outboxEvents, -, hwritten⟩ := andThen_eq_ok.mp hwritten
  cases hwritten
  cases h
  exact ofRefusal_eq_ok.mp husers

theorem SameUsers.moves {db' : AuthDb} (h : SameUsers db db') : Moves P db.users db'.users := by
  rw [h]
  exact .refl _

/-- What the four actions of the users service share: a transaction updates the account. -/
theorem updateAccount_moves {name id : String} {f : AuthEnv → User → User} {revokesTokens : Bool}
    {event : CreateOutboxEventParams} {entry : CreateAuditLogParams} {db₀ : AuthDb}
    (h₀ : SameUsers db db₀) (hid : ∀ env u, (f env u).id = u.id)
    (hP : ∀ env u, db.users.get? id = some u → P u (f env u)) :
    (((stores name fun env db ↦ updateAccount id (f env) revokesTokens event env db).bind fun updated ↦
      (AuditService.log entry client).bind fun _ ↦ pure updated) : AuthCall (Option User)).wp
        SameUsers ok (fun _ db' ↦ Moves P db.users db'.users) db₀ := by
  refine Call.wpg_bind (wpg_stores (fun _ ↦ trivial) (fun db₁ _ h₁ ↦ ?_) (fun db₁ _ _ h₁ _ ↦ ?_)
    fun db₁ env db₂ a h₁ _ hx ↦ ⟨trivial, ?_⟩)
  · exact SameUsers.moves (h₁.trans h₀)
  · exact SameUsers.moves (h₁.trans h₀)
  · have hmoves : Moves P db.users db₂.users := by
      have hupdate := updateAccount_users hx
      rw [h₁, h₀] at hupdate
      exact moves_update hupdate (hid env) (hP env)
    refine Call.wpg_bind (wpg_log (fun _ _ ↦ trivial) fun db₃ logs h₃ ↦ ?_)
    show Moves P db.users db₃.users
    rw [h₃]
    exact hmoves

/-- The account is found first. -/
theorem findUser_moves {id : String} {f : Option User → AuthCall α}
    (hf : ∀ db₁, SameUsers db db₁ → (f (db.users.get? id)).wp SameUsers ok
      (fun _ db' ↦ Moves P db.users db'.users) db₁) :
    ((findUser id).bind f).wp SameUsers ok (fun _ db' ↦ Moves P db.users db'.users) db := by
  refine Call.wpg_bind (wpg_finds (fun _ ↦ trivial) (fun db₁ _ h₁ ↦ ?_) fun db₁ _ h₁ _ ↦ ?_)
  · exact SameUsers.moves h₁
  · rw [h₁]
    exact hf db₁ h₁

theorem throws_moves {status : HttpStatus} {message : String} {db₀ : AuthDb}
    (h₀ : SameUsers db db₀) : (throws status message : AuthCall α).wp SameUsers ok
      (fun _ db' ↦ Moves P db.users db'.users) db₀ := SameUsers.moves h₀

theorem activateUser_moves {id adminUserId : String} :
    (activateUser id adminUserId client).wp SameUsers ok (fun _ db' ↦
      Moves (Effect (.activateUser id adminUserId client)) db.users db'.users) db := by
  refine findUser_moves fun db₁ h₁ ↦ ?_
  cases hu : db.users.get? id with
  | none => exact throws_moves h₁
  | some user =>
    refine updateAccount_moves h₁ (fun _ _ ↦ rfl) fun env u hget ↦ ?_
    rw [hu] at hget
    cases hget
    obtain ⟨-, rfl⟩ := Table.get?_eq_some.mp hu
    exact .activates env.now

theorem suspendUser_moves {rt : Runtime} {id adminUserId reason : String} :
    (suspendUser rt id adminUserId reason client).wp SameUsers ok (fun _ db' ↦
      Moves (Effect (.suspendUser id adminUserId reason client)) db.users db'.users) db := by
  unfold suspendUser
  split_ifs
  · exact throws_moves rfl
  refine findUser_moves fun db₁ h₁ ↦ ?_
  cases hu : db.users.get? id with
  | none => exact throws_moves h₁
  | some user =>
    refine updateAccount_moves h₁ (fun _ _ ↦ rfl) fun env u hget ↦ ?_
    obtain ⟨-, rfl⟩ := Table.get?_eq_some.mp hget
    exact .suspends _ env.now

theorem reactivateUser_moves {id adminUserId : String} :
    (reactivateUser id adminUserId client).wp SameUsers ok (fun _ db' ↦
      Moves (Effect (.reactivateUser id adminUserId client)) db.users db'.users) db := by
  refine findUser_moves fun db₁ h₁ ↦ ?_
  cases hu : db.users.get? id with
  | none => exact throws_moves h₁
  | some user =>
    dsimp only
    split_ifs with hstatus
    · exact throws_moves h₁
    · refine updateAccount_moves h₁ (fun _ _ ↦ rfl) fun env u hget ↦ ?_
      rw [hu] at hget
      cases hget
      obtain ⟨-, rfl⟩ := Table.get?_eq_some.mp hu
      refine .reactivates ?_
      by_contra hneither
      exact hstatus (not_or.mp hneither)

theorem deactivateUser_moves {id adminUserId reason : String} :
    (deactivateUser id adminUserId reason client).wp SameUsers ok (fun _ db' ↦
      Moves (Effect (.deactivateUser id adminUserId reason client)) db.users db'.users) db := by
  unfold deactivateUser
  split_ifs
  · exact throws_moves rfl
  refine findUser_moves fun db₁ h₁ ↦ ?_
  cases hu : db.users.get? id with
  | none => exact throws_moves h₁
  | some user =>
    refine updateAccount_moves h₁ (fun _ _ ↦ rfl) fun env u hget ↦ ?_
    obtain ⟨-, rfl⟩ := Table.get?_eq_some.mp hget
    exact .deactivates env.now

/-- The transaction of the approvals service: an account is updated if that is the decision. -/
theorem inTransaction_moves {name userId notBusiness : String} {decide : User → Decision}
    (h : ∀ user message status f revokesTokens entry event now, user.id = userId →
      user.deletedAt = none → isBusinessAccount user = true →
      decide user = .act message status f revokesTokens entry event →
      (∀ u, (f now u).id = u.id) ∧ P user (f now user)) :
    (inTransaction name userId notBusiness decide client).wp SameUsers ok
      (fun _ db' ↦ Moves P db.users db'.users) db := by
  refine wpg_stores (fun _ ↦ trivial) (fun db₁ _ h₁ ↦ SameUsers.moves h₁)
    (fun db₁ _ _ h₁ _ ↦ SameUsers.moves h₁) fun db₁ env db₂ a h₁ _ hx ↦ ⟨trivial, ?_⟩
  dsimp only at hx
  split at hx
  · cases hx
  · next user huser =>
    obtain ⟨hget, hdeleted⟩ := Option.filter_eq_some_iff.mp huser
    split_ifs at hx with hbusiness
    split at hx
    · cases hx
    · cases hx
      exact SameUsers.moves h₁
    · next message status f revokesTokens entry event hdecide =>
      obtain ⟨⟨db₃, _⟩, hupdate, hx⟩ := andThen_eq_ok.mp hx
      cases hx
      obtain ⟨logs, hlogs⟩ := AuditService.written_frame entry client env db₁
      have hupdate := updateAccount_users hupdate
      rw [hlogs] at hupdate
      rw [h₁] at hget hupdate
      obtain ⟨-, hid⟩ := Table.get?_eq_some.mp hget
      have hact := h user message status f revokesTokens entry event env.now hid
        (Option.isNone_iff_eq_none.mp hdeleted) (by simpa using hbusiness) hdecide
      refine moves_update hupdate hact.1 fun u hu ↦ ?_
      rw [hget] at hu
      cases hu
      exact hact.2

theorem approveAccount_moves {userId adminId : String} :
    (approveAccount userId adminId client).wp SameUsers ok (fun _ db' ↦
      Moves (Effect (.approveAccount userId adminId client)) db.users db'.users) db := by
  refine inTransaction_moves fun user message status f revokesTokens entry event now hid hdeleted _
    hdecide ↦ ?_
  unfold decideApproval at hdecide
  split_ifs at hdecide with hverified
  split at hdecide <;> cases hdecide
  next hpending =>
    subst hid
    exact ⟨fun _ ↦ rfl, .approves now hdeleted hpending (Option.isSome_iff_ne_none.mpr hverified)⟩

theorem rejectAccount_moves {rt : Runtime} {userId adminId : String} {reason : Option String} :
    (rejectAccount rt userId adminId reason client).wp SameUsers ok (fun _ db' ↦
      Moves (Effect (.rejectAccount userId adminId reason client)) db.users db'.users) db := by
  refine inTransaction_moves fun user message status f revokesTokens entry event now hid hdeleted _
    hdecide ↦ ?_
  unfold decideRejection at hdecide
  split at hdecide
  · cases hdecide
  split at hdecide <;> cases hdecide
  next hpending =>
    subst hid
    exact ⟨fun _ ↦ rfl, .rejects _ now hdeleted hpending⟩

theorem suspendAccount_moves {rt : Runtime} {userId adminId : String} {reason : Option String} :
    (suspendAccount rt userId adminId reason client).wp SameUsers ok (fun _ db' ↦
      Moves (Effect (.suspendAccount userId adminId reason client)) db.users db'.users) db := by
  refine inTransaction_moves fun user message status f revokesTokens entry event now hid hdeleted _
    hdecide ↦ ?_
  unfold decideSuspension at hdecide
  dsimp only at hdecide
  split at hdecide <;> cases hdecide
  next hactive =>
    subst hid
    exact ⟨fun _ ↦ rfl, .suspendsAccount _ now hdeleted hactive⟩

theorem reactivateAccount_moves {userId adminId : String} :
    (reactivateAccount userId adminId client).wp SameUsers ok (fun _ db' ↦
      Moves (Effect (.reactivateAccount userId adminId client)) db.users db'.users) db := by
  refine inTransaction_moves fun user message status f revokesTokens entry event now hid hdeleted
    hbusiness hdecide ↦ ?_
  unfold decideReactivation at hdecide
  split at hdecide
  · next hsuspended =>
    cases hdecide
    subst hid
    exact ⟨fun _ ↦ rfl, .reactivatesAccount hbusiness hsuspended⟩
  · next hrejected =>
    cases hdecide
    subst hid
    exact ⟨fun _ ↦ rfl, .reopens hrejected⟩
  · cases hdecide

/-- A verification writes challenges and audit entries only. -/
theorem verifyChallenge_sameUsers {rt : Runtime} {identifier code : String} {purpose : OtpPurpose} :
    (OtpService.verifyChallenge rt identifier code purpose client).Each fun _ ↦ SameUsers :=
  verifyChallenge_writes.mono fun _ _ _ h ↦ h.accounts.1

theorem verifyOtp_moves {rt : Runtime} {email code : String} :
    (AuthService.verifyOtp rt email code .emailVerification client).wp SameUsers ok (fun _ db' ↦
      Moves (Effect (.verifyOtp email code client)) db.users db'.users) db := by
  refine Call.wpg_bind (Call.wpg_mono (Call.wp_keeps verifyChallenge_sameUsers
    (fun _ _ h h' ↦ h'.trans h) (rfl : SameUsers db db)) fun r db₁ h₁ ↦ ?_)
  cases r with
  | error x => exact SameUsers.moves h₁
  | ok valid =>
    dsimp only
    rw [if_pos rfl]
    refine Call.wpg_bind (wpg_finds (fun _ ↦ trivial) (fun db₂ _ h₂ ↦ SameUsers.moves (h₂.trans h₁))
      fun db₂ env h₂ _ ↦ ?_)
    replace h₂ := h₂.trans h₁
    cases hu : db₂.account (rt.normalize email) with
    | none => exact SameUsers.moves h₂
    | some user =>
      refine Call.wpg_bind (wpg_stores (fun _ ↦ trivial)
        (fun db₃ _ h₃ ↦ SameUsers.moves (h₃.trans h₂))
        (fun db₃ _ _ h₃ _ ↦ SameUsers.moves (h₃.trans h₂)) fun db₃ env db₄ a h₃ _ hx ↦ ⟨trivial, ?_⟩)
      obtain ⟨users, hupdate, hx⟩ := andThen_eq_ok.mp hx
      cases hx
      rw [ofRefusal_eq_ok, h₃, h₂] at hupdate
      obtain ⟨hmem, huser⟩ := Table.find?_mem hu
      rw [h₂] at hmem
      simp only [Bool.and_eq_true, Option.isNone_iff_eq_none] at huser
      refine moves_update hupdate (fun _ ↦ rfl) fun u hget ↦ ?_
      have hfound : db.users.get? user.id = some user := Table.get?_eq_some.mpr ⟨hmem, rfl⟩
      rw [hfound] at hget
      cases hget
      exact .verifies env.now huser.2

end Calls

/-- What a call of the services may do to the accounts. -/
theorem performs_moves {rt : Runtime} {op : LifecycleCall} {db db' : AuthDb}
    (h : Performs rt db op db') : Moves (Effect op) db.users db'.users := by
  have leads {α : Type} {call : AuthCall α} (hl : Leads call db db')
      (hcall : call.wp SameUsers (fun _ _ ↦ True) (fun _ db' ↦
        Moves (Effect op) db.users db'.users) db) : Moves (Effect op) db.users db'.users := by
    obtain ⟨r, hr⟩ := hl
    exact Call.wpg_ran hcall (fun _ ↦ rfl) (fun _ _ _ ↦ trivial) hr
  cases op with
  | verifyOtp email code client => exact leads h verifyOtp_moves
  | activateUser id adminUserId client => exact leads h activateUser_moves
  | suspendUser id adminUserId reason client => exact leads h suspendUser_moves
  | reactivateUser id adminUserId client => exact leads h reactivateUser_moves
  | deactivateUser id adminUserId reason client => exact leads h deactivateUser_moves
  | approveAccount userId adminId client => exact leads h approveAccount_moves
  | rejectAccount userId adminId reason client => exact leads h rejectAccount_moves
  | suspendAccount userId adminId reason client => exact leads h suspendAccount_moves
  | reactivateAccount userId adminId client => exact leads h reactivateAccount_moves

/-- What the states of an account mean. -/
structure Lawful (u : User) : Prop where
  active : u.status = .active → u.deletedAt = none ∧ u.suspendedAt = none ∧ u.rejectedAt = none
  business : u.status = .active → isBusinessAccount u = true → u.emailVerifiedAt.isSome = true
  suspended : u.status = .suspended ↔ u.suspendedAt.isSome = true ∧ u.deletedAt = none

/-- A rejected account stays so, goes back to review or is deactivated. -/
def Leaves (u u' : User) : Prop :=
  u.status = .rejected → u'.status = .rejected ∨ u'.status = .pending ∨ u'.status = .deactivated

/-- The timestamps of an account for each of its states. -/
def Orderly (u : User) : Prop :=
  match u.status with
  | .pending => u.deletedAt = none ∧ u.suspendedAt = none ∧ u.rejectedAt = none
  | .active => (u.deletedAt = none ∧ u.suspendedAt = none ∧ u.rejectedAt = none) ∧
    (isBusinessAccount u = true → u.emailVerifiedAt.isSome = true)
  | .rejected => u.deletedAt = none ∧ u.suspendedAt = none ∧ u.rejectedAt.isSome = true
  | .suspended => u.deletedAt = none ∧ u.suspendedAt.isSome = true ∧ u.rejectedAt = none
  | .deactivated => u.deletedAt.isSome = true

/-- The calls that the services should refuse are not made for the account. -/
def Allows (u : User) : LifecycleCall → Prop
  | .activateUser id _ _ => id = u.id →
    (u.deletedAt = none ∧ u.suspendedAt = none ∧ u.rejectedAt = none) ∧
      (isBusinessAccount u = true → u.emailVerifiedAt.isSome = true)
  | .suspendUser id _ _ _ => id = u.id → u.deletedAt = none ∧ u.status ≠ .rejected
  | .reactivateUser id _ _ => id = u.id → u.status ≠ .rejected ∧
    (u.status = .suspended → isBusinessAccount u = true → u.emailVerifiedAt.isSome = true)
  | .reactivateAccount id _ _ => id = u.id → u.status = .suspended → u.emailVerifiedAt.isSome = true
  | _ => True

section Runs

variable {rt : Runtime} {op : LifecycleCall} {u u' : User} {id : String} {db db' : AuthDb}

theorem Orderly.lawful (h : Orderly u) : Lawful u := by
  unfold Orderly at h
  split at h
  · next hs => exact ⟨by simp [hs], by simp [hs], by simp [hs, h.2.1]⟩
  · next hs => exact ⟨fun _ ↦ h.1, fun _ ↦ h.2, by simp [hs, h.1.2.1]⟩
  · next hs => exact ⟨by simp [hs], by simp [hs], by simp [hs, h.2.1]⟩
  · next hs => exact ⟨by simp [hs], by simp [hs], by simp [hs, h.1, h.2.1]⟩
  · next hs =>
    refine ⟨by simp [hs], by simp [hs], ?_⟩
    simp only [hs, reduceCtorEq, false_iff, not_and]
    intro _ hnone
    simp [hnone] at h

/-- A call that the account allows keeps its timestamps in order. -/
theorem Orderly.effect (hu : Orderly u) (h : Effect op u u') (hallowed : Allows u op) :
    Orderly u' := by
  cases h with
  | verifies now hdeleted =>
    by_cases hattendee : "ATTENDEE" ∈ u.userRoles ∧ u.status = .pending
    · simp only [Orderly, hattendee.2] at hu
      simp only [Orderly, AuthService.verified, if_pos hattendee]
      exact ⟨hu, fun _ ↦ rfl⟩
    · simp only [Orderly, AuthService.verified, if_neg hattendee]
      unfold Orderly at hu
      split at hu
      · exact hu
      · exact ⟨hu.1, fun _ ↦ rfl⟩
      · exact hu
      · exact hu
      · exact hu
  | activates now => exact hallowed rfl
  | suspends note now =>
    obtain ⟨hdeleted, hnot⟩ := hallowed rfl
    refine ⟨hdeleted, rfl, ?_⟩
    unfold Orderly at hu
    split at hu
    · exact hu.2.2
    · exact hu.1.2.2
    · next hs => exact absurd hs hnot
    · exact hu.2.2
    · rw [hdeleted] at hu
      cases hu
  | reactivates hstatus =>
    obtain ⟨hnot, hverified⟩ := hallowed rfl
    have hs := hstatus.resolve_right hnot
    simp only [Orderly, hs] at hu
    exact ⟨⟨hu.1, rfl, hu.2.2⟩, hverified hs⟩
  | deactivates now => exact rfl
  | approves now hdeleted hpending hverified =>
    simp only [Orderly, hpending] at hu
    exact ⟨⟨hdeleted, hu.2.1, rfl⟩, fun _ ↦ hverified⟩
  | rejects note now hdeleted hpending =>
    simp only [Orderly, hpending] at hu
    exact ⟨hdeleted, hu.2.1, rfl⟩
  | suspendsAccount note now hdeleted hactive =>
    simp only [Orderly, hactive] at hu
    exact ⟨hdeleted, rfl, hu.1.2.2⟩
  | reactivatesAccount _ hsuspended =>
    simp only [Orderly, hsuspended] at hu
    exact ⟨⟨hu.1, rfl, hu.2.2⟩, fun _ ↦ hallowed rfl hsuspended⟩
  | reopens hrejected =>
    simp only [Orderly, hrejected] at hu
    exact ⟨hu.1, hu.2.1, rfl⟩

theorem Orderly.leaves (hu : Orderly u) (h : Effect op u u') (hallowed : Allows u op) : Leaves u u' := by
  intro hrejected
  cases h with
  | verifies now hdeleted =>
    refine .inl ?_
    simp only [AuthService.verified, hrejected, reduceCtorEq, and_false, if_false]
  | activates now =>
    simp only [Orderly, hrejected] at hu
    have hnone := (hallowed rfl).1.2.2
    rw [hnone] at hu
    cases hu.2.2
  | suspends note now => exact absurd hrejected (hallowed rfl).2
  | reactivates hstatus => exact absurd hrejected (hallowed rfl).1
  | deactivates now => exact .inr (.inr rfl)
  | approves now hdeleted hpending => rw [hrejected] at hpending; cases hpending
  | rejects note now hdeleted hpending => exact .inl rfl
  | suspendsAccount note now hdeleted hactive => rw [hrejected] at hactive; cases hactive
  | reactivatesAccount _ hsuspended => rw [hrejected] at hsuspended; cases hsuspended
  | reopens => exact .inr (.inl rfl)

/-- A call that the account should refuse breaks what its states mean. -/
theorem allows_of_lawful (h : Effect op u u') (hlawful : Lawful u') (hleaves : Leaves u u') :
    Allows u op := by
  cases h with
  | verifies => trivial
  | activates now => exact fun _ ↦ ⟨hlawful.active rfl, hlawful.business rfl⟩
  | suspends note now =>
    refine fun _ ↦ ⟨(hlawful.suspended.mp rfl).2, fun hrejected ↦ ?_⟩
    rcases hleaves hrejected with h | h | h <;> cases h
  | reactivates =>
    refine fun _ ↦ ⟨fun hrejected ↦ ?_, fun _ ↦ hlawful.business rfl⟩
    rcases hleaves hrejected with h | h | h <;> cases h
  | deactivates => trivial
  | approves => trivial
  | rejects => trivial
  | suspendsAccount => trivial
  | reactivatesAccount hbusiness => exact fun _ _ ↦ hlawful.business rfl hbusiness
  | reopens hrejected =>
    intro _ hsuspended
    rw [hrejected] at hsuspended
    cases hsuspended

/-- The account as its registration has left it. -/
def Fresh (id : String) (db : AuthDb) : Prop :=
  ∃ u, db.users.get? id = some u ∧ u.status = .pending ∧ u.emailVerifiedAt = none ∧
    u.deletedAt = none ∧ u.suspendedAt = none ∧ u.rejectedAt = none

/-- The call is none that the account should refuse. -/
def Permitted (id : String) (db : AuthDb) (op : LifecycleCall) : Prop :=
  ∀ u, db.users.get? id = some u → Allows u op

theorem performs_account (h : Performs rt db op db') (hu : db.users.get? id = some u) :
    ∃ u', db'.users.get? id = some u' ∧ (u' = u ∨ Effect op u u') := by
  rcases performs_moves h id with hsame | ⟨u₀, u', h₀, h', heffect⟩
  · exact ⟨u, by rw [hsame, hu], .inl rfl⟩
  · rw [hu] at h₀
    cases h₀
    exact ⟨u', h', .inr heffect⟩

theorem orderly_account (h : Reach (Performs rt) (Permitted id) (Fresh id) db) :
    ∃ u, db.users.get? id = some u ∧ Orderly u := by
  refine h.invariant (I := fun db ↦ ∃ u, db.users.get? id = some u ∧ Orderly u)
    (fun db hfresh ↦ ?_) fun db op db' hdb hop hstep ↦ ?_
  · obtain ⟨u, hu, hpending, -, hrest⟩ := hfresh
    refine ⟨u, hu, ?_⟩
    simp only [Orderly, hpending]
    exact hrest
  · obtain ⟨u, hu, horderly⟩ := hdb
    obtain ⟨u', hu', rfl | heffect⟩ := performs_account hstep hu
    · exact ⟨u', hu', horderly⟩
    · exact ⟨u', hu', horderly.effect heffect (hop u hu)⟩

/-- An account whose refusable calls are not made keeps to its lifecycle, and such a call breaks
it when it changes the account. -/
theorem account_lifecycle (h : Reach (Performs rt) (Permitted id) (Fresh id) db) :
    ∃ u, db.users.get? id = some u ∧ Lawful u ∧ ∀ op db', Performs rt db op db' →
      ∃ u', db'.users.get? id = some u' ∧ (Allows u op → Lawful u' ∧ Leaves u u') ∧
        (u' ≠ u → Lawful u' → Leaves u u' → Allows u op) := by
  obtain ⟨u, hu, horderly⟩ := orderly_account h
  refine ⟨u, hu, horderly.lawful, fun op db' hstep ↦ ?_⟩
  obtain ⟨u', hu', rfl | heffect⟩ := performs_account hstep hu
  · exact ⟨u', hu', fun _ ↦ ⟨horderly.lawful, fun hrejected ↦ .inl hrejected⟩,
      fun hne ↦ absurd rfl hne⟩
  · exact ⟨u', hu', fun hallowed ↦ ⟨(horderly.effect heffect hallowed).lawful,
      horderly.leaves heffect hallowed⟩, fun _ ↦ allows_of_lawful heffect⟩

end Runs

section Sample

def sponsorAccount : User :=
  newUser (sampleEnv 0 "1") "sponsor@example.com" none (sampleBcrypt "Sunflower7") .pending none
    ["SPONSOR"] .empty

def sponsorDb : AuthDb := { AuthDb.empty with users := .singleton sponsorAccount }

theorem fresh_sponsor : Fresh "id-1" sponsorDb :=
  ⟨sponsorAccount, rfl, rfl, rfl, rfl, rfl, rfl⟩

theorem leads_of_finish {α : Type} {call : AuthCall α} {envs : List AuthEnv} {db db' : AuthDb}
    (h : Call.finish envs db call = some db') : Leads call db db' :=
  Call.ran_of_finish (fun _ _ ↦ trivial) h

def threeStatements : List AuthEnv := [sampleEnv 1 "2", sampleEnv 2 "3", sampleEnv 3 "4"]

/-- An account that is deactivated before it is verified. -/
theorem deactivated_sponsor : ∃ (db : AuthDb) (u : User), db.users.get? "id-1" = some u ∧ u.status = .deactivated ∧
    Lawful u := by
  have hrun : (Call.finish threeStatements sponsorDb
      (deactivateUser "id-1" "admin-1" "spam" nobody)).any (fun db ↦
        (db.users.get? "id-1").any (·.status == .deactivated)) = true := by decide +kernel
  obtain ⟨db, hdb, hstatus⟩ := (Option.any_eq_true ..).mp hrun
  have hreach : Reach (Performs sampleRuntime) (Permitted "id-1") (Fresh "id-1") db :=
    .next (a := .deactivateUser "id-1" "admin-1" "spam" nobody) (.start fresh_sponsor)
      (fun _ _ ↦ trivial) (leads_of_finish hdb)
  obtain ⟨u, hu, hlawful, -⟩ := account_lifecycle hreach
  rw [hu] at hstatus
  exact ⟨db, u, hu, by simpa using hstatus, hlawful⟩

/-- An administrator activates a sponsor that has not verified its email. -/
theorem unverified_activated : ∃ db u,
    Reach (Performs sampleRuntime) (fun _ _ ↦ True) (Fresh "id-1") db ∧
      db.users.get? "id-1" = some u ∧ u.status = .active ∧ isBusinessAccount u = true ∧
        u.emailVerifiedAt = none ∧ ¬Lawful u := by
  have hrun : (Call.finish threeStatements sponsorDb (activateUser "id-1" "admin-1" nobody)).any
      (fun db ↦ (db.users.get? "id-1").any fun u ↦ u.status == .active &&
        isBusinessAccount u && u.emailVerifiedAt == none) = true := by decide +kernel
  obtain ⟨db, hdb, htest⟩ := (Option.any_eq_true ..).mp hrun
  obtain ⟨u, hu, htest⟩ := (Option.any_eq_true ..).mp htest
  simp only [Bool.and_eq_true, beq_iff_eq] at htest
  obtain ⟨⟨hactive, hbusiness⟩, hnone⟩ := htest
  refine ⟨db, u, .next (a := .activateUser "id-1" "admin-1" nobody) (.start fresh_sponsor) trivial
    (leads_of_finish hdb), hu, hactive, hbusiness, hnone, fun hlawful ↦ ?_⟩
  have hverified := hlawful.business hactive hbusiness
  rw [hnone] at hverified
  cases hverified

end Sample

end Innovents.Auth
