import Innovents.Auth.OrganizerInvitationsService
import Innovents.Auth.Statements

namespace Innovents.Auth

open Innovents.Lib Innovents.Payments TokenService AuthService OrganizerInvitationsService

section Claim

variable (rt : Runtime) (dto : AcceptInvitationDto) (client : Client) (inputs : String → AuthEnv)

def invitationOf (db : AuthDb) : Option OrganizerInvitation :=
  db.organizerInvitations.find? (·.tokenHash == rt.sha256 (rt.trim dto.token))

/-- The time of the first statement, which decides what has expired. -/
def readAt : Time := (inputs "organizerInvitation.findUnique").now

/-- The invitation of the token is pending, and it has expired. -/
def Overdue (db : AuthDb) : Prop :=
  ∃ i, invitationOf rt dto db = some i ∧ i.status = .pending ∧ i.expiresAt < readAt inputs

/-- An acceptance that should succeed: a pending invitation in time, to an event that exists, for
somebody without an account who gives a password, and a database that answers. -/
def Newcomer (db : AuthDb) : Prop :=
  ∃ i, invitationOf rt dto db = some i ∧ i.status = .pending ∧ ¬i.expiresAt < readAt inputs ∧
    (∃ e ∈ db.events.rows, e.id = i.eventId ∧ e.deletedAt = none) ∧
    (∀ u ∈ db.users.rows, u.email ≠ i.email) ∧ (∃ password, dto.password = some password ∧ password ≠ "") ∧
    ∀ name, (inputs name).fault = none

/-- The tables are as before, except that the invitation is expired if it is overdue. -/
structure Restored (db db' : AuthDb) : Prop where
  users : db'.users = db.users
  roles : db'.roles = db.roles
  profiles : db'.profiles = db.profiles
  eventOrganizers : db'.eventOrganizers = db.eventOrganizers
  refreshTokens : db'.refreshTokens = db.refreshTokens
  invitations : db'.organizerInvitations.rows = db.organizerInvitations.rows.map fun i ↦
    if i.tokenHash = rt.sha256 (rt.trim dto.token) ∧ i.status = .pending ∧ i.expiresAt < readAt inputs
    then { i with status := .expired }
    else i

/-- The acceptance, each of whose statements gets the input of its name. -/
def accepted (db : AuthDb) : Except AuthError AcceptedInvitationResponseDto × AuthDb :=
  (acceptInvitation rt dto client).answered inputs db

/-- It works for newcomers, and it is atomic. -/
def WorksAtomically (db : AuthDb) : Prop :=
  (Newcomer rt dto inputs db → ∃ response, (accepted rt dto client inputs db).1 = .ok response) ∧
    ∀ x, (accepted rt dto client inputs db).1 = .error x →
      Restored rt dto inputs db (accepted rt dto client inputs db).2

/-- What an acceptance does before it commits. -/
def prepareAcceptance (invitation : OrganizerInvitation) :
    AuthCall (Pending AuthDb AuthError × String × Option AuthTokensDto) := do
  let event ← findEvent invitation.eventId
  match event with
  | none => throws .notFound "The associated event is no longer available"
  | some event =>
    let organizerRole ← finds "role.findUnique" fun _ db ↦ db.role "ORGANIZER"
    match organizerRole with
    | none => throws .badRequest "System configuration error: ORGANIZER role not found"
    | some organizerRole =>
      let (tx, userId) ← organizerAccount rt .ok invitation dto organizerRole
      let tx ← markAccepted tx invitation event userId
      AuditService.log
        { actorUserId := some userId
          action := "ORGANIZER_INVITATION_ACCEPTED"
          resourceType := "organizer_invitation"
          resourceId := some invitation.id
          metadata := [("eventId", .str invitation.eventId), ("email", .str invitation.email)] } client
      let tokens ← issueTokens rt tx userId
      return (tx, userId, tokens)

/-- An invitation that is neither used nor overdue. -/
def IsOpen (i : OrganizerInvitation) : Prop :=
  i.status = .pending ∧ ¬i.expiresAt < readAt inputs

/-- The refresh token is stored, and then the transaction does not commit. -/
def CommitFails (db : AuthDb) : Prop :=
  (inputs "organizerInvitation.findUnique").fault = none ∧ (inputs "commit").fault ≠ none ∧
    ∃ i, invitationOf rt dto db = some i ∧ IsOpen inputs i ∧
      ∃ q, ((prepareAcceptance rt dto client i).answered inputs db).1 = .ok q

end Claim

/-- What is written beside an open transaction. -/
def beside (refreshTokens : Table RefreshToken) (auditLogs : Table AuditLog) (db : AuthDb) : AuthDb :=
  { db with refreshTokens, auditLogs }

/-- The open transaction has an account for the email: one that exists, or one that only it sees. -/
structure HasAccount (email : String) (db : AuthDb) (tx : Pending AuthDb AuthError)
    (userId : String) : Prop where
  ignores : ∀ t l, tx.Ignores (beside t l)
  view : ∃ view u, tx db = .ok view ∧ view.users.get? userId = some u
  account : (∃ u ∈ db.users.rows, u.email = email ∧ u.id = userId) ∨ db.users.has userId = false

section Preparation

variable {α : Type} {rt : Runtime} {dto : AcceptInvitationDto} {client : Client} {db : AuthDb}
  {ok : String → AuthEnv → Prop} {tx : Pending AuthDb AuthError} {userId : String}
  {invitation : OrganizerInvitation}

theorem wp_inTx {name : String} {f : AuthEnv → AuthDb → Except AuthError (AuthDb × α)}
    {post : Except AuthError (Pending AuthDb AuthError × α) → AuthDb → Prop}
    (herror : ∀ x, post (.error x) db)
    (hok : ∀ env view view' a, tx db = .ok view → f env view = .ok (view', a) →
      post (.ok (tx.andThen (f env), a)) db) :
    (inTx name tx f).wp Undisturbed ok post db := by
  refine Call.wp_ask fun db' hdb env _ ↦ ?_
  subst hdb
  cases hview : tx db' with
  | error x => exact herror x
  | ok view =>
    cases hfault : env.fault with
    | some message =>
      simp only [hfault, Option.elim_some]
      exact herror (.fault message)
    | none =>
      simp only [hfault, Option.elim_none]
      change post ((f env view).bind fun q ↦ .ok (tx.andThen (f env), q.2)) db'
      cases hf : f env view with
      | error x => exact herror x
      | ok q => exact hok env view q.1 q.2 hview hf

/-- A statement of the transaction that keeps the accounts. -/
theorem wp_inTx_keeps {email name : String}
    {f : AuthEnv → AuthDb → Except AuthError (AuthDb × α)}
    {post : Except AuthError (Pending AuthDb AuthError × α) → AuthDb → Prop}
    (h : HasAccount email db tx userId) (herror : ∀ x, post (.error x) db)
    (husers : ∀ env view view' a, f env view = .ok (view', a) → view'.users = view.users)
    (hignores : ∀ env t l db, f env (beside t l db) = (f env db).map fun q ↦ (beside t l q.1, q.2))
    (hok : ∀ tx' a, HasAccount email db tx' userId → post (.ok (tx', a)) db) :
    (inTx name tx f).wp Undisturbed ok post db := by
  refine wp_inTx herror fun env view view' a hview hf ↦ hok _ a ?_
  obtain ⟨view₀, u, hview₀, hu⟩ := h.view
  rw [hview] at hview₀
  cases hview₀
  exact ⟨fun t l ↦ (h.ignores t l).andThen (hignores env t l),
    ⟨view', u, Pending.andThen_eq_ok.mpr ⟨view, a, hview, hf⟩, husers env view view' a hf ▸ hu⟩,
    h.account⟩

theorem organizerAccount_prepares {dto : AcceptInvitationDto} {role : Role} :
    (organizerAccount rt .ok invitation dto role).wp Undisturbed ok (fun r db' ↦ db' = db ∧
      ∀ q, r = .ok q → HasAccount invitation.email db q.1 q.2) db := by
  refine Call.wpg_bind (wpg_finds (fun _ ↦ trivial) (fun db' _ h ↦ ⟨h, nofun⟩) fun db' env h _ ↦ ?_)
  subst h
  cases haccount : db'.account invitation.email with
  | some user =>
    obtain ⟨hmem, hp⟩ := Table.find?_mem haccount
    rw [Bool.and_eq_true, beq_iff_eq] at hp
    have hget : db'.users.get? user.id = some user := Table.get?_eq_some.mpr ⟨hmem, rfl⟩
    dsimp only
    split_ifs
    · exact ⟨rfl, nofun⟩
    · refine Call.wpg_bind ?_
      unfold addRole
      split_ifs
      · refine ⟨rfl, fun q hq ↦ ?_⟩
        cases hq
        exact ⟨fun _ _ _ ↦ rfl, ⟨db', user, rfl, hget⟩, .inl ⟨user, hmem, hp.1, rfl⟩⟩
      · refine Call.wpg_bind (wp_inTx (fun _ ↦ ⟨rfl, nofun⟩) fun env view view' a hview hs ↦ ?_)
        refine ⟨rfl, fun q hq ↦ ?_⟩
        cases hq
        cases hview
        obtain ⟨users, husers, hs'⟩ := andThen_eq_ok.mp hs
        cases hs'
        refine ⟨fun t l ↦ Pending.Ignores.andThen (fun _ ↦ rfl) fun db ↦ ?_,
          ⟨_, { user with userRoles := user.userRoles ++ [role.name] },
            Pending.andThen_eq_ok.mpr ⟨db', (), rfl, hs⟩, ?_⟩, .inl ⟨user, hmem, hp.1, rfl⟩⟩
        · dsimp only [beside]
          cases ofRefusal (db.users.update user.id fun u ↦
            { u with userRoles := u.userRoles ++ [role.name] }) <;> rfl
        · rw [Table.get?_update (ofRefusal_eq_ok.mp husers) (fun _ ↦ rfl), if_pos rfl, hget]
          rfl
  | none =>
    cases dto.password.filter (· ≠ "") with
    | none => exact ⟨rfl, nofun⟩
    | some password =>
      refine wp_inTx (fun _ ↦ ⟨rfl, nofun⟩) fun env view view' a hview hs ↦ ⟨rfl, fun q hq ↦ ?_⟩
      cases hq
      cases hview
      obtain ⟨users, husers, hs'⟩ := andThen_eq_ok.mp hs
      obtain ⟨profiles, -, hs'⟩ := andThen_eq_ok.mp hs'
      cases hs'
      refine ⟨fun t l ↦ Pending.Ignores.andThen (fun _ ↦ rfl) fun db ↦ ?_,
        ⟨_, newUser env invitation.email (trimmed rt dto.phone) (rt.bcryptHash env.salt password) .active
          (some env.now) [role.name] db'.users, Pending.andThen_eq_ok.mpr ⟨db', _, rfl, hs⟩, ?_⟩,
        .inr ?_⟩
      · dsimp only [beside]
        simp only [bind, Except.bind, Except.map]
        split
        · rfl
        · split <;> rfl
      · exact (Table.get?_create (ofRefusal_eq_ok.mp husers) _).trans (if_pos rfl)
      · rw [← Bool.not_eq_true, Table.has_iff]
        rintro ⟨r, hr, hid⟩
        have hrefused := Table.create_refused hr (clash_of_id hid)
        rw [ofRefusal_eq_ok.mp husers] at hrefused
        cases hrefused

theorem written_beside {params : CreateOutboxEventParams} {env : AuthEnv} {t : Table RefreshToken}
    {l : Table AuditLog} : OutboxService.written params env (beside t l db) =
      (OutboxService.written params env db).map (beside t l) := by
  dsimp only [OutboxService.written, beside]
  simp only [bind, Except.bind, Except.map]
  split <;> rfl

/-- The statements that mark the invitation keep the accounts of the transaction. -/
theorem markAccepted_prepares {event : Event} {email : String}
    (h : HasAccount email db tx userId) :
    (markAccepted tx invitation event userId).wp Undisturbed ok (fun r db' ↦ db' = db ∧
      ∀ tx', r = .ok tx' → HasAccount email db tx' userId) db := by
  refine Call.wpg_bind (wp_inTx_keeps h (fun _ ↦ ⟨rfl, nofun⟩) (fun env view view' a hs ↦ ?_)
    (fun env t l db ↦ ?_) fun tx₁ _ h₁ ↦ ?_)
  · split_ifs at hs
    · cases hs
      rfl
    · obtain ⟨t, -, hs⟩ := andThen_eq_ok.mp hs
      cases hs
      rfl
  · dsimp only [beside]
    split_ifs
    · rfl
    · simp only [bind, Except.bind, Except.map]
      split <;> rfl
  refine Call.wpg_bind (wp_inTx_keeps h₁ (fun _ ↦ ⟨rfl, nofun⟩) (fun env view view' a hs ↦ ?_)
    (fun env t l db ↦ ?_) fun tx₂ _ h₂ ↦ ?_)
  · obtain ⟨t, -, hs⟩ := andThen_eq_ok.mp hs
    cases hs
    rfl
  · dsimp only [beside]
    simp only [bind, Except.bind, Except.map]
    split <;> rfl
  refine Call.wpg_bind (wp_inTx_keeps h₂ (fun _ ↦ ⟨rfl, nofun⟩) (fun env view view' a hs ↦ ?_)
    (fun env t l db ↦ ?_) fun tx₃ _ h₃ ↦ ?_)
  · obtain ⟨db₁, hwritten, hs⟩ := andThen_eq_ok.mp hs
    obtain ⟨t, -, hwritten⟩ := andThen_eq_ok.mp hwritten
    cases hwritten
    cases hs
    rfl
  · rw [written_beside]
    cases OutboxService.written _ env db <;> rfl
  · refine ⟨rfl, fun tx' htx' ↦ ?_⟩
    cases htx'
    exact h₃

/-- Without the account in the committed tables no token can be stored for it. -/
theorem issueTokens_prepares {email : String} (h : HasAccount email db tx userId)
    (l : Table AuditLog) :
    (issueTokens rt tx userId).wp Undisturbed ok (fun r db' ↦
      (∀ x, r = .error x → db' = beside db.refreshTokens l db) ∧
        ∀ tokens, r = .ok tokens → (∃ u ∈ db.users.rows, u.email = email) ∧
          ∃ t, db' = beside t l db ∧ t ≠ db.refreshTokens) (beside db.refreshTokens l db) := by
  obtain ⟨view, u, hview, hu⟩ := h.view
  have hbeside : tx (beside db.refreshTokens l db) = .ok (beside db.refreshTokens l view) := by
    rw [h.ignores, hview]
    rfl
  refine Call.wpg_bind (wp_inTx (fun _ ↦ ⟨fun _ _ ↦ rfl, nofun⟩) fun env view₁ view' a hview₁ hs ↦ ?_)
  rw [hbeside] at hview₁
  cases hview₁
  cases hs
  have huserId : u.id = userId := (Table.get?_eq_some.mp hu).2
  simp only [beside, hu, Option.map_some]
  refine Call.wpg_bind (wpg_stores (fun _ ↦ trivial) (fun db' _ hdb ↦ ⟨fun _ _ ↦ hdb, nofun⟩)
    (fun db' _ _ hdb _ ↦ ⟨fun _ _ ↦ hdb, nofun⟩) fun db' env db'' a hdb _ hs ↦ ⟨trivial, ?_⟩)
  subst hdb
  split_ifs at hs with hhas
  obtain ⟨t, ht, hs⟩ := andThen_eq_ok.mp hs
  cases hs
  refine ⟨nofun, fun tokens _ ↦ ⟨?_, t, rfl, fun he ↦ ?_⟩⟩
  · rcases h.account with ⟨u', hu', hemail, -⟩ | hnone
    · exact ⟨u', hu', hemail⟩
    · rw [← huserId, Bool.eq_false_iff] at hnone
      exact absurd hhas hnone
  · have hrows := Table.create_eq_ok.mp (ofRefusal_eq_ok.mp ht)
    rw [he] at hrows
    simpa using congrArg List.length hrows

/-- What an acceptance has done before it commits: a refusal leaves audit entries only, and without
one a refresh token is stored and the transaction can be committed. -/
structure Prepares (invitation : OrganizerInvitation) (db : AuthDb)
    (r : Except AuthError (Pending AuthDb AuthError × String × Option AuthTokensDto)) (db' : AuthDb) :
    Prop where
  refused : ∀ x, r = .error x → ∃ l, db' = beside db.refreshTokens l db
  ready : ∀ q, r = .ok q → (∃ u ∈ db.users.rows, u.email = invitation.email) ∧
    ∃ t l db'', db' = beside t l db ∧ t ≠ db.refreshTokens ∧ q.1 db' = .ok db''

theorem Prepares.unchanged {x : AuthError} : Prepares invitation db (.error x) db :=
  ⟨fun _ _ ↦ ⟨db.auditLogs, rfl⟩, nofun⟩

theorem prepareAcceptance_prepares :
    (prepareAcceptance rt dto client invitation).wp Undisturbed ok (Prepares invitation db) db := by
  refine Call.wpg_bind (wpg_finds (fun _ ↦ trivial) (fun db' _ h ↦ ?_) fun db' env h _ ↦ ?_)
  · subst h
    exact .unchanged
  subst h
  cases db'.events.find? fun e ↦ e.id == invitation.eventId && e.deletedAt.isNone with
  | none => exact .unchanged
  | some event =>
  refine Call.wpg_bind (wpg_finds (fun _ ↦ trivial) (fun db' _ h ↦ ?_) fun db' env h _ ↦ ?_)
  · subst h
    exact .unchanged
  subst h
  cases db'.role "ORGANIZER" with
  | none => exact .unchanged
  | some role =>
  refine Call.wpg_bind (Call.wpg_mono organizerAccount_prepares fun r db₁ ⟨hdb₁, hr⟩ ↦ ?_)
  subst hdb₁
  cases r with
  | error x => exact .unchanged
  | ok q =>
    have haccount := hr q rfl
    refine Call.wpg_bind (Call.wpg_mono (markAccepted_prepares haccount) fun r db₁ ⟨hdb₁, hr⟩ ↦ ?_)
    subst hdb₁
    cases r with
    | error x => exact .unchanged
    | ok tx =>
      have haccount := hr tx rfl
      refine Call.wpg_bind (wpg_log (fun _ _ ↦ trivial) fun db₂ l hdb₂ ↦ ?_)
      subst hdb₂
      refine Call.wpg_bind (Call.wpg_mono (issueTokens_prepares haccount l) fun r db₃ ⟨herr, hok⟩ ↦ ?_)
      cases r with
      | error x => exact ⟨fun _ _ ↦ ⟨l, herr x rfl⟩, nofun⟩
      | ok tokens =>
        obtain ⟨hemail, t, rfl, hne⟩ := hok tokens rfl
        refine ⟨nofun, fun q' hq' ↦ ⟨hemail, t, l, ?_⟩⟩
        cases hq'
        obtain ⟨view, u, hview, -⟩ := haccount.view
        refine ⟨beside t l view, rfl, hne, ?_⟩
        dsimp only
        rw [haccount.ignores, hview]
        rfl

end Preparation

section Acceptance

variable {rt : Runtime} {dto : AcceptInvitationDto} {client : Client} {inputs : String → AuthEnv}
  {db db' : AuthDb} {i : OrganizerInvitation}

theorem acceptOpen_eq : acceptOpen rt i dto client =
    (prepareAcceptance rt dto client i).bind fun q ↦ (commitTx q.1).bind fun _ ↦
      .returned (.ok ⟨true, "Organizer invitation accepted successfully", q.2.1, i.eventId,
        q.2.2.map AuthTokensDto.accessToken, q.2.2.map AuthTokensDto.refreshToken⟩) := by
  simp only [acceptOpen, prepareAcceptance, Call.bind_eq, Call.bind_assoc, Call.pure_eq]
  congr 1
  funext event
  cases event with
  | none => rfl
  | some event =>
    simp only [Call.bind_assoc]
    congr 1
    funext role
    cases role with
    | none => rfl
    | some role =>
      simp only [Call.bind_assoc]
      rfl

/-- The rollback undoes the expiry. -/
theorem expireInvitation_answered :
    ∃ x, (expireInvitation i).answered inputs db = (.error x, db) := by
  unfold expireInvitation
  rw [Call.bind_eq, Call.answered_bind]
  have hasked : ((inTx "organizerInvitation.update" .ok fun _ db ↦ do
      let t ← ofRefusal (db.organizerInvitations.update i.id fun i ↦ { i with status := .expired })
      return ({ db with organizerInvitations := t }, ())).answered inputs db).2 = db := rfl
  revert hasked
  generalize (inTx "organizerInvitation.update" .ok _).answered inputs db = q
  rintro rfl
  obtain ⟨r, db⟩ := q
  cases r with
  | error x => exact ⟨x, rfl⟩
  | ok a => exact ⟨_, rfl⟩

/-- An acceptance is refused before it does anything, or the invitation is open. -/
theorem accepted_cases (rt : Runtime) (dto : AcceptInvitationDto) (client : Client)
    (inputs : String → AuthEnv) (db : AuthDb) :
    ((∃ x, accepted rt dto client inputs db = (.error x, db)) ∧
        ¬((inputs "organizerInvitation.findUnique").fault = none ∧
          ∃ i, invitationOf rt dto db = some i ∧ IsOpen inputs i)) ∨
      ∃ i, invitationOf rt dto db = some i ∧ IsOpen inputs i ∧
        (inputs "organizerInvitation.findUnique").fault = none ∧
          accepted rt dto client inputs db = (acceptOpen rt i dto client).answered inputs db := by
  have hread : accepted rt dto client inputs db =
      (Call.bind (finds "organizerInvitation.findUnique" fun env db ↦
        (invitationOf rt dto db, env.now)) fun found ↦
          found.1.elim (throws .badRequest "Invalid or unknown invitation token") fun i ↦
            if i.status = .revoked then throws .badRequest "This invitation has been revoked"
            else if i.status = .accepted then
              throws .badRequest "This invitation has already been accepted"
            else if i.status = .expired ∨ i.expiresAt < found.2 then expireInvitation i
            else acceptOpen rt i dto client).answered inputs db := by
    refine congrArg (Call.answered inputs db) (congrArg (Call.bind _) (funext fun found ↦ ?_))
    obtain ⟨invitation, now⟩ := found
    cases invitation <;> rfl
  rw [hread, Call.answered_bind]
  cases hfault : (inputs "organizerInvitation.findUnique").fault with
  | some message =>
    refine .inl ⟨⟨.fault message, ?_⟩, by simp⟩
    simp only [finds, Call.ask, Call.answered, hfault, Option.elim_some]
  | none =>
    simp only [finds, Call.ask, Call.answered, hfault, Option.elim_none, true_and]
    cases hi : invitationOf rt dto db with
    | none => exact .inl ⟨⟨_, rfl⟩, by simp⟩
    | some i =>
      dsimp only [Option.elim_some]
      by_cases hopen : IsOpen inputs i
      · refine .inr ⟨i, rfl, hopen, ?_⟩
        obtain ⟨hpending, htime⟩ := hopen
        rw [if_neg (by simp [hpending]), if_neg (by simp [hpending]), if_neg]
        rintro (hexpired | hlate)
        · rw [hpending] at hexpired
          cases hexpired
        · exact htime hlate
      · refine .inl ⟨?_, by simpa using hopen⟩
        split_ifs with hrevoked haccepted hexpired
        · exact ⟨_, rfl⟩
        · exact ⟨_, rfl⟩
        · exact expireInvitation_answered
        · refine absurd ⟨?_, fun hlate ↦ hexpired (.inr hlate)⟩ hopen
          cases hstatus : i.status with
          | pending => rfl
          | accepted => exact absurd hstatus haccepted
          | expired => exact absurd (.inl hstatus) hexpired
          | revoked => exact absurd hstatus hrevoked

/-- How an open invitation ends. -/
theorem acceptOpen_answered (rt : Runtime) (dto : AcceptInvitationDto) (client : Client)
    (inputs : String → AuthEnv) (db : AuthDb) (i : OrganizerInvitation) :
    ∃ r db₁, (prepareAcceptance rt dto client i).answered inputs db = (r, db₁) ∧
    Prepares i db r db₁ ∧ match r, (inputs "commit").fault with
      | .ok _, none => ∃ response db₂, (acceptOpen rt i dto client).answered inputs db = (.ok response, db₂)
      | _, _ => ∃ x, (acceptOpen rt i dto client).answered inputs db = (.error x, db₁) := by
  have hwp : (prepareAcceptance rt dto client i).wp Undisturbed (fun _ _ ↦ True) (Prepares i db) db :=
    prepareAcceptance_prepares
  have hprepares : Prepares i db ((prepareAcceptance rt dto client i).answered inputs db).1
      ((prepareAcceptance rt dto client i).answered inputs db).2 :=
    Call.wpg_answered hwp (fun _ ↦ rfl) fun _ ↦ trivial
  rw [acceptOpen_eq, Call.answered_bind]
  generalize (prepareAcceptance rt dto client i).answered inputs db = q at hprepares ⊢
  obtain ⟨r, db₁⟩ := q
  refine ⟨r, db₁, rfl, hprepares, ?_⟩
  cases r with
  | error x => exact ⟨x, rfl⟩
  | ok q =>
    obtain ⟨-, t, l, db₂, -, -, htx⟩ := hprepares.ready q rfl
    dsimp only at htx ⊢
    rw [Call.answered_bind]
    cases hfault : (inputs "commit").fault with
    | some message =>
      refine ⟨.fault message, ?_⟩
      simp only [commitTx, Call.commit, Call.perform, Call.answered, hfault, Option.elim_some]
      rfl
    | none =>
      have hcommitted : (commitTx q.1).answered inputs db₁ = (.ok (), db₂) := by
        simp only [commitTx, Call.commit, Call.perform, Call.answered, hfault, Option.elim_none, htx]
        rfl
      rw [hcommitted]
      exact ⟨_, db₂, rfl⟩

theorem rows_of_overdue (h : Overdue rt dto inputs db)
    (hsame : db'.organizerInvitations = db.organizerInvitations) :
    ¬Restored rt dto inputs db db' := by
  obtain ⟨i, hi, hpending, hlate⟩ := h
  intro hrestored
  obtain ⟨hmem, hhash⟩ := Table.find?_mem hi
  have hrows := hrestored.invitations
  rw [hsame] at hrows
  have hfixed := List.map_inj_left.mp ((List.map_id _).trans hrows) i hmem
  rw [if_pos ⟨by simpa using hhash, hpending, hlate⟩] at hfixed
  have hstatus := congrArg OrganizerInvitation.status hfixed
  rw [id_eq, hpending] at hstatus
  cases hstatus

theorem restored_of_timely (h : ¬Overdue rt dto inputs db) (l : Table AuditLog) :
    Restored rt dto inputs db (beside db.refreshTokens l db) := by
  refine ⟨rfl, rfl, rfl, rfl, rfl, (List.map_id _).symm.trans
    (List.map_inj_left.mpr fun i hi ↦ (if_neg ?_).symm)⟩
  rintro ⟨hhash, hpending, hlate⟩
  cases hfound : invitationOf rt dto db with
  | none => exact absurd hhash (by simpa using Table.find?_eq_none.mp hfound i hi)
  | some j =>
    obtain ⟨hmem, hj⟩ := Table.find?_mem hfound
    rw [beq_iff_eq] at hj
    have hunique : (fun i : OrganizerInvitation ↦ some i.tokenHash) ∈
        (Row.uniques : List (OrganizerInvitation → Option String)) := List.mem_singleton_self _
    obtain rfl := Table.eq_of_unique db.organizerInvitations hunique hi hmem (congrArg some hhash)
      (congrArg some hj)
    exact h ⟨i, hfound, hpending, hlate⟩

/-- An acceptance works and is atomic just when the invitation is not overdue, it is not for a
newcomer, and the transaction commits once the refresh token is stored. -/
theorem works_atomically_iff : WorksAtomically rt dto client inputs db ↔
    ¬Overdue rt dto inputs db ∧ ¬Newcomer rt dto inputs db ∧ ¬CommitFails rt dto client inputs db := by
  unfold WorksAtomically
  rcases accepted_cases rt dto client inputs db with ⟨⟨x, hx⟩, hclosed⟩ | ⟨i, hi, hopen, hanswered, heq⟩
  · -- nothing is written, so an overdue invitation stays pending
    rw [hx]
    constructor
    · rintro ⟨hworks, hrestored⟩
      refine ⟨fun hoverdue ↦ rows_of_overdue hoverdue rfl (hrestored x rfl), fun hnew ↦ ?_, ?_⟩
      · obtain ⟨response, hresponse⟩ := hworks hnew
        cases hresponse
      · rintro ⟨hanswered, -, i, hi, hopen, -⟩
        exact hclosed ⟨hanswered, i, hi, hopen⟩
    · rintro ⟨hoverdue, hnew, -⟩
      exact ⟨fun h ↦ absurd h hnew, fun _ _ ↦ restored_of_timely hoverdue db.auditLogs⟩
  · have htimely : ¬Overdue rt dto inputs db := by
      rintro ⟨j, hj, -, hlate⟩
      rw [hi] at hj
      cases hj
      exact hopen.2 hlate
    rw [heq]
    obtain ⟨r, db₁, hr, hprepares, hend⟩ := acceptOpen_answered rt dto client inputs db i
    have hnone (hnew : Newcomer rt dto inputs db) : ∀ q, r ≠ .ok q := by
      rintro q rfl
      obtain ⟨j, hj, -, -, -, hemail, -⟩ := hnew
      rw [hi] at hj
      cases hj
      obtain ⟨⟨u, hu, hsame⟩, -⟩ := hprepares.ready q rfl
      exact hemail u hu hsame
    cases r with
    | error x =>
      obtain ⟨y, hy⟩ := hend
      rw [hy]
      obtain ⟨l, rfl⟩ := hprepares.refused x rfl
      constructor
      · rintro ⟨hworks, -⟩
        refine ⟨htimely, fun hnew ↦ ?_, ?_⟩
        · obtain ⟨response, hresponse⟩ := hworks hnew
          cases hresponse
        · rintro ⟨-, -, j, hj, -, q, hq⟩
          rw [hi] at hj
          cases hj
          rw [hr] at hq
          cases hq
      · rintro ⟨-, hnew, -⟩
        exact ⟨fun h ↦ absurd h hnew, fun _ _ ↦ restored_of_timely htimely l⟩
    | ok q =>
      have hnew : ¬Newcomer rt dto inputs db := fun hnew ↦ hnone hnew q rfl
      cases hcommit : (inputs "commit").fault with
      | none =>
        rw [hcommit] at hend
        obtain ⟨response, db₂, hresponse⟩ := hend
        rw [hresponse]
        exact iff_of_true ⟨fun h ↦ absurd h hnew, nofun⟩
          ⟨htimely, hnew, fun hfails ↦ hfails.2.1 hcommit⟩
      | some message =>
        rw [hcommit] at hend
        obtain ⟨y, hy⟩ := hend
        rw [hy]
        obtain ⟨-, t, l, -, rfl, hne, -⟩ := hprepares.ready q rfl
        refine iff_of_false (fun h ↦ hne (h.2 y rfl).refreshTokens) fun h ↦ h.2.2 ?_
        exact ⟨hanswered, by simp [hcommit], i, hi, hopen, q, by rw [hr]⟩

end Acceptance

section Sample

def invitationDto : AcceptInvitationDto := ⟨"invitation-token", some "Sunflower7", none, none, none⟩

def newcomerInvitation : OrganizerInvitation where
  id := "invitation-1"
  eventId := "event-1"
  eventOwnerId := "owner-1"
  email := "new@example.com"
  tokenHash := "invitation-token"
  status := .pending
  expiresAt := 604800000
  acceptedAt := none
  revokedAt := none
  acceptedByUserId := none
  createdAt := 0

/-- Somebody without an account is invited to an event. -/
def newcomerDb : AuthDb :=
  { AuthDb.empty with
    roles := .singleton ⟨"role-1", "ORGANIZER", []⟩
    events := .singleton ⟨"event-1", "Expo", "owner-1", none⟩
    organizerInvitations := .singleton newcomerInvitation }

/-- Every statement is answered, and the new account is refused its tokens. -/
theorem newcomer_refused :
    ¬WorksAtomically sampleRuntime invitationDto nobody (sampleEnv 1000) newcomerDb := by
  rintro ⟨hworks, -⟩
  have hrefused : (accepted sampleRuntime invitationDto nobody (sampleEnv 1000)
      newcomerDb).1.toOption.isNone = true := by decide +kernel
  have hnew : Newcomer sampleRuntime invitationDto (sampleEnv 1000) newcomerDb := by
    refine ⟨newcomerInvitation, ?_, rfl, by decide, ⟨⟨"event-1", "Expo", "owner-1", none⟩, ?_, rfl, rfl⟩,
      ?_, ⟨"Sunflower7", rfl, by decide⟩, fun _ ↦ rfl⟩
    · simp [invitationOf, newcomerDb, Table.find?, Table.singleton, newcomerInvitation, sampleRuntime,
        invitationDto, sampleSha256]
    · simp [newcomerDb, Table.singleton]
    · simp [newcomerDb, AuthDb.empty]
  obtain ⟨response, hresponse⟩ := hworks hnew
  rw [hresponse] at hrefused
  cases hrefused

end Sample

end Innovents.Auth
