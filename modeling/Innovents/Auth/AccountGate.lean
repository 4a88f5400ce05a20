import Innovents.Auth.OrganizerInvitationsService
import Innovents.Auth.Writes

namespace Innovents.Auth

open Innovents.Lib Innovents.Payments TokenService AuthService OAuthService
  OrganizerInvitationsService

/-- The calls that issue tokens. -/
inductive GatedCall
  | login (email password : String) (client : Client)
  | rotateRefreshToken (rawRefreshToken : String) (client : Client)
  | handleGoogleCallback (google : Google) (code state : String)
  | acceptInvitation (dto : AcceptInvitationDto) (client : Client)

/-- The access token that a call returns, if any. -/
def GatedCall.issues (rt : Runtime) : GatedCall → AuthCall (Option AccessToken)
  | login email password client => do
    let response ← AuthService.login rt email password client
    return some response.tokens.accessToken
  | rotateRefreshToken rawRefreshToken client => do
    let tokens ← TokenService.rotateRefreshToken rt rawRefreshToken client
    return some tokens.accessToken
  | handleGoogleCallback google code state => do
    let session ← OAuthService.handleGoogleCallback rt google code state
    return some session.tokens.accessToken
  | acceptInvitation dto client => do
    let response ← OrganizerInvitationsService.acceptInvitation rt dto client
    return response.accessToken

/-- Neither an attendee nor an administrator. -/
def NeedsApproval (u : User) : Prop := "ATTENDEE" ∉ u.userRoles ∧ "ADMIN" ∉ u.userRoles

/-- What every path should check. -/
structure Passes (u : User) : Prop where
  live : u.deletedAt = none
  welcome : u.status ≠ .suspended ∧ u.status ≠ .rejected ∧ u.status ≠ .deactivated
  verified : u.emailVerifiedAt ≠ none
  approved : NeedsApproval u → u.status = .active

/-- What has to hold of an account beforehand, as a path does not check it. -/
def Admits (db : AuthDb) (u : User) : GatedCall → Prop
  | .login .. => True
  | .rotateRefreshToken .. => u.emailVerifiedAt ≠ none ∧ (NeedsApproval u → u.status = .active)
  | .handleGoogleCallback .. => (∃ a ∈ db.oauthAccounts.rows, a.userId = u.id) →
    u.deletedAt = none ∧ (u.status ≠ .pending → u.emailVerifiedAt ≠ none)
  | .acceptInvitation .. => u.status ≠ .rejected ∧ u.emailVerifiedAt ≠ none ∧
    (NeedsApproval u → u.status = .active)

section Accounts

variable {α : Type} {rt : Runtime} {db db' : AuthDb} {u u' : User} {ok : AuthEnv → Prop}

/-- What the gates look at is unchanged; a role may have been added. -/
structure SameStanding (u u' : User) : Prop where
  deletedAt : u'.deletedAt = u.deletedAt
  status : u'.status = u.status
  emailVerifiedAt : u'.emailVerifiedAt = u.emailVerifiedAt
  needsApproval : NeedsApproval u' ↔ NeedsApproval u

theorem SameStanding.refl (u : User) : SameStanding u u := ⟨rfl, rfl, rfl, Iff.rfl⟩

theorem SameStanding.passes (h : SameStanding u u') : Passes u' ↔ Passes u := by
  constructor
  · rintro ⟨hlive, hwelcome, hverified, happroved⟩
    rw [h.deletedAt] at hlive
    rw [h.status] at hwelcome happroved
    rw [h.emailVerifiedAt] at hverified
    exact ⟨hlive, hwelcome, hverified, fun hu ↦ happroved (h.needsApproval.mpr hu)⟩
  · rintro ⟨hlive, hwelcome, hverified, happroved⟩
    refine ⟨h.deletedAt.trans hlive, ?_, ?_, fun hu ↦ ?_⟩
    · rw [h.status]
      exact hwelcome
    · rw [h.emailVerifiedAt]
      exact hverified
    · exact h.status.trans (happroved (h.needsApproval.mp hu))

theorem get?_updateUser {id : String} {f : User → User} {t : Table User}
    (hu : db.users.get? id = some u) (h : ofRefusal (db.users.update id f) = .ok t)
    (hf : ∀ u, (f u).id = u.id) : t.get? id = some (f u) := by
  rw [Table.get?_update (ofRefusal_eq_ok.mp h) hf, if_pos rfl, hu]
  rfl

theorem returns_updateUser {id : String} {f : AuthEnv → User → User} {P : Unit → AuthDb → Prop}
    (hf : ∀ env u, (f env u).id = u.id) (hu : db.users.get? id = some u)
    (h : ∀ env t, t.get? id = some (f env u) → P () { db with users := t }) :
    (updateUser id f).Returns ok db P := by
  refine returns_stores fun env db' a _ hs ↦ ?_
  obtain ⟨t, ht, hs⟩ := andThen_eq_ok.mp hs
  cases hs
  exact h env t (get?_updateUser hu ht (hf env))

theorem returns_generateTokens {userId email : String} {roles permissions : List String}
    {familyId : Option String} {P : AuthTokensDto → AuthDb → Prop}
    (h : ∀ issued t, issued.accessToken.payload.sub = userId → db.users.has userId = true →
      P issued { db with refreshTokens := t }) :
    (generateTokens rt userId email roles permissions familyId).Returns ok db P := by
  refine returns_stores fun env db' a _ hs ↦ ?_
  split_ifs at hs with hhas
  obtain ⟨t, -, hs⟩ := andThen_eq_ok.mp hs
  cases hs
  exact h _ t rfl hhas

end Accounts

section Login

variable {rt : Runtime} {db : AuthDb} {ok : AuthEnv → Prop}

/-- A login goes through the whole gate. -/
theorem login_gated {email password : String} {client : Client} :
    (login rt email password client).Returns ok db fun response db' ↦
      ∃ u, db'.users.get? response.tokens.accessToken.payload.sub = some u ∧ Passes u := by
  refine Call.returns_bind (returns_finds fun env _ ↦ ?_)
  cases haccount : db.account (rt.normalize email) with
  | none => exact Call.returns_bind (returns_log fun _ ↦ Call.returns_error)
  | some u =>
    obtain ⟨hu, hp⟩ := Table.find?_mem haccount
    simp only [Bool.and_eq_true, beq_iff_eq, Option.isNone_iff_eq_none] at hp
    dsimp only [Option.map_some]
    split_ifs
    · exact Call.returns_bind (returns_log fun _ ↦ Call.returns_error)
    · cases hrefusal : loginRefusal u with
      | some refusal => exact Call.returns_error
      | none =>
        refine Call.returns_bind (returns_updateUser (fun _ _ ↦ rfl)
          (Table.get?_eq_some.mpr ⟨hu, rfl⟩) fun env t ht ↦ ?_)
        refine Call.returns_bind (returns_generateTokens fun issued _ hsub _ ↦ ?_)
        refine Call.returns_bind (returns_log fun _ ↦ Call.returns_ok ⟨_, hsub ▸ ht, ?_⟩)
        unfold loginRefusal at hrefusal
        split_ifs at hrefusal with hdeactivated hsuspended hrejected hunverified hpending
        refine ⟨hp.2, ⟨hsuspended, hrejected, hdeactivated⟩, hunverified, fun hneeds ↦ ?_⟩
        have hnotPending : u.status ≠ .pending := fun hs ↦ hpending ⟨hneeds.1, hneeds.2, hs⟩
        show u.status = .active
        cases hstatus : u.status <;> simp_all

end Login

section Rotation

variable {rt : Runtime} {db : AuthDb} {ok : AuthEnv → Prop}

/-- A rotation only asks whether the account is barred. -/
theorem rotateRefreshToken_gated {rawRefreshToken : String} {client : Client} :
    (rotateRefreshToken rt rawRefreshToken client).Returns ok db fun issued db' ↦
      ∃ u, db.users.get? issued.accessToken.payload.sub = some u ∧ isBarred u = false ∧
        db'.users = db.users := by
  have hreuse {stored : RefreshToken} {metadata : List (String × JsValue)} {db₁ : AuthDb}
      {P : AuthTokensDto → AuthDb → Prop} :
      (detectReuse stored metadata client).Returns ok db₁ P :=
    Call.returns_bind (returns_stores fun _ _ _ _ _ ↦
      Call.returns_bind (returns_log fun _ ↦ Call.returns_error))
  refine Call.returns_bind (returns_finds fun env _ ↦ ?_)
  cases hstored : db.refreshTokens.find? (·.tokenHash == rt.sha256 rawRefreshToken) with
  | none => exact Call.returns_error
  | some stored =>
    simp only [Option.bind_eq_bind, Option.bind_some, Option.pure_def]
    cases hu : db.users.get? stored.userId with
    | none => exact Call.returns_error
    | some u =>
      dsimp only [Option.bind_some]
      split_ifs with hrevoked hexpired hbarred
      · exact hreuse
      · exact Call.returns_bind (returns_stores fun _ _ _ _ _ ↦ Call.returns_error)
      · exact Call.returns_bind (returns_stores fun _ _ _ _ _ ↦ Call.returns_error)
      · refine Call.returns_bind (returns_stores fun env db' a _ hs ↦ ?_)
        obtain ⟨⟨db₁, createdToken⟩, hrotated, hs⟩ := andThen_eq_ok.mp hs
        cases hs
        have husers : db'.users = db.users := by
          obtain ⟨claimed, -, hrotated⟩ := andThen_eq_ok.mp hrotated
          split_ifs at hrotated
          · cases hrotated
            rfl
          · obtain ⟨created, -, hrotated⟩ := andThen_eq_ok.mp hrotated
            obtain ⟨linked, -, hrotated⟩ := andThen_eq_ok.mp hrotated
            cases hrotated
            rfl
        cases createdToken with
        | none => exact hreuse
        | some createdToken =>
          refine Call.returns_bind (returns_log fun _ ↦ Call.returns_ok ?_)
          exact ⟨u, hu, by simpa using hbarred, husers⟩

end Rotation

section Google

variable {rt : Runtime} {profile : GoogleProfile} {db : AuthDb} {u u' : User} {ok : AuthEnv → Prop}

/-- What a sign-in makes of an account. -/
structure SignedIn (u u' : User) : Prop where
  deletedAt : u'.deletedAt = u.deletedAt
  userRoles : u'.userRoles = u.userRoles
  pending : u.status = .pending → u'.status = .active ∧ u'.emailVerifiedAt ≠ none
  other : u.status ≠ .pending → u'.status = u.status ∧ u'.emailVerifiedAt = u.emailVerifiedAt

theorem SignedIn.passes (h : SignedIn u u') (hrefusal : signInRefusal u = none) :
    Passes u' ↔ u.deletedAt = none ∧ (u.status ≠ .pending → u.emailVerifiedAt ≠ none) := by
  unfold signInRefusal at hrefusal
  split_ifs at hrefusal with hattendee hsuspended hrejected hdeactivated
  have hneeds : ¬NeedsApproval u' := fun hn ↦ hn.1 (h.userRoles ▸ hattendee)
  by_cases hpending : u.status = .pending
  · obtain ⟨hactive, hverified⟩ := h.pending hpending
    constructor
    · rintro ⟨hlive, -, -, -⟩
      exact ⟨h.deletedAt.symm.trans hlive, fun hne ↦ absurd hpending hne⟩
    · rintro ⟨hlive, -⟩
      refine ⟨h.deletedAt.trans hlive, ?_, hverified, fun _ ↦ hactive⟩
      rw [hactive]
      exact ⟨nofun, nofun, nofun⟩
  · obtain ⟨hstatus, hverified⟩ := h.other hpending
    constructor
    · rintro ⟨hlive, -, hv, -⟩
      rw [hverified] at hv
      exact ⟨h.deletedAt.symm.trans hlive, fun _ ↦ hv⟩
    · rintro ⟨hlive, hv⟩
      refine ⟨h.deletedAt.trans hlive, ?_, ?_, fun hn ↦ absurd hn hneeds⟩
      · rw [hstatus]
        exact ⟨hsuspended, hrejected, hdeactivated⟩
      · rw [hverified]
        exact hv hpending

theorem returns_updateAndRead {id : String} {f : AuthEnv → User → User}
    {P : User × List String → AuthDb → Prop} (hf : ∀ env u, (f env u).id = u.id)
    (hu : db.users.get? id = some u)
    (h : ∀ env t permissions, t.get? id = some (f env u) →
      P (f env u, permissions) { db with users := t }) :
    (updateAndRead id f).Returns ok db P := by
  refine returns_stores fun env db' a _ hs ↦ ?_
  obtain ⟨t, ht, hs⟩ := andThen_eq_ok.mp hs
  have hget := get?_updateUser hu ht (hf env)
  rw [hget] at hs
  cases hs
  exact h env t _ hget

theorem completeSignIn_signedIn {permissions : List String} {sub email : String}
    (hu : db.users.get? u.id = some u) :
    (completeSignIn rt (u, permissions) sub email).Returns ok db fun session db' ↦
      session.tokens.accessToken.payload.sub = u.id ∧ signInRefusal u = none ∧
        ∃ u', db'.users.get? u.id = some u' ∧ SignedIn u u' := by
  unfold completeSignIn
  cases hrefusal : signInRefusal u with
  | some message => exact Call.returns_error
  | none =>
    have hactivated : (activatePending (u, permissions)).Returns ok db fun found db' ↦
        found.1.id = u.id ∧ db'.users.get? u.id = some found.1 ∧ SignedIn u found.1 := by
      unfold activatePending
      split_ifs with hpending
      · refine returns_updateAndRead (fun _ _ ↦ rfl) hu fun env t permissions ht ↦ ⟨rfl, ht, ?_⟩
        exact ⟨rfl, rfl, fun _ ↦ ⟨rfl, Option.some_ne_none _⟩, fun hne ↦ absurd hpending hne⟩
      · exact Call.returns_ok ⟨rfl, hu, rfl, rfl, fun hp ↦ absurd hp hpending, fun _ ↦ ⟨rfl, rfl⟩⟩
    refine Call.returns_bind (hactivated.mono fun found db₁ hfound ↦ ?_)
    obtain ⟨v, permissions⟩ := found
    obtain ⟨hid, hv, hsigned⟩ := hfound
    dsimp only at hid hv hsigned ⊢
    rw [← hid] at hv ⊢
    refine Call.returns_bind (returns_updateUser (fun _ _ ↦ rfl) hv fun env₁ t ht ↦ ?_)
    refine Call.returns_bind (returns_stores fun env db' a _ hs ↦ ?_)
    have husers : db'.users = t := by
      split at hs
      · cases hs
      · obtain ⟨oauthAccounts, -, hs⟩ := andThen_eq_ok.mp hs
        cases hs
        rfl
    refine Call.returns_bind (returns_generateTokens fun issued _ hsub _ ↦ Call.returns_ok ?_)
    refine ⟨hsub, rfl, { v with lastLoginAt := some env₁.now }, ?_, hsigned.deletedAt,
      hsigned.userRoles, hsigned.pending, hsigned.other⟩
    rw [husers]
    exact ht

/-- An account that is linked now was not linked before, and is verified now. -/
theorem linkExisting_links {sub email : String} :
    (linkExisting sub email).Returns ok db fun found db' ↦
      match found with
      | none => db' = db
      | some (v, _) => (∀ a ∈ db.oauthAccounts.rows, a.userId ≠ v.id) ∧
        db'.users.get? v.id = some v ∧ v.deletedAt = none ∧ v.emailVerifiedAt ≠ none := by
  refine Call.returns_bind (returns_finds fun env _ ↦ ?_)
  cases haccount : db.account email with
  | none => exact Call.returns_ok rfl
  | some u =>
    obtain ⟨hu, hp⟩ := Table.find?_mem haccount
    simp only [Bool.and_eq_true, beq_iff_eq, Option.isNone_iff_eq_none] at hp
    dsimp only [Option.map_some]
    split_ifs
    · refine Call.returns_bind (returns_stores fun env db₁ a _ hs ↦ ?_)
      obtain ⟨t, ht, hs⟩ := andThen_eq_ok.mp hs
      cases hs
      have hunlinked : ∀ a ∈ db.oauthAccounts.rows, a.userId ≠ u.id := by
        intro a ha heq
        have ht := ofRefusal_eq_ok.mp ht
        rw [Table.create_refused ha] at ht
        · cases ht
        · exact clash_of_unique (u := fun a ↦ some a.userId) (k := u.id)
            (List.mem_cons_of_mem _ (List.mem_singleton_self _)) (congrArg some heq) rfl
      refine Call.returns_bind (returns_updateAndRead (u := u) (fun _ _ ↦ rfl)
        (Table.get?_eq_some.mpr ⟨hu, rfl⟩) fun env t permissions ht ↦ Call.returns_ok ?_)
      exact ⟨hunlinked, ht, hp.2, Option.some_ne_none _⟩
    · exact Call.returns_error

theorem createAttendee_new {email : String} :
    (createAttendee rt profile email).Returns ok db fun found db' ↦
      db.users.get? found.1.id = none ∧ db'.users.get? found.1.id = some found.1 ∧
        found.1.deletedAt = none ∧ found.1.emailVerifiedAt ≠ none := by
  refine Call.returns_bind (returns_finds fun env _ ↦ ?_)
  cases db.role "ATTENDEE" with
  | none => exact Call.returns_error
  | some role =>
    refine returns_stores fun env db' a _ hs ↦ ?_
    obtain ⟨users, husers, hs⟩ := andThen_eq_ok.mp hs
    obtain ⟨profiles, -, hs⟩ := andThen_eq_ok.mp hs
    obtain ⟨oauthAccounts, -, hs⟩ := andThen_eq_ok.mp hs
    cases hs
    have husers := ofRefusal_eq_ok.mp husers
    refine ⟨Option.eq_none_iff_forall_ne_some.mpr fun v hv ↦ ?_, ?_, rfl, Option.some_ne_none _⟩
    · exact (Table.get?_create_taken hv husers).1 rfl
    · exact (Table.get?_create husers _).trans (if_pos rfl)

/-- The account passes afterwards just when the path admits it. -/
def GatedAs (call : GatedCall) (db : AuthDb) (id : String) (db' : AuthDb) : Prop :=
  (∃ u, db'.users.get? id = some u ∧ Passes u) ↔ ∀ u, db.users.get? id = some u → Admits db u call

theorem completeSignIn_passes {call : GatedCall} {db₀ : AuthDb} {permissions : List String}
    {sub email : String} (hu : db.users.get? u.id = some u)
    (hadmits : (u.deletedAt = none ∧ (u.status ≠ .pending → u.emailVerifiedAt ≠ none)) ↔
      ∀ v, db₀.users.get? u.id = some v → Admits db₀ v call) :
    (completeSignIn rt (u, permissions) sub email).Returns ok db fun session db' ↦
      GatedAs call db₀ session.tokens.accessToken.payload.sub db' := by
  refine (completeSignIn_signedIn hu).mono fun session db' ⟨hsub, hrefusal, u', hu', hsigned⟩ ↦ ?_
  rw [GatedAs, hsub, ← hadmits, ← hsigned.passes hrefusal, hu']
  simp

/-- Only an account that was linked before escapes the check of its email. -/
theorem signIn_gated {google : Google} {code state : String} :
    (signIn rt profile).Returns ok db fun session db' ↦
      GatedAs (.handleGoogleCallback google code state) db
        session.tokens.accessToken.payload.sub db' := by
  refine Call.returns_bind (returns_finds fun env _ ↦ ?_)
  split
  · next user hfound =>
    obtain ⟨a, ha, hfound⟩ := Option.bind_eq_some_iff.mp hfound
    obtain ⟨u, hu, hfound⟩ := Option.bind_eq_some_iff.mp hfound
    cases hfound
    obtain ⟨-, hid⟩ := Table.get?_eq_some.mp hu
    have hlinked : ∃ a ∈ db.oauthAccounts.rows, a.userId = u.id :=
      ⟨a, (Table.find?_mem ha).1, hid.symm⟩
    have hget : db.users.get? u.id = some u := (congrArg db.users.get? hid).trans hu
    refine completeSignIn_passes hget ⟨fun h v hv _ ↦ ?_, fun h ↦ h u hget hlinked⟩
    rw [hget] at hv
    cases hv
    exact h
  · refine Call.returns_bind (linkExisting_links.mono fun found db₁ hfound ↦ ?_)
    match found with
    | some (v, permissions) =>
      obtain ⟨hunlinked, hv, hlive, hverified⟩ := hfound
      refine completeSignIn_passes hv (iff_of_true ⟨hlive, fun _ ↦ hverified⟩ fun w hw hlinked ↦ ?_)
      obtain ⟨a, ha, hid⟩ := hlinked
      exact absurd (hid.trans (Table.get?_eq_some.mp hw).2) (hunlinked a ha)
    | none =>
      subst hfound
      refine Call.returns_bind (createAttendee_new.mono fun found db₁ hfound ↦ ?_)
      obtain ⟨hnew, hv, hlive, hverified⟩ := hfound
      refine completeSignIn_passes hv (iff_of_true ⟨hlive, fun _ ↦ hverified⟩ fun w hw ↦ ?_)
      rw [hnew] at hw
      cases hw

end Google

section Invitation

variable {rt : Runtime} {db : AuthDb} {u : User} {ok : AuthEnv → Prop} {userId : String}
  {tx : Pending AuthDb AuthError} {invitation : OrganizerInvitation}

/-- What a transaction leaves of an account. -/
def KeepsStanding (userId : String) (db db' : AuthDb) : Prop :=
  ∀ u, db.users.get? userId = some u → ∃ u', db'.users.get? userId = some u' ∧ SameStanding u u'

theorem SameStanding.trans {u u' u'' : User} (h : SameStanding u u') (h' : SameStanding u' u'') :
    SameStanding u u'' :=
  ⟨h'.deletedAt.trans h.deletedAt, h'.status.trans h.status,
    h'.emailVerifiedAt.trans h.emailVerifiedAt, h'.needsApproval.trans h.needsApproval⟩

theorem KeepsStanding.trans {db db' db'' : AuthDb} (h : KeepsStanding userId db db')
    (h' : KeepsStanding userId db' db'') : KeepsStanding userId db db'' := by
  intro u hu
  obtain ⟨u', hu', hs⟩ := h u hu
  obtain ⟨u'', hu'', hs'⟩ := h' u' hu'
  exact ⟨u'', hu'', hs.trans hs'⟩

theorem KeepsStanding.of_users {db db' : AuthDb} (h : db'.users = db.users) :
    KeepsStanding userId db db' := fun u hu ↦ ⟨u, h ▸ hu, .refl u⟩

theorem returns_inTx {α : Type} {name : String} {f : AuthEnv → AuthDb → Except AuthError (AuthDb × α)}
    {P : Pending AuthDb AuthError × α → AuthDb → Prop}
    (h : ∀ g view view' a, (∀ db db' b, g db = .ok (db', b) → ∃ env, f env db = .ok (db', b)) →
      tx db = .ok view → g view = .ok (view', a) → P (tx.andThen g, a) db) :
    (inTx name tx f).Returns ok db P := by
  refine Call.returns_within fun env view view' a _ hview ha ↦ h _ view view' a ?_ hview ha
  intro db db' b hb
  cases hfault : env.fault with
  | some message => simp [hfault] at hb
  | none =>
    rw [hfault] at hb
    exact ⟨env, hb⟩

/-- A statement that changes no account. -/
theorem returns_inTx_users {α : Type} {name : String}
    {f : AuthEnv → AuthDb → Except AuthError (AuthDb × α)}
    {P : Pending AuthDb AuthError × α → AuthDb → Prop} (htx : tx.Changes (KeepsStanding userId))
    (hf : ∀ env db db' a, f env db = .ok (db', a) → db'.users = db.users)
    (h : ∀ tx' a, Pending.Changes (KeepsStanding userId) tx' → P (tx', a) db) :
    (inTx name tx f).Returns ok db P := by
  refine returns_inTx fun g view view' a hg _ _ ↦ h _ a (htx.andThen (fun _ _ _ ↦ .trans) ?_)
  intro db db' a ha
  obtain ⟨env, ha⟩ := hg db db' a ha
  exact .of_users (hf env db db' a ha)

theorem addRole_keeps {role : Role} (hrole : role.name = "ORGANIZER") :
    (addRole .ok u role).Returns ok db fun tx db' ↦ db' = db ∧ tx.Changes (KeepsStanding u.id) := by
  have hok : Pending.Changes (KeepsStanding u.id) (.ok : Pending AuthDb AuthError) := by
    intro db db' h
    cases h
    exact .of_users rfl
  unfold addRole
  split_ifs
  · exact Call.returns_ok ⟨rfl, hok⟩
  · refine Call.returns_bind (returns_inTx fun g view view' a hg _ _ ↦ Call.returns_ok ⟨rfl, ?_⟩)
    refine hok.andThen (fun _ _ _ ↦ .trans) fun db db' a ha v hv ↦ ?_
    obtain ⟨env, ha⟩ := hg db db' a ha
    obtain ⟨t, ht, ha⟩ := andThen_eq_ok.mp ha
    cases ha
    have hget := get?_updateUser hv ht fun _ ↦ rfl
    refine ⟨_, hget, rfl, rfl, rfl, ?_⟩
    simp [NeedsApproval, hrole]

theorem createOrganizer_keeps {email password : String} {dto : AcceptInvitationDto} {role : Role} :
    (createOrganizer rt .ok email password dto role).Returns ok db fun made db' ↦
      db' = db ∧ made.1.Changes (KeepsStanding made.2) ∧ db.users.get? made.2 = none := by
  refine returns_inTx fun g view view' a hg hview ha ↦ ⟨rfl, fun s s' hs v hv ↦ ?_, ?_⟩
  · obtain ⟨view, b, hview, hb⟩ := Pending.andThen_eq_ok.mp hs
    cases hview
    obtain ⟨env, hb⟩ := hg _ _ b hb
    obtain ⟨users, husers, hb⟩ := andThen_eq_ok.mp hb
    obtain ⟨profiles, -, hb⟩ := andThen_eq_ok.mp hb
    cases hb
    exact ⟨v, (Table.get?_create_taken hv (ofRefusal_eq_ok.mp husers)).2, .refl v⟩
  · cases hview
    obtain ⟨env, ha⟩ := hg _ _ a ha
    obtain ⟨users, husers, ha⟩ := andThen_eq_ok.mp ha
    obtain ⟨profiles, -, ha⟩ := andThen_eq_ok.mp ha
    cases ha
    exact Option.eq_none_iff_forall_ne_some.mpr fun v hv ↦
      (Table.get?_create_taken hv (ofRefusal_eq_ok.mp husers)).1 rfl

/-- What an invitation asks of an account. -/
def Invites (u : User) : Prop := u.deletedAt = none ∧ u.status ≠ .deactivated ∧ u.status ≠ .suspended

theorem organizerAccount_keeps {dto : AcceptInvitationDto} {role : Role}
    (hrole : role.name = "ORGANIZER") :
    (organizerAccount rt .ok invitation dto role).Returns ok db fun made db' ↦
      db' = db ∧ made.1.Changes (KeepsStanding made.2) ∧
        ∀ u, db.users.get? made.2 = some u → Invites u := by
  refine Call.returns_bind (returns_finds fun env _ ↦ ?_)
  cases haccount : db.account invitation.email with
  | some u =>
    obtain ⟨hu, hp⟩ := Table.find?_mem haccount
    simp only [Bool.and_eq_true, beq_iff_eq, Option.isNone_iff_eq_none] at hp
    dsimp only
    split_ifs with hbarred
    · exact Call.returns_error
    · refine Call.returns_bind ((addRole_keeps hrole).mono fun tx db' h ↦ Call.returns_ok ?_)
      refine ⟨h.1, h.2, fun v hv ↦ ?_⟩
      have hget : db.users.get? u.id = some u := Table.get?_eq_some.mpr ⟨hu, rfl⟩
      cases hget.symm.trans hv
      exact ⟨hp.2, not_or.mp hbarred⟩
  | none =>
    cases dto.password.filter (· ≠ "") with
    | none => exact Call.returns_error
    | some password =>
      refine createOrganizer_keeps.mono fun made db' ⟨hdb, hkeeps, hnew⟩ ↦ ⟨hdb, hkeeps, fun v hv ↦ ?_⟩
      rw [hnew] at hv
      cases hv

theorem markAccepted_keeps {event : Event} (htx : tx.Changes (KeepsStanding userId)) :
    (markAccepted tx invitation event userId).Returns ok db fun tx' db' ↦
      db' = db ∧ tx'.Changes (KeepsStanding userId) := by
  refine Call.returns_bind (returns_inTx_users htx (fun env db db' a h ↦ ?_) fun tx₁ _ h₁ ↦ ?_)
  · split_ifs at h
    · cases h
      rfl
    · obtain ⟨t, -, h⟩ := andThen_eq_ok.mp h
      cases h
      rfl
  · refine Call.returns_bind (returns_inTx_users h₁ (fun env db db' a h ↦ ?_) fun tx₂ _ h₂ ↦ ?_)
    · obtain ⟨t, -, h⟩ := andThen_eq_ok.mp h
      cases h
      rfl
    · refine Call.returns_bind (returns_inTx_users h₂ (fun env db db' a h ↦ ?_) fun tx₃ _ h₃ ↦
        Call.returns_ok ⟨rfl, h₃⟩)
      obtain ⟨db₁, hwritten, h⟩ := andThen_eq_ok.mp h
      obtain ⟨t, -, hwritten⟩ := andThen_eq_ok.mp hwritten
      cases hwritten
      cases h
      rfl

/-- Tokens are issued for an account that is there before the transaction commits. -/
theorem issueTokens_account :
    (issueTokens rt tx userId).Returns ok db fun tokens db' ↦ db'.users = db.users ∧
      ∀ issued, tokens = some issued →
        issued.accessToken.payload.sub = userId ∧ ∃ u, db.users.get? userId = some u := by
  refine Call.returns_bind (returns_inTx fun g view view' a hg _ ha ↦ ?_)
  obtain ⟨env, ha⟩ := hg _ _ a ha
  cases ha
  cases hu : view.users.get? userId with
  | none => exact Call.returns_ok ⟨rfl, nofun⟩
  | some u =>
    obtain ⟨-, hid⟩ := Table.get?_eq_some.mp hu
    have hid : u.id = userId := hid
    dsimp only [Option.map_some]
    refine Call.returns_bind (returns_generateTokens fun issued t hsub hhas ↦ Call.returns_ok ?_)
    refine ⟨rfl, fun issued' h ↦ ?_⟩
    cases h
    rw [hid] at hsub hhas
    exact ⟨hsub, Option.isSome_iff_exists.mp hhas⟩

theorem acceptInvitation_gated {dto : AcceptInvitationDto} {client : Client} :
    (acceptInvitation rt dto client).Returns ok db fun response db' ↦
      ∀ token, response.accessToken = some token → ∃ u u',
        db.users.get? token.payload.sub = some u ∧ Invites u ∧
          db'.users.get? token.payload.sub = some u' ∧ SameStanding u u' := by
  refine Call.returns_bind (returns_finds fun env _ ↦ ?_)
  cases db.organizerInvitations.find? (·.tokenHash == rt.sha256 (rt.trim dto.token)) with
  | none => exact Call.returns_error
  | some invitation =>
    dsimp only
    split_ifs
    · exact Call.returns_error
    · exact Call.returns_error
    · exact Call.returns_bind (returns_inTx fun _ _ _ _ _ _ _ ↦ Call.returns_error)
    · refine Call.returns_bind (returns_finds fun env _ ↦ ?_)
      cases db.events.find? fun e ↦ e.id == invitation.eventId && e.deletedAt.isNone with
      | none => exact Call.returns_error
      | some event =>
        refine Call.returns_bind (returns_finds fun env _ ↦ ?_)
        cases hrole : db.role "ORGANIZER" with
        | none => exact Call.returns_error
        | some role =>
          have hname : role.name = "ORGANIZER" := by simpa using (Table.find?_mem hrole).2
          refine Call.returns_bind ((organizerAccount_keeps hname).mono fun made db₁ hmade ↦ ?_)
          obtain ⟨tx, userId⟩ := made
          obtain ⟨rfl, htx, hinvites⟩ := hmade
          refine Call.returns_bind ((markAccepted_keeps htx).mono fun tx' db₂ hmarked ↦ ?_)
          obtain ⟨rfl, htx'⟩ := hmarked
          refine Call.returns_bind (returns_log fun logs ↦ ?_)
          refine Call.returns_bind (issueTokens_account.mono fun tokens db₃ hissued ↦ ?_)
          obtain ⟨husers, hissued⟩ := hissued
          refine Call.returns_bind (Call.returns_commit fun db₄ hcommit ↦ Call.returns_ok ?_)
          intro token htoken
          obtain ⟨issued, rfl, rfl⟩ := Option.map_eq_some_iff.mp htoken
          obtain ⟨hsub, u, hu⟩ := hissued issued rfl
          obtain ⟨u', hu', hstanding⟩ := htx' _ _ hcommit u (husers ▸ hu)
          rw [hsub]
          exact ⟨u, u', hu, hinvites u hu, hu', hstanding⟩

end Invitation

section Gate

variable {rt : Runtime} {db db' : AuthDb} {token : AccessToken} {call : GatedCall}

theorem rotated_iff {u : User} (hbarred : isBarred u = false) :
    Passes u ↔ u.emailVerifiedAt ≠ none ∧ (NeedsApproval u → u.status = .active) := by
  simp only [isBarred, Bool.or_eq_false_iff, beq_eq_false_iff_ne, Option.isSome_eq_false_iff,
    Option.isNone_iff_eq_none] at hbarred
  obtain ⟨⟨⟨hlive, hdeactivated⟩, hsuspended⟩, hrejected⟩ := hbarred
  exact ⟨fun h ↦ ⟨h.verified, h.approved⟩, fun h ↦
    ⟨hlive, ⟨hsuspended, hrejected, hdeactivated⟩, h.1, h.2⟩⟩

theorem invited_iff {u : User} (hinvites : Invites u) :
    Passes u ↔ u.status ≠ .rejected ∧ u.emailVerifiedAt ≠ none ∧
      (NeedsApproval u → u.status = .active) :=
  ⟨fun h ↦ ⟨h.welcome.2.1, h.verified, h.approved⟩, fun h ↦
    ⟨hinvites.1, ⟨hinvites.2.2, h.1, hinvites.2.1⟩, h.2.1, h.2.2⟩⟩

/-- A path that leaves the standing of an account as it was. -/
theorem gatedAs_of_standing {u u' : User} {id : String} (hu : db.users.get? id = some u)
    (hu' : db'.users.get? id = some u') (hs : SameStanding u u') (hiff : Passes u ↔ Admits db u call) :
    GatedAs call db id db' := by
  simp only [GatedAs, hu, hu', Option.some.injEq, exists_eq_left', forall_eq']
  exact hs.passes.trans hiff

/-- A call that issues an access token leaves an account that passes the gate just when the account
met beforehand what the path does not check. -/
theorem account_gate (h : Call.Ran (fun _ ↦ True) (call.issues rt) db (.ok (some token)) db') :
    (∃ u, db'.users.get? token.payload.sub = some u ∧ Passes u) ↔
      ∀ u, db.users.get? token.payload.sub = some u → Admits db u call := by
  suffices hreturns : (call.issues rt).Returns (fun _ ↦ True) db fun issued db' ↦
      ∀ token, issued = some token → GatedAs call db token.payload.sub db' from
    hreturns _ db' h token rfl
  cases call with
  | login email password client =>
    refine Call.returns_bind (login_gated.mono fun response db' hpasses ↦ Call.returns_ok ?_)
    rintro token ⟨⟩
    exact iff_of_true hpasses fun _ _ ↦ trivial
  | rotateRefreshToken rawRefreshToken client =>
    refine Call.returns_bind (rotateRefreshToken_gated.mono fun issued db' ⟨u, hu, hbarred, husers⟩ ↦
      Call.returns_ok ?_)
    rintro token ⟨⟩
    exact gatedAs_of_standing hu (husers ▸ hu) (.refl u) (rotated_iff hbarred)
  | handleGoogleCallback google code state =>
    refine Call.returns_bind (fun session db' hr ↦ Call.returns_ok ?_)
    rintro token ⟨⟩
    rcases handleGoogleCallback_ran hr with ⟨-, x, hx⟩ | ⟨profile, db₁, -, ⟨husers, hoauth⟩, hr⟩
    · cases hx
    · have hgated : GatedAs (.handleGoogleCallback google code state) db₁
          session.tokens.accessToken.payload.sub db' := signIn_gated session db' hr
      simpa only [GatedAs, Admits, husers, hoauth] using hgated
  | acceptInvitation dto client =>
    refine Call.returns_bind (acceptInvitation_gated.mono fun response db' hstanding ↦
      Call.returns_ok fun token htoken ↦ ?_)
    obtain ⟨u, u', hu, hinvites, hu', hs⟩ := hstanding token htoken
    exact gatedAs_of_standing hu hu' hs (invited_iff hinvites)

end Gate

section Sample

/-- A sponsor whose application was rejected before it verified its email. -/
def rejectedSponsor : User :=
  { attendee with
    status := .rejected
    emailVerifiedAt := none
    userRoles := ["SPONSOR"] }

def invitedDb (u : User) : AuthDb :=
  { AuthDb.empty with
    users := .singleton u
    roles := .singleton ⟨"role-1", "ORGANIZER", []⟩
    events := .singleton ⟨"event-1", "Summit", "owner-1", none⟩
    organizerInvitations := .singleton ⟨"invitation-1", "event-1", "owner-1", "attendee@example.com",
      "invitation-token", .pending, 1000, none, none, none, 0⟩ }

def acceptance : GatedCall := .acceptInvitation ⟨"invitation-token", none, none, none, none⟩ nobody

/-- The invitation of an account is accepted: whom the token is for, and the account afterwards. -/
def acceptedFor (u : User) (check : User → Bool) : Bool :=
  (Call.outcome ((List.range 16).map fun i ↦ sampleEnv i (toString i)) (invitedDb u)
    (acceptance.issues sampleRuntime)).any fun p ↦
      p.1.toOption.join.any (·.payload.sub == "user-1") && (p.2.users.get? "user-1").all check

theorem accepted_ran {u : User} {check : User → Bool} (h : acceptedFor u check = true) :
    ∃ token db', Call.Ran (fun _ ↦ True) (acceptance.issues sampleRuntime) (invitedDb u)
      (.ok (some token)) db' ∧ token.payload.sub = "user-1" ∧
        ∀ v, db'.users.get? "user-1" = some v → check v = true := by
  obtain ⟨⟨r, db'⟩, hrun, htest⟩ := (Option.any_eq_true ..).mp h
  obtain ⟨htoken, hcheck⟩ := Bool.and_eq_true_iff.mp htest
  obtain ⟨token, hr, hsub⟩ := (Option.any_eq_true ..).mp htoken
  cases r with
  | error x => cases hr
  | ok issued =>
    have hissued : issued = some token := hr
    subst hissued
    refine ⟨token, db', Call.ran_of_outcome (fun _ _ ↦ trivial) hrun, by simpa using hsub, ?_⟩
    intro v hv
    rw [hv] at hcheck
    exact hcheck

/-- A verified attendee accepts its invitation. -/
theorem attendee_passes : ∃ (db' : AuthDb) (u : User),
    db'.users.get? "user-1" = some u ∧ Passes u := by
  obtain ⟨token, db', hr, hsub, -⟩ := accepted_ran (show acceptedFor attendee (fun _ ↦ true) = true by
    decide +kernel)
  have hadmits : ∀ u, (invitedDb attendee).users.get? token.payload.sub = some u →
      Admits (invitedDb attendee) u acceptance := by
    intro u hu
    rw [hsub] at hu
    cases hu
    exact ⟨by decide, by decide, fun _ ↦ rfl⟩
  obtain ⟨u, hu, hpasses⟩ := (account_gate hr).mpr hadmits
  exact ⟨db', u, hsub ▸ hu, hpasses⟩

/-- An invitation signs in an account that was rejected and never verified. -/
theorem rejected_sponsor_accepted : ∃ token db',
    Call.Ran (fun _ ↦ True) (acceptance.issues sampleRuntime) (invitedDb rejectedSponsor)
      (.ok (some token)) db' ∧
    ¬∃ u, db'.users.get? token.payload.sub = some u ∧ Passes u := by
  obtain ⟨token, db', hr, hsub, hrejected⟩ := accepted_ran 
    (show acceptedFor rejectedSponsor (fun v ↦ v.status == .rejected) = true by decide +kernel)
  refine ⟨token, db', hr, ?_⟩
  rintro ⟨u, hu, hpasses⟩
  rw [hsub] at hu
  exact hpasses.welcome.2.1 (by simpa using hrejected u hu)

end Sample

end Innovents.Auth
