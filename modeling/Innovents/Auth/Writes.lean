import Innovents.Auth.OAuthService
import Innovents.Auth.Statements

namespace Innovents.Auth

open Innovents.Lib Innovents.Payments OtpService OAuthService

section Otp

variable {rt : Runtime} {identifier code : String} {purpose : OtpPurpose} {client : Client}

/-- What the statements about codes may write. -/
inductive OtpWrite (db : AuthDb) : AuthDb → Prop
  | same : OtpWrite db db
  | challenges (t : Table OtpChallenge) : OtpWrite db { db with otpChallenges := t }
  | logs (t : Table AuditLog) : OtpWrite db { db with auditLogs := t }

theorem OtpWrite.accounts {db db' : AuthDb} (h : OtpWrite db db') :
    db'.users = db.users ∧ db'.oauthAccounts = db.oauthAccounts := by
  cases h <;> exact ⟨rfl, rfl⟩

theorem updateChallenge_writes {id : String} {f : AuthEnv → OtpChallenge → OtpChallenge} :
    (updateChallenge id f).Each fun _ ↦ OtpWrite := by
  refine each_stores (fun _ ↦ .same) fun env db db' a h ↦ ?_
  obtain ⟨t, -, h⟩ := andThen_eq_ok.mp h
  cases h
  exact .challenges t

theorem verifyChallenge_writes :
    (verifyChallenge rt identifier code purpose client).Each fun _ ↦ OtpWrite := by
  have hlog {params : CreateAuditLogParams} {next : AuthCall Bool}
      (hnext : next.Each fun _ ↦ OtpWrite) :
      ((AuditService.log params client).bind fun _ ↦ next).Each fun _ ↦ OtpWrite :=
    Call.each_bind (each_log fun _ t ↦ .logs t) fun _ ↦ hnext
  refine Call.each_bind (each_finds fun _ ↦ .same) fun found ↦ ?_
  obtain ⟨challenge, now⟩ := found
  cases challenge with
  | none => trivial
  | some challenge =>
    dsimp only [checkChallenge]
    split_ifs
    · exact Call.each_bind updateChallenge_writes fun _ ↦ trivial
    · exact Call.each_bind updateChallenge_writes fun _ ↦ hlog trivial
    · exact Call.each_bind updateChallenge_writes fun _ ↦ hlog trivial
    · exact Call.each_bind updateChallenge_writes fun _ ↦ hlog trivial

theorem createChallenge_writes {userId : Option String} :
    (createChallenge rt identifier purpose userId).Each fun _ ↦ OtpWrite := by
  refine Call.each_bind (each_finds fun _ ↦ .same) fun found ↦ ?_
  obtain ⟨recent, now⟩ := found
  dsimp only
  split
  · trivial
  · refine Call.each_bind (each_stores (fun _ ↦ .same) fun env db db' a h ↦ ?_) fun _ ↦
      Call.each_bind (each_stores (fun _ ↦ .same) fun env db db' a h ↦ ?_) fun _ ↦
        Call.each_bind (each_log fun _ t ↦ .logs t) fun _ ↦ trivial
    · obtain ⟨t, -, h⟩ := andThen_eq_ok.mp h
      cases h
      exact .challenges t
    · obtain ⟨t, -, h⟩ := andThen_eq_ok.mp h
      cases h
      exact .challenges t

end Otp

section SignIn

variable {rt : Runtime} {google : Google} {profile : GoogleProfile} {db db' : AuthDb}

/-- What an update leaves of an account. -/
structure KeepsIdentity (f : User → User) : Prop where
  id : ∀ u, (f u).id = u.id
  email : ∀ u, (f u).email = u.email
  passwordHash : ∀ u, (f u).passwordHash = u.passwordHash
  deletedAt : ∀ u, (f u).deletedAt = u.deletedAt
  userRoles : ∀ u, (f u).userRoles = u.userRoles

/-- What the statements of a sign-in with Google may write. -/
inductive SignInWrite (rt : Runtime) (profile : GoogleProfile) (db : AuthDb) : AuthDb → Prop
  | same : SignInWrite rt profile db db
  | updates {id : String} {f : User → User} {t : Table User} : KeepsIdentity f →
      db.users.update id f = .ok t → SignInWrite rt profile db { db with users := t }
  | links {a : OAuthAccount} {t : Table OAuthAccount} : a.providerAccountId = profile.sub →
      db.oauthAccounts.create a = .ok t → SignInWrite rt profile db { db with oauthAccounts := t }
  | touches {id : String} {f : OAuthAccount → OAuthAccount} {t : Table OAuthAccount} :
      (∀ a, (f a).providerAccountId = a.providerAccountId) →
      db.oauthAccounts.update id f = .ok t →
      SignInWrite rt profile db { db with oauthAccounts := t }
  | registers {env : AuthEnv} {role : String} {a : OAuthAccount} {users : Table User}
      {profiles : Table Profile} {oauthAccounts : Table OAuthAccount} :
      db.users.create (newUser env (rt.normalize profile.email) none
        (rt.bcryptHash env.salt env.randomToken) .active (some env.now) [role] db.users) =
          .ok users →
      a.providerAccountId = profile.sub → db.oauthAccounts.create a = .ok oauthAccounts →
      SignInWrite rt profile db { db with users, profiles, oauthAccounts }
  | issues (t : Table RefreshToken) : SignInWrite rt profile db { db with refreshTokens := t }

/-- None of them uses Redis. -/
def SignInStep (rt : Runtime) (profile : GoogleProfile) (label : String) (db db' : AuthDb) : Prop :=
  (label ≠ "redis.get" ∧ label ≠ "redis.del") ∧ SignInWrite rt profile db db'

theorem SignInWrite.redis (h : SignInWrite rt profile db db') : db'.redis = db.redis := by
  cases h <;> rfl

theorem signIn_finds {α : Type} {name : String} {f : AuthEnv → AuthDb → α}
    (hname : name ≠ "redis.get" ∧ name ≠ "redis.del") :
    (finds name f).Each (SignInStep rt profile) := each_finds fun _ ↦ ⟨hname, .same⟩

theorem signIn_stores {α : Type} {name : String} {f : AuthEnv → AuthDb → Except AuthError (AuthDb × α)}
    (hname : name ≠ "redis.get" ∧ name ≠ "redis.del")
    (hf : ∀ env db db' a, f env db = .ok (db', a) → SignInWrite rt profile db db') :
    (stores name f).Each (SignInStep rt profile) :=
  each_stores (fun _ ↦ ⟨hname, .same⟩) fun env db db' a h ↦ ⟨hname, hf env db db' a h⟩

theorem updateUser_writes {id : String} {f : AuthEnv → User → User} (hf : ∀ env, KeepsIdentity (f env)) :
    (updateUser id f).Each (SignInStep rt profile) := by
  refine signIn_stores (by decide) fun env db db' a h ↦ ?_
  obtain ⟨t, ht, h⟩ := andThen_eq_ok.mp h
  cases h
  exact .updates (hf env) (ofRefusal_eq_ok.mp ht)

theorem updateAndRead_writes {id : String} {f : AuthEnv → User → User}
    (hf : ∀ env, KeepsIdentity (f env)) : (updateAndRead id f).Each (SignInStep rt profile) := by
  refine signIn_stores (by decide) fun env db db' a h ↦ ?_
  obtain ⟨t, ht, h⟩ := andThen_eq_ok.mp h
  split at h
  · cases h
    exact .updates (hf env) (ofRefusal_eq_ok.mp ht)
  · cases h

theorem generateTokens_writes {userId email : String} {roles permissions : List String}
    {familyId : Option String} :
    (TokenService.generateTokens rt userId email roles permissions familyId).Each
      (SignInStep rt profile) := by
  refine signIn_stores (by decide) fun env db db' a h ↦ ?_
  split_ifs at h
  obtain ⟨t, -, h⟩ := andThen_eq_ok.mp h
  cases h
  exact .issues t

theorem touchAccount_writes {sub email : String} :
    (touchAccount sub email).Each (SignInStep rt profile) := by
  refine signIn_stores (by decide) fun env db db' a h ↦ ?_
  split at h
  · cases h
  · obtain ⟨t, ht, h⟩ := andThen_eq_ok.mp h
    cases h
    refine .touches ?_ (ofRefusal_eq_ok.mp ht)
    exact fun _ ↦ rfl

theorem completeSignIn_writes {found : User × List String} {sub email : String} :
    (completeSignIn rt found sub email).Each (SignInStep rt profile) := by
  unfold completeSignIn
  split
  · trivial
  · refine Call.each_bind ?_ fun user ↦
      Call.each_bind (updateUser_writes fun _ ↦ ⟨fun _ ↦ rfl, fun _ ↦ rfl, fun _ ↦ rfl, fun _ ↦ rfl,
        fun _ ↦ rfl⟩) fun _ ↦ Call.each_bind touchAccount_writes fun _ ↦
          Call.each_bind generateTokens_writes fun _ ↦ trivial
    unfold activatePending
    split_ifs
    · exact updateAndRead_writes fun _ ↦ ⟨fun _ ↦ rfl, fun _ ↦ rfl, fun _ ↦ rfl, fun _ ↦ rfl,
        fun _ ↦ rfl⟩
    · trivial

theorem linkExisting_writes {email : String} :
    (linkExisting profile.sub email).Each (SignInStep rt profile) := by
  refine Call.each_bind (signIn_finds (by decide)) fun found ↦ ?_
  match found with
  | none => trivial
  | some (user, permissions) =>
    dsimp only
    split_ifs
    · refine Call.each_bind ?_ fun _ ↦ Call.each_bind (updateAndRead_writes fun _ ↦
        ⟨fun _ ↦ rfl, fun _ ↦ rfl, fun _ ↦ rfl, fun _ ↦ rfl, fun _ ↦ rfl⟩) fun _ ↦ trivial
      refine signIn_stores (by decide) fun env db db' a h ↦ ?_
      obtain ⟨t, ht, h⟩ := andThen_eq_ok.mp h
      cases h
      exact .links rfl (ofRefusal_eq_ok.mp ht)
    · trivial

theorem createAttendee_writes :
    (createAttendee rt profile (rt.normalize profile.email)).Each (SignInStep rt profile) := by
  refine Call.each_bind (signIn_finds (by decide)) fun role ↦ ?_
  cases role with
  | none => trivial
  | some role =>
    refine signIn_stores (by decide) fun env db db' a h ↦ ?_
    obtain ⟨users, husers, h⟩ := andThen_eq_ok.mp h
    obtain ⟨profiles, -, h⟩ := andThen_eq_ok.mp h
    obtain ⟨oauthAccounts, hoauth, h⟩ := andThen_eq_ok.mp h
    cases h
    exact .registers (ofRefusal_eq_ok.mp husers) rfl (ofRefusal_eq_ok.mp hoauth)

theorem signIn_writes : (signIn rt profile).Each (SignInStep rt profile) := by
  refine Call.each_bind (signIn_finds (by decide)) fun account ↦ ?_
  cases account with
  | some user => exact completeSignIn_writes
  | none =>
    refine Call.each_bind linkExisting_writes fun user ↦ ?_
    cases user with
    | some user => exact completeSignIn_writes
    | none => exact Call.each_bind createAttendee_writes fun _ ↦ completeSignIn_writes

end SignIn

/-- The accounts and their links with Google are as before. -/
def SameAccounts (db db' : AuthDb) : Prop :=
  db'.users = db.users ∧ db'.oauthAccounts = db.oauthAccounts

section Accounts

variable {α : Type} {rt : Runtime} {email : String} {client : Client} {db db' db'' : AuthDb}

theorem SameAccounts.refl (db : AuthDb) : SameAccounts db db := ⟨rfl, rfl⟩

theorem SameAccounts.trans (h : SameAccounts db db') (h' : SameAccounts db' db'') :
    SameAccounts db db'' := ⟨h'.1.trans h.1, h'.2.trans h.2⟩

theorem generateTokens_sameAccounts {userId : String} {roles permissions : List String}
    {familyId : Option String} :
    (TokenService.generateTokens rt userId email roles permissions familyId).Each
      fun _ ↦ SameAccounts := by
  refine each_stores SameAccounts.refl fun env db db' a h ↦ ?_
  split_ifs at h
  obtain ⟨t, -, h⟩ := andThen_eq_ok.mp h
  cases h
  exact ⟨rfl, rfl⟩

theorem enqueue_sameAccounts {params : CreateOutboxEventParams} :
    (OutboxService.enqueue params).Each fun _ ↦ SameAccounts := by
  refine each_stores SameAccounts.refl fun env db db' a h ↦ ?_
  obtain ⟨db₁, hwritten, h⟩ := andThen_eq_ok.mp h
  obtain ⟨t, -, hwritten⟩ := andThen_eq_ok.mp hwritten
  cases hwritten
  cases h
  exact ⟨rfl, rfl⟩

theorem addEmailJob_sameAccounts {job : EmailJob} :
    (addEmailJob job).Each fun _ ↦ SameAccounts := by
  refine each_stores SameAccounts.refl fun env db db' a h ↦ ?_
  cases h
  split_ifs
  · exact ⟨rfl, rfl⟩
  · exact ⟨rfl, rfl⟩

theorem log_sameAccounts {params : CreateAuditLogParams} :
    (AuditService.log params client).Each fun _ ↦ SameAccounts := each_log fun _ _ ↦ ⟨rfl, rfl⟩

theorem createChallenge_sameAccounts {identifier : String} {purpose : OtpPurpose}
    {userId : Option String} :
    (OtpService.createChallenge rt identifier purpose userId).Each fun _ ↦ SameAccounts :=
  createChallenge_writes.mono fun _ _ _ h ↦ h.accounts

theorem verifyChallenge_sameAccounts {identifier code : String} {purpose : OtpPurpose} :
    (OtpService.verifyChallenge rt identifier code purpose client).Each fun _ ↦ SameAccounts :=
  verifyChallenge_writes.mono fun _ _ _ h ↦ h.accounts

theorem revokeAllUserSessions_sameAccounts {userId : String} :
    (TokenService.revokeAllUserSessions rt userId).Each fun _ ↦ SameAccounts := by
  refine Call.each_bind (each_finds SameAccounts.refl) fun _ ↦ Call.each_bind ?_ fun _ ↦ ?_
  · exact each_revokeWhere SameAccounts.refl fun _ _ _ _ ↦ ⟨rfl, rfl⟩
  · exact each_blacklist fun _ _ ↦ ⟨rfl, rfl⟩

end Accounts

section Google

variable {rt : Runtime} {google : Google} {db db' : AuthDb} {ok : AuthEnv → Prop}

theorem fetchProfile_ran {code codeVerifier : String} {r : Except AuthError GoogleProfile}
    (h : Call.Ran ok (fetchProfile google code codeVerifier) db r db') :
    db' = db ∧ ∀ profile, r = .ok profile → ∃ now token, google.userinfo now token = some profile := by
  suffices hwp : (fetchProfile google code codeVerifier).wp Undisturbed (fun _ ↦ ok)
      (fun r db' ↦ db' = db ∧
        ∀ profile, r = .ok profile → ∃ now token, google.userinfo now token = some profile) db from
    ran_of_wp hwp h
  refine Call.wpg_bind (wpg_finds (fun _ ↦ trivial) (fun _ _ h ↦ ⟨h, nofun⟩) fun db₁ env h₁ _ ↦ ?_)
  cases google.exchange env.now code codeVerifier with
  | none => exact ⟨h₁, nofun⟩
  | some accessToken =>
    dsimp only
    split_ifs
    · exact ⟨h₁, nofun⟩
    · refine Call.wpg_bind (wpg_finds (fun _ ↦ trivial) (fun _ _ h ↦ ⟨h.trans h₁, nofun⟩)
        fun db₂ env h₂ _ ↦ ?_)
      cases hprofile : google.userinfo env.now accessToken with
      | none => exact ⟨h₂.trans h₁, nofun⟩
      | some profile =>
        dsimp only
        split_ifs
        · exact ⟨h₂.trans h₁, nofun⟩
        · exact ⟨h₂.trans h₁, nofun⟩
        · refine ⟨h₂.trans h₁, fun p hp ↦ ⟨env.now, accessToken, ?_⟩⟩
          cases hp
          exact hprofile

theorem redeem_sameAccounts {key message : String} :
    (redeem key message).Each fun _ ↦ SameAccounts := by
  refine Call.each_bind (each_finds SameAccounts.refl) fun value ↦ ?_
  cases value with
  | none => trivial
  | some value => exact Call.each_bind (each_write fun _ _ ↦ ⟨rfl, rfl⟩) fun _ ↦ trivial

/-- A callback that does not come to the sign-in leaves the accounts as they are. -/
theorem handleGoogleCallback_ran {code state : String}
    (h : Call.Ran ok (handleGoogleCallback rt google code state) db r db') :
    (SameAccounts db db' ∧ ∃ x, r = .error x) ∨
      ∃ profile db₁, (∃ now token, google.userinfo now token = some profile) ∧ SameAccounts db db₁ ∧
        Call.Ran ok (signIn rt profile) db₁ r db' := by
  unfold handleGoogleCallback at h
  split_ifs at h
  · cases h
    exact .inl ⟨.refl db, _, rfl⟩
  · have hredeem {q : Except AuthError RedisValue} {db₁ : AuthDb}
        (h : Call.Ran ok (redeem (stateKey state) "Invalid or expired OAuth state") db q db₁) :
        SameAccounts db db₁ :=
      redeem_sameAccounts.ran (fun _ _ _ ↦ SameAccounts.trans) h (.refl db)
    rcases Call.ran_bind.mp h with ⟨x, hr, rfl⟩ | ⟨storedState, db₁, hr, hrest⟩
    · exact .inl ⟨hredeem hr, x, rfl⟩
    · have hsame := hredeem hr
      unfold continueCallback at hrest
      split at hrest
      · cases hrest
        exact .inl ⟨hsame, _, rfl⟩
      · split_ifs at hrest
        · cases hrest
          exact .inl ⟨hsame, _, rfl⟩
        · rcases Call.ran_bind.mp hrest with ⟨x, hfetch, rfl⟩ | ⟨profile, db₂, hfetch, hsignIn⟩
          · obtain ⟨rfl, -⟩ := fetchProfile_ran hfetch
            exact .inl ⟨hsame, x, rfl⟩
          · obtain ⟨rfl, hprofile⟩ := fetchProfile_ran hfetch
            exact .inr ⟨profile, db₂, hprofile profile rfl, hsame, hsignIn⟩

end Google

end Innovents.Auth
