import Innovents.Auth.Writes

namespace Innovents.Auth

open Innovents.Lib Innovents.Payments AuthService

/-- An address, the password that one party registers it with, and the Google account of the other
party, who receives its mail. -/
structure Address where
  email : String
  password : String
  sub : String

inductive TakeoverCall
  | register (dto : RegisterDto) (client : Client)
  | verifyOtp (email code : String) (purpose : OtpPurpose) (client : Client)
  | login (email password : String) (client : Client)
  | requestPasswordReset (email : String)
  | confirmPasswordReset (email code newPassword : String) (client : Client)
  | googleSignIn (owner : Bool) (google : Google) (code state : String)

/-- The tables after the calls so far, and whether the owner has signed in with Google. -/
structure TakeoverRun where
  db : AuthDb
  signedIn : Bool

section Definitions

variable (rt : Runtime) (address : Address)

/-- A generated password is not the one of the other party. -/
def Unguessed (env : AuthEnv) : Prop :=
  rt.bcryptCompare address.password (rt.bcryptHash env.salt env.randomToken) = false

instance : DecidablePred (Unguessed rt address) := fun _ ↦ inferInstanceAs (Decidable (_ = false))

def TakeoverStep (s : TakeoverRun) (call : TakeoverCall) (s' : TakeoverRun) : Prop :=
  match call with
  | .register dto client =>
    (∃ r, Call.Ran (Unguessed rt address) (register rt dto client) s.db r s'.db) ∧
      s'.signedIn = s.signedIn
  | .verifyOtp email code purpose client =>
    (∃ r, Call.Ran (Unguessed rt address) (verifyOtp rt email code purpose client) s.db r s'.db) ∧
      s'.signedIn = s.signedIn
  | .login email password client =>
    (∃ r, Call.Ran (Unguessed rt address) (login rt email password client) s.db r s'.db) ∧
      s'.signedIn = s.signedIn
  | .requestPasswordReset email =>
    (∃ r, Call.Ran (Unguessed rt address) (requestPasswordReset rt email) s.db r s'.db) ∧
      s'.signedIn = s.signedIn
  | .confirmPasswordReset email code newPassword client =>
    (∃ r, Call.Ran (Unguessed rt address) (confirmPasswordReset rt email code newPassword client)
      s.db r s'.db) ∧ s'.signedIn = s.signedIn
  | .googleSignIn owner google code state =>
    ∃ r, Call.Ran (Unguessed rt address) (OAuthService.handleGoogleCallback rt google code state)
      s.db r s'.db ∧ s'.signedIn = (s.signedIn || owner && r.isOk)

/-- What the parties can do: only the owner of the address resets its password, to one of its own,
and signs in with its Google account. -/
def Plays : TakeoverCall → Prop
  | .confirmPasswordReset email _ newPassword _ => rt.normalize email = address.email →
    ∀ salt, rt.bcryptCompare address.password (rt.bcryptHash salt newPassword) = false
  | .googleSignIn owner google _ _ => ∀ now token profile,
    google.userinfo now token = some profile →
      if owner then profile.sub = address.sub ∧ rt.normalize profile.email = address.email
      else profile.sub ≠ address.sub
  | _ => True

/-- The owner first signs in while the password opens no account of the address. -/
def Unclaimed (s : TakeoverRun) : TakeoverCall → Prop
  | .googleSignIn true _ _ _ => s.signedIn = false → ∀ u, s.db.account address.email = some u →
    rt.bcryptCompare address.password u.passwordHash = false
  | _ => True

/-- The address has an account that the password does not open. -/
def Unopened (db : AuthDb) : Prop :=
  ∃ u ∈ db.users.rows, u.email = address.email ∧ u.deletedAt = none ∧
    rt.bcryptCompare address.password u.passwordHash = false

def Unlinked (db : AuthDb) : Prop :=
  ∀ a ∈ db.oauthAccounts.rows, a.providerAccountId ≠ address.sub

/-- The owner has not signed in with Google yet. -/
def Unvisited (s : TakeoverRun) : Prop := s.signedIn = false ∧ Unlinked address s.db

/-- What most statements keep. -/
structure KeepsAccount (db db' : AuthDb) : Prop where
  closed : Unopened rt address db → Unopened rt address db'
  unlinked : Unlinked address db → Unlinked address db'

end Definitions

section Calls

variable {α : Type} {rt : Runtime} {address : Address} {email password : String} {client : Client}
  {db db' db'' : AuthDb} {ok : String → AuthEnv → Prop}

theorem SameAccounts.keeps (h : SameAccounts db db') : KeepsAccount rt address db db' := by
  obtain ⟨husers, hoauth⟩ := h
  refine ⟨fun hc ↦ ?_, fun hu ↦ ?_⟩
  · rw [Unopened, husers]
    exact hc
  · rw [Unlinked, hoauth]
    exact hu

theorem KeepsAccount.trans (h : KeepsAccount rt address db db') (h' : KeepsAccount rt address db' db'') :
    KeepsAccount rt address db db'' :=
  ⟨fun hc ↦ h'.closed (h.closed hc), fun hu ↦ h'.unlinked (h.unlinked hu)⟩

/-- An update of an account that leaves its identity as it is. -/
theorem closed_update {id : String} {f : User → User} {t : Table User} (hf : KeepsIdentity f)
    (h : db.users.update id f = .ok t) (hc : Unopened rt address db) :
    Unopened rt address { db with users := t } := by
  obtain ⟨u, hu, hemail, hdeleted, hclosed⟩ := hc
  have hrows := (Table.update_eq_ok.mp h).2
  by_cases hid : u.id = id
  · refine ⟨f u, ?_, (hf.email u).trans hemail, (hf.deletedAt u).trans hdeleted, ?_⟩
    · rw [hrows]
      exact Table.mem_updateRows.mpr (.inl ⟨u, hu, hid, rfl⟩)
    · rw [hf.passwordHash]
      exact hclosed
  · refine ⟨u, ?_, hemail, hdeleted, hclosed⟩
    rw [hrows]
    exact Table.mem_updateRows.mpr (.inr ⟨hu, hid⟩)

theorem closed_create {u : User} {t : Table User} (h : db.users.create u = .ok t)
    (hc : Unopened rt address db) {db' : AuthDb} (hdb' : db'.users = t) : Unopened rt address db' := by
  obtain ⟨v, hv, hrest⟩ := hc
  refine ⟨v, ?_, hrest⟩
  rw [hdb', Table.create_eq_ok.mp h]
  exact List.mem_append_left _ hv

theorem updateUser_keeps {id : String} {f : AuthEnv → User → User} (hf : ∀ env, KeepsIdentity (f env)) :
    (updateUser id f).Each fun _ ↦ KeepsAccount rt address := by
  refine each_stores (fun db ↦ (SameAccounts.refl db).keeps) fun env db db' a h ↦ ?_
  obtain ⟨t, ht, h⟩ := andThen_eq_ok.mp h
  cases h
  exact ⟨closed_update (hf env) (ofRefusal_eq_ok.mp ht), fun hu ↦ hu⟩

theorem keeps_sameAccounts {c : AuthCall α} (h : c.Each fun _ ↦ SameAccounts) :
    c.Each fun _ ↦ KeepsAccount rt address := h.mono fun _ _ _ h ↦ h.keeps

theorem finds_keeps {name : String} {f : AuthEnv → AuthDb → α} :
    (finds name f).Each fun _ ↦ KeepsAccount rt address :=
  each_finds fun db ↦ (SameAccounts.refl db).keeps

theorem requireFree_keeps {phone : Option String} :
    (requireFree email phone).Each fun _ ↦ KeepsAccount rt address := by
  refine Call.each_bind finds_keeps fun existingUser ↦ ?_
  split_ifs
  · trivial
  · cases phone with
    | none => trivial
    | some phone =>
      refine Call.each_bind finds_keeps fun existingPhone ↦ ?_
      split_ifs
      · trivial
      · trivial

theorem createAccount_keeps {phone : Option String} {passwordHash : String → String}
    {role profileTable : String} {columns : List (String × Option String)} :
    (createAccount email phone passwordHash role profileTable columns).Each
      fun _ ↦ KeepsAccount rt address := by
  refine each_stores (fun db ↦ (SameAccounts.refl db).keeps) fun env db db' a h ↦ ?_
  obtain ⟨users, husers, h⟩ := andThen_eq_ok.mp h
  obtain ⟨profiles, -, h⟩ := andThen_eq_ok.mp h
  cases h
  exact ⟨fun hc ↦ closed_create (ofRefusal_eq_ok.mp husers) hc rfl, fun hu ↦ hu⟩

theorem sendVerificationCode_sameAccounts {userId subject : String} :
    (sendVerificationCode rt userId email subject).Each fun _ ↦ SameAccounts :=
  Call.each_bind createChallenge_sameAccounts fun _ ↦
    Call.each_bind enqueue_sameAccounts fun _ ↦ addEmailJob_sameAccounts

theorem register_keeps {dto : RegisterDto} :
    (register rt dto client).Each fun _ ↦ KeepsAccount rt address := by
  refine Call.each_bind requireFree_keeps fun _ ↦ Call.each_bind finds_keeps fun roleRecord ↦ ?_
  cases roleRecord with
  | none => trivial
  | some roleRecord =>
    refine Call.each_bind createAccount_keeps fun result ↦ keeps_sameAccounts ?_
    exact Call.each_bind sendVerificationCode_sameAccounts fun _ ↦
      Call.each_bind log_sameAccounts fun _ ↦ trivial

theorem verifyOtp_keeps {code : String} {purpose : OtpPurpose} :
    (verifyOtp rt email code purpose client).Each fun _ ↦ KeepsAccount rt address := by
  refine Call.each_bind (keeps_sameAccounts verifyChallenge_sameAccounts) fun _ ↦ ?_
  split_ifs
  · refine Call.each_bind finds_keeps fun user ↦ ?_
    cases user with
    | none => trivial
    | some user =>
      refine Call.each_bind (updateUser_keeps fun env ↦ ?_) fun _ ↦ trivial
      exact ⟨fun _ ↦ rfl, fun _ ↦ rfl, fun _ ↦ rfl, fun _ ↦ rfl, fun _ ↦ rfl⟩
  · trivial

theorem login_keeps : (login rt email password client).Each fun _ ↦ KeepsAccount rt address := by
  refine Call.each_bind finds_keeps fun found ↦ ?_
  match found with
  | none => exact Call.each_bind (keeps_sameAccounts log_sameAccounts) fun _ ↦ trivial
  | some (user, permissions) =>
    dsimp only
    split_ifs
    · exact Call.each_bind (keeps_sameAccounts log_sameAccounts) fun _ ↦ trivial
    · cases loginRefusal user with
      | some refusal => trivial
      | none =>
        refine Call.each_bind (updateUser_keeps fun env ↦ ?_) fun _ ↦ keeps_sameAccounts ?_
        · exact ⟨fun _ ↦ rfl, fun _ ↦ rfl, fun _ ↦ rfl, fun _ ↦ rfl, fun _ ↦ rfl⟩
        · exact Call.each_bind generateTokens_sameAccounts fun _ ↦
            Call.each_bind log_sameAccounts fun _ ↦ trivial

theorem requestPasswordReset_keeps :
    (requestPasswordReset rt email).Each fun _ ↦ KeepsAccount rt address := by
  refine Call.each_bind finds_keeps fun user ↦ ?_
  cases user with
  | none => trivial
  | some user =>
    refine keeps_sameAccounts (Call.each_bind createChallenge_sameAccounts fun _ ↦ ?_)
    exact Call.each_bind enqueue_sameAccounts fun _ ↦
      Call.each_bind addEmailJob_sameAccounts fun _ ↦ trivial

theorem account_email {u : User} (h : db.account email = some u) :
    u ∈ db.users.rows ∧ u.email = email ∧ u.deletedAt = none := by
  obtain ⟨hu, hp⟩ := Table.find?_mem h
  simp only [Bool.and_eq_true, beq_iff_eq, Option.isNone_iff_eq_none] at hp
  exact ⟨hu, hp⟩

/-- A new password of the address is not the one of the other party. -/
theorem closed_rehash {u : User} {hash : String} {t : Table User} (hu : db.account email = some u)
    (hhash : email = address.email → rt.bcryptCompare address.password hash = false)
    (h : db.users.update u.id (fun v ↦ { v with passwordHash := hash }) = .ok t)
    (hc : Unopened rt address db) : Unopened rt address { db with users := t } := by
  obtain ⟨v, hv, hemail, hdeleted, hclosed⟩ := hc
  obtain ⟨hmem, hu, -⟩ := account_email hu
  have hrows := (Table.update_eq_ok.mp h).2
  by_cases hid : v.id = u.id
  · have hvu : v = u := db.users.eq_of_id hv hmem hid
    refine ⟨{ v with passwordHash := hash }, ?_, hemail, hdeleted, hhash ?_⟩
    · rw [hrows]
      exact Table.mem_updateRows.mpr (.inl ⟨v, hv, hid, rfl⟩)
    · rw [← hu, ← hvu, hemail]
  · refine ⟨v, ?_, hemail, hdeleted, hclosed⟩
    rw [hrows]
    exact Table.mem_updateRows.mpr (.inr ⟨hv, hid⟩)

/-- Others in between leave the accounts as they are. -/
theorem keeps_stable (h : KeepsAccount rt address db db') (h' : SameAccounts db' db'') :
    KeepsAccount rt address db db'' := h.trans h'.keeps

theorem confirmPasswordReset_keeps {code newPassword : String}
    (hnew : rt.normalize email = address.email →
      ∀ salt, rt.bcryptCompare address.password (rt.bcryptHash salt newPassword) = false) :
    (confirmPasswordReset rt email code newPassword client).wp SameAccounts ok
      (fun _ ↦ KeepsAccount rt address db) db := by
  have hkeeps {β : Type} {c : AuthCall β} {db' : AuthDb} (hc : c.Each fun _ ↦ SameAccounts)
      (h : KeepsAccount rt address db db') :
      c.wp SameAccounts ok (fun _ ↦ KeepsAccount rt address db) db' :=
    Call.wp_keeps hc (fun _ _ ↦ keeps_stable) h
  refine Call.wpg_bind (Call.wpg_mono (hkeeps verifyChallenge_sameAccounts
    (SameAccounts.refl db).keeps) fun r db₁ h₁ ↦ ?_)
  cases r with
  | error x => exact h₁
  | ok checked =>
    refine Call.wpg_bind (wpg_finds (fun _ ↦ trivial) (fun _ _ h ↦ keeps_stable h₁ h)
      fun db₂ env h₂ _ ↦ ?_)
    have h₂ := keeps_stable h₁ h₂
    cases hfound : db₂.account (rt.normalize email) with
    | none => exact h₂
    | some user =>
      dsimp only
      split_ifs
      · exact h₂
      · exact h₂
      · refine Call.wpg_bind (wpg_stores (fun _ ↦ trivial) (fun _ _ h ↦ keeps_stable h₂ h)
          (fun _ _ _ h _ ↦ keeps_stable h₂ h) fun db₃ env db₄ a h₃ _ h ↦ ⟨trivial, ?_⟩)
        obtain ⟨t, ht, h⟩ := andThen_eq_ok.mp h
        cases h
        have hfound₃ : db₃.account (rt.normalize email) = some user := by
          rw [AuthDb.account, h₃.1]
          exact hfound
        have h₄ : KeepsAccount rt address db₃ { db₃ with users := t } :=
          ⟨fun hc ↦ closed_rehash hfound₃ (fun he ↦ hnew he env.salt) (ofRefusal_eq_ok.mp ht) hc,
            fun hu ↦ hu⟩
        exact hkeeps (Call.each_bind revokeAllUserSessions_sameAccounts fun _ ↦
          Call.each_bind log_sameAccounts fun _ ↦ trivial) ((keeps_stable h₂ h₃).trans h₄)

end Calls

section Google

open OAuthService

variable {rt : Runtime} {address : Address} {google : Google} {profile : GoogleProfile}
  {db db' : AuthDb} {r : Except AuthError GoogleSession} {ok : AuthEnv → Prop}

theorem SignInWrite.closed (h : SignInWrite rt profile db db') (hc : Unopened rt address db) :
    Unopened rt address db' := by
  cases h with
  | same => exact hc
  | updates hf ht => exact closed_update hf ht hc
  | links => exact hc
  | touches => exact hc
  | registers husers => exact closed_create husers hc rfl
  | issues => exact hc

theorem SignInWrite.unlinked (h : SignInWrite rt profile db db') (hsub : profile.sub ≠ address.sub)
    (hu : Unlinked address db) : Unlinked address db' := by
  have hcreate {a : OAuthAccount} {t : Table OAuthAccount} (ha : a.providerAccountId = profile.sub)
      (ht : db.oauthAccounts.create a = .ok t) : ∀ b ∈ t.rows, b.providerAccountId ≠ address.sub := by
    intro b hb
    rw [Table.create_eq_ok.mp ht] at hb
    rcases List.mem_append.mp hb with hb | hb
    · exact hu b hb
    · rw [List.mem_singleton.mp hb, ha]
      exact hsub
  cases h with
  | same => exact hu
  | updates => exact hu
  | links ha ht => exact hcreate ha ht
  | touches hf ht =>
    intro b hb
    rw [(Table.update_eq_ok.mp ht).2] at hb
    rcases Table.mem_updateRows.mp hb with ⟨a, ha, -, rfl⟩ | ⟨hb, -⟩
    · rw [hf]
      exact hu a ha
    · exact hu b hb
  | registers _ ha ht => exact hcreate ha ht
  | issues => exact hu

/-- The first sign-in of the owner, with no account of the address that the password opens. -/
theorem signIn_claims (hsub : profile.sub = address.sub)
    (hemail : rt.normalize profile.email = address.email) (hunlinked : Unlinked address db)
    (hunclaimed : ∀ u, db.account address.email = some u →
      rt.bcryptCompare address.password u.passwordHash = false)
    (h : Call.Ran (Unguessed rt address) (signIn rt profile) db r db') :
    Unopened rt address db' ∨ Unlinked address db' ∧ ∃ x, r = .error x := by
  have hkeeps {β : Type} {c : AuthCall β} {db : AuthDb} (hc : c.Each (SignInStep rt profile))
      (hclosed : Unopened rt address db) : c.wp Undisturbed (fun _ ↦ Unguessed rt address)
        (fun _ ↦ Unopened rt address) db :=
    Call.wp_invariant hc (fun _ _ _ hc h ↦ h.2.closed hc) (fun _ _ hc h ↦ h ▸ hc) hclosed
  cases haccount : db.account address.email with
  | some u =>
    obtain ⟨hu, hrest⟩ := account_email haccount
    refine .inl (signIn_writes.ran (fun _ _ _ hc h ↦ h.2.closed hc) h ?_)
    exact ⟨u, hu, hrest.1, hrest.2, hunclaimed u haccount⟩
  | none =>
    suffices hwp : (signIn rt profile).wp Undisturbed (fun _ ↦ Unguessed rt address)
        (fun r db' ↦ Unopened rt address db' ∨ Unlinked address db' ∧ ∃ x, r = .error x) db from
      ran_of_wp hwp h
    have hfails {q : Except AuthError GoogleSession} {x : AuthError} {db₁ : AuthDb} (h : db₁ = db)
        (hq : q = .error x) :
        Unopened rt address db₁ ∨ Unlinked address db₁ ∧ ∃ x, q = .error x := by
      subst h
      exact .inr ⟨hunlinked, x, hq⟩
    refine Call.wpg_bind (wpg_finds (fun _ ↦ trivial) (fun _ _ h ↦ hfails h rfl) fun db₁ env h₁ _ ↦ ?_)
    subst h₁
    have hnone : db₁.oauthAccounts.find? (·.providerAccountId == profile.sub) = none :=
      Table.find?_eq_none.mpr fun a ha ↦ by simpa [hsub] using hunlinked a ha
    rw [hnone]
    -- neither the link nor the account exists
    refine Call.wpg_bind (Call.wpg_bind (wpg_finds (fun _ ↦ trivial) (fun _ _ h ↦ hfails h rfl)
      fun db₂ env h₂ _ ↦ ?_))
    subst h₂
    rw [hemail, haccount]
    refine Call.wpg_bind (Call.wpg_bind (wpg_finds (fun _ ↦ trivial) (fun _ _ h ↦ hfails h rfl)
      fun db₃ env h₃ _ ↦ ?_))
    subst h₃
    cases hrole : db₃.role "ATTENDEE" with
    | none => exact hfails rfl rfl
    | some role =>
      refine wpg_stores (fun _ ↦ trivial) (fun _ _ h ↦ hfails h rfl)
        (fun _ _ _ h _ ↦ hfails h rfl) fun db₄ env db₅ user h₄ henv h ↦ ⟨trivial, ?_⟩
      obtain ⟨users, husers, h⟩ := andThen_eq_ok.mp h
      obtain ⟨profiles, -, h⟩ := andThen_eq_ok.mp h
      obtain ⟨oauthAccounts, -, h⟩ := andThen_eq_ok.mp h
      cases h
      have hrows := Table.create_eq_ok.mp (ofRefusal_eq_ok.mp husers)
      refine Call.wpg_mono (hkeeps completeSignIn_writes ?_) fun _ _ hc ↦ .inl hc
      have hnew := hrows ▸ List.mem_append_right db₄.users.rows (List.mem_singleton_self _)
      exact ⟨_, hnew, rfl, rfl, henv⟩

end Google

section Runs

variable {rt : Runtime} {address : Address} {s s' : TakeoverRun} {call : TakeoverCall}

/-- After the first sign-in of the owner the password opens no account of the address. -/
structure Safe (rt : Runtime) (address : Address) (s : TakeoverRun) : Prop where
  closed : s.signedIn = true → Unopened rt address s.db
  owned : Unlinked address s.db ∨ Unopened rt address s.db

theorem Safe.keeps (h : Safe rt address s) (hsignedIn : s'.signedIn = s.signedIn)
    (hk : KeepsAccount rt address s.db s'.db) : Safe rt address s' :=
  ⟨fun hs ↦ hk.closed (h.closed (hsignedIn.symm.trans hs)), h.owned.imp hk.unlinked hk.closed⟩

theorem Safe.ran {α : Type} {c : AuthCall α} {r : Except AuthError α} {ok : AuthEnv → Prop}
    (h : Safe rt address s) (hc : c.Each fun _ ↦ KeepsAccount rt address)
    (hr : Call.Ran ok c s.db r s'.db) (hsignedIn : s'.signedIn = s.signedIn) : Safe rt address s' :=
  h.keeps hsignedIn (hc.ran (fun _ _ _ ↦ KeepsAccount.trans) hr (SameAccounts.refl s.db).keeps)

theorem Safe.of_closed (h : Unopened rt address s.db) : Safe rt address s := ⟨fun _ ↦ h, .inr h⟩

theorem Safe.step (h : Safe rt address s) (hplays : Plays rt address call)
    (hunclaimed : Unclaimed rt address s call) (hs : TakeoverStep rt address s call s') :
    Safe rt address s' := by
  cases call with
  | register dto client =>
    obtain ⟨⟨r, hr⟩, hsignedIn⟩ := hs
    exact h.ran register_keeps hr hsignedIn
  | verifyOtp email code purpose client =>
    obtain ⟨⟨r, hr⟩, hsignedIn⟩ := hs
    exact h.ran verifyOtp_keeps hr hsignedIn
  | login email password client =>
    obtain ⟨⟨r, hr⟩, hsignedIn⟩ := hs
    exact h.ran login_keeps hr hsignedIn
  | requestPasswordReset email =>
    obtain ⟨⟨r, hr⟩, hsignedIn⟩ := hs
    exact h.ran requestPasswordReset_keeps hr hsignedIn
  | confirmPasswordReset email code newPassword client =>
    obtain ⟨⟨r, hr⟩, hsignedIn⟩ := hs
    exact h.keeps hsignedIn (Call.wpg_ran (confirmPasswordReset_keeps hplays)
      SameAccounts.refl (fun _ _ h ↦ h) hr)
  | googleSignIn owner google code state =>
    obtain ⟨r, hr, hsignedIn⟩ := hs
    rcases handleGoogleCallback_ran hr with ⟨hsame, x, rfl⟩ | ⟨profile, db₁, hprofile, hsame, hr⟩
    · refine h.keeps ?_ hsame.keeps
      rw [hsignedIn]
      simp [Except.isOk, Except.toBool]
    · obtain ⟨now, token, hprofile⟩ := hprofile
      have hparty := hplays now token profile hprofile
      have hkeeps : KeepsAccount rt address s.db db₁ := hsame.keeps
      have hclosed (hc : Unopened rt address s.db) : Safe rt address s' :=
        .of_closed (signIn_writes.ran (fun _ _ _ hc h ↦ h.2.closed hc) hr (hkeeps.closed hc))
      rcases h.owned with hunlinked | hc
      · cases owner with
        | false =>
          refine h.keeps (by simpa using hsignedIn) (hkeeps.trans ?_)
          exact ⟨signIn_writes.ran (fun _ _ _ hc h ↦ h.2.closed hc) hr,
            signIn_writes.ran (fun _ _ _ hu h ↦ h.2.unlinked hparty hu) hr⟩
        | true =>
          cases hfirst : s.signedIn with
          | true => exact hclosed (h.closed hfirst)
          | false =>
            have haccount : ∀ u, db₁.account address.email = some u →
                rt.bcryptCompare address.password u.passwordHash = false := by
              rw [AuthDb.account, hsame.1]
              exact hunclaimed hfirst
            rcases signIn_claims hparty.1 hparty.2 (hkeeps.unlinked hunlinked) haccount hr with
              hc | ⟨hu, x, rfl⟩
            · exact .of_closed hc
            · refine ⟨fun hs ↦ ?_, .inl hu⟩
              rw [hsignedIn, hfirst] at hs
              cases hs
      · exact hclosed hc

/-- The password opens no account of the address. -/
theorem Unopened.refuses {db db' : AuthDb} {email : String} {client : Client}
    {r : Except AuthError AuthResponseDto} {ok : AuthEnv → Prop} (hc : Unopened rt address db)
    (hemail : rt.normalize email = address.email)
    (hr : Call.Ran ok (login rt email address.password client) db r db') : ∀ a, r ≠ .ok a := by
  obtain ⟨v, hv, hvemail, -, hclosed⟩ := hc
  suffices hwp : (login rt email address.password client).wp Undisturbed (fun _ ↦ ok)
      (fun r _ ↦ ∀ a, r ≠ .ok a) db from ran_of_wp hwp hr
  refine Call.wpg_bind (wpg_finds (fun _ ↦ trivial) (fun _ _ _ ↦ nofun) fun db₁ env h₁ _ ↦ ?_)
  subst h₁
  rw [hemail]
  have hlog {user : Option User} {metadata : List (String × JsValue)} :
      ((auditLogin user "LOGIN_FAILURE" metadata client).bind fun _ ↦
        (throws .unauthorized "Invalid email or password" : AuthCall AuthResponseDto)).wp
          Undisturbed (fun _ ↦ ok) (fun r _ ↦ ∀ a, r ≠ .ok a) db₁ :=
    Call.wpg_bind (wpg_log (fun _ _ ↦ trivial) fun _ _ _ ↦ nofun)
  cases haccount : db₁.account address.email with
  | none => exact hlog
  | some u =>
    obtain ⟨hu, huemail, -⟩ := account_email haccount
    have huv : u = v := by
      refine db₁.users.eq_of_unique (u := fun u ↦ some u.email) (k := address.email) ?_ hu hv ?_ ?_
      · exact List.mem_singleton.mpr rfl
      · rw [huemail]
      · rw [hvemail]
    subst huv
    dsimp only [Option.map_some]
    rw [if_pos hclosed]
    exact hlog

/-- When no account of the address opens with the password at the first sign-in of the owner, no
login with the password ever succeeds after it. -/
theorem no_takeover (h : Reach (TakeoverStep rt address)
      (fun s call ↦ Plays rt address call ∧ Unclaimed rt address s call) (Unvisited address) s)
    (hsignedIn : s.signedIn = true) {email : String} {client : Client} {db' : AuthDb}
    {r : Except AuthError AuthResponseDto} (hemail : rt.normalize email = address.email)
    (hr : Call.Ran (fun _ ↦ True) (login rt email address.password client) s.db r db') :
    ∀ a, r ≠ .ok a := by
  have hsafe : Safe rt address s :=
    h.invariant (fun s hs ↦ ⟨fun hsigned ↦ by simp [hs.1] at hsigned, .inl hs.2⟩)
      fun _ _ _ hsafe hok hs ↦ hsafe.step hok.1 hok.2 hs
  exact (hsafe.closed hsignedIn).refuses hemail hr

end Runs

section Sample

def sampleAddress : Address := ⟨"attendee@example.com", "Sunflower7", "google-1"⟩

def ownerGoogle : Google where
  configured := true
  exchange _ _ _ := some "access-1"
  userinfo _ _ := some ⟨"google-1", "attendee@example.com", true, none, none, none⟩

def platformDb : AuthDb :=
  { AuthDb.empty with
    roles := .singleton ⟨"role-1", "ATTENDEE", []⟩
    redis := [⟨OAuthService.stateKey "state-1", .verifier "verifier-1", none⟩] }

def attendeeDto : RegisterDto := ⟨"Ada", "Attendee", "attendee@example.com", none, "Sunflower7"⟩

/-- Enough statements for one call. -/
def statementsFrom (now : Time) : List AuthEnv :=
  (List.range 12).map fun i ↦ sampleEnv (now + i) (toString (now + i))

theorem statementsFrom_unguessed : ∀ now ∈ [1, 101], ∀ env ∈ statementsFrom now,
    Unguessed sampleRuntime sampleAddress env := by decide +kernel

theorem plays_owner : Plays sampleRuntime sampleAddress
    (.googleSignIn true ownerGoogle "code-1" "state-1") := by
  intro now token profile hprofile
  cases hprofile
  exact ⟨rfl, rfl⟩

/-- The owner signs in before anybody has registered the address, and the other party comes too
late. -/
theorem owner_first : ∃ s : TakeoverRun, s.signedIn = true ∧
    ∀ db' r, Call.Ran (fun _ ↦ True)
      (login sampleRuntime "attendee@example.com" "Sunflower7" nobody) s.db r db' → ∀ a, r ≠ .ok a := by
  have hrun : (Call.outcome (statementsFrom 1) platformDb
      (OAuthService.handleGoogleCallback sampleRuntime ownerGoogle "code-1" "state-1")).any
        (fun p ↦ p.1.isOk && (Call.finish (statementsFrom 101) p.2
          (register sampleRuntime attendeeDto nobody)).isSome) = true := by decide +kernel
  obtain ⟨⟨r, db₁⟩, hgoogle, hrun⟩ := (Option.any_eq_true ..).mp hrun
  obtain ⟨hok, hregister⟩ := Bool.and_eq_true_iff.mp hrun
  obtain ⟨db₂, hregister⟩ := Option.isSome_iff_exists.mp hregister
  have hreach₁ : Reach (TakeoverStep sampleRuntime sampleAddress) (fun s call ↦
      Plays sampleRuntime sampleAddress call ∧ Unclaimed sampleRuntime sampleAddress s call)
      (Unvisited sampleAddress) ⟨db₁, true⟩ := by
    refine .next (a := .googleSignIn true ownerGoogle "code-1" "state-1")
      (.start (s := ⟨platformDb, false⟩) ⟨rfl, nofun⟩) ⟨plays_owner, fun _ _ ↦ nofun⟩ ⟨r, ?_, ?_⟩
    · exact Call.ran_of_outcome (statementsFrom_unguessed 1 (by simp)) hgoogle
    · exact hok.symm
  have hreach₂ := hreach₁.next (t := TakeoverRun.mk db₂ true)
    (a := TakeoverCall.register attendeeDto nobody) ⟨trivial, trivial⟩
    ⟨Call.ran_of_finish (statementsFrom_unguessed 101 (by simp)) hregister, rfl⟩
  exact ⟨_, rfl, fun db' r hr ↦ no_takeover hreach₂ rfl rfl hr⟩

/-- The other party registers the address first, and still logs in with its password after the
owner has signed in. -/
theorem other_party_first : ∃ s : TakeoverRun,
    Reach (TakeoverStep sampleRuntime sampleAddress)
      (fun _ call ↦ Plays sampleRuntime sampleAddress call) (Unvisited sampleAddress) s ∧
    s.signedIn = true ∧ ∃ a db', Call.Ran (fun _ ↦ True)
      (login sampleRuntime "attendee@example.com" "Sunflower7" nobody) s.db (.ok a) db' := by
  have hrun : (Call.finish (statementsFrom 1) platformDb
      (register sampleRuntime attendeeDto nobody)).any (fun db₁ ↦
        (Call.outcome (statementsFrom 101) db₁
          (OAuthService.handleGoogleCallback sampleRuntime ownerGoogle "code-1" "state-1")).any
            fun p ↦ p.1.isOk && (Call.outcome (statementsFrom 201) p.2
              (login sampleRuntime "attendee@example.com" "Sunflower7" nobody)).any
                fun q ↦ q.1.isOk) = true := by decide +kernel
  obtain ⟨db₁, hregister, hrun⟩ := (Option.any_eq_true ..).mp hrun
  obtain ⟨⟨r, db₂⟩, hgoogle, hrun⟩ := (Option.any_eq_true ..).mp hrun
  obtain ⟨hok, hrun⟩ := Bool.and_eq_true_iff.mp hrun
  obtain ⟨⟨q, db₃⟩, hlogin, hrun⟩ := (Option.any_eq_true ..).mp hrun
  have hreach₁ : Reach (TakeoverStep sampleRuntime sampleAddress)
      (fun _ call ↦ Plays sampleRuntime sampleAddress call) (Unvisited sampleAddress) ⟨db₁, false⟩ :=
    .next (a := .register attendeeDto nobody) (.start (s := ⟨platformDb, false⟩) ⟨rfl, nofun⟩)
      trivial ⟨Call.ran_of_finish (statementsFrom_unguessed 1 (by simp)) hregister, rfl⟩
  have hreach₂ := hreach₁.next (t := TakeoverRun.mk db₂ true)
    (a := TakeoverCall.googleSignIn true ownerGoogle "code-1" "state-1") plays_owner
    ⟨r, Call.ran_of_outcome (statementsFrom_unguessed 101 (by simp)) hgoogle, hok.symm⟩
  cases q with
  | error x => cases hrun
  | ok a => exact ⟨_, hreach₂, rfl, a, db₃, Call.ran_of_outcome (fun _ _ ↦ trivial) hlogin⟩

end Sample

end Innovents.Auth
