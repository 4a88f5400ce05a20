import Innovents.Auth.AccountGate
import Innovents.Auth.AccountLifecycle

namespace Innovents.Auth

open Innovents.Lib Innovents.Payments OtpService TokenService AuthService OAuthService
  OrganizerInvitationsService AdminUsersService AdminApprovalsService

namespace UsersService

def softDelete (userId : String) : AuthCall Unit := do
  let user ← finds "user.findFirst" fun _ db ↦ (db.users.get? userId).filter (·.deletedAt.isNone)
  match user with
  | none => throws .notFound "User not found"
  | some _ => updateUser userId fun env u ↦ { u with deletedAt := some env.now }

end UsersService

open UsersService

def ClosedAccount (id : String) (t : Table User) : Prop :=
  ∃ u, t.get? id = some u ∧ u.deletedAt.isSome = true ∧ u.status = .deactivated

def ClosedSessions (id : String) (t : Table RefreshToken) : Prop :=
  ∀ token ∈ t.rows, token.userId = id → token.revokedAt.isSome = true

/-- What the deletion of an account means. -/
structure Closed (id : String) (db : AuthDb) : Prop where
  account : ClosedAccount id db.users
  sessions : ClosedSessions id db.refreshTokens

/-- The two deletions. -/
inductive Deletion
  | softDelete
  | deactivateUser (adminUserId reason : String) (client : Client)

/-- The deletion of the account `id` runs from `db` to `db'` and is not refused. -/
def Deletion.Completes (id : String) (db db' : AuthDb) : Deletion → Prop
  | .softDelete => Call.Ran (fun _ ↦ True) (UsersService.softDelete id) db (.ok ()) db'
  | .deactivateUser adminUserId reason client => ∃ updated,
    Call.Ran (fun _ ↦ True) (AdminUsersService.deactivateUser id adminUserId reason client) db
      (.ok updated) db'

/-- A soft deletion only dates the account, so the rest has to be done already. -/
def Deletion.Effective (id : String) (db : AuthDb) : Deletion → Prop
  | .softDelete => (∀ u, db.users.get? id = some u → u.status = .deactivated) ∧
    ClosedSessions id db.refreshTokens
  | .deactivateUser .. => True

/-- What may be called after the deletion. -/
inductive AccountCall
  | gated (call : GatedCall)
  | verifyOtp (email code : String) (purpose : OtpPurpose) (client : Client)
  | requestPasswordReset (email : String)
  | confirmPasswordReset (email code newPassword : String) (client : Client)
  | softDelete (userId : String)
  | activateUser (id adminUserId : String) (client : Client)
  | suspendUser (id adminUserId reason : String) (client : Client)
  | reactivateUser (id adminUserId : String) (client : Client)
  | deactivateUser (id adminUserId reason : String) (client : Client)
  | approveAccount (userId adminId : String) (client : Client)
  | rejectAccount (userId adminId : String) (reason : Option String) (client : Client)
  | suspendAccount (userId adminId : String) (reason : Option String) (client : Client)
  | reactivateAccount (userId adminId : String) (client : Client)

/-- The call with the access token that it returns, if any. -/
def AccountCall.runs (rt : Runtime) : AccountCall → AuthCall (Option AccessToken)
  | gated call => call.issues rt
  | verifyOtp email code purpose client => do
    let _ ← AuthService.verifyOtp rt email code purpose client
    return none
  | requestPasswordReset email => do
    let _ ← AuthService.requestPasswordReset rt email
    return none
  | confirmPasswordReset email code newPassword client => do
    let _ ← AuthService.confirmPasswordReset rt email code newPassword client
    return none
  | softDelete userId => do
    UsersService.softDelete userId
    return none
  | activateUser id adminUserId client => do
    let _ ← AdminUsersService.activateUser id adminUserId client
    return none
  | suspendUser id adminUserId reason client => do
    let _ ← AdminUsersService.suspendUser rt id adminUserId reason client
    return none
  | reactivateUser id adminUserId client => do
    let _ ← AdminUsersService.reactivateUser id adminUserId client
    return none
  | deactivateUser id adminUserId reason client => do
    let _ ← AdminUsersService.deactivateUser id adminUserId reason client
    return none
  | approveAccount userId adminId client => do
    let _ ← AdminApprovalsService.approveAccount userId adminId client
    return none
  | rejectAccount userId adminId reason client => do
    let _ ← AdminApprovalsService.rejectAccount rt userId adminId reason client
    return none
  | suspendAccount userId adminId reason client => do
    let _ ← AdminApprovalsService.suspendAccount rt userId adminId reason client
    return none
  | reactivateAccount userId adminId client => do
    let _ ← AdminApprovalsService.reactivateAccount userId adminId client
    return none

/-- The account is not opened again, and no administrator suspends it. -/
def AccountCall.Leaves (id : String) : AccountCall → Prop
  | activateUser id' .. => id' ≠ id
  | suspendUser id' adminUserId .. => id' = id → id' = adminUserId
  | _ => True

/-- Calls side by side, all of them after the deletion. -/
def afterDeletion (rt : Runtime) (id : String) :
    Machine AuthDb (AuthCall (Option AccessToken)) AuthEnv :=
  Call.pool fun c ↦ ∃ call : AccountCall, call.Leaves id ∧ c = call.runs rt

section Tables

variable {id k : String} {users users' : Table User} {tokens tokens' : Table RefreshToken}
  {db : AuthDb} {u : User}

theorem ClosedAccount.update {f : User → User} (h : ClosedAccount id users)
    (hk : k ≠ id) (hf : ∀ u, (f u).id = u.id) (hu : users.update k f = .ok users') :
    ClosedAccount id users' := by
  obtain ⟨u, hget, hu'⟩ := h
  exact ⟨u, by rw [Table.get?_update hu hf, if_neg hk.symm, hget], hu'⟩

/-- A new account is another one. -/
theorem ClosedAccount.create (h : ClosedAccount id users) (hu : users.create u = .ok users') :
    u.id ≠ id ∧ ClosedAccount id users' := by
  obtain ⟨u₀, hget, hu₀⟩ := h
  obtain ⟨hne, hget'⟩ := Table.get?_create_taken hget hu
  exact ⟨hne, u₀, hget', hu₀⟩

/-- An update that closes the account, or finds it closed. -/
theorem ClosedAccount.touch {f : User → User} (h : ClosedAccount id users)
    (hf : ∀ u, (f u).id = u.id)
    (hclosed : ∀ u, u.id = id → u.deletedAt.isSome = true → u.status = .deactivated →
      (f u).deletedAt.isSome = true ∧ (f u).status = .deactivated)
    (hu : users.update k f = .ok users') : ClosedAccount id users' := by
  obtain ⟨u, hget, hdeleted, hstatus⟩ := h
  rw [ClosedAccount, Table.get?_update hu hf]
  split_ifs with hk
  · subst hk
    exact ⟨f u, by rw [hget]; rfl, hclosed u (Table.get?_eq_some.mp hget).2 hdeleted hstatus⟩
  · exact ⟨u, hget, hdeleted, hstatus⟩

theorem ClosedAccount.get (h : ClosedAccount id users) (hu : users.get? id = some u) :
    u.deletedAt.isSome = true ∧ u.status = .deactivated := by
  obtain ⟨u', hget, hu'⟩ := h
  rw [hu] at hget
  cases hget
  exact hu'

/-- An account that is not deleted is another one. -/
theorem ClosedAccount.ne_of_live (h : ClosedAccount id users) (hu : u ∈ users.rows)
    (hlive : u.deletedAt.isNone = true) : u.id ≠ id := by
  rintro rfl
  have hdeleted := (h.get (Table.get?_eq_some.mpr ⟨hu, rfl⟩)).1
  rw [Option.isNone_iff_eq_none] at hlive
  rw [hlive] at hdeleted
  cases hdeleted

theorem Closed.ne_of_account {email : String} (h : Closed id db) (hu : db.account email = some u) :
    u.id ≠ id := by
  obtain ⟨hmem, hp⟩ := Table.find?_mem hu
  rw [Bool.and_eq_true] at hp
  exact h.account.ne_of_live hmem hp.2

theorem ClosedSessions.create {token : RefreshToken} (h : ClosedSessions id tokens)
    (hne : token.userId ≠ id) (ht : tokens.create token = .ok tokens') :
    ClosedSessions id tokens' := by
  intro t hmem hid
  rw [Table.create_eq_ok.mp ht, List.mem_append, List.mem_singleton] at hmem
  rcases hmem with hmem | rfl
  · exact h t hmem hid
  · exact absurd hid hne

/-- No update makes a token valid again. -/
def KeepsRevoked (f : RefreshToken → RefreshToken) : Prop :=
  ∀ token, (f token).userId = token.userId ∧
    (token.revokedAt.isSome = true → (f token).revokedAt.isSome = true)

theorem ClosedSessions.map {f : RefreshToken → RefreshToken} {p : RefreshToken → Bool}
    (h : ClosedSessions id tokens) (hf : KeepsRevoked f)
    (ht : tokens'.rows = tokens.rows.map fun token ↦ if p token then f token else token) :
    ClosedSessions id tokens' := by
  intro t hmem hid
  rw [ht] at hmem
  obtain ⟨token, htoken, rfl⟩ := List.mem_map.mp hmem
  split_ifs at hid ⊢
  · rw [(hf token).1] at hid
    exact (hf token).2 (h token htoken hid)
  · exact h token htoken hid

theorem ClosedSessions.updateMany {f : RefreshToken → RefreshToken} {p : RefreshToken → Bool}
    (h : ClosedSessions id tokens) (hf : KeepsRevoked f)
    (ht : tokens.updateMany p f = .ok tokens') : ClosedSessions id tokens' :=
  h.map hf (Table.store_eq_ok.mp ht)

theorem ClosedSessions.update {f : RefreshToken → RefreshToken}
    (h : ClosedSessions id tokens) (hf : KeepsRevoked f)
    (ht : tokens.update k f = .ok tokens') : ClosedSessions id tokens' := by
  refine h.map (p := fun token ↦ decide (token.id = k)) hf ?_
  rw [(Table.update_eq_ok.mp ht).2]
  simp [Table.updateRows, Row.id]

theorem keepsRevoked_revoke {now : Time} : KeepsRevoked (revoke now) := fun _ ↦ ⟨rfl, fun _ ↦ rfl⟩

end Tables

section Calls

variable {α : Type} {rt : Runtime} {id k : String} {client : Client} {u : User}

/-- The tokens of a call are for another account. -/
def ForOthers (id : String) (token : Option AccessToken) : Prop :=
  ∀ t, token = some t → t.payload.sub ≠ id

theorem closed_log {params : CreateAuditLogParams} {post : Unit → Prop} (h : post ()) :
    (AuditService.log params client).Keeps (Closed id) post := by
  intro env db hdb
  obtain ⟨t, ht⟩ := AuditService.written_frame params client env db
  rw [ht]
  exact ⟨⟨hdb.account, hdb.sessions⟩, h⟩

theorem closed_updateUser {f : AuthEnv → User → User} {post : Unit → Prop} (hk : k ≠ id)
    (hf : ∀ env u, (f env u).id = u.id) (h : post ()) :
    (updateUser k f).Keeps (Closed id) post := by
  refine keeps_stores fun env db db' a hdb hs ↦ ?_
  obtain ⟨t, ht, hs⟩ := andThen_eq_ok.mp hs
  cases hs
  exact ⟨⟨hdb.account.update hk (hf env) (ofRefusal_eq_ok.mp ht), hdb.sessions⟩, h⟩

theorem closed_generateTokens {userId email : String} {roles permissions : List String}
    {familyId : Option String} {post : AuthTokensDto → Prop} (hne : userId ≠ id)
    (h : ∀ issued, issued.accessToken.payload.sub ≠ id → post issued) :
    (generateTokens rt userId email roles permissions familyId).Keeps (Closed id) post := by
  refine keeps_stores fun env db db' a hdb hs ↦ ?_
  split_ifs at hs
  obtain ⟨t, ht, hs⟩ := andThen_eq_ok.mp hs
  cases hs
  exact ⟨⟨hdb.account, hdb.sessions.create hne (ofRefusal_eq_ok.mp ht)⟩, h _ hne⟩

theorem closed_revokeWhere {p : RefreshToken → Bool} {post : Unit → Prop} (h : post ()) :
    (revokeWhere p).Keeps (Closed id) post := by
  refine keeps_stores fun env db db' a hdb hs ↦ ?_
  obtain ⟨t, ht, hs⟩ := andThen_eq_ok.mp hs
  cases hs
  exact ⟨⟨hdb.account, hdb.sessions.updateMany keepsRevoked_revoke (ofRefusal_eq_ok.mp ht)⟩, h⟩

theorem OtpWrite.closed {db db' : AuthDb} (h : OtpWrite db db') (hdb : Closed id db) :
    Closed id db' := by
  cases h <;> exact ⟨hdb.account, hdb.sessions⟩

theorem closed_verifyChallenge {identifier code : String} {purpose : OtpPurpose} {post : Bool → Prop}
    (h : ∀ a, post a) :
    (verifyChallenge rt identifier code purpose client).Keeps (Closed id) post :=
  (Call.keeps_each verifyChallenge_writes fun _ _ _ hdb hw ↦ hw.closed hdb).mono fun a _ ↦ h a

theorem closed_createChallenge {identifier : String} {purpose : OtpPurpose} {userId : Option String}
    {post : GeneratedOtpResult → Prop} (h : ∀ a, post a) :
    (createChallenge rt identifier purpose userId).Keeps (Closed id) post :=
  (Call.keeps_each createChallenge_writes fun _ _ _ hdb hw ↦ hw.closed hdb).mono fun a _ ↦ h a

theorem login_closed {email password : String} :
    (login rt email password client).Keeps (Closed id)
      fun response ↦ response.tokens.accessToken.payload.sub ≠ id := by
  refine Call.keeps_bind (keeps_finds fun env db hdb ↦ ?_)
  cases haccount : db.account (rt.normalize email) with
  | none => exact Call.keeps_bind (closed_log trivial)
  | some user =>
    have hne := hdb.ne_of_account haccount
    dsimp only [Option.map_some]
    split_ifs
    · exact Call.keeps_bind (closed_log trivial)
    · cases loginRefusal user with
      | some refusal => trivial
      | none =>
        exact Call.keeps_bind (closed_updateUser hne (fun _ _ ↦ rfl)
          (Call.keeps_bind (closed_generateTokens hne fun issued hissued ↦
            Call.keeps_bind (closed_log hissued))))

theorem verifyOtp_closed {email code : String} {purpose : OtpPurpose} :
    (verifyOtp rt email code purpose client).Keeps (Closed id) fun _ ↦ True := by
  refine Call.keeps_bind (closed_verifyChallenge fun _ ↦ ?_)
  split_ifs
  · refine Call.keeps_bind (keeps_finds fun env db hdb ↦ ?_)
    cases haccount : db.account (rt.normalize email) with
    | none => trivial
    | some user =>
      exact Call.keeps_bind (closed_updateUser (hdb.ne_of_account haccount) (fun _ _ ↦ rfl) trivial)
  · trivial

theorem requestPasswordReset_closed {email : String} :
    (requestPasswordReset rt email).Keeps (Closed id) fun _ ↦ True := by
  refine Call.keeps_bind (keeps_finds fun env db _ ↦ ?_)
  cases db.account (rt.normalize email) with
  | none => trivial
  | some user =>
    refine Call.keeps_bind (closed_createChallenge fun _ ↦ Call.keeps_bind ?_)
    refine keeps_stores fun env db db' a hdb hs ↦ ?_
    obtain ⟨db₁, hwritten, hs⟩ := andThen_eq_ok.mp hs
    obtain ⟨t, -, hwritten⟩ := andThen_eq_ok.mp hwritten
    cases hwritten
    cases hs
    refine ⟨⟨hdb.account, hdb.sessions⟩, Call.keeps_bind (keeps_stores fun env db db' a hdb hs ↦ ?_)⟩
    cases hs
    refine ⟨?_, trivial⟩
    split_ifs
    · exact ⟨hdb.account, hdb.sessions⟩
    · exact hdb

theorem blacklist_closed {jtis : List String} {post : Unit → Prop} (h : post ()) :
    (blacklistAccessTokenJtis rt jtis).Keeps (Closed id) post :=
  (Call.keeps_each (each_blacklist (G := fun _ db db' ↦ ∃ entries, db' = { db with redis := entries })
    fun _ entries ↦ ⟨entries, rfl⟩) fun _ _ _ hdb ⟨_, hw⟩ ↦ by
      rw [hw]
      exact ⟨hdb.account, hdb.sessions⟩).mono fun _ _ ↦ h

theorem confirmPasswordReset_closed {email code newPassword : String} :
    (confirmPasswordReset rt email code newPassword client).Keeps (Closed id) fun _ ↦ True := by
  refine Call.keeps_bind (closed_verifyChallenge fun _ ↦ ?_)
  refine Call.keeps_bind (keeps_finds fun env db hdb ↦ ?_)
  cases haccount : db.account (rt.normalize email) with
  | none => trivial
  | some user =>
    dsimp only
    split_ifs
    · trivial
    · trivial
    · refine Call.keeps_bind (closed_updateUser (hdb.ne_of_account haccount) (fun _ _ ↦ rfl) ?_)
      refine Call.keeps_bind (Call.keeps_bind (keeps_finds fun env db hdb ↦ ?_))
      exact Call.keeps_bind (closed_revokeWhere (blacklist_closed
        (Call.keeps_bind (closed_log trivial))))

theorem detectReuse_closed {stored : RefreshToken} {metadata : List (String × JsValue)}
    {post : AuthTokensDto → Prop} :
    (detectReuse stored metadata client).Keeps (Closed id) post :=
  Call.keeps_bind (closed_revokeWhere (Call.keeps_bind (closed_log trivial)))

theorem rotate_closed {stored : RefreshToken} {permissions : List String}
    (hne : stored.userId ≠ id) :
    (rotate rt stored u permissions client).Keeps (Closed id)
      fun issued ↦ issued.accessToken.payload.sub ≠ id := by
  refine Call.keeps_bind (keeps_stores fun env db db' a hdb hs ↦ ?_)
  obtain ⟨⟨db₁, created⟩, hrotated, hs⟩ := andThen_eq_ok.mp hs
  cases hs
  obtain ⟨claimed, hclaimed, hrotated⟩ := andThen_eq_ok.mp hrotated
  have hsessions : ClosedSessions id claimed := by
    refine hdb.sessions.updateMany ?_ (ofRefusal_eq_ok.mp hclaimed)
    exact fun _ ↦ ⟨rfl, fun _ ↦ rfl⟩
  dsimp only at hrotated
  split_ifs at hrotated
  · cases hrotated
    exact ⟨⟨hdb.account, hsessions⟩, detectReuse_closed⟩
  · obtain ⟨created, hcreated, hrotated⟩ := andThen_eq_ok.mp hrotated
    obtain ⟨linked, hlinked, hrotated⟩ := andThen_eq_ok.mp hrotated
    cases hrotated
    have hsessions : ClosedSessions id created := by
      refine hsessions.create ?_ (ofRefusal_eq_ok.mp hcreated)
      exact hne
    refine ⟨⟨hdb.account, hsessions.update ?_ (ofRefusal_eq_ok.mp hlinked)⟩,
      Call.keeps_bind (closed_log hne)⟩
    exact fun _ ↦ ⟨rfl, fun h ↦ h⟩

/-- The tokens of the account are all revoked, so one of them is reused at most. -/
theorem rotateRefreshToken_closed {rawRefreshToken : String} :
    (rotateRefreshToken rt rawRefreshToken client).Keeps (Closed id)
      fun issued ↦ issued.accessToken.payload.sub ≠ id := by
  refine Call.keeps_bind (keeps_finds fun env db hdb ↦ ?_)
  cases hstored : db.refreshTokens.find? (·.tokenHash == rt.sha256 rawRefreshToken) with
  | none => trivial
  | some stored =>
    cases huser : db.users.get? stored.userId with
    | none =>
      simp only [Option.bind_eq_bind, Option.bind_some, huser, Option.bind_none]
      trivial
    | some user =>
      simp only [Option.bind_eq_bind, Option.bind_some, huser, Option.pure_def]
      split_ifs with hrevoked
      · exact detectReuse_closed
      · refine Call.keeps_bind (keeps_stores fun env db db' a hdb hs ↦ ?_)
        obtain ⟨t, ht, hs⟩ := andThen_eq_ok.mp hs
        cases hs
        exact ⟨⟨hdb.account, hdb.sessions.update keepsRevoked_revoke (ofRefusal_eq_ok.mp ht)⟩,
          trivial⟩
      · exact Call.keeps_bind (closed_revokeWhere trivial)
      · exact rotate_closed fun hid ↦
          hrevoked (hdb.sessions stored (Table.find?_mem hstored).1 hid)

section Google

variable {google : Google}

theorem closed_updateAndRead {f : AuthEnv → User → User} {post : User × List String → Prop}
    (hk : k ≠ id) (hf : ∀ env u, (f env u).id = u.id) (h : ∀ q, q.1.id ≠ id → post q) :
    (updateAndRead k f).Keeps (Closed id) post := by
  refine keeps_stores fun env db db' a hdb hs ↦ ?_
  obtain ⟨t, ht, hs⟩ := andThen_eq_ok.mp hs
  split at hs
  · next user huser =>
    cases hs
    have huserId : user.id = k := (Table.get?_eq_some.mp huser).2
    exact ⟨⟨hdb.account.update hk (hf env) (ofRefusal_eq_ok.mp ht), hdb.sessions⟩,
      h _ fun he ↦ hk (huserId.symm.trans he)⟩
  · cases hs

/-- A sign-in is for another account, or finds the account deactivated. -/
theorem completeSignIn_closed {found : User × List String} {sub email : String}
    (hfound : found.1.id = id → found.1.status = .deactivated) :
    (completeSignIn rt found sub email).Keeps (Closed id)
      fun session ↦ session.tokens.accessToken.payload.sub ≠ id := by
  unfold completeSignIn
  cases hrefusal : signInRefusal found.1 with
  | some message => trivial
  | none =>
    have hne : found.1.id ≠ id := by
      intro hid
      unfold signInRefusal at hrefusal
      rw [hfound hid] at hrefusal
      simp only [reduceCtorEq, if_false, if_true] at hrefusal
      split_ifs at hrefusal
    have hrest (q : User × List String) (hq : q.1.id ≠ id) : ((updateUser q.1.id fun env u ↦
        { u with lastLoginAt := some env.now }).bind fun _ ↦ (touchAccount sub email).bind fun _ ↦
          (generateTokens rt q.1.id q.1.email q.1.userRoles q.2 none).bind fun tokens ↦
            pure ⟨q.1.id, q.1.email, tokens⟩ : AuthCall GoogleSession).Keeps (Closed id)
              fun session ↦ session.tokens.accessToken.payload.sub ≠ id := by
      refine Call.keeps_bind (closed_updateUser hq (fun _ _ ↦ rfl) (Call.keeps_bind ?_))
      refine keeps_stores fun env db db' a hdb hs ↦ ?_
      split at hs
      · cases hs
      · obtain ⟨t, -, hs⟩ := andThen_eq_ok.mp hs
        cases hs
        exact ⟨⟨hdb.account, hdb.sessions⟩,
          Call.keeps_bind (closed_generateTokens hq fun _ hissued ↦ hissued)⟩
    refine Call.keeps_bind ?_
    unfold activatePending
    split_ifs
    · exact closed_updateAndRead hne (fun _ _ ↦ rfl) hrest
    · exact hrest found hne

theorem linkExisting_closed {sub email : String} {post : Option (User × List String) → Prop}
    (hnone : post none) (hsome : ∀ q, q.1.id ≠ id → post (some q)) :
    (linkExisting sub email).Keeps (Closed id) post := by
  refine Call.keeps_bind (keeps_finds fun env db hdb ↦ ?_)
  cases haccount : db.account email with
  | none => exact hnone
  | some user =>
    have hne := hdb.ne_of_account haccount
    dsimp only [Option.map_some]
    split_ifs
    · refine Call.keeps_bind (keeps_stores fun env db db' a hdb hs ↦ ?_)
      obtain ⟨t, -, hs⟩ := andThen_eq_ok.mp hs
      cases hs
      exact ⟨⟨hdb.account, hdb.sessions⟩,
        Call.keeps_bind (closed_updateAndRead hne (fun _ _ ↦ rfl) hsome)⟩
    · trivial

theorem createAttendee_closed {profile : GoogleProfile} {email : String}
    {post : User × List String → Prop} (h : ∀ q, q.1.id ≠ id → post q) :
    (createAttendee rt profile email).Keeps (Closed id) post := by
  refine Call.keeps_bind (keeps_finds fun env db _ ↦ ?_)
  cases db.role "ATTENDEE" with
  | none => trivial
  | some role =>
    refine keeps_stores fun env db db' a hdb hs ↦ ?_
    obtain ⟨users, husers, hs⟩ := andThen_eq_ok.mp hs
    obtain ⟨profiles, -, hs⟩ := andThen_eq_ok.mp hs
    obtain ⟨oauthAccounts, -, hs⟩ := andThen_eq_ok.mp hs
    cases hs
    obtain ⟨hne, haccount⟩ := hdb.account.create (ofRefusal_eq_ok.mp husers)
    exact ⟨⟨haccount, hdb.sessions⟩, h _ hne⟩

theorem signIn_closed {profile : GoogleProfile} :
    (signIn rt profile).Keeps (Closed id)
      fun session ↦ session.tokens.accessToken.payload.sub ≠ id := by
  refine Call.keeps_bind (keeps_finds fun env db hdb ↦ ?_)
  split
  · next user hfound =>
    refine completeSignIn_closed fun hid ↦ ?_
    simp only [Option.bind_eq_bind, Option.bind_eq_some_iff, Option.pure_def,
      Option.some.injEq] at hfound
    obtain ⟨account, -, u, hu, rfl⟩ := hfound
    have hget : db.users.get? id = some u := by
      rw [← hid]
      exact Table.get?_eq_some.mpr ⟨(Table.get?_eq_some.mp hu).1, rfl⟩
    exact (hdb.account.get hget).2
  · refine Call.keeps_bind (linkExisting_closed ?_ fun q hq ↦ ?_)
    · exact Call.keeps_bind (createAttendee_closed fun q hq ↦
        completeSignIn_closed fun hid ↦ absurd hid hq)
    · exact completeSignIn_closed fun hid ↦ absurd hid hq

theorem redeem_closed {key message : String} {post : RedisValue → Prop} (h : ∀ value, post value) :
    (redeem key message).Keeps (Closed id) post := by
  refine Call.keeps_bind (keeps_finds fun env db _ ↦ ?_)
  split
  · trivial
  · refine Call.keeps_bind (keeps_stores fun env db db' a hdb hs ↦ ?_)
    cases hs
    refine ⟨?_, h _⟩
    split_ifs
    · exact ⟨hdb.account, hdb.sessions⟩
    · exact hdb

theorem fetchProfile_closed {code codeVerifier : String} {post : GoogleProfile → Prop}
    (h : ∀ profile, post profile) :
    (fetchProfile google code codeVerifier).Keeps (Closed id) post := by
  refine Call.keeps_bind (keeps_finds fun env db _ ↦ ?_)
  cases google.exchange env.now code codeVerifier with
  | none => trivial
  | some accessToken =>
    dsimp only
    split_ifs
    · trivial
    · refine Call.keeps_bind (keeps_finds fun env db _ ↦ ?_)
      cases google.userinfo env.now accessToken with
      | none => trivial
      | some profile =>
        dsimp only
        split_ifs
        · trivial
        · trivial
        · exact h profile

theorem handleGoogleCallback_closed {code state : String} :
    (handleGoogleCallback rt google code state).Keeps (Closed id)
      fun session ↦ session.tokens.accessToken.payload.sub ≠ id := by
  unfold handleGoogleCallback
  split_ifs
  · trivial
  · refine Call.keeps_bind (redeem_closed fun value ↦ ?_)
    unfold continueCallback
    split
    · trivial
    · split_ifs
      · trivial
      · exact Call.keeps_bind (fetchProfile_closed fun profile ↦ signIn_closed)

end Google

section Invitation

variable {tx : Pending AuthDb AuthError}

/-- What an open transaction has written keeps the account closed. -/
abbrev ClosedTx (id : String) (tx : Pending AuthDb AuthError) : Prop :=
  tx.Changes fun db db' ↦ Closed id db → Closed id db'

theorem closed_inTx {name : String} {f : AuthEnv → AuthDb → Except AuthError (AuthDb × α)}
    {post : Pending AuthDb AuthError × α → Prop} (htx : ClosedTx id tx)
    (hf : ∀ env db db' a, Closed id db → f env db = .ok (db', a) → Closed id db')
    (h : ∀ tx env db db' a, ClosedTx id tx → Closed id db → f env db = .ok (db', a) →
      post (tx, a)) : (inTx name tx f).Keeps (Closed id) post := by
  refine Call.keeps_ask fun env db q hdb hq ↦ ?_
  obtain ⟨view, hview, hq⟩ := andThen_eq_ok.mp hq
  obtain ⟨⟨view', a⟩, hf', hq⟩ := andThen_eq_ok.mp hq
  cases hq
  have hdone : env.fault = none := by
    cases hfault : env.fault with
    | none => rfl
    | some message => simp [hfault] at hf'
  simp only [hdone, Option.elim_none] at hf'
  refine h _ env view view' a ?_ (htx db view hview hdb) hf'
  refine htx.andThen (fun _ _ _ hab hbc ha ↦ hbc (hab ha)) fun db db' a hs hdb ↦ ?_
  simp only [hdone, Option.elim_none] at hs
  exact hf env db db' a hdb hs

theorem organizerAccount_closed {invitation : OrganizerInvitation} {dto : AcceptInvitationDto}
    {role : Role} {post : Pending AuthDb AuthError × String → Prop} (htx : ClosedTx id tx)
    (h : ∀ q, ClosedTx id q.1 → q.2 ≠ id → post q) :
    (organizerAccount rt tx invitation dto role).Keeps (Closed id) post := by
  refine Call.keeps_bind (keeps_finds fun env db hdb ↦ ?_)
  cases haccount : db.account invitation.email with
  | some user =>
    have hne := hdb.ne_of_account haccount
    dsimp only
    split_ifs
    · trivial
    · refine Call.keeps_bind ?_
      unfold addRole
      split_ifs
      · exact h _ htx hne
      · refine Call.keeps_bind (closed_inTx htx (fun env db db' a hdb hs ↦ ?_)
          fun tx _ _ _ _ htx _ _ ↦ h _ htx hne)
        obtain ⟨t, ht, hs⟩ := andThen_eq_ok.mp hs
        cases hs
        refine ⟨hdb.account.update hne ?_ (ofRefusal_eq_ok.mp ht), hdb.sessions⟩
        exact fun _ ↦ rfl
  | none =>
    cases dto.password.filter (· ≠ "") with
    | none => trivial
    | some password =>
      refine closed_inTx htx (fun env db db' a hdb hs ↦ ?_) fun tx env db db' a htx hdb hs ↦ ?_
      · obtain ⟨users, husers, hs⟩ := andThen_eq_ok.mp hs
        obtain ⟨profiles, -, hs⟩ := andThen_eq_ok.mp hs
        cases hs
        exact ⟨(hdb.account.create (ofRefusal_eq_ok.mp husers)).2, hdb.sessions⟩
      · obtain ⟨users, husers, hs⟩ := andThen_eq_ok.mp hs
        obtain ⟨profiles, -, hs⟩ := andThen_eq_ok.mp hs
        cases hs
        exact h _ htx (hdb.account.create (ofRefusal_eq_ok.mp husers)).1

theorem markAccepted_closed {invitation : OrganizerInvitation} {event : Event} {userId : String}
    {post : Pending AuthDb AuthError → Prop} (htx : ClosedTx id tx)
    (h : ∀ tx, ClosedTx id tx → post tx) :
    (markAccepted tx invitation event userId).Keeps (Closed id) post := by
  refine Call.keeps_bind (closed_inTx htx (fun env db db' a hdb hs ↦ ?_)
    fun tx _ _ _ _ htx _ _ ↦ Call.keeps_bind (closed_inTx htx (fun env db db' a hdb hs ↦ ?_)
      fun tx _ _ _ _ htx _ _ ↦ Call.keeps_bind (closed_inTx htx (fun env db db' a hdb hs ↦ ?_)
        fun tx _ _ _ _ htx _ _ ↦ h tx htx)))
  · split_ifs at hs
    · cases hs
      exact hdb
    · obtain ⟨t, -, hs⟩ := andThen_eq_ok.mp hs
      cases hs
      exact ⟨hdb.account, hdb.sessions⟩
  · obtain ⟨t, -, hs⟩ := andThen_eq_ok.mp hs
    cases hs
    exact ⟨hdb.account, hdb.sessions⟩
  · obtain ⟨db₁, hwritten, hs⟩ := andThen_eq_ok.mp hs
    obtain ⟨t, -, hwritten⟩ := andThen_eq_ok.mp hwritten
    cases hwritten
    cases hs
    exact ⟨hdb.account, hdb.sessions⟩

theorem acceptOpen_closed {invitation : OrganizerInvitation} {dto : AcceptInvitationDto} :
    (acceptOpen rt invitation dto client).Keeps (Closed id)
      fun response ↦ ForOthers id response.accessToken := by
  refine Call.keeps_bind (keeps_finds fun env db _ ↦ ?_)
  split
  · trivial
  · refine Call.keeps_bind (keeps_finds fun env db _ ↦ ?_)
    split
    · trivial
    · refine Call.keeps_bind (organizerAccount_closed ?_ fun q htx hne ↦ ?_)
      · intro db db' hs hdb
        cases hs
        exact hdb
      refine Call.keeps_bind (markAccepted_closed htx fun tx htx ↦ ?_)
      refine Call.keeps_bind (closed_log (Call.keeps_bind (Call.keeps_bind ?_)))
      have hcommit (tokens : Option AuthTokensDto)
          (htokens : ForOthers id (tokens.map AuthTokensDto.accessToken)) :
          ((commitTx tx).bind fun _ ↦ pure ⟨true, "Organizer invitation accepted successfully", q.2,
            invitation.eventId, tokens.map AuthTokensDto.accessToken,
            tokens.map AuthTokensDto.refreshToken⟩ :
              AuthCall AcceptedInvitationResponseDto).Keeps (Closed id)
                fun response ↦ ForOthers id response.accessToken := by
        refine Call.keeps_bind (Call.keeps_perform fun env db db' a hdb hs ↦ ?_)
        obtain ⟨⟨⟩, -, hs⟩ := andThen_eq_ok.mp hs
        obtain ⟨db₁, hdb₁, hs⟩ := andThen_eq_ok.mp hs
        cases hs
        exact ⟨htx db _ hdb₁ hdb, htokens⟩
      refine closed_inTx htx (fun env db db' a hdb hs ↦ ?_) fun tx' env db db' a _ _ hs ↦ ?_
      · cases hs
        exact hdb
      · cases hs
        cases huser : db.users.get? q.2 with
        | none => exact hcommit none nofun
        | some user =>
          have huserId : user.id = q.2 := (Table.get?_eq_some.mp huser).2
          have hother : user.id ≠ id := fun he ↦ hne (huserId.symm.trans he)
          refine Call.keeps_bind (closed_generateTokens hother fun issued hissued ↦ ?_)
          refine hcommit (some issued) fun t ht ↦ ?_
          cases ht
          exact hissued

theorem acceptInvitation_closed {dto : AcceptInvitationDto} :
    (acceptInvitation rt dto client).Keeps (Closed id)
      fun response ↦ ForOthers id response.accessToken := by
  refine Call.keeps_bind (keeps_finds fun env db _ ↦ ?_)
  dsimp only
  split
  · trivial
  · split_ifs
    · trivial
    · trivial
    · exact Call.keeps_bind (Call.keeps_ask fun _ _ _ _ _ ↦ trivial)
    · exact acceptOpen_closed

end Invitation

section Administration

theorem closed_updateAccount {f : User → User} {revokesTokens : Bool}
    {event : CreateOutboxEventParams} {env : AuthEnv} {db db' : AuthDb} {a : Option User}
    (hdb : Closed id db) (h : updateAccount k f revokesTokens event env db = .ok (db', a))
    (hf : ∀ users, db.users.update k f = .ok users → ClosedAccount id users) : Closed id db' := by
  obtain ⟨users, husers, h⟩ := andThen_eq_ok.mp h
  obtain ⟨refreshTokens, htokens, h⟩ := andThen_eq_ok.mp h
  obtain ⟨db₁, hwritten, h⟩ := andThen_eq_ok.mp h
  obtain ⟨t, -, hwritten⟩ := andThen_eq_ok.mp hwritten
  cases hwritten
  cases h
  refine ⟨hf users (ofRefusal_eq_ok.mp husers), ?_⟩
  unfold endSessions at htokens
  split_ifs at htokens
  · exact hdb.sessions.updateMany keepsRevoked_revoke (ofRefusal_eq_ok.mp htokens)
  · cases htokens
    exact hdb.sessions

/-- The action of an administrator on another account, or one that leaves the account closed. -/
theorem closed_action {name : String} {f : AuthEnv → User → User} {revokesTokens : Bool}
    {event : CreateOutboxEventParams} {entry : CreateAuditLogParams}
    (hf : ∀ env db users, Closed id db → db.users.update k (f env) = .ok users →
      ClosedAccount id users) :
    (((stores name fun env db ↦ updateAccount k (f env) revokesTokens event env db).bind
      fun updated ↦ (AuditService.log entry client).bind fun _ ↦ pure updated) :
        AuthCall (Option User)).Keeps (Closed id) fun _ ↦ True := by
  refine Call.keeps_bind (keeps_stores fun env db db' a hdb hs ↦ ?_)
  exact ⟨closed_updateAccount hdb hs fun users ↦ hf env db users hdb,
    Call.keeps_bind (closed_log trivial)⟩

theorem activateUser_closed {adminUserId : String} (hk : k ≠ id) :
    (activateUser k adminUserId client).Keeps (Closed id) fun _ ↦ True := by
  refine Call.keeps_bind (keeps_finds fun env db _ ↦ ?_)
  cases db.users.get? k with
  | none => trivial
  | some user =>
    exact closed_action fun env db users hdb ↦ hdb.account.update hk fun _ ↦ rfl

theorem suspendUser_closed {adminUserId reason : String} (hk : k = id → k = adminUserId) :
    (suspendUser rt k adminUserId reason client).Keeps (Closed id) fun _ ↦ True := by
  unfold suspendUser
  split_ifs with hself
  · trivial
  · refine Call.keeps_bind (keeps_finds fun env db _ ↦ ?_)
    cases db.users.get? k with
    | none => trivial
    | some user =>
      exact closed_action fun env db users hdb ↦
        hdb.account.update (fun he ↦ hself (hk he)) fun _ ↦ rfl

/-- A closed account is neither suspended nor rejected. -/
theorem reactivateUser_closed {adminUserId : String} :
    (reactivateUser k adminUserId client).Keeps (Closed id) fun _ ↦ True := by
  refine Call.keeps_bind (keeps_finds fun env db hdb ↦ ?_)
  cases huser : db.users.get? k with
  | none => trivial
  | some user =>
    dsimp only
    split_ifs with hstatus
    · trivial
    · refine closed_action fun env db users hdb' ↦ hdb'.account.update (fun he ↦ ?_) fun _ ↦ rfl
      subst he
      have hdeactivated := (hdb.account.get huser).2
      simp [hdeactivated] at hstatus

theorem deactivateUser_closed {adminUserId reason : String} :
    (deactivateUser k adminUserId reason client).Keeps (Closed id) fun _ ↦ True := by
  unfold deactivateUser
  split_ifs
  · trivial
  · refine Call.keeps_bind (keeps_finds fun env db _ ↦ ?_)
    cases db.users.get? k with
    | none => trivial
    | some user =>
      exact closed_action fun env db users hdb ↦
        hdb.account.touch (fun _ ↦ rfl) fun _ _ _ _ ↦ ⟨rfl, rfl⟩

/-- The approvals service only works on accounts that are not deleted. -/
theorem inTransaction_closed {name notBusiness : String} {decide : User → Decision}
    (hf : ∀ user message status f revokesTokens entry event now,
      decide user = .act message status f revokesTokens entry event → ∀ u, (f now u).id = u.id) :
    (inTransaction name k notBusiness decide client).Keeps (Closed id) fun _ ↦ True := by
  refine keeps_stores fun env db db' a hdb hs ↦ ⟨?_, trivial⟩
  split at hs
  · cases hs
  · next user huser =>
    obtain ⟨hget, hlive⟩ := Option.filter_eq_some_iff.mp huser
    obtain ⟨hmem, hid⟩ := Table.get?_eq_some.mp hget
    have hk : k ≠ id := hid ▸ hdb.account.ne_of_live hmem hlive
    split_ifs at hs
    split at hs
    · cases hs
    · cases hs
      exact hdb
    · next message status f revokesTokens entry event hdecide =>
      obtain ⟨⟨db₁, _⟩, hupdate, hs⟩ := andThen_eq_ok.mp hs
      cases hs
      obtain ⟨logs, hlogs⟩ := AuditService.written_frame entry client env db
      rw [hlogs] at hupdate
      have hlogged : Closed id { db with auditLogs := logs } := ⟨hdb.account, hdb.sessions⟩
      exact closed_updateAccount hlogged hupdate fun users ↦
        hdb.account.update hk (hf _ _ _ _ _ _ _ _ hdecide)

theorem approveAccount_closed {adminId : String} :
    (approveAccount k adminId client).Keeps (Closed id) fun _ ↦ True := by
  refine inTransaction_closed fun user message status f revokesTokens entry event now hdecide ↦ ?_
  unfold decideApproval at hdecide
  split_ifs at hdecide
  split at hdecide <;> cases hdecide
  exact fun _ ↦ rfl

theorem rejectAccount_closed {adminId : String} {reason : Option String} :
    (rejectAccount rt k adminId reason client).Keeps (Closed id) fun _ ↦ True := by
  refine inTransaction_closed fun user message status f revokesTokens entry event now hdecide ↦ ?_
  unfold decideRejection at hdecide
  split at hdecide
  · cases hdecide
  · split at hdecide <;> cases hdecide
    exact fun _ ↦ rfl

theorem suspendAccount_closed {adminId : String} {reason : Option String} :
    (suspendAccount rt k adminId reason client).Keeps (Closed id) fun _ ↦ True := by
  refine inTransaction_closed fun user message status f revokesTokens entry event now hdecide ↦ ?_
  unfold decideSuspension at hdecide
  dsimp only at hdecide
  split at hdecide <;> cases hdecide
  exact fun _ ↦ rfl

theorem reactivateAccount_closed {adminId : String} :
    (reactivateAccount k adminId client).Keeps (Closed id) fun _ ↦ True := by
  refine inTransaction_closed fun user message status f revokesTokens entry event now hdecide ↦ ?_
  unfold decideReactivation at hdecide
  split at hdecide <;> cases hdecide
  · exact fun _ ↦ rfl
  · exact fun _ ↦ rfl

theorem softDelete_closed : (UsersService.softDelete k).Keeps (Closed id) fun _ ↦ True := by
  refine Call.keeps_bind (keeps_finds fun env db hdb ↦ ?_)
  cases huser : (db.users.get? k).filter (·.deletedAt.isNone) with
  | none => trivial
  | some user =>
    obtain ⟨hget, hlive⟩ := Option.filter_eq_some_iff.mp huser
    obtain ⟨hmem, hid⟩ := Table.get?_eq_some.mp hget
    exact closed_updateUser (hid ▸ hdb.account.ne_of_live hmem hlive) (fun _ _ ↦ rfl) trivial

end Administration

/-- Every call that leaves the account alone keeps it closed, and its tokens are for others. -/
theorem runs_closed {call : AccountCall} (h : call.Leaves id) :
    (call.runs rt).Keeps (Closed id) (ForOthers id) := by
  have none_of {β : Type} {c : AuthCall β} (hc : c.Keeps (Closed id) fun _ ↦ True) :
      (c.bind fun _ ↦ pure none).Keeps (Closed id) (ForOthers id) :=
    Call.keeps_bind (hc.mono fun _ _ ↦ nofun)
  have some_of {β : Type} {c : AuthCall β} {f : β → AccessToken}
      (hc : c.Keeps (Closed id) fun b ↦ (f b).payload.sub ≠ id) :
      (c.bind fun b ↦ pure (some (f b))).Keeps (Closed id) (ForOthers id) :=
    Call.keeps_bind (hc.mono fun b hb t ht ↦ by
      cases ht
      exact hb)
  cases call with
  | gated call =>
    cases call with
    | login email password client => exact some_of login_closed
    | rotateRefreshToken rawRefreshToken client => exact some_of rotateRefreshToken_closed
    | handleGoogleCallback google code state => exact some_of handleGoogleCallback_closed
    | acceptInvitation dto client => exact Call.keeps_bind (acceptInvitation_closed.mono fun _ h ↦ h)
  | verifyOtp email code purpose client => exact none_of verifyOtp_closed
  | requestPasswordReset email => exact none_of requestPasswordReset_closed
  | confirmPasswordReset email code newPassword client => exact none_of confirmPasswordReset_closed
  | softDelete userId => exact none_of softDelete_closed
  | activateUser k adminUserId client => exact none_of (activateUser_closed h)
  | suspendUser k adminUserId reason client => exact none_of (suspendUser_closed h)
  | reactivateUser k adminUserId client => exact none_of reactivateUser_closed
  | deactivateUser k adminUserId reason client => exact none_of deactivateUser_closed
  | approveAccount userId adminId client => exact none_of approveAccount_closed
  | rejectAccount userId adminId reason client => exact none_of rejectAccount_closed
  | suspendAccount userId adminId reason client => exact none_of suspendAccount_closed
  | reactivateAccount userId adminId client => exact none_of reactivateAccount_closed

end Calls

section Runs

variable {id : String} {db₀ db : AuthDb} {deletion : Deletion}

theorem softDelete_returns {ok : AuthEnv → Prop} :
    (UsersService.softDelete id).Returns ok db₀ fun _ db ↦ Closed id db ↔
      Deletion.softDelete.Effective id db₀ := by
  refine Call.returns_bind (returns_finds fun env _ ↦ ?_)
  cases huser : (db₀.users.get? id).filter (·.deletedAt.isNone) with
  | none => exact Call.returns_error
  | some user =>
    have hget := (Option.filter_eq_some_iff.mp huser).1
    refine returns_updateUser (fun _ _ ↦ rfl) hget fun env t ht ↦ ?_
    constructor
    · rintro ⟨haccount, hsessions⟩
      refine ⟨fun u hu ↦ ?_, hsessions⟩
      rw [hget] at hu
      cases hu
      exact (haccount.get ht).2
    · rintro ⟨hstatus, hsessions⟩
      exact ⟨⟨_, ht, rfl, hstatus user hget⟩, hsessions⟩

theorem deactivateUser_returns {ok : AuthEnv → Prop} {adminUserId reason : String}
    {client : Client} : (AdminUsersService.deactivateUser id adminUserId reason client).Returns ok db₀
      fun _ db ↦ Closed id db := by
  unfold AdminUsersService.deactivateUser
  split_ifs
  · exact Call.returns_error
  · refine Call.returns_bind (returns_finds fun env _ ↦ ?_)
    cases huser : db₀.users.get? id with
    | none => exact Call.returns_error
    | some user =>
      refine Call.returns_bind (returns_stores fun env db' a _ hs ↦ ?_)
      refine Call.returns_bind (returns_log fun t ↦ Call.returns_ok ?_)
      obtain ⟨users, husers, hs⟩ := andThen_eq_ok.mp hs
      obtain ⟨refreshTokens, htokens, hs⟩ := andThen_eq_ok.mp hs
      obtain ⟨db₁, hwritten, hs⟩ := andThen_eq_ok.mp hs
      obtain ⟨events, -, hwritten⟩ := andThen_eq_ok.mp hwritten
      cases hwritten
      cases hs
      refine ⟨⟨_, get?_updateUser huser husers fun _ ↦ rfl, rfl, rfl⟩, fun token hmem hid ↦ ?_⟩
      have hrows := Table.store_eq_ok.mp (ofRefusal_eq_ok.mp htokens)
      rw [hrows] at hmem
      obtain ⟨old, -, rfl⟩ := List.mem_map.mp hmem
      split_ifs at hid ⊢ with hp
      · rfl
      · rw [Bool.and_eq_true, beq_iff_eq, not_and] at hp
        exact Option.isSome_iff_ne_none.mpr fun hnone ↦
          hp hid (Option.isNone_iff_eq_none.mpr hnone)

/-- What a deletion that completes leaves behind. -/
theorem deletion_closes (h : deletion.Completes id db₀ db) :
    Closed id db ↔ deletion.Effective id db₀ := by
  cases deletion with
  | softDelete => exact softDelete_returns () db h
  | deactivateUser adminUserId reason client =>
    obtain ⟨updated, hr⟩ := h
    exact iff_of_true (deactivateUser_returns updated db hr) trivial

/-- A deletion closes the account just when it is effective, and then the calls after it keep it
closed in every interleaving and issue no tokens for it. -/
theorem deleted_stays_closed (rt : Runtime) (h : deletion.Completes id db₀ db) :
    (Closed id db ↔ deletion.Effective id db₀) ∧
      (deletion.Effective id db₀ → ∀ p,
        Reach (afterDeletion rt id).Step (fun _ _ ↦ True) (fun p ↦ p = ⟨db, []⟩) p →
          Closed id p.shared ∧ ∀ token, .returned (.ok (some token)) ∈ p.threads →
            token.payload.sub ≠ id) := by
  refine ⟨deletion_closes h, fun heffective p hp ↦ ?_⟩
  obtain ⟨hclosed, hthreads⟩ : Closed id p.shared ∧
      ∀ c ∈ p.threads, c.Keeps (Closed id) (ForOthers id) :=
    Call.keeps_pool ((deletion_closes h).mpr heffective)
      (fun c ⟨call, hleaves, hc⟩ ↦ hc ▸ runs_closed hleaves) hp
  exact ⟨hclosed, fun token ht ↦ hthreads _ ht token rfl⟩

end Runs

section Sample

def twoSeconds : List AuthEnv := [sampleEnv 1000 "1", sampleEnv 2000 "2"]

/-- A deactivated attendee starts a login. -/
theorem deactivated_attendee : ∃ db,
    (Deletion.deactivateUser "admin-1" "spam" nobody).Completes "user-1" attendeeDb db ∧
      Closed "user-1" db ∧ ∀ p, Reach (afterDeletion sampleRuntime "user-1").Step
        (fun _ _ ↦ True) (fun p ↦ p = ⟨db, []⟩) p → Closed "user-1" p.shared := by
  have hrun : ((deactivateUser "user-1" "admin-1" "spam" nobody).outcome
      (sampleEnv 0 "0" :: twoSeconds) attendeeDb).any (fun q ↦ q.1.isOk) = true := by decide +kernel
  obtain ⟨⟨r, db⟩, hout, hok⟩ := (Option.any_eq_true ..).mp hrun
  cases r with
  | error x => cases hok
  | ok updated =>
    have hcompletes : (Deletion.deactivateUser "admin-1" "spam" nobody).Completes "user-1"
        attendeeDb db := ⟨updated, Call.ran_of_outcome (fun _ _ ↦ trivial) hout⟩
    obtain ⟨hclosed, hstays⟩ := deleted_stays_closed sampleRuntime hcompletes
    exact ⟨db, hcompletes, hclosed.mpr trivial, fun p hp ↦ (hstays trivial p hp).1⟩

/-- An attendee that has deleted its account is still active. -/
theorem soft_deleted_active : ∃ db, Deletion.softDelete.Completes "user-1" attendeeDb db ∧
    (∃ u, db.users.get? "user-1" = some u ∧ u.status = .active) ∧ ¬Closed "user-1" db := by
  have hrun : ((UsersService.softDelete "user-1").outcome twoSeconds attendeeDb).any
      (fun q ↦ q.1.isOk && (q.2.users.get? "user-1").any (·.status == .active)) = true := by
    decide +kernel
  obtain ⟨⟨r, db⟩, hout, htest⟩ := (Option.any_eq_true ..).mp hrun
  rw [Bool.and_eq_true] at htest
  obtain ⟨u, hu, hactive⟩ := (Option.any_eq_true ..).mp htest.2
  rw [beq_iff_eq] at hactive
  cases r with
  | error x => cases htest.1
  | ok a =>
    refine ⟨db, Call.ran_of_outcome (fun _ _ ↦ trivial) hout, ⟨u, hu, hactive⟩, fun hclosed ↦ ?_⟩
    have hstatus := (hclosed.account.get hu).2
    rw [hactive] at hstatus
    cases hstatus

end Sample

end Innovents.Auth
