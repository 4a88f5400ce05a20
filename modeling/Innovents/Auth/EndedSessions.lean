import Innovents.Auth.Guards

namespace Innovents.Auth

open Innovents.Lib Innovents.Payments TokenService

section Sessions

variable {rt : Runtime} {google : Google} {decode : String → Option AccessToken}
  {context : ExecutionContext} {guards : List Guard} {request out : HttpRequest}
  {db db' : AuthDb} {env : AuthEnv} {issued clock : Time} {payload : JwtPayload}
  {row : RefreshToken} {op : RedisCall}

/-- The call ends the session of the refresh token. -/
def TokenService.RedisCall.Ends (rt : Runtime) (db : AuthDb) (row : RefreshToken) : RedisCall → Prop
  | revokeAllUserSessions userId => row.userId = userId
  | revokeRefreshToken rawRefreshToken =>
    ∃ stored, db.refreshTokens.find? (·.tokenHash == rt.sha256 rawRefreshToken) = some stored ∧
      row.familyId = stored.familyId
  | handleGoogleCallback _ _ | createOAuthExchangeCode _ | exchangeOAuthCode _ => False

/-- The request bears the access token. -/
def Bears (decode : String → Option AccessToken) (request : HttpRequest) (access : AccessToken) : Prop :=
  ∃ token, (JwtAuthGuard.authHeader request).bind JwtAuthGuard.tokenOf = some token ∧
    decode token = some access

theorem ran_found_ok {α : Type} {ok : AuthEnv → Prop} {name : String} {f : AuthEnv → AuthDb → α}
    {a : α} (h : Call.Ran ok (finds name f) db (.ok a) db') : (∃ env, f env db = a) ∧ db' = db := by
  obtain ⟨env, -, ha, rfl⟩ := Call.ran_ask.mp h
  cases hfault : env.fault with
  | some message =>
    rw [hfault] at ha
    cases ha
  | none =>
    rw [hfault] at ha
    exact ⟨⟨env, (Except.ok.inj ha).symm⟩, rfl⟩

/-- Whoever ends a session puts the access tokens on the blacklist that were issued with its refresh
tokens. -/
theorem ends_lists {ok : AuthEnv → Prop} (hok : ∀ env, ok env → Available env ∧ issued ≤ env.now)
    (hrow : row ∈ db.refreshTokens.rows) (hends : op.Ends rt db row)
    (h : Call.Ran ok (op.run rt google) db (.ok ()) db') : Listed rt row.jti issued db' := by
  cases op with
  | revokeAllUserSessions userId =>
    obtain ⟨userTokens, db₁, hfound, h⟩ := Call.ran_bind_ok.mp h
    obtain ⟨_, db₂, hrevoked, hblacklist⟩ := Call.ran_bind_ok.mp h
    obtain ⟨⟨e, rfl⟩, rfl⟩ := ran_found_ok hfound
    refine blacklist_lists hok hblacklist (List.mem_map_of_mem (List.mem_filter.mpr ⟨hrow, ?_⟩))
    exact beq_iff_eq.mpr hends
  | revokeRefreshToken rawRefreshToken =>
    obtain ⟨stored, hstored, hfamily⟩ := hends
    obtain ⟨found, db₁, hfound, h⟩ := Call.ran_bind_ok.mp h
    obtain ⟨⟨e, rfl⟩, rfl⟩ := ran_found_ok hfound
    rw [hstored] at h
    obtain ⟨familyTokens, db₂, hfamilyFound, hrest⟩ := Call.ran_bind_ok.mp h
    obtain ⟨_, db₃, hrevoked, hblacklist⟩ := Call.ran_bind_ok.mp hrest
    obtain ⟨⟨e', rfl⟩, rfl⟩ := ran_found_ok hfamilyFound
    refine blacklist_lists hok hblacklist (List.mem_map_of_mem (List.mem_filter.mpr ⟨hrow, ?_⟩))
    exact beq_iff_eq.mpr hfamily
  | handleGoogleCallback | createOAuthExchangeCode | exchangeOAuthCode => exact hends.elim

/-- A listed token does not vouch for anybody. -/
theorem listed_not_vouched {other : JwtPayload} (hlisted : Listed rt payload.jti issued db)
    (hlife : rt.lifetime rt.accessExpiresIn ≤ getAccessTokenTtlSeconds rt)
    (hconnected : env.redisConnected = true) (hbears : Bears decode request (sign rt payload issued)) :
    ¬Vouched decode env db request other := by
  rintro ⟨token, access, htoken, hdecode, rfl, hexp, -, hlookup⟩
  obtain ⟨token', htoken', hdecode'⟩ := hbears
  cases htoken.symm.trans htoken'
  cases hdecode.symm.trans hdecode'
  refine hlookup ⟨hconnected, listed_lookup hlisted (lt_of_lt_of_le hexp ?_)⟩
  have hle : (rt.lifetime rt.accessExpiresIn : ℤ) ≤ getAccessTokenTtlSeconds rt := by
    exact_mod_cast hlife
  show issued + _ * 1000 ≤ issued + _ * 1000
  linarith

/-- Whoever ends a session takes at least one statement for it. -/
theorem ends_after {ok : AuthEnv → Prop} {r : Except AuthError Unit} (hends : op.Ends rt db row)
    (h : Call.Ran ok (op.run rt google) db r db') : ∃ env, ok env := by
  cases op with
  | revokeAllUserSessions | revokeRefreshToken =>
    obtain ⟨env, henv, -⟩ := Call.ran_request.mp h
    exact ⟨env, henv⟩
  | handleGoogleCallback | createOAuthExchangeCode | exchangeOAuthCode => exact hends.elim

/-- A session that has been ended stays ended. When a logout of its family or of all sessions of its
user has succeeded, with Redis at hand and without a call in between, then whatever else goes on, no
request that bears one of its access tokens is ever taken for a user again: the guards refuse it, or
let it pass as a visitor where the endpoint is public and asks for no role, permission or owner. -/
theorem ended_session_refused {p₀ p : Pool (Time × AuthDb) (AuthCall Unit)}
    (hlife : rt.lifetime rt.accessExpiresIn ≤ getAccessTokenTtlSeconds rt)
    (hp₀ : Reach (redisCalls rt google).Step (fun _ _ ↦ True) (fun p ↦ p.threads = []) p₀)
    (hrow : row ∈ p₀.shared.2.refreshTokens.rows) (hends : op.Ends rt p₀.shared.2 row)
    (hop : Call.Ran (fun env ↦ Available env ∧ p₀.shared.1 ≤ env.now ∧ env.now ≤ clock)
      (op.run rt google) p₀.shared.2 (.ok ()) db)
    (hp : Reach (redisCalls rt google).Step (fun _ _ ↦ True)
      (fun p ↦ p = ⟨(clock, db), p₀.threads⟩) p)
    (hjti : payload.jti = row.jti) (hissued : issued ≤ p₀.shared.1)
    (hbears : Bears decode request (sign rt payload issued)) (hanonymous : request.user = none)
    (hconnected : env.redisConnected = true)
    (h : Call.Ran (· = env) (activate decode context (.jwtAuth :: guards) request) p.shared.2
      (.ok out) db') :
    Public context ∧ out.user = none ∧ Guard.resourceOwner ∉ guards ∧
      (Guard.roles ∈ guards → required RouteMetadata.roles context = none) ∧
        (Guard.permissions ∈ guards → required RouteMetadata.permissions context = none) := by
  have hlisted : Listed rt row.jti issued db :=
    ends_lists (fun env henv ↦ ⟨henv.1, hissued.trans henv.2.1⟩) hrow hends hop
  have hclock : issued ≤ clock := by
    obtain ⟨env, -, hnow, hlater⟩ := ends_after hends hop
    exact (hissued.trans hnow).trans hlater
  have hstays := stays_listed hp (threads_renew hp₀) hclock hlisted
  rw [← hjti] at hstays
  have hnone : ∀ other, ¬Vouched decode env p.shared.2 request other :=
    fun _ ↦ listed_not_vouched hstays hlife hconnected hbears
  obtain ⟨-, hidentified, hallows⟩ := guards_admit.mp h
  rcases hidentified with ⟨other, hvouched, -⟩ | ⟨hpublic, -, rfl⟩
  · exact absurd hvouched (hnone other)
  · refine ⟨hpublic, hanonymous, fun howner ↦ ?_, fun hroles ↦ ?_, fun hpermissions ↦ ?_⟩
    · obtain ⟨user, huser, -⟩ := hallows _ howner
      rw [hanonymous] at huser
      cases huser
    · refine Option.eq_none_iff_forall_not_mem.mpr fun requiredRoles hrequired ↦ ?_
      obtain ⟨user, huser, -⟩ := hallows _ hroles requiredRoles hrequired
      rw [hanonymous] at huser
      cases huser
    · refine Option.eq_none_iff_forall_not_mem.mpr fun requiredPermissions hrequired ↦ ?_
      obtain ⟨user, huser, -⟩ := hallows _ hpermissions requiredPermissions hrequired
      rw [hanonymous] at huser
      cases huser

end Sessions

section Sample

def heldToken : RefreshToken where
  id := "token-1"
  userId := "user-1"
  tokenHash := sampleRuntime.sha256 "refresh-1"
  familyId := "family-1"
  jti := "jti-1"
  expiresAt := 604800000
  revokedAt := none
  replacedByTokenId := none
  lastUsedAt := none

def heldDb : AuthDb :=
  { AuthDb.empty with
    users := .singleton attendee
    refreshTokens := .singleton heldToken }

def samplePayload : JwtPayload := ⟨"user-1", "attendee@example.com", ["ATTENDEE"], [], "jti-1"⟩

/-- One text is signed. -/
def sampleDecode (text : String) : Option AccessToken :=
  if text = "signed" then some (sign sampleRuntime samplePayload 0) else none

/-- A public endpoint, and a request that bears the token. -/
def publicRoute : ExecutionContext := ⟨⟨some true, none, none⟩, ⟨none, none, none⟩⟩

def signedRequest : HttpRequest := ⟨some "Bearer signed", [], none⟩

/-- After the logout the user is a visitor of the public endpoint. -/
theorem visits_after_logout : ∃ db out db', Call.Ran (· = sampleEnv 2000 "2")
      (activate sampleDecode publicRoute [.jwtAuth, .roles] signedRequest) db (.ok out) db' ∧
    Public publicRoute ∧ out.user = none ∧ Guard.resourceOwner ∉ [Guard.roles] ∧
      (Guard.roles ∈ [Guard.roles] → required RouteMetadata.roles publicRoute = none) ∧
        (Guard.permissions ∈ [Guard.roles] →
          required RouteMetadata.permissions publicRoute = none) := by
  obtain ⟨db, out, db', hlogout, hvisit⟩ : ∃ db out db', Call.outcome
      ((List.range 4).map fun _ ↦ sampleEnv 1000 "1") heldDb
        ((RedisCall.revokeRefreshToken "refresh-1").run sampleRuntime noGoogle) = some (.ok (), db) ∧
      Call.outcome ((List.range 2).map fun _ ↦ sampleEnv 2000 "2") db
        (activate sampleDecode publicRoute [.jwtAuth, .roles] signedRequest) =
          some (.ok out, db') := ⟨_, _, _, rfl, rfl⟩
  have hran : Call.Ran (· = sampleEnv 2000 "2") (activate sampleDecode publicRoute
      [.jwtAuth, .roles] signedRequest) db (.ok out) db' :=
    Call.ran_of_outcome (by simp) hvisit
  refine ⟨db, out, db', hran, ?_⟩
  have hop : Call.Ran (fun env ↦ Available env ∧ 0 ≤ env.now ∧ env.now ≤ 1000)
      ((RedisCall.revokeRefreshToken "refresh-1").run sampleRuntime noGoogle) heldDb (.ok ()) db := by
    refine Call.ran_of_outcome (fun env henv ↦ ?_) hlogout
    obtain ⟨_, -, rfl⟩ := List.mem_map.mp henv
    exact ⟨⟨rfl, rfl⟩, by decide, by decide⟩
  have hbears : Bears sampleDecode signedRequest (sign sampleRuntime samplePayload 0) :=
    ⟨"signed", by decide +kernel, rfl⟩
  have hends : (RedisCall.revokeRefreshToken "refresh-1").Ends sampleRuntime heldDb heldToken :=
    ⟨heldToken, rfl, rfl⟩
  have hbefore : Reach (redisCalls sampleRuntime noGoogle).Step (fun _ _ ↦ True)
      (fun p ↦ p.threads = []) ⟨(0, heldDb), []⟩ := .start rfl
  have hafter : Reach (redisCalls sampleRuntime noGoogle).Step (fun _ _ ↦ True)
      (fun p ↦ p = ⟨(1000, db), []⟩) ⟨(1000, db), []⟩ := .start rfl
  exact ended_session_refused (by decide +kernel) hbefore (List.mem_singleton_self _) hends hop hafter
    rfl le_rfl hbears rfl rfl hran

end Sample

end Innovents.Auth
