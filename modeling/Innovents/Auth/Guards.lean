import Innovents.Auth.AccessBlacklist

namespace Innovents.Auth

open Innovents.Lib

/-- What the decorators of a handler or of its controller set. -/
structure RouteMetadata where
  isPublic : Option Bool
  roles : Option (List String)
  permissions : Option (List String)

structure ExecutionContext where
  handler : RouteMetadata
  controller : RouteMetadata

structure HttpRequest where
  authorization : Option String
  params : List (String × String)
  user : Option JwtPayload

inductive Guard
  | jwtAuth | roles | permissions | resourceOwner
  deriving DecidableEq

/-- What the handler sets goes before what its controller sets. -/
def getAllAndOverride {α : Type} (key : RouteMetadata → Option α) (context : ExecutionContext) :
    Option α := (key context.handler).or (key context.controller)

namespace JwtAuthGuard

/-- `authHeader && authHeader.startsWith('Bearer ')` -/
def authHeader (request : HttpRequest) : Option String :=
  request.authorization.filter fun header ↦ "Bearer ".toList.isPrefixOf header.toList

/-- `authHeader.split(' ')[1]`, unless it is empty -/
def tokenOf (header : String) : Option String :=
  ((header.toList.splitOn ' ')[1]?.filter (· ≠ [])).map String.ofList

section

-- `decode` takes the texts apart that were signed with the secret
variable (decode : String → Option AccessToken)

def verifyAccessToken (token : String) : AuthCall JwtPayload :=
  .ask "jwt.verify" fun env _ ↦
    match decode token with
    | none => .error (.http .unauthorized "Invalid or expired access token")
    | some token => TokenService.verifyAccessToken token env.now

/-- The payload of a token, and whether it was revoked. -/
def verified (token : String) : AuthCall (JwtPayload × Bool) := do
  let payload ← verifyAccessToken decode token
  let revoked ← TokenService.isAccessTokenRevoked payload.jti
  return (payload, revoked)

/-- On a public endpoint the token is optional, and a bad one is ignored. -/
def canActivate (context : ExecutionContext) (request : HttpRequest) : AuthCall HttpRequest :=
  if getAllAndOverride RouteMetadata.isPublic context = some true then
    match (authHeader request).bind tokenOf with
    | none => return request
    | some token => do
      let result ← (verified decode token).attempt
      match result with
      | .ok (payload, false) => return { request with user := some payload }
      | _ => return request
  else do
    let header ← .returned (present (authHeader request)
      (.http .unauthorized "Authentication credentials missing or malformed"))
    let token ← .returned (present (tokenOf header) (.http .unauthorized "Bearer token missing"))
    let (payload, revoked) ← verified decode token
    .returned (demand (revoked = false)
      (.http .unauthorized "Access token has been revoked. Please log in again."))
    return { request with user := some payload }

end

end JwtAuthGuard

/-- A list of requirements, if there are any. -/
def required (key : RouteMetadata → Option (List String)) (context : ExecutionContext) :
    Option (List String) := (getAllAndOverride key context).filter (· ≠ [])

/-- `names.join(', ')` -/
def joined (names : List String) : String := ", ".intercalate names

def RolesGuard.canActivate (context : ExecutionContext) (request : HttpRequest) :
    Except AuthError Unit :=
  match required RouteMetadata.roles context with
  | none => .ok ()
  | some requiredRoles =>
    match request.user with
    | none => .error (.http .forbidden "User context or roles not established")
    | some user =>
      demand ("ADMIN" ∈ user.roles ∨ requiredRoles.any (· ∈ user.roles))
        (.http .forbidden s!"Access denied: Required one of roles [{joined requiredRoles}]")

def PermissionsGuard.canActivate (context : ExecutionContext) (request : HttpRequest) :
    Except AuthError Unit :=
  match required RouteMetadata.permissions context with
  | none => .ok ()
  | some requiredPermissions =>
    match request.user with
    | none => .error (.http .forbidden "User context or permissions not established")
    | some user =>
      demand ("ADMIN" ∈ user.roles ∨ "manage:all" ∈ user.permissions ∨
          requiredPermissions.all (· ∈ user.permissions))
        (.http .forbidden
          s!"Access denied: Missing required permission(s) [{joined requiredPermissions}]")

/-- `request.params['userId'] || request.params['id']` -/
def ResourceOwnerGuard.targetResourceId (request : HttpRequest) : Option String :=
  let param (name : String) : Option String := (request.params.lookup name).filter (· ≠ "")
  (param "userId").or (param "id")

def ResourceOwnerGuard.canActivate (request : HttpRequest) : Except AuthError Unit :=
  match request.user with
  | none => .error (.http .forbidden "User context not established")
  | some user =>
    demand ("ADMIN" ∈ user.roles ∨ (targetResourceId request).all (· = user.sub))
      (.http .forbidden
        "Access denied: You do not possess ownership authorization for this resource")

section

variable (decode : String → Option AccessToken) (context : ExecutionContext)

def Guard.canActivate (request : HttpRequest) : Guard → AuthCall HttpRequest
  | jwtAuth => JwtAuthGuard.canActivate decode context request
  | roles => do
    .returned (RolesGuard.canActivate context request)
    return request
  | permissions => do
    .returned (PermissionsGuard.canActivate context request)
    return request
  | resourceOwner => do
    .returned (ResourceOwnerGuard.canActivate request)
    return request

/-- The guards of a route, one after the other. -/
def activate : List Guard → HttpRequest → AuthCall HttpRequest
  | [], request => return request
  | guard :: guards, request => do
    let request ← guard.canActivate decode context request
    activate guards request

end

section Rules

variable {decode : String → Option AccessToken} {context : ExecutionContext} {env : AuthEnv}
  {db db' : AuthDb} {request out : HttpRequest} {guard : Guard} {guards : List Guard}
  {token : String} {payload : JwtPayload}

def Public (context : ExecutionContext) : Prop :=
  getAllAndOverride RouteMetadata.isPublic context = some true

/-- The request bears a token of the payload that has neither expired nor been revoked. -/
def Vouched (decode : String → Option AccessToken) (env : AuthEnv) (db : AuthDb)
    (request : HttpRequest) (payload : JwtPayload) : Prop :=
  ∃ token access, (JwtAuthGuard.authHeader request).bind JwtAuthGuard.tokenOf = some token ∧
    decode token = some access ∧ access.payload = payload ∧ env.now < access.exp ∧
      env.fault = none ∧ ¬(env.redisConnected = true ∧
        (db.lookup (TokenService.getAccessBlacklistKey payload.jti) env.now).isSome = true)

/-- What the guards behind the first one ask of the user of a request. -/
def Guard.Allows (context : ExecutionContext) (request : HttpRequest) : Guard → Prop
  | jwtAuth => True
  | roles => ∀ requiredRoles ∈ required RouteMetadata.roles context, ∃ user ∈ request.user,
      "ADMIN" ∈ user.roles ∨ ∃ role ∈ requiredRoles, role ∈ user.roles
  | permissions => ∀ requiredPermissions ∈ required RouteMetadata.permissions context,
      ∃ user ∈ request.user, "ADMIN" ∈ user.roles ∨ "manage:all" ∈ user.permissions ∨
        ∀ permission ∈ requiredPermissions, permission ∈ user.permissions
  | resourceOwner => ∃ user ∈ request.user,
      "ADMIN" ∈ user.roles ∨ ∀ id ∈ ResourceOwnerGuard.targetResourceId request, id = user.sub

/-- The request becomes that of the user, or on a public endpoint that of a visitor. -/
def Identified (decode : String → Option AccessToken) (context : ExecutionContext) (env : AuthEnv)
    (db : AuthDb) (request out : HttpRequest) : Prop :=
  (∃ payload, Vouched decode env db request payload ∧ out = { request with user := some payload }) ∨
    (Public context ∧ (∀ payload, ¬Vouched decode env db request payload) ∧ out = request)

def Guard.Passes (decode : String → Option AccessToken) (context : ExecutionContext) (env : AuthEnv)
    (db : AuthDb) (request out : HttpRequest) (guard : Guard) : Prop :=
  match guard with
  | jwtAuth => Identified decode context env db request out
  | roles | permissions | resourceOwner => guard.Allows context request ∧ out = request

theorem vouched_unique {payload' : JwtPayload} (h : Vouched decode env db request payload)
    (h' : Vouched decode env db request payload') : payload = payload' := by
  obtain ⟨token, access, htoken, hdecode, hpayload, -⟩ := h
  obtain ⟨token', access', htoken', hdecode', hpayload', -⟩ := h'
  cases htoken.symm.trans htoken'
  cases hdecode.symm.trans hdecode'
  exact hpayload.symm.trans hpayload'

/-- What a moment makes of a token. -/
def verdict (decode : String → Option AccessToken) (env : AuthEnv) (db : AuthDb) (token : String) :
    Except AuthError (JwtPayload × Bool) :=
  match decode token with
  | none => .error (.http .unauthorized "Invalid or expired access token")
  | some access =>
    match TokenService.verifyAccessToken access env.now with
    | .error x => .error x
    | .ok payload => env.fault.elim (.ok (payload, env.redisConnected &&
        (db.lookup (TokenService.getAccessBlacklistKey payload.jti) env.now).isSome))
          fun message ↦ .error (.fault message)

theorem ran_verified {r : Except AuthError (JwtPayload × Bool)} :
    Call.Ran (· = env) (JwtAuthGuard.verified decode token) db r db' ↔
      r = verdict decode env db token ∧ db' = db := by
  have hrevoked : ∀ {payload : JwtPayload} {x t}, Call.Ran (· = env) (do
        let revoked ← TokenService.isAccessTokenRevoked payload.jti
        return (payload, revoked)) db x t ↔ x = env.fault.elim (.ok (payload, env.redisConnected &&
          (db.lookup (TokenService.getAccessBlacklistKey payload.jti) env.now).isSome))
            (fun message ↦ .error (.fault message)) ∧ t = db := by
    intro payload x t
    refine Call.ran_bind.trans ?_
    simp only [TokenService.isAccessTokenRevoked, finds, Call.ran_ask, exists_eq_left]
    cases env.fault <;> simp [pure, and_comm]
  refine Call.ran_bind.trans ?_
  simp only [JwtAuthGuard.verifyAccessToken, Call.ran_ask, exists_eq_left, verdict]
  cases decode token with
  | none => simp [and_comm]
  | some access =>
    cases hverify : TokenService.verifyAccessToken access env.now with
    | error x => simp [hverify, and_comm]
    | ok payload => simpa [hverify] using @hrevoked payload r db'

/-- A token is accepted just if its payload is vouched for. -/
theorem vouched_iff (htoken : (JwtAuthGuard.authHeader request).bind JwtAuthGuard.tokenOf = some token) :
    verdict decode env db token = .ok (payload, false) ↔ Vouched decode env db request payload := by
  unfold verdict
  constructor
  · intro h
    cases hdecode : decode token with
    | none =>
      rw [hdecode] at h
      cases h
    | some access =>
      rw [hdecode] at h
      dsimp only [TokenService.verifyAccessToken] at h
      split_ifs at h with hexp
      · cases hfault : env.fault with
        | some message =>
          rw [hfault] at h
          cases h
        | none =>
          rw [hfault] at h
          obtain ⟨rfl, hlisted⟩ := Prod.mk.inj (Except.ok.inj h)
          refine ⟨token, access, htoken, hdecode, rfl, hexp, hfault, fun hrevoked ↦ ?_⟩
          rw [hrevoked.1, hrevoked.2] at hlisted
          cases hlisted
  · rintro ⟨token', access, htoken', hdecode, rfl, hexp, hfault, hlisted⟩
    cases htoken.symm.trans htoken'
    rw [hdecode]
    dsimp only [TokenService.verifyAccessToken]
    rw [if_pos hexp, hfault]
    simpa using hlisted

theorem not_vouched (htoken : (JwtAuthGuard.authHeader request).bind JwtAuthGuard.tokenOf = none) :
    ¬Vouched decode env db request payload := by
  rintro ⟨token, access, htoken', -⟩
  cases htoken.symm.trans htoken'

/-- A public endpoint takes note of a user who is vouched for. -/
theorem public_iff (hpublic : Public context) :
    Call.Ran (· = env) (JwtAuthGuard.canActivate decode context request) db (.ok out) db' ↔
      db' = db ∧ Identified decode context env db request out := by
  have hset : getAllAndOverride RouteMetadata.isPublic context = some true := hpublic
  rw [JwtAuthGuard.canActivate, if_pos hset]
  cases htoken : (JwtAuthGuard.authHeader request).bind JwtAuthGuard.tokenOf with
  | none =>
    refine Call.ran_returned_ok.trans ?_
    have hnone : ∀ payload, ¬Vouched decode env db request payload := fun _ ↦ not_vouched htoken
    constructor
    · rintro ⟨h, rfl⟩
      exact ⟨rfl, .inr ⟨hpublic, hnone, (Except.ok.inj h).symm⟩⟩
    · rintro ⟨rfl, ⟨payload, hvouched, -⟩ | ⟨-, -, rfl⟩⟩
      · exact absurd hvouched (hnone payload)
      · exact ⟨rfl, rfl⟩
  | some token =>
    have hvouched : ∀ payload, verdict decode env db token = .ok (payload, false) ↔
        Vouched decode env db request payload := fun _ ↦ vouched_iff htoken
    refine Call.ran_bind_ok.trans ?_
    simp only [Call.ran_attempt, ran_verified]
    cases hverdict : verdict decode env db token with
    | error x => simp [Identified, hpublic, ← hvouched, hverdict, and_comm]
    | ok answer =>
      obtain ⟨payload, revoked⟩ := answer
      cases revoked <;> simp [Identified, hpublic, ← hvouched, hverdict, and_comm]

/-- A protected endpoint is for users who are vouched for. -/
theorem protected_iff (hprotected : ¬Public context) :
    Call.Ran (· = env) (JwtAuthGuard.canActivate decode context request) db (.ok out) db' ↔
      db' = db ∧ Identified decode context env db request out := by
  have hset : ¬getAllAndOverride RouteMetadata.isPublic context = some true := hprotected
  rw [JwtAuthGuard.canActivate, if_neg hset]
  refine Call.ran_checked_ok.trans ?_
  constructor
  · rintro ⟨header, hheader, h⟩
    obtain ⟨token, htoken, h⟩ := Call.ran_checked_ok.mp h
    obtain ⟨⟨payload, revoked⟩, db₁, hverified, hrest⟩ := Call.ran_bind_ok.mp h
    obtain ⟨hverdict, rfl⟩ := ran_verified.mp hverified
    obtain ⟨_, hrevoked, hrest⟩ := Call.ran_checked_ok.mp hrest
    obtain ⟨hout, rfl⟩ := Call.ran_returned_ok.mp hrest
    have hbears : (JwtAuthGuard.authHeader request).bind JwtAuthGuard.tokenOf = some token := by
      rw [present_eq_ok.mp hheader, Option.bind_some, present_eq_ok.mp htoken]
    rw [demand_eq_ok.mp hrevoked] at hverdict
    exact ⟨rfl, .inl ⟨payload, (vouched_iff hbears).mp hverdict.symm, (Except.ok.inj hout).symm⟩⟩
  · rintro ⟨rfl, ⟨payload, hvouched, rfl⟩ | ⟨hpublic, -⟩⟩
    · obtain ⟨token, access, hbears, -⟩ := id hvouched
      obtain ⟨header, hheader, htoken⟩ := Option.bind_eq_some_iff.mp hbears
      refine ⟨header, present_eq_ok.mpr hheader, Call.ran_checked_ok.mpr
        ⟨token, present_eq_ok.mpr htoken, Call.ran_bind_ok.mpr ⟨(payload, false), db', ?_, ?_⟩⟩⟩
      · exact ran_verified.mpr ⟨((vouched_iff hbears).mpr hvouched).symm, rfl⟩
      · exact Call.ran_checked_ok.mpr ⟨(), demand_eq_ok.mpr rfl, Call.ran_returned_ok.mpr ⟨rfl, rfl⟩⟩
    · exact absurd hpublic hprotected

theorem roles_iff : RolesGuard.canActivate context request = .ok () ↔
    Guard.roles.Allows context request := by
  unfold RolesGuard.canActivate Guard.Allows
  cases required RouteMetadata.roles context with
  | none => simp
  | some requiredRoles => cases request.user <;> simp

theorem permissions_iff : PermissionsGuard.canActivate context request = .ok () ↔
    Guard.permissions.Allows context request := by
  unfold PermissionsGuard.canActivate Guard.Allows
  cases required RouteMetadata.permissions context with
  | none => simp
  | some requiredPermissions => cases request.user <;> simp

theorem resourceOwner_iff : ResourceOwnerGuard.canActivate request = .ok () ↔
    Guard.resourceOwner.Allows context request := by
  unfold ResourceOwnerGuard.canActivate Guard.Allows
  cases request.user <;> simp [Option.all_eq_true]

theorem canActivate_iff : Call.Ran (· = env) (guard.canActivate decode context request) db
    (.ok out) db' ↔ db' = db ∧ guard.Passes decode context env db request out := by
  have hchecked : ∀ {x : Except AuthError Unit}, Call.Ran (· = env) (do
      .returned x
      return request : AuthCall HttpRequest) db (.ok out) db' ↔ db' = db ∧ x = .ok () ∧ out = request := by
    intro x
    refine Call.ran_checked_ok.trans ?_
    constructor
    · rintro ⟨_, hx, h⟩
      obtain ⟨hout, rfl⟩ := Call.ran_returned_ok.mp h
      exact ⟨rfl, hx, (Except.ok.inj hout).symm⟩
    · rintro ⟨rfl, hx, rfl⟩
      exact ⟨(), hx, Call.ran_returned_ok.mpr ⟨rfl, rfl⟩⟩
  cases guard with
  | jwtAuth =>
    by_cases hpublic : Public context
    · exact public_iff hpublic
    · exact protected_iff hpublic
  | roles => rw [Guard.canActivate, hchecked, roles_iff, Guard.Passes]
  | permissions => rw [Guard.canActivate, hchecked, permissions_iff, Guard.Passes]
  | resourceOwner => rw [Guard.canActivate, hchecked, resourceOwner_iff, Guard.Passes]

theorem vouched_user {user : Option JwtPayload} :
    Vouched decode env db { request with user } payload ↔ Vouched decode env db request payload :=
  .rfl

/-- Once it is identified a request stays so. -/
theorem identified_again {again : HttpRequest} (h : Identified decode context env db request out) :
    Identified decode context env db out again ↔ again = out := by
  rcases h with ⟨payload, hvouched, rfl⟩ | ⟨hpublic, hnone, rfl⟩
  · constructor
    · rintro (⟨payload', hvouched', rfl⟩ | ⟨-, hnone, -⟩)
      · rw [vouched_unique (vouched_user.mp hvouched') hvouched]
      · exact absurd (vouched_user.mpr hvouched) (hnone payload)
    · rintro rfl
      exact .inl ⟨payload, vouched_user.mpr hvouched, rfl⟩
  · constructor
    · rintro (⟨payload', hvouched', -⟩ | ⟨-, -, rfl⟩)
      · exact absurd hvouched' (hnone payload')
      · rfl
    · rintro rfl
      exact .inr ⟨hpublic, hnone, rfl⟩

theorem activate_cons : Call.Ran (· = env) (activate decode context (guard :: guards) request) db
    (.ok out) db' ↔ ∃ next, guard.Passes decode context env db request next ∧
      Call.Ran (· = env) (activate decode context guards next) db (.ok out) db' := by
  refine Call.ran_bind_ok.trans ?_
  simp only [canActivate_iff]
  constructor
  · rintro ⟨next, _, ⟨rfl, hpasses⟩, hrest⟩
    exact ⟨next, hpasses, hrest⟩
  · rintro ⟨next, hpasses, hrest⟩
    exact ⟨next, db, ⟨rfl, hpasses⟩, hrest⟩

theorem identified_iff {final : HttpRequest} (h : Identified decode context env db request out) :
    Call.Ran (· = env) (activate decode context guards out) db (.ok final) db' ↔
      db' = db ∧ final = out ∧ ∀ guard ∈ guards, guard.Allows context out := by
  induction guards with
  | nil =>
    refine Call.ran_returned_ok.trans ?_
    simp [and_comm, eq_comm]
  | cons guard guards ih =>
    have hpasses : ∀ next, guard.Passes decode context env db out next ↔
        guard.Allows context out ∧ next = out := by
      intro next
      cases guard with
      | jwtAuth => simp [Guard.Passes, identified_again h, Guard.Allows]
      | roles | permissions | resourceOwner => rfl
    rw [activate_cons]
    simp only [hpasses, and_assoc, exists_and_left, exists_eq_left, ih, List.forall_mem_cons]
    constructor
    · rintro ⟨hallows, rfl, rfl, hrest⟩
      exact ⟨rfl, rfl, hallows, hrest⟩
    · rintro ⟨rfl, rfl, hallows, hrest⟩
      exact ⟨hallows, rfl, rfl, hrest⟩

/-- The guards let a request pass just if it bears a token that has neither expired nor been revoked,
or the endpoint is public, and the user or visitor that it is then taken for has what each of the
others requires. It is passed on with this user, and nothing else changes. -/
theorem guards_admit : Call.Ran (· = env) (activate decode context (.jwtAuth :: guards) request) db
    (.ok out) db' ↔ db' = db ∧ Identified decode context env db request out ∧
      ∀ guard ∈ guards, guard.Allows context out := by
  rw [activate_cons]
  constructor
  · rintro ⟨next, hidentified, hrest⟩
    obtain ⟨rfl, rfl, hallows⟩ := (identified_iff hidentified).mp hrest
    exact ⟨rfl, hidentified, hallows⟩
  · rintro ⟨rfl, hidentified, hallows⟩
    exact ⟨out, hidentified, (identified_iff hidentified).mpr ⟨rfl, rfl, hallows⟩⟩

end Rules

end Innovents.Auth
