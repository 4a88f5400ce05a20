import Innovents.Auth.Schema

namespace Innovents.Auth

open Innovents.Lib Innovents.Payments

/-- `Array.from(new Set(…))` of the permissions of all roles. -/
def permissionsOf (user : User) (db : AuthDb) : List String :=
  (user.userRoles.flatMap fun name ↦
    ((db.roles.find? fun r ↦ r.name == name).elim [] Role.rolePermissions).map fun p ↦
      s!"{p.action}:{p.resource}").eraseDups

namespace TokenService

section

variable (rt : Runtime)

def refreshExpiresInDays : ℕ := 7

def getAccessBlacklistKey (jti : String) : String := s!"auth:access:blacklist:{jti}"

/-- The seconds of a text such as `15m`; everything else counts as 15 minutes. -/
def getAccessTokenTtlSeconds : ℕ :=
  let value := rt.trim rt.accessExpiresIn
  let digits := value.toList.dropLast
  let amount := digits.foldl (fun n c ↦ 10 * n + (c.toNat - '0'.toNat)) 0
  if digits ≠ [] ∧ digits.all Char.isDigit then
    match value.toList.getLast? with
    | some 's' => amount
    | some 'm' => amount * 60
    | some 'h' => amount * 60 * 60
    | some 'd' => amount * 24 * 60 * 60
    | _ => 15 * 60
  else 15 * 60

/-- Every key is set, also when one of them fails. -/
def blacklistAccessTokenJtis : List String → AuthCall Unit
  | [] => pure ()
  | jti :: jtis => do
    let first ← (RedisService.set (getAccessBlacklistKey jti) (.text "1")
      (getAccessTokenTtlSeconds rt)).attempt
    blacklistAccessTokenJtis jtis
    .returned first

def isAccessTokenRevoked (jti : String) : AuthCall Bool :=
  finds "redis.exists" fun env db ↦
    env.redisConnected && (db.lookup (getAccessBlacklistKey jti) env.now).isSome

/-- A token expires `lifetime` after it was signed. -/
def sign (payload : JwtPayload) (now : Time) : AccessToken :=
  ⟨payload, now + rt.lifetime rt.accessExpiresIn * 1000⟩

def verifyAccessToken (token : AccessToken) (now : Time) : Except AuthError JwtPayload :=
  if now < token.exp then .ok token.payload
  else .error (.http .unauthorized "Invalid or expired access token")

def newToken (env : AuthEnv) (userId familyId : String) (t : Table RefreshToken) :
    RefreshToken where
  id := env.idFor t
  userId
  tokenHash := rt.sha256 env.randomToken
  familyId
  jti := env.jti
  expiresAt := rt.addDays env.now refreshExpiresInDays
  revokedAt := none
  replacedByTokenId := none
  lastUsedAt := none

def tokens (env : AuthEnv) (userId email : String) (roles permissions : List String) :
    AuthTokensDto where
  accessToken := sign rt ⟨userId, email, roles, permissions, env.jti⟩ env.now
  refreshToken := env.randomToken
  expiresIn := rt.accessExpiresIn

/-- `existingFamilyId || uuidv4()` -/
def generateTokens (userId email : String) (roles permissions : List String)
    (existingFamilyId : Option String) : AuthCall AuthTokensDto :=
  stores "refreshToken.create" fun env db ↦ do
    let familyId := (existingFamilyId.filter (· ≠ "")).getD env.familyId
    if db.users.has userId then
      let t ← ofRefusal (db.refreshTokens.create (newToken rt env userId familyId db.refreshTokens))
      return ({ db with refreshTokens := t }, tokens rt env userId email roles permissions)
    else .error (.prisma .recordNotFound)

def revoke (now : Time) (token : RefreshToken) : RefreshToken := { token with revokedAt := some now }

/-- `refreshToken.updateMany({ where, data: { revokedAt: new Date() } })` -/
def revokeWhere (p : RefreshToken → Bool) : AuthCall Unit :=
  stores "refreshToken.updateMany" fun env db ↦ do
    let t ← ofRefusal (db.refreshTokens.updateMany p (revoke env.now))
    return ({ db with refreshTokens := t }, ())

def findToken (tokenHash : String) : AuthCall (Option RefreshToken) :=
  finds "refreshToken.findUnique" fun _ db ↦ db.refreshTokens.find? (·.tokenHash == tokenHash)

def reuseMessage : String :=
  "Security violation: Refresh token reuse detected. All sessions revoked. Please log in again."

/-- The family is revoked, and the request is refused. -/
def detectReuse (stored : RefreshToken) (metadata : List (String × JsValue)) (client : Client) :
    AuthCall AuthTokensDto := do
  revokeWhere (·.familyId == stored.familyId)
  AuditService.log
    { actorUserId := some stored.userId
      action := "TOKEN_REUSE_DETECTED"
      resourceType := "auth:refresh_token"
      resourceId := some stored.id
      metadata } client
  throws .unauthorized reuseMessage

/-- The row can be claimed: it is neither revoked nor expired. -/
def claimable (id : String) (now : Time) (token : RefreshToken) : Bool :=
  token.id == id && token.revokedAt.isNone && decide (now < token.expiresAt)

/-- The transaction that claims the old token and creates its replacement. -/
def rotateInTransaction (stored : RefreshToken) (env : AuthEnv) (db : AuthDb) :
    Except AuthError (AuthDb × Option RefreshToken) := do
  let claims := claimable stored.id env.now
  let claimed ← ofRefusal (db.refreshTokens.updateMany claims fun token ↦
    { token with
      revokedAt := some env.now
      lastUsedAt := some env.now })
  if db.refreshTokens.rows.countP claims ≠ 1 then
    return ({ db with refreshTokens := claimed }, none)
  else
    let createdToken := newToken rt env stored.userId stored.familyId claimed
    let created ← ofRefusal (claimed.create createdToken)
    let linked ← ofRefusal (created.update stored.id fun token ↦
      { token with replacedByTokenId := some createdToken.id })
    return ({ db with refreshTokens := linked }, some createdToken)

/-- The rotation of a token that was read as valid. -/
def rotate (stored : RefreshToken) (user : User) (permissions : List String) (client : Client) :
    AuthCall AuthTokensDto := do
  let rotationResult ← stores "refreshToken.rotate" fun env db ↦ do
    let (db, createdToken) ← rotateInTransaction rt stored env db
    return (db, createdToken.map fun _ ↦
      tokens rt env stored.userId user.email user.userRoles permissions)
  match rotationResult with
  | none =>
    detectReuse stored
      [("familyId", .str stored.familyId), ("reason", .str "Concurrent refresh token reuse")] client
  | some issued =>
    AuditService.log
      { actorUserId := some stored.userId
        action := "TOKEN_REFRESHED"
        resourceType := "auth:refresh_token"
        resourceId := some stored.id
        metadata := [] } client
    return issued

/-- The account of a session that is no longer valid. -/
def isBarred (user : User) : Bool :=
  user.deletedAt.isSome || user.status == .deactivated || user.status == .suspended ||
    user.status == .rejected

def rotateRefreshToken (rawRefreshToken : String) (client : Client) : AuthCall AuthTokensDto := do
  let found ← finds "refreshToken.findUnique" fun env db ↦ do
    let stored ← db.refreshTokens.find? (·.tokenHash == rt.sha256 rawRefreshToken)
    let user ← db.users.get? stored.userId
    return (stored, user, permissionsOf user db, env.now)
  match found with
  | none => throws .unauthorized "Invalid or expired refresh token"
  | some (stored, user, permissions, now) =>
    if stored.revokedAt.isSome then
      detectReuse stored [("familyId", .str stored.familyId)] client
    else if stored.expiresAt < now then
      stores "refreshToken.update" fun env db ↦ do
        let t ← ofRefusal (db.refreshTokens.update stored.id (revoke env.now))
        return ({ db with refreshTokens := t }, ())
      throws .unauthorized "Refresh token has expired. Please log in again."
    else if isBarred user then
      revokeWhere fun token ↦ token.userId == stored.userId && token.revokedAt.isNone
      throws .unauthorized "Your session is no longer valid. Please log in again."
    else rotate rt stored user permissions client

def revokeAllUserSessions (userId : String) : AuthCall Unit := do
  let userTokens ← finds "refreshToken.findMany" fun _ db ↦
    (db.refreshTokens.rows.filter (·.userId == userId)).map RefreshToken.jti
  revokeWhere fun token ↦ token.userId == userId && token.revokedAt.isNone
  blacklistAccessTokenJtis rt userTokens

def revokeRefreshToken (rawRefreshToken : String) : AuthCall Unit := do
  match ← findToken (rt.sha256 rawRefreshToken) with
  | none => return ()
  | some stored =>
    let familyTokens ← finds "refreshToken.findMany" fun _ db ↦
      (db.refreshTokens.rows.filter (·.familyId == stored.familyId)).map RefreshToken.jti
    revokeWhere (·.familyId == stored.familyId)
    blacklistAccessTokenJtis rt familyTokens

end

end TokenService

end Innovents.Auth
