import Innovents.Auth.AuthService

namespace Innovents.Auth

open Innovents.Lib Innovents.Payments

structure GoogleProfile where
  sub : String
  email : String
  emailVerified : Bool
  givenName : Option String
  familyName : Option String
  picture : Option String

/-- What Google answers: whether the client is configured, the access token for an authorization
code and its verifier, and the profile for an access token. -/
structure Google where
  configured : Bool
  exchange (now : Time) (code codeVerifier : String) : Option String
  userinfo (now : Time) (accessToken : String) : Option GoogleProfile

structure GoogleSession where
  userId : String
  email : String
  tokens : AuthTokensDto

namespace OAuthService

open TokenService

variable (rt : Runtime) (google : Google)

def stateKey (state : String) : String := s!"oauth:google:state:{state}"

def exchangeKey (code : String) : String := s!"oauth:exchange:{code}"

/-- A value that is read once: the key is deleted before the value is used. -/
def redeem (key message : String) : AuthCall RedisValue := do
  match ← RedisService.get key with
  | none => throws .badRequest message
  | some value =>
    RedisService.del key
    return value

def codeVerifierOf : RedisValue → Except (HttpStatus × String) String
  | .verifier codeVerifier =>
    if codeVerifier = "" then .error (.badRequest, "OAuth PKCE verifier is missing")
    else .ok codeVerifier
  | _ => .error (.badRequest, "Invalid OAuth state data")

/-- The checks of what Google returns. -/
def fetchProfile (code codeVerifier : String) : AuthCall GoogleProfile := do
  let token ← finds "google.token" fun env _ ↦ google.exchange env.now code codeVerifier
  match token with
  | none => throws .badRequest "Failed to exchange Google authorization code"
  | some accessToken =>
    if accessToken = "" then throws .badRequest "Google did not return an access token"
    else
      let profile ← finds "google.userinfo" fun env _ ↦ google.userinfo env.now accessToken
      match profile with
      | none => throws .badRequest "Failed to retrieve Google user profile"
      | some profile =>
        if profile.sub = "" then throws .badRequest "Google account identifier is missing"
        else if profile.email = "" ∨ profile.emailVerified = false then
          throws .forbidden "Google account email must be verified"
        else return profile

def attendeesOnly : String := "Google sign-in is currently available for attendee accounts only"

/-- `user.update({ where: { id }, data, include })` -/
def updateAndRead (id : String) (f : AuthEnv → User → User) : AuthCall (User × List String) :=
  stores "user.update" fun env db ↦ do
    let t ← ofRefusal (db.users.update id (f env))
    match t.get? id with
    | some user => return ({ db with users := t }, user, permissionsOf user db)
    | none => .error (.prisma .recordNotFound)

def linkAccount (userId sub normalizedEmail : String) : AuthCall Unit :=
  stores "oAuthAccount.create" fun env db ↦ do
    let t ← ofRefusal (db.oauthAccounts.create
      { id := env.idFor db.oauthAccounts
        userId
        providerAccountId := sub
        providerEmail := some normalizedEmail
        lastLoginAt := some env.now })
    return ({ db with oauthAccounts := t }, ())

/-- Google has verified the email of the account. -/
def linked (user : User) (now : Time) (u : User) : User :=
  { u with
    emailVerifiedAt := some (user.emailVerifiedAt.getD now)
    status := if user.status = .pending then .active else user.status }

/-- An account with the same email is linked with Google. -/
def linkExisting (sub normalizedEmail : String) : AuthCall (Option (User × List String)) := do
  let found ← finds "user.findFirst" fun _ db ↦
    (db.account normalizedEmail).map fun user ↦ (user, permissionsOf user db)
  match found with
  | none => return none
  | some (user, _) =>
    if "ATTENDEE" ∉ user.userRoles then throws .forbidden attendeesOnly
    else
      linkAccount user.id sub normalizedEmail
      let updated ← updateAndRead user.id fun env ↦ linked user env.now
      return some updated

/-- A new attendee, with a random password. -/
def createAttendee (profile : GoogleProfile) (normalizedEmail : String) :
    AuthCall (User × List String) := do
  let attendeeRole ← finds "role.findUnique" fun _ db ↦ db.role "ATTENDEE"
  match attendeeRole with
  | none => throws .serviceUnavailable "ATTENDEE role is not configured"
  | some attendeeRole =>
    stores "user.create" fun env db ↦ do
      let user := newUser env normalizedEmail none (rt.bcryptHash env.salt env.randomToken) .active
        (some env.now) [attendeeRole.name] db.users
      let users ← ofRefusal (db.users.create user)
      let profiles ← ofRefusal (db.profiles.create
        { id := env.idFor db.profiles
          table := "attendee_profiles"
          userId := user.id
          columns :=
            [("firstName", some ((profile.givenName.filter (· ≠ "")).getD "Google")),
              ("lastName", some ((profile.familyName.filter (· ≠ "")).getD "User")),
              ("avatarUrl", profile.picture)] })
      let oauthAccounts ← ofRefusal (db.oauthAccounts.create
        { id := env.idFor db.oauthAccounts
          userId := user.id
          providerAccountId := profile.sub
          providerEmail := some normalizedEmail
          lastLoginAt := some env.now })
      return ({ db with users, profiles, oauthAccounts }, user, permissionsOf user db)

/-- The account lifecycle checks. -/
def signInRefusal (user : User) : Option String :=
  if "ATTENDEE" ∉ user.userRoles then some attendeesOnly
  else if user.status = .suspended then some "Your account has been suspended."
  else if user.status = .rejected then some "Your account has been rejected."
  else if user.status = .deactivated then some "Your account has been deactivated."
  else none

def activatePending (user : User × List String) : AuthCall (User × List String) :=
  if user.1.status = .pending then
    updateAndRead user.1.id fun env u ↦
      { u with
        status := .active
        emailVerifiedAt := some (user.1.emailVerifiedAt.getD env.now) }
  else return user

def touchAccount (sub normalizedEmail : String) : AuthCall Unit :=
  stores "oAuthAccount.update" fun env db ↦
    match db.oauthAccounts.find? (·.providerAccountId == sub) with
    | none => .error (.prisma .recordNotFound)
    | some account => do
      let t ← ofRefusal (db.oauthAccounts.update account.id fun a ↦
        { a with
          lastLoginAt := some env.now
          providerEmail := some normalizedEmail })
      return ({ db with oauthAccounts := t }, ())

def completeSignIn (found : User × List String) (sub normalizedEmail : String) :
    AuthCall GoogleSession :=
  match signInRefusal found.1 with
  | some message => throws .forbidden message
  | none => do
    let (user, permissions) ← activatePending found
    updateUser user.id fun env u ↦ { u with lastLoginAt := some env.now }
    touchAccount sub normalizedEmail
    let tokens ← generateTokens rt user.id user.email user.userRoles permissions none
    return ⟨user.id, user.email, tokens⟩

/-- The account of a Google profile is found or made, and signed in. -/
def signIn (profile : GoogleProfile) : AuthCall GoogleSession := do
  let normalizedEmail := rt.normalize profile.email
  let account ← finds "oAuthAccount.findUnique" fun _ db ↦ do
    let account ← db.oauthAccounts.find? (·.providerAccountId == profile.sub)
    let user ← db.users.get? account.userId
    return (user, permissionsOf user db)
  match account with
  | some user => completeSignIn rt user profile.sub normalizedEmail
  | none =>
    match ← linkExisting profile.sub normalizedEmail with
    | some user => completeSignIn rt user profile.sub normalizedEmail
    | none =>
      let user ← createAttendee rt profile normalizedEmail
      completeSignIn rt user profile.sub normalizedEmail

/-- What follows once the state is accepted. -/
def continueCallback (code : String) (storedState : RedisValue) : AuthCall GoogleSession :=
  match codeVerifierOf storedState with
  | .error (status, message) => throws status message
  | .ok codeVerifier =>
    if google.configured = false then throws .serviceUnavailable "Google OAuth is not configured"
    else do
      let profile ← fetchProfile google code codeVerifier
      signIn rt profile

def handleGoogleCallback (code state : String) : AuthCall GoogleSession :=
  if code = "" ∨ state = "" then
    throws .badRequest "Missing Google authorization code or state"
  else do
    let storedState ← redeem (stateKey state) "Invalid or expired OAuth state"
    continueCallback rt google code storedState

def createOAuthExchangeCode (data : GoogleSession) : AuthCall String := do
  let exchangeCode ← finds "crypto.randomBytes" fun env _ ↦ env.randomToken
  RedisService.set (exchangeKey exchangeCode) (.session data.userId data.email data.tokens)
    rt.oauthExchangeTtlSeconds
  return exchangeCode

/-- Only sessions are stored under these keys. -/
def sessionOf : RedisValue → Except AuthError GoogleSession
  | .session userId email tokens => .ok ⟨userId, email, tokens⟩
  | _ => .error (.fault "SyntaxError")

def exchangeOAuthCode (code : String) : AuthCall GoogleSession :=
  if code = "" then throws .badRequest "OAuth exchange code is required"
  else do
    let stored ← redeem (exchangeKey code) "Invalid or expired OAuth exchange code"
    .returned (sessionOf stored)

end OAuthService

end Innovents.Auth
