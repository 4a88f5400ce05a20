import Innovents.Auth.OtpService
import Innovents.Auth.TokenService

namespace Innovents.Auth

open Innovents.Lib Innovents.Payments

/-- `user.findFirst({ where: { email, deletedAt: null } })` -/
def AuthDb.account (db : AuthDb) (email : String) : Option User :=
  db.users.find? fun u ↦ u.email == email && u.deletedAt.isNone

def AuthDb.role (db : AuthDb) (name : String) : Option Role := db.roles.find? (·.name == name)

structure RegisterDto where
  firstName : String
  lastName : String
  email : String
  phone : Option String
  password : String

inductive AllowedBusinessRegistrationRole
  | sponsor | vendor | provider | eventOwner | media
  deriving DecidableEq, Repr

def businessRoleText : AllowedBusinessRegistrationRole → String
  | .sponsor => "SPONSOR"
  | .vendor => "VENDOR"
  | .provider => "PROVIDER"
  | .eventOwner => "EVENT_OWNER"
  | .media => "MEDIA"

structure RegisterBusinessDto where
  role : AllowedBusinessRegistrationRole
  email : String
  phone : Option String
  password : String
  companyName : Option String
  serviceCategory : Option String
  businessName : Option String
  providerType : Option String
  organizationName : Option String
  mediaOutlet : Option String
  contactName : Option String
  website : Option String
  description : Option String
  city : Option String
  country : Option String

structure RegistrationResponse where
  message : String
  email : String
  deriving DecidableEq

structure Confirmation where
  success : Bool
  message : String
  deriving DecidableEq

structure SafeUserDto where
  id : String
  email : String
  phone : Option String
  status : AccountStatus
  roles : List String
  emailVerified : Bool
  createdAt : Time

structure AuthResponseDto where
  user : SafeUserDto
  tokens : AuthTokensDto

/-- A user as a registration creates it. -/
def newUser (env : AuthEnv) (email : String) (phone : Option String) (passwordHash : String)
    (status : AccountStatus) (emailVerifiedAt : Option Time) (userRoles : List String)
    (t : Table User) : User where
  id := env.idFor t
  email
  phone
  passwordHash
  status
  emailVerifiedAt
  lastLoginAt := none
  approvedAt := none
  approvedByUserId := none
  rejectedAt := none
  rejectionReason := none
  suspendedAt := none
  suspensionReason := none
  deletedAt := none
  createdAt := env.now
  userRoles

/-- `user.update({ where: { id }, data })` -/
def updateUser (id : String) (f : AuthEnv → User → User) : AuthCall Unit :=
  stores "user.update" fun env db ↦ do
    let t ← ofRefusal (db.users.update id (f env))
    return ({ db with users := t }, ())

namespace AuthService

open OtpService TokenService

variable (rt : Runtime)

def findAccount (email : String) : AuthCall (Option User) :=
  finds "user.findFirst" fun _ db ↦ db.account email

/-- `value?.trim() || null` -/
def trimmed (text : Option String) : Option String := (text.map rt.trim).filter (· ≠ "")

/-- The checks that the email and the phone number of a registration are free. -/
def requireFree (email : String) (phone : Option String) : AuthCall Unit := do
  let existingUser ← findAccount email
  if existingUser.isSome then
    throws .conflict "An account with this email address already exists"
  else
    match phone with
    | none => return ()
    | some phone =>
      let existingPhone ← finds "user.findFirst" fun _ db ↦
        db.users.find? fun u ↦ u.phone == some phone && u.deletedAt.isNone
      if existingPhone.isSome then
        throws .conflict "An account with this phone number already exists"
      else return ()

/-- The transaction of a registration: the user with its role, and its profile. -/
def createAccount (email : String) (phone : Option String) (passwordHash : String → String)
    (role : String) (profileTable : String) (columns : List (String × Option String)) :
    AuthCall User :=
  stores "user.create" fun env db ↦ do
    let user := newUser env email phone (passwordHash env.salt) .pending none [role] db.users
    let users ← ofRefusal (db.users.create user)
    let profiles ← ofRefusal (db.profiles.create
      { id := env.idFor db.profiles
        table := profileTable
        userId := user.id
        columns })
    return ({ db with users, profiles }, user)

/-- The code of a new account goes to the outbox and to the email queue. -/
def sendVerificationCode (userId email subject : String) : AuthCall Unit := do
  let otpResult ← createChallenge rt email .emailVerification (some userId)
  OutboxService.enqueue
    { eventType := "EMAIL_VERIFICATION_REQUESTED"
      aggregateType := "User"
      aggregateId := userId
      payload :=
        [("to", .str email), ("code", .str otpResult.code), ("purpose", .str "EMAIL_VERIFICATION")] }
  addEmailJob
    { jobName := "send-otp-email"
      recipient := email
      subject
      html := s!"<p>Your INOVENT verification code is: <strong>{otpResult.code}</strong>. " ++
        "It expires in 5 minutes.</p>" }

def register (dto : RegisterDto) (client : Client) : AuthCall RegistrationResponse := do
  let normalizedEmail := rt.normalize dto.email
  requireFree normalizedEmail ((dto.phone.filter (· ≠ "")).map rt.trim)
  let roleRecord ← finds "role.findUnique" fun _ db ↦ db.role "ATTENDEE"
  match roleRecord with
  | none => throws .internalServerError "ATTENDEE role is not configured in the system"
  | some roleRecord =>
    let result ← createAccount normalizedEmail (trimmed rt dto.phone)
      (rt.bcryptHash · dto.password) roleRecord.name "attendee_profiles"
      [("firstName", some (rt.trim dto.firstName)), ("lastName", some (rt.trim dto.lastName))]
    sendVerificationCode rt result.id normalizedEmail "Verify your INOVENT account"
    AuditService.log
      { actorUserId := some result.id
        action := "USER_REGISTERED"
        resourceType := "user"
        resourceId := some result.id
        metadata := [("role", .str "ATTENDEE")] } client
    return ⟨"Registration successful. A 6-digit verification code has been dispatched to your email.",
      normalizedEmail⟩

/-- The profile of a business role, or what is missing for it. -/
def businessProfile (dto : RegisterBusinessDto) (email : String) (phone : Option String) :
    Except String (String × List (String × Option String)) :=
  let contact := [("contactName", trimmed rt dto.contactName), ("contactEmail", some email),
    ("contactPhone", phone), ("website", trimmed rt dto.website)]
  let place := [("description", trimmed rt dto.description), ("city", trimmed rt dto.city),
    ("country", trimmed rt dto.country)]
  let given (text : Option String) := text.filter (· ≠ "")
  match dto.role with
  | .sponsor =>
    match given dto.companyName with
    | none => .error "Company name is required for Sponsor registration"
    | some companyName =>
      .ok ("sponsor_profiles", ("companyName", some (rt.trim companyName)) :: contact ++ place)
  | .vendor =>
    match given dto.companyName, given dto.serviceCategory with
    | some companyName, some serviceCategory =>
      .ok ("vendor_profiles", ("companyName", some (rt.trim companyName)) ::
        ("serviceCategory", some (rt.trim serviceCategory)) :: contact ++ place)
    | _, _ => .error "Company name and service category are required for Vendor registration"
  | .provider =>
    match given dto.businessName, given dto.providerType with
    | some businessName, some providerType =>
      .ok ("provider_profiles", ("businessName", some (rt.trim businessName)) ::
        ("providerType", some (rt.trim providerType)) :: contact ++ place)
    | _, _ => .error "Business name and provider type are required for Provider registration"
  | .eventOwner =>
    match given dto.organizationName with
    | none => .error "Organization name is required for Event Owner registration"
    | some organizationName =>
      .ok ("event_owner_profiles",
        ("organizationName", some (rt.trim organizationName)) :: contact ++ place)
  | .media =>
    match given dto.mediaOutlet with
    | none => .error "Media outlet is required for Media registration"
    | some mediaOutlet =>
      .ok ("media_profiles", ("mediaOutlet", some (rt.trim mediaOutlet)) :: contact)

/-- The profile is checked inside the transaction, which is rolled back without it. -/
def registerBusiness (dto : RegisterBusinessDto) (client : Client) :
    AuthCall RegistrationResponse := do
  let normalizedEmail := rt.normalize dto.email
  let normalizedPhone := trimmed rt dto.phone
  requireFree normalizedEmail normalizedPhone
  let roleRecord ← finds "role.findUnique" fun _ db ↦ db.role (businessRoleText dto.role)
  match roleRecord with
  | none =>
    throws .internalServerError
      s!"{businessRoleText dto.role} role is not configured in the system"
  | some roleRecord =>
    match businessProfile rt dto normalizedEmail normalizedPhone with
    | .error message =>
      stores "user.create" fun env db ↦ do
        let _ ← ofRefusal (db.users.create (newUser env normalizedEmail normalizedPhone
          (rt.bcryptHash env.salt dto.password) .pending none [roleRecord.name] db.users))
        .error (.http .badRequest message)
    | .ok (profileTable, columns) =>
      let user ← createAccount normalizedEmail normalizedPhone (rt.bcryptHash · dto.password)
        roleRecord.name profileTable columns
      sendVerificationCode rt user.id normalizedEmail "Verify your INOVENT business account"
      AuditService.log
        { actorUserId := some user.id
          action := "BUSINESS_USER_REGISTERED"
          resourceType := "user"
          resourceId := some user.id
          metadata := [("role", .str (businessRoleText dto.role))] } client
      return ⟨"Business registration successful. A 6-digit verification code has been dispatched " ++
        "to your email. Your account will require administrative approval after email " ++
        "verification.", normalizedEmail⟩

/-- Attendees become active, business accounts wait for an administrator. -/
def verified (now : Time) (user : User) : AccountStatus × Option Time :=
  (if "ATTENDEE" ∈ user.userRoles ∧ user.status = .pending then .active else user.status, some now)

def verifyOtp (email code : String) (purpose : OtpPurpose) (client : Client) :
    AuthCall Confirmation := do
  let normalizedEmail := rt.normalize email
  let _ ← verifyChallenge rt normalizedEmail code purpose client
  if purpose = .emailVerification then
    let user ← findAccount normalizedEmail
    match user with
    | none => return ⟨true, "Verification code validated successfully."⟩
    | some user =>
      updateUser user.id fun env u ↦
        { u with
          status := (verified env.now user).1
          emailVerifiedAt := (verified env.now user).2 }
      return ⟨true, "Verification code validated successfully."⟩
  else return ⟨true, "Verification code validated successfully."⟩

def otpPurposeWords : OtpPurpose → String
  | .emailVerification => "email verification"
  | .passwordReset => "password reset"
  | .loginVerification => "login verification"

def requestOtpResponse : Confirmation :=
  ⟨true, "If the account exists, a verification code has been sent."⟩

def requestOtp (email : String) (purpose : OtpPurpose) : AuthCall Confirmation := do
  let normalizedEmail := rt.normalize email
  let user ← findAccount normalizedEmail
  if purpose = .emailVerification ∧ user.all (·.emailVerifiedAt.isSome) then
    return requestOtpResponse
  else
    let otpResult ← createChallenge rt normalizedEmail purpose (user.map User.id)
    addEmailJob
      { jobName := "send-otp-email"
        recipient := normalizedEmail
        subject := s!"Your INOVENT code for {otpPurposeWords purpose}"
        html := s!"<p>Your verification code is: <strong>{otpResult.code}</strong>. " ++
          "It expires in 5 minutes.</p>" }
    return requestOtpResponse

def auditLogin (user : Option User) (action : String) (metadata : List (String × JsValue))
    (client : Client) : AuthCall Unit :=
  AuditService.log
    { actorUserId := user.map User.id
      action
      resourceType := "auth:login"
      resourceId := user.map User.id
      metadata } client

/-- The rules for a user with the right password: why it may not log in. -/
def loginRefusal (user : User) : Option (HttpStatus × String) :=
  if user.status = .deactivated then
    some (.forbidden, "Your account has been deactivated. Please contact support.")
  else if user.status = .suspended then
    some (.forbidden, "Your account has been suspended by moderation.")
  else if user.status = .rejected then
    some (.forbidden, "Your account application was reviewed and rejected.")
  else if user.emailVerifiedAt = none then
    some (.unauthorized, "Please verify your email address via OTP before logging in.")
  else if "ATTENDEE" ∉ user.userRoles ∧ "ADMIN" ∉ user.userRoles ∧ user.status = .pending then
    some (.forbidden,
      "Your account email is verified, but your profile is currently pending administrative review.")
  else none

def login (email password : String) (client : Client) : AuthCall AuthResponseDto := do
  let normalizedEmail := rt.normalize email
  let found ← finds "user.findFirst" fun _ db ↦
    (db.account normalizedEmail).map fun user ↦ (user, permissionsOf user db)
  match found with
  | none =>
    auditLogin none "LOGIN_FAILURE"
      [("email", .str normalizedEmail), ("reason", .str "User not found")] client
    throws .unauthorized "Invalid email or password"
  | some (user, permissions) =>
    if rt.bcryptCompare password user.passwordHash = false then
      auditLogin (some user) "LOGIN_FAILURE" [("reason", .str "Password mismatch")] client
      throws .unauthorized "Invalid email or password"
    else
      match loginRefusal user with
      | some (status, message) => throws status message
      | none =>
        updateUser user.id fun env u ↦ { u with lastLoginAt := some env.now }
        let tokens ← generateTokens rt user.id user.email user.userRoles permissions none
        auditLogin (some user) "LOGIN_SUCCESS" [] client
        return ⟨⟨user.id, user.email, user.phone, user.status, user.userRoles,
          user.emailVerifiedAt.isSome, user.createdAt⟩, tokens⟩

def logout (rawRefreshToken : String) (client : Client) : AuthCall Confirmation := do
  revokeRefreshToken rt rawRefreshToken
  AuditService.log
    { actorUserId := none
      action := "LOGOUT"
      resourceType := "auth:logout"
      resourceId := none
      metadata := [] } client
  return ⟨true, "Logged out successfully. Refresh session invalidated."⟩

def passwordResetResponse : Confirmation :=
  ⟨true, "If an account exists with this email, a password reset code has been sent."⟩

def requestPasswordReset (email : String) : AuthCall Confirmation := do
  let normalizedEmail := rt.normalize email
  let user ← findAccount normalizedEmail
  match user with
  | none => return passwordResetResponse
  | some user =>
    let otpResult ← createChallenge rt normalizedEmail .passwordReset (some user.id)
    OutboxService.enqueue
      { eventType := "PASSWORD_RESET_REQUESTED"
        aggregateType := "User"
        aggregateId := user.id
        payload :=
          [("to", .str normalizedEmail), ("code", .str otpResult.code),
            ("purpose", .str "PASSWORD_RESET")] }
    addEmailJob
      { jobName := "send-password-reset-email"
        recipient := normalizedEmail
        subject := "Reset your INOVENT password"
        html := s!"<p>Your password reset code is: <strong>{otpResult.code}</strong>. " ++
          "It expires in 5 minutes.</p>" }
    return passwordResetResponse

/-- `text.length`, in UTF-16 code units -/
def codeUnits (text : String) : ℕ := (text.toList.map fun c ↦ if c.val < 0x10000 then 1 else 2).sum

/-- At least 8 characters, a letter and a digit. -/
def validateStrength (password : String) : Bool :=
  decide (8 ≤ codeUnits password) && password.toList.any Char.isAlpha &&
    password.toList.any Char.isDigit

def confirmPasswordReset (email code newPassword : String) (client : Client) :
    AuthCall Confirmation := do
  let normalizedEmail := rt.normalize email
  let _ ← verifyChallenge rt normalizedEmail code .passwordReset client
  let user ← findAccount normalizedEmail
  match user with
  | none => throws .badRequest "Invalid or expired password reset request"
  | some user =>
    if validateStrength newPassword = false then
      throws .badRequest
        "New password must be at least 8 characters and contain both letters and numbers"
    else if rt.bcryptCompare newPassword user.passwordHash then
      throws .badRequest "New password must be different from your current password"
    else
      updateUser user.id fun env u ↦ { u with passwordHash := rt.bcryptHash env.salt newPassword }
      revokeAllUserSessions rt user.id
      AuditService.log
        { actorUserId := some user.id
          action := "PASSWORD_CHANGED"
          resourceType := "user:password"
          resourceId := some user.id
          metadata := [] } client
      return ⟨true, "Password reset successfully. All previous sessions have been revoked. " ++
        "Please log in with your new password."⟩

end AuthService

end Innovents.Auth
