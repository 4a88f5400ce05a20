import Innovents.Lib.Call
import Innovents.Payments.Schema

namespace Innovents.Auth

open Innovents.Lib Innovents.Payments

inductive OtpPurpose
  | emailVerification | passwordReset | loginVerification
  deriving DecidableEq, Repr

inductive InvitationStatus
  | pending | accepted | expired | revoked
  deriving DecidableEq, Repr

structure Permission where
  action : String
  resource : String
  deriving DecidableEq

structure Role where
  id : String
  name : String
  rolePermissions : List Permission

/-- A user with the names of its roles. -/
structure User where
  id : String
  email : String
  phone : Option String
  passwordHash : String
  status : AccountStatus
  emailVerifiedAt : Option Time
  lastLoginAt : Option Time
  approvedAt : Option Time
  approvedByUserId : Option String
  rejectedAt : Option Time
  rejectionReason : Option String
  suspendedAt : Option Time
  suspensionReason : Option String
  deletedAt : Option Time
  createdAt : Time
  userRoles : List String
  deriving DecidableEq

structure RefreshToken where
  id : String
  userId : String
  tokenHash : String
  familyId : String
  jti : String
  expiresAt : Time
  revokedAt : Option Time
  replacedByTokenId : Option String
  lastUsedAt : Option Time
  deriving DecidableEq

structure OtpChallenge where
  id : String
  userId : Option String
  identifier : String
  purpose : OtpPurpose
  codeHash : String
  expiresAt : Time
  attempts : ℕ
  maxAttempts : ℕ
  consumedAt : Option Time
  resendAfter : Time
  createdAt : Time
  deriving DecidableEq

/-- The link of a user with a Google account, the only provider of the service. -/
structure OAuthAccount where
  id : String
  userId : String
  providerAccountId : String
  providerEmail : Option String
  lastLoginAt : Option Time

structure OrganizerInvitation where
  id : String
  eventId : String
  eventOwnerId : String
  email : String
  tokenHash : String
  status : InvitationStatus
  expiresAt : Time
  acceptedAt : Option Time
  revokedAt : Option Time
  acceptedByUserId : Option String
  createdAt : Time

structure Event where
  id : String
  name : String
  ownerId : String
  deletedAt : Option Time

structure EventOrganizer where
  id : String
  eventId : String
  userId : String
  assignedAt : Time
  assignedBy : String

/-- A row of one of the profile tables, with the columns that a registration fills. -/
structure Profile where
  id : String
  table : String
  userId : String
  columns : List (String × Option String)

structure AuditLog where
  id : String
  actorUserId : Option String
  action : String
  resourceType : String
  resourceId : Option String
  metadata : JsValue
  ipAddress : Option String
  userAgent : Option String

instance : Row Role := ⟨Role.id, [fun r ↦ some r.name]⟩
instance : Row User := ⟨User.id, [fun u ↦ some u.email]⟩
instance : Row RefreshToken := ⟨RefreshToken.id, [fun t ↦ some t.tokenHash]⟩
instance : Row OtpChallenge := ⟨OtpChallenge.id, []⟩
instance : Row OAuthAccount :=
  ⟨OAuthAccount.id, [fun a ↦ some a.providerAccountId, fun a ↦ some a.userId]⟩
instance : Row OrganizerInvitation := ⟨OrganizerInvitation.id, [fun i ↦ some i.tokenHash]⟩
instance : Row Event := ⟨Event.id, []⟩
instance : Row EventOrganizer := ⟨EventOrganizer.id, [fun o ↦ some (o.eventId ++ ":" ++ o.userId)]⟩
instance : Row Profile := ⟨Profile.id, [fun p ↦ some (p.table ++ ":" ++ p.userId)]⟩
instance : Row AuditLog := ⟨AuditLog.id, []⟩

structure JwtPayload where
  sub : String
  email : String
  roles : List String
  permissions : List String
  jti : String

/-- A signed access token: nobody but the service can make one. -/
structure AccessToken where
  payload : JwtPayload
  exp : Time

structure AuthTokensDto where
  accessToken : AccessToken
  refreshToken : String
  expiresIn : String

structure EmailJob where
  jobName : String
  recipient : String
  subject : String
  html : String

/-- What a Redis key holds. -/
inductive RedisValue
  | text (s : String)
  | verifier (codeVerifier : String)
  | session (userId email : String) (tokens : AuthTokensDto)

structure RedisEntry where
  key : String
  value : RedisValue
  expiresAt : Option Time

/-- The tables of the service, the email queue and Redis. -/
structure AuthDb where
  users : Table User
  roles : Table Role
  refreshTokens : Table RefreshToken
  otpChallenges : Table OtpChallenge
  oauthAccounts : Table OAuthAccount
  organizerInvitations : Table OrganizerInvitation
  events : Table Event
  eventOrganizers : Table EventOrganizer
  profiles : Table Profile
  auditLogs : Table AuditLog
  outboxEvents : Table OutboxEvent
  emailQueueOpen : Bool
  emailJobs : List EmailJob
  redis : List RedisEntry

def AuthDb.empty : AuthDb :=
  { users := .empty
    roles := .empty
    refreshTokens := .empty
    otpChallenges := .empty
    oauthAccounts := .empty
    organizerInvitations := .empty
    events := .empty
    eventOrganizers := .empty
    profiles := .empty
    auditLogs := .empty
    outboxEvents := .empty
    emailQueueOpen := true
    emailJobs := []
    redis := [] }

inductive HttpStatus
  | badRequest | unauthorized | forbidden | notFound | conflict | internalServerError
  | serviceUnavailable
  deriving DecidableEq

/-- What a call throws. -/
inductive AuthError
  | http (status : HttpStatus) (message : String)
  | prisma (refusal : Refusal)
  | fault (message : String)
  deriving DecidableEq

/-- The functions of the language and of its libraries that the services apply to text, and the
configuration they read. -/
structure Runtime where
  /-- `text.trim().toLowerCase()` -/
  normalize : String → String
  trim : String → String
  sha256 : String → String
  bcryptHash (salt password : String) : String
  bcryptCompare (password hash : String) : Bool
  /-- `date.setDate(date.getDate() + days)` -/
  addDays (date : Time) (days : ℕ) : Time
  accessExpiresIn : String
  /-- How long a token with this `expiresIn` lives, in seconds. -/
  lifetime (expiresIn : String) : ℕ
  otpExpiresInMinutes : ℕ
  otpMaxAttempts : ℕ
  otpCooldownSeconds : ℕ
  oauthExchangeTtlSeconds : ℕ

/-- What one statement takes from its surroundings: the clock, the failure it runs into, and the
values that are generated for it, a new id next to the ids of the table. -/
structure AuthEnv where
  now : Time
  fault : Option String
  redisConnected : Bool
  newId (taken : List String) : String
  jti : String
  familyId : String
  randomToken : String
  otp : String
  salt : String
  deriving Inhabited

def AuthEnv.idFor {ρ : Type} [Row ρ] (env : AuthEnv) (t : Table ρ) : String :=
  env.newId (t.rows.map Row.id)

/-- A statement that generates keys which are not taken. -/
theorem exists_fresh (now : Time) :
    ∃ env : AuthEnv, env.now = now ∧ env.fault = none ∧ ∀ taken, env.newId taken ∉ taken :=
  ⟨{ (default : AuthEnv) with
      now
      fault := none
      newId := freshKey }, rfl, rfl, freshKey_notMem⟩

/-- Who sends the request. -/
structure Client where
  ipAddress : Option String
  userAgent : Option String

abbrev AuthCall (α : Type) := Call String AuthEnv AuthDb AuthError α

section Statements

variable {α : Type}

def throws (status : HttpStatus) (message : String) : AuthCall α :=
  .returned (.error (.http status message))

def finds (name : String) (f : AuthEnv → AuthDb → α) : AuthCall α :=
  .ask name fun env db ↦ env.fault.elim (.ok (f env db)) fun message ↦ .error (.fault message)

def ofRefusal : Except Refusal α → Except AuthError α
  | .ok a => .ok a
  | .error refusal => .error (.prisma refusal)

theorem ofRefusal_eq_ok {x : Except Refusal α} {a : α} : ofRefusal x = .ok a ↔ x = .ok a := by
  cases x <;> simp [ofRefusal]

/-- Where nothing else is unique, only a row is refused whose key is taken. -/
theorem taken_of_ofRefusal {ρ : Type} [Row ρ] {t : Table ρ} {r : ρ} {x : AuthError}
    (h : ofRefusal (t.create r) = .error x) (hu : (Row.uniques : List (ρ → Option String)) = []) :
    Row.id r ∈ t.rows.map Row.id := by
  cases hcreate : t.create r with
  | ok t' =>
    rw [hcreate] at h
    cases h
  | error refusal => exact Table.taken_of_refused hcreate hu

/-- What the store itself throws is no answer of the service. -/
def AuthError.Internal (x : AuthError) : Prop := ∀ status message, x ≠ .http status message

theorem internal_fault (message : String) : (AuthError.fault message).Internal := nofun

theorem internal_ofRefusal {x : Except Refusal α} {e : AuthError} (h : ofRefusal x = .error e) :
    e.Internal := by
  cases x with
  | ok a => cases h
  | error refusal =>
    cases h
    exact nofun

/-- One statement that writes, or one transaction. -/
def stores (name : String) (f : AuthEnv → AuthDb → Except AuthError (AuthDb × α)) : AuthCall α :=
  .perform name fun env db ↦ env.fault.elim (f env db) fun message ↦ .error (.fault message)

end Statements

structure CreateAuditLogParams where
  actorUserId : Option String
  action : String
  resourceType : String
  resourceId : Option String
  metadata : List (String × JsValue)

namespace AuditService

def sensitive : List String := ["password", "token", "secret", "otp", "authorization"]

def isSensitive (key : String) : Bool :=
  sensitive.any fun s ↦ decide (s.toList <:+: key.toList.map Char.toLower)

def sanitizeMetadata (metadata : List (String × JsValue)) : List (String × JsValue) :=
  metadata.map fun p ↦ if isSensitive p.1 then (p.1, .str "[REDACTED]") else p

/-- A `VARCHAR` column takes a text of its width without a zero character. -/
def varChar (width : ℕ) (text : Option String) : Bool :=
  text.all fun t ↦ t.length ≤ width && t.toList.all (· ≠ Char.ofNat 0)

/-- The texts that a client sends along have room in their columns. -/
def fits (client : Client) : Bool := varChar 45 client.ipAddress && varChar 500 client.userAgent

/-- Only the client's texts can be too long for their columns. -/
def create (params : CreateAuditLogParams) (client : Client) (env : AuthEnv) (db : AuthDb) :
    Except Refusal (Table AuditLog) :=
  let actorUserId := params.actorUserId.filter (· ≠ "")
  if fits client && actorUserId.all db.users.has then
    db.auditLogs.create
      { id := env.idFor db.auditLogs
        actorUserId
        action := params.action
        resourceType := params.resourceType
        resourceId := params.resourceId.filter (· ≠ "")
        metadata := .obj (sanitizeMetadata params.metadata)
        ipAddress := client.ipAddress.filter (· ≠ "")
        userAgent := client.userAgent.filter (· ≠ "") }
  else .error .recordNotFound

/-- An entry that cannot be written is dropped. -/
def written (params : CreateAuditLogParams) (client : Client) (env : AuthEnv) (db : AuthDb) :
    AuthDb :=
  match env.fault, create params client env db with
  | none, .ok t => { db with auditLogs := t }
  | _, _ => db

def log (params : CreateAuditLogParams) (client : Client) : AuthCall Unit :=
  .request params.action (written params client) fun _ _ ↦ .returned (.ok ())

theorem written_frame (params : CreateAuditLogParams) (client : Client) (env : AuthEnv)
    (db : AuthDb) : ∃ t, written params client env db = { db with auditLogs := t } := by
  unfold written
  split
  · next t _ _ => exact ⟨t, rfl⟩
  · exact ⟨db.auditLogs, rfl⟩

end AuditService

structure CreateOutboxEventParams where
  eventType : String
  aggregateType : String
  aggregateId : String
  payload : List (String × JsValue)

namespace OutboxService

/-- `enqueue` inside the transaction that works on `db`, or as a statement of its own. -/
def written (params : CreateOutboxEventParams) (env : AuthEnv) (db : AuthDb) :
    Except AuthError AuthDb := do
  let t ← ofRefusal (db.outboxEvents.create
    { id := env.idFor db.outboxEvents
      eventType := params.eventType
      aggregateType := params.aggregateType
      aggregateId := params.aggregateId
      payload := .obj params.payload
      status := .pending
      attempts := 0
      lastError := none
      createdAt := env.now
      processedAt := none
      processingStartedAt := none })
  return { db with outboxEvents := t }

/-- With a new key the entry is written. -/
theorem written_succeeds {params : CreateOutboxEventParams} {env : AuthEnv} {db : AuthDb}
    (hfresh : ∀ taken, env.newId taken ∉ taken) : ∃ db', written params env db = .ok db' := by
  cases h : written params env db with
  | ok db' => exact ⟨db', rfl⟩
  | error x =>
    rcases andThen_eq_error.mp h with hcreate | ⟨t, -, hrest⟩
    · exact absurd (taken_of_ofRefusal hcreate rfl) (hfresh _)
    · cases hrest

def enqueue (params : CreateOutboxEventParams) : AuthCall Unit :=
  stores "outboxEvent.create" fun env db ↦ do
    let db ← written params env db
    return (db, ())

end OutboxService

/-- `queueService.addJob(QUEUE_NAMES.EMAIL, …)`: without the queue the job is dropped. -/
def addEmailJob (job : EmailJob) : AuthCall Unit :=
  stores "queue.add" fun _ db ↦
    .ok (if db.emailQueueOpen then { db with emailJobs := db.emailJobs ++ [job] } else db, ())

/-- The value of a key that has not expired. -/
def AuthDb.lookup (db : AuthDb) (key : String) (now : Time) : Option RedisValue :=
  (db.redis.find? fun e ↦ e.key == key && e.expiresAt.all (now < ·)).map RedisEntry.value

namespace RedisService

/-- Without a connection a key has no value. -/
def get (key : String) : AuthCall (Option RedisValue) :=
  finds "redis.get" fun env db ↦ if env.redisConnected then db.lookup key env.now else none

/-- Without a connection nothing is written. -/
def write (name : String) (f : AuthEnv → List RedisEntry → List RedisEntry) : AuthCall Unit :=
  stores name fun env db ↦
    .ok (if env.redisConnected then { db with redis := f env db.redis } else db, ())

def set (key : String) (value : RedisValue) (ttlSeconds : ℕ) : AuthCall Unit :=
  write "redis.set" fun env entries ↦
    { key
      value
      expiresAt := if ttlSeconds = 0 then none else some (env.now + ttlSeconds * 1000) } ::
    entries.filter fun e ↦ e.key != key

def del (key : String) : AuthCall Unit :=
  write "redis.del" fun _ entries ↦ entries.filter fun e ↦ e.key != key

end RedisService

section Sample

/-- The digests of the texts that the sample runs use. -/
def sampleSha256 : String → String
  | "refresh-1" => "bd473e5dcdce2510c2df4f0c5a54a605fa3647fe74afae20a8cdb8b91b1a1f63"
  | "refresh-2" => "f865a88f563b9fbc4c224f6fbabd2ec9f810efefc61b212bda20ee64a6fb2840"
  | "refresh-3" => "4482e973ec11c6135fee76b488ae112dbad4fd03fea792ace9c0cf7875e714fe"
  | "123456" => "8d969eef6ecad3c29a3a629280e686cf0c3f5d5a86aff3ca12020c923adc6c92"
  | "654321" => "481f6cc0511143ccdd7e2d1b1b94faf0a700a8b49cd13922a70b5ae28acaa8c5"
  | "000000" => "91b4d142823f7d20c5f08df69122de43f35f057a988d9619f6d3138485c9a203"
  | text => text

/-- The hash of a password with the salt of the sample runs. -/
def sampleBcrypt : String → String
  | "Sunflower7" => "$2b$12$abcdefghijklmnopqrstuuCsngZ7euXo1M293XFZtRpUk9MuOkvGC"
  | "Hyacinth9" => "$2b$12$abcdefghijklmnopqrstuue0mpAR3Wx/kSzrnQPgHW44Rn03fu74W"
  | password => password

def sampleRuntime : Runtime where
  normalize := id
  trim := id
  sha256 := sampleSha256
  bcryptHash _ password := sampleBcrypt password
  bcryptCompare password hash := sampleBcrypt password == hash
  addDays date days := date + days * 86400000
  accessExpiresIn := "15m"
  lifetime _ := 900
  otpExpiresInMinutes := 5
  otpMaxAttempts := 5
  otpCooldownSeconds := 60
  oauthExchangeTtlSeconds := 60

def nobody : Client := ⟨none, none⟩

def attendee : User where
  id := "user-1"
  email := "attendee@example.com"
  phone := none
  passwordHash := sampleBcrypt "Sunflower7"
  status := .active
  emailVerifiedAt := some 0
  lastLoginAt := none
  approvedAt := none
  approvedByUserId := none
  rejectedAt := none
  rejectionReason := none
  suspendedAt := none
  suspensionReason := none
  deletedAt := none
  createdAt := 0
  userRoles := ["ATTENDEE"]

def attendeeDb : AuthDb := { AuthDb.empty with users := .singleton attendee }

/-- A statement at a moment; what it generates is told apart by `tag`. -/
def sampleEnv (now : Time) (tag : String) : AuthEnv where
  now
  fault := none
  redisConnected := true
  newId _ := "id-" ++ tag
  jti := "jti-" ++ tag
  familyId := "family-" ++ tag
  randomToken := "refresh-" ++ tag
  otp := "123456"
  salt := "$2b$12$abcdefghijklmnopqrstuu"

end Sample

end Innovents.Auth
