import Innovents.Auth.Schema
import Mathlib.Logic.Function.Basic

namespace Innovents.BusinessProfiles

open Innovents.Lib Innovents.Auth
open Innovents.Payments (Time AccountStatus)

/-- A JSON object. -/
abbrev Body := List (String × JsValue)

inductive ProfileModel
  | sponsor | vendor | provider | eventOwner | organizer | media | attendee
  deriving DecidableEq

namespace ProfileModel

/-- The columns that hold lists. -/
def lists : ProfileModel → List String
  | provider => ["skills"]
  | media => ["coverageInterests"]
  | attendee => ["interests"]
  | _ => []

def columns (m : ProfileModel) : List String :=
  ["id", "userId", "createdAt", "updatedAt", "deletedAt"] ++ match m with
  | sponsor =>
    ["companyName", "logoUrl", "website", "description", "industry", "tier", "contactName",
      "contactEmail", "contactPhone", "address", "city", "country", "documents", "stripeCustomerId"]
  | vendor =>
    ["companyName", "logoUrl", "website", "description", "serviceCategory", "contactName",
      "contactEmail", "contactPhone", "crNumber", "taxNumber", "documents", "address", "city",
      "country", "stripeCustomerId"]
  | provider =>
    ["businessName", "logoUrl", "website", "description", "providerType", "skills", "contactName",
      "contactEmail", "contactPhone", "portfolioUrl", "city", "country"]
  | eventOwner =>
    ["organizationName", "logoUrl", "website", "description", "contactName", "contactEmail",
      "contactPhone", "city", "country"]
  | organizer => ["firstName", "lastName", "avatarUrl", "jobTitle", "organization", "phone"]
  | media =>
    ["mediaOutlet", "outletType", "logoUrl", "website", "pressCardNumber", "contactName",
      "contactEmail", "contactPhone", "coverageInterests"]
  | attendee =>
    ["firstName", "lastName", "avatarUrl", "bio", "jobTitle", "company", "interests", "city",
      "country", "socialLinks"]

def relations : ProfileModel → List String
  | sponsor => ["user", "sponsorships", "subscriptions", "payments"]
  | vendor => ["user", "subscriptions", "payments"]
  | _ => ["user"]

/-- What a new profile gets where the body is silent. -/
def required : ProfileModel → List (String × String)
  | sponsor => [("companyName", "Business Name")]
  | vendor => [("companyName", "Vendor Business"), ("serviceCategory", "General")]
  | provider => [("businessName", "Provider Service"), ("providerType", "Service")]
  | eventOwner => [("organizationName", "Event Organization")]
  | organizer => [("firstName", "Organizer"), ("lastName", "User")]
  | media => [("mediaOutlet", "Media Outlet")]
  | attendee => [("firstName", "Attendee"), ("lastName", "User")]

/-- The profile that belongs to the roles. -/
def ofRoles (roles : List String) : ProfileModel :=
  if "SPONSOR" ∈ roles then sponsor
  else if "VENDOR" ∈ roles then vendor
  else if "PROVIDER" ∈ roles then provider
  else if "EVENT_OWNER" ∈ roles then eventOwner
  else if "ORGANIZER" ∈ roles then organizer
  else if "MEDIA" ∈ roles then media
  else attendee

end ProfileModel

/-- A row of a profile table, column by column. -/
abbrev ProfileRow := String → JsValue

/-- The tables that the service uses, and all others. -/
structure ProfileDb (W : Type) where
  users : Table User
  profiles : ProfileModel → List ProfileRow
  auditLogs : Table AuditLog
  others : W

def ProfileDb.withRows {W : Type} (db : ProfileDb W) (m : ProfileModel) (rows : List ProfileRow) :
    ProfileDb W :=
  { db with profiles := Function.update db.profiles m rows }

@[simp] theorem ProfileDb.withRows_self {W : Type} (db : ProfileDb W) (m : ProfileModel)
    (rows : List ProfileRow) : (db.withRows m rows).profiles m = rows := by
  simp [withRows]

theorem ProfileDb.withRows_other {W : Type} (db : ProfileDb W) {m m' : ProfileModel} (h : m' ≠ m)
    (rows : List ProfileRow) : (db.withRows m rows).profiles m' = db.profiles m' := by
  simp [withRows, h]

/-- What the database client does with the data of a write: the value of a column, the nested writes
for the keys that are relations of the caller's row, and the constraints of the tables. -/
structure Prisma (W : Type) where
  column (m : ProfileModel) (key : String) (value old : JsValue) : Except AuthError JsValue
  nested (m : ProfileModel) (data : Body) (userId : String) (db : ProfileDb W) :
    Except AuthError (ProfileDb W)
  constraints (db : ProfileDb W) : Except AuthError Unit
  nested_nil (m : ProfileModel) (userId : String) (db : ProfileDb W) : nested m [] userId db = .ok db

abbrev ProfileCall (W α : Type) := Call String AuthEnv (ProfileDb W) AuthError α

structure OwnProfileDto where
  id : String
  email : String
  phone : Option String
  status : AccountStatus
  roles : List String
  emailVerified : Bool
  lastLoginAt : Option Time
  createdAt : Time
  profile : Option ProfileRow

def isOwn (userId : String) (row : ProfileRow) : Bool := (row "userId").isStr userId

section Client

variable {W : Type} (prisma : Prisma W) (m : ProfileModel) (userId : String)

/-- A new row before its data is written. -/
def newRow (env : AuthEnv) (taken : List String) : ProfileRow := fun key ↦
  if key = "id" then .str (env.newId taken)
  else if key = "userId" then .str userId
  else if key = "createdAt" ∨ key = "updatedAt" then .date env.now
  else if key ∈ m.lists then .arr []
  else .null

def writeRow (data : Body) (row : ProfileRow) : Except AuthError ProfileRow :=
  (data.filter fun p ↦ p.1 ∈ m.columns).foldlM
    (fun row p ↦ do
      let value ← prisma.column m p.1 p.2 (row p.1)
      return Function.update row p.1 value) row

/-- The columns of an update, or of a new row. -/
def putRow (create update : Body) (env : AuthEnv) (db : ProfileDb W) :
    Except AuthError (ProfileDb W) :=
  if (db.profiles m).any (isOwn userId) then do
    let rows ← (db.profiles m).mapM fun row ↦
      if isOwn userId row then do
        let row ← writeRow prisma m update row
        return Function.update row "updatedAt" (.date env.now)
      else return row
    return db.withRows m rows
  else do
    let taken := (db.profiles m).filterMap fun row ↦ (row "id").asStr?
    let row ← writeRow prisma m create (newRow m userId env taken)
    return db.withRows m (db.profiles m ++ [row])

/-- Unknown keys are refused, and so is a row with both its `userId` and its `user`. -/
def checkKeys (creating : Bool) (data : Body) : Except AuthError Unit :=
  if data.all (fun p ↦ p.1 ∈ m.columns ++ m.relations) = false then
    .error (.fault "PrismaClientValidationError")
  else if creating && data.any (fun p ↦ p.1 == "user") then
    .error (.fault "PrismaClientValidationError")
  else .ok ()

/-- `upsert({ where: { userId }, create: { userId, …create }, update })` -/
def upserted (create update : Body) (env : AuthEnv) (db : ProfileDb W) :
    Except AuthError (ProfileDb W) := do
  let creating := !(db.profiles m).any (isOwn userId)
  let data := if creating then create else update
  checkKeys m creating data
  let written ← putRow prisma m userId create update env db
  let db ← prisma.nested m (data.filter fun p ↦ p.1 ∈ m.relations) userId written
  prisma.constraints db
  return db

end Client

namespace BusinessProfilesService

section

variable {W : Type} (prisma : Prisma W)

/-- `{ ...updateData }` without the keys that are not for the caller. -/
def sanitize (updateData : Body) : Body :=
  updateData.filter fun p ↦ p.1 ∉ ["id", "userId", "createdAt", "updatedAt", "deletedAt"]

/-- `{ …required, ...sanitized }`: what the body says wins. -/
def createData (m : ProfileModel) (sanitized : Body) : Body :=
  (m.required.map fun p ↦ (p.1, (JsValue.get (.obj sanitized) p.1).or (.str p.2))).filter
    (fun p ↦ p.1 ∉ sanitized.map Prod.fst) ++ sanitized

def liveUser (userId : String) (db : ProfileDb W) : Option User :=
  db.users.find? fun u ↦ u.id == userId && u.deletedAt.isNone

def findUser (userId : String) : ProfileCall W (Option User) :=
  .ask "user.findFirst" fun env db ↦
    env.fault.elim (.ok (liveUser userId db)) fun message ↦ .error (.fault message)

def refuse {α : Type} (status : HttpStatus) (message : String) : ProfileCall W α :=
  .returned (.error (.http status message))

/-- The first profile that the user has. -/
def activeProfile (userId : String) (db : ProfileDb W) : Option ProfileRow :=
  [ProfileModel.sponsor, .vendor, .provider, .eventOwner, .organizer, .media, .attendee].findSome?
    fun m ↦ (db.profiles m).find? (isOwn userId)

def getOwnProfile (userId : String) : ProfileCall W OwnProfileDto := do
  let found ← .ask "user.findFirst" fun env db ↦
    env.fault.elim (.ok ((liveUser userId db).map fun user ↦ (user, activeProfile userId db)))
      fun message ↦ .error (.fault message)
  match found with
  | none => refuse .notFound "User not found"
  | some (user, profile) =>
    return ⟨user.id, user.email, user.phone, user.status, user.userRoles,
      user.emailVerifiedAt.isSome, user.lastLoginAt, user.createdAt, profile⟩

def upsertProfile (m : ProfileModel) (userId : String) (sanitized : Body) : ProfileCall W Unit :=
  .perform "profile.upsert" fun env db ↦
    env.fault.elim (do
      let db ← upserted prisma m userId (createData m sanitized) sanitized env db
      return (db, ())) fun message ↦ .error (.fault message)

/-- The audit service works on its own connection, and drops an entry that it cannot write. -/
def log (params : CreateAuditLogParams) (client : Client) : ProfileCall W Unit :=
  .request params.action
    (fun env db ↦
      let tables := { AuthDb.empty with
        users := db.users
        auditLogs := db.auditLogs }
      { db with auditLogs := (AuditService.written params client env tables).auditLogs })
    fun _ _ ↦ .returned (.ok ())

def updateOwnProfile (userId : String) (updateData : Body) (client : Client) :
    ProfileCall W OwnProfileDto := do
  let user ← findUser userId
  match user with
  | none => refuse .notFound "User not found"
  | some user =>
    let roles := user.userRoles
    upsertProfile prisma (.ofRoles roles) userId (sanitize updateData)
    log
      { actorUserId := some userId
        action := "BUSINESS_PROFILE_UPDATED"
        resourceType := "business_profile"
        resourceId := some userId
        metadata := [("role", .str ((roles.head?.filter (· ≠ "")).getD "ATTENDEE"))] } client
    getOwnProfile userId

end

end BusinessProfilesService

end Innovents.BusinessProfiles
