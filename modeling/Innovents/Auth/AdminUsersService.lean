import Innovents.Auth.AuthService

namespace Innovents.Auth

open Innovents.Lib Innovents.Payments

/-- The sessions of a user end, if the action says so. -/
def endSessions (userId : String) (revokesTokens : Bool) (now : Time) (t : Table RefreshToken) :
    Except AuthError (Table RefreshToken) :=
  if revokesTokens then
    ofRefusal (t.updateMany (fun token ↦ token.userId == userId && token.revokedAt.isNone)
      (TokenService.revoke now))
  else .ok t

/-- One update of an account inside a transaction, with what else the transaction does. -/
def updateAccount (id : String) (f : User → User) (revokesTokens : Bool)
    (event : CreateOutboxEventParams) (env : AuthEnv) (db : AuthDb) :
    Except AuthError (AuthDb × Option User) := do
  let users ← ofRefusal (db.users.update id f)
  let refreshTokens ← endSessions id revokesTokens env.now db.refreshTokens
  let db ← OutboxService.written event env { db with users, refreshTokens }
  return (db, users.get? id)

namespace AdminUsersService

variable (rt : Runtime)

def accountStatusText : AccountStatus → String
  | .pending => "PENDING"
  | .active => "ACTIVE"
  | .rejected => "REJECTED"
  | .suspended => "SUSPENDED"
  | .deactivated => "DEACTIVATED"

def findUser (id : String) : AuthCall (Option User) :=
  finds "user.findUnique" fun _ db ↦ db.users.get? id

def userEvent (eventType id : String) (payload : List (String × JsValue)) :
    CreateOutboxEventParams where
  eventType
  aggregateType := "USER"
  aggregateId := id
  payload := ("userId", .str id) :: payload

def userEntry (action id adminUserId : String) (metadata : List (String × JsValue)) :
    CreateAuditLogParams where
  actorUserId := some adminUserId
  action
  resourceType := "USER"
  resourceId := some id
  metadata

def previousStatus (user : User) : String × JsValue :=
  ("previousStatus", .str (accountStatusText user.status))

def activated (user : User) (adminUserId : String) (now : Time) (u : User) : User :=
  { u with
    status := .active
    approvedAt := some (user.approvedAt.getD now)
    approvedByUserId := some ((user.approvedByUserId.filter (· ≠ "")).getD adminUserId) }

def activateUser (id adminUserId : String) (client : Client) : AuthCall (Option User) := do
  match ← findUser id with
  | none => throws .notFound "User not found"
  | some user =>
    let updated ← stores "user.activate" fun env db ↦
      updateAccount id (activated user adminUserId env.now) false
        (userEvent "USER_ACTIVATED" id [("adminUserId", .str adminUserId)]) env db
    AuditService.log (userEntry "USER_ACTIVATED" id adminUserId
      [previousStatus user, ("newStatus", .str "ACTIVE")]) client
    return updated

def suspended (reason : Option String) (now : Time) (u : User) : User :=
  { u with
    status := .suspended
    suspendedAt := some now
    suspensionReason := reason }

def suspendUser (id adminUserId reason : String) (client : Client) : AuthCall (Option User) :=
  if id = adminUserId then
    throws .badRequest "Security Violation: Administrators cannot suspend their own account"
  else do
    match ← findUser id with
    | none => throws .notFound "User not found"
    | some user =>
      let updated ← stores "user.suspend" fun env db ↦
        updateAccount id (suspended (some (rt.trim reason)) env.now) true
          (userEvent "USER_SUSPENDED" id
            [("reason", .str reason), ("adminUserId", .str adminUserId)]) env db
      AuditService.log (userEntry "USER_SUSPENDED" id adminUserId
        [("reason", .str reason), previousStatus user]) client
      return updated

def reactivated (u : User) : User :=
  { u with
    status := .active
    suspendedAt := none
    suspensionReason := none }

def reactivateUser (id adminUserId : String) (client : Client) : AuthCall (Option User) := do
  match ← findUser id with
  | none => throws .notFound "User not found"
  | some user =>
    if user.status ≠ .suspended ∧ user.status ≠ .rejected then
      throws .badRequest "User is not suspended or rejected"
    else
      let updated ← stores "user.reactivate" fun env db ↦
        updateAccount id reactivated false
          (userEvent "USER_REACTIVATED" id [("adminUserId", .str adminUserId)]) env db
      AuditService.log (userEntry "USER_REACTIVATED" id adminUserId [previousStatus user]) client
      return updated

def deactivated (now : Time) (u : User) : User :=
  { u with
    status := .deactivated
    deletedAt := some now }

def deactivateUser (id adminUserId reason : String) (client : Client) : AuthCall (Option User) :=
  if id = adminUserId then
    throws .badRequest "Security Violation: Administrators cannot deactivate their own account"
  else do
    match ← findUser id with
    | none => throws .notFound "User not found"
    | some user =>
      let updated ← stores "user.deactivate" fun env db ↦
        updateAccount id (deactivated env.now) true
          (userEvent "USER_DEACTIVATED" id
            [("reason", .str reason), ("adminUserId", .str adminUserId)]) env db
      AuditService.log (userEntry "USER_DEACTIVATED" id adminUserId
        [("reason", .str reason), previousStatus user]) client
      return updated

end AdminUsersService

end Innovents.Auth
