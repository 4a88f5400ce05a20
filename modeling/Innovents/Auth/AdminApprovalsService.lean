import Innovents.Auth.AdminUsersService

namespace Innovents.Auth

open Innovents.Lib Innovents.Payments

structure ApprovalActionResponseDto where
  success : Bool
  message : String
  status : AccountStatus
  userId : String

namespace AdminApprovalsService

open AdminUsersService

variable (rt : Runtime)

def businessRoles : List String := ["SPONSOR", "VENDOR", "PROVIDER", "EVENT_OWNER", "MEDIA"]

def isBusinessAccount (user : User) : Bool := user.userRoles.any fun role ↦ businessRoles.contains role

def accountEvent (eventType : String) (user : User) (payload : List (String × JsValue)) :
    CreateOutboxEventParams where
  eventType
  aggregateType := "User"
  aggregateId := user.id
  payload := ("userId", .str user.id) :: ("email", .str user.email) ::
    ("roles", .arr (user.userRoles.map .str)) :: payload

def accountEntry (action : String) (user : User) (adminId : String) (newStatus : AccountStatus)
    (metadata : List (String × JsValue)) : CreateAuditLogParams where
  actorUserId := some adminId
  action
  resourceType := "user"
  resourceId := some user.id
  metadata := previousStatus user :: ("newStatus", .str (accountStatusText newStatus)) ::
    metadata ++ [("roles", .arr (user.userRoles.map .str))]

/-- What one of the four actions does with an account: it refuses, it has nothing to do, or it
updates the account. -/
inductive Decision
  | refuse (message : String)
  | already (message : String) (status : AccountStatus)
  | act (message : String) (status : AccountStatus) (f : Time → User → User) (revokesTokens : Bool)
      (entry : CreateAuditLogParams) (event : Time → CreateOutboxEventParams)

/-- The transaction that all four actions run: the account is found, its business role is
checked, and the decision is carried out. The audit entry is written on its own connection. -/
def inTransaction (name userId notBusiness : String) (decide : User → Decision) (client : Client) :
    AuthCall ApprovalActionResponseDto :=
  stores name fun env db ↦
    match (db.users.get? userId).filter (·.deletedAt.isNone) with
    | none => .error (.http .notFound "Account not found")
    | some user =>
      if isBusinessAccount user = false then .error (.http .badRequest notBusiness)
      else
        match decide user with
        | .refuse message => .error (.http .badRequest message)
        | .already message status => .ok (db, ⟨true, message, status, user.id⟩)
        | .act message status f revokesTokens entry event => do
          let (db, _) ← updateAccount userId (f env.now) revokesTokens (event env.now) env
            (AuditService.written entry client env db)
          return (db, ⟨true, message, status, user.id⟩)

def approved (adminId : String) (now : Time) (u : User) : User :=
  { u with
    status := .active
    approvedAt := some now
    approvedByUserId := some adminId
    rejectedAt := none
    rejectionReason := none }

def decideApproval (adminId : String) (user : User) : Decision :=
  if user.emailVerifiedAt = none then
    .refuse "Business account email must be verified before approval"
  else
    match user.status with
    | .active => .already "Account is already approved and active" .active
    | .deactivated => .refuse "Cannot approve a deactivated account"
    | .suspended => .refuse "Suspended accounts must be reactivated using the reactivate endpoint"
    | .rejected => .refuse "Rejected accounts must be reactivated using the reactivate endpoint"
    | .pending =>
      .act "Account approved successfully" .active (approved adminId) false
        (accountEntry "BUSINESS_ACCOUNT_APPROVED" user adminId .active [])
        fun now ↦ accountEvent "ACCOUNT_APPROVED" user [("approvedAt", .date now)]

def approveAccount (userId adminId : String) (client : Client) :
    AuthCall ApprovalActionResponseDto :=
  inTransaction "user.approve" userId
    "Only business accounts can be approved through this endpoint" (decideApproval adminId) client

def rejected (reason : String) (now : Time) (u : User) : User :=
  { u with
    status := .rejected
    rejectedAt := some now
    rejectionReason := some reason
    approvedAt := none
    approvedByUserId := none }

def decideRejection (reason : Option String) (adminId : String) (user : User) : Decision :=
  match (reason.map rt.trim).filter (· ≠ "") with
  | none => .refuse "Rejection reason is required"
  | some normalizedReason =>
    match user.status with
    | .rejected => .already "Account is already rejected" .rejected
    | .active =>
      .refuse "Active accounts cannot be rejected. Use the suspend endpoint instead"
    | .suspended => .refuse "Suspended accounts cannot be rejected through this endpoint"
    | .deactivated => .refuse "Cannot reject a deactivated account"
    | .pending =>
      .act "Account rejected successfully" .rejected (rejected normalizedReason) false
        (accountEntry "BUSINESS_ACCOUNT_REJECTED" user adminId .rejected
          [("reason", .str normalizedReason)])
        fun now ↦ accountEvent "ACCOUNT_REJECTED" user
          [("reason", .str normalizedReason), ("rejectedAt", .date now)]

def rejectAccount (userId adminId : String) (reason : Option String) (client : Client) :
    AuthCall ApprovalActionResponseDto :=
  inTransaction "user.reject" userId
    "Only business accounts can be rejected through this endpoint"
    (decideRejection rt reason adminId) client

def reasonValue : Option String → JsValue
  | some reason => .str reason
  | none => .null

def decideSuspension (reason : Option String) (adminId : String) (user : User) : Decision :=
  let normalizedReason := (reason.map rt.trim).filter (· ≠ "")
  match user.status with
  | .suspended => .already "Account is already suspended" .suspended
  | .pending => .refuse
      "Pending accounts cannot be suspended. Approve or reject the application instead"
  | .rejected => .refuse "Rejected accounts cannot be suspended. Reactivate the account first"
  | .deactivated => .refuse "Cannot suspend a deactivated account"
  | .active =>
    .act "Account suspended successfully and sessions revoked" .suspended
      (suspended normalizedReason) true
      (accountEntry "BUSINESS_ACCOUNT_SUSPENDED" user adminId .suspended
        [("reason", reasonValue normalizedReason)])
      fun now ↦ accountEvent "ACCOUNT_SUSPENDED" user
        [("reason", .str (normalizedReason.getD "Account suspended by administrator")),
          ("suspendedAt", .date now)]

def suspendAccount (userId adminId : String) (reason : Option String) (client : Client) :
    AuthCall ApprovalActionResponseDto :=
  inTransaction "user.suspendAccount" userId
    "Only business accounts can be suspended through this endpoint"
    (decideSuspension rt reason adminId) client

/-- A rejected application goes back to review. -/
def reopened (u : User) : User :=
  { u with
    status := .pending
    rejectedAt := none
    rejectionReason := none
    approvedAt := none
    approvedByUserId := none }

def decideReactivation (adminId : String) (user : User) : Decision :=
  match user.status with
  | .suspended =>
    .act "Suspended account reactivated successfully" .active (fun _ ↦ reactivated) false
      (accountEntry "BUSINESS_ACCOUNT_REACTIVATED" user adminId .active [])
      fun _ ↦ accountEvent "ACCOUNT_REACTIVATED" user
        [previousStatus user, ("newStatus", .str "ACTIVE")]
  | .rejected =>
    .act "Rejected account returned to pending review" .pending (fun _ ↦ reopened) false
      (accountEntry "BUSINESS_ACCOUNT_REOPENED" user adminId .pending [])
      fun _ ↦ accountEvent "ACCOUNT_REOPENED" user
        [previousStatus user, ("newStatus", .str "PENDING")]
  | _ => .refuse "Only suspended or rejected business accounts can be reactivated"

def reactivateAccount (userId adminId : String) (client : Client) :
    AuthCall ApprovalActionResponseDto :=
  inTransaction "user.reactivateAccount" userId
    "Only business accounts can be reactivated through this endpoint"
    (decideReactivation adminId) client

end AdminApprovalsService

end Innovents.Auth
