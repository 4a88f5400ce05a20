import Innovents.Auth.AuthService
import Innovents.Lib.Transaction

namespace Innovents.Auth

open Innovents.Lib Innovents.Payments

structure CreateInvitationDto where
  email : String
  expiresDays : Option ℤ

structure AcceptInvitationDto where
  token : String
  password : Option String
  firstName : Option String
  lastName : Option String
  phone : Option String

structure InvitationDetailsDto where
  id : String
  eventId : String
  email : String
  status : InvitationStatus
  expiresAt : Time
  acceptedAt : Option Time
  revokedAt : Option Time
  createdAt : Time

structure CreatedInvitationResponseDto where
  invitation : InvitationDetailsDto
  token : String
  invitationUrl : String

structure AcceptedInvitationResponseDto where
  success : Bool
  message : String
  userId : String
  eventId : String
  accessToken : Option AccessToken
  refreshToken : Option String

/-- A statement of an open transaction. -/
def inTx {α : Type} (name : String) (tx : Pending AuthDb AuthError)
    (f : AuthEnv → AuthDb → Except AuthError (AuthDb × α)) :
    AuthCall (Pending AuthDb AuthError × α) :=
  .within name tx fun env db ↦ env.fault.elim (f env db) fun message ↦ .error (.fault message)

def commitTx (tx : Pending AuthDb AuthError) : AuthCall Unit :=
  .commit "commit" (fun env ↦ env.fault.elim (.ok ()) fun message ↦ .error (.fault message)) tx

namespace OrganizerInvitationsService

open AuthService TokenService

variable (rt : Runtime)

/-- `event.findFirst({ where: { id, deletedAt: null } })` -/
def findEvent (eventId : String) : AuthCall (Option Event) :=
  finds "event.findFirst" fun _ db ↦ db.events.find? fun e ↦ e.id == eventId && e.deletedAt.isNone

/-- Only the owner of the event and administrators invite organizers. -/
def assertCanInviteOrganizer (userId : String) (userRoles : List String) (eventId : String) :
    AuthCall Event := do
  let event ← findEvent eventId
  match event with
  | none => throws .notFound "Event not found"
  | some event =>
    if "ADMIN" ∈ userRoles ∨ event.ownerId = userId then return event
    else throws .forbidden "Only the event owner or an administrator can invite organizers"

def invitationLink (rawToken : String) : String :=
  s!"https://innovent.app/invitations/accept?token={rawToken}"

def newInvitation (env : AuthEnv) (eventId eventOwnerId email : String) (days : ℤ)
    (t : Table OrganizerInvitation) : OrganizerInvitation where
  id := env.idFor t
  eventId
  eventOwnerId
  email
  tokenHash := rt.sha256 env.randomToken
  status := .pending
  expiresAt := env.now + days * 24 * 60 * 60 * 1000
  acceptedAt := none
  revokedAt := none
  acceptedByUserId := none
  createdAt := env.now

/-- The transaction of a new invitation: its row, and the event with its link. -/
def storeInvitation (event : Event) (ownerUserId email : String) (days : ℤ) :
    AuthCall (OrganizerInvitation × String) :=
  stores "organizerInvitation.create" fun env db ↦ do
    let created := newInvitation rt env event.id ownerUserId email days db.organizerInvitations
    let organizerInvitations ← ofRefusal (db.organizerInvitations.create created)
    let db ← OutboxService.written
      { eventType := "ORGANIZER_INVITATION_CREATED"
        aggregateType := "OrganizerInvitation"
        aggregateId := created.id
        payload :=
          [("invitationId", .str created.id), ("email", .str email), ("eventId", .str event.id),
            ("eventName", .str event.name), ("inviterName", .str event.ownerId),
            ("invitationLink", .str (invitationLink env.randomToken)),
            ("expiresAt", .date created.expiresAt)] } env { db with organizerInvitations }
    return (db, created, env.randomToken)

def createInvitation (eventId ownerUserId : String) (ownerRoles : List String)
    (dto : CreateInvitationDto) (client : Client) : AuthCall CreatedInvitationResponseDto := do
  let event ← assertCanInviteOrganizer ownerUserId ownerRoles eventId
  let normalizedEmail := rt.normalize dto.email
  stores "organizerInvitation.updateMany" fun env db ↦ do
    let t ← ofRefusal (db.organizerInvitations.updateMany
      (fun i ↦ i.eventId == eventId && i.email == normalizedEmail && i.status == .pending)
      fun i ↦ { i with
        status := .revoked
        revokedAt := some env.now })
    return ({ db with organizerInvitations := t }, ())
  let days := (dto.expiresDays.filter (0 < ·)).getD 7
  let (invitation, rawToken) ← storeInvitation rt event ownerUserId normalizedEmail days
  AuditService.log
    { actorUserId := some ownerUserId
      action := "ORGANIZER_INVITATION_CREATED"
      resourceType := "organizer_invitation"
      resourceId := some invitation.id
      metadata := [("eventId", .str eventId), ("email", .str normalizedEmail),
        ("expiresAt", .date invitation.expiresAt)] } client
  return ⟨⟨invitation.id, invitation.eventId, invitation.email, invitation.status,
    invitation.expiresAt, none, none, invitation.createdAt⟩, rawToken, invitationLink rawToken⟩

def detailsOf (i : OrganizerInvitation) : InvitationDetailsDto :=
  ⟨i.id, i.eventId, i.email, i.status, i.expiresAt, i.acceptedAt, i.revokedAt, i.createdAt⟩

def storeRevocation (invitationId : String) : AuthCall OrganizerInvitation :=
  stores "organizerInvitation.update" fun env db ↦ do
    let t ← ofRefusal (db.organizerInvitations.update invitationId fun i ↦
      { i with
        status := .revoked
        revokedAt := some env.now })
    match t.get? invitationId with
    | some updated => return ({ db with organizerInvitations := t }, updated)
    | none => .error (.prisma .recordNotFound)

def revokeInvitation (invitationId userId : String) (userRoles : List String) (client : Client) :
    AuthCall InvitationDetailsDto := do
  let invitation ← finds "organizerInvitation.findUnique" fun _ db ↦
    db.organizerInvitations.get? invitationId
  match invitation with
  | none => throws .notFound "Invitation not found"
  | some invitation =>
    let _ ← assertCanInviteOrganizer userId userRoles invitation.eventId
    if invitation.status = .revoked then throws .badRequest "Invitation is already revoked"
    else if invitation.status = .accepted then
      throws .badRequest "Invitation has already been accepted and cannot be revoked"
    else do
      let updated ← storeRevocation invitationId
      AuditService.log
        { actorUserId := some userId
          action := "ORGANIZER_INVITATION_REVOKED"
          resourceType := "organizer_invitation"
          resourceId := some invitation.id
          metadata := [("eventId", .str invitation.eventId), ("email", .str invitation.email)] } client
      return detailsOf updated

/-- An account that exists gets the role, unless it has it. -/
def addRole (tx : Pending AuthDb AuthError) (user : User) (role : Role) :
    AuthCall (Pending AuthDb AuthError) :=
  if "ORGANIZER" ∈ user.userRoles then return tx
  else do
    let (tx, _) ← inTx "userRole.create" tx fun _ db ↦ do
      let users ← ofRefusal (db.users.update user.id fun u ↦
        { u with userRoles := u.userRoles ++ [role.name] })
      return ({ db with users }, ())
    return tx

/-- The account, the role and the profile of a new organizer. -/
def createOrganizer (tx : Pending AuthDb AuthError) (email password : String)
    (dto : AcceptInvitationDto) (role : Role) : AuthCall (Pending AuthDb AuthError × String) :=
  inTx "user.create" tx fun env db ↦ do
    let phone := trimmed rt dto.phone
    let user := newUser env email phone (rt.bcryptHash env.salt password) .active (some env.now)
      [role.name] db.users
    let users ← ofRefusal (db.users.create user)
    let profiles ← ofRefusal (db.profiles.create
      { id := env.idFor db.profiles
        table := "organizer_profiles"
        userId := user.id
        columns :=
          [("firstName", some ((trimmed rt dto.firstName).getD "Organizer")),
            ("lastName", some ((trimmed rt dto.lastName).getD "User")), ("phone", phone)] })
    return ({ db with users, profiles }, user.id)

/-- The account of an invitation, existing or new. -/
def organizerAccount (tx : Pending AuthDb AuthError) (invitation : OrganizerInvitation)
    (dto : AcceptInvitationDto) (role : Role) : AuthCall (Pending AuthDb AuthError × String) := do
  let existingUser ← findAccount invitation.email
  match existingUser with
  | some user =>
    if user.status = .deactivated ∨ user.status = .suspended then
      throws .forbidden "Account is suspended or deactivated"
    else
      let tx ← addRole tx user role
      return (tx, user.id)
  | none =>
    match dto.password.filter (· ≠ "") with
    | none => throws .badRequest "Password is required to create your organizer account"
    | some password => createOrganizer rt tx invitation.email password dto role

/-- The assignment to the event, the invitation, and the event for its owner. -/
def markAccepted (tx : Pending AuthDb AuthError) (invitation : OrganizerInvitation) (event : Event)
    (userId : String) : AuthCall (Pending AuthDb AuthError) := do
  let (tx, _) ← inTx "eventOrganizer.upsert" tx fun env db ↦
    if (db.eventOrganizers.find? fun o ↦ o.eventId == invitation.eventId && o.userId == userId).isSome
    then .ok (db, ())
    else do
      let t ← ofRefusal (db.eventOrganizers.create
        { id := env.idFor db.eventOrganizers
          eventId := invitation.eventId
          userId
          assignedAt := env.now
          assignedBy := invitation.eventOwnerId })
      return ({ db with eventOrganizers := t }, ())
  let (tx, acceptedAt) ← inTx "organizerInvitation.update" tx fun env db ↦ do
    let t ← ofRefusal (db.organizerInvitations.update invitation.id fun i ↦
      { i with
        status := .accepted
        acceptedAt := some env.now
        acceptedByUserId := some userId })
    return ({ db with organizerInvitations := t }, env.now)
  let (tx, _) ← inTx "outboxEvent.create" tx fun env db ↦ do
    let db ← OutboxService.written
      { eventType := "ORGANIZER_INVITATION_ACCEPTED"
        aggregateType := "OrganizerInvitation"
        aggregateId := invitation.id
        payload :=
          [("invitationId", .str invitation.id), ("eventId", .str invitation.eventId),
            ("eventName", .str event.name), ("eventOwnerId", .str invitation.eventOwnerId),
            ("organizerEmail", .str invitation.email), ("acceptedAt", .date acceptedAt)] } env db
    return (db, ())
  return tx

/-- The tokens are stored on a connection of their own, next to the open transaction. -/
def issueTokens (tx : Pending AuthDb AuthError) (userId : String) :
    AuthCall (Option AuthTokensDto) := do
  let (_, updatedUser) ← inTx "user.findUnique" tx fun _ db ↦
    .ok (db, (db.users.get? userId).map fun user ↦ (user, permissionsOf user db))
  match updatedUser with
  | none => return none
  | some (user, permissions) =>
    let tokens ← generateTokens rt user.id user.email user.userRoles permissions none
    return some tokens

/-- What follows once the invitation is found to be open. -/
def acceptOpen (invitation : OrganizerInvitation) (dto : AcceptInvitationDto) (client : Client) :
    AuthCall AcceptedInvitationResponseDto := do
  let event ← findEvent invitation.eventId
  match event with
  | none => throws .notFound "The associated event is no longer available"
  | some event =>
    let organizerRole ← finds "role.findUnique" fun _ db ↦ db.role "ORGANIZER"
    match organizerRole with
    | none => throws .badRequest "System configuration error: ORGANIZER role not found"
    | some organizerRole =>
      let (tx, userId) ← organizerAccount rt .ok invitation dto organizerRole
      let tx ← markAccepted tx invitation event userId
      AuditService.log
        { actorUserId := some userId
          action := "ORGANIZER_INVITATION_ACCEPTED"
          resourceType := "organizer_invitation"
          resourceId := some invitation.id
          metadata := [("eventId", .str invitation.eventId), ("email", .str invitation.email)] } client
      let tokens ← issueTokens rt tx userId
      commitTx tx
      return ⟨true, "Organizer invitation accepted successfully", userId, invitation.eventId,
        tokens.map AuthTokensDto.accessToken, tokens.map AuthTokensDto.refreshToken⟩

/-- The refusal undoes the update. -/
def expireInvitation (invitation : OrganizerInvitation) : AuthCall AcceptedInvitationResponseDto := do
  let _ ← inTx "organizerInvitation.update" .ok fun _ db ↦ do
    let t ← ofRefusal (db.organizerInvitations.update invitation.id fun i ↦
      { i with status := .expired })
    return ({ db with organizerInvitations := t }, ())
  throws .badRequest "This invitation token has expired"

/-- One transaction, from the first statement to the tokens. -/
def acceptInvitation (dto : AcceptInvitationDto) (client : Client) :
    AuthCall AcceptedInvitationResponseDto := do
  let tokenHash := rt.sha256 (rt.trim dto.token)
  let (invitation, now) ← finds "organizerInvitation.findUnique" fun env db ↦
    (db.organizerInvitations.find? (·.tokenHash == tokenHash), env.now)
  match invitation with
  | none => throws .badRequest "Invalid or unknown invitation token"
  | some invitation =>
    if invitation.status = .revoked then throws .badRequest "This invitation has been revoked"
    else if invitation.status = .accepted then
      throws .badRequest "This invitation has already been accepted"
    else if invitation.status = .expired ∨ invitation.expiresAt < now then
      expireInvitation invitation
    else acceptOpen rt invitation dto client

end OrganizerInvitationsService

end Innovents.Auth
