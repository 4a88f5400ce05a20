import Innovents.Auth.TokenService
import Innovents.Communities.Social.Memberships

namespace Innovents.Communities.Social

open Innovents.Lib Innovents.Auth Innovents.Platform
open Innovents.Payments (Time CommunityMemberRole CommunityMemberStatus)

structure SendChatMessageDto where
  content : String

structure ChatSenderResponseDto where
  id : String
  email : String
  role : Option CommunityMemberRole

structure ChatMessageResponseDto where
  id : String
  communityId : String
  senderId : String
  content : String
  createdAt : Time
  sender : ChatSenderResponseDto

namespace CommunityChatService

/-- `communityChatMessage.create` with its sender -/
def createMessage (communityId senderId content : String) (env : AuthEnv) (db : SocialDb) :
    Except AuthError (SocialDb × (CommunityChatMessage × UserSummary)) := do
  foreignKeys (db.communities.has communityId)
  let sender ← present (userSummary senderId db) (.fault "Foreign key constraint violated")
  let message : CommunityChatMessage :=
    { id := env.idFor db.communityChatMessages
      communityId
      senderId
      content
      createdAt := env.now }
  let communityChatMessages ← ofRefusal (db.communityChatMessages.create message)
  return ({ db with communityChatMessages }, (message, sender))

def saveMessage (communityId senderId : String) (dto : SendChatMessageDto) :
    SocialCall ChatMessageResponseDto := do
  let (_, member) ← CommunityAuthorizationService.assertActiveMember senderId communityId
  let (message, sender) ← Call.writes "communityChatMessage.create"
    (createMessage communityId senderId dto.content)
  return {
    id := message.id
    communityId := message.communityId
    senderId := message.senderId
    content := message.content
    createdAt := message.createdAt
    sender := ⟨sender.id, sender.email, member.role⟩ }

end CommunityChatService

structure AuthenticatedSocket where
  /-- `client.data.userId` -/
  userId : Option String
  rooms : List String
  connected : Bool

/-- Whether the socket gets what is sent to the room. -/
def AuthenticatedSocket.isIn (socket : AuthenticatedSocket) (room : String) : Bool :=
  socket.connected && decide (room ∈ socket.rooms)

/-- `server.to(room).emit('chat_message', message)`, with the sockets that it reaches. -/
structure Broadcast where
  room : String
  message : ChatMessageResponseDto
  receivers : List ℕ

/-- The database and the sockets of the gateway. A socket is known by its place in the list. -/
structure Site where
  db : SocialDb
  sockets : List AuthenticatedSocket
  broadcasts : List Broadcast

def Site.withDb (db : SocialDb) (site : Site) : Site := { site with db }

def Site.updateSocket (client : ℕ) (f : AuthenticatedSocket → AuthenticatedSocket) (site : Site) :
    Site :=
  { site with sockets := site.sockets.modify client f }

def Site.receivers (room : String) (site : Site) : List ℕ :=
  (List.range site.sockets.length).filter fun i ↦ site.sockets[i]?.any (·.isIn room)

abbrev SiteCall (α : Type) := Service Site α

/-- What a client is answered. -/
structure SocketReply where
  success : Bool
  communityId : Option String
  data : Option ChatMessageResponseDto
  error : Option String

namespace CommunityGateway

def roomName (communityId : String) : String := "community:" ++ communityId

/-- `err.message` -/
def errorMessage : AuthError → String
  | .http _ message => message
  | .fault message => message
  | .prisma .uniqueConstraint => "Unique constraint failed"
  | .prisma .recordNotFound => "Record not found"

def onDb {α : Type} (call : SocialCall α) : SiteCall α := call.focus Site.db Site.withDb

/-- A statement about the sockets, which succeeds. -/
def onSockets (label : String) (f : AuthEnv → Site → Site) : SiteCall Unit :=
  Call.perform label fun env site ↦ .ok (f env site, ())

/-- A token that does not verify leaves the socket without a user. -/
def handleConnection (rawToken : Option AccessToken) : SiteCall SocketReply := do
  onSockets "connection" fun env site ↦
    let payload := rawToken.bind fun token ↦ (TokenService.verifyAccessToken token env.now).toOption
    { site with sockets := site.sockets ++ [⟨payload.map (·.sub), [], true⟩] }
  return ⟨true, none, none, none⟩

def handleDisconnect (client : ℕ) : SiteCall SocketReply := do
  onSockets "disconnect" fun _ ↦ Site.updateSocket client fun socket ↦
    { socket with
      rooms := []
      connected := false }
  return ⟨true, none, none, none⟩

/-- `client.data.userId`, if there is one -/
def userIdOf (client : ℕ) : SiteCall (Option String) :=
  Call.ask "client.data" fun _ site ↦
    .ok ((site.sockets[client]?.bind (·.userId)).filter (· ≠ ""))

def unauthorized : SocketReply := ⟨false, none, none, some "Unauthorized: Valid JWT required"⟩

/-- The answer to a client whose request may throw. -/
def answered (call : SiteCall SocketReply) : SiteCall SocketReply := do
  let result ← call.attempt
  match result with
  | .ok reply => return reply
  | .error err => return ⟨false, none, none, some (errorMessage err)⟩

def enterRoom (client : ℕ) (communityId : String) : SiteCall Unit :=
  onSockets "socket.join" fun _ ↦ Site.updateSocket client fun socket ↦
    { socket with rooms := socket.rooms.insert (roomName communityId) }

def handleJoinCommunity (client : ℕ) (communityId : String) : SiteCall SocketReply := do
  let found ← userIdOf client
  match found with
  | none => return unauthorized
  | some userId => answered do
    let _ ← onDb (CommunityAuthorizationService.assertActiveMember userId communityId)
    enterRoom client communityId
    return ⟨true, some communityId, none, none⟩

def handleLeaveCommunity (client : ℕ) (communityId : String) : SiteCall SocketReply := do
  onSockets "socket.leave" fun _ ↦ Site.updateSocket client fun socket ↦
    { socket with rooms := socket.rooms.filter (· ≠ roomName communityId) }
  return ⟨true, none, none, none⟩

def emitMessage (communityId : String) (saved : ChatMessageResponseDto) : SiteCall Unit :=
  onSockets "socket.emit" fun _ site ↦
    { site with broadcasts := site.broadcasts ++
        [⟨roomName communityId, saved, site.receivers (roomName communityId)⟩] }

def handleSendMessage (client : ℕ) (communityId content : String) : SiteCall SocketReply := do
  let found ← userIdOf client
  match found with
  | none => return unauthorized
  | some userId => answered do
    let saved ← onDb (CommunityChatService.saveMessage communityId userId ⟨content⟩)
    emitMessage communityId saved
    return ⟨true, none, some saved, none⟩

end CommunityGateway

inductive GatewayOp
  | connection (rawToken : Option AccessToken)
  | disconnect (client : ℕ)
  | joinCommunity (client : ℕ) (communityId : String)
  | leaveCommunity (client : ℕ) (communityId : String)
  | sendMessage (client : ℕ) (communityId content : String)
  | membership (op : MembershipOp)

/-- What an event of a socket is answered; a membership changes through a service. -/
def GatewayOp.runs : GatewayOp → SiteCall (Option SocketReply)
  | connection rawToken => some <$> CommunityGateway.handleConnection rawToken
  | disconnect client => some <$> CommunityGateway.handleDisconnect client
  | joinCommunity client communityId =>
    some <$> CommunityGateway.handleJoinCommunity client communityId
  | leaveCommunity client communityId =>
    some <$> CommunityGateway.handleLeaveCommunity client communityId
  | sendMessage client communityId content =>
    some <$> CommunityGateway.handleSendMessage client communityId content
  | membership op => (fun _ ↦ none) <$> CommunityGateway.onDb op.runs

abbrev GatewayTask := Task GatewayOp String AuthEnv Site AuthError (Option SocketReply)

def gatewayEvents : Machine Site GatewayTask AuthEnv := tasks GatewayOp.runs

end Innovents.Communities.Social
