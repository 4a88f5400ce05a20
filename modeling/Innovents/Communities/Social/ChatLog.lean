import Innovents.Communities.Social.ChatRooms
import Innovents.Communities.Social.PostFeed
import Innovents.Lib.Appends
import Innovents.Lib.Placement

namespace Innovents.Communities.Social

open Innovents.Lib Innovents.Auth Innovents.Platform
open Innovents.Payments (Time CommunityMemberRole CommunityMemberStatus)

namespace CommunityChatService

open Innovents.Communities.Social.CommunityRepliesService (roleIn)

/-- A message with what a search includes: its sender. -/
structure IncludedMessage where
  message : CommunityChatMessage
  sender : UserSummary

/-- A sender is required. -/
def included (found : CommunityChatMessage × Option UserSummary) :
    Except AuthError IncludedMessage := do
  let sender ← present found.2 (.fault
    "Inconsistent query result: Field sender is required to return data, got null instead.")
  return ⟨found.1, sender⟩

def toDto (role : Option CommunityMemberRole) (m : IncludedMessage) : ChatMessageResponseDto where
  id := m.message.id
  communityId := m.message.communityId
  senderId := m.message.senderId
  content := m.message.content
  createdAt := m.message.createdAt
  sender := ⟨m.sender.id, m.sender.email, role⟩

/-- `orderBy: { createdAt: 'desc' }` -/
def Newer (a b : CommunityChatMessage) : Prop := b.createdAt ≤ a.createdAt

instance : DecidableRel Newer := fun a b ↦ inferInstanceAs (Decidable (b.createdAt ≤ a.createdAt))

instance : Std.Total Newer := ⟨fun a b ↦ le_total b.createdAt a.createdAt⟩

instance : IsTrans CommunityChatMessage Newer := ⟨fun _ _ _ h h' ↦ le_trans (α := ℤ) h' h⟩

def messagesOf (communityId : String) (db : SocialDb) : List CommunityChatMessage :=
  db.communityChatMessages.rows.filter (·.communityId == communityId)

/-- `Math.min(100, Math.max(1, limit))` -/
def taken (limit : ℤ) : ℕ := (min 100 (max 1 limit)).toNat

def getRecentMessages (communityId userId : String) (limit : ℤ) :
    SocialCall (List ChatMessageResponseDto) := do
  let _ ← CommunityAuthorizationService.assertActiveMember userId communityId
  let found ← Call.reads "communityChatMessage.findMany" fun _ (db : SocialDb) ↦
    (((messagesOf communityId db).insertionSort Newer).take (taken limit)).map fun message ↦
      (message, userSummary message.senderId db)
  let messages ← Call.returned (found.mapM included)
  let chronological := messages.reverse
  let memberships ← Call.reads "communityMember.findMany" fun _ (db : SocialDb) ↦
    db.communityMembers.rows.filter fun m ↦
      m.communityId == communityId && (chronological.map (·.message.senderId)).contains m.userId
  return chronological.map fun m ↦ toDto (roleIn memberships m.message.senderId) m

end CommunityChatService

inductive ChatOp
  | gateway (op : GatewayOp)
  | recentMessages (communityId userId : String) (limit : ℤ)

inductive ChatAnswer
  | reply (reply : Option SocketReply)
  | messages (messages : List ChatMessageResponseDto)

def ChatOp.runs : ChatOp → SiteCall ChatAnswer
  | gateway op => .reply <$> op.runs
  | recentMessages communityId userId limit => .messages <$>
    CommunityGateway.onDb (CommunityChatService.getRecentMessages communityId userId limit)

abbrev SiteHistory := History String Site

abbrev ChatTask := Task ChatOp String AuthEnv Site AuthError ChatAnswer

def chatCalls : Machine Site ChatTask AuthEnv := tasks ChatOp.runs

def Site.messages (site : Site) : List CommunityChatMessage := site.db.communityChatMessages.rows

section Log

/-- The broadcast sends the message to the room of its community. -/
structure Broadcast.Carries (b : Broadcast) (m : CommunityChatMessage) : Prop where
  room : b.room = CommunityGateway.roomName m.communityId
  id : b.message.id = m.id
  communityId : b.message.communityId = m.communityId
  senderId : b.message.senderId = m.senderId
  content : b.message.content = m.content
  createdAt : b.message.createdAt = m.createdAt
  sender : b.message.sender.id = m.senderId

/-- What a call may store: the content that was sent, for the user of the socket, whom the call has
found an active member of the community. -/
def ChatOp.Writes (op : ChatOp) (history : SiteHistory) (m : CommunityChatMessage) : Prop :=
  match op with
  | gateway (.sendMessage client communityId content) => m.communityId = communityId ∧
      m.content = content ∧ Saw history (UserIs client m.senderId) ∧
        Saw history fun site ↦ statusOf communityId m.senderId site.db = some .active
  | _ => False

/-- What a request does to the messages and the broadcasts, after the history of its call. -/
inductive Chats (op : ChatOp) (history : SiteHistory) (site site' : Site) : Prop
  | quiet : site'.messages = site.messages → site'.broadcasts = site.broadcasts →
      Chats op history site site'
  | stored (m : CommunityChatMessage) : op.Writes history m →
      history.added Site.messages = [] → site'.messages = site.messages ++ [m] →
      site'.broadcasts = site.broadcasts → Chats op history site site'
  | broadcast (m : CommunityChatMessage) (b : Broadcast) : history.added Site.messages = [m] →
      history.added Site.broadcasts = [] → b.Carries m → b.receivers = site.receivers b.room →
      site'.messages = site.messages → site'.broadcasts = site.broadcasts ++ [b] →
      Chats op history site site'

/-- A call stores nothing, or one message, which it then sends once. -/
inductive Relays (op : ChatOp) (history : SiteHistory) : Prop
  | silent : history.added Site.messages = [] → history.added Site.broadcasts = [] →
      Relays op history
  | pending (m : CommunityChatMessage) : op.Writes history m → history.added Site.messages = [m] →
      history.added Site.broadcasts = [] → Relays op history
  | relayed (m : CommunityChatMessage) (b : Broadcast) : op.Writes history m →
      history.added Site.messages = [m] → history.added Site.broadcasts = [b] → b.Carries m →
      Relays op history

variable {op : ChatOp} {history later : SiteHistory} {site site' : Site} {label : String}
  {m : CommunityChatMessage}

theorem ChatOp.Writes.grown (h : op.Writes history m) (hgrown : history <+: later) :
    op.Writes later m := by
  match op, h with
  | .gateway (.sendMessage client communityId content), h =>
    obtain ⟨hcommunity, hcontent, huser, hactive⟩ := h
    exact ⟨hcommunity, hcontent, huser.of_prefix hgrown, hactive.of_prefix hgrown⟩

theorem Chats.messages (h : Chats op history site site') : site.messages <+: site'.messages := by
  cases h with
  | quiet hmessages _ | broadcast _ _ _ _ _ _ hmessages _ => rw [hmessages]
  | stored m _ _ hmessages _ =>
    rw [hmessages]
    exact List.prefix_append _ _

theorem Chats.broadcasts (h : Chats op history site site') :
    site.broadcasts <+: site'.broadcasts := by
  cases h with
  | quiet _ hbroadcasts | stored _ _ _ _ hbroadcasts => rw [hbroadcasts]
  | broadcast m b _ _ _ _ _ hbroadcasts =>
    rw [hbroadcasts]
    exact List.prefix_append _ _

theorem Relays.concat (h : Relays op history) (hstep : Chats op history site site') :
    Relays op (history ++ [(label, site, site')]) := by
  have hgrown : history <+: history ++ [(label, site, site')] := List.prefix_append _ _
  cases hstep with
  | quiet hmessages hbroadcasts =>
    have hsame : History.added Site.messages (history ++ [(label, site, site')]) = _ :=
      History.added_same hmessages
    have hsame' : History.added Site.broadcasts (history ++ [(label, site, site')]) = _ :=
      History.added_same hbroadcasts
    cases h with
    | silent hnone hnone' => exact .silent (hsame.trans hnone) (hsame'.trans hnone')
    | pending m hm hone hnone =>
      exact .pending m (hm.grown hgrown) (hsame.trans hone) (hsame'.trans hnone)
    | relayed m b hm hone hone' hb =>
      exact .relayed m b (hm.grown hgrown) (hsame.trans hone) (hsame'.trans hone') hb
  | stored m hm hnone hmessages hbroadcasts =>
    have hadded : History.added Site.messages (history ++ [(label, site, site')]) = _ :=
      History.added_concat hmessages
    have hsame : History.added Site.broadcasts (history ++ [(label, site, site')]) = _ :=
      History.added_same hbroadcasts
    rw [hnone, List.nil_append] at hadded
    cases h with
    | silent _ hnone' => exact .pending m (hm.grown hgrown) hadded (hsame.trans hnone')
    | pending m' _ hone _ | relayed m' _ _ hone _ _ =>
      rw [hone] at hnone
      cases hnone
  | broadcast m b hone hnone hb _ hmessages hbroadcasts =>
    have hsame : History.added Site.messages (history ++ [(label, site, site')]) = _ :=
      History.added_same hmessages
    have hadded : History.added Site.broadcasts (history ++ [(label, site, site')]) = _ :=
      History.added_concat hbroadcasts
    rw [hnone, List.nil_append] at hadded
    cases h with
    | silent hnone' _ =>
      rw [hone] at hnone'
      cases hnone'
    | pending m' hm hone' _ =>
      cases hone.symm.trans hone'
      exact .relayed m b (hm.grown hgrown) (hsame.trans hone) hadded hb
    | relayed m' b' _ _ hone' _ =>
      rw [hnone] at hone'
      cases hone'

end Log

section Members

open Innovents.Communities.Social.CommunityMembersService

variable {db db' : SocialDb} {env : AuthEnv} {client : Client}
  {communityId userId operatorUserId membershipId : String}

/-- Memberships change with the counts of their communities and what is reported of them, and
nothing else does. -/
def MembersOnly (db db' : SocialDb) : Prop := ∃ communities communityMembers accounts,
  db' = { db with communities, communityMembers, accounts }

theorem membersOnly_refl (db : SocialDb) : MembersOnly db db := ⟨_, _, _, rfl⟩

theorem communityCreate_members {dto : CreateCommunityDto} {community : Community}
    (h : CommunitiesService.communityCreate userId dto client env db = .ok (db', community)) :
    MembersOnly db db' := by
  obtain ⟨_, -, h⟩ := andThen_eq_ok.mp h
  obtain ⟨communities, -, h⟩ := andThen_eq_ok.mp h
  obtain ⟨communityMembers, -, h⟩ := andThen_eq_ok.mp h
  obtain ⟨db₁, henqueued, h⟩ := andThen_eq_ok.mp h
  obtain ⟨db₂, haudited, h⟩ := andThen_eq_ok.mp h
  cases h
  obtain ⟨_, rfl⟩ := enqueued_eq_ok henqueued
  obtain ⟨accounts, rfl⟩ := audited_eq_ok haudited
  exact ⟨_, _, _, rfl⟩

theorem joined_members {userRoles : List String} {m : CommunityMember}
    (h : joined userId communityId userRoles client env db = .ok (db', m)) :
    MembersOnly db db' := by
  obtain ⟨community, -, h⟩ := andThen_eq_ok.mp h
  obtain ⟨_, -, h⟩ := andThen_eq_ok.mp h
  obtain ⟨⟨communityMembers, saved⟩, -, h⟩ := andThen_eq_ok.mp h
  obtain ⟨communities, -, h⟩ := andThen_eq_ok.mp h
  obtain ⟨db₁, hreported, h⟩ := andThen_eq_ok.mp h
  cases h
  obtain ⟨accounts, rfl⟩ := reported_eq_ok hreported
  exact ⟨_, _, _, rfl⟩

theorem memberLeft_members {u : Unit}
    (h : memberLeft userId communityId membershipId client env db = .ok (db', u)) :
    MembersOnly db db' := by
  obtain ⟨communityMembers, -, h⟩ := andThen_eq_ok.mp h
  obtain ⟨communities, -, h⟩ := andThen_eq_ok.mp h
  obtain ⟨db₁, hreported, h⟩ := andThen_eq_ok.mp h
  cases h
  obtain ⟨accounts, rfl⟩ := reported_eq_ok hreported
  exact ⟨_, _, _, rfl⟩

theorem roleUpdated_members {dto : UpdateMemberRoleDto} {updated : CommunityMember}
    (h : roleUpdated communityId userId operatorUserId membershipId dto client env db =
      .ok (db', updated)) : MembersOnly db db' := by
  obtain ⟨communityMembers, -, h⟩ := andThen_eq_ok.mp h
  obtain ⟨updated, -, h⟩ := andThen_eq_ok.mp h
  obtain ⟨db₁, hreported, h⟩ := andThen_eq_ok.mp h
  cases h
  obtain ⟨accounts, rfl⟩ := reported_eq_ok hreported
  exact ⟨_, _, _, rfl⟩

theorem memberBanned_members {found : CommunityMember} {u : Unit}
    (h : memberBanned communityId userId operatorUserId found client env db = .ok (db', u)) :
    MembersOnly db db' := by
  obtain ⟨communityMembers, -, h⟩ := andThen_eq_ok.mp h
  obtain ⟨communities, -, h⟩ := andThen_eq_ok.mp h
  obtain ⟨db₁, hreported, h⟩ := andThen_eq_ok.mp h
  cases h
  obtain ⟨accounts, rfl⟩ := reported_eq_ok hreported
  exact ⟨_, _, _, rfl⟩

theorem memberUnbanned_members {u : Unit}
    (h : memberUnbanned communityId userId operatorUserId membershipId client env db =
      .ok (db', u)) : MembersOnly db db' := by
  obtain ⟨communityMembers, -, h⟩ := andThen_eq_ok.mp h
  obtain ⟨db₁, hreported, h⟩ := andThen_eq_ok.mp h
  cases h
  obtain ⟨accounts, rfl⟩ := reported_eq_ok hreported
  exact ⟨_, _, _, rfl⟩

theorem runs_members (op : MembershipOp) : op.runs.Each fun _ ↦ MembersOnly := by
  have hread : ∀ db, MembersOnly db db := membersOnly_refl
  cases op with
  | create userId userRoles dto client =>
    refine Call.each_map (Call.each_bind (Call.each_bind (Call.each_reads hread) fun _ ↦
      Call.each_returned) fun creator ↦ ?_)
    refine Call.each_bind (Call.each_reads hread) fun event ↦ Call.each_bind Call.each_returned
      fun _ ↦ Call.each_bind Call.each_returned fun _ ↦ ?_
    exact Call.each_bind (Call.each_writes hread fun _ _ _ _ h ↦ communityCreate_members h)
      fun _ ↦ Call.each_returned
  | join userId communityId userRoles client =>
    refine Call.each_map (Call.each_bind (Call.each_bind (Call.each_reads hread) fun _ ↦
      Call.each_returned) fun user ↦ ?_)
    exact Call.each_bind (Call.each_writes hread fun _ _ _ _ h ↦ joined_members h) fun _ ↦
      Call.each_returned
  | leave userId communityId client =>
    refine Call.each_map (Call.each_bind (Call.each_reads hread) fun found ↦ ?_)
    refine Call.each_bind Call.each_returned fun existing ↦ Call.each_bind Call.each_returned
      fun _ ↦ ?_
    exact Call.each_bind (Call.each_writes hread fun _ _ _ _ h ↦ memberLeft_members h) fun _ ↦
      Call.each_returned
  | updateRole communityId targetUserId operatorUserId operatorRoles dto client =>
    refine Call.each_map (Call.each_bind
      (CommunityAuthorizationService.assertCanManageCommunity_each hread) fun _ ↦ ?_)
    refine Call.each_bind Call.each_returned fun _ ↦ Call.each_bind (Call.each_reads hread)
      fun found ↦ Call.each_bind Call.each_returned fun targetMember ↦ ?_
    exact Call.each_bind (Call.each_writes hread fun _ _ _ _ h ↦ roleUpdated_members h) fun _ ↦
      Call.each_returned
  | banMember communityId targetUserId operatorUserId operatorRoles client =>
    refine Call.each_map (Call.each_bind
      (CommunityAuthorizationService.assertCanModerateCommunity_each hread hread) fun _ ↦ ?_)
    refine Call.each_bind Call.each_returned fun _ ↦ Call.each_bind (Call.each_reads hread)
      fun found ↦ Call.each_bind Call.each_returned fun targetMember ↦ ?_
    refine Call.each_bind Call.each_returned fun _ ↦ ?_
    exact Call.each_bind (Call.each_writes hread fun _ _ _ _ h ↦ memberBanned_members h) fun _ ↦
      Call.each_returned
  | unbanMember communityId targetUserId operatorUserId operatorRoles client =>
    refine Call.each_map (Call.each_bind
      (CommunityAuthorizationService.assertCanModerateCommunity_each hread hread) fun _ ↦ ?_)
    refine Call.each_bind (Call.each_reads hread) fun found ↦ Call.each_bind Call.each_returned
      fun targetMember ↦ ?_
    exact Call.each_bind (Call.each_writes hread fun _ _ _ _ h ↦ memberUnbanned_members h) fun _ ↦
      Call.each_returned

end Members

section History

open CommunityChatService
open Innovents.Communities.Social.CommunityRepliesService (roleIn)

variable {communityId userId : String} {limit : ℤ} {db db' : SocialDb}

/-- How a message is shown: with its sender, and the role that the sender has in the community. -/
structure Renders (communityId : String) (db db' : SocialDb) (m : CommunityChatMessage)
    (dto : ChatMessageResponseDto) : Prop where
  role : dto.sender.role = (membershipOf communityId m.senderId db').map (·.role)
  id : dto.id = m.id
  communityId : dto.communityId = m.communityId
  senderId : dto.senderId = m.senderId
  content : dto.content = m.content
  createdAt : dto.createdAt = m.createdAt
  sender : userSummary m.senderId db = some ⟨dto.sender.id, dto.sender.email⟩

/-- The messages are the latest of the community, at most as many as are asked for and at most a
hundred, in the order of their creation. -/
def Recent (communityId : String) (limit : ℤ) (db db' : SocialDb)
    (messages : List ChatMessageResponseDto) : Prop :=
  ∃ older recent : List CommunityChatMessage, (older ++ recent).Perm (messagesOf communityId db) ∧
    (older ++ recent).Pairwise (fun a b ↦ a.createdAt ≤ b.createdAt) ∧
      recent.length = min (taken limit) (messagesOf communityId db).length ∧
        List.Forall₂ (Renders communityId db db') recent messages

theorem included_eq_ok {found : CommunityChatMessage × Option UserSummary} {m : IncludedMessage} :
    included found = .ok m ↔ found = (m.message, some m.sender) := by
  obtain ⟨message, sender⟩ := found
  cases sender with
  | none => simp [included, present, bind, Except.bind]
  | some sender =>
    simp only [included, present, bind, Except.bind, pure, Except.pure, Except.ok.injEq,
      Prod.mk.injEq, Option.some.injEq]
    constructor
    · rintro rfl
      exact ⟨rfl, rfl⟩
    · rintro ⟨rfl, rfl⟩
      rfl

theorem recent_answer {messages : List IncludedMessage}
    (h : ((((messagesOf communityId db).insertionSort Newer).take (taken limit)).map fun message ↦
      (message, userSummary message.senderId db)).mapM included = .ok messages) :
    Recent communityId limit db db' (messages.reverse.map fun m ↦ toDto (roleIn
      (db'.communityMembers.rows.filter fun m ↦ m.communityId == communityId &&
        (messages.reverse.map (·.message.senderId)).contains m.userId) m.message.senderId) m) := by
  have hfound := List.forall₂_map_left_iff.mp (mapM_forall₂ h)
  set sorted := (messagesOf communityId db).insertionSort Newer
  refine ⟨(sorted.drop (taken limit)).reverse, (sorted.take (taken limit)).reverse, ?_, ?_, ?_, ?_⟩
  · rw [← List.reverse_append, List.take_append_drop]
    exact (List.reverse_perm _).trans (List.perm_insertionSort _ _)
  · rw [← List.reverse_append, List.take_append_drop, List.pairwise_reverse]
    exact List.pairwise_insertionSort Newer _
  · rw [List.length_reverse, List.length_take, List.length_insertionSort]
  · rw [List.forall₂_map_right_iff]
    have hreversed := (List.forall₂_reverse_iff.mpr hfound).flip
    refine (((List.forall₂_and_left _ _).mpr ⟨fun m hm ↦ hm, hreversed⟩).flip).imp ?_
    rintro message m ⟨hm, hincluded⟩
    obtain ⟨rfl, hsender⟩ := Prod.mk.inj (included_eq_ok.mp hincluded)
    have hsenders : m.message.senderId ∈ messages.reverse.map (·.message.senderId) :=
      List.mem_map_of_mem hm
    exact ⟨CommunityPostsService.roleIn_eq hsenders, rfl, rfl, rfl, rfl, rfl, hsender⟩

end History

section Calls

open Innovents.Communities.Social.CommunityGateway CommunityChatService

variable {op : ChatOp} {history later : SiteHistory} {site : Site} {label : String}
  {client : ℕ} {communityId userId content : String} {limit : ℤ}

/-- What the requests of a call do. -/
def ChatOp.Does (op : ChatOp) (history : SiteHistory) (_ : String) (_ : AuthEnv)
    (site site' : Site) : Prop := Chats op history site site'

/-- What a client is told of the message that it has sent. -/
def Told (history : SiteHistory) (reply : SocketReply) : Prop :=
  (reply.success = true ∧ ∃ m b, history.added Site.messages = [m] ∧
    history.added Site.broadcasts = [b] ∧ reply.data = some b.message) ∨
  reply.success = false ∧ history.added Site.messages = [] ∧ history.added Site.broadcasts = []

/-- What the answer of a call tells. -/
def ChatOp.Answered (op : ChatOp) (history : SiteHistory) (answer : ChatAnswer) : Prop :=
  match op with
  | gateway (.sendMessage _ _ _) => ∃ reply, answer = .reply (some reply) ∧ Told history reply
  | gateway _ => True
  | recentMessages communityId userId limit => ∃ messages, answer = .messages messages ∧
      (Saw history fun site ↦ statusOf communityId userId site.db = some .active) ∧
        ∃ found ∈ history, ∃ roles ∈ history,
          Recent communityId limit found.2.2.db roles.2.2.db messages

/-- Nothing has been stored or sent since. -/
structure Idle (history later : SiteHistory) : Prop where
  grown : history <+: later
  messages : later.added Site.messages = history.added Site.messages
  broadcasts : later.added Site.broadcasts = history.added Site.broadcasts

theorem Idle.refl : Idle history history := ⟨List.prefix_rfl, rfl, rfl⟩

theorem Idle.read (h : Idle history later) : Idle history (later ++ [(label, site, site)]) :=
  ⟨h.grown.trans (List.prefix_append _ _), (History.added_same rfl).trans h.messages,
    (History.added_same rfl).trans h.broadcasts⟩

theorem chats_read : Chats op history site site := .quiet rfl rfl

theorem withDb_db (site : Site) : Site.withDb site.db site = site := rfl

/-- A check of the membership that has succeeded has seen it. -/
def Checked (communityId userId : String) (history later : SiteHistory)
    (r : Except AuthError (Community × CommunityMember)) : Prop :=
  Idle history later ∧ ∀ found, r = .ok found →
    Saw later fun site ↦ statusOf communityId userId site.db = some .active

theorem checked_error (h : Idle history later) (x : AuthError) :
    Checked communityId userId history later (.error x) := ⟨h, fun _ hx ↦ by cases hx⟩

theorem assertActiveMember_finishes :
    (onDb (CommunityAuthorizationService.assertActiveMember userId communityId)).Finishes op.Does
      (Checked communityId userId history) history := by
  simp only [onDb, CommunityAuthorizationService.assertActiveMember,
    CommunityAuthorizationService.findCommunity, Call.bind_eq, Call.pure_eq, Call.focus_bind,
    Call.focus_reads withDb_db, Call.focus_returned]
  refine Call.finishes_bind (Call.finishes_bind (Call.finishes_reads (fun _ _ ↦ chats_read)
    (fun _ x ↦ checked_error Idle.refl.read x) fun _ site ↦ ?_))
  refine Call.finishes_returned ?_
  cases present (existingCommunity communityId site.db)
      (refusal HttpStatus.notFound "Community not found") with
  | error x => exact checked_error Idle.refl.read x
  | ok community =>
    refine Call.finishes_bind (Call.finishes_reads (fun _ _ ↦ chats_read)
      (fun _ x ↦ checked_error Idle.refl.read.read x) fun _ site₁ ↦ ?_)
    refine Call.finishes_checked (checked_error Idle.refl.read.read) fun member hmember ↦ ?_
    refine ⟨Idle.refl.read.read, fun _ _ ↦ saw_concat ?_⟩
    obtain ⟨hfound, hactive⟩ := filter_found hmember
    exact (statusOf_eq hfound).mpr hactive

/-- What `saveMessage` has stored, if anything, when it ends. -/
def Saved (communityId : String) (history : SiteHistory)
    (r : Except AuthError ChatMessageResponseDto) : Prop :=
  history.added Site.broadcasts = [] ∧ match r with
    | .ok saved => ∃ m, history.added Site.messages = [m] ∧
      ∀ receivers, Broadcast.Carries ⟨roomName communityId, saved, receivers⟩ m
    | .error _ => history.added Site.messages = []

theorem Idle.saved_error (h : Idle history later) (hmessages : history.added Site.messages = [])
    (hbroadcasts : history.added Site.broadcasts = []) (x : AuthError) :
    Saved communityId later (.error x) :=
  ⟨h.broadcasts.trans hbroadcasts, h.messages.trans hmessages⟩

theorem saveMessage_finishes (huser : Saw history (UserIs client userId))
    (hmessages : history.added Site.messages = [])
    (hbroadcasts : history.added Site.broadcasts = []) :
    (onDb (saveMessage communityId userId ⟨content⟩)).Finishes
      (ChatOp.gateway (.sendMessage client communityId content)).Does (Saved communityId)
        history := by
  rw [onDb, saveMessage, Call.bind_eq, Call.focus_bind]
  refine Call.finishes_bind (assertActiveMember_finishes.mono fun later r hchecked ↦ ?_)
  obtain ⟨hidle, hmember⟩ := hchecked
  cases r with
  | error x => exact hidle.saved_error hmessages hbroadcasts x
  | ok found =>
    have hactive := hmember found rfl
    simp only [Call.bind_eq, Call.pure_eq, Call.focus_bind, Call.focus_writes withDb_db,
      Call.focus_returned]
    refine Call.finishes_bind (Call.finishes_writes (fun _ _ ↦ chats_read)
      (fun _ x ↦ hidle.read.saved_error hmessages hbroadcasts x) fun env site site' a h ↦ ?_)
    cases hcreate : createMessage communityId userId content env site.db with
    | error x =>
      simp [hcreate, Except.map] at h
    | ok q =>
      simp only [hcreate, Except.map, Except.ok.injEq, Prod.mk.injEq] at h
      obtain ⟨rfl, rfl⟩ := h
      obtain ⟨_, -, hcreate⟩ := andThen_eq_ok.mp hcreate
      obtain ⟨sender, hsender, hcreate⟩ := andThen_eq_ok.mp hcreate
      obtain ⟨t, ht, hcreate⟩ := andThen_eq_ok.mp hcreate
      cases hcreate
      have hrows := Table.create_eq_ok.mp (ofRefusal_eq_ok.mp ht)
      obtain ⟨user, huserRow, hsummary⟩ := Option.map_eq_some_iff.mp (present_eq_ok.mp hsender)
      have hstored := hidle.messages.trans hmessages
      have hsent := hidle.broadcasts.trans hbroadcasts
      have huser' := huser.of_prefix hidle.grown
      refine ⟨.stored _ ⟨rfl, rfl, huser', hactive⟩ hstored hrows rfl, ?_⟩
      let message : CommunityChatMessage :=
        ⟨env.idFor site.db.communityChatMessages, communityId, userId, content, env.now⟩
      refine ⟨?_, message, ?_, fun receivers ↦ ?_⟩
      · refine (History.added_same ?_).trans hsent
        rfl
      · refine (History.added_concat ?_).trans (by rw [hstored, List.nil_append])
        exact hrows
      · have hid : sender.id = userId := by
          rw [← hsummary]
          exact (Table.get?_eq_some.mp huserRow).2
        exact ⟨rfl, rfl, rfl, rfl, rfl, rfl, hid⟩

theorem emitMessage_chats {saved : ChatMessageResponseDto}
    (hsaved : Saved communityId history (.ok saved)) :
    (emitMessage communityId saved).Finishes op.Does (fun history r ↦ r = .ok () ∧
      Told history ⟨true, none, some saved, none⟩) history := by
  obtain ⟨hnone, m, hone, hcarries⟩ := hsaved
  intro env site
  let b : Broadcast := ⟨roomName communityId, saved, site.receivers (roomName communityId)⟩
  refine ⟨.broadcast m b hone hnone (hcarries _) rfl rfl rfl, rfl, .inl ⟨rfl, m, b, ?_, ?_, rfl⟩⟩
  · refine (History.added_same ?_).trans hone
    rfl
  · refine (History.added_concat ?_).trans (by rw [hnone, List.nil_append])
    rfl

theorem sendMessage_chats : (handleSendMessage client communityId content).Traces
    (ChatOp.gateway (.sendMessage client communityId content)).Does Told [] := by
  refine Call.traces_bind (Call.traces_ask (fun _ _ ↦ chats_read) fun env site found hfound ↦ ?_)
  cases hfound
  cases huser : (site.sockets[client]?.bind (·.userId)).filter (· ≠ "") with
  | none =>
    refine .inr ⟨rfl, ?_, ?_⟩
    all_goals exact History.added_same rfl
  | some userId =>
    obtain ⟨hfound, -⟩ := Option.filter_eq_some_iff.mp huser
    have huserIs : UserIs client userId site := Option.bind_eq_some_iff.mp hfound
    have hsaw : Saw ([] ++ [("client.data", site, site)]) (UserIs client userId) :=
      saw_concat huserIs
    refine Call.traces_bind (Call.finishes_bind (Call.Traces.mono
      (saveMessage_finishes hsaw (History.added_same rfl) (History.added_same rfl))
      fun history r hsaved ↦ ?_))
    cases r with
    | error x => exact .inr ⟨rfl, hsaved.2, hsaved.1⟩
    | ok saved =>
      refine Call.finishes_bind
        (Call.Traces.mono (emitMessage_chats hsaved) fun later r hemitted ↦ ?_)
      obtain ⟨rfl, htold⟩ := hemitted
      exact htold

/-- Neither the messages nor the broadcasts change. -/
def Quiet (site site' : Site) : Prop :=
  site'.messages = site.messages ∧ site'.broadcasts = site.broadcasts

theorem quiet_refl (site : Site) : Quiet site site := ⟨rfl, rfl⟩

theorem onSockets_quiet {f : AuthEnv → Site → Site} (hf : ∀ env site, Quiet site (f env site)) :
    (onSockets label f).Each fun _ ↦ Quiet := by
  refine Call.each_perform quiet_refl fun env site site' u h ↦ ?_
  cases h
  exact hf env site

theorem onDb_quiet {α : Type} {call : SocialCall α} (h : call.Each fun _ ↦ MembersOnly) :
    (onDb call).Each fun _ ↦ Quiet := by
  refine (Call.each_focus h).mono fun _ site site' ⟨db, hmembers, hsite⟩ ↦ ?_
  obtain ⟨communities, communityMembers, accounts, rfl⟩ := hmembers
  rw [hsite]
  exact ⟨rfl, rfl⟩

theorem joinCommunity_quiet : (handleJoinCommunity client communityId).Each fun _ ↦ Quiet := by
  refine Call.each_bind (Call.each_ask quiet_refl) fun found ↦ ?_
  cases found with
  | none => exact Call.each_returned
  | some userId =>
    refine Call.each_bind (Call.each_attempt (Call.each_bind (onDb_quiet
      (CommunityAuthorizationService.assertActiveMember_each membersOnly_refl membersOnly_refl))
        fun _ ↦ ?_)) fun result ↦ ?_
    · exact Call.each_bind (onSockets_quiet fun _ _ ↦ ⟨rfl, rfl⟩) fun _ ↦ Call.each_returned
    · cases result <;> exact Call.each_returned

theorem quiet_chats {α : Type} {call : SiteCall α} (h : call.Each fun _ ↦ Quiet) :
    call.Traces op.Does (fun _ _ ↦ True) history :=
  Call.traces_each h fun _ _ _ _ _ ⟨hmessages, hbroadcasts⟩ ↦ .quiet hmessages hbroadcasts

theorem recentMessages_chats :
    (onDb (getRecentMessages communityId userId limit)).Traces op.Does (fun history messages ↦
      (Saw history fun site ↦ statusOf communityId userId site.db = some .active) ∧
        ∃ found ∈ history, ∃ roles ∈ history,
          Recent communityId limit found.2.2.db roles.2.2.db messages) [] := by
  rw [onDb, getRecentMessages, Call.bind_eq, Call.focus_bind]
  refine Call.traces_bind (assertActiveMember_finishes.traces.mono fun checked found hchecked ↦ ?_)
  have hactive := hchecked.2 found rfl
  simp only [Call.bind_eq, Call.pure_eq, Call.focus_bind, Call.focus_reads withDb_db,
    Call.focus_returned]
  refine Call.traces_bind (Call.traces_reads (fun _ _ ↦ chats_read) fun _ site ↦ ?_)
  refine Call.traces_bind (Call.traces_returned fun messages hmessages ↦ ?_)
  refine Call.traces_bind (Call.traces_reads (fun _ _ ↦ chats_read) fun _ site' ↦ ?_)
  refine ⟨?_, ("communityChatMessage.findMany", site, site), ?_,
    ("communityMember.findMany", site', site'), ?_, recent_answer hmessages⟩
  · rw [List.append_assoc]
    exact hactive.append
  · exact List.mem_append_left _ (List.mem_append_right _ List.mem_cons_self)
  · exact List.mem_append_right _ List.mem_cons_self

theorem runs_chats (op : ChatOp) : op.runs.Traces op.Does op.Answered [] := by
  match op with
  | .gateway (.connection rawToken) =>
    refine Call.traces_map (Call.traces_map (quiet_chats ?_))
    exact Call.each_bind (onSockets_quiet fun _ _ ↦ ⟨rfl, rfl⟩) fun _ ↦ Call.each_returned
  | .gateway (.disconnect client) =>
    refine Call.traces_map (Call.traces_map (quiet_chats ?_))
    exact Call.each_bind (onSockets_quiet fun _ _ ↦ ⟨rfl, rfl⟩) fun _ ↦ Call.each_returned
  | .gateway (.joinCommunity client communityId) =>
    exact Call.traces_map (Call.traces_map (quiet_chats joinCommunity_quiet))
  | .gateway (.leaveCommunity client communityId) =>
    refine Call.traces_map (Call.traces_map (quiet_chats ?_))
    exact Call.each_bind (onSockets_quiet fun _ _ ↦ ⟨rfl, rfl⟩) fun _ ↦ Call.each_returned
  | .gateway (.sendMessage client communityId content) =>
    refine Call.traces_map (Call.traces_map (sendMessage_chats.mono fun history reply htold ↦ ?_))
    exact ⟨reply, rfl, htold⟩
  | .gateway (.membership membershipOp) =>
    exact Call.traces_map (Call.traces_map (quiet_chats (onDb_quiet (runs_members membershipOp))))
  | .recentMessages communityId userId limit =>
    refine Call.traces_map (recentMessages_chats.mono fun history messages h ↦ ?_)
    exact ⟨messages, rfl, h⟩

end Calls

section Runs

variable {old : List CommunityChatMessage}

/-- The chat only grows, by what its calls have stored: each of them stores one message at most, for
an active member, sends a message that it has stored once, to the room of its community, and is told
that it has succeeded only then; and a list of recent messages shows the latest of a community. -/
theorem chat_log {p : Pool Site ChatTask} (h : Reach chatCalls.Step (fun _ _ ↦ True)
    (fun p ↦ p.threads = [] ∧ p.shared.messages = old ∧ p.shared.broadcasts = []) p) :
    (∃ new, p.shared.messages = old ++ new ∧
      new.Perm (p.threads.flatMap fun t ↦ t.history.added Site.messages)) ∧
    p.shared.broadcasts.Perm (p.threads.flatMap fun t ↦ t.history.added Site.broadcasts) ∧
    ∀ t ∈ p.threads, Relays t.op t.history ∧
      ∀ answer, t.call = .returned (.ok answer) → t.op.Answered t.history answer := by
  have hmessages := added_reach runs_chats (fun _ _ _ _ _ _ hdoes ↦ hdoes.messages)
    (fun _ hp ↦ ⟨hp.1, hp.2.1⟩) h
  obtain ⟨sent, hsent, hperm⟩ := added_reach runs_chats
    (fun _ _ _ _ _ _ hdoes ↦ hdoes.broadcasts) (fun _ hp ↦ ⟨hp.1, hp.2.2⟩) h
  rw [List.nil_append] at hsent
  have hrecorded := recorded_reach (R := fun _ _ ↦ True) (fun _ ↦ trivial)
    (fun _ _ _ _ _ ↦ trivial) runs_chats (fun _ _ _ _ _ _ _ ↦ trivial) (fun _ hp ↦ hp.1) h
  have htracing := tracing_reach runs_chats (fun _ hp ↦ hp.1) h
  refine ⟨hmessages, hsent ▸ hperm, fun t ht ↦ ⟨?_, fun answer hanswer ↦ ?_⟩⟩
  · refine History.invariant (I := Relays t.op) (.silent rfl rfl)
      fun earlier label site site' later hhistory hrelays ↦ ?_
    obtain ⟨⟨env, hdoes⟩, -⟩ := hrecorded.made t ht earlier label site site' later hhistory
    exact hrelays.concat hdoes
  · have htraces := htracing t ht
    rw [hanswer] at htraces
    exact htraces

end Runs

section Sample

/-- The owner sends two messages while the second member, who is in the room, asks for the latest
one, and somebody without a token sends one as well. -/
def chatOps : List ChatOp :=
  [.gateway (.connection (some (tokenOf "user-1"))),
    .gateway (.connection (some (tokenOf "user-2"))), .gateway (.connection none), .gateway (.joinCommunity 1 "community-1"),
    .gateway (.sendMessage 0 "community-1" "See you at the coffee booth"),
    .gateway (.sendMessage 0 "community-1" "Or at the entrance"),
    .gateway (.sendMessage 2 "community-1" "Win a prize"),
    .recentMessages "community-1" "user-2" 1]

def chatPool : Pool Site ChatTask :=
  ⟨⟨socialDb, [], []⟩, chatOps.map fun op ↦ ⟨op, [], op.runs⟩⟩

def chatMoves : List (ℕ × AuthEnv) :=
  requests 0 1 "a" ++ requests 1 1 "b" ++ requests 2 1 "c" ++ requests 3 4 "d" ++
    requests 4 4 "e" ++ requests 5 5 "f" ++ requests 4 1 "g" ++ requests 6 1 "h" ++ requests 7 4 "i"

/-- The second message is sent before the first one. -/
theorem two_relayed : ∃ p : Pool Site ChatTask,
    (p.shared.messages.map (·.content) == ["See you at the coffee booth", "Or at the entrance"] &&
      p.shared.broadcasts.map (fun b ↦ (b.message.content, b.receivers)) ==
        [("Or at the entrance", [1]), ("See you at the coffee booth", [1])]) = true ∧
    (∃ new, p.shared.messages = [] ++ new ∧
      new.Perm (p.threads.flatMap fun t ↦ t.history.added Site.messages)) ∧
    p.shared.broadcasts.Perm (p.threads.flatMap fun t ↦ t.history.added Site.broadcasts) ∧
    ∀ t ∈ p.threads, Relays t.op t.history ∧
      ∀ answer, t.call = .returned (.ok answer) → t.op.Answered t.history answer := by
  have hrun : (chatCalls.play (fun _ _ _ ↦ true) chatMoves chatPool).any (fun p ↦
      p.shared.messages.map (·.content) == ["See you at the coffee booth", "Or at the entrance"] &&
        p.shared.broadcasts.map (fun b ↦ (b.message.content, b.receivers)) ==
          [("Or at the entrance", [1]), ("See you at the coffee booth", [1])]) = true := by
    decide +kernel
  obtain ⟨p, hp, htest⟩ := (Option.any_eq_true ..).mp hrun
  have hreach : Reach chatCalls.Step (Heeding fun _ _ _ _ ↦ True)
      (fun p ↦ p.threads = [] ∧ p.shared.messages = [] ∧ p.shared.broadcasts = []) p :=
    reach_tasks (fun _ _ _ _ _ _ _ _ ↦ trivial) ⟨rfl, rfl, rfl⟩ hp
  exact ⟨p, htest, chat_log (hreach.mono fun _ _ _ ↦ trivial)⟩

end Sample

end Innovents.Communities.Social
