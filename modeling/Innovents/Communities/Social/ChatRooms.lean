import Innovents.Communities.Social.CommunityGateway
import Innovents.Communities.Social.StatusMoves

namespace Innovents.Communities.Social

open Innovents.Lib Innovents.Auth Innovents.Platform
open Innovents.Payments (Time CommunityMemberRole CommunityMemberStatus)

section Rooms

/-- The socket gets what is sent to the room of the community. -/
def InRoom (client : ℕ) (communityId : String) (site : Site) : Prop :=
  ∃ socket, site.sockets[client]? = some socket ∧
    socket.isIn (CommunityGateway.roomName communityId) = true

def UserIs (client : ℕ) (userId : String) (site : Site) : Prop :=
  ∃ socket, site.sockets[client]? = some socket ∧ socket.userId = some userId

/-- The user of the socket is an active member of the community. -/
def IsMember (client : ℕ) (communityId : String) (site : Site) : Prop :=
  ∃ userId, UserIs client userId site ∧ statusOf communityId userId site.db = some .active

/-- The request ends the active membership of the user of the socket. -/
def GatewayOp.Ends (op : GatewayOp) (label : String) (client : ℕ) (communityId : String)
    (site : Site) : Prop :=
  ∃ membershipOp userId status, op = .membership membershipOp ∧ label = "$transaction" ∧
    membershipOp.target = some ((communityId, userId), status) ∧ status ≠ .active ∧
    UserIs client userId site ∧ statusOf communityId userId site.db = some .active

/-- What is sent is sent to the room of its community. -/
def Emits (site site' : Site) : Prop :=
  site'.broadcasts = site.broadcasts ∨ ∃ message : ChatMessageResponseDto,
    site'.broadcasts = site.broadcasts ++
      [⟨CommunityGateway.roomName message.communityId, message,
        site.receivers (CommunityGateway.roomName message.communityId)⟩]

structure GatewayMove (op : GatewayOp) (label : String) (site site' : Site) : Prop where
  emits : Emits site site'
  rooms : ∀ client communityId, InRoom client communityId site' →
    InRoom client communityId site ∨ IsMember client communityId site'
  members : ∀ client communityId, IsMember client communityId site →
    IsMember client communityId site' ∨ op.Ends label client communityId site

/-- The sockets keep their users, and the memberships stay. -/
structure SiteStays (site site' : Site) : Prop where
  db : MembersStay site.db site'.db
  users : ∀ client userId, UserIs client userId site → UserIs client userId site'

theorem SiteStays.refl (site : Site) : SiteStays site site :=
  ⟨MembersStay.refl _, fun _ _ h ↦ h⟩

theorem SiteStays.trans (a b c : Site) (h : SiteStays a b) (h' : SiteStays b c) : SiteStays a c :=
  ⟨MembersStay.trans _ _ _ h.db h'.db, fun _ _ hu ↦ h'.users _ _ (h.users _ _ hu)⟩

variable {op : GatewayOp} {label : String} {site : Site} {client : ℕ} {communityId : String}

theorem gatewayMove_refl (op : GatewayOp) (label : String) (site : Site) :
    GatewayMove op label site site :=
  ⟨.inl rfl, fun _ _ h ↦ .inl h, fun _ _ h ↦ .inl h⟩

/-- A statement on the database that leaves everybody the status. -/
theorem gatewayMove_db {db : SocialDb}
    (h : ∀ communityId userId, statusOf communityId userId db = statusOf communityId userId site.db) :
    GatewayMove op label site (site.withDb db) := by
  refine ⟨.inl rfl, fun _ _ h ↦ .inl h, fun i c ⟨u, hu, hactive⟩ ↦ .inl ⟨u, hu, ?_⟩⟩
  exact (h c u).trans hactive

/-- A transaction on the memberships. -/
theorem gatewayMove_membership {membershipOp : MembershipOp} {db : SocialDb}
    (h : membershipOp.Moves label site.db db) :
    GatewayMove (.membership membershipOp) label site (site.withDb db) := by
  refine ⟨.inl rfl, fun _ _ h ↦ .inl h, fun i c ⟨u, hu, hactive⟩ ↦ ?_⟩
  cases h c u with
  | stayed hsame => exact .inl ⟨u, hu, hsame.trans hactive⟩
  | founded hnone =>
    rw [hactive] at hnone
    cases hnone
  | moved status hlabel htarget hstatus =>
    by_cases hs : status = .active
    · subst hs
      exact .inl ⟨u, hu, hstatus⟩
    · exact .inr ⟨membershipOp, u, status, rfl, hlabel, htarget, hs, hu, hactive⟩

theorem userIs_update {f : AuthenticatedSocket → AuthenticatedSocket} {i : ℕ} {userId : String}
    (hf : ∀ socket, (f socket).userId = socket.userId) (h : UserIs i userId site) :
    UserIs i userId (site.updateSocket client f) := by
  obtain ⟨socket, hsocket, huser⟩ := h
  rw [UserIs, Site.updateSocket]
  simp only [List.getElem?_modify, hsocket]
  refine ⟨_, rfl, ?_⟩
  split_ifs
  · rw [hf, huser]
  · exact huser

/-- A statement on one socket that lets nobody into a room but a member. -/
theorem gatewayMove_update {f : AuthenticatedSocket → AuthenticatedSocket}
    (hf : ∀ socket, (f socket).userId = socket.userId)
    (hrooms : ∀ socket communityId, site.sockets[client]? = some socket →
      (f socket).isIn (CommunityGateway.roomName communityId) = true →
        socket.isIn (CommunityGateway.roomName communityId) = true ∨
          IsMember client communityId site) :
    GatewayMove op label site (site.updateSocket client f) := by
  refine ⟨.inl rfl, fun i c ⟨socket', hsocket', hin⟩ ↦ ?_, fun i c ⟨u, hu, hactive⟩ ↦
    .inl ⟨u, userIs_update hf hu, hactive⟩⟩
  simp only [Site.updateSocket, List.getElem?_modify] at hsocket'
  obtain ⟨socket, hsocket, rfl⟩ := Option.map_eq_some_iff.mp hsocket'
  split_ifs at hin with hi
  · subst hi
    refine (hrooms socket c hsocket hin).imp (fun h ↦ ⟨socket, hsocket, h⟩) ?_
    exact fun ⟨u, hu, hactive⟩ ↦ ⟨u, userIs_update hf hu, hactive⟩
  · exact .inl ⟨socket, hsocket, hin⟩

theorem roomName_injective {a b : String}
    (h : CommunityGateway.roomName a = CommunityGateway.roomName b) : a = b :=
  (String.append_right_inj _).mp h

end Rooms

section Requests

open Innovents.Communities.Social.CommunityGateway

variable {op : GatewayOp} {client : ℕ} {communityId userId : String}

/-- What the check of a `join_community` has found still holds when the socket enters the room. -/
def GatewayOp.Holds (op : GatewayOp) (history : History String Site) (label : String)
    (site : Site) : Prop :=
  ∀ client communityId, op = .joinCommunity client communityId → label = "socket.join" →
    ∀ site₀ ∈ history.last, IsMember client communityId site₀ → IsMember client communityId site

theorem assertActiveMember_found {history : History String SocialDb} :
    (CommunityAuthorizationService.assertActiveMember userId communityId).Heeds (fun _ ↦ True)
      (fun _ _ _ ↦ True) (fun _ db db' ↦ db' = db)
      (fun history _ ↦ ∃ db ∈ history.last, statusOf communityId userId db = some .active)
      history := by
  refine Call.heeds_bind (Call.heeds_bind (Call.heeds_reads (fun _ ↦ rfl) fun _ _ _ _ ↦ ?_))
  refine Call.heeds_returned fun community _ ↦ Call.heeds_bind ?_
  refine Call.heeds_reads (fun _ ↦ rfl) fun _ db₀ _ _ ↦ Call.heeds_bind ?_
  refine Call.heeds_returned fun member hmember ↦ ⟨db₀, History.last_concat, ?_⟩
  obtain ⟨hfound, hactive⟩ := filter_found hmember
  rw [statusOf, hfound, Option.map_some, hactive]

theorem saveMessage_community {dto : SendChatMessageDto} {history : History String SocialDb} :
    (CommunityChatService.saveMessage communityId userId dto).Heeds (fun _ ↦ True)
      (fun _ _ _ ↦ True) (fun _ db db' ↦ db'.communityMembers = db.communityMembers)
      (fun _ saved ↦ saved.communityId = communityId) history := by
  have hcheck : (CommunityAuthorizationService.assertActiveMember userId communityId).Each
      fun _ db db' ↦ db'.communityMembers = db.communityMembers :=
    CommunityAuthorizationService.assertActiveMember_each (fun _ ↦ rfl) fun _ ↦ rfl
  refine Call.heeds_bind ((Call.heeds_each hcheck (fun _ _ _ _ _ ↦ trivial)
    fun _ _ _ _ h ↦ h).mono fun _ _ _ ↦ ?_)
  refine Call.heeds_bind (Call.heeds_writes (fun _ ↦ rfl) fun env db db' message _ _ h ↦ ?_)
  obtain ⟨_, -, h⟩ := andThen_eq_ok.mp h
  obtain ⟨sender, -, h⟩ := andThen_eq_ok.mp h
  obtain ⟨communityChatMessages, -, h⟩ := andThen_eq_ok.mp h
  cases h
  exact ⟨trivial, rfl, rfl⟩

theorem onDb_heeds {α : Type} {call : SocialCall α} {post : History String SocialDb → α → Prop}
    {history : History String Site}
    (h : call.Heeds (fun _ ↦ True) (fun _ _ _ ↦ True)
      (fun _ db db' ↦ db'.communityMembers = db.communityMembers) post (history.seen Site.db)) :
    (onDb call).Heeds (fun _ ↦ True) (Among SiteStays op.Holds) (GatewayMove op)
      (fun history a ↦ post (history.seen Site.db) a) history := by
  refine (Call.heeds_focus (fun _ _ _ _ ↦ rfl) h).weaken (fun _ _ _ _ ↦ trivial)
    fun l site site' ⟨hsame, hput⟩ ↦ ?_
  rw [hput]
  refine gatewayMove_db fun c u ↦ ?_
  rw [statusOf, statusOf, membershipOf, membershipOf, hsame]

theorem onSockets_heeds {label : String} {f : AuthEnv → Site → Site} {history : History String Site}
    (h : ∀ env site, Among SiteStays op.Holds history label site →
      GatewayMove op label site (f env site)) :
    (onSockets label f).Heeds (fun _ ↦ True) (Among SiteStays op.Holds) (GatewayMove op)
      (fun _ _ ↦ True) history :=
  Call.heeds_perform (gatewayMove_refl op label) fun env site site' u _ hok hsite ↦ by
    cases hsite
    exact ⟨trivial, h env site hok, trivial⟩

theorem answered_heeds {call : SiteCall SocketReply} {history : History String Site}
    (h : call.Heeds (fun _ ↦ True) (Among SiteStays op.Holds) (GatewayMove op) (fun _ _ ↦ True)
      history) :
    (answered call).Heeds (fun _ ↦ True) (Among SiteStays op.Holds) (GatewayMove op)
      (fun _ _ ↦ True) history := by
  refine Call.heeds_bind ((Call.heeds_attempt h).mono fun _ result _ ↦ ?_)
  cases result <;> trivial

/-- The socket has had its user since the handler has read it. -/
theorem userIdOf_heeds :
    (userIdOf client).Heeds (fun _ ↦ True) (Among SiteStays op.Holds) (GatewayMove op)
      (fun history found ↦ ∀ userId ∈ found,
        History.Sure SiteStays (UserIs client userId) history) [] := by
  refine Call.heeds_ask (gatewayMove_refl op _) fun _ site found _ _ hfound userId huser ↦ ?_
  cases hfound
  obtain ⟨hfound, -⟩ := Option.filter_eq_some_iff.mp huser
  obtain ⟨socket, hsocket, huser⟩ := Option.bind_eq_some_iff.mp hfound
  exact History.sure_concat (fun _ _ h hstay ↦ hstay.users _ _ h) ⟨socket, hsocket, huser⟩

theorem onDb_reads {α : Type} {call : SocialCall α} (h : call.Each fun _ db db' ↦ db' = db) :
    (onDb call).Each fun _ site site' ↦ True ∧ site' = site := by
  refine (Call.each_focus h).mono fun _ site site' ⟨db, hdb, hsite⟩ ↦ ⟨trivial, ?_⟩
  rw [hsite, hdb]
  rfl

/-- The check of a `join_community` finds the user of the socket a member. -/
theorem membership_heeds {history : History String Site}
    (hsure : History.Sure SiteStays (UserIs client userId) history) :
    (onDb (CommunityAuthorizationService.assertActiveMember userId communityId)).Heeds
      (fun _ ↦ True) (Among SiteStays op.Holds) (GatewayMove op)
      (fun history _ ↦ ∃ site ∈ history.last, IsMember client communityId site) history := by
  have hreads : (onDb (CommunityAuthorizationService.assertActiveMember userId communityId)).Each
      fun _ site site' ↦ True ∧ site' = site :=
    onDb_reads (CommunityAuthorizationService.assertActiveMember_each (fun _ ↦ rfl) fun _ ↦ rfl)
  have hfound : (onDb (CommunityAuthorizationService.assertActiveMember userId communityId)).Heeds
      (fun _ ↦ True) (Among SiteStays op.Holds) (GatewayMove op) (fun history _ ↦
        ∃ db ∈ (history.seen Site.db).last, statusOf communityId userId db = some .active) history :=
    onDb_heeds (assertActiveMember_found.weaken (fun _ _ _ _ ↦ trivial) fun _ _ _ h ↦ by rw [h])
  have hreading : (onDb (CommunityAuthorizationService.assertActiveMember userId communityId)).Heeds
      (fun _ ↦ True) (Among SiteStays op.Holds) (GatewayMove op) (fun history' _ ↦
        (∃ new, history' = history ++ new ∧ ∀ event ∈ new, True) ∧
          History.Sure SiteStays (UserIs client userId) history') history :=
    Call.heeds_reading hreads (fun l site _ ↦ gatewayMove_refl op l site)
      (fun _ _ h hstay ↦ hstay.users _ _ h) hsure
  refine (hfound.and hreading).mono ?_
  rintro history _ ⟨⟨db, hdb, hactive⟩, -, hsure⟩
  rw [History.seen_last] at hdb
  obtain ⟨site, hsite, rfl⟩ := Option.map_eq_some_iff.mp hdb
  refine ⟨site, hsite, userId, hsure site fun site₀ hsite₀ ↦ ?_, hactive⟩
  cases hsite.symm.trans hsite₀
  exact SiteStays.refl site

/-- A socket enters a room if its user is a member then. -/
theorem joinCommunity_heeds :
    (handleJoinCommunity client communityId).Heeds (fun _ ↦ True)
      (Among SiteStays (GatewayOp.joinCommunity client communityId).Holds)
      (GatewayMove (.joinCommunity client communityId)) (fun _ _ ↦ True) [] := by
  refine Call.heeds_bind (userIdOf_heeds.mono fun history found hfound ↦ ?_)
  cases found with
  | none => trivial
  | some userId =>
    refine answered_heeds (Call.heeds_bind ((membership_heeds (hfound userId rfl)).mono ?_))
    rintro history _ ⟨site₀, hsite₀, hmember⟩
    refine Call.heeds_bind ((onSockets_heeds fun env site hok ↦ ?_).mono fun _ _ _ ↦ trivial)
    refine gatewayMove_update (fun _ ↦ rfl) fun socket c hsocket hin ↦ ?_
    obtain ⟨hconnected, hroom⟩ := Bool.and_eq_true_iff.mp hin
    rcases List.mem_insert_iff.mp (of_decide_eq_true hroom) with hroom | hroom
    · rw [roomName_injective hroom]
      exact .inr (hok.1 client communityId rfl rfl site₀ hsite₀ hmember)
    · left
      rw [AuthenticatedSocket.isIn, hconnected, Bool.true_and]
      exact decide_eq_true hroom

theorem sendMessage_heeds {content : String} :
    (handleSendMessage client communityId content).Heeds (fun _ ↦ True)
      (Among SiteStays op.Holds) (GatewayMove op) (fun _ _ ↦ True) [] := by
  refine Call.heeds_bind (userIdOf_heeds.mono fun history found _ ↦ ?_)
  cases found with
  | none => trivial
  | some userId =>
    refine answered_heeds (Call.heeds_bind ((onDb_heeds saveMessage_community).mono ?_))
    rintro history saved rfl
    refine Call.heeds_bind ((onSockets_heeds fun env site _ ↦ ?_).mono fun _ _ _ ↦ trivial)
    exact ⟨.inr ⟨saved, rfl⟩, fun _ _ h ↦ .inl h, fun _ _ h ↦ .inl h⟩

theorem connection_move {site : Site} {label : String} {user : Option String} :
    GatewayMove op label site { site with sockets := site.sockets ++ [⟨user, [], true⟩] } := by
  have hkept : ∀ i socket, site.sockets[i]? = some socket →
      (site.sockets ++ [⟨user, [], true⟩])[i]? = some socket := fun i socket hsocket ↦
    (List.getElem?_append_left (List.getElem?_eq_some_iff.mp hsocket).1).trans hsocket
  refine ⟨.inl rfl, fun i c ⟨socket, hsocket, hin⟩ ↦ ?_, fun i c hmember ↦ ?_⟩
  · rcases getElem?_append_singleton_cases hsocket with ⟨-, rfl⟩ | hsocket
    · cases hin
    · exact .inl ⟨socket, hsocket, hin⟩
  · obtain ⟨u, ⟨socket, hsocket, huser⟩, hactive⟩ := hmember
    exact .inl ⟨u, ⟨socket, hkept i socket hsocket, huser⟩, hactive⟩

theorem runs_gateway (op : GatewayOp) : op.runs.Heeds (fun _ ↦ True) (Among SiteStays op.Holds)
    (GatewayMove op) (fun _ _ ↦ True) [] := by
  cases op with
  | connection rawToken =>
    refine Call.heeds_map (Call.heeds_bind ((onSockets_heeds fun env site _ ↦ ?_).mono
      fun _ _ _ ↦ trivial))
    exact connection_move
  | disconnect client =>
    refine Call.heeds_map (Call.heeds_bind ((onSockets_heeds fun env site _ ↦ ?_).mono
      fun _ _ _ ↦ trivial))
    exact gatewayMove_update (fun _ ↦ rfl) fun socket c _ hin ↦ by cases hin
  | joinCommunity client communityId => exact Call.heeds_map joinCommunity_heeds
  | leaveCommunity client communityId =>
    refine Call.heeds_map (Call.heeds_bind ((onSockets_heeds fun env site _ ↦ ?_).mono
      fun _ _ _ ↦ trivial))
    refine gatewayMove_update (fun _ ↦ rfl) fun socket c _ hin ↦ .inl ?_
    obtain ⟨hconnected, hroom⟩ := Bool.and_eq_true_iff.mp hin
    rw [AuthenticatedSocket.isIn, hconnected, Bool.true_and]
    exact decide_eq_true (List.mem_filter.mp (of_decide_eq_true hroom)).1
  | sendMessage client communityId content => exact Call.heeds_map sendMessage_heeds
  | membership op =>
    have hview : ∀ site db, Site.db (Site.withDb db site) = db := fun _ _ ↦ rfl
    have hnone : History.seen Site.db ([] : History String Site) = [] := rfl
    have hmoves := runs_move op
    rw [← hnone] at hmoves
    refine Call.heeds_map (((Call.heeds_focus (fun site db _ _ ↦ hview site db) hmoves).weaken (fun history l site hok ↦ ⟨trivial, fun db hdb ↦ ?_⟩)
      fun l site site' ⟨hmove, hput⟩ ↦ ?_).mono fun _ _ _ ↦ trivial)
    · rw [History.seen_last] at hdb
      obtain ⟨site₀, hsite₀, rfl⟩ := Option.map_eq_some_iff.mp hdb
      exact (hok.2 site₀ hsite₀).db
    · rw [hput]
      exact gatewayMove_membership hmove

theorem runs_siteStays (op : GatewayOp) : op.runs.Each fun _ ↦ SiteStays := by
  have hupdate : ∀ {label : String} {client : ℕ} {f : AuthenticatedSocket → AuthenticatedSocket},
      (∀ socket, (f socket).userId = socket.userId) →
        (onSockets label fun _ ↦ Site.updateSocket client f).Each fun _ ↦ SiteStays := by
    intro label client f hf
    refine Call.each_perform SiteStays.refl fun env site site' u h ↦ ?_
    cases h
    exact ⟨MembersStay.refl _, fun _ _ h ↦ userIs_update hf h⟩
  have hdb : ∀ {α : Type} {call : SocialCall α}, (call.Each fun _ ↦ MembersStay) →
      (onDb call).Each fun _ ↦ SiteStays := by
    intro α call hcall
    refine (Call.each_focus hcall).mono fun _ site site' ⟨db, hstay, hsite⟩ ↦ ?_
    rw [hsite]
    exact ⟨hstay, fun _ _ h ↦ h⟩
  have huser : ∀ {client : ℕ}, (userIdOf client).Each fun _ ↦ SiteStays :=
    Call.each_ask SiteStays.refl
  have hcheck : ∀ {userId communityId : String},
      (CommunityAuthorizationService.assertActiveMember userId communityId).Each
        fun _ ↦ MembersStay :=
    CommunityAuthorizationService.assertActiveMember_each MembersStay.refl MembersStay.refl
  cases op with
  | connection rawToken =>
    refine Call.each_map (Call.each_bind (Call.each_perform SiteStays.refl ?_)
      fun _ ↦ Call.each_returned)
    intro env site site' u h
    cases h
    refine ⟨MembersStay.refl _, fun i u ⟨socket, hsocket, hu⟩ ↦ ⟨socket, ?_, hu⟩⟩
    exact (List.getElem?_append_left (List.getElem?_eq_some_iff.mp hsocket).1).trans hsocket
  | disconnect client =>
    exact Call.each_map (Call.each_bind (hupdate fun _ ↦ rfl) fun _ ↦ Call.each_returned)
  | joinCommunity client communityId =>
    refine Call.each_map (Call.each_bind huser fun found ↦ ?_)
    cases found with
    | none => exact Call.each_returned
    | some userId =>
      refine Call.each_bind (Call.each_attempt (Call.each_bind (hdb hcheck) fun _ ↦
        Call.each_bind (hupdate fun _ ↦ rfl) fun _ ↦ Call.each_returned)) fun result ↦ ?_
      cases result <;> exact Call.each_returned
  | leaveCommunity client communityId =>
    exact Call.each_map (Call.each_bind (hupdate fun _ ↦ rfl) fun _ ↦ Call.each_returned)
  | sendMessage client communityId content =>
    refine Call.each_map (Call.each_bind huser fun found ↦ ?_)
    cases found with
    | none => exact Call.each_returned
    | some userId =>
      refine Call.each_bind (Call.each_attempt (Call.each_bind (hdb (Call.each_bind hcheck fun _ ↦
        Call.each_bind (Call.each_writes MembersStay.refl ?_) fun _ ↦ Call.each_returned)) fun saved ↦
          Call.each_bind (Call.each_perform SiteStays.refl ?_) fun _ ↦ Call.each_returned))
            fun result ↦ ?_
      · intro env db db' message h
        obtain ⟨_, -, h⟩ := andThen_eq_ok.mp h
        obtain ⟨sender, -, h⟩ := andThen_eq_ok.mp h
        obtain ⟨communityChatMessages, -, h⟩ := andThen_eq_ok.mp h
        cases h
        exact ⟨fun id m hm ↦ ⟨m, hm, rfl, rfl⟩, fun id c hc ↦ ⟨c, hc, rfl⟩⟩
      · intro env site site' u h
        cases h
        exact ⟨MembersStay.refl _, fun _ _ h ↦ h⟩
      · cases result <;> exact Call.each_returned
  | membership op => exact Call.each_map (hdb (runs_stay op))

end Requests

section Runs

variable {p q : Pool Site GatewayTask} {m : Move GatewayTask AuthEnv}

/-- A request that ends the active membership of the user of a socket finds the socket outside of
the room, and not about to enter it. -/
def EndsOutside (p : Pool Site GatewayTask) (m : Move GatewayTask AuthEnv) : Prop :=
  ∀ i env t label client communityId, m = .run i env → p.threads[i]? = some t →
    t.call.label? = some label → t.op.Ends label client communityId p.shared →
      ¬InRoom client communityId p.shared ∧ ∀ t' ∈ p.threads,
        t'.op = .joinCommunity client communityId → t'.call.label? ≠ some "socket.join"

/-- Only members are in the rooms, or about to enter them. -/
structure Bounded (p : Pool Site GatewayTask) : Prop where
  heedful : Heedful (fun _ ↦ True) (fun op ↦ Among SiteStays op.Holds) GatewayMove
    (fun _ _ _ ↦ True) p
  remembered : Remembered SiteStays p
  rooms : ∀ client communityId, InRoom client communityId p.shared →
    IsMember client communityId p.shared
  entering : ∀ t ∈ p.threads, ∀ label, t.call.label? = some label →
    t.op.Holds t.history label p.shared

theorem Bounded.heeding (hp : Bounded p) (m : Move GatewayTask AuthEnv) :
    Heeding (fun op ↦ Among SiteStays op.Holds) p m := by
  refine hp.remembered.heeding ?_
  cases m with
  | run i env =>
    exact fun t label ht hlabel ↦ hp.entering t (List.mem_of_getElem? ht) label hlabel
  | spawn | world => trivial

theorem Bounded.emits (hp : Bounded p) (hs : gatewayEvents.Step p m q) :
    Emits p.shared q.shared := by
  have hstep := hs
  cases hs with
  | spawn => exact .inl rfl
  | world hw => exact hw.elim
  | @run i env t t' site hi hcall =>
    have hi' : (p.threads.set i t')[i]? = some t' :=
      List.getElem?_set_self (List.getElem?_eq_some_iff.mp hi).1
    obtain ⟨-, label, -, -, hmove, -⟩ := hp.heedful.run (hp.heeding _) hstep hi hi'
    exact hmove.emits

theorem Bounded.step (hp : Bounded p) (hok : EndsOutside p m) (hs : gatewayEvents.Step p m q) :
    Bounded q := by
  have hheedful := (hp.heedful.step runs_gateway (hp.heeding m) hs).1
  have hremembered := hp.remembered.step SiteStays.refl SiteStays.trans runs_siteStays hs
  have hstep := hs
  cases hs with
  | @spawn t ht =>
    obtain ⟨op, rfl⟩ := ht
    refine ⟨hheedful, hremembered, hp.rooms, fun t ht label hlabel ↦ ?_⟩
    rcases List.mem_append.mp ht with hold | hnew
    · exact hp.entering t hold label hlabel
    · rw [List.mem_singleton.mp hnew]
      exact fun _ _ _ _ _ ↦ nofun
  | world hw => exact hw.elim
  | @run i env t t' site hi hcall =>
    have hi' : (p.threads.set i t')[i]? = some t' :=
      List.getElem?_set_self (List.getElem?_eq_some_iff.mp hi).1
    obtain ⟨hop, label, hlabel, -, hmove, -⟩ := hp.heedful.run (hp.heeding _) hstep hi hi'
    -- who is in a room, or about to enter it, is still a member
    have hkept : ∀ client communityId, IsMember client communityId p.shared →
        (InRoom client communityId p.shared ∨ ∃ u ∈ p.threads,
          u.op = .joinCommunity client communityId ∧ u.call.label? = some "socket.join") →
        IsMember client communityId site := by
      intro client communityId hmember hpresent
      refine (hmove.members client communityId hmember).resolve_right fun hends ↦ ?_
      obtain ⟨houtside, hnobody⟩ := hok i env t label client communityId rfl hi hlabel hends
      rcases hpresent with hin | ⟨u, hu, huop, hulabel⟩
      · exact houtside hin
      · exact hnobody u hu huop hulabel
    refine ⟨hheedful, hremembered, fun client communityId hin ↦ ?_, ?_⟩
    · rcases hmove.rooms client communityId hin with hin | hmember
      · exact hkept client communityId (hp.rooms client communityId hin) (.inl hin)
      · exact hmember
    · intro u hu ulabel hulabel client communityId huop hjoin site₀ hsite₀ hmember
      subst hjoin
      rcases List.mem_or_eq_of_mem_set hu with hold | rfl
      · have hnow := hp.entering u hold _ hulabel client communityId huop rfl site₀ hsite₀ hmember
        exact hkept client communityId hnow (.inr ⟨u, hold, huop, hulabel⟩)
      · obtain ⟨_, -, -, -, hhistory⟩ := tasks_run hstep hi hi'
        rw [hhistory, History.last_concat] at hsite₀
        cases hsite₀
        exact hmember

theorem reach_bounded (h : Reach gatewayEvents.Step EndsOutside
    (fun p ↦ p.threads = [] ∧ p.shared.sockets = []) p) : Bounded p := by
  refine h.invariant (fun p ⟨hnone, hsockets⟩ ↦ ?_) fun p m q hp hok hs ↦ hp.step hok hs
  refine ⟨⟨trivial, ?_⟩, ⟨?_, ?_⟩, fun i c ⟨socket, hsocket, _⟩ ↦ ?_, ?_⟩
  · simp [hnone]
  · simp [hnone]
  · simp [hnone]
  · rw [hsockets] at hsocket
    cases hsocket
  · simp [hnone]

/-- As long as a membership ends only while no socket of its user is in the room, or about to enter
it, a message of a community reaches only sockets whose users are active members then. -/
theorem broadcasts_reach_members {b : Broadcast}
    (h : Reach gatewayEvents.Step EndsOutside
      (fun p ↦ p.threads = [] ∧ p.shared.sockets = []) p)
    (hs : gatewayEvents.Step p m q) (hb : q.shared.broadcasts = p.shared.broadcasts ++ [b]) :
    ∀ client ∈ b.receivers, ∃ socket userId, p.shared.sockets[client]? = some socket ∧
      socket.userId = some userId ∧
        statusOf b.message.communityId userId p.shared.db = some .active := by
  have hp := reach_bounded h
  intro client hclient
  have hsent := hp.emits hs
  rw [Emits, hb] at hsent
  rcases hsent with hsame | ⟨message, hmessage⟩
  · simp at hsame
  · have hb := List.singleton_inj.mp (List.append_cancel_left hmessage)
    subst hb
    obtain ⟨-, hin⟩ := List.mem_filter.mp hclient
    obtain ⟨socket, hsocket, hin⟩ := (Option.any_eq_true ..).mp hin
    obtain ⟨userId, ⟨socket', hsocket', huser⟩, hactive⟩ := hp.rooms client _ ⟨socket, hsocket, hin⟩
    exact ⟨socket', userId, hsocket', huser, hactive⟩

end Runs

section Sample

def tokenOf (userId : String) : AccessToken :=
  ⟨⟨userId, userId ++ "@example.com", [], [], "jti-" ++ userId⟩, 1000⟩

/-- The owner and the second member connect and enter the room, the owner sends a message, the
second member leaves the room, and is banned. -/
def chatEvents : List GatewayOp :=
  [.connection (some (tokenOf "user-1")), .connection (some (tokenOf "user-2")),
    .joinCommunity 0 "community-1", .joinCommunity 1 "community-1",
    .sendMessage 0 "community-1" "See you at the coffee booth", .leaveCommunity 1 "community-1",
    .membership banning]

def callsAt (ops : List GatewayOp) : Pool Site GatewayTask :=
  ⟨⟨socialDb, [], []⟩, ops.map fun op ↦ ⟨op, [], op.runs⟩⟩

/-- The moves by which both sockets enter the room. -/
def entered : List (ℕ × AuthEnv) :=
  requests 0 1 "a" ++ requests 1 1 "b" ++ requests 2 4 "c" ++ requests 3 4 "d"

/-- A check of the moves: a membership that may end finds no socket of its user in the room, and
nobody about to enter one. -/
def outside (p : Pool Site GatewayTask) (i : ℕ) (_ : AuthEnv) : Bool :=
  p.threads[i]?.all fun t ↦
    match t.op with
    | .membership op => op.target.all fun target ↦
      (p.shared.sockets.all fun socket ↦ !(socket.userId == some target.1.2 &&
        socket.isIn (CommunityGateway.roomName target.1.1))) &&
      p.threads.all fun u ↦ u.call.label? != some "socket.join"
    | _ => true

theorem outside_sound {p : Pool Site GatewayTask} {i : ℕ} {env : AuthEnv}
    (h : outside p i env = true) : EndsOutside p (.run i env) := by
  rintro j env' t label client communityId hm ht - ⟨op, userId, status, hop, -, htarget, -, huser, -⟩
  cases hm
  rw [outside, ht, Option.all_some, hop] at h
  simp only [htarget, Option.all_some, Bool.and_eq_true, List.all_eq_true] at h
  obtain ⟨hsockets, hthreads⟩ := h
  refine ⟨fun ⟨socket, hsocket, hin⟩ ↦ ?_, fun u hu _ hjoin ↦ ?_⟩
  · obtain ⟨socket', hsocket', huser'⟩ := huser
    cases hsocket.symm.trans hsocket'
    have hout := hsockets socket (List.mem_of_getElem? hsocket)
    rw [huser', hin, beq_self_eq_true] at hout
    cases hout
  · have hnot := hthreads u hu
    rw [hjoin] at hnot
    exact absurd hnot (by decide)

theorem reach_callsAt {ops : List GatewayOp}
    {ok : Pool Site GatewayTask → Move GatewayTask AuthEnv → Prop}
    {check : Pool Site GatewayTask → ℕ → AuthEnv → Bool} {moves : List (ℕ × AuthEnv)}
    {p : Pool Site GatewayTask} (hspawn : ∀ p t, ok p (.spawn t))
    (hcheck : ∀ p i env, check p i env = true → ok p (.run i env))
    (hp : gatewayEvents.play check moves (callsAt ops) = some p) :
    Reach gatewayEvents.Step ok (fun p ↦ p.threads = [] ∧ p.shared.sockets = []) p := by
  have hstart : Reach gatewayEvents.Step ok (fun p ↦ p.threads = [] ∧ p.shared.sockets = [])
      ⟨⟨socialDb, [], []⟩, []⟩ := .start ⟨rfl, rfl⟩
  refine Machine.reach_play hcheck (Machine.reach_spawnAll (fun q t _ ↦ hspawn q t) (fun t ht ↦ ?_)
    hstart) hp
  obtain ⟨op, -, rfl⟩ := List.mem_map.mp ht
  exact ⟨op, rfl⟩

/-- What has been sent, by its community and its receivers. -/
def sent (site : Site) : List (String × List ℕ) :=
  site.broadcasts.map fun b ↦ (b.message.communityId, b.receivers)

theorem sent_first {site site' : Site} {communityId : String} {receivers : List ℕ}
    (h : sent site = []) (h' : sent site' = [(communityId, receivers)]) :
    ∃ b, site'.broadcasts = site.broadcasts ++ [b] ∧ b.message.communityId = communityId ∧
      b.receivers = receivers := by
  obtain ⟨b, hb, hsent⟩ := List.map_eq_singleton_iff.mp h'
  cases hsent
  exact ⟨b, by rw [hb, List.map_eq_nil_iff.mp h, List.nil_append], rfl, rfl⟩

/-- The second member has left the room before the ban, and gets nothing. -/
theorem owner_reached : ∃ (p q : Pool Site GatewayTask) (m : Move GatewayTask AuthEnv)
    (b : Broadcast), gatewayEvents.Step p m q ∧
      q.shared.broadcasts = p.shared.broadcasts ++ [b] ∧ b.receivers = [0] ∧
      ∀ client ∈ b.receivers, ∃ socket userId, p.shared.sockets[client]? = some socket ∧
        socket.userId = some userId ∧
          statusOf b.message.communityId userId p.shared.db = some .active := by
  have hrun : (gatewayEvents.play outside
      (entered ++ requests 5 1 "e" ++ requests 6 3 "f" ++ requests 4 4 "g")
        (callsAt chatEvents)).any (fun p ↦ (sent p.shared == []) &&
          (gatewayEvents.play outside (requests 4 1 "h") p).any fun q ↦
            sent q.shared == [("community-1", [0])]) = true := by
    decide +kernel
  simp only [Option.any_eq_true, Bool.and_eq_true, beq_iff_eq] at hrun
  obtain ⟨p, hp, hnone, q, hq, hsent⟩ := hrun
  obtain ⟨b, hb, -, hreceivers⟩ := sent_first hnone hsent
  have hs : gatewayEvents.Step p _ q := Machine.step_play hq
  refine ⟨p, q, _, b, hs, hb, hreceivers, broadcasts_reach_members ?_ hs hb⟩
  exact reach_callsAt (fun _ _ _ _ _ _ _ _ ↦ nofun) (fun _ _ _ ↦ outside_sound) hp

/-- The second member is banned while in the room, and still gets the message. -/
theorem banned_reached : ∃ (p q : Pool Site GatewayTask) (m : Move GatewayTask AuthEnv)
    (b : Broadcast), Reach gatewayEvents.Step (fun _ _ ↦ True)
      (fun p ↦ p.threads = [] ∧ p.shared.sockets = []) p ∧ gatewayEvents.Step p m q ∧
      q.shared.broadcasts = p.shared.broadcasts ++ [b] ∧
      ¬ ∀ client ∈ b.receivers, ∃ socket userId, p.shared.sockets[client]? = some socket ∧
        socket.userId = some userId ∧
          statusOf b.message.communityId userId p.shared.db = some .active := by
  have hrun : (gatewayEvents.play (fun _ _ _ ↦ true)
      (entered ++ requests 6 3 "e" ++ requests 4 4 "f") (callsAt chatEvents)).any (fun p ↦
        (sent p.shared == []) && (p.shared.sockets[1]?.map (·.userId) == some (some "user-2")) &&
        (statusOf "community-1" "user-2" p.shared.db == some .banned) &&
          (gatewayEvents.play (fun _ _ _ ↦ true) (requests 4 1 "g") p).any fun q ↦
            sent q.shared == [("community-1", [0, 1])]) = true := by
    decide +kernel
  simp only [Option.any_eq_true, Bool.and_eq_true, beq_iff_eq] at hrun
  obtain ⟨p, hp, ⟨⟨hnone, hsecond⟩, hbanned⟩, q, hq, hsent⟩ := hrun
  obtain ⟨b, hb, hcommunity, hreceivers⟩ := sent_first hnone hsent
  refine ⟨p, q, _, b, reach_callsAt (fun _ _ ↦ trivial) (fun _ _ _ _ ↦ trivial) hp,
    Machine.step_play hq, hb, fun hall ↦ ?_⟩
  obtain ⟨socket, userId, hsocket, huser, hactive⟩ := hall 1 (by rw [hreceivers]; decide)
  rw [hsocket, Option.map_some, huser, Option.some_inj, Option.some_inj] at hsecond
  rw [hcommunity, hsecond, hbanned] at hactive
  cases hactive

end Sample

end Innovents.Communities.Social
