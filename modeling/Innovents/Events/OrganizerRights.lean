import Innovents.Auth.SingleUseInvitations
import Innovents.Events.EventsService

namespace Innovents.Events

open Innovents.Lib Innovents.Auth Innovents.Platform
open OrganizerInvitationsService

section Operations

/-- The event as the invitations see it. -/
def eventSeen (e : Event) : Auth.Event := ⟨e.id, e.name, e.ownerId, e.deletedAt⟩

theorem eventSeen_apart (a b : Event) (h : clash a b = false) :
    clash (eventSeen a) (eventSeen b) = false := by
  simpa [clash, Row.id, Row.uniques, eventSeen] using h

/-- The accounts with the events of the schedule. -/
def EventsDb.invitationView (db : EventsDb) : AuthDb :=
  { db.accounts with events := db.events.map eventSeen eventSeen_apart }

def EventsDb.putInvitations (accounts : AuthDb) (db : EventsDb) : EventsDb :=
  { db with accounts := { accounts with events := db.accounts.events } }

inductive AppointmentOp
  | assignOrganizer (eventId currentUserId : String) (userRoles : List String)
      (dto : AssignOrganizerDto) (client : Client)
  | removeOrganizer (eventId currentUserId : String) (userRoles : List String)
      (targetUserId : String) (client : Client)
  | createInvitation (eventId ownerUserId : String) (ownerRoles : List String)
      (dto : CreateInvitationDto) (client : Client)
  | revokeInvitation (invitationId userId : String) (userRoles : List String) (client : Client)
  | acceptInvitation (dto : AcceptInvitationDto) (client : Client)

inductive AppointmentReply
  | organizer (dto : OrganizerResponseDto)
  | removed
  | created (dto : CreatedInvitationResponseDto)
  | revoked (dto : InvitationDetailsDto)
  | accepted (dto : AcceptedInvitationResponseDto)

/-- A call that works on the invitations. -/
def invitations {α : Type} (call : AuthCall α) : EventsCall α :=
  call.focus EventsDb.invitationView EventsDb.putInvitations

def AppointmentOp.runs (rt : Runtime) : AppointmentOp → EventsCall AppointmentReply
  | assignOrganizer eventId currentUserId userRoles dto client =>
    .organizer <$> EventsService.assignOrganizer eventId currentUserId userRoles dto client
  | removeOrganizer eventId currentUserId userRoles targetUserId client =>
    (fun _ ↦ .removed) <$>
      EventsService.removeOrganizer eventId currentUserId userRoles targetUserId client
  | createInvitation eventId ownerUserId ownerRoles dto client => .created <$>
    invitations (OrganizerInvitationsService.createInvitation rt eventId ownerUserId ownerRoles dto client)
  | revokeInvitation invitationId userId userRoles client => .revoked <$>
    invitations (OrganizerInvitationsService.revokeInvitation invitationId userId userRoles client)
  | acceptInvitation dto client => .accepted <$>
    invitations (OrganizerInvitationsService.acceptInvitation rt dto client)

abbrev AppointmentTask := Task AppointmentOp String AuthEnv EventsDb AuthError AppointmentReply

def appointments (rt : Runtime) : Machine EventsDb AppointmentTask AuthEnv :=
  tasks (AppointmentOp.runs rt)

end Operations

section Claim

/-- The user owns the event, or is an administrator. -/
def Entitled (eventId userId : String) (userRoles : List String) (db : EventsDb) : Prop :=
  "ADMIN" ∈ userRoles ∨ ∃ event ∈ db.events.get? eventId, event.ownerId = userId

instance (eventId userId : String) (userRoles : List String) (db : EventsDb) :
    Decidable (Entitled eventId userId userRoles db) :=
  inferInstanceAs (Decidable (_ ∨ ∃ event ∈ db.events.get? eventId, event.ownerId = userId))

/-- The user is not the owner of the event. -/
def Guest (eventId userId : String) (db : EventsDb) : Prop :=
  ∀ event ∈ db.events.get? eventId, userId ≠ event.ownerId

/-- Somebody entitled to it assigns the organizer, at a moment of the call. -/
def Assigns (t : AppointmentTask) (o : EventOrganizer) : Prop :=
  ∃ userRoles dto client,
    t.op = .assignOrganizer o.eventId o.assignedBy userRoles dto client ∧ dto.userId = o.userId ∧
      ∃ event ∈ t.history, Entitled o.eventId o.assignedBy userRoles event.2.1

/-- Somebody entitled to it invites to the event. -/
def Invites (t : AppointmentTask) (eventId ownerUserId : String) : Prop :=
  ∃ ownerRoles dto client, t.op = .createInvitation eventId ownerUserId ownerRoles dto client ∧
    ∃ event ∈ t.history, Entitled eventId ownerUserId ownerRoles event.2.1

/-- The invitation is the one that the acceptance has found. -/
def Accepts (rt : Runtime) (t : AppointmentTask) (i : OrganizerInvitation) : Prop :=
  ∃ dto client, t.op = .acceptInvitation dto client ∧
    ∃ db ∈ t.history.first, invitationOf rt dto db.invitationView = some i

/-- The organizer has been assigned, or has accepted an invitation. -/
def Originates (rt : Runtime) (calls : List AppointmentTask) (o : EventOrganizer) : Prop :=
  (∃ t ∈ calls, Assigns t o) ∨
    ∃ i : OrganizerInvitation, i.eventId = o.eventId ∧ i.eventOwnerId = o.assignedBy ∧
      (∃ t ∈ calls, Accepts rt t i) ∧ ∃ t ∈ calls, Invites t i.eventId i.eventOwnerId

/-- An assignment is stored for somebody entitled to it, and nobody makes the owner an organizer. -/
def AppointmentOp.Rightful (rt : Runtime) :
    AppointmentOp → History String EventsDb → String → EventsDb → Prop
  | .assignOrganizer eventId currentUserId userRoles dto _, _, label, db =>
    label = "eventOrganizer.upsert" →
      Entitled eventId currentUserId userRoles db ∧ Guest eventId dto.userId db
  | .acceptInvitation dto _, history, label, db => label = "user.findFirst" →
    ∀ db₀ ∈ history.first, ∀ i ∈ invitationOf rt dto db₀.invitationView,
      ∀ user ∈ db.accounts.account i.email,
        ¬(user.status = .deactivated ∨ user.status = .suspended) → Guest i.eventId user.id db
  | _, _, _, _ => True

/-- Nobody has been appointed or invited, and the owners of the events have accounts. -/
structure NobodyAppointed (p : Pool EventsDb AppointmentTask) : Prop where
  threads : p.threads = []
  organizers : p.shared.accounts.eventOrganizers.rows = []
  invitations : p.shared.accounts.organizerInvitations.rows = []
  owners : ∀ event ∈ p.shared.events.rows, p.shared.accounts.users.has event.ownerId = true

end Claim

section Rights

variable {E : Table Auth.Event} {W : String → String → Prop} {A : EventOrganizer → Prop}
  {M : String → String → Prop} {N : EventOrganizer → Prop} {db db' : AuthDb}

/-- The user is not the owner of the event in the table. -/
def NotOwner (E : Table Auth.Event) (eventId userId : String) : Prop :=
  ∀ event ∈ E.get? eventId, userId ≠ event.ownerId

/-- The events are `E`, every invitation meets `W`, and every organizer `A`. -/
structure Appointed (E : Table Auth.Event) (W : String → String → Prop)
    (A : EventOrganizer → Prop) (db : AuthDb) : Prop where
  events : db.events = E
  owners : ∀ event ∈ E.rows, db.users.has event.ownerId = true
  invited : ∀ i ∈ db.organizerInvitations.rows, W i.eventId i.eventOwnerId
  organizers : ∀ o ∈ db.eventOrganizers.rows, A o ∧ NotOwner E o.eventId o.userId

/-- What is new are invitations that meet `M` and organizers that meet `N`. -/
structure Moves (M : String → String → Prop) (N : EventOrganizer → Prop) (db db' : AuthDb) :
    Prop where
  events : db'.events = db.events
  users : ∀ id, db.users.has id = true → db'.users.has id = true
  invitations : ∀ i' ∈ db'.organizerInvitations.rows,
    (∃ i ∈ db.organizerInvitations.rows, i.eventId = i'.eventId ∧ i.eventOwnerId = i'.eventOwnerId) ∨
      M i'.eventId i'.eventOwnerId
  organizers : ∀ o ∈ db'.eventOrganizers.rows, o ∈ db.eventOrganizers.rows ∨ N o

theorem Moves.quiet (hevents : db'.events = db.events)
    (husers : ∀ id, db.users.has id = true → db'.users.has id = true)
    (hinvitations : db'.organizerInvitations = db.organizerInvitations)
    (horganizers : db'.eventOrganizers = db.eventOrganizers) : Moves M N db db' := by
  refine ⟨hevents, husers, fun i hi ↦ .inl ⟨i, ?_, rfl, rfl⟩, fun o ho ↦ .inl ?_⟩
  · rwa [← hinvitations]
  · rwa [← horganizers]

theorem Moves.refl (db : AuthDb) : Moves M N db db := .quiet rfl (fun _ h ↦ h) rfl rfl

theorem Moves.trans {db'' : AuthDb} (h : Moves M N db db') (h' : Moves M N db' db'') :
    Moves M N db db'' := by
  refine ⟨h'.events.trans h.events, fun id hid ↦ h'.users id (h.users id hid), ?_, ?_⟩
  · intro i hi
    rcases h'.invitations i hi with ⟨i', hi', hevent, howner⟩ | hM
    · rcases h.invitations i' hi' with ⟨i'', hi'', hevent', howner'⟩ | hM
      · exact .inl ⟨i'', hi'', hevent'.trans hevent, howner'.trans howner⟩
      · rw [hevent, howner] at hM
        exact .inr hM
    · exact .inr hM
  · intro o ho
    rcases h'.organizers o ho with ho | hN
    · exact h.organizers o ho
    · exact .inr hN

theorem Moves.mono {M' : String → String → Prop} {N' : EventOrganizer → Prop}
    (h : Moves M N db db') (hM : ∀ e u, M e u → M' e u) (hN : ∀ o, N o → N' o) :
    Moves M' N' db db' :=
  ⟨h.events, h.users, fun i hi ↦ (h.invitations i hi).imp_right (hM _ _),
    fun o ho ↦ (h.organizers o ho).imp_right (hN o)⟩

theorem Appointed.moves (h : Appointed E W A db) (hmoves : Moves M N db db')
    (hM : ∀ e u, M e u → W e u) (hN : ∀ o, N o → A o ∧ NotOwner E o.eventId o.userId) :
    Appointed E W A db' := by
  refine ⟨hmoves.events.trans h.events, fun e he ↦ hmoves.users _ (h.owners e he), ?_, ?_⟩
  · intro i hi
    rcases hmoves.invitations i hi with ⟨i', hi', hevent, howner⟩ | hnew
    · rw [← hevent, ← howner]
      exact h.invited i' hi'
    · exact hM _ _ hnew
  · intro o ho
    rcases hmoves.organizers o ho with ho | hnew
    · exact h.organizers o ho
    · exact hN o hnew

/-- Nothing new. -/
abbrev Keeps : AuthDb → AuthDb → Prop := Moves (fun _ _ ↦ False) fun _ ↦ False

theorem Appointed.keeps (h : Appointed E W A db) (hkeeps : Keeps db db') : Appointed E W A db' :=
  h.moves hkeeps (fun _ _ h ↦ h.elim) fun _ h ↦ h.elim

theorem Keeps.moves (h : Keeps db db') : Moves M N db db' :=
  h.mono (fun _ _ h ↦ h.elim) fun _ h ↦ h.elim

/-- Invitations that are rewritten stay those of the same event and the same creator. -/
theorem keeps_rewritten {t : Table OrganizerInvitation} {g : OrganizerInvitation → OrganizerInvitation}
    (hrows : t.rows = db.organizerInvitations.rows.map g)
    (hg : ∀ i, (g i).eventId = i.eventId ∧ (g i).eventOwnerId = i.eventOwnerId) :
    Keeps db { db with organizerInvitations := t } := by
  refine ⟨rfl, fun _ h ↦ h, fun i hi ↦ .inl ?_, fun o ho ↦ .inl ho⟩
  rw [hrows] at hi
  obtain ⟨i', hi', rfl⟩ := List.mem_map.mp hi
  exact ⟨i', hi', (hg i').1.symm, (hg i').2.symm⟩

theorem keeps_updated {t : Table OrganizerInvitation} {id : String}
    {f : OrganizerInvitation → OrganizerInvitation}
    (h : db.organizerInvitations.update id f = .ok t)
    (hf : ∀ i, (f i).eventId = i.eventId ∧ (f i).eventOwnerId = i.eventOwnerId) :
    Keeps db { db with organizerInvitations := t } := by
  refine keeps_rewritten (Table.update_eq_ok.mp h).2 fun i ↦ ?_
  split_ifs
  · exact hf i
  · exact ⟨rfl, rfl⟩

end Rights

section Invitations

variable {rt : Runtime} {client : Client} {E : Table Auth.Event} {W : String → String → Prop}
  {A : EventOrganizer → Prop} {ok : AuthHistory → String → AuthDb → Prop} {history : AuthHistory}

theorem keeps_log {params : CreateAuditLogParams} :
    (AuditService.log params client).Each fun _ ↦ Keeps :=
  Auth.each_log fun _ _ ↦ .quiet rfl (fun _ h ↦ h) rfl rfl

/-- What changes no rights needs no condition. -/
theorem heeds_keeps {α : Type} {c : AuthCall α} (hc : c.Each fun _ ↦ Keeps) :
    c.Heeds (Appointed E W A) ok (fun _ _ _ ↦ True) (fun _ _ ↦ True) history :=
  Call.heeds_each hc (fun _ _ _ h hkeeps ↦ h.keeps hkeeps) fun _ _ _ _ _ ↦ trivial

theorem assertCanInviteOrganizer_keeps {userId eventId : String} {userRoles : List String} :
    (assertCanInviteOrganizer userId userRoles eventId).Each fun _ ↦ Keeps := by
  refine Call.each_bind (each_finds fun db ↦ Moves.refl db) fun event ↦ ?_
  cases event with
  | none => trivial
  | some event =>
    dsimp only
    split_ifs
    · trivial
    · trivial

theorem revokeInvitation_keeps {invitationId userId : String} {userRoles : List String} :
    (revokeInvitation invitationId userId userRoles client).Each fun _ ↦ Keeps := by
  refine Call.each_bind (each_finds fun db ↦ Moves.refl db) fun found ↦ ?_
  cases found with
  | none => trivial
  | some invitation =>
    refine Call.each_bind assertCanInviteOrganizer_keeps fun _ ↦ ?_
    split_ifs
    · trivial
    · trivial
    · refine Call.each_bind (each_stores (fun db ↦ Moves.refl db) fun env db db' a h ↦ ?_) fun _ ↦
        Call.each_bind keeps_log fun _ ↦ trivial
      obtain ⟨t, ht, h⟩ := andThen_eq_ok.mp h
      split at h
      · cases h
        exact keeps_updated (ofRefusal_eq_ok.mp ht) fun _ ↦ ⟨rfl, rfl⟩
      · cases h

/-- Who creates an invitation is entitled to it in the state that the first request finds. -/
theorem createInvitation_heeds {eventId ownerUserId : String} {ownerRoles : List String}
    {dto : CreateInvitationDto} (hW : ∀ db, Appointed E W A db → ok history "event.findFirst" db →
      "ADMIN" ∈ ownerRoles ∨ (∃ event ∈ E.get? eventId, event.ownerId = ownerUserId) →
        W eventId ownerUserId) :
    (createInvitation rt eventId ownerUserId ownerRoles dto client).Heeds (Appointed E W A) ok
      (fun _ _ _ ↦ True) (fun _ _ ↦ True) history := by
  refine Call.heeds_bind ?_
  refine Call.heeds_bind (heeds_finds (fun _ ↦ trivial) fun env db hdb hok ↦ ?_)
  cases hfound : db.events.find? fun e ↦ e.id == eventId && e.deletedAt.isNone with
  | none => trivial
  | some event =>
    obtain ⟨hmem, hevent⟩ := Table.find?_mem hfound
    rw [Bool.and_eq_true, beq_iff_eq] at hevent
    have hget : E.get? eventId = some event :=
      Table.get?_eq_some.mpr ⟨hdb.events ▸ hmem, hevent.1⟩
    dsimp only
    split_ifs with hentitled
    · have hinvited := hW db hdb hok
        (hentitled.imp_right fun howner ↦ ⟨event, hget, howner⟩)
      rw [← hevent.1] at hinvited
      refine Call.heeds_bind (heeds_stores (fun _ ↦ trivial) fun env db db' a hdb _ h ↦ ?_)
      obtain ⟨t, ht, h⟩ := andThen_eq_ok.mp h
      cases h
      refine ⟨hdb.keeps (keeps_rewritten (Table.store_eq_ok.mp (ofRefusal_eq_ok.mp ht))
        fun i ↦ ?_), trivial, ?_⟩
      · split_ifs
        · exact ⟨rfl, rfl⟩
        · exact ⟨rfl, rfl⟩
      refine Call.heeds_bind (heeds_stores (fun _ ↦ trivial) fun env db db' a hdb _ h ↦ ?_)
      obtain ⟨t, ht, h⟩ := andThen_eq_ok.mp h
      obtain ⟨db₁, hwritten, h⟩ := andThen_eq_ok.mp h
      obtain ⟨events, -, hwritten⟩ := andThen_eq_ok.mp hwritten
      cases hwritten
      cases h
      refine ⟨⟨hdb.events, hdb.owners, fun i hi ↦ ?_, hdb.organizers⟩, trivial, ?_⟩
      · have hi : i ∈ t.rows := hi
        rw [Table.create_eq_ok.mp (ofRefusal_eq_ok.mp ht), List.mem_append, List.mem_singleton] at hi
        rcases hi with hi | rfl
        · exact hdb.invited i hi
        · exact hinvited
      · exact Call.heeds_bind ((heeds_keeps keeps_log).mono fun _ _ _ ↦ trivial)
    · trivial

section Acceptance

variable {tx : Pending AuthDb AuthError} {invitation : OrganizerInvitation} {event : Auth.Event}
  {userId : String}

/-- The organizer is the user, and the invitation is the one to its event. -/
def AppointedBy (invitation : OrganizerInvitation) (userId : String) (o : EventOrganizer) : Prop :=
  o.eventId = invitation.eventId ∧ o.userId = userId ∧ o.assignedBy = invitation.eventOwnerId

theorem changes_ok : Pending.Changes Keeps (.ok : Pending AuthDb AuthError) := by
  intro db db' h
  cases h
  exact Moves.refl db

/-- The account of an invitation is not the owner of the event. -/
theorem organizerAccount_appoints {dto : AcceptInvitationDto} {role : Role}
    (hguest : ∀ db, Appointed E W A db → ok history "user.findFirst" db →
      ∀ user ∈ db.account invitation.email,
        ¬(user.status = .deactivated ∨ user.status = .suspended) →
          NotOwner E invitation.eventId user.id) :
    (organizerAccount rt .ok invitation dto role).Heeds (Appointed E W A) ok (fun _ _ _ ↦ True)
      (fun _ q ↦ q.1.Changes Keeps ∧ NotOwner E invitation.eventId q.2) history := by
  refine Call.heeds_bind (heeds_finds (fun _ ↦ trivial) fun env db hdb hok ↦ ?_)
  cases haccount : db.account invitation.email with
  | some user =>
    dsimp only
    split_ifs with hstatus
    · trivial
    · have hnot := hguest db hdb hok user haccount hstatus
      refine Call.heeds_bind ?_
      unfold addRole
      split_ifs
      · exact ⟨changes_ok, hnot⟩
      · refine Call.heeds_bind (heeds_statement (Q := Keeps) (fun _ ↦ trivial) changes_ok
          (fun env view view' a hs db hview ↦ ?_) fun _ _ _ _ _ _ _ _ _ tx htx ↦ ⟨htx, hnot⟩)
        obtain ⟨users, husers, hs⟩ := andThen_eq_ok.mp hs
        cases hs
        refine hview.trans (.quiet rfl (fun id hid ↦ ?_) rfl rfl)
        obtain ⟨u, hu, rfl⟩ := Table.has_iff.mp hid
        refine Table.has_iff.mpr ?_
        show ∃ r ∈ users.rows, _
        rw [(Table.update_eq_ok.mp (ofRefusal_eq_ok.mp husers)).2]
        exact ⟨_, List.mem_map_of_mem hu, by split_ifs <;> rfl⟩
  | none =>
    cases dto.password.filter (· ≠ "") with
    | none => trivial
    | some password =>
      refine heeds_statement (Q := Keeps) (fun _ ↦ trivial) changes_ok
        (fun env view view' a hs db hview ↦ ?_) fun env db view view' a hdb _ hview hs tx htx ↦
          ⟨htx, fun e he ↦ ?_⟩
      · obtain ⟨users, husers, hs⟩ := andThen_eq_ok.mp hs
        obtain ⟨profiles, -, hs⟩ := andThen_eq_ok.mp hs
        cases hs
        refine hview.trans (.quiet rfl (fun id hid ↦ ?_) rfl rfl)
        obtain ⟨u, hu⟩ := Option.isSome_iff_exists.mp hid
        exact Option.isSome_iff_exists.mpr
          ⟨u, (Table.get?_create_taken hu (ofRefusal_eq_ok.mp husers)).2⟩
      · -- the new account has a key that no owner has
        cases hview
        obtain ⟨users, husers, hs⟩ := andThen_eq_ok.mp hs
        obtain ⟨profiles, -, hs⟩ := andThen_eq_ok.mp hs
        cases hs
        obtain ⟨owner, howner⟩ :=
          Option.isSome_iff_exists.mp (hdb.owners e (Table.get?_eq_some.mp he).1)
        exact (Table.get?_create_taken howner (ofRefusal_eq_ok.mp husers)).1

theorem markAccepted_appoints (htx : tx.Changes Keeps) :
    (markAccepted tx invitation event userId).Heeds (Appointed E W A) ok (fun _ _ _ ↦ True)
      (fun _ tx ↦ tx.Changes (Moves (fun _ _ ↦ False) (AppointedBy invitation userId)))
      history := by
  let appoints := Moves (fun _ _ ↦ False) (AppointedBy invitation userId)
  refine Call.heeds_bind (heeds_statement (Q := appoints) (fun _ ↦ trivial) htx
    (fun env view view' a hs db hview ↦ ?_) fun _ _ _ _ _ _ _ _ _ tx htx ↦ Call.heeds_bind
      (heeds_statement (Q := appoints) (fun _ ↦ trivial) htx
        (fun env view view' a hs db hview ↦ ?_) fun _ _ _ _ _ _ _ _ _ tx htx ↦ Call.heeds_bind
          (heeds_statement (Q := appoints) (fun _ ↦ trivial) htx
            (fun env view view' a hs db hview ↦ ?_) fun _ _ _ _ _ _ _ _ _ tx htx ↦ htx)))
  · split_ifs at hs
    · cases hs
      exact hview.moves
    · obtain ⟨t, ht, hs⟩ := andThen_eq_ok.mp hs
      cases hs
      refine hview.moves.trans ⟨rfl, fun _ h ↦ h, fun i hi ↦ .inl ⟨i, hi, rfl, rfl⟩, fun o ho ↦ ?_⟩
      have ho : o ∈ t.rows := ho
      rw [Table.create_eq_ok.mp (ofRefusal_eq_ok.mp ht), List.mem_append, List.mem_singleton] at ho
      rcases ho with ho | rfl
      · exact .inl ho
      · exact .inr ⟨rfl, rfl, rfl⟩
  · obtain ⟨t, ht, hs⟩ := andThen_eq_ok.mp hs
    cases hs
    exact Moves.trans hview (keeps_updated (ofRefusal_eq_ok.mp ht) fun _ ↦ ⟨rfl, rfl⟩).moves
  · obtain ⟨db₁, hwritten, hs⟩ := andThen_eq_ok.mp hs
    obtain ⟨t, -, hwritten⟩ := andThen_eq_ok.mp hwritten
    cases hwritten
    cases hs
    exact Moves.trans hview (.quiet rfl (fun _ h ↦ h) rfl rfl)

theorem issueTokens_keeps : (issueTokens rt tx userId).Each fun _ ↦ Keeps := by
  refine Call.each_bind (Call.each_ask fun db ↦ Moves.refl db) fun ⟨_, found⟩ ↦ ?_
  cases found with
  | none => trivial
  | some found =>
    refine Call.each_bind (each_stores (fun db ↦ Moves.refl db) fun env db db' a hs ↦ ?_)
      fun _ ↦ trivial
    split_ifs at hs
    obtain ⟨t, -, hs⟩ := andThen_eq_ok.mp hs
    cases hs
    exact .quiet rfl (fun _ h ↦ h) rfl rfl

theorem prepareAcceptance_appoints {dto : AcceptInvitationDto} (hguest : ∀ history' db,
      history <+: history' → Appointed E W A db → ok history' "user.findFirst" db →
        ∀ user ∈ db.account invitation.email,
          ¬(user.status = .deactivated ∨ user.status = .suspended) →
            NotOwner E invitation.eventId user.id) :
    (prepareAcceptance rt dto client invitation).Heeds (Appointed E W A) ok (fun _ _ _ ↦ True)
      (fun _ q ↦ ∃ userId, NotOwner E invitation.eventId userId ∧
        q.1.Changes (Moves (fun _ _ ↦ False) (AppointedBy invitation userId))) history := by
  refine Call.heeds_bind (heeds_finds (fun _ ↦ trivial) fun env db _ _ ↦ ?_)
  cases db.events.find? fun e ↦ e.id == invitation.eventId && e.deletedAt.isNone with
  | none => trivial
  | some event =>
    refine Call.heeds_bind (heeds_finds (fun _ ↦ trivial) fun env db _ _ ↦ ?_)
    cases db.role "ORGANIZER" with
    | none => trivial
    | some role =>
      refine Call.heeds_bind ((organizerAccount_appoints fun db hdb hok ↦ ?_).mono
        fun _ q ⟨htx, hnot⟩ ↦ ?_)
      · refine hguest _ db ?_ hdb hok
        rw [List.append_assoc]
        exact List.prefix_append _ _
      refine Call.heeds_bind ((markAccepted_appoints htx).mono fun _ tx htx ↦ ?_)
      refine Call.heeds_bind ((heeds_keeps keeps_log).mono fun _ _ _ ↦ ?_)
      exact Call.heeds_bind ((heeds_keeps issueTokens_keeps).mono fun _ _ _ ↦ ⟨q.2, hnot, htx⟩)

/-- An acceptance that has found an invitation may make organizers of its event. -/
theorem acceptInvitation_appoints {dto : AcceptInvitationDto}
    (hguest : ∀ history db db₀, Appointed E W A db → ok history "user.findFirst" db →
      db₀ ∈ history.first → ∀ i ∈ invitationOf rt dto db₀, ∀ user ∈ db.account i.email,
        ¬(user.status = .deactivated ∨ user.status = .suspended) → NotOwner E i.eventId user.id)
    (hA : ∀ history db db₀, ok history "commit" db → db₀ ∈ history.first →
      ∀ i ∈ invitationOf rt dto db₀, W i.eventId i.eventOwnerId →
        ∀ o : EventOrganizer, o.eventId = i.eventId → o.assignedBy = i.eventOwnerId → A o) :
    (acceptInvitation rt dto client).Heeds (Appointed E W A) ok (fun _ _ _ ↦ True)
      (fun _ _ ↦ True) [] := by
  refine Call.heeds_bind (heeds_finds (fun _ ↦ trivial) fun env db hdb _ ↦ ?_)
  cases hfound : invitationOf rt dto db with
  | none =>
    unfold invitationOf at hfound
    rw [hfound]
    trivial
  | some invitation =>
    have hinvited := hdb.invited invitation (Table.find?_mem hfound).1
    have hfinds : db.organizerInvitations.find? (·.tokenHash == rt.sha256 (rt.trim dto.token)) =
      some invitation := hfound
    rw [hfinds]
    dsimp only
    split_ifs
    · trivial
    · trivial
    · exact Call.heeds_bind (Call.heeds_ask (fun _ ↦ trivial) fun _ _ _ _ _ _ ↦ trivial)
    · rw [acceptOpen_eq]
      refine Call.heeds_bind ((prepareAcceptance_appoints fun history' db' hearlier hdb' hok ↦ ?_).grows.mono
        fun history q ⟨hearlier, userId, hnot, htx⟩ ↦ ?_)
      · exact hguest history' db' db hdb' hok (History.first_of_prefix hearlier) invitation hfound
      refine Call.heeds_bind (Call.heeds_perform (fun _ ↦ trivial) fun env db₁ db₂ a hdb₁ hok hs ↦ ?_)
      obtain ⟨⟨⟩, -, hs⟩ := andThen_eq_ok.mp hs
      obtain ⟨db₂', hcommit, hs⟩ := andThen_eq_ok.mp hs
      cases hs
      refine ⟨hdb₁.moves (htx db₁ _ hcommit) (fun _ _ h ↦ h.elim) ?_, trivial, trivial⟩
      rintro o ⟨hevent, huser, howner⟩
      refine ⟨hA history db₁ db hok (History.first_of_prefix hearlier) invitation hfound hinvited o
        hevent howner, ?_⟩
      rw [hevent, huser]
      exact hnot

end Acceptance

end Invitations

section Assignments

variable {E : Table Auth.Event} {W : String → String → Prop} {A : EventOrganizer → Prop}
  {db db' : EventsDb} {eventId currentUserId : String} {userRoles : List String} {client : Client}

theorem invitationView_events (db : EventsDb) (id : String) :
    db.invitationView.events.get? id = (db.events.get? id).map eventSeen :=
  Table.get?_map eventSeen_apart (fun _ ↦ rfl) id

theorem guest_iff {userId : String} : Guest eventId userId db ↔
    NotOwner db.invitationView.events eventId userId := by
  rw [Guest, NotOwner, invitationView_events]
  constructor
  · intro h e he
    obtain ⟨event, hevent, rfl⟩ := Option.map_eq_some_iff.mp he
    exact h event hevent
  · intro h event hevent
    exact h (eventSeen event) (Option.map_eq_some_iff.mpr ⟨event, hevent, rfl⟩)

theorem entitled_of_seen {userId : String} (h : "ADMIN" ∈ userRoles ∨
    ∃ event ∈ db.invitationView.events.get? eventId, event.ownerId = userId) :
    Entitled eventId userId userRoles db := by
  refine h.imp_right ?_
  rintro ⟨e, he, howner⟩
  rw [invitationView_events] at he
  obtain ⟨event, hevent, rfl⟩ := Option.map_eq_some_iff.mp he
  exact ⟨event, hevent, howner⟩

/-- Only tables of the accounts differ in which the rights are not kept. -/
theorem appointed_logged {params : CreateAuditLogParams} {ok : String → EventsDb → Prop} :
    (log params client : EventsCall Unit).Each fun l db db' ↦ ok l db →
      Appointed E W A db.invitationView → Appointed E W A db'.invitationView := by
  intro env db
  refine ⟨fun _ hdb ↦ ?_, trivial⟩
  obtain ⟨t, ht⟩ := AuditService.written_frame params client env (Accounts.get db)
  dsimp only
  rw [ht]
  exact hdb.keeps (.quiet rfl (fun _ h ↦ h) rfl rfl)

/-- The condition on the statements of an assignment. -/
def Assignable (A : EventOrganizer → Prop) (eventId currentUserId userId label : String)
    (db : EventsDb) : Prop :=
  label = "eventOrganizer.upsert" → Guest eventId userId db ∧
    ∀ o : EventOrganizer, o.eventId = eventId → o.userId = userId → o.assignedBy = currentUserId → A o

theorem assignOrganizer_appoints {dto : AssignOrganizerDto} :
    (EventsService.assignOrganizer eventId currentUserId userRoles dto client).Each
      fun l db db' ↦ Assignable A eventId currentUserId dto.userId l db →
        Appointed E W A db.invitationView → Appointed E W A db'.invitationView := by
  refine Call.each_bind (EventAuthorizationService.assertCanManageEvent_each (fun _ _ h ↦ h)
    fun _ _ h ↦ h) fun _ ↦ ?_
  refine Call.each_bind Call.each_returned fun _ ↦ ?_
  refine Call.each_bind (Call.each_reads fun _ _ h ↦ h) fun _ ↦ ?_
  refine Call.each_bind Call.each_returned fun targetUser ↦ ?_
  refine Call.each_bind Call.each_returned fun _ ↦ Call.each_bind Call.each_returned fun _ ↦ ?_
  refine Call.each_bind (Call.each_writes (fun _ _ h ↦ h) fun env db db' a h hok hdb ↦ ?_)
    fun _ ↦ Call.each_bind appointed_logged fun _ ↦ Call.each_returned
  obtain ⟨hdb', hrows⟩ := EventsService.organizerUpsert_eq h
  obtain ⟨hnot, hA⟩ := hok rfl
  rw [hdb']
  refine ⟨hdb.events, hdb.owners, hdb.invited, fun o ho ↦ ?_⟩
  rcases hrows o ho with ho | ⟨hevent, huser, hby⟩
  · exact hdb.organizers o ho
  · refine ⟨hA o hevent huser hby, ?_⟩
    rw [hevent, huser, ← hdb.events]
    exact guest_iff.mp hnot

theorem removeOrganizer_appoints {targetUserId : String} {ok : String → EventsDb → Prop} :
    (EventsService.removeOrganizer eventId currentUserId userRoles targetUserId client).Each
      fun l db db' ↦ ok l db →
        Appointed E W A db.invitationView → Appointed E W A db'.invitationView := by
  refine Call.each_bind (EventAuthorizationService.assertCanManageEvent_each (fun _ _ h ↦ h)
    fun _ _ h ↦ h) fun _ ↦ ?_
  refine Call.each_bind (Call.each_reads fun _ _ h ↦ h) fun _ ↦ ?_
  refine Call.each_bind Call.each_returned fun assignment ↦ ?_
  refine Call.each_bind (Call.each_writes (fun _ _ h ↦ h) fun env db db' a h _ hdb ↦ ?_)
    fun _ ↦ appointed_logged
  obtain ⟨t, ht, h⟩ := andThen_eq_ok.mp h
  cases h
  refine ⟨hdb.events, hdb.owners, hdb.invited, fun o ho ↦ hdb.organizers o ?_⟩
  have ho : o ∈ t.rows := ho
  rw [(Table.delete_eq_ok.mp (ofRefusal_eq_ok.mp ht)).2] at ho
  exact (List.mem_filter.mp ho).1

end Assignments

section Runs

variable {rt : Runtime} {p : Pool EventsDb AppointmentTask}

/-- What a request may rely on in a run that ends with the given calls. -/
def InRun (rt : Runtime) (calls : List AppointmentTask) (op : AppointmentOp)
    (history : History String EventsDb) (label : String) (db : EventsDb) : Prop :=
  op.Rightful rt history label db ∧
    ∃ t ∈ calls, t.op = op ∧ ∃ db', history ++ [(label, db, db')] <+: t.history

theorem InRun.request {calls : List AppointmentTask} {op : AppointmentOp}
    {history : History String EventsDb} {label : String} {db : EventsDb}
    (h : InRun rt calls op history label db) : ∃ t ∈ calls, t.op = op ∧
      (∃ event ∈ t.history, event.2.1 = db) ∧ ∀ db₀ ∈ history.first, t.history.first = some db₀ := by
  obtain ⟨-, t, ht, hop, db', new, hprefix⟩ := h
  refine ⟨t, ht, hop, ⟨(label, db, db'), ?_, rfl⟩, fun db₀ hdb₀ ↦ ?_⟩
  · rw [← hprefix]
    simp
  · rw [← hprefix]
    cases history with
    | nil => cases hdb₀
    | cons event history => exact hdb₀

abbrev Invited (calls : List AppointmentTask) (eventId ownerUserId : String) : Prop :=
  ∃ t ∈ calls, Invites t eventId ownerUserId

theorem history_seen_first {history : History String EventsDb} :
    History.first (history.seen EventsDb.invitationView) =
      history.first.map EventsDb.invitationView := by
  cases history with
  | nil => rfl
  | cons event history => rfl

/-- A call on the invitations, as one on the tables of the events. -/
theorem invitations_heeds (ok : AuthHistory → String → AuthDb → Prop) {α : Type}
    {call : AuthCall α} {E : Table Auth.Event} {W : String → String → Prop}
    {A : EventOrganizer → Prop}
    {ok' : History String EventsDb → String → EventsDb → Prop}
    (h : call.Heeds (Appointed E W A) ok (fun _ _ _ ↦ True) (fun _ _ ↦ True) [])
    (hok : ∀ history l db, ok' history l db →
      ok (history.seen EventsDb.invitationView) l db.invitationView) :
    (invitations call).Heeds (fun db ↦ Appointed E W A db.invitationView) ok' (fun _ _ _ ↦ True)
      (fun _ _ ↦ True) [] := by
  refine ((Call.heeds_focus (fun db accounts hdb haccounts ↦ ?_) h).weaken hok
    fun _ _ _ _ ↦ trivial).mono fun _ _ _ ↦ trivial
  show { accounts with events := db.invitationView.events } = accounts
  rw [hdb.events, ← haccounts.events]

/-- In a run that ends with the given calls, organizers are appointed rightfully. -/
theorem runs_appointed {E : Table Auth.Event} {calls : List AppointmentTask} (op : AppointmentOp) :
    (op.runs rt).Heeds
      (fun db ↦ Appointed E (Invited calls) (Originates rt calls) db.invitationView)
      (InRun rt calls op) (fun _ _ _ ↦ True) (fun _ _ ↦ True) [] := by
  cases op with
  | assignOrganizer eventId currentUserId userRoles dto client =>
    refine Call.heeds_map (((Call.heeds_guarded assignOrganizer_appoints).weaken ?_
      fun _ _ _ h ↦ h).mono fun _ _ _ ↦ trivial)
    intro history label db hok hlabel
    obtain ⟨hentitled, hguest⟩ := hok.1 hlabel
    refine ⟨hguest, ?_⟩
    rintro o rfl huser rfl
    obtain ⟨t, ht, hop, ⟨event, hevent, rfl⟩, -⟩ := hok.request
    exact .inl ⟨t, ht, userRoles, dto, client, hop, huser.symm, event, hevent, hentitled⟩
  | removeOrganizer eventId currentUserId userRoles targetUserId client =>
    have hkept : (EventsService.removeOrganizer eventId currentUserId userRoles targetUserId
        client).Heeds (fun db ↦ Appointed E (Invited calls) (Originates rt calls) db.invitationView)
        (fun _ _ _ ↦ True) (fun _ _ _ ↦ True) (fun _ _ ↦ True) [] :=
      Call.heeds_guarded removeOrganizer_appoints
    exact Call.heeds_map ((hkept.weaken (fun _ _ _ _ ↦ trivial) fun _ _ _ h ↦ h).mono
      fun _ _ _ ↦ trivial)
  | createInvitation eventId ownerUserId ownerRoles dto client =>
    refine Call.heeds_map (invitations_heeds (fun _ label db ↦
      "ADMIN" ∈ ownerRoles ∨ (∃ event ∈ db.events.get? eventId, event.ownerId = ownerUserId) →
        Invited calls eventId ownerUserId) (createInvitation_heeds fun db hdb hok h ↦ ?_) ?_)
    · rw [← hdb.events] at h
      exact hok h
    · intro history label db hok h
      obtain ⟨t, ht, hop, ⟨event, hevent, rfl⟩, -⟩ := hok.request
      exact ⟨t, ht, ownerRoles, dto, client, hop, event, hevent, entitled_of_seen h⟩
  | revokeInvitation invitationId userId userRoles client =>
    exact Call.heeds_map (invitations_heeds (fun _ _ _ ↦ True)
      (heeds_keeps revokeInvitation_keeps) fun _ _ _ _ ↦ trivial)
  | acceptInvitation dto client =>
    refine Call.heeds_map (invitations_heeds (fun history label db ↦
      (label = "user.findFirst" → ∀ db₀ ∈ history.first, ∀ i ∈ invitationOf rt dto db₀,
        ∀ user ∈ db.account i.email, ¬(user.status = .deactivated ∨ user.status = .suspended) →
          NotOwner db.events i.eventId user.id) ∧
      ∀ db₀ ∈ history.first, ∀ i ∈ invitationOf rt dto db₀, Invited calls i.eventId i.eventOwnerId →
        ∀ o : EventOrganizer, o.eventId = i.eventId → o.assignedBy = i.eventOwnerId →
          Originates rt calls o)
      (acceptInvitation_appoints (fun history db db₀ hdb hok hdb₀ ↦ ?_) fun history db db₀ hok ↦
        hok.2 db₀) ?_)
    · rw [← hdb.events]
      exact hok.1 rfl db₀ hdb₀
    · intro history label db hok
      constructor
      · intro hlabel db₀ hdb₀ i hi user huser hstatus
        rw [history_seen_first] at hdb₀
        obtain ⟨db₁, hdb₁, rfl⟩ := Option.map_eq_some_iff.mp hdb₀
        exact guest_iff.mp (hok.1 hlabel db₁ hdb₁ i hi user huser hstatus)
      · intro db₀ hdb₀ i hi hinvited o hevent howner
        rw [history_seen_first] at hdb₀
        obtain ⟨db₁, hdb₁, rfl⟩ := Option.map_eq_some_iff.mp hdb₀
        obtain ⟨t, ht, hop, -, hfirst⟩ := hok.request
        exact .inr ⟨i, hevent.symm, howner.symm,
          ⟨t, ht, dto, client, hop, db₁, hfirst db₁ hdb₁, hi⟩, hinvited⟩

/-- If nobody assigns an organizer without being entitled to it, and nobody makes the owner one,
every organizer goes back to the owner of the event or to an administrator. -/
theorem organizers_originate (rt : Runtime) {p : Pool EventsDb AppointmentTask}
    (h : Reach (appointments rt).Step (Heeding (AppointmentOp.Rightful rt)) NobodyAppointed p) :
    ∀ o ∈ p.shared.accounts.eventOrganizers.rows,
      Originates rt p.threads o ∧ Guest o.eventId o.userId p.shared := by
  obtain ⟨p₀, hp₀, hreach⟩ := h.traced.origin
  have hfirst : Appointed p₀.shared.invitationView.events (Invited p.threads)
      (Originates rt p.threads) p₀.shared.invitationView := by
    refine ⟨rfl, fun e he ↦ ?_, fun i hi ↦ ?_, fun o ho ↦ ?_⟩
    · obtain ⟨event, hevent, rfl⟩ := List.mem_map.mp he
      exact hp₀.owners event hevent
    · have hi : i ∈ p₀.shared.accounts.organizerInvitations.rows := hi
      rw [hp₀.invitations] at hi
      cases hi
    · have ho : o ∈ p₀.shared.accounts.eventOrganizers.rows := ho
      rw [hp₀.organizers] at ho
      cases ho
  have happointed := (heedful_reach (I := fun _ ↦ True)
    (runs_appointed (E := p₀.shared.invitationView.events)) (fun q hq ↦ ⟨⟨?_, ?_⟩, trivial⟩)
    (fun _ _ _ _ _ _ ↦ trivial) hreach).1.shared
  · intro o ho
    obtain ⟨horiginates, hnot⟩ := happointed.organizers o ho
    rw [← happointed.events] at hnot
    exact ⟨horiginates, guest_iff.mpr hnot⟩
  · rw [hq]
    exact hfirst
  · rw [hq, hp₀.threads]
    nofun

end Runs

section Decisions

instance (eventId userId : String) (db : EventsDb) : Decidable (Guest eventId userId db) :=
  inferInstanceAs (Decidable (∀ event ∈ db.events.get? eventId, userId ≠ event.ownerId))

instance (rt : Runtime) (op : AppointmentOp) (history : History String EventsDb) (label : String)
    (db : EventsDb) : Decidable (op.Rightful rt history label db) :=
  match op with
  | .assignOrganizer .. => inferInstanceAs (Decidable (_ → _ ∧ _))
  | .acceptInvitation dto _ => inferInstanceAs (Decidable (_ → ∀ db₀ ∈ history.first,
      ∀ i ∈ invitationOf rt dto db₀.invitationView, ∀ user ∈ db.accounts.account i.email,
        ¬(user.status = .deactivated ∨ user.status = .suspended) → Guest i.eventId user.id db))
  | .removeOrganizer .. => inferInstanceAs (Decidable True)
  | .createInvitation .. => inferInstanceAs (Decidable True)
  | .revokeInvitation .. => inferInstanceAs (Decidable True)

end Decisions

section Sample

/-- Two organizers have accounts, and so has the owner, who may also help out elsewhere. -/
def appointmentDb : EventsDb :=
  { sampleDb with
    accounts := { AuthDb.empty with
      roles := .singleton ⟨"role-1", "ORGANIZER", []⟩
      users := (Table.store [{ attendee with userRoles := ["ORGANIZER"] },
        { attendee with
          id := "user-2"
          email := "second@example.com"
          userRoles := ["ORGANIZER"] },
        { attendee with
          id := "owner-1"
          email := "owner@example.com"
          userRoles := ["EVENT_OWNER", "ORGANIZER"] }]).toOption.getD .empty } }

theorem appointmentDb_nobody : NobodyAppointed ⟨appointmentDb, []⟩ := by
  refine ⟨rfl, rfl, rfl, ?_⟩
  show ∀ event ∈ appointmentDb.events.rows, appointmentDb.accounts.users.has event.ownerId = true
  decide +kernel

/-- The assignment of a user to the event. -/
def assignment (currentUserId : String) (userRoles : List String) (userId : String) :
    AppointmentOp :=
  .assignOrganizer "event-1" currentUserId userRoles ⟨userId⟩ nobody

def organizersOf (p : Pool EventsDb AppointmentTask) : List (String × String × String) :=
  p.shared.accounts.eventOrganizers.rows.map fun o ↦ (o.eventId, o.userId, o.assignedBy)

/-- The owner assigns one organizer and invites the other one, who accepts. -/
theorem appointed_by_owner : ∃ p : Pool EventsDb AppointmentTask,
    organizersOf p = [("event-1", "user-1", "owner-1"), ("event-1", "user-2", "owner-1")] ∧
      ∀ o ∈ p.shared.accounts.eventOrganizers.rows,
        Originates sampleRuntime p.threads o ∧ Guest o.eventId o.userId p.shared := by
  have hrun : ((appointments sampleRuntime).play (meets (AppointmentOp.Rightful sampleRuntime))
      ((List.range 4).map (fun m ↦ (0, sampleEnv 1 s!"0:{m}")) ++
        (List.range 4).map (fun m ↦ (1, sampleEnv 1 s!"1:{m}")) ++
        (List.range 11).map fun m ↦ (2, sampleEnv 1 s!"2:{m}"))
      ⟨appointmentDb, [assignment "owner-1" ["EVENT_OWNER"] "user-1",
        .createInvitation "event-1" "owner-1" ["EVENT_OWNER"] ⟨"second@example.com", none⟩ nobody,
        .acceptInvitation ⟨"refresh-1:2", none, none, none, none⟩ nobody].map
          fun op ↦ ⟨op, [], op.runs sampleRuntime⟩⟩).any (fun p ↦ organizersOf p ==
            [("event-1", "user-1", "owner-1"), ("event-1", "user-2", "owner-1")]) = true := by
    decide +kernel
  obtain ⟨p, hp, htest⟩ := (Option.any_eq_true ..).mp hrun
  have hreach := reach_tasks (fun _ _ _ h ↦ meets_sound h) appointmentDb_nobody hp
  exact ⟨p, beq_iff_eq.mp htest, organizers_originate sampleRuntime hreach⟩

/-- The call does not assign organizers in the name of the first user as somebody entitled to. -/
def assignsUnentitled (t : AppointmentTask) : Bool :=
  match t.op with
  | .assignOrganizer eventId currentUserId userRoles _ _ => currentUserId != "user-1" ||
    t.history.all fun event ↦ !decide (Entitled eventId currentUserId userRoles event.2.1)
  | _ => false

theorem assignsUnentitled_sound {calls : List AppointmentTask} {o : EventOrganizer}
    (h : calls.all assignsUnentitled = true) (ho : o.assignedBy = "user-1") :
    ¬Originates sampleRuntime calls o := by
  have hcall : ∀ t ∈ calls, assignsUnentitled t = true := List.all_eq_true.mp h
  rintro (⟨t, ht, userRoles, dto, client, hop, -, event, hevent, hentitled⟩ |
    ⟨i, -, -, ⟨t, ht, dto, client, hop, -⟩, -⟩)
  · have hcall := hcall t ht
    rw [assignsUnentitled, hop] at hcall
    dsimp only at hcall
    rw [ho, bne_self_eq_false, Bool.false_or, List.all_eq_true] at hcall
    have hnot := hcall event hevent
    rw [ho] at hentitled
    simp [hentitled] at hnot
  · have hcall := hcall t ht
    rw [assignsUnentitled, hop] at hcall
    cases hcall

/-- An organizer that the owner has assigned assigns another one, and then the owner. -/
theorem appointed_by_organizer : ∃ p : Pool EventsDb AppointmentTask,
    Reach (appointments sampleRuntime).Step (Heeding fun _ _ _ _ ↦ True) NobodyAppointed p ∧
      (∃ o ∈ p.shared.accounts.eventOrganizers.rows, ¬Originates sampleRuntime p.threads o) ∧
      ∃ o ∈ p.shared.accounts.eventOrganizers.rows, ¬Guest o.eventId o.userId p.shared := by
  have hrun : ((appointments sampleRuntime).play (fun _ _ _ ↦ true)
      ((List.range 4).map (fun m ↦ (0, sampleEnv 1 s!"0:{m}")) ++
        (List.range 5).map (fun m ↦ (1, sampleEnv 1 s!"1:{m}")) ++
        (List.range 5).map fun m ↦ (2, sampleEnv 1 s!"2:{m}"))
      ⟨appointmentDb, [assignment "owner-1" ["EVENT_OWNER"] "user-1",
        assignment "user-1" ["ORGANIZER"] "user-2",
        assignment "user-1" ["ORGANIZER"] "owner-1"].map
          fun op ↦ ⟨op, [], op.runs sampleRuntime⟩⟩).any (fun p ↦
            p.threads.all assignsUnentitled &&
              (p.shared.accounts.eventOrganizers.rows.any fun o ↦ o.assignedBy == "user-1") &&
              p.shared.accounts.eventOrganizers.rows.any fun o ↦
                !decide (Guest o.eventId o.userId p.shared)) = true := by
    decide +kernel
  obtain ⟨p, hp, htest⟩ := (Option.any_eq_true ..).mp hrun
  simp only [Bool.and_eq_true, List.any_eq_true, beq_iff_eq, Bool.not_eq_true',
    decide_eq_false_iff_not] at htest
  obtain ⟨⟨hcalls, o, ho, hby⟩, hguest⟩ := htest
  exact ⟨p, reach_tasks (fun _ _ _ _ _ _ _ _ ↦ trivial) appointmentDb_nobody hp,
    ⟨o, ho, assignsUnentitled_sound hcalls hby⟩, hguest⟩

end Sample

end Innovents.Events
