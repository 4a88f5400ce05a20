import Innovents.Auth.InvitationAtomicity
import Innovents.Lib.Histories

namespace Innovents.Auth

open Innovents.Lib Innovents.Payments TokenService AuthService OrganizerInvitationsService

inductive InvitationOp
  | createInvitation (eventId ownerUserId : String) (ownerRoles : List String)
    (dto : CreateInvitationDto) (client : Client)
  | revokeInvitation (invitationId userId : String) (userRoles : List String) (client : Client)
  | acceptInvitation (dto : AcceptInvitationDto) (client : Client)

def InvitationOp.runs (rt : Runtime) :
    InvitationOp → AuthCall (Option AcceptedInvitationResponseDto)
  | createInvitation eventId ownerUserId ownerRoles dto client => do
    let _ ← OrganizerInvitationsService.createInvitation rt eventId ownerUserId ownerRoles dto client
    return none
  | revokeInvitation invitationId userId userRoles client => do
    let _ ← OrganizerInvitationsService.revokeInvitation invitationId userId userRoles client
    return none
  | acceptInvitation dto client => do
    let response ← OrganizerInvitationsService.acceptInvitation rt dto client
    return some response

abbrev InvitationTask := Task InvitationOp String AuthEnv AuthDb AuthError
  (Option AcceptedInvitationResponseDto)

abbrev AuthHistory := History String AuthDb

def statusOf (k : String) (db : AuthDb) : Option InvitationStatus :=
  (db.organizerInvitations.get? k).map OrganizerInvitation.status

section Claim

variable (rt : Runtime) (k : String)

/-- The invitation of the token is `k`. -/
def Finds (dto : AcceptInvitationDto) (db : AuthDb) : Prop :=
  ∃ i, invitationOf rt dto db = some i ∧ i.id = k

/-- An acceptance commits while the invitation is as its first statement has found it, and a
revocation is stored for an invitation that has not been accepted since it was found. -/
def Current : InvitationOp → AuthHistory → String → AuthDb → Prop
  | .acceptInvitation dto _, history, label, db => label = "commit" →
    ∀ db₀ ∈ history.first, Finds rt k dto db₀ → statusOf k db = statusOf k db₀
  | .revokeInvitation invitationId .., history, label, db =>
    label = "organizerInvitation.update" → invitationId = k → statusOf k db = some .accepted →
      ∀ db₀ ∈ history.first, statusOf k db₀ = some .accepted
  | _, _, _, _ => True

/-- The task is an acceptance of the invitation `k`, and it has succeeded. -/
def succeeds (t : InvitationTask) : Bool :=
  match t.op, t.call with
  | .acceptInvitation dto _, .returned (.ok _) =>
    t.history.first.any fun db ↦ (invitationOf rt dto db).any fun i ↦ i.id == k
  | _, _ => false

/-- Used and revoked invitations stay so. -/
structure Absorbs (db db' : AuthDb) : Prop where
  accepted : statusOf k db = some .accepted → statusOf k db' = some .accepted
  revoked : statusOf k db = some .revoked → statusOf k db' = some .revoked

/-- What a call knows that has returned: an acceptance has found the invitation open until it
committed. -/
def Concludes : InvitationOp → AuthHistory → Option AcceptedInvitationResponseDto → Prop
  | .acceptInvitation dto _, history, _ => (∃ db₀ ∈ history.first, Finds rt k dto db₀) →
    ∃ db db', history.getLast? = some ("commit", db, db') ∧ statusOf k db = some .pending ∧
      statusOf k db' = some .accepted
  | _, _, _ => True

end Claim

section Statuses

variable {k id : String} {db db' : AuthDb}

theorem Absorbs.of_eq (h : statusOf k db' = statusOf k db) : Absorbs k db db' := by
  constructor
  · rw [h]
    exact fun h ↦ h
  · rw [h]
    exact fun h ↦ h

theorem statusOf_congr (h : db'.organizerInvitations = db.organizerInvitations) :
    statusOf k db' = statusOf k db := by
  rw [statusOf, h, statusOf]

theorem statusOf_update {t : Table OrganizerInvitation} {f : OrganizerInvitation → OrganizerInvitation}
    {status : InvitationStatus} (ht : db.organizerInvitations.update id f = .ok t)
    (hid : ∀ i, (f i).id = i.id) (hstatus : ∀ i, (f i).status = status) :
    statusOf k { db with organizerInvitations := t } =
      if k = id then some status else statusOf k db := by
  obtain ⟨⟨i, hi, hkey⟩, -⟩ := Table.update_eq_ok.mp ht
  have hget : db.organizerInvitations.get? id = some i := Table.get?_eq_some.mpr ⟨hi, hkey⟩
  rw [statusOf, Table.get?_update ht hid]
  split_ifs
  · rw [hget, Option.map_some, Option.map_some, hstatus]
  · rfl

/-- The new invitations of an event revoke those that are pending. -/
theorem absorbs_updateMany {t : Table OrganizerInvitation} {p : OrganizerInvitation → Bool}
    {f : OrganizerInvitation → OrganizerInvitation}
    (ht : db.organizerInvitations.updateMany p f = .ok t) (hid : ∀ i, (f i).id = i.id)
    (hp : ∀ i, p i = true → i.status = .pending) :
    Absorbs k db { db with organizerInvitations := t } := by
  have hstatus : statusOf k { db with organizerInvitations := t } =
      (db.organizerInvitations.get? k).map fun i ↦ (if p i then f i else i).status := by
    rw [statusOf, Table.get?_updateMany ht hid, Option.map_map]
    rfl
  have hkept : ∀ status, status ≠ .pending → statusOf k db = some status →
      statusOf k { db with organizerInvitations := t } = some status := by
    intro status hne h
    obtain ⟨i, hi, rfl⟩ := Option.map_eq_some_iff.mp h
    rw [hstatus, hi, Option.map_some, if_neg fun hpi ↦ hne (hp i hpi)]
  exact ⟨hkept _ (by decide), hkept _ (by decide)⟩

theorem absorbs_create {t : Table OrganizerInvitation} {i : OrganizerInvitation}
    (ht : db.organizerInvitations.create i = .ok t) {db' : AuthDb}
    (hdb' : db'.organizerInvitations = t) : Absorbs k db db' := by
  have hkept : ∀ status, statusOf k db = some status → statusOf k db' = some status := by
    intro status h
    obtain ⟨i, hi, rfl⟩ := Option.map_eq_some_iff.mp h
    rw [statusOf, hdb', (Table.get?_create_taken hi ht).2, Option.map_some]
  exact ⟨hkept _, hkept _⟩

end Statuses

section Calls

variable {α : Type} {rt : Runtime} {k : String} {client : Client} {event : Event}
  {invitation : OrganizerInvitation}

/-- The requests change no invitation. -/
def SameInvitations (_ : String) (db db' : AuthDb) : Prop :=
  db'.organizerInvitations = db.organizerInvitations

theorem SameInvitations.absorbs {label : String} {db db' : AuthDb}
    (h : SameInvitations label db db') : Absorbs k db db' := .of_eq (statusOf_congr h)

theorem heeds_same {c : AuthCall α} {met : AuthHistory → String → AuthDb → Prop}
    {history : AuthHistory} (h : c.Each SameInvitations) :
    c.Heeds (fun _ ↦ True) met (fun _ ↦ Absorbs k) (fun _ _ ↦ True) history :=
  Call.heeds_each h (fun _ _ _ _ _ ↦ trivial) fun _ _ _ _ h ↦ h.absorbs

theorem assertCanInviteOrganizer_same {userId eventId : String} {userRoles : List String} :
    (assertCanInviteOrganizer userId userRoles eventId).Each SameInvitations := by
  refine Call.each_bind (each_finds fun _ ↦ rfl) fun event ↦ ?_
  cases event with
  | none => trivial
  | some event =>
    dsimp only
    split_ifs <;> trivial

theorem createInvitation_absorbs {eventId ownerUserId : String} {ownerRoles : List String}
    {dto : CreateInvitationDto} :
    (createInvitation rt eventId ownerUserId ownerRoles dto client).Each
      fun _ db db' ↦ Absorbs k db db' := by
  refine Call.each_bind (assertCanInviteOrganizer_same.mono fun _ _ _ h ↦ h.absorbs) fun event ↦ ?_
  refine Call.each_bind (each_stores (fun _ ↦ .of_eq rfl) fun env db db' a hs ↦ ?_) fun _ ↦ ?_
  · obtain ⟨t, ht, hs⟩ := andThen_eq_ok.mp hs
    cases hs
    refine absorbs_updateMany (ofRefusal_eq_ok.mp ht) (fun _ ↦ rfl) fun i hi ↦ ?_
    rw [Bool.and_eq_true, beq_iff_eq] at hi
    exact hi.2
  refine Call.each_bind (each_stores (fun _ ↦ .of_eq rfl) fun env db db' a hs ↦ ?_) fun created ↦
    Call.each_bind (each_log fun _ _ ↦ .of_eq rfl) fun _ ↦ trivial
  obtain ⟨t, ht, hs⟩ := andThen_eq_ok.mp hs
  obtain ⟨db₁, hwritten, hs⟩ := andThen_eq_ok.mp hs
  obtain ⟨events, -, hwritten⟩ := andThen_eq_ok.mp hwritten
  cases hwritten
  cases hs
  exact absorbs_create (ofRefusal_eq_ok.mp ht) rfl

theorem revokeInvitation_heeds {invitationId userId : String} {userRoles : List String} :
    (revokeInvitation invitationId userId userRoles client).Heeds (fun _ ↦ True)
      (Current rt k (.revokeInvitation invitationId userId userRoles client))
      (fun _ ↦ Absorbs k) (fun _ _ ↦ True) [] := by
  refine Call.heeds_bind (heeds_finds (fun _ ↦ .of_eq rfl) fun env db _ _ ↦ ?_)
  cases hfound : db.organizerInvitations.get? invitationId with
  | none => trivial
  | some invitation =>
    refine Call.heeds_bind
      ((heeds_same assertCanInviteOrganizer_same).grows.mono fun history event ⟨hearlier, _⟩ ↦ ?_)
    split_ifs with hrevoked haccepted
    · trivial
    · trivial
    · refine Call.heeds_bind (heeds_stores (fun _ ↦ .of_eq rfl) fun env db₁ db₂ a _ hcurrent hs ↦ ?_)
      obtain ⟨t, ht, hs⟩ := andThen_eq_ok.mp hs
      have hstatus := statusOf_update (k := k) (ofRefusal_eq_ok.mp ht) (fun _ ↦ rfl) fun _ ↦ rfl
      have hdb₂ : db₂ = { db₁ with organizerInvitations := t } := by
        split at hs
        · cases hs
          rfl
        · cases hs
      rw [← hdb₂] at hstatus
      refine ⟨trivial, ⟨fun hbefore ↦ ?_, fun hbefore ↦ ?_⟩, Call.heeds_bind ?_⟩
      · -- the invitation was found open, so it is another one that has been accepted
        rw [hstatus]
        split_ifs with hk
        · have hfound' := hcurrent rfl hk.symm hbefore db (History.first_of_prefix hearlier)
          rw [statusOf, hk, hfound, Option.map_some, Option.some.injEq] at hfound'
          exact absurd hfound' haccepted
        · exact hbefore
      · rw [hstatus]
        split_ifs
        · rfl
        · exact hbefore
      · exact (heeds_same (each_log fun _ _ ↦ rfl)).mono fun _ _ _ ↦ trivial

section Acceptance

variable {met : AuthHistory → String → AuthDb → Prop} {history : AuthHistory}
  {tx : Pending AuthDb AuthError} {P Q : AuthDb → AuthDb → Prop}

/-- The invitation `id` is accepted, and no other one changes its status. -/
def Accepts (id : String) (db db' : AuthDb) : Prop :=
  ∀ k, statusOf k db' = if k = id then some .accepted else statusOf k db

/-- A statement of a transaction, which returns what it has found. -/
theorem heeds_statement {J : AuthDb → Prop} {G : String → AuthDb → AuthDb → Prop} {name : String}
    {f : AuthEnv → AuthDb → Except AuthError (AuthDb × α)}
    {post : AuthHistory → Pending AuthDb AuthError × α → Prop} (hG : ∀ db, G name db db)
    (htx : tx.Changes P)
    (hf : ∀ env view view' a, f env view = .ok (view', a) → ∀ db, P db view → Q db view')
    (h : ∀ env db view view' a, J db → met history name db → tx db = .ok view →
      f env view = .ok (view', a) → ∀ tx', tx'.Changes Q →
        post (history ++ [(name, db, db)]) (tx', a)) :
    (inTx name tx f).Heeds J met G post history := by
  refine Call.heeds_ask hG fun env db q hdb hmet hs ↦ ?_
  obtain ⟨view, hview, hs⟩ := andThen_eq_ok.mp hs
  obtain ⟨⟨view', a⟩, hfound, hs⟩ := andThen_eq_ok.mp hs
  cases hs
  dsimp only at hfound
  have hfaultless : env.fault = none := by
    cases hfault : env.fault with
    | some message => simp [hfault] at hfound
    | none => rfl
  rw [hfaultless] at hfound
  refine h env db view view' a hdb hmet hview hfound _ fun s s' hs ↦ ?_
  obtain ⟨view, a, hview, hs⟩ := Pending.andThen_eq_ok.mp hs
  dsimp only at hs
  rw [hfaultless] at hs
  exact hf env view s' a hs s (htx s view hview)

theorem heeds_inTx {name : String} {f : AuthEnv → AuthDb → Except AuthError (AuthDb × α)}
    {post : AuthHistory → Pending AuthDb AuthError × α → Prop} (htx : tx.Changes P)
    (hf : ∀ env view view' a, f env view = .ok (view', a) → ∀ db, P db view → Q db view')
    (h : ∀ tx a history, tx.Changes Q → post history (tx, a)) :
    (inTx name tx f).Heeds (fun _ ↦ True) met (fun _ ↦ Absorbs k) post history :=
  heeds_statement (fun _ ↦ .of_eq rfl) htx hf fun _ _ _ _ a _ _ _ _ tx htx ↦ h tx a _ htx

theorem organizerAccount_heeds {dto : AcceptInvitationDto} {role : Role} :
    (organizerAccount rt .ok invitation dto role).Heeds (fun _ ↦ True) met (fun _ ↦ Absorbs k)
      (fun _ q ↦ q.1.Changes (SameInvitations "")) history := by
  have hok : Pending.Changes (SameInvitations "") (.ok : Pending AuthDb AuthError) := by
    intro s s' hs
    cases hs
    rfl
  refine Call.heeds_bind (heeds_finds (fun _ ↦ .of_eq rfl) fun env db _ _ ↦ ?_)
  cases db.account invitation.email with
  | some user =>
    dsimp only
    split_ifs
    · trivial
    · refine Call.heeds_bind ?_
      unfold addRole
      split_ifs
      · exact hok
      · refine Call.heeds_bind (heeds_inTx hok (fun env view view' a hs db hview ↦ ?_)
          fun tx _ _ htx ↦ htx)
        obtain ⟨t, -, hs⟩ := andThen_eq_ok.mp hs
        cases hs
        exact hview
  | none =>
    cases dto.password.filter (· ≠ "") with
    | none => trivial
    | some password =>
      refine heeds_inTx hok (fun env view view' a hs db hview ↦ ?_) fun tx _ _ htx ↦ htx
      obtain ⟨users, -, hs⟩ := andThen_eq_ok.mp hs
      obtain ⟨profiles, -, hs⟩ := andThen_eq_ok.mp hs
      cases hs
      exact hview

theorem markAccepted_heeds {userId : String} (htx : tx.Changes (SameInvitations "")) :
    (markAccepted tx invitation event userId).Heeds (fun _ ↦ True) met (fun _ ↦ Absorbs k)
      (fun _ tx ↦ tx.Changes (Accepts invitation.id)) history := by
  refine Call.heeds_bind (heeds_inTx (Q := SameInvitations "") htx
    (fun env view view' a hs db hview ↦ ?_) fun tx _ _ htx ↦ Call.heeds_bind
      (heeds_inTx (Q := Accepts invitation.id) htx (fun env view view' a hs db hview ↦ ?_)
        fun tx _ _ htx ↦ Call.heeds_bind (heeds_inTx (Q := Accepts invitation.id) htx
          (fun env view view' a hs db hview ↦ ?_) fun tx _ _ htx ↦ htx)))
  · split_ifs at hs
    · cases hs
      exact hview
    · obtain ⟨t, -, hs⟩ := andThen_eq_ok.mp hs
      cases hs
      exact hview
  · obtain ⟨t, ht, hs⟩ := andThen_eq_ok.mp hs
    cases hs
    intro k
    rw [statusOf_update (ofRefusal_eq_ok.mp ht) (fun _ ↦ rfl) fun _ ↦ rfl, statusOf_congr hview]
  · obtain ⟨db₁, hwritten, hs⟩ := andThen_eq_ok.mp hs
    obtain ⟨t, -, hwritten⟩ := andThen_eq_ok.mp hwritten
    cases hwritten
    cases hs
    exact hview

theorem issueTokens_same {userId : String} :
    (issueTokens rt tx userId).Each SameInvitations := by
  refine Call.each_bind (Call.each_ask fun _ ↦ rfl) fun ⟨_, found⟩ ↦ ?_
  cases found with
  | none => trivial
  | some found =>
    refine Call.each_bind (each_stores (fun _ ↦ rfl) fun env db db' a hs ↦ ?_) fun _ ↦ trivial
    split_ifs at hs
    obtain ⟨t, -, hs⟩ := andThen_eq_ok.mp hs
    cases hs
    rfl

theorem prepareAcceptance_heeds {dto : AcceptInvitationDto} :
    (prepareAcceptance rt dto client invitation).Heeds (fun _ ↦ True) met (fun _ ↦ Absorbs k)
      (fun _ q ↦ q.1.Changes (Accepts invitation.id)) history := by
  refine Call.heeds_bind (heeds_finds (fun _ ↦ .of_eq rfl) fun env db _ _ ↦ ?_)
  cases db.events.find? fun e ↦ e.id == invitation.eventId && e.deletedAt.isNone with
  | none => trivial
  | some event =>
    refine Call.heeds_bind (heeds_finds (fun _ ↦ .of_eq rfl) fun env db _ _ ↦ ?_)
    cases db.role "ORGANIZER" with
    | none => trivial
    | some role =>
      refine Call.heeds_bind (organizerAccount_heeds.mono fun _ q htx ↦ ?_)
      refine Call.heeds_bind ((markAccepted_heeds htx).mono fun _ tx htx ↦ ?_)
      refine Call.heeds_bind ((heeds_same (each_log fun _ _ ↦ rfl)).mono fun _ _ _ ↦ ?_)
      exact Call.heeds_bind ((heeds_same issueTokens_same).mono fun _ _ _ ↦ htx)

/-- An acceptance succeeds for the invitation that it has found open, if that is still so. -/
theorem acceptInvitation_heeds {dto : AcceptInvitationDto} :
    (acceptInvitation rt dto client).Heeds (fun _ ↦ True)
      (Current rt k (.acceptInvitation dto client)) (fun _ ↦ Absorbs k)
      (fun history response ↦ Concludes rt k (.acceptInvitation dto client) history (some response))
      [] := by
  refine Call.heeds_bind (heeds_finds (fun _ ↦ .of_eq rfl) fun env db _ _ ↦ ?_)
  cases hfound : invitationOf rt dto db with
  | none =>
    unfold invitationOf at hfound
    rw [hfound]
    trivial
  | some invitation =>
    have hfinds : db.organizerInvitations.find? (·.tokenHash == rt.sha256 (rt.trim dto.token)) =
      some invitation := hfound
    rw [hfinds]
    dsimp only
    split_ifs with hrevoked haccepted hexpired
    · trivial
    · trivial
    · exact Call.heeds_bind (Call.heeds_ask (fun _ ↦ .of_eq rfl) fun _ _ _ _ _ _ ↦ trivial)
    · rw [acceptOpen_eq]
      refine Call.heeds_bind (prepareAcceptance_heeds.grows.mono fun history q ⟨hearlier, htx⟩ ↦ ?_)
      refine Call.heeds_bind (Call.heeds_perform (fun _ ↦ .of_eq rfl) fun env db₁ db₂ a _ hcurrent hs ↦ ?_)
      obtain ⟨⟨⟩, -, hs⟩ := andThen_eq_ok.mp hs
      obtain ⟨db₂', hcommit, hs⟩ := andThen_eq_ok.mp hs
      cases hs
      have hstatus := htx db₁ _ hcommit k
      have hfirst := History.first_of_prefix hearlier
      have hpending : k = invitation.id → statusOf k db₁ = some .pending := by
        intro hk
        have hget : db.organizerInvitations.get? k = some invitation :=
          Table.get?_eq_some.mpr ⟨(Table.find?_mem hfound).1, hk.symm⟩
        rw [hcurrent rfl db hfirst ⟨invitation, hfound, hk.symm⟩, statusOf, hget, Option.map_some,
          Option.some.injEq]
        cases hs : invitation.status with
        | pending => rfl
        | accepted => exact absurd hs haccepted
        | revoked => exact absurd hs hrevoked
        | expired => exact absurd (.inl hs) hexpired
      refine ⟨trivial, ?_, fun ⟨db₀, hdb₀, i, hi, hid⟩ ↦ ?_⟩
      · by_cases hk : k = invitation.id
        · constructor
          · intro hbefore
            rw [hpending hk] at hbefore
            cases hbefore
          · intro hbefore
            rw [hpending hk] at hbefore
            cases hbefore
        · rw [if_neg hk] at hstatus
          exact .of_eq hstatus
      · have hlater : History.first (history ++ [("commit", db₁, db₂)]) = some db :=
          History.first_of_prefix (hearlier.trans (List.prefix_append _ _))
        rw [hlater] at hdb₀
        cases hdb₀
        rw [hfound, Option.some.injEq] at hi
        have hk : k = invitation.id := hi ▸ hid.symm
        rw [if_pos hk] at hstatus
        exact ⟨db₁, db₂, List.getLast?_append .., hpending hk, hstatus⟩

end Acceptance

/-- What each of the three calls does to the invitation `k`. -/
theorem runs_heeds (op : InvitationOp) : (op.runs rt).Heeds (fun _ ↦ True) (Current rt k op)
    (fun _ ↦ Absorbs k) (Concludes rt k op) [] := by
  cases op with
  | createInvitation eventId ownerUserId ownerRoles dto client =>
    refine Call.heeds_bind ((Call.heeds_each createInvitation_absorbs (fun _ _ _ _ _ ↦ trivial)
      fun _ _ _ _ h ↦ h).mono fun _ _ _ ↦ trivial)
  | revokeInvitation invitationId userId userRoles client =>
    exact Call.heeds_bind (revokeInvitation_heeds.mono fun _ _ _ ↦ trivial)
  | acceptInvitation dto client =>
    exact Call.heeds_bind (acceptInvitation_heeds.mono fun _ _ h ↦ h)

end Calls

section Runs

variable {rt : Runtime} {k : String} {p q : Pool AuthDb InvitationTask} {t t' : InvitationTask}

/-- Calls side by side. -/
def invitationCalls (rt : Runtime) : Machine AuthDb InvitationTask AuthEnv :=
  tasks (InvitationOp.runs rt)

abbrev HeedfulCalls (rt : Runtime) (k : String) (p : Pool AuthDb InvitationTask) : Prop :=
  Heedful (fun _ ↦ True) (Current rt k) (fun _ _ ↦ Absorbs k) (Concludes rt k) p

/-- At most one acceptance has succeeded, and then the invitation is accepted. -/
structure AcceptedOnce (rt : Runtime) (k : String) (p : Pool AuthDb InvitationTask) : Prop where
  once : p.threads.countP (succeeds rt k) ≤ 1
  accepted : 0 < p.threads.countP (succeeds rt k) → statusOf k p.shared = some .accepted

theorem succeeds_concludes (h : succeeds rt k t = true)
    (ht : t.call.Heeds (fun _ ↦ True) (Current rt k t.op) (fun _ ↦ Absorbs k) (Concludes rt k t.op)
      t.history) :
    t.call.label? = none ∧ ∃ db db', t.history.getLast? = some ("commit", db, db') ∧
      statusOf k db = some .pending ∧ statusOf k db' = some .accepted := by
  obtain ⟨op, history, call⟩ := t
  unfold succeeds at h
  split at h
  · next dto client response hop hcall =>
    dsimp only at hop hcall ht
    subst hop hcall
    refine ⟨rfl, ht ?_⟩
    obtain ⟨db, hdb, hfinds⟩ := (Option.any_eq_true ..).mp h
    obtain ⟨i, hi, hid⟩ := (Option.any_eq_true ..).mp hfinds
    exact ⟨db, hdb, i, hi, beq_iff_eq.mp hid⟩
  · cases h

theorem AcceptedOnce.moved (h : AcceptedOnce rt k p) (hp : HeedfulCalls rt k p)
    (hq : HeedfulCalls rt k q)
    (hm : Moved (InvitationOp.runs rt) (fun _ _ ↦ Absorbs k) (Current rt k) p q) :
    AcceptedOnce rt k q := by
  cases hm with
  | spawned op hshared hthreads =>
    have hnot : succeeds rt k ⟨op, [], op.runs rt⟩ = false := by
      unfold succeeds
      split
      · rfl
      · rfl
    have hcount : q.threads.countP (succeeds rt k) = p.threads.countP (succeeds rt k) := by
      rw [hthreads, List.countP_append, List.countP_singleton, hnot]
      rfl
    refine ⟨by rw [hcount]; exact h.once, fun hpos ↦ ?_⟩
    rw [hcount] at hpos
    rw [hshared]
    exact h.accepted hpos
  | ran i t t' label hi _ hG hop hhistory hmem hthreads hstep =>
    obtain ⟨env, hstep⟩ := hstep
    have hbefore : succeeds rt k t = false := by
      by_contra hsucceeds
      rw [Bool.not_eq_false] at hsucceeds
      have hdone := (succeeds_concludes hsucceeds (hp.threads t (List.mem_of_getElem? hi))).1
      obtain ⟨r, hr⟩ := Call.exists_returned hdone
      rw [hr] at hstep
      cases hstep
    have hcount := countP_set_add (succeeds rt k) t' hi
    rw [← hthreads, hbefore] at hcount
    cases hafter : succeeds rt k t' with
    | false =>
      rw [hafter] at hcount
      simp only [Bool.false_eq_true, if_false, Nat.add_zero] at hcount
      refine ⟨by rw [hcount]; exact h.once, fun hpos ↦ ?_⟩
      rw [hcount] at hpos
      exact hG.accepted (h.accepted hpos)
    | true =>
      -- the invitation was pending until now, so nobody has accepted it before
      obtain ⟨-, db, db', hlast, hpending, haccepted⟩ := succeeds_concludes hafter (hq.threads t' hmem)
      rw [hhistory, List.getLast?_append, List.getLast?_singleton, Option.some_or, Option.some.injEq,
        Prod.mk.injEq, Prod.mk.injEq] at hlast
      obtain ⟨-, rfl, rfl⟩ := hlast
      rw [hafter] at hcount
      simp only [Bool.false_eq_true, if_false, if_true, Nat.add_zero] at hcount
      have hzero : p.threads.countP (succeeds rt k) = 0 := by
        by_contra hne
        have hstatus := h.accepted (Nat.pos_of_ne_zero hne)
        rw [hpending] at hstatus
        cases hstatus
      exact ⟨by omega, fun _ ↦ haccepted⟩

theorem accepted_once (h : Reach (invitationCalls rt).Step (Heeding (Current rt k))
    (fun p ↦ p.threads = []) p) : HeedfulCalls rt k p ∧ AcceptedOnce rt k p := by
  refine heedful_reach runs_heeds (fun p hp ↦ ⟨⟨trivial, by simp [hp]⟩, ⟨by simp [hp], ?_⟩⟩)
    (fun _ _ hp hq hI hm ↦ hI.moved hp hq hm) h
  simp [hp]

/-- When nobody changes the invitation between the read of a call and its write, at most one
acceptance succeeds for it, and it stays accepted or revoked. -/
theorem invitations_single_use (rt : Runtime) (k : String) {p : Pool AuthDb InvitationTask}
    (h : Reach (invitationCalls rt).Step (Heeding (Current rt k)) (fun p ↦ p.threads = []) p) :
    p.threads.countP (succeeds rt k) ≤ 1 ∧
      ∀ q, Reach (invitationCalls rt).Step (Heeding (Current rt k)) (fun u ↦ u = p) q →
        Absorbs k p.shared q.shared := by
  obtain ⟨hp, hI⟩ := accepted_once h
  refine ⟨hI.once, fun q hq ↦ ?_⟩
  refine (heedful_reach (I := fun q ↦ Absorbs k p.shared q.shared) runs_heeds ?_ ?_ hq).2
  · rintro u rfl
    exact ⟨hp, .of_eq rfl⟩
  · intro u v _ _ hI hm
    cases hm with
    | spawned op hshared hthreads =>
      rw [hshared]
      exact hI
    | ran i t t' label hi _ hG => exact ⟨hG.accepted ∘ hI.accepted, hG.revoked ∘ hI.revoked⟩

end Runs

section Sample

def sampleInvitation : OrganizerInvitation :=
  { newcomerInvitation with email := "attendee@example.com" }

/-- An organizer is invited once more to an event that it is assigned to. -/
def organizerDb : AuthDb :=
  { newcomerDb with
    users := .singleton { attendee with userRoles := ["ORGANIZER"] }
    eventOrganizers := .singleton ⟨"assignment-1", "event-1", "user-1", 0, "owner-1"⟩
    organizerInvitations := .singleton sampleInvitation }

def twoAcceptances : List InvitationTask :=
  List.replicate 2 ⟨.acceptInvitation invitationDto nobody, [],
    InvitationOp.runs sampleRuntime (.acceptInvitation invitationDto nobody)⟩

theorem reach_acceptances {met : InvitationOp → AuthHistory → String → AuthDb → Prop}
    {check : Pool AuthDb InvitationTask → ℕ → AuthEnv → Bool} {moves : List (ℕ × AuthEnv)}
    {p : Pool AuthDb InvitationTask}
    (hcheck : ∀ p i env, check p i env = true → Heeding met p (.run i env))
    (h : (invitationCalls sampleRuntime).play check moves ⟨organizerDb, twoAcceptances⟩ = some p) :
    Reach (invitationCalls sampleRuntime).Step (Heeding met) (fun p ↦ p.threads = []) p := by
  have hstarts : ∀ t ∈ twoAcceptances, (invitationCalls sampleRuntime).start t := by
    intro t ht
    rw [List.eq_of_mem_replicate ht]
    exact ⟨_, rfl⟩
  have hinit : Reach (invitationCalls sampleRuntime).Step (Heeding met) (fun p ↦ p.threads = [])
    ⟨organizerDb, []⟩ := .start rfl
  exact Machine.reach_play hcheck
    (Machine.reach_spawnAll (fun _ _ _ ↦ trivial) hstarts hinit) h

/-- An acceptance that commits finds the invitation as it was. -/
def commitsCurrent (p : Pool AuthDb InvitationTask) (i : ℕ) (_ : AuthEnv) : Bool :=
  p.threads[i]?.all fun t ↦
    match t.op with
    | .acceptInvitation .. => t.call.label? != some "commit" ||
      t.history.first.all fun db₀ ↦ statusOf "invitation-1" p.shared == statusOf "invitation-1" db₀
    | _ => false

theorem commitsCurrent_sound {p : Pool AuthDb InvitationTask} {i : ℕ} {env : AuthEnv}
    (h : commitsCurrent p i env = true) :
    Heeding (Current sampleRuntime "invitation-1") p (.run i env) := by
  intro t label hi hlabel
  rw [commitsCurrent, hi, Option.all_some] at h
  obtain ⟨op, history, call⟩ := t
  cases op with
  | createInvitation => cases h
  | revokeInvitation => cases h
  | acceptInvitation dto client =>
    intro hcommit db₀ hdb₀ _
    dsimp only at h hlabel hdb₀
    rw [hlabel, hcommit, bne_self_eq_false, Bool.false_or, Option.mem_def.mp hdb₀, Option.all_some,
      beq_iff_eq] at h
    exact h

/-- The second acceptance comes after the first one. -/
theorem accepted_in_turn : ∃ p : Pool AuthDb InvitationTask,
    p.threads.any (succeeds sampleRuntime "invitation-1") = true ∧
      p.threads.countP (succeeds sampleRuntime "invitation-1") ≤ 1 := by
  have hrun : ((invitationCalls sampleRuntime).play commitsCurrent
      ((List.range 11).map (fun n ↦ (0, sampleEnv 1 s!"a{n}")) ++ [(1, sampleEnv 1 "b")])
      ⟨organizerDb, twoAcceptances⟩).any
        (fun p ↦ p.threads.any (succeeds sampleRuntime "invitation-1")) = true := by
    decide +kernel
  obtain ⟨p, hp, htest⟩ := (Option.any_eq_true ..).mp hrun
  have hreach := reach_acceptances (fun _ _ _ h ↦ commitsCurrent_sound h) hp
  exact ⟨p, htest, (invitations_single_use sampleRuntime "invitation-1" hreach).1⟩

/-- Both acceptances find the invitation pending. -/
theorem accepted_twice : ∃ p : Pool AuthDb InvitationTask,
    Reach (invitationCalls sampleRuntime).Step (Heeding fun _ _ _ _ ↦ True)
      (fun p ↦ p.threads = []) p ∧ p.threads.countP (succeeds sampleRuntime "invitation-1") = 2 := by
  have hrun : ((invitationCalls sampleRuntime).play (fun _ _ _ ↦ true)
      ((List.range 11).flatMap fun n ↦ [(0, sampleEnv 1 s!"a{n}"), (1, sampleEnv 1 s!"b{n}")])
      ⟨organizerDb, twoAcceptances⟩).any
        (fun p ↦ p.threads.countP (succeeds sampleRuntime "invitation-1") == 2) = true := by
    decide +kernel
  obtain ⟨p, hp, htest⟩ := (Option.any_eq_true ..).mp hrun
  exact ⟨p, reach_acceptances (fun _ _ _ _ _ _ _ _ ↦ trivial) hp, beq_iff_eq.mp htest⟩

end Sample

end Innovents.Auth
