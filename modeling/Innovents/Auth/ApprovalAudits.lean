import Innovents.Auth.AdminApprovalsService
import Innovents.Auth.OrganizerInvitationsService

namespace Innovents.Auth

open Innovents.Lib Innovents.Payments

namespace AdminApprovalsService

/-- The sessions of a user end, if the action says so. -/
def revocation (userId : String) (revokesTokens : Bool) (tx : Pending AuthDb AuthError) :
    AuthCall (Pending AuthDb AuthError) :=
  if revokesTokens then do
    let (tx, _) ← inTx "refreshToken.updateMany" tx fun env db ↦ do
      let refreshTokens ← endSessions userId true env.now db.refreshTokens
      return ({ db with refreshTokens }, ())
    return tx
  else return tx

/-- The account is updated, at the time that the event will have. -/
def updateInTx (userId : String) (f : Time → User → User) :
    AuthCall (Pending AuthDb AuthError × Time) :=
  inTx "user.update" .ok fun env db ↦ do
    let users ← ofRefusal (db.users.update userId (f env.now))
    return ({ db with users }, env.now)

def enqueueInTx (event : CreateOutboxEventParams) (tx : Pending AuthDb AuthError) :
    AuthCall (Pending AuthDb AuthError × Unit) :=
  inTx "outboxEvent.create" tx fun env db ↦ do
    let db ← OutboxService.written event env db
    return (db, ())

/-- The end of the transaction. -/
def completion (event : CreateOutboxEventParams) (tx : Pending AuthDb AuthError) : AuthCall Unit := do
  let (tx, _) ← enqueueInTx event tx
  commitTx tx

/-- The transaction of the four actions statement by statement: others do not see its writes before
it commits, except for the audit entry, which goes through a connection of its own. -/
def inStatements (userId notBusiness : String) (decide : User → Decision) (client : Client) :
    AuthCall ApprovalActionResponseDto := do
  let found ← finds "user.findFirst" fun _ db ↦
    (db.users.get? userId).filter (·.deletedAt.isNone)
  match found with
  | none => throws .notFound "Account not found"
  | some user =>
    if isBusinessAccount user = false then throws .badRequest notBusiness
    else
      match decide user with
      | .refuse message => throws .badRequest message
      | .already message status => do
        commitTx .ok
        return ⟨true, message, status, user.id⟩
      | .act message status f revokesTokens entry event => do
        let (tx, now) ← updateInTx userId f
        let tx ← revocation userId revokesTokens tx
        AuditService.log entry client
        completion (event now) tx
        return ⟨true, message, status, user.id⟩

inductive ApprovalOp
  | approveAccount (userId adminId : String)
  | rejectAccount (userId adminId : String) (reason : Option String)
  | suspendAccount (userId adminId : String) (reason : Option String)
  | reactivateAccount (userId adminId : String)

namespace ApprovalOp

def userId : ApprovalOp → String
  | approveAccount userId _ => userId
  | rejectAccount userId _ _ => userId
  | suspendAccount userId _ _ => userId
  | reactivateAccount userId _ => userId

def adminId : ApprovalOp → String
  | approveAccount _ adminId => adminId
  | rejectAccount _ adminId _ => adminId
  | suspendAccount _ adminId _ => adminId
  | reactivateAccount _ adminId => adminId

def notBusiness : ApprovalOp → String
  | approveAccount .. => "Only business accounts can be approved through this endpoint"
  | rejectAccount .. => "Only business accounts can be rejected through this endpoint"
  | suspendAccount .. => "Only business accounts can be suspended through this endpoint"
  | reactivateAccount .. => "Only business accounts can be reactivated through this endpoint"

def decide (rt : Runtime) : ApprovalOp → User → Decision
  | approveAccount _ adminId => decideApproval adminId
  | rejectAccount _ adminId reason => decideRejection rt reason adminId
  | suspendAccount _ adminId reason => decideSuspension rt reason adminId
  | reactivateAccount _ adminId => decideReactivation adminId

def runs (rt : Runtime) (op : ApprovalOp) (client : Client) : AuthCall ApprovalActionResponseDto :=
  inStatements op.userId op.notBusiness (op.decide rt) client

/-- The call with its transaction as one step. -/
def atOnce (rt : Runtime) : ApprovalOp → Client → AuthCall ApprovalActionResponseDto
  | approveAccount userId adminId => AdminApprovalsService.approveAccount userId adminId
  | rejectAccount userId adminId reason =>
    AdminApprovalsService.rejectAccount rt userId adminId reason
  | suspendAccount userId adminId reason =>
    AdminApprovalsService.suspendAccount rt userId adminId reason
  | reactivateAccount userId adminId => AdminApprovalsService.reactivateAccount userId adminId

/-- The entries of the action. -/
def actions : ApprovalOp → List String
  | approveAccount .. => ["BUSINESS_ACCOUNT_APPROVED"]
  | rejectAccount .. => ["BUSINESS_ACCOUNT_REJECTED"]
  | suspendAccount .. => ["BUSINESS_ACCOUNT_SUSPENDED"]
  | reactivateAccount .. => ["BUSINESS_ACCOUNT_REACTIVATED", "BUSINESS_ACCOUNT_REOPENED"]

end ApprovalOp

/-- There is an entry of the action that was not there before. -/
def Audited (op : ApprovalOp) (db db' : AuthDb) : Prop :=
  ∃ row ∈ db'.auditLogs.rows, db.auditLogs.has row.id = false ∧ row.action ∈ op.actions

def StatusChanged (op : ApprovalOp) (db db' : AuthDb) : Prop :=
  (db'.users.get? op.userId).map User.status ≠ (db.users.get? op.userId).map User.status

/-- Each statement meets the environment of its label. -/
abbrev Inputs := String → AuthEnv

/-- The account can take the action, and its transaction comes as far as the entry. -/
def Attempts (rt : Runtime) (op : ApprovalOp) (inputs : Inputs) (db : AuthDb) (action : String) :
    Prop :=
  (inputs "user.findFirst").fault = none ∧ (inputs "user.update").fault = none ∧
    ∃ user message status f revokesTokens entry event, db.users.get? op.userId = some user ∧
      user.deletedAt = none ∧ isBusinessAccount user = true ∧
      op.decide rt user = .act message status f revokesTokens entry event ∧ entry.action = action ∧
      (revokesTokens = true → (inputs "refreshToken.updateMany").fault = none)

/-- The entry can be written: its texts have room, and the administrator has an account. -/
structure EntryFits (adminId : String) (client : Client) (env : AuthEnv) (db : AuthDb) : Prop where
  fault : env.fault = none
  texts : AuditService.fits client = true
  actor : adminId ≠ "" → db.users.has adminId = true
  key : db.auditLogs.has (env.idFor db.auditLogs) = false

/-- Nothing fails after the entry. -/
structure Completes (inputs : Inputs) (db : AuthDb) : Prop where
  event : (inputs "outboxEvent.create").fault = none
  key : db.outboxEvents.has ((inputs "outboxEvent.create").idFor db.outboxEvents) = false
  commit : (inputs "commit").fault = none

section Decisions

variable {rt : Runtime} {op : ApprovalOp} {user : User} {message : String} {status : AccountStatus}
  {f : Time → User → User} {revokesTokens : Bool} {entry : CreateAuditLogParams}
  {event : Time → CreateOutboxEventParams}

variable (rt op) in
/-- An account that takes the action keeps its key and address and gets another status. -/
theorem decide_acts (h : op.decide rt user = .act message status f revokesTokens entry event) :
    (∀ now u, (f now u).id = u.id ∧ (f now u).email = u.email) ∧
      (∀ now, (f now user).status ≠ user.status) ∧ entry.action ∈ op.actions ∧
      entry.actorUserId = some op.adminId := by
  cases op with
  | approveAccount userId adminId =>
    simp only [ApprovalOp.decide, decideApproval] at h
    split_ifs at h
    split at h <;> cases h
    next hpending => exact ⟨fun _ _ ↦ ⟨rfl, rfl⟩, fun _ ↦ by simp [approved, hpending],
      List.mem_cons_self, rfl⟩
  | rejectAccount userId adminId reason =>
    simp only [ApprovalOp.decide, decideRejection] at h
    split at h
    · cases h
    split at h <;> cases h
    next hpending => exact ⟨fun _ _ ↦ ⟨rfl, rfl⟩, fun _ ↦ by simp [rejected, hpending],
      List.mem_cons_self, rfl⟩
  | suspendAccount userId adminId reason =>
    simp only [ApprovalOp.decide, decideSuspension] at h
    split at h <;> cases h
    next hactive => exact ⟨fun _ _ ↦ ⟨rfl, rfl⟩, fun _ ↦ by simp [AdminUsersService.suspended, hactive],
      List.mem_cons_self, rfl⟩
  | reactivateAccount userId adminId =>
    simp only [ApprovalOp.decide, decideReactivation] at h
    split at h <;> cases h
    · next hsuspended =>
      exact ⟨fun _ _ ↦ ⟨rfl, rfl⟩, fun _ ↦ by simp [AdminUsersService.reactivated, hsuspended],
        List.mem_cons_self, rfl⟩
    · next hrejected =>
      exact ⟨fun _ _ ↦ ⟨rfl, rfl⟩, fun _ ↦ by simp [reopened, hrejected],
        List.mem_cons_of_mem _ List.mem_cons_self, rfl⟩

end Decisions

section Statements

variable {inputs : Inputs} {db db₁ db₂ : AuthDb} {tx : Pending AuthDb AuthError} {α : Type}
  {name message : String} {f : AuthEnv → AuthDb → Except AuthError (AuthDb × α)} {a : α}

/-- The open transaction turns `db` into `db₁`, and the audit entries are none of its business. -/
def Turns (tx : Pending AuthDb AuthError) (db db₁ : AuthDb) : Prop :=
  ∀ auditLogs, tx { db with auditLogs } = .ok { db₁ with auditLogs }

theorem turns_start : Turns .ok db db := fun _ ↦ rfl

theorem start_eq : (Except.ok : Pending AuthDb AuthError) db = .ok db := rfl

theorem answered_finds {f : AuthEnv → AuthDb → α} (hfault : (inputs name).fault = none) :
    Call.answered inputs db (finds name f) = (.ok (f (inputs name) db), db) := by
  refine Prod.ext ?_ rfl
  show (inputs name).fault.elim (Except.ok (f (inputs name) db)) _ = _
  rw [hfault, Option.elim_none]

theorem answered_stores (hfault : (inputs name).fault = none) :
    Call.answered inputs db (stores name f) =
      ((f (inputs name) db).map Prod.snd, Call.written (f (inputs name) db) db) := by
  rw [stores, Call.perform, Call.answered, Call.answered, hfault, Option.elim_none]

/-- A statement that succeeds becomes part of its transaction. -/
theorem inTx_succeeds (f : AuthEnv → AuthDb → Except AuthError (AuthDb × α)) (db₂ : AuthDb) {a : α}
    (htx : Turns tx db db₁) (hfault : (inputs name).fault = none)
    (hf : ∀ auditLogs, f (inputs name) { db₁ with auditLogs } = .ok ({ db₂ with auditLogs }, a)) :
    ∃ tx', Turns tx' db db₂ ∧
      ∀ auditLogs, Call.answered inputs { db with auditLogs } (inTx name tx f) =
        (.ok (tx', a), { db with auditLogs }) := by
  have hf' auditLogs : ((inputs name).fault.elim (f (inputs name) { db₁ with auditLogs })
      fun message ↦ .error (.fault message)) = .ok ({ db₂ with auditLogs }, a) := by
    rw [hfault]
    exact hf auditLogs
  refine ⟨tx.andThen fun view ↦ (inputs name).fault.elim (f (inputs name) view)
    fun message ↦ .error (.fault message), fun auditLogs ↦ ?_, fun auditLogs ↦ ?_⟩
  · exact Pending.andThen_eq_ok.mpr ⟨_, a, htx auditLogs, hf' auditLogs⟩
  · exact Call.answered_within (htx auditLogs) (hf' auditLogs)

theorem inTx_fails {x : AuthError} (htx : tx db = .ok db₁)
    (hf : ((inputs name).fault.elim (f (inputs name) db₁) fun message ↦ .error (.fault message)) =
      .error x) : Call.answered inputs db (inTx name tx f) = (.error x, db) :=
  Call.answered_within_error htx hf

theorem commitTx_succeeds (htx : tx db = .ok db₁) (hfault : (inputs "commit").fault = none) :
    Call.answered inputs db (commitTx tx) = (.ok (), db₁) :=
  Call.answered_commit (by rw [hfault]; rfl) htx

theorem commitTx_fails (hfault : (inputs "commit").fault = some message) :
    Call.answered inputs db (commitTx tx) = (.error (.fault message), db) :=
  Call.answered_commit_error (by rw [hfault]; rfl)

variable {userId : String} {revokesTokens : Bool}

theorem endSessions_succeeds (userId : String) (revokesTokens : Bool) (now : Time)
    (t : Table RefreshToken) :
    ∃ t', endSessions userId revokesTokens now t = .ok t' := by
  unfold endSessions
  split_ifs
  · obtain ⟨t', ht⟩ := Table.updateMany_succeeds (t := t)
      (p := fun token ↦ token.userId == userId && token.revokedAt.isNone)
      (f := TokenService.revoke now) (fun _ ↦ rfl) fun u hu r ↦ by
        cases List.mem_singleton.mp hu
        rfl
    exact ⟨t', ofRefusal_eq_ok.mpr ht⟩
  · exact ⟨t, rfl⟩

theorem revocation_succeeds {refreshTokens : Table RefreshToken} (htx : Turns tx db db₁)
    (hfault : revokesTokens = true → (inputs "refreshToken.updateMany").fault = none)
    (hended : endSessions userId revokesTokens (inputs "refreshToken.updateMany").now
      db₁.refreshTokens = .ok refreshTokens) :
    ∃ tx', Turns tx' db { db₁ with refreshTokens } ∧
      Call.answered inputs db (revocation userId revokesTokens tx) = (.ok tx', db) := by
  cases revokesTokens with
  | false =>
    cases hended
    exact ⟨tx, htx, rfl⟩
  | true =>
    let ended (env : AuthEnv) (db : AuthDb) : Except AuthError (AuthDb × Unit) := do
      let refreshTokens ← endSessions userId true env.now db.refreshTokens
      return ({ db with refreshTokens }, ())
    have hwritten auditLogs : ended (inputs "refreshToken.updateMany") { db₁ with auditLogs } =
        .ok ({ db₁ with refreshTokens, auditLogs }, ()) :=
      andThen_eq_ok.mpr ⟨refreshTokens, hended, rfl⟩
    obtain ⟨tx', htx', hanswered⟩ := inTx_succeeds ended { db₁ with refreshTokens } htx (hfault rfl)
      hwritten
    refine ⟨tx', htx', ?_⟩
    rw [revocation, if_pos rfl, Call.bind_eq, Call.answered_bind, hanswered db.auditLogs]
    rfl

end Statements

section Runs

variable {rt : Runtime} {op : ApprovalOp} {inputs : Inputs} {db db₁ : AuthDb} {client : Client}
  {tx : Pending AuthDb AuthError} {α : Type}

theorem written_iff {params : CreateOutboxEventParams} {env : AuthEnv} :
    (∃ outboxEvents, OutboxService.written params env db = .ok { db with outboxEvents }) ↔
      db.outboxEvents.has (env.idFor db.outboxEvents) = false := by
  constructor
  · rintro ⟨outboxEvents, h⟩
    obtain ⟨t, ht, -⟩ := andThen_eq_ok.mp h
    exact (Table.exists_created rfl).mp ⟨t, ofRefusal_eq_ok.mp ht⟩
  · intro hkey
    have hcreated (r : OutboxEvent) (hr : r.id = env.idFor db.outboxEvents) :
        (∃ t, db.outboxEvents.create r = .ok t) ↔
          db.outboxEvents.has (env.idFor db.outboxEvents) = false := hr ▸ Table.exists_created rfl
    obtain ⟨t, ht⟩ := (hcreated ⟨_, _, _, _, _, _, _, _, _, _, _⟩ rfl).mpr hkey
    exact ⟨t, andThen_eq_ok.mpr ⟨t, ofRefusal_eq_ok.mpr ht, rfl⟩⟩

/-- The event is not about the audit entries. -/
theorem written_apart {params : CreateOutboxEventParams} {env : AuthEnv}
    {outboxEvents : Table OutboxEvent}
    (h : OutboxService.written params env db = .ok { db with outboxEvents })
    (auditLogs : Table AuditLog) :
    OutboxService.written params env { db with auditLogs } =
      .ok { db with auditLogs, outboxEvents } := by
  obtain ⟨t, ht, h⟩ := andThen_eq_ok.mp h
  cases h
  exact andThen_eq_ok.mpr ⟨outboxEvents, ht, rfl⟩

/-- The audit entry is written just where it fits. -/
theorem entry_iff {entry : CreateAuditLogParams} {env : AuthEnv} {adminId : String}
    (hentry : entry.actorUserId = some adminId) :
    (∃ t, env.fault = none ∧ AuditService.create entry client env db = .ok t) ↔
      EntryFits adminId client env db := by
  have hactor : ((entry.actorUserId.filter (· ≠ "")).all db.users.has = true) ↔
      (adminId ≠ "" → db.users.has adminId = true) := by
    rw [hentry]
    by_cases h : adminId = "" <;> simp [Option.filter, h]
  have hcreated (r : AuditLog) (hr : r.id = env.idFor db.auditLogs) :
      (∃ t, db.auditLogs.create r = .ok t) ↔ db.auditLogs.has (env.idFor db.auditLogs) = false :=
    hr ▸ Table.exists_created rfl
  constructor
  · rintro ⟨t, hfault, h⟩
    unfold AuditService.create at h
    dsimp only at h
    split_ifs at h with hok
    rw [Bool.and_eq_true, hactor] at hok
    exact ⟨hfault, hok.1, hok.2, (hcreated _ rfl).mp ⟨t, h⟩⟩
  · intro h
    obtain ⟨t, ht⟩ := (hcreated ⟨_, _, _, _, _, _, _, _⟩ rfl).mpr h.key
    refine ⟨t, h.fault, ?_⟩
    rw [AuditService.create, if_pos (Bool.and_eq_true_iff.mpr ⟨h.texts, hactor.mpr h.actor⟩)]
    exact ht

section Completion

variable (event : CreateOutboxEventParams)

theorem enqueueInTx_succeeds {outboxEvents : Table OutboxEvent} (htx : Turns tx db db₁)
    (hfault : (inputs "outboxEvent.create").fault = none)
    (hwritten : OutboxService.written event (inputs "outboxEvent.create") db₁ =
      .ok { db₁ with outboxEvents }) :
    ∃ tx', Turns tx' db { db₁ with outboxEvents } ∧ ∀ auditLogs,
      Call.answered inputs { db with auditLogs } (enqueueInTx event tx) =
        (.ok (tx', ()), { db with auditLogs }) := by
  let write (env : AuthEnv) (db : AuthDb) : Except AuthError (AuthDb × Unit) := do
    let db ← OutboxService.written event env db
    return (db, ())
  have hwrite auditLogs : write (inputs "outboxEvent.create") { db₁ with auditLogs } =
      .ok ({ db₁ with auditLogs, outboxEvents }, ()) :=
    andThen_eq_ok.mpr ⟨_, written_apart hwritten auditLogs, rfl⟩
  exact inTx_succeeds write { db₁ with outboxEvents } htx hfault hwrite

theorem enqueueInTx_fails (htx : Turns tx db db₁)
    (houtbox : db₁.outboxEvents = db.outboxEvents)
    (h : ¬((inputs "outboxEvent.create").fault = none ∧
      db.outboxEvents.has ((inputs "outboxEvent.create").idFor db.outboxEvents) = false))
    (auditLogs : Table AuditLog) : ∃ x,
      Call.answered inputs { db with auditLogs } (enqueueInTx event tx) =
        (.error x, { db with auditLogs }) := by
  cases hfault : (inputs "outboxEvent.create").fault with
  | some message =>
    exact ⟨_, inTx_fails (htx auditLogs) (by rw [hfault]; rfl)⟩
  | none =>
    cases hwritten : OutboxService.written event (inputs "outboxEvent.create")
      { db₁ with auditLogs } with
    | error x =>
      refine ⟨x, inTx_fails (htx auditLogs) ?_⟩
      rw [hfault, Option.elim_none, hwritten]
      rfl
    | ok db₂ =>
      obtain ⟨t, ht, -⟩ := andThen_eq_ok.mp hwritten
      refine absurd ⟨hfault, ?_⟩ h
      rw [← houtbox]
      exact (Table.exists_created rfl).mp ⟨t, ofRefusal_eq_ok.mp ht⟩

/-- The rest of the transaction after the entry, if nothing fails. -/
theorem completion_commits {outboxEvents : Table OutboxEvent} (htx : Turns tx db db₁)
    (h : Completes inputs db) (hwritten : OutboxService.written event
      (inputs "outboxEvent.create") db₁ = .ok { db₁ with outboxEvents })
    (auditLogs : Table AuditLog) :
    Call.answered inputs { db with auditLogs } (completion event tx) =
      (.ok (), { db₁ with auditLogs, outboxEvents }) := by
  obtain ⟨tx', htx', hanswered⟩ := enqueueInTx_succeeds event htx h.event hwritten
  rw [completion, Call.bind_eq, Call.answered_bind, hanswered auditLogs]
  exact commitTx_succeeds (htx' auditLogs) h.commit

/-- If something fails, the transaction leaves nothing behind. -/
theorem completion_rolls_back (htx : Turns tx db db₁)
    (houtbox : db₁.outboxEvents = db.outboxEvents) (h : ¬Completes inputs db)
    (auditLogs : Table AuditLog) : ∃ x,
      Call.answered inputs { db with auditLogs } (completion event tx) =
        (.error x, { db with auditLogs }) := by
  rw [completion, Call.bind_eq, Call.answered_bind]
  by_cases hevent : (inputs "outboxEvent.create").fault = none ∧
      db.outboxEvents.has ((inputs "outboxEvent.create").idFor db.outboxEvents) = false
  · obtain ⟨message, hcommit⟩ : ∃ message, (inputs "commit").fault = some message :=
      Option.ne_none_iff_exists'.mp fun hcommit ↦ h ⟨hevent.1, hevent.2, hcommit⟩
    have hwritten : ∃ outboxEvents, OutboxService.written event (inputs "outboxEvent.create") db₁ =
        .ok { db₁ with outboxEvents } := written_iff.mpr (houtbox.symm ▸ hevent.2)
    obtain ⟨outboxEvents, hwritten⟩ := hwritten
    obtain ⟨tx', -, hanswered⟩ := enqueueInTx_succeeds event htx hevent.1 hwritten
    rw [hanswered auditLogs]
    exact ⟨_, commitTx_fails hcommit⟩
  · obtain ⟨x, hanswered⟩ := enqueueInTx_fails event htx houtbox hevent auditLogs
    rw [hanswered]
    exact ⟨x, rfl⟩

end Completion

section Attempt

variable {userId notBusiness : String} {decide : User → Decision} {user : User} {message : String}
  {status : AccountStatus} {f : Time → User → User} {revokesTokens : Bool}
  {entry : CreateAuditLogParams} {event : Time → CreateOutboxEventParams}

theorem updateInTx_succeeds (hget : db.users.get? userId = some user)
    (hupdates : (inputs "user.update").fault = none)
    (hkeeps : ∀ now u, (f now u).id = u.id ∧ (f now u).email = u.email) :
    ∃ users tx, db.users.update userId (f (inputs "user.update").now) = .ok users ∧
      Turns tx db { db with users } ∧
      Call.answered inputs db (updateInTx userId f) = (.ok (tx, (inputs "user.update").now), db) := by
  obtain ⟨hmem, hid⟩ := Table.get?_eq_some.mp hget
  obtain ⟨users, husers⟩ := Table.update_succeeds (f := f (inputs "user.update").now)
    ⟨user, hmem, hid⟩ (fun u ↦ (hkeeps _ u).1) fun u hu r ↦ by
      cases List.mem_singleton.mp hu
      exact congrArg some (hkeeps _ r).2
  let write (env : AuthEnv) (db : AuthDb) : Except AuthError (AuthDb × Time) := do
    let users ← ofRefusal (db.users.update userId (f env.now))
    return ({ db with users }, env.now)
  have hwrite auditLogs : write (inputs "user.update") { db with auditLogs } =
      .ok ({ db with users, auditLogs }, (inputs "user.update").now) :=
    andThen_eq_ok.mpr ⟨users, ofRefusal_eq_ok.mpr husers, rfl⟩
  obtain ⟨tx, htx, hupdated⟩ := inTx_succeeds write { db with users } turns_start hupdates hwrite
  exact ⟨users, tx, husers, htx, hupdated db.auditLogs⟩

/-- What the action writes when nothing fails. -/
structure Written (userId : String) (f : Time → User → User) (revokesTokens : Bool)
    (event : Time → CreateOutboxEventParams) (inputs : Inputs) (db : AuthDb) (users : Table User)
    (refreshTokens : Table RefreshToken) (outboxEvents : Table OutboxEvent) : Prop where
  updated : db.users.update userId (f (inputs "user.update").now) = .ok users
  ended : endSessions userId revokesTokens (inputs "refreshToken.updateMany").now
    db.refreshTokens = .ok refreshTokens
  enqueued : OutboxService.written (event (inputs "user.update").now)
    (inputs "outboxEvent.create") { db with users, refreshTokens } =
      .ok { db with users, refreshTokens, outboxEvents }

variable (inputs client notBusiness) in
/-- Once the account is updated, the entry is on its own, and everything else depends on the rest. -/
theorem answered_attempt (hreads : (inputs "user.findFirst").fault = none)
    (hupdates : (inputs "user.update").fault = none) (hget : db.users.get? userId = some user)
    (hdeleted : user.deletedAt = none) (hbusiness : isBusinessAccount user = true)
    (hdecide : decide user = .act message status f revokesTokens entry event)
    (hrevokes : revokesTokens = true → (inputs "refreshToken.updateMany").fault = none)
    (hkeeps : ∀ now u, (f now u).id = u.id ∧ (f now u).email = u.email) :
    ∃ auditLogs, AuditService.written entry client (inputs entry.action) db = { db with auditLogs } ∧
      (Completes inputs db → ∃ users refreshTokens outboxEvents,
        Written userId f revokesTokens event inputs db users refreshTokens outboxEvents ∧
        Call.answered inputs db (inStatements userId notBusiness decide client) =
          (.ok ⟨true, message, status, user.id⟩,
            { db with users, refreshTokens, outboxEvents, auditLogs })) ∧
      (¬Completes inputs db → ∃ x,
        Call.answered inputs db (inStatements userId notBusiness decide client) =
          (.error x, { db with auditLogs })) := by
  obtain ⟨users, tx, husers, htx, hupdated⟩ := updateInTx_succeeds hget hupdates hkeeps
  obtain ⟨refreshTokens, hended⟩ := endSessions_succeeds userId revokesTokens
    (inputs "refreshToken.updateMany").now db.refreshTokens
  obtain ⟨tx', htx', hrevoked⟩ := revocation_succeeds htx hrevokes hended
  obtain ⟨auditLogs, hlogged⟩ := AuditService.written_frame entry client (inputs entry.action) db
  have hrun : Call.answered inputs db (inStatements userId notBusiness decide client) =
      Call.answered inputs { db with auditLogs }
        ((completion (event (inputs "user.update").now) tx').bind fun _ ↦
          .returned (.ok ⟨true, message, status, user.id⟩)) := by
    rw [inStatements, Call.bind_eq, Call.answered_bind, answered_finds hreads, hget,
      Option.filter_some, hdeleted, Option.isNone_none, if_pos rfl]
    dsimp only
    rw [if_neg (by rw [hbusiness]; exact Bool.noConfusion), hdecide]
    dsimp only
    rw [Call.bind_eq, Call.answered_bind, hupdated]
    dsimp only
    rw [Call.bind_eq, Call.answered_bind, hrevoked, ← hlogged]
    rfl
  refine ⟨auditLogs, hlogged, fun hcompletes ↦ ?_, fun hfails ↦ ?_⟩
  · have hwritten : ∃ outboxEvents, OutboxService.written (event (inputs "user.update").now)
        (inputs "outboxEvent.create") { db with users, refreshTokens } =
          .ok { db with users, refreshTokens, outboxEvents } := written_iff.mpr hcompletes.key
    obtain ⟨outboxEvents, hwritten⟩ := hwritten
    refine ⟨users, refreshTokens, outboxEvents, ⟨husers, hended, hwritten⟩, ?_⟩
    rw [hrun, Call.answered_bind, completion_commits _ htx' hcompletes hwritten auditLogs]
    rfl
  · obtain ⟨x, hrolled⟩ := completion_rolls_back (event (inputs "user.update").now) htx' rfl hfails
      auditLogs
    refine ⟨x, ?_⟩
    rw [hrun, Call.answered_bind, hrolled]

theorem revocation_fails (htx : Turns tx db db₁)
    (hended : revokesTokens = true)
    (hfault : (inputs "refreshToken.updateMany").fault = some message) :
    Call.answered inputs db (revocation userId revokesTokens tx) =
      (.error (.fault message), db) := by
  rw [revocation, if_pos hended, Call.bind_eq, Call.answered_bind,
    inTx_fails (htx db.auditLogs) (by rw [hfault]; rfl)]

end Attempt

/-- Where no statement fails, the transaction succeeds as it does in one step. -/
theorem inStatements_atOnce {name userId notBusiness : String} {decide : User → Decision}
    {env : AuthEnv} (hfault : env.fault = none)
    (hkeeps : ∀ user message status f revokesTokens entry event,
      decide user = .act message status f revokesTokens entry event →
      ∀ now u, (f now u).id = u.id ∧ (f now u).email = u.email)
    {response : ApprovalActionResponseDto} {db' : AuthDb} :
    Call.answered (fun _ ↦ env) db (inStatements userId notBusiness decide client) =
        (.ok response, db') ↔
      Call.answered (fun _ ↦ env) db (inTransaction name userId notBusiness decide client) =
        (.ok response, db') := by
  have hfound : Call.answered (fun _ ↦ env) db (finds "user.findFirst" fun _ db ↦
      (db.users.get? userId).filter (·.deletedAt.isNone)) =
        (.ok ((db.users.get? userId).filter (·.deletedAt.isNone)), db) := answered_finds hfault
  rw [inTransaction, answered_stores hfault]
  dsimp only
  cases huser : (db.users.get? userId).filter (·.deletedAt.isNone) with
  | none =>
    rw [inStatements, Call.bind_eq, Call.answered_bind, hfound, huser]
    exact iff_of_false nofun nofun
  | some user =>
    obtain ⟨hget, hdeleted⟩ := Option.filter_eq_some_iff.mp huser
    dsimp only
    by_cases hbusiness : isBusinessAccount user = false
    · rw [inStatements, Call.bind_eq, Call.answered_bind, hfound, huser]
      dsimp only
      rw [if_pos hbusiness, if_pos hbusiness]
      exact iff_of_false nofun nofun
    rw [if_neg hbusiness]
    cases hdecide : decide user with
    | refuse message =>
      rw [inStatements, Call.bind_eq, Call.answered_bind, hfound, huser]
      dsimp only
      rw [if_neg hbusiness, hdecide]
      exact iff_of_false nofun nofun
    | already message status =>
      rw [inStatements, Call.bind_eq, Call.answered_bind, hfound, huser]
      dsimp only
      rw [if_neg hbusiness, hdecide]
      dsimp only
      rw [Call.bind_eq, Call.answered_bind, commitTx_succeeds start_eq hfault]
      rfl
    | act message status f revokesTokens entry event =>
      obtain ⟨auditLogs, hlogged, hcompletes, hrolled⟩ := answered_attempt (fun _ ↦ env)
        client notBusiness hfault hfault hget (Option.isNone_iff_eq_none.mp hdeleted)
        (by simpa using hbusiness) hdecide (fun _ ↦ hfault) (hkeeps _ _ _ _ _ _ _ hdecide)
      dsimp only
      rw [hlogged]
      by_cases h : Completes (fun _ ↦ env) db
      · obtain ⟨users, refreshTokens, outboxEvents, hwritten, hrun⟩ := hcompletes h
        have hupdated : updateAccount userId (f env.now) revokesTokens (event env.now) env
            { db with auditLogs } =
              .ok ({ db with users, refreshTokens, outboxEvents, auditLogs }, users.get? userId) :=
          andThen_eq_ok.mpr ⟨users, ofRefusal_eq_ok.mpr hwritten.updated, andThen_eq_ok.mpr
            ⟨refreshTokens, hwritten.ended, andThen_eq_ok.mpr
              ⟨_, written_apart hwritten.enqueued auditLogs, rfl⟩⟩⟩
        rw [hrun, hupdated]
        rfl
      · obtain ⟨x, hrun⟩ := hrolled h
        rw [hrun]
        refine iff_of_false nofun fun hdone ↦ h ?_
        cases hupdated : updateAccount userId (f env.now) revokesTokens (event env.now) env
            { db with auditLogs } with
        | error y =>
          rw [hupdated] at hdone
          cases hdone
        | ok q =>
          obtain ⟨users, -, hupdated⟩ := andThen_eq_ok.mp hupdated
          obtain ⟨refreshTokens, -, hupdated⟩ := andThen_eq_ok.mp hupdated
          obtain ⟨db₂, hwritten, -⟩ := andThen_eq_ok.mp hupdated
          obtain ⟨t, ht, -⟩ := andThen_eq_ok.mp hwritten
          exact ⟨hfault, (Table.exists_created rfl).mp ⟨t, ofRefusal_eq_ok.mp ht⟩, hfault⟩

/-- A call that does not come as far as the entry changes nothing. -/
theorem answered_idle (h : ∀ action, ¬Attempts rt op inputs db action) :
    (Call.answered inputs db (op.runs rt client)).2 = db := by
  have hfound : Call.answered inputs db (finds "user.findFirst" fun _ db ↦
      (db.users.get? op.userId).filter (·.deletedAt.isNone)) =
        ((inputs "user.findFirst").fault.elim
          (Except.ok ((db.users.get? op.userId).filter (·.deletedAt.isNone)))
          fun message ↦ .error (.fault message), db) := rfl
  rw [ApprovalOp.runs, inStatements, Call.bind_eq, Call.answered_bind, hfound]
  cases hreads : (inputs "user.findFirst").fault with
  | some message => rfl
  | none =>
    rw [Option.elim_none]
    dsimp only
    cases huser : (db.users.get? op.userId).filter (·.deletedAt.isNone) with
    | none => rfl
    | some user =>
      obtain ⟨hget, hdeleted⟩ := Option.filter_eq_some_iff.mp huser
      dsimp only
      split_ifs with hbusiness
      · rfl
      cases hdecide : op.decide rt user with
      | refuse message => rfl
      | already message status =>
        dsimp only
        rw [Call.bind_eq, Call.answered_bind]
        cases hcommit : (inputs "commit").fault with
        | some fault =>
          rw [commitTx_fails hcommit]
        | none =>
          rw [commitTx_succeeds start_eq hcommit]
          rfl
      | act message status f revokesTokens entry event =>
        dsimp only
        rw [Call.bind_eq, Call.answered_bind]
        cases hupdates : (inputs "user.update").fault with
        | some fault =>
          rw [updateInTx, inTx_fails start_eq (by rw [hupdates]; rfl)]
        | none =>
          obtain ⟨users, tx, -, htx, hupdated⟩ :=
            updateInTx_succeeds hget hupdates (decide_acts rt op hdecide).1
          rw [hupdated]
          dsimp only
          by_cases hrevokes : revokesTokens = true → (inputs "refreshToken.updateMany").fault = none
          · refine absurd ⟨hreads, hupdates, user, message, status, f, revokesTokens, entry, event,
              hget, Option.isNone_iff_eq_none.mp hdeleted, ?_, hdecide, rfl, hrevokes⟩
                (h entry.action)
            simpa using hbusiness
          · obtain ⟨hended, hfault⟩ := Classical.not_imp.mp hrevokes
            obtain ⟨fault, hfault⟩ := Option.ne_none_iff_exists'.mp hfault
            rw [Call.bind_eq, Call.answered_bind, revocation_fails htx hended hfault]

theorem has_old {row : AuditLog} (hrow : row ∈ db.auditLogs.rows) :
    db.auditLogs.has row.id ≠ false := by
  rw [ne_eq, Bool.not_eq_false]
  exact Table.has_iff.mpr ⟨row, hrow, rfl⟩

/-- Where no statement fails, a call answers and writes what it does in one step. -/
theorem runs_atOnce {env : AuthEnv} (hfault : env.fault = none)
    {response : ApprovalActionResponseDto} {db' : AuthDb} :
    Call.answered (fun _ ↦ env) db (op.runs rt client) = (.ok response, db') ↔
      Call.answered (fun _ ↦ env) db (op.atOnce rt client) = (.ok response, db') := by
  cases op with
  | approveAccount userId adminId =>
    exact inStatements_atOnce hfault fun _ _ _ _ _ _ _ h ↦
      (decide_acts rt (.approveAccount userId adminId) h).1
  | rejectAccount userId adminId reason =>
    exact inStatements_atOnce hfault fun _ _ _ _ _ _ _ h ↦
      (decide_acts rt (.rejectAccount userId adminId reason) h).1
  | suspendAccount userId adminId reason =>
    exact inStatements_atOnce hfault fun _ _ _ _ _ _ _ h ↦
      (decide_acts rt (.suspendAccount userId adminId reason) h).1
  | reactivateAccount userId adminId =>
    exact inStatements_atOnce hfault fun _ _ _ _ _ _ _ h ↦
      (decide_acts rt (.reactivateAccount userId adminId) h).1

theorem audited_iff {entry : CreateAuditLogParams} {env : AuthEnv} {db' : AuthDb}
    (hentry : entry.actorUserId = some op.adminId) (haction : entry.action ∈ op.actions)
    (hlogs : db'.auditLogs = (AuditService.written entry client env db).auditLogs) :
    Audited op db db' ↔ EntryFits op.adminId client env db := by
  constructor
  · rintro ⟨row, hrow, hnew, -⟩
    rw [hlogs] at hrow
    unfold AuditService.written at hrow
    split at hrow
    · next t hfault hcreate => exact (entry_iff hentry).mp ⟨t, hfault, hcreate⟩
    · exact absurd hnew (has_old hrow)
  · intro hfits
    obtain ⟨t, hfault, hcreate⟩ := (entry_iff hentry).mpr hfits
    have hrows : db'.auditLogs = t := by
      rw [hlogs, AuditService.written, hfault, hcreate]
    unfold AuditService.create at hcreate
    dsimp only at hcreate
    split_ifs at hcreate
    refine ⟨_, hrows ▸ Table.create_eq_ok.mp hcreate ▸
      List.mem_append_right _ (List.mem_singleton.mpr rfl), hfits.key, haction⟩

theorem not_audited : ¬Audited op db db := fun ⟨_, hrow, hnew, _⟩ ↦ has_old hrow hnew

/-- There is an entry just where the account has changed, if and only if the entry fits just where
the rest of the transaction completes. -/
theorem audited_exactly :
    (Audited op db (Call.answered inputs db (op.runs rt client)).2 ↔
      StatusChanged op db (Call.answered inputs db (op.runs rt client)).2) ↔
      ∀ action, Attempts rt op inputs db action →
        (EntryFits op.adminId client (inputs action) db ↔ Completes inputs db) := by
  by_cases hattempts : ∃ action, Attempts rt op inputs db action
  · obtain ⟨action, hreads, hupdates, user, message, status, f, revokesTokens, entry, event, hget,
      hdeleted, hbusiness, hdecide, rfl, hrevokes⟩ := hattempts
    obtain ⟨hkeeps, hstatus, haction, hentry⟩ := decide_acts rt op hdecide
    obtain ⟨auditLogs, hlogged, hcompletes, hrolled⟩ := answered_attempt inputs client
      op.notBusiness hreads hupdates hget hdeleted hbusiness hdecide hrevokes hkeeps
    obtain ⟨db', hdb', hlogs, hchanged⟩ : ∃ db',
        (Call.answered inputs db (op.runs rt client)).2 = db' ∧
          db'.auditLogs = (AuditService.written entry client (inputs entry.action) db).auditLogs ∧
          (StatusChanged op db db' ↔ Completes inputs db) := by
      refine ⟨_, rfl, ?_⟩
      rw [ApprovalOp.runs, hlogged]
      by_cases h : Completes inputs db
      · obtain ⟨users, refreshTokens, outboxEvents, hwritten, hrun⟩ := hcompletes h
        rw [hrun]
        refine ⟨rfl, iff_of_true ?_ h⟩
        rw [StatusChanged, Table.get?_update hwritten.updated fun u ↦ (hkeeps _ u).1, if_pos rfl, hget]
        simpa using hstatus _
      · obtain ⟨x, hrun⟩ := hrolled h
        rw [hrun]
        exact ⟨rfl, iff_of_false (not_not.mpr rfl) h⟩
    rw [hdb', audited_iff hentry haction hlogs, hchanged]
    constructor
    · rintro h action ⟨-, -, user', _, _, _, _, entry', _, hget', -, -, hdecide', rfl, -⟩
      rw [hget] at hget'
      cases hget'
      rw [hdecide] at hdecide'
      cases hdecide'
      exact h
    · exact fun h ↦ h entry.action ⟨hreads, hupdates, user, message, status, f, revokesTokens, entry,
        event, hget, hdeleted, hbusiness, hdecide, rfl, hrevokes⟩
  · have hidle := not_exists.mp hattempts
    rw [answered_idle hidle]
    exact iff_of_true (iff_of_false not_audited (not_not.mpr rfl)) fun action h ↦
      absurd h (hidle action)

end Runs

section Sample

def sampleAdmin : User :=
  { attendee with
    id := "admin-1"
    email := "admin@example.com"
    userRoles := ["ADMIN"] }

/-- A vendor that waits for its approval. -/
def pendingVendor : User :=
  { attendee with
    id := "vendor-1"
    email := "vendor@example.com"
    status := .pending
    userRoles := ["VENDOR"]
    emailVerifiedAt := some 0 }

def approvalsDb : AuthDb :=
  { AuthDb.empty with
    users := ((Table.singleton sampleAdmin).create pendingVendor).toOption.getD .empty }

/-- The database after the approval. -/
def afterApproval (client : Client) (inputs : Inputs) : AuthDb :=
  (Call.answered inputs approvalsDb
    ((ApprovalOp.approveAccount "vendor-1" "admin-1").runs sampleRuntime client)).2

def calm : Inputs := fun label ↦ sampleEnv 1 label

/-- A user agent of 501 characters. -/
def longAgent : Client := ⟨none, some (String.ofList (List.replicate 501 'a'))⟩

def failingCommit : Inputs := fun label ↦
  if label = "commit" then { sampleEnv 1 label with fault := some "connection lost" } else calm label

/-- An entry that does not fit is dropped, whatever the texts of the client are. -/
theorem log_of_unfit {client client' : Client} (h : AuditService.fits client = false)
    (h' : AuditService.fits client' = false) (entry : CreateAuditLogParams) :
    AuditService.log entry client = AuditService.log entry client' := by
  have hwritten : AuditService.written entry client = AuditService.written entry client' := by
    funext env db
    simp only [AuditService.written, AuditService.create, h, h', Bool.false_and, Bool.false_eq_true,
      if_false]
  unfold AuditService.log
  rw [hwritten]

theorem longAgent_unfit : AuditService.fits longAgent = false := by
  have hlength : (String.ofList (List.replicate 501 'a')).length = 501 := by
    rw [String.length_ofList, List.length_replicate]
  unfold AuditService.fits AuditService.varChar longAgent
  rw [Option.all_some, hlength]
  rfl

theorem runs_of_unfit {client client' : Client} (h : AuditService.fits client = false)
    (h' : AuditService.fits client' = false) (rt : Runtime) (op : ApprovalOp) :
    op.runs rt client = op.runs rt client' := by
  unfold ApprovalOp.runs inStatements
  simp only [log_of_unfit h h']

theorem afterApproval_unfit {client client' : Client} (h : AuditService.fits client = false)
    (h' : AuditService.fits client' = false) (inputs : Inputs) :
    afterApproval client inputs = afterApproval client' inputs := by
  unfold afterApproval
  rw [runs_of_unfit h h']

/-- A text that the column refuses for another reason is easier to compute with. -/
theorem afterApproval_longAgent :
    afterApproval longAgent calm =
      afterApproval ⟨none, some (String.singleton (Char.ofNat 0))⟩ calm := by
  have hunfit : AuditService.fits ⟨none, some (String.singleton (Char.ofNat 0))⟩ = false := by
    decide +kernel
  exact afterApproval_unfit longAgent_unfit hunfit calm

/-- With a long user agent the approval is not audited, and an approval whose commit fails is. -/
theorem approval_not_audited_exactly :
    (StatusChanged (.approveAccount "vendor-1" "admin-1") approvalsDb (afterApproval longAgent calm) ∧
      ¬Audited (.approveAccount "vendor-1" "admin-1") approvalsDb (afterApproval longAgent calm)) ∧
    ¬StatusChanged (.approveAccount "vendor-1" "admin-1") approvalsDb
        (afterApproval nobody failingCommit) ∧
      Audited (.approveAccount "vendor-1" "admin-1") approvalsDb
        (afterApproval nobody failingCommit) := by
  unfold StatusChanged Audited
  rw [afterApproval_longAgent]
  refine ⟨⟨by decide +kernel, ?_⟩, by decide +kernel, ?_⟩
  · have hnone : (afterApproval ⟨none, some (String.singleton (Char.ofNat 0))⟩
        calm).auditLogs.rows.isEmpty = true := by
      decide +kernel
    rw [List.isEmpty_iff.mp hnone]
    simp
  · have hsome : (afterApproval nobody failingCommit).auditLogs.rows.any (fun row ↦
        !approvalsDb.auditLogs.has row.id && (row.action == "BUSINESS_ACCOUNT_APPROVED")) = true := by
      decide +kernel
    obtain ⟨row, hrow, htest⟩ := List.any_eq_true.mp hsome
    refine ⟨row, hrow, ?_⟩
    simpa [ApprovalOp.actions] using htest

end Sample

end AdminApprovalsService

end Innovents.Auth
