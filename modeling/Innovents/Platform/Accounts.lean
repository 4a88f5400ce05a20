import Innovents.Auth.Schema
import Innovents.Lib.Sequences

namespace Innovents.Platform

open Innovents.Lib Innovents.Auth

instance : Faulty AuthEnv AuthError := ⟨fun env ↦ env.fault.map AuthError.fault⟩

/-- A state that has the tables of the accounts in it. -/
class Accounts (σ : Type) where
  get : σ → AuthDb
  set : AuthDb → σ → σ

variable {σ α : Type}

/-- A method of a service that works on the tables `σ`. -/
abbrev Service (σ α : Type) := Call String AuthEnv σ AuthError α

def refusal (status : HttpStatus) (message : String) : AuthError := .http status message

theorem ran_look {label : String} {g : σ → α} {a : α} {s s' : σ} :
    (Call.reads label (fun _ ↦ g) : Service σ α).Ran (fun _ ↦ True) s (.ok a) s' ↔
      g s = a ∧ s' = s := by
  rw [Call.ran_reads_ok]
  constructor
  · rintro ⟨_, -, -, h⟩
    exact h
  · exact fun h ↦ ⟨sampleEnv 0 "", trivial, rfl, h⟩

variable [Accounts σ]

def usersOf (db : σ) : Table User := (Accounts.get db).users

/-- `tx.outboxEvent.create` -/
def enqueued (params : CreateOutboxEventParams) (env : AuthEnv) (db : σ) : Except AuthError σ := do
  let accounts ← OutboxService.written params env (Accounts.get db)
  return Accounts.set accounts db

/-- `tx.auditLog.create`: the entry is stored as it is given. -/
def audited (params : CreateAuditLogParams) (client : Client) (env : AuthEnv) (db : σ) :
    Except AuthError σ := do
  let accounts := Accounts.get db
  demand (params.actorUserId.all accounts.users.has) (.fault "Foreign key constraint violated")
  let auditLogs ← ofRefusal (accounts.auditLogs.create
    { id := env.idFor accounts.auditLogs
      actorUserId := params.actorUserId
      action := params.action
      resourceType := params.resourceType
      resourceId := params.resourceId
      metadata := .obj params.metadata
      ipAddress := client.ipAddress
      userAgent := client.userAgent })
  return Accounts.set { accounts with auditLogs } db

/-- `auditService.log` -/
def log (params : CreateAuditLogParams) (client : Client) : Service σ Unit :=
  .request params.action
    (fun env db ↦ Accounts.set (AuditService.written params client env (Accounts.get db)) db)
    fun _ _ ↦ .returned (.ok ())

/-- Only the tables of the accounts differ. -/
def Beside (db db' : σ) : Prop := ∃ accounts, db' = Accounts.set accounts db

theorem enqueued_eq_ok {params : CreateOutboxEventParams} {env : AuthEnv} {db db' : σ}
    (h : enqueued params env db = .ok db') : Beside db db' := by
  obtain ⟨accounts, -, h⟩ := andThen_eq_ok.mp h
  cases h
  exact ⟨accounts, rfl⟩

theorem audited_eq_ok {params : CreateAuditLogParams} {client : Client} {env : AuthEnv} {db db' : σ}
    (h : audited params client env db = .ok db') : Beside db db' := by
  obtain ⟨-, -, h⟩ := andThen_eq_ok.mp h
  obtain ⟨auditLogs, -, h⟩ := andThen_eq_ok.mp h
  cases h
  exact ⟨_, rfl⟩

theorem each_log {params : CreateAuditLogParams} {client : Client} {G : String → σ → σ → Prop}
    (hG : ∀ db db', Beside db db' → G params.action db db') : (log params client).Each G :=
  fun _ db ↦ ⟨hG db _ ⟨_, rfl⟩, trivial⟩

theorem heeds_log {params : CreateAuditLogParams} {client : Client} {J : σ → Prop}
    {ok : History String σ → String → σ → Prop} {G : String → σ → σ → Prop}
    {history : History String σ} (hJ : ∀ db db', Beside db db' → J db → J db')
    (hG : ∀ db db', Beside db db' → G params.action db db') :
    (log params client).Heeds J ok G (fun _ _ ↦ True) history :=
  fun _ db hdb _ ↦ ⟨hJ db _ ⟨_, rfl⟩ hdb, hG db _ ⟨_, rfl⟩, trivial⟩

theorem alone_log_bind {β : Type} {params : CreateAuditLogParams} {client : Client}
    {f : Unit → Service σ β} {ok : String → σ → Prop} {post : Except AuthError β → σ → Prop} {db : σ}
    (h : ∀ db', Beside db db' → (f ()).Alone ok post db') :
    ((log params client).bind f).Alone ok post db :=
  fun _ _ ↦ h _ ⟨_, rfl⟩

end Innovents.Platform
