import Innovents.Payments.Provider

namespace Innovents.Payments

open Innovents.Lib

structure CreateAuditLogParams where
  actorUserId : JsValue
  action : String
  resourceType : String
  resourceId : String
  metadata : List (String × JsValue)

namespace AuditService

def sensitive : List String := ["password", "token", "secret", "otp", "authorization"]

def isSensitive (key : String) : Bool :=
  sensitive.any fun s ↦ decide (s.toList <:+: key.toList.map Char.toLower)

def sanitizeMetadata (metadata : List (String × JsValue)) : List (String × JsValue) :=
  metadata.map fun p ↦ if isSensitive p.1 then (p.1, .str "[REDACTED]") else p

def create (env : Env) (params : CreateAuditLogParams) (db : Db) : Except Err Db := do
  let actorUserId ← optionalTextArg (params.actorUserId.or .null)
  require (actorUserId.all db.users.has) .foreignKey
  insert auditLogTable
    { id := env.auditId
      actorUserId
      action := params.action
      resourceType := params.resourceType
      resourceId := some params.resourceId
      metadata := .obj (sanitizeMetadata params.metadata) } db

/-- Logging never fails: an entry that cannot be written is dropped. -/
def log (env : Env) (params : CreateAuditLogParams) (db : Db) : Db :=
  match create env params db with
  | .ok db' => db'
  | .error _ => db

/-- An audit entry changes the audit table only. -/
theorem log_frame (env : Env) (params : CreateAuditLogParams) (db : Db) :
    ∃ t, log env params db = { db with auditLogs := t } := by
  unfold log
  split
  · next db' h =>
    simp only [create, bind_eq_ok, require_eq_ok, insert_eq_ok, auditLogTable] at h
    obtain ⟨_, _, _, _, t, _, ht⟩ := h
    exact ⟨t, ht.symm⟩
  · exact ⟨db.auditLogs, rfl⟩

end AuditService

/-- `OutboxService.enqueue` inside the transaction that works on `db`. -/
def enqueue (id : String) (now : Time) (aggregateType aggregateId eventType : String)
    (payload : List (String × JsValue)) (db : Db) : Except Err Db :=
  insert outboxEventTable
    { id
      eventType
      aggregateType
      aggregateId
      payload := .obj payload
      status := .pending
      attempts := 0
      lastError := none
      createdAt := now
      processedAt := none
      processingStartedAt := none } db

theorem enqueue_eq_ok {id : String} {now : Time} {aggregateType aggregateId eventType : String}
    {payload : List (String × JsValue)} {db db' : Db} :
    enqueue id now aggregateType aggregateId eventType payload db = .ok db' ↔
      ∃ t : Table OutboxEvent, t.rows = db.outboxEvents.rows ++
        [⟨id, eventType, aggregateType, aggregateId, .obj payload, .pending, 0, none, now, none,
          none⟩] ∧
        { db with outboxEvents := t } = db' := by
  simp [enqueue, insert_eq_ok]

end Innovents.Payments
