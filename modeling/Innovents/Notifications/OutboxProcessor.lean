import Innovents.Notifications.OutboxEvents
import Innovents.Lib.Ownership
import Mathlib.Data.List.Sort

namespace Innovents.Notifications

open Innovents.Lib Innovents.Payments

structure OutboxConfig where
  batchSize : ℕ
  maxAttempts : ℕ

def DEFAULT_STALE_PROCESSING_TIMEOUT_MS : ℤ := 5 * 60 * 1000

/-- What became of an event, told in the order in which it happened. -/
inductive Handling
  | began (eventId : String)
  | succeeded (eventId : String)
  | failed (eventId : String)
  deriving DecidableEq

/-- The platform, its clock and the record of what was handled. -/
structure World where
  platform : Platform
  clock : Time
  history : List Handling

def World.withEvents (w : World) (events : Table OutboxEvent) : World :=
  { w with platform := { w.platform with outboxEvents := events } }

def World.tell (w : World) (h : Handling) : World := { w with history := w.history ++ [h] }

inductive Fate
  | runs
  | fails (message : String)
  | crashes

/-- What one step of a worker takes from its surroundings. -/
structure WorkerEnv where
  fate : Fate
  newId : Table Notification → String

def WorkerEnv.fault (env : WorkerEnv) : Option String :=
  match env.fate with
  | .fails message => some message
  | _ => none

/-- Where a worker stands. `batch` tells that a batch follows the recovery. -/
inductive Worker
  | started (batch : Bool)
  | recovering (batch : Bool) (staleThreshold : Time)
  | sweeping (batch : Bool) (staleRecords : List OutboxEvent)
  | claiming
  | fallingBack
  | marking (claimedEvents : List RawOutboxRecord)
  | turning (claimedEvents : List RawOutboxRecord)
  | handling (event : RawOutboxRecord) (rest : List RawOutboxRecord) (call : Handler Unit)
  | handled (event : RawOutboxRecord) (rest : List RawOutboxRecord)
  | failing (event : RawOutboxRecord) (rest : List RawOutboxRecord) (errorMsg : String)
  | returned

namespace OutboxProcessor

variable (config : OutboxConfig)

def findStale (staleThreshold : Time) (s : Platform) : List OutboxEvent :=
  (s.outboxEvents.rows.filter fun e ↦
    e.status == .processing && e.processingStartedAt.any (· < staleThreshold)).take config.batchSize

/-- `FOR UPDATE SKIP LOCKED` outside a transaction: the locks end with the statement, and no
statement finds a row locked by another one. -/
def findPending (s : Platform) : List OutboxEvent :=
  ((s.outboxEvents.rows.filter fun e ↦ e.status == .pending).insertionSort
    fun a b ↦ a.createdAt ≤ b.createdAt).take config.batchSize

/-- What recovery writes for a stale record it has read. -/
def recoverStale (record e : OutboxEvent) : OutboxEvent :=
  let nextAttempts := record.attempts + 1
  if nextAttempts ≥ config.maxAttempts then
    { e with
      status := .deadLetter
      attempts := nextAttempts
      lastError := some "Stale processing timeout exceeded maximum retry attempts" }
  else
    { e with
      status := .pending
      attempts := nextAttempts
      processingStartedAt := none }

def markProcessing (now : Time) (e : OutboxEvent) : OutboxEvent :=
  { e with
    status := .processing
    processingStartedAt := some now }

def markProcessed (now : Time) (e : OutboxEvent) : OutboxEvent :=
  { e with
    status := .processed
    processedAt := some now }

def markFailed (event : RawOutboxRecord) (errorMsg : String) (e : OutboxEvent) : OutboxEvent :=
  let nextAttempts := event.attempts + 1
  if nextAttempts ≥ config.maxAttempts then
    { e with
      status := .deadLetter
      attempts := nextAttempts
      lastError := some errorMsg }
  else
    { e with
      status := .pending
      attempts := nextAttempts
      lastError := some errorMsg
      processingStartedAt := none }

/-- One statement that writes outbox events. -/
def writeEvents (env : WorkerEnv) (w : World)
    (f : Table OutboxEvent → Except Refusal (Table OutboxEvent)) : Except String World :=
  match env.fault, f w.platform.outboxEvents with
  | some message, _ => .error message
  | none, .ok events => .ok (w.withEvents events)
  | none, .error _ => .error "Record to update not found"

/-- Recovery never throws: the batch goes on, if there is one. -/
def afterRecovery : Bool → Worker
  | true => .claiming
  | false => .returned

def afterClaim : List OutboxEvent → Worker
  | [] => .returned
  | claimed => .marking (claimed.map rawRecord)

def handlerEnv (env : WorkerEnv) (w : World) : HandlerEnv := ⟨w.clock, env.fault, env.newId⟩

/-- The next step of a worker that does not crash. -/
def advance (env : WorkerEnv) (w : World) : Worker → World × Worker
  | .started batch => (w, .recovering batch (w.clock - DEFAULT_STALE_PROCESSING_TIMEOUT_MS))
  | .recovering batch staleThreshold =>
    match env.fault with
    | none => (w, .sweeping batch (findStale config staleThreshold w.platform))
    | some _ => (w, afterRecovery batch)
  | .sweeping batch [] => (w, afterRecovery batch)
  | .sweeping batch (record :: staleRecords) =>
    match writeEvents env w (·.update record.id (recoverStale config record)) with
    | .ok w' => (w', .sweeping batch staleRecords)
    | .error _ => (w, afterRecovery batch)
  | .claiming =>
    match env.fault with
    | none => (w, afterClaim (findPending config w.platform))
    | some _ => (w, .fallingBack)
  | .fallingBack =>
    match env.fault with
    | none => (w, afterClaim (findPending config w.platform))
    | some _ => (w, .returned)
  | .marking claimedEvents =>
    let eventIds := claimedEvents.map RawOutboxRecord.id
    match writeEvents env w (·.updateMany (fun e ↦ decide (e.id ∈ eventIds))
      (markProcessing w.clock)) with
    | .ok w' => (w', .turning claimedEvents)
    | .error _ => (w, .returned)
  | .turning [] => (w, .returned)
  | .turning (event :: rest) =>
    (w.tell (.began event.id), .handling event rest (handleEvent event))
  | .handling event rest (.returned (.ok _)) =>
    (w.tell (.succeeded event.id), .handled event rest)
  | .handling event rest (.returned (.error errorMsg)) =>
    (w.tell (.failed event.id), .failing event rest errorMsg)
  | .handling event rest (.request _ effect next) =>
    let e := handlerEnv env w
    ({ w with platform := effect e w.platform }, .handling event rest (next e w.platform))
  | .handled event rest =>
    match writeEvents env w (·.update event.id (markProcessed w.clock)) with
    | .ok w' => (w', .turning rest)
    | .error errorMsg => (w, .failing event rest errorMsg)
  | .failing event rest errorMsg =>
    match writeEvents env w (·.update event.id (markFailed config event errorMsg)) with
    | .ok w' => (w', .turning rest)
    | .error _ => (w, .returned)
  | .returned => (w, .returned)

def step (env : WorkerEnv) (w : World) (t : Worker) : Option (World × Worker) :=
  match t, env.fate with
  | .returned, _ => none
  | _, .crashes => some (w, .returned)
  | t, _ => some (advance config env w t)

end OutboxProcessor

/-- Time passes, and the services enqueue events and work on the other tables. -/
structure Elapsed (w w' : World) : Prop where
  clock : w.clock ≤ w'.clock
  history : w'.history = w.history
  events : ∃ enqueued, w'.platform.outboxEvents.rows = w.platform.outboxEvents.rows ++ enqueued ∧
    ∀ e ∈ enqueued, e.status = .pending

/-- Any number of workers on one platform. -/
def workers (config : OutboxConfig) : Machine World Worker WorkerEnv where
  start t := ∃ batch, t = .started batch
  step := OutboxProcessor.step config
  world := Elapsed

def Platform.eventStatus (s : Platform) (id : String) : Option OutboxStatus :=
  (s.outboxEvents.get? id).map OutboxEvent.status

namespace Worker

/-- The events that a worker has selected and not yet dealt with. -/
def held : Worker → List String
  | marking claimedEvents | turning claimedEvents => claimedEvents.map RawOutboxRecord.id
  | handling event rest _ | handled event rest | failing event rest _ =>
    event.id :: rest.map RawOutboxRecord.id
  | started _ | recovering _ _ | sweeping _ _ | claiming | fallingBack | returned => []

/-- The status that a worker has left the events it holds in. -/
def heldStatus : Worker → OutboxStatus
  | marking _ => .pending
  | _ => .processing

def staleRecords : Worker → List OutboxEvent
  | sweeping _ staleRecords => staleRecords
  | _ => []

def isSelecting : Worker → Bool
  | claiming | fallingBack => true
  | _ => false

/-- The events whose rows the next step of a worker may write. -/
def writes : Worker → List String
  | sweeping _ (record :: _) => [record.id]
  | marking claimedEvents => claimedEvents.map RawOutboxRecord.id
  | handled event _ | failing event _ _ => [event.id]
  | _ => []

theorem held_of_selecting {t : Worker} (h : t.isSelecting = true) : t.held = [] := by
  cases t <;> first | rfl | cases h

end Worker

end Innovents.Notifications
