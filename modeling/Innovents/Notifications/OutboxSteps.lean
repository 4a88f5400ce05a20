import Innovents.Notifications.OutboxProcessor
import Innovents.Notifications.OutboxWrites

namespace Innovents.Notifications

open Innovents.Lib Innovents.Payments

/-- The handler that a worker runs does not touch the events. -/
def Worker.Sound : Worker → Prop
  | .handling _ _ call => OnlyTells call
  | _ => True

namespace OutboxProcessor

variable {config : OutboxConfig} {env : WorkerEnv} {w w' : World} {t t' : Worker}

theorem writeEvents_eq_ok {f : Table OutboxEvent → Except Refusal (Table OutboxEvent)} :
    writeEvents env w f = .ok w' ↔
      env.fault = none ∧ ∃ events, f w.platform.outboxEvents = .ok events ∧
        w' = w.withEvents events := by
  unfold writeEvents
  cases env.fault with
  | some message => simp
  | none =>
    cases f w.platform.outboxEvents with
    | ok events => simp [World.withEvents, eq_comm]
    | error _ => simp

theorem writeEvents_eq_error {f : Table OutboxEvent → Except Refusal (Table OutboxEvent)}
    {message : String} (h : writeEvents env w f = .error message) :
    env.fault.isSome = true ∨ ∃ r, f w.platform.outboxEvents = .error r := by
  unfold writeEvents at h
  cases hf : env.fault with
  | some message => exact .inl rfl
  | none =>
    rw [hf] at h
    cases he : f w.platform.outboxEvents with
    | ok events =>
      rw [he] at h
      cases h
    | error r => exact .inr ⟨r, rfl⟩

/-- What one step of a worker does to the events, the history and the worker itself. -/
inductive Advance (config : OutboxConfig) (env : WorkerEnv) (w : World) :
    Worker → World → Worker → Prop
  | idle {t t' : Worker} : t.held = [] → t'.held = [] → t'.staleRecords = [] →
      Advance config env w t w t'
  | found {batch : Bool} {staleThreshold : Time} :
      Advance config env w (.recovering batch staleThreshold) w
        (.sweeping batch (findStale config staleThreshold w.platform))
  | recovered {batch : Bool} {record : OutboxEvent} {staleRecords : List OutboxEvent}
      {events : Table OutboxEvent} :
      w.platform.outboxEvents.update record.id (recoverStale config record) = .ok events →
      Advance config env w (.sweeping batch (record :: staleRecords)) (w.withEvents events)
        (.sweeping batch staleRecords)
  | selected {t : Worker} : t.isSelecting = true →
      Advance config env w t w (.marking ((findPending config w.platform).map rawRecord))
  | marked {claimedEvents : List RawOutboxRecord} {events : Table OutboxEvent} :
      w.platform.outboxEvents.updateMany
        (fun e ↦ decide (e.id ∈ claimedEvents.map RawOutboxRecord.id))
        (markProcessing w.clock) = .ok events →
      Advance config env w (.marking claimedEvents) (w.withEvents events)
        (.turning claimedEvents)
  | began {event : RawOutboxRecord} {rest : List RawOutboxRecord} :
      Advance config env w (.turning (event :: rest)) (w.tell (.began event.id))
        (.handling event rest (handleEvent event))
  | worked {event : RawOutboxRecord} {rest : List RawOutboxRecord} {call call' : Handler Unit}
      {platform : Platform} :
      call.step (handlerEnv env w) w.platform = some (platform, call') →
      Advance config env w (.handling event rest call) { w with platform }
        (.handling event rest call')
  | succeeded {event : RawOutboxRecord} {rest : List RawOutboxRecord} {u : Unit} :
      Advance config env w (.handling event rest (.returned (.ok u)))
        (w.tell (.succeeded event.id)) (.handled event rest)
  | failed {event : RawOutboxRecord} {rest : List RawOutboxRecord} {errorMsg : String} :
      Advance config env w (.handling event rest (.returned (.error errorMsg)))
        (w.tell (.failed event.id)) (.failing event rest errorMsg)
  | processed {event : RawOutboxRecord} {rest : List RawOutboxRecord}
      {events : Table OutboxEvent} :
      w.platform.outboxEvents.update event.id (markProcessed w.clock) = .ok events →
      Advance config env w (.handled event rest) (w.withEvents events) (.turning rest)
  | unrecorded {event : RawOutboxRecord} {rest : List RawOutboxRecord} {errorMsg : String} :
      (env.fault.isSome = true ∨
        ∃ r, w.platform.outboxEvents.update event.id (markProcessed w.clock) = .error r) →
      Advance config env w (.handled event rest) w (.failing event rest errorMsg)
  | retried {event : RawOutboxRecord} {rest : List RawOutboxRecord} {errorMsg : String}
      {events : Table OutboxEvent} :
      w.platform.outboxEvents.update event.id (markFailed config event errorMsg) = .ok events →
      Advance config env w (.failing event rest errorMsg) (w.withEvents events)
        (.turning rest)
  | gaveUp {t : Worker} :
      (env.fate = .crashes ∨ (∃ claimedEvents, t = .marking claimedEvents) ∨
        ∃ event rest errorMsg, t = .failing event rest errorMsg ∧ (env.fault.isSome = true ∨
          ∃ r, w.platform.outboxEvents.update event.id (markFailed config event errorMsg) =
            .error r)) →
      Advance config env w t w .returned

theorem afterClaim_advance (ht : t.isSelecting = true) :
    Advance config env w t w (afterClaim (findPending config w.platform)) := by
  cases hp : findPending config w.platform with
  | nil => exact .idle (Worker.held_of_selecting ht) rfl rfl
  | cons e es =>
    have hsel : Advance config env w t w (.marking ((findPending config w.platform).map rawRecord)) :=
      .selected ht
    rwa [hp] at hsel

theorem advance_cases (h : step config env w t = some (w', t')) : Advance config env w t w' t' := by
  by_cases hcrash : env.fate = .crashes
  · cases t <;> simp only [step, hcrash, Option.some.injEq, Prod.mk.injEq, reduceCtorEq] at h <;>
      obtain ⟨rfl, rfl⟩ := h <;> exact .gaveUp (.inl hcrash)
  have hs : t ≠ .returned ∧ advance config env w t = (w', t') := by
    unfold step at h
    split at h
    · cases h
    · exact absurd ‹_› hcrash
    · exact ⟨‹_›, Option.some.inj h⟩
  obtain ⟨hne, ha⟩ := hs
  cases t with
  | started batch =>
    cases ha
    exact .idle rfl rfl rfl
  | recovering batch staleThreshold =>
    simp only [advance] at ha
    split at ha
    · cases ha
      exact .found
    · cases ha
      cases batch <;> exact .idle rfl rfl rfl
  | sweeping batch staleRecords =>
    cases staleRecords with
    | nil =>
      cases ha
      cases batch <;> exact .idle rfl rfl rfl
    | cons record staleRecords =>
      simp only [advance] at ha
      split at ha
      · rename_i w₁ hw
        cases ha
        obtain ⟨_, events, he, rfl⟩ := writeEvents_eq_ok.mp hw
        exact .recovered he
      · cases ha
        cases batch <;> exact .idle rfl rfl rfl
  | claiming =>
    simp only [advance] at ha
    split at ha
    · cases ha
      exact afterClaim_advance rfl
    · cases ha
      exact .idle rfl rfl rfl
  | fallingBack =>
    simp only [advance] at ha
    split at ha
    · cases ha
      exact afterClaim_advance rfl
    · cases ha
      exact .idle rfl rfl rfl
  | marking claimedEvents =>
    simp only [advance] at ha
    split at ha
    · rename_i w₁ hw
      cases ha
      obtain ⟨_, events, he, rfl⟩ := writeEvents_eq_ok.mp hw
      exact .marked he
    · cases ha
      exact .gaveUp (.inr (.inl ⟨claimedEvents, rfl⟩))
  | turning claimedEvents =>
    cases claimedEvents with
    | nil =>
      cases ha
      exact .idle rfl rfl rfl
    | cons event rest =>
      cases ha
      exact .began
  | handling event rest call =>
    cases call with
    | returned result =>
      cases result with
      | ok u =>
        cases ha
        exact .succeeded
      | error errorMsg =>
        cases ha
        exact .failed
    | request label effect next =>
      cases ha
      exact .worked rfl
  | handled event rest =>
    simp only [advance] at ha
    split at ha
    · rename_i w₁ hw
      cases ha
      obtain ⟨_, events, he, rfl⟩ := writeEvents_eq_ok.mp hw
      exact .processed he
    · rename_i message hw
      cases ha
      exact .unrecorded (writeEvents_eq_error hw)
  | failing event rest errorMsg =>
    simp only [advance] at ha
    split at ha
    · rename_i w₁ hw
      cases ha
      obtain ⟨_, events, he, rfl⟩ := writeEvents_eq_ok.mp hw
      exact .retried he
    · rename_i message hw
      cases ha
      exact .gaveUp (.inr (.inr ⟨event, rest, errorMsg, rfl, writeEvents_eq_error hw⟩))
  | returned => exact absurd rfl hne

/-- The status of an event that used up one more attempt. -/
def nextStatus (config : OutboxConfig) (attempts : ℕ) : OutboxStatus :=
  if attempts + 1 ≥ config.maxAttempts then .deadLetter else .pending

theorem recoverStale_status (record e : OutboxEvent) :
    (recoverStale config record e).status = nextStatus config record.attempts := by
  unfold recoverStale nextStatus
  dsimp only
  split_ifs <;> rfl

theorem markFailed_status (event : RawOutboxRecord) (errorMsg : String) (e : OutboxEvent) :
    (markFailed config event errorMsg e).status = nextStatus config event.attempts := by
  unfold markFailed nextStatus
  dsimp only
  split_ifs <;> rfl

theorem recoverStale_id (record e : OutboxEvent) :
    Row.id (recoverStale config record e) = Row.id e := by
  unfold recoverStale
  dsimp only
  split_ifs <;> rfl

theorem markFailed_id (event : RawOutboxRecord) (errorMsg : String) (e : OutboxEvent) :
    Row.id (markFailed config event errorMsg e) = Row.id e := by
  unfold markFailed
  dsimp only
  split_ifs <;> rfl

section Status

variable {events : Table OutboxEvent} {f : OutboxEvent → OutboxEvent}

theorem eventStatus_eq_some {s : Platform} {id : String} {status : OutboxStatus} :
    s.eventStatus id = some status ↔
      ∃ e ∈ s.outboxEvents.rows, e.id = id ∧ e.status = status := by
  simp only [Platform.eventStatus, Option.map_eq_some_iff, Table.get?_eq_some]
  constructor
  · intro h
    obtain ⟨e, ⟨hm, hid⟩, hs⟩ := h
    exact ⟨e, hm, hid, hs⟩
  · intro h
    obtain ⟨e, hm, hid, hs⟩ := h
    exact ⟨e, ⟨hm, hid⟩, hs⟩

theorem eventStatus_update {id : String} {status : OutboxStatus}
    (h : w.platform.outboxEvents.update id f = .ok events) (hid : ∀ e, Row.id (f e) = Row.id e)
    (hf : ∀ e, (f e).status = status) (k : String) :
    (w.withEvents events).platform.eventStatus k =
      if k = id then some status else w.platform.eventStatus k := by
  obtain ⟨⟨e, he, heid⟩, _⟩ := Table.update_eq_ok.mp h
  simp only [Platform.eventStatus, World.withEvents, Table.get?_update h hid]
  split_ifs
  · rw [Table.get?_eq_some.mpr ⟨he, heid⟩, Option.map_some, Option.map_some, hf]
  · rfl

theorem eventStatus_updateMany {ids : List String} {status : OutboxStatus}
    (h : w.platform.outboxEvents.updateMany (fun e ↦ decide (e.id ∈ ids)) f = .ok events)
    (hid : ∀ e, Row.id (f e) = Row.id e) (hf : ∀ e, (f e).status = status) (k : String) :
    (w.withEvents events).platform.eventStatus k =
      if k ∈ ids then (w.platform.eventStatus k).map fun _ ↦ status
      else w.platform.eventStatus k := by
  simp only [Platform.eventStatus, World.withEvents, Table.get?_updateMany h hid, Option.map_map]
  cases hg : w.platform.outboxEvents.get? k with
  | none => simp
  | some e =>
    have heid : e.id = k := (Table.get?_eq_some.mp hg).2
    simp only [Option.map_some, Function.comp_apply, decide_eq_true_eq, heid]
    split_ifs
    · rw [hf]
    · rfl

theorem eventStatus_elapsed (h : Elapsed w w') {k : String} {status : OutboxStatus}
    (hk : w.platform.eventStatus k = some status) : w'.platform.eventStatus k = some status := by
  obtain ⟨enqueued, hrows, _⟩ := h.events
  rw [eventStatus_eq_some] at hk ⊢
  obtain ⟨e, he, hk⟩ := hk
  exact ⟨e, by rw [hrows]; exact List.mem_append_left _ he, hk⟩

end Status

theorem sound_advance (ht : t.Sound) (h : Advance config env w t w' t') :
    t'.Sound := by
  cases h with
  | idle _ hheld _ => cases t' <;> trivial
  | began => exact onlyTells_handleEvent _
  | worked hc => exact (Call.Each.step ht hc).2
  | _ => trivial

/-- A step writes no other event than it says. -/
theorem Advance.eventStatus_eq (h : Advance config env w t w' t') (ht : t.Sound) {k : String}
    (hk : k ∉ t.writes) : w'.platform.eventStatus k = w.platform.eventStatus k := by
  cases h with
  | recovered hu =>
    rw [eventStatus_update hu (recoverStale_id _) (recoverStale_status _), if_neg]
    exact fun he ↦ hk (by simp [Worker.writes, he])
  | marked hu =>
    rw [eventStatus_updateMany hu (fun _ ↦ rfl) (fun _ ↦ rfl), if_neg]
    exact hk
  | processed hu =>
    rw [eventStatus_update hu (fun _ ↦ rfl) (fun _ ↦ rfl), if_neg]
    exact fun he ↦ hk (by simp [Worker.writes, he])
  | retried hu =>
    rw [eventStatus_update hu (markFailed_id _ _) (markFailed_status _ _), if_neg]
    exact fun he ↦ hk (by simp [Worker.writes, he])
  | worked hc =>
    obtain ⟨⟨_, _, htells⟩, _⟩ := Call.Each.step ht hc
    simp only [Platform.eventStatus]
    rw [htells.frame]
  | _ => rfl

theorem mem_findPending {s : Platform} {e : OutboxEvent} (h : e ∈ findPending config s) :
    e ∈ s.outboxEvents.rows ∧ e.status = .pending := by
  have hm := List.mem_of_mem_take h
  rw [List.mem_insertionSort, List.mem_filter] at hm
  exact ⟨hm.1, by simpa using hm.2⟩

theorem findPending_nodup (s : Platform) :
    ((findPending config s).map OutboxEvent.id).Nodup := by
  have hrows : (s.outboxEvents.rows.map OutboxEvent.id).Nodup := s.outboxEvents.nodup_ids
  have hsub := (List.filter_sublist (p := fun e : OutboxEvent ↦ e.status == .pending)
    (l := s.outboxEvents.rows)).map OutboxEvent.id
  have hperm := (List.perm_insertionSort (fun a b : OutboxEvent ↦ a.createdAt ≤ b.createdAt)
    (s.outboxEvents.rows.filter fun e ↦ e.status == .pending)).map OutboxEvent.id
  have hsorted := hperm.nodup_iff.mpr (hrows.sublist hsub)
  exact hsorted.sublist ((List.take_sublist _ _).map OutboxEvent.id)

end OutboxProcessor

end Innovents.Notifications
