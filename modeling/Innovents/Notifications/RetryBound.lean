import Innovents.Notifications.OutboxDeadLetters

namespace Innovents.Notifications

open Innovents.Lib Innovents.Payments OutboxProcessor

/-- How often an event was given to `handleEvent`. -/
def World.runs (w : World) (id : String) : ℕ := w.history.count (.began id)

/-- Time passes. The services enqueue events with the default number of attempts. -/
structure Enqueues (w w' : World) : Prop extends Elapsed w w' where
  fresh : ∀ e ∈ w'.platform.outboxEvents.rows,
    e ∈ w.platform.outboxEvents.rows ∨ e.attempts = 0

/-- The workers of one process among services that enqueue events. -/
def outboxWorker (config : OutboxConfig) : Machine World Worker WorkerEnv :=
  { workers config with world := Enqueues }

/-- No event has been taken up, and none has used up an attempt. -/
def Fresh (p : Pool World Worker) : Prop :=
  Untouched p ∧ ∀ e ∈ p.shared.platform.outboxEvents.rows, e.attempts = 0

/-- A run of the handler that the attempts of the event need not tell yet. -/
def uncounted : OutboxStatus → ℕ
  | .processing | .processed => 1
  | .pending | .deadLetter | .failed => 0

structure Bounded (config : OutboxConfig) (runs : ℕ) (e : OutboxEvent) : Prop where
  counted : runs ≤ e.attempts + uncounted e.status
  limit : e.attempts + uncounted e.status ≤ config.maxAttempts
  left : e.status = .pending → e.attempts < config.maxAttempts

structure Counted (config : OutboxConfig) (w : World) : Prop where
  rows : ∀ e ∈ w.platform.outboxEvents.rows, Bounded config (w.runs e.id) e
  seen : ∀ id, .began id ∈ w.history → (w.platform.eventStatus id).isSome = true

/-- The events of a batch whose turn has not come. -/
def Worker.waiting : Worker → List RawOutboxRecord
  | marking claimedEvents | turning claimedEvents => claimedEvents
  | handling _ rest _ | handled _ rest | failing _ rest _ => rest
  | started _ | recovering _ _ | sweeping _ _ | claiming | fallingBack | returned => []

/-- What a worker has read of the events is still so. -/
structure Keeps (w : World) (t : Worker) : Prop where
  sound : t.Sound
  stale : StillStale w.platform t.staleRecords
  nodup : t.held.Nodup
  current : ∀ event ∈ t.current, ∃ e ∈ w.platform.outboxEvents.rows,
    rawRecord e = event ∧ e.status = .processing
  waiting : ∀ event ∈ t.waiting, ∃ e ∈ w.platform.outboxEvents.rows,
    rawRecord e = event ∧ e.status = t.heldStatus ∧ w.runs e.id ≤ e.attempts

variable {config : OutboxConfig} {env : WorkerEnv} {p : Pool World Worker} {w w' : World}
  {t t' : Worker} {runs : ℕ}

theorem runs_tell (w : World) (x : Handling) (id : String) :
    (w.tell x).runs id = w.runs id + if x = .began id then 1 else 0 := by
  simp only [World.runs, World.tell, List.count_append, List.count_singleton, beq_iff_eq]

theorem runs_tell_of_ne {x : Handling} {id : String} (hx : x ≠ .began id) :
    (w.tell x).runs id = w.runs id := by
  rw [runs_tell, if_neg hx, Nat.add_zero]

section Bounded

variable {e : OutboxEvent}

theorem Bounded.fresh (hmax : 1 ≤ config.maxAttempts) (hs : e.status = .pending)
    (ha : e.attempts = 0) : Bounded config 0 e := by
  refine ⟨Nat.zero_le _, ?_, fun _ ↦ ?_⟩
  · rw [hs, ha]
    exact Nat.zero_le _
  · rw [ha]
    exact hmax

/-- An event that used up one more attempt: the run that was not counted is counted. -/
theorem Bounded.next (h : Bounded config runs e) (hs : e.status = .processing) {e' : OutboxEvent}
    (hattempts : e'.attempts = e.attempts + 1)
    (hstatus : e'.status = nextStatus config e.attempts) : Bounded config runs e' := by
  have hcounted := h.counted
  have hlimit := h.limit
  rw [hs, uncounted] at hcounted hlimit
  have hnone : uncounted e'.status = 0 := by
    rw [hstatus, nextStatus]
    split_ifs <;> rfl
  refine ⟨by omega, by omega, fun hp ↦ ?_⟩
  rw [hstatus, nextStatus] at hp
  split_ifs at hp with hlast
  omega

theorem Bounded.recoverStale (h : Bounded config runs e) (hs : e.status = .processing) :
    Bounded config runs (recoverStale config e e) := by
  refine h.next hs ?_ (recoverStale_status e e)
  unfold OutboxProcessor.recoverStale
  dsimp only
  split_ifs <;> rfl

theorem Bounded.markFailed (h : Bounded config runs e) (hs : e.status = .processing)
    (errorMsg : String) : Bounded config runs (markFailed config (rawRecord e) errorMsg e) := by
  refine h.next hs ?_ (markFailed_status (rawRecord e) errorMsg e)
  unfold OutboxProcessor.markFailed
  dsimp only
  split_ifs <;> rfl

theorem Bounded.markProcessing (h : Bounded config runs e) (hs : e.status = .pending)
    (now : Time) : Bounded config runs (markProcessing now e) := by
  have hcounted := h.counted
  rw [hs, uncounted] at hcounted
  exact ⟨by simp only [OutboxProcessor.markProcessing, uncounted]; omega, h.left hs, nofun⟩

theorem Bounded.markProcessed (h : Bounded config runs e) (hs : e.status = .processing)
    (now : Time) : Bounded config runs (markProcessed now e) := by
  have hcounted := h.counted
  have hlimit := h.limit
  rw [hs] at hcounted hlimit
  exact ⟨hcounted, hlimit, nofun⟩

end Bounded

section Writes

variable {events : Table OutboxEvent} {id : String} {f : OutboxEvent → OutboxEvent}

theorem rows_update (h : Counted config w) (hid : ∀ e, Row.id (f e) = Row.id e)
    (hu : w.platform.outboxEvents.update id f = .ok events)
    (hf : ∀ e ∈ w.platform.outboxEvents.rows, e.id = id →
      Bounded config (w.runs e.id) e → Bounded config (w.runs e.id) (f e)) :
    ∀ e ∈ (w.withEvents events).platform.outboxEvents.rows,
      Bounded config ((w.withEvents events).runs e.id) e := by
  intro e he
  simp only [World.withEvents, (Table.update_eq_ok.mp hu).2] at he
  rcases Table.mem_updateRows.mp he with ⟨a, ha, haid, rfl⟩ | ⟨he, _⟩
  · have hsame : (f a).id = a.id := hid a
    rw [hsame]
    exact hf a ha haid (h.rows a ha)
  · exact h.rows e he

/-- An update of one event leaves the others as they are. -/
theorem mem_update_of_ne (hu : w.platform.outboxEvents.update id f = .ok events)
    {e : OutboxEvent} (he : e ∈ w.platform.outboxEvents.rows) (hne : e.id ≠ id) :
    e ∈ events.rows := by
  rw [(Table.update_eq_ok.mp hu).2]
  exact Table.mem_updateRows.mpr (.inr ⟨he, hne⟩)

end Writes

theorem Keeps.of_idle (hheld : t.held = []) (hstale : t.staleRecords = []) : Keeps w t := by
  refine ⟨?_, hstale ▸ .nil _, hheld ▸ .nil, ?_, ?_⟩
  · cases t <;> trivial
  · cases t <;> simp_all [Worker.current, Worker.held]
  · cases t <;> simp_all [Worker.waiting, Worker.held]

/-- The event whose turn it is. -/
theorem Keeps.current_row (h : Keeps w t) {event : RawOutboxRecord} (hev : t.current = some event)
    {e : OutboxEvent} (he : e ∈ w.platform.outboxEvents.rows) (hid : e.id = event.id) :
    rawRecord e = event ∧ e.status = .processing := by
  obtain ⟨a, ha, hraw, hs⟩ := h.current event (by simp [hev])
  have haid : a.id = event.id := congrArg RawOutboxRecord.id hraw
  obtain rfl := Table.eq_of_id _ he ha (hid.trans haid.symm)
  exact ⟨hraw, hs⟩

/-- The outcome of an event is written down, and the batch goes on with the next one. -/
theorem Keeps.settled {event : RawOutboxRecord} {rest : List RawOutboxRecord}
    {events : Table OutboxEvent} {f : OutboxEvent → OutboxEvent} (h : Keeps w t)
    (hheld : t.held = event.id :: rest.map RawOutboxRecord.id) (hwaiting : t.waiting = rest)
    (hs : t.heldStatus = .processing)
    (hu : w.platform.outboxEvents.update event.id f = .ok events) :
    Keeps (w.withEvents events) (.turning rest) := by
  have hnodup := List.nodup_cons.mp (hheld ▸ h.nodup)
  refine ⟨trivial, .nil _, hnodup.2, by simp [Worker.current], fun event' hev ↦ ?_⟩
  obtain ⟨e, he, rfl, hst, hruns⟩ := h.waiting event' (hwaiting ▸ hev)
  refine ⟨e, mem_update_of_ne hu he fun hid ↦ ?_, rfl, hst.trans hs, hruns⟩
  have hmem : (rawRecord e).id ∈ rest.map RawOutboxRecord.id := List.mem_map_of_mem hev
  rw [show (rawRecord e).id = event.id from hid] at hmem
  exact hnodup.1 hmem

theorem Keeps.recovered {batch : Bool} {record : OutboxEvent} {staleRecords : List OutboxEvent}
    {events : Table OutboxEvent} {f : OutboxEvent → OutboxEvent}
    (h : Keeps w (.sweeping batch (record :: staleRecords)))
    (hu : w.platform.outboxEvents.update record.id f = .ok events) :
    Keeps (w.withEvents events) (.sweeping batch staleRecords) := by
  have hstale := h.stale
  have hnodup := List.nodup_cons.mp hstale.nodup
  refine ⟨trivial, ⟨fun r hr ↦ ?_, hnodup.2⟩, .nil, by simp [Worker.current],
    by simp [Worker.waiting]⟩
  obtain ⟨hmem, hs⟩ := hstale.rows r (List.mem_cons_of_mem _ hr)
  exact ⟨mem_update_of_ne hu hmem fun hid ↦ hnodup.1 (hid ▸ List.mem_map_of_mem hr), hs⟩

/-- A batch is selected among the pending events. -/
theorem Keeps.selected (h : Counted config w) :
    Keeps w (.marking ((findPending config w.platform).map rawRecord)) := by
  refine ⟨trivial, .nil _, ?_, by simp [Worker.current], fun event hev ↦ ?_⟩
  · simp only [Worker.held, List.map_map]
    exact findPending_nodup _
  · obtain ⟨e, he, rfl⟩ := List.mem_map.mp hev
    obtain ⟨hrow, hpending⟩ := mem_findPending he
    have hcounted := (h.rows e hrow).counted
    rw [hpending] at hcounted
    exact ⟨e, hrow, rfl, hpending, hcounted⟩

theorem Keeps.row_pending {claimedEvents : List RawOutboxRecord}
    (h : Keeps w (.marking claimedEvents)) {e : OutboxEvent}
    (he : e ∈ w.platform.outboxEvents.rows)
    (hid : e.id ∈ claimedEvents.map RawOutboxRecord.id) : e.status = .pending := by
  obtain ⟨event, hev, heid⟩ := List.mem_map.mp hid
  obtain ⟨a, ha, rfl, hs, _⟩ := h.waiting event hev
  obtain rfl := Table.eq_of_id _ ha he heid
  exact hs

theorem Keeps.marked {claimedEvents : List RawOutboxRecord} {events : Table OutboxEvent}
    (h : Keeps w (.marking claimedEvents))
    (hu : w.platform.outboxEvents.updateMany
      (fun e ↦ decide (e.id ∈ claimedEvents.map RawOutboxRecord.id))
      (markProcessing w.clock) = .ok events) :
    Keeps (w.withEvents events) (.turning claimedEvents) := by
  refine ⟨trivial, .nil _, h.nodup, by simp [Worker.current], fun event hev ↦ ?_⟩
  obtain ⟨e, he, rfl, _, hruns⟩ := h.waiting event hev
  refine ⟨markProcessing w.clock e, ?_, rfl, rfl, hruns⟩
  have hid : e.id ∈ claimedEvents.map RawOutboxRecord.id := List.mem_map_of_mem hev
  simp only [World.withEvents, Table.store_eq_ok.mp hu]
  exact List.mem_map.mpr ⟨e, he, if_pos (decide_eq_true hid)⟩

theorem rows_marked {claimedEvents : List RawOutboxRecord} {events : Table OutboxEvent}
    (h : Counted config w) (hk : Keeps w (.marking claimedEvents))
    (hu : w.platform.outboxEvents.updateMany
      (fun e ↦ decide (e.id ∈ claimedEvents.map RawOutboxRecord.id))
      (markProcessing w.clock) = .ok events) :
    ∀ e ∈ (w.withEvents events).platform.outboxEvents.rows,
      Bounded config ((w.withEvents events).runs e.id) e := by
  intro e he
  simp only [World.withEvents, Table.store_eq_ok.mp hu] at he
  obtain ⟨a, ha, rfl⟩ := List.mem_map.mp he
  split_ifs with hid
  · exact (h.rows a ha).markProcessing (hk.row_pending ha (of_decide_eq_true hid)) _
  · exact h.rows a ha

/-- An event whose turn has come: its run is not counted yet. -/
theorem rows_began {event : RawOutboxRecord} {rest : List RawOutboxRecord}
    (h : Counted config w) (hk : Keeps w (.turning (event :: rest))) :
    ∀ e ∈ (w.tell (.began event.id)).platform.outboxEvents.rows,
      Bounded config ((w.tell (.began event.id)).runs e.id) e := by
  intro e he
  obtain ⟨hcounted, hlimit, hleft⟩ := h.rows e he
  refine ⟨?_, hlimit, hleft⟩
  rw [runs_tell]
  split_ifs with hid
  · obtain ⟨a, ha, rfl, hs, hruns⟩ := hk.waiting event List.mem_cons_self
    obtain rfl := Table.eq_of_id _ ha he (Handling.began.inj hid)
    rw [hs]
    exact Nat.add_le_add_right hruns 1
  · exact hcounted

theorem Keeps.began {event : RawOutboxRecord} {rest : List RawOutboxRecord}
    (h : Keeps w (.turning (event :: rest))) :
    Keeps (w.tell (.began event.id)) (.handling event rest (handleEvent event)) := by
  refine ⟨onlyTells_handleEvent event, .nil _, h.nodup, fun event' hev ↦ ?_, fun event' hev ↦ ?_⟩
  · obtain rfl := Option.mem_some_iff.mp hev
    obtain ⟨e, he, hraw, hs, _⟩ := h.waiting event List.mem_cons_self
    exact ⟨e, he, hraw, hs⟩
  · obtain ⟨e, he, rfl, hs, hruns⟩ := h.waiting event' (List.mem_cons_of_mem _ hev)
    refine ⟨e, he, rfl, hs, ?_⟩
    have hne : Handling.began event.id ≠ .began e.id := by
      intro hid
      have hmem : (rawRecord e).id ∈ rest.map RawOutboxRecord.id := List.mem_map_of_mem hev
      rw [show (rawRecord e).id = event.id from (Handling.began.inj hid).symm] at hmem
      exact (List.nodup_cons.mp h.nodup).1 hmem
    rw [runs_tell_of_ne hne]
    exact hruns

/-- A worker goes on in its batch, and the events and the runs are as before. -/
theorem Keeps.goes_on (h : Keeps w t) (hsound : t'.Sound) (hstale : t'.staleRecords = [])
    (hheld : t'.held = t.held) (hcurrent : t'.current = t.current)
    (hwaiting : t'.waiting = t.waiting) (hs : t'.heldStatus = t.heldStatus)
    (hevents : w'.platform.outboxEvents = w.platform.outboxEvents)
    (hruns : ∀ id, w'.runs id = w.runs id) : Keeps w' t' := by
  refine ⟨hsound, hstale ▸ .nil _, hheld ▸ h.nodup, ?_, ?_⟩
  · rw [hcurrent, hevents]
    exact h.current
  · rw [hwaiting, hevents, hs]
    simp only [hruns]
    exact h.waiting

theorem Counted.same (h : Counted config w)
    (hevents : w'.platform.outboxEvents = w.platform.outboxEvents)
    (hruns : ∀ id, w'.runs id = w.runs id) :
    ∀ e ∈ w'.platform.outboxEvents.rows, Bounded config (w'.runs e.id) e := by
  rw [hevents]
  simp only [hruns]
  exact h.rows

theorem seen_advance (h : Counted config w) (hk : Keeps w t)
    (ha : Advance config env w t w' t') {id : String} (hid : .began id ∈ w'.history) :
    (w'.platform.eventStatus id).isSome = true := by
  refine present_advance (p := ⟨w, []⟩) ha hk.sound ?_
  cases ha with
  | @began event rest =>
    simp only [World.tell, List.mem_append, List.mem_singleton] at hid
    rcases hid with hid | hid
    · exact h.seen id hid
    · obtain ⟨e, he, hraw, hs, _⟩ := hk.waiting event List.mem_cons_self
      have heid : e.id = event.id := congrArg RawOutboxRecord.id hraw
      rw [← Handling.began.inj hid] at heid
      rw [eventStatus_eq_some.mpr ⟨e, he, heid, hs⟩]
      rfl
  | succeeded => exact h.seen id (by simpa [World.tell] using hid)
  | failed => exact h.seen id (by simpa [World.tell] using hid)
  | _ => exact h.seen id hid

theorem counted_advance (h : Counted config w) (hk : Keeps w t)
    (ha : Advance config env w t w' t') : Counted config w' ∧ Keeps w' t' := by
  have hseen (id : String) (hid : .began id ∈ w'.history) := seen_advance h hk ha hid
  cases ha with
  | idle _ hheld hstale => exact ⟨h, .of_idle hheld hstale⟩
  | found => exact ⟨h, trivial, findStale_stale _ _, .nil, fun _ h ↦ (by cases h), fun _ h ↦ (by cases h)⟩
  | @recovered batch record staleRecords events hu =>
    refine ⟨⟨rows_update h (recoverStale_id _) hu fun e he hid hb ↦ ?_, hseen⟩, hk.recovered hu⟩
    obtain ⟨hrecord, hs⟩ := hk.stale.rows record (by simp [Worker.staleRecords])
    obtain rfl := Table.eq_of_id _ he hrecord hid
    exact hb.recoverStale hs
  | selected _ => exact ⟨h, .selected h⟩
  | marked hu => exact ⟨⟨rows_marked h hk hu, hseen⟩, hk.marked hu⟩
  | began => exact ⟨⟨rows_began h hk, hseen⟩, hk.began⟩
  | worked hc =>
    obtain ⟨⟨_, _, htells⟩, hsound⟩ := Call.Each.step hk.sound hc
    have hevents := congrArg (fun s : Platform ↦ s.outboxEvents) htells.frame
    exact ⟨⟨h.same hevents fun _ ↦ rfl, hseen⟩,
      hk.goes_on hsound rfl rfl rfl rfl rfl hevents fun _ ↦ rfl⟩
  | succeeded =>
    exact ⟨⟨h.same rfl fun _ ↦ runs_tell_of_ne fun h ↦ (by cases h), hseen⟩,
      hk.goes_on trivial rfl rfl rfl rfl rfl rfl fun _ ↦ runs_tell_of_ne fun h ↦ (by cases h)⟩
  | failed =>
    exact ⟨⟨h.same rfl fun _ ↦ runs_tell_of_ne fun h ↦ (by cases h), hseen⟩,
      hk.goes_on trivial rfl rfl rfl rfl rfl rfl fun _ ↦ runs_tell_of_ne fun h ↦ (by cases h)⟩
  | processed hu =>
    refine ⟨⟨rows_update (f := markProcessed w.clock) h (fun _ ↦ rfl) hu
      fun e he hid hb ↦ ?_, hseen⟩, hk.settled rfl rfl rfl hu⟩
    exact hb.markProcessed (hk.current_row rfl he hid).2 _
  | unrecorded _ =>
    exact ⟨h, hk.goes_on trivial rfl rfl rfl rfl rfl rfl fun _ ↦ rfl⟩
  | retried hu =>
    refine ⟨⟨rows_update h (markFailed_id _ _) hu fun e he hid hb ↦ ?_, hseen⟩,
      hk.settled rfl rfl rfl hu⟩
    obtain ⟨rfl, hs⟩ := hk.current_row rfl he hid
    exact hb.markFailed hs _
  | gaveUp _ => exact ⟨h, .of_idle rfl rfl⟩

/-- An event that is enqueued is one that was never taken up. -/
theorem Counted.enqueues (h : Counted config w) (hmax : 1 ≤ config.maxAttempts)
    (hw : Enqueues w w') : Counted config w' := by
  obtain ⟨enqueued, hrows, hpending⟩ := hw.events
  have hnodup : (w'.platform.outboxEvents.rows.map OutboxEvent.id).Nodup :=
    w'.platform.outboxEvents.nodup_ids
  rw [hrows, List.map_append] at hnodup
  have hruns (id : String) : w'.runs id = w.runs id := congrArg (List.count _) hw.history
  refine ⟨fun e he ↦ ?_, fun id hid ↦ ?_⟩
  · rw [hruns]
    rw [hrows] at he
    rcases List.mem_append.mp he with hold | hnew
    · exact h.rows e hold
    have hapart : ∀ a ∈ w.platform.outboxEvents.rows, a.id ≠ e.id := fun a ha hid ↦
      List.disjoint_of_nodup_append hnodup (List.mem_map_of_mem ha)
        (hid ▸ List.mem_map_of_mem hnew)
    have hnever : w.runs e.id = 0 := by
      refine List.count_eq_zero.mpr fun hb ↦ ?_
      obtain ⟨status, hs⟩ := Option.isSome_iff_exists.mp (h.seen e.id hb)
      obtain ⟨a, ha, haid, _⟩ := eventStatus_eq_some.mp hs
      exact hapart a ha haid
    rw [hnever]
    refine .fresh hmax (hpending e hnew) ?_
    exact (hw.fresh e (by rw [hrows]; exact he)).resolve_left fun hold ↦ hapart e hold rfl
  · rw [hw.history] at hid
    obtain ⟨status, hs⟩ := Option.isSome_iff_exists.mp (h.seen id hid)
    rw [eventStatus_elapsed hw.toElapsed hs]
    rfl

theorem Keeps.enqueues (h : Keeps w t) (hw : Enqueues w w') : Keeps w' t := by
  obtain ⟨enqueued, hrows, _⟩ := hw.events
  have hkept (e : OutboxEvent) (he : e ∈ w.platform.outboxEvents.rows) :
      e ∈ w'.platform.outboxEvents.rows := by
    rw [hrows]
    exact List.mem_append_left _ he
  refine ⟨h.sound, ⟨fun r hr ↦ ?_, h.stale.nodup⟩, h.nodup, fun event hev ↦ ?_, fun event hev ↦ ?_⟩
  · exact ⟨hkept r (h.stale.rows r hr).1, (h.stale.rows r hr).2⟩
  · obtain ⟨e, he, hclaim⟩ := h.current event hev
    exact ⟨e, hkept e he, hclaim⟩
  · obtain ⟨e, he, hraw, hs, hruns⟩ := h.waiting event hev
    exact ⟨e, hkept e he, hraw, hs, by rw [World.runs, hw.history]; exact hruns⟩

theorem counted_of_reach (hmax : 1 ≤ config.maxAttempts)
    (h : Reach (outboxWorker config).Step Alone Fresh p) : Counted config p.shared := by
  have hone : Machine.OneByOne (Counted config) Keeps (fun t ↦ t.running = []) p := by
    refine Machine.oneByOne (fun p hp ↦ ?_) (fun p t _ halone ht ↦ ?_) (fun env w t ht ↦ ?_)
      (fun p i env t w' t' hJ hA _ _ hs ↦ counted_advance hJ hA (advance_cases hs))
      (fun w w' hJ hw ↦ ⟨hJ.enqueues hmax hw, fun t ht ↦ ht.enqueues hw⟩) h
    · obtain ⟨⟨hnone, hhistory, hpending⟩, hattempts⟩ := hp
      refine ⟨hnone, fun e he ↦ ?_, by simp [hhistory]⟩
      have hruns : p.shared.runs e.id = 0 := by simp [World.runs, hhistory]
      rw [hruns]
      exact .fresh hmax (hpending e he) (hattempts e he)
    · obtain ⟨batch, rfl⟩ := ht
      exact ⟨halone, .of_idle rfl rfl⟩
    · cases t <;> first | rfl | cases ht
  exact hone.shared

/-- No event is handled more often than it may be tried. -/
theorem retries_bounded (hmax : 1 ≤ config.maxAttempts)
    (h : Reach (outboxWorker config).Step Alone Fresh p) :
    (∀ id, p.shared.history.count (.began id) ≤ config.maxAttempts) ∧
      ∀ e ∈ p.shared.platform.outboxEvents.rows, e.attempts ≤ config.maxAttempts := by
  have hcounted := counted_of_reach hmax h
  refine ⟨fun id ↦ ?_, fun e he ↦ ?_⟩
  · by_cases hid : .began id ∈ p.shared.history
    · obtain ⟨status, hs⟩ := Option.isSome_iff_exists.mp (hcounted.seen id hid)
      obtain ⟨e, he, rfl, _⟩ := eventStatus_eq_some.mp hs
      exact (hcounted.rows e he).counted.trans (hcounted.rows e he).limit
    · rw [List.count_eq_zero.mpr hid]
      exact Nat.zero_le _
  · exact (Nat.le_add_right _ _).trans (hcounted.rows e he).limit

section Sample

theorem enqueues_later (w : World) : Enqueues w (later w) :=
  ⟨elapsed_later w, fun _ he ↦ .inl he⟩

/-- The handler fails, then the process dies in it, then it fails again. -/
theorem tried_three_times : ∃ p : Pool World Worker,
    p.shared.history.count (.began "event-1") = 3 ∧
      (∀ id, p.shared.history.count (.began id) ≤ 3) ∧
      ∀ e ∈ p.shared.platform.outboxEvents.rows, e.attempts ≤ 3 := by
  have hrun : ((outboxWorker defaultConfig).replay aloneMove Worker.isStarted later
      (failRound 0 ++ crashRound 1 0 ++ .spawn (.started true) :: turns 2 7 ++
        .run 2 faultEnv :: turns 2 3) ⟨invitationWorld, []⟩).any (fun p ↦
          p.shared.history.count (.began "event-1") == 3) = true := by
    decide +kernel
  obtain ⟨p, hp, htest⟩ := (Option.any_eq_true ..).mp hrun
  have hinit : Fresh ⟨invitationWorld, []⟩ := ⟨⟨rfl, rfl, by decide⟩, by decide⟩
  have hreach : Reach (outboxWorker defaultConfig).Step Alone Fresh p :=
    Machine.reach_replay (fun p a _ ↦ alone_of_aloneMove p a) (started_starts defaultConfig)
      enqueues_later (.start hinit) hp
  exact ⟨p, beq_iff_eq.mp htest, retries_bounded (by decide) hreach⟩

end Sample

end Innovents.Notifications
