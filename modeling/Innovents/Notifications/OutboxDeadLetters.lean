import Innovents.Notifications.OutboxClaims

namespace Innovents.Notifications

open Innovents.Lib Innovents.Payments OutboxProcessor

namespace Worker

def running : Worker → List Unit
  | returned => []
  | _ => [()]

/-- The event that a worker has taken from its batch. -/
def current : Worker → Option RawOutboxRecord
  | handling event _ _ | handled event _ | failing event _ _ => some event
  | _ => none

/-- The step leaves the rest of a marked batch behind: the process crashes, or the failure of
an event cannot be written down. -/
def isCutOff (env : WorkerEnv) : Worker → Bool
  | marking _ => false
  | failing _ _ _ =>
    match env.fate with
    | .runs => false
    | _ => true
  | _ =>
    match env.fate with
    | .crashes => true
    | _ => false

end Worker

/-- One process: it starts again only after it has ended. -/
def Alone (p : Pool World Worker) : Move Worker WorkerEnv → Prop
  | .spawn _ => ∀ t ∈ p.threads, t.running = []
  | .run _ _ | .world => True

/-- An event of a batch that is cut off before its turn has attempts left. -/
def Spared (config : OutboxConfig) (p : Pool World Worker) : Move Worker WorkerEnv → Prop
  | .run i env => ∀ t, p.threads[i]? = some t → t.isCutOff env = true →
    ∀ e ∈ p.shared.platform.outboxEvents.rows, e.id ∈ t.held →
      .began e.id ∉ p.shared.history → e.attempts + 1 < config.maxAttempts
  | .spawn _ | .world => True

/-- No worker has been started, and no event has been taken up. -/
def Untouched (p : Pool World Worker) : Prop :=
  p.threads = [] ∧ p.shared.history = [] ∧
    ∀ e ∈ p.shared.platform.outboxEvents.rows, e.status = .pending

/-- The events that recovery has read are in the table as it has read them. -/
structure StillStale (s : Platform) (staleRecords : List OutboxEvent) : Prop where
  rows : ∀ r ∈ staleRecords, r ∈ s.outboxEvents.rows ∧ r.status = .processing
  nodup : (staleRecords.map OutboxEvent.id).Nodup

/-- What is known of an event that was never handled. -/
def Waits (config : OutboxConfig) (ts : List Worker) (e : OutboxEvent) : Prop :=
  e.status ≠ .deadLetter ∧ (e.status = .processing → e.attempts + 1 < config.maxAttempts ∨
    ∃ t ∈ ts, e.id ∈ t.held ∧ t.heldStatus = .processing)

structure Hears (config : OutboxConfig) (p : Pool World Worker) : Prop where
  alone : Exclusive Worker.running p.threads
  sound : ∀ t ∈ p.threads, t.Sound
  present : ∀ t ∈ p.threads, ∀ id ∈ t.held, (p.shared.platform.eventStatus id).isSome = true
  stale : ∀ t ∈ p.threads, StillStale p.shared.platform t.staleRecords
  begun : ∀ t ∈ p.threads, ∀ event ∈ t.current, .began event.id ∈ p.shared.history
  waits : ∀ e ∈ p.shared.platform.outboxEvents.rows, .began e.id ∉ p.shared.history →
    Waits config p.threads e

variable {config : OutboxConfig} {env : WorkerEnv} {p q : Pool World Worker} {w' : World}
  {t t' u : Worker} {i j : ℕ}

theorem StillStale.nil (s : Platform) : StillStale s [] := ⟨by simp, by simp⟩

theorem findStale_stale (threshold : Time) (s : Platform) :
    StillStale s (findStale config threshold s) := by
  refine ⟨fun r hr ↦ ?_, ?_⟩
  · have hm := List.mem_filter.mp (List.mem_of_mem_take hr)
    simp only [Bool.and_eq_true, beq_iff_eq] at hm
    exact ⟨hm.1, hm.2.1⟩
  · have hrows : (s.outboxEvents.rows.map OutboxEvent.id).Nodup := s.outboxEvents.nodup_ids
    exact hrows.sublist (((List.take_sublist _ _).trans List.filter_sublist).map _)

/-- The other threads of a process that runs have ended. -/
theorem Hears.others (h : Hears config p) (hi : p.threads[i]? = some t) (ht : t.running = [()])
    (hj : p.threads[j]? = some u) (hji : j ≠ i) : u = .returned := by
  by_contra hu
  have hrun : () ∈ u.running := by cases u <;> first | exact List.mem_singleton_self _ | exact absurd rfl hu
  exact hji (h.alone.apart j i u t () hj hi hrun (by simp [ht]))

/-- An unheard event that is being processed: the running worker holds it, or it has
attempts left. -/
theorem Hears.processing (h : Hears config p) (hi : p.threads[i]? = some t)
    (ht : t.running = [()]) {e : OutboxEvent} (he : e ∈ p.shared.platform.outboxEvents.rows)
    (hunheard : .began e.id ∉ p.shared.history) (hs : e.status = .processing) :
    e.attempts + 1 < config.maxAttempts ∨ (e.id ∈ t.held ∧ t.heldStatus = .processing) := by
  rcases (h.waits e he hunheard).2 hs with hlt | ⟨u, hu, hheld, hst⟩
  · exact .inl hlt
  · obtain ⟨j, hj⟩ := List.getElem?_of_mem hu
    by_cases hji : j = i
    · rw [hji, hi, Option.some.injEq] at hj
      exact .inr ⟨hj ▸ hheld, hj ▸ hst⟩
    · rw [h.others hi ht hj hji] at hheld
      cases hheld

/-- The obligations of a step fall on the worker that takes it. -/
theorem Hears.run (h : Hears config p) (hi : p.threads[i]? = some t) (ht : t.running = [()])
    (hsound : t'.Sound)
    (hpresent : ∀ id ∈ t'.held, (w'.platform.eventStatus id).isSome = true)
    (hstale : StillStale w'.platform t'.staleRecords)
    (hbegun : ∀ event ∈ t'.current, .began event.id ∈ w'.history)
    (hwaits : ∀ e ∈ w'.platform.outboxEvents.rows, .began e.id ∉ w'.history →
      e.status ≠ .deadLetter ∧ (e.status = .processing →
        e.attempts + 1 < config.maxAttempts ∨ (e.id ∈ t'.held ∧ t'.heldStatus = .processing))) :
    Hears config ⟨w', p.threads.set i t'⟩ := by
  have hcases : ∀ u ∈ p.threads.set i t', u = t' ∨ u = .returned := by
    intro u hu
    obtain ⟨j, hj⟩ := List.getElem?_of_mem hu
    rcases getElem?_set_cases hj with ⟨_, rfl⟩ | ⟨hji, hj⟩
    · exact .inl rfl
    · exact .inr (h.others hi ht hj hji)
  have hlen := (List.getElem?_eq_some_iff.mp hi).1
  have hmem : t' ∈ p.threads.set i t' := List.mem_of_getElem? (List.getElem?_set_self hlen)
  refine ⟨?_, fun u hu ↦ ?_, fun u hu id hid ↦ ?_, fun u hu ↦ ?_, fun u hu event hev ↦ ?_,
    fun e he hunheard ↦ ?_⟩
  · refine h.alone.take (by cases t' <;> simp [Worker.running]) fun k _ j u hj hji hk ↦ ?_
    rw [h.others hi ht hj hji] at hk
    cases hk
  · rcases hcases u hu with rfl | rfl
    · exact hsound
    · trivial
  · rcases hcases u hu with rfl | rfl
    · exact hpresent id hid
    · cases hid
  · rcases hcases u hu with rfl | rfl
    · exact hstale
    · exact .nil _
  · rcases hcases u hu with rfl | rfl
    · exact hbegun event hev
    · cases hev
  · obtain ⟨hdead, hproc⟩ := hwaits e he hunheard
    refine ⟨hdead, fun hs ↦ ?_⟩
    rcases hproc hs with hlt | ⟨hheld, hst⟩
    · exact .inl hlt
    · exact .inr ⟨t', hmem, hheld, hst⟩

theorem present_advance (ha : Advance config env p.shared t w' t') (hsound : t.Sound) {id : String}
    (hid : (p.shared.platform.eventStatus id).isSome = true) :
    (w'.platform.eventStatus id).isSome = true := by
  by_cases hk : id ∈ t.writes
  · cases ha with
    | recovered hu =>
      rw [eventStatus_update hu (recoverStale_id _) (recoverStale_status _)]
      split_ifs
      · rfl
      · exact hid
    | marked hu =>
      rw [eventStatus_updateMany hu (fun _ ↦ rfl) (fun _ ↦ rfl)]
      split_ifs
      · simpa using hid
      · exact hid
    | processed hu =>
      rw [eventStatus_update hu (fun _ ↦ rfl) (fun _ ↦ rfl)]
      split_ifs
      · rfl
      · exact hid
    | retried hu =>
      rw [eventStatus_update hu (markFailed_id _ _) (markFailed_status _ _)]
      split_ifs
      · rfl
      · exact hid
    | worked _ => cases hk
    | _ => exact hid
  · rw [ha.eventStatus_eq hsound hk]
    exact hid

/-- As long as the rows and the batch are the same, an unheard event waits as before. -/
theorem Hears.waits_same (h : Hears config p) (hi : p.threads[i]? = some t)
    (ht : t.running = [()]) (hheld : ∀ id ∈ t.held, t.heldStatus = .processing →
      .began id ∉ w'.history → id ∈ t'.held ∧ t'.heldStatus = .processing)
    (hrows : w'.platform.outboxEvents.rows = p.shared.platform.outboxEvents.rows)
    (hhistory : ∀ x ∈ p.shared.history, x ∈ w'.history) :
    ∀ e ∈ w'.platform.outboxEvents.rows, .began e.id ∉ w'.history →
      e.status ≠ .deadLetter ∧ (e.status = .processing →
        e.attempts + 1 < config.maxAttempts ∨ (e.id ∈ t'.held ∧ t'.heldStatus = .processing)) := by
  intro e he hunheard
  rw [hrows] at he
  have hunheard' : .began e.id ∉ p.shared.history := fun hb ↦ hunheard (hhistory _ hb)
  refine ⟨(h.waits e he hunheard').1, fun hs ↦ ?_⟩
  rcases h.processing hi ht he hunheard' hs with hlt | ⟨hmem, hst⟩
  · exact .inl hlt
  · exact .inr (hheld e.id hmem hst hunheard)

/-- Recovery of an unheard event leaves it waiting. -/
theorem Hears.recovered {batch : Bool} {record : OutboxEvent} {staleRecords : List OutboxEvent}
    {events : Table OutboxEvent} (h : Hears config p)
    (hi : p.threads[i]? = some (.sweeping batch (record :: staleRecords)))
    (hu : p.shared.platform.outboxEvents.update record.id (recoverStale config record) =
      .ok events) :
    Hears config ⟨p.shared.withEvents events, p.threads.set i (.sweeping batch staleRecords)⟩ := by
  have hstale := h.stale _ (List.mem_of_getElem? hi)
  simp only [Worker.staleRecords] at hstale
  obtain ⟨hrecord, hprocessing⟩ := hstale.rows record (by simp)
  have hnodup := List.nodup_cons.mp hstale.nodup
  have hrows := (Table.update_eq_ok.mp hu).2
  refine h.run hi rfl trivial (by simp [Worker.held]) ⟨fun r hr ↦ ?_, hnodup.2⟩
    (by simp [Worker.current]) fun e he hunheard ↦ ?_
  · obtain ⟨hmem, hs⟩ := hstale.rows r (List.mem_cons_of_mem _ hr)
    have hne : r.id ≠ record.id := fun hid ↦ hnodup.1 (hid ▸ List.mem_map_of_mem hr)
    simp only [World.withEvents, hrows]
    exact ⟨Table.mem_updateRows.mpr (.inr ⟨hmem, hne⟩), hs⟩
  · simp only [World.withEvents, hrows] at he
    rcases Table.mem_updateRows.mp he with ⟨a, ha, haid, rfl⟩ | ⟨he, _⟩
    · obtain rfl := Table.eq_of_id _ ha hrecord haid
      have hunheard' : .began a.id ∉ p.shared.history := by
        have hid : (recoverStale config a a).id = a.id := recoverStale_id a a
        rwa [hid] at hunheard
      have hlt : a.attempts + 1 < config.maxAttempts := by
        rcases h.processing hi rfl ha hunheard' hprocessing with hlt | ⟨hheld, _⟩
        · exact hlt
        · cases hheld
      have hs : (recoverStale config a a).status = .pending := by
        rw [recoverStale_status, nextStatus, if_neg (by omega)]
      rw [hs]
      exact ⟨by simp, fun hc ↦ by cases hc⟩
    · refine ⟨(h.waits e he hunheard).1, fun hs ↦ .inl ?_⟩
      rcases h.processing hi rfl he hunheard hs with hlt | ⟨hheld, _⟩
      · exact hlt
      · cases hheld

theorem Hears.marked {claimedEvents : List RawOutboxRecord} {events : Table OutboxEvent}
    (h : Hears config p) (hi : p.threads[i]? = some (.marking claimedEvents))
    (hpresent : ∀ id ∈ claimedEvents.map RawOutboxRecord.id,
      ((p.shared.withEvents events).platform.eventStatus id).isSome = true)
    (hu : p.shared.platform.outboxEvents.updateMany
      (fun e ↦ decide (e.id ∈ claimedEvents.map RawOutboxRecord.id))
      (markProcessing p.shared.clock) = .ok events) :
    Hears config ⟨p.shared.withEvents events, p.threads.set i (.turning claimedEvents)⟩ := by
  refine h.run hi rfl trivial hpresent (.nil _) (by simp [Worker.current])
    fun e he hunheard ↦ ?_
  simp only [World.withEvents, Table.store_eq_ok.mp hu] at he
  obtain ⟨a, ha, rfl⟩ := List.mem_map.mp he
  by_cases hid : a.id ∈ claimedEvents.map RawOutboxRecord.id
  · rw [if_pos (decide_eq_true hid)]
    exact ⟨by simp [markProcessing], fun _ ↦ .inr ⟨hid, rfl⟩⟩
  · rw [if_neg (by simpa using hid)] at hunheard ⊢
    refine ⟨(h.waits a ha hunheard).1, fun hs ↦ .inl ?_⟩
    rcases h.processing hi rfl ha hunheard hs with hlt | ⟨_, hst⟩
    · exact hlt
    · cases hst

/-- The outcome of an event that was heard is written down. -/
theorem Hears.settled {event : RawOutboxRecord} {rest : List RawOutboxRecord}
    {events : Table OutboxEvent} {f : OutboxEvent → OutboxEvent} (h : Hears config p)
    (hi : p.threads[i]? = some t) (ht : t.running = [()])
    (hcurrent : t.current = some event) (hheld : t.held = event.id :: rest.map RawOutboxRecord.id)
    (hpresent : ∀ id ∈ rest.map RawOutboxRecord.id,
      ((p.shared.withEvents events).platform.eventStatus id).isSome = true)
    (hid : ∀ e, Row.id (f e) = Row.id e)
    (hu : p.shared.platform.outboxEvents.update event.id f = .ok events) :
    Hears config ⟨p.shared.withEvents events, p.threads.set i (.turning rest)⟩ := by
  have hbegun := h.begun t (List.mem_of_getElem? hi) event (by simp [hcurrent])
  refine h.run hi ht trivial hpresent (.nil _) (by simp [Worker.current]) fun e he hunheard ↦ ?_
  simp only [World.withEvents, (Table.update_eq_ok.mp hu).2] at he
  rcases Table.mem_updateRows.mp he with ⟨a, _, haid, rfl⟩ | ⟨he, hne⟩
  · have hfid : (f a).id = event.id := (hid a).trans haid
    rw [hfid] at hunheard
    exact absurd hbegun hunheard
  · refine ⟨(h.waits e he hunheard).1, fun hs ↦ ?_⟩
    rcases h.processing hi ht he hunheard hs with hlt | ⟨hmem, _⟩
    · exact .inl hlt
    · rw [hheld] at hmem
      exact .inr ⟨(List.mem_cons.mp hmem).resolve_left hne, rfl⟩

theorem running_of_step (h : OutboxProcessor.step config env p.shared t = some (w', t')) :
    t.running = [()] := by
  cases t with
  | returned => cases h
  | _ => rfl

theorem Hears.advance (h : Hears config p) (hi : p.threads[i]? = some t)
    (ht : t.running = [()]) (hspared : t.isCutOff env = true →
      ∀ e ∈ p.shared.platform.outboxEvents.rows, e.id ∈ t.held →
        .began e.id ∉ p.shared.history → e.attempts + 1 < config.maxAttempts)
    (ha : Advance config env p.shared t w' t') : Hears config ⟨w', p.threads.set i t'⟩ := by
  have htm := List.mem_of_getElem? hi
  have hsound := h.sound t htm
  have hsound' := sound_advance hsound ha
  have hpresent : ∀ id ∈ t.held, (w'.platform.eventStatus id).isSome = true := fun id hid ↦
    present_advance ha hsound (h.present t htm id hid)
  cases ha with
  | idle hheld hheld' hstale =>
    refine h.run hi ht hsound' (by simp [hheld']) (hstale ▸ .nil _) (fun event hev ↦ ?_)
      (h.waits_same hi ht (by simp [hheld]) rfl fun _ hx ↦ hx)
    cases t' <;> simp [Worker.current, Worker.held] at hev hheld'
  | found =>
    exact h.run hi ht hsound' (by simp [Worker.held]) (findStale_stale _ _)
      (by simp [Worker.current]) (h.waits_same hi ht (by simp [Worker.held]) rfl fun _ hx ↦ hx)
  | recovered hu => exact h.recovered hi hu
  | selected hsel =>
    have hnone := Worker.held_of_selecting hsel
    refine h.run hi ht hsound' (fun id hid ↦ ?_) (.nil _) (by simp [Worker.current])
      (h.waits_same hi ht (by simp [hnone]) rfl fun _ hx ↦ hx)
    simp only [Worker.held, List.map_map, List.mem_map, Function.comp_apply] at hid
    obtain ⟨e, he, rfl⟩ := hid
    have hs : p.shared.platform.eventStatus (rawRecord e).id = some e.status :=
      eventStatus_eq_some.mpr ⟨e, (mem_findPending he).1, rfl, rfl⟩
    rw [hs]
    rfl
  | marked hu => exact h.marked hi hpresent hu
  | @began event rest =>
    refine h.run hi ht hsound' hpresent (.nil _) (fun event' hev ↦ ?_)
      (h.waits_same hi ht (fun id hid _ _ ↦ ⟨hid, rfl⟩) rfl fun x hx ↦ ?_)
    · obtain rfl := Option.mem_some_iff.mp hev
      simp [World.tell]
    · simp [World.tell, hx]
  | worked hc =>
    have htells := (Call.Each.step hsound hc).1
    obtain ⟨_, _, htells⟩ := htells
    refine h.run hi ht hsound' hpresent (.nil _) (fun event' hev ↦ h.begun _ htm event' hev)
      (h.waits_same hi ht (fun id hid _ _ ↦ ⟨hid, rfl⟩) ?_ fun _ hx ↦ hx)
    simp only
    rw [htells.frame]
  | succeeded =>
    refine h.run hi ht hsound' hpresent (.nil _) (fun event' hev ↦ ?_)
      (h.waits_same hi ht (fun id hid _ _ ↦ ⟨hid, rfl⟩) rfl fun x hx ↦ ?_)
    · exact List.mem_append_left _ (h.begun _ htm event' hev)
    · exact List.mem_append_left _ hx
  | failed =>
    refine h.run hi ht hsound' hpresent (.nil _) (fun event' hev ↦ ?_)
      (h.waits_same hi ht (fun id hid _ _ ↦ ⟨hid, rfl⟩) rfl fun x hx ↦ ?_)
    · exact List.mem_append_left _ (h.begun _ htm event' hev)
    · exact List.mem_append_left _ hx
  | processed hu =>
    exact h.settled (f := markProcessed p.shared.clock) hi ht rfl rfl
      (fun id hid ↦ hpresent id (List.mem_cons_of_mem _ hid)) (fun _ ↦ rfl) hu
  | unrecorded _ =>
    exact h.run hi ht hsound' hpresent (.nil _) (fun event' hev ↦ h.begun _ htm event' hev)
      (h.waits_same hi ht (fun id hid _ _ ↦ ⟨hid, rfl⟩) rfl fun _ hx ↦ hx)
  | retried hu =>
    exact h.settled hi ht rfl rfl (fun id hid ↦ hpresent id (List.mem_cons_of_mem _ hid))
      (markFailed_id _ _) hu
  | gaveUp hwhy =>
    refine h.run hi ht trivial (by simp [Worker.held]) (.nil _) (by simp [Worker.current])
      fun e he hunheard ↦ ⟨(h.waits e he hunheard).1, fun hs ↦ .inl ?_⟩
    rcases h.processing hi ht he hunheard hs with hlt | ⟨hheld, hst⟩
    · exact hlt
    -- the batch was marked, so it has been cut off
    refine hspared ?_ e he hheld hunheard
    rcases hwhy with hcrash | ⟨claimedEvents, rfl⟩ | ⟨event, rest, errorMsg, rfl, hfault⟩
    · cases t with
      | marking claimedEvents => cases hst
      | returned => cases ht
      | _ => simp [Worker.isCutOff, hcrash]
    · cases hst
    · rcases hfault with hf | ⟨r, hr⟩
      · simp only [WorkerEnv.fault] at hf
        simp only [Worker.isCutOff]
        split <;> simp_all
      · have hsome := h.present _ htm event.id (by simp [Worker.held])
        obtain ⟨status, hstatus⟩ := Option.isSome_iff_exists.mp hsome
        obtain ⟨events, hu⟩ := update_of_status hstatus (markFailed_id event errorMsg)
        rw [hu] at hr
        cases hr

theorem Hears.step (h : Hears config p) {a : Move Worker WorkerEnv} (halone : Alone p a)
    (hspared : Spared config p a) (hs : (workers config).Step p a q) : Hears config q := by
  cases hs with
  | spawn ht =>
    obtain ⟨batch, rfl⟩ := ht
    have hcases : ∀ u ∈ p.threads ++ [.started batch], u ∈ p.threads ∨ u = .started batch :=
      fun u hu ↦ (List.mem_append.mp hu).imp_right List.mem_singleton.mp
    refine ⟨?_, fun u hu ↦ ?_, fun u hu id hid ↦ ?_, fun u hu ↦ ?_, fun u hu event hev ↦ ?_,
      fun e he hunheard ↦ ?_⟩
    · refine ⟨fun u _ ↦ by cases u <;> simp [Worker.running], fun i j u v k hi hj hu hv ↦ ?_⟩
      rcases getElem?_append_singleton_cases hi with ⟨hi', _⟩ | hi
      · rcases getElem?_append_singleton_cases hj with ⟨hj', _⟩ | hj
        · rw [hi', hj']
        · simp [halone v (List.mem_of_getElem? hj)] at hv
      · simp [halone u (List.mem_of_getElem? hi)] at hu
    · rcases hcases u hu with hm | rfl
      · exact h.sound u hm
      · trivial
    · rcases hcases u hu with hm | rfl
      · exact h.present u hm id hid
      · cases hid
    · rcases hcases u hu with hm | rfl
      · exact h.stale u hm
      · exact .nil _
    · rcases hcases u hu with hm | rfl
      · exact h.begun u hm event hev
      · cases hev
    · obtain ⟨hdead, hproc⟩ := h.waits e he hunheard
      refine ⟨hdead, fun hs ↦ (hproc hs).imp_right fun hex ↦ ?_⟩
      obtain ⟨u, hu, hheld⟩ := hex
      exact ⟨u, List.mem_append_left _ hu, hheld⟩
  | @run i env t t' w' hi hstep =>
    exact h.advance hi (running_of_step hstep) (hspared t hi) (advance_cases hstep)
  | @world w' hw =>
    obtain ⟨enqueued, hrows, hpending⟩ := hw.events
    refine ⟨h.alone, h.sound, fun u hu id hid ↦ ?_, fun u hu ↦ ?_, ?_, fun e he hunheard ↦ ?_⟩
    · obtain ⟨status, hs⟩ := Option.isSome_iff_exists.mp (h.present u hu id hid)
      rw [eventStatus_elapsed hw hs]
      rfl
    · have hstale := h.stale u hu
      refine ⟨fun r hr ↦ ⟨?_, (hstale.rows r hr).2⟩, hstale.nodup⟩
      rw [hrows]
      exact List.mem_append_left _ (hstale.rows r hr).1
    · exact hw.history ▸ h.begun
    · simp only [hrows] at he
      simp only [hw.history] at hunheard
      rcases List.mem_append.mp he with hold | hnew
      · exact h.waits e hold hunheard
      · rw [Waits, hpending e hnew]
        exact ⟨by simp, fun hs ↦ by cases hs⟩

theorem Hears.init (h : Untouched p) : Hears config p := by
  obtain ⟨hnone, _, hpending⟩ := h
  refine ⟨hnone ▸ .nil, by simp [hnone], by simp [hnone], by simp [hnone], by simp [hnone],
    fun e he _ ↦ ?_⟩
  rw [Waits, hpending e he]
  exact ⟨by simp, fun hs ↦ by cases hs⟩

/-- What is given up was heard. -/
theorem dead_letters_heard
    (h : Reach (workers config).Step (fun p a ↦ Alone p a ∧ Spared config p a) Untouched p) :
    ∀ e ∈ p.shared.platform.outboxEvents.rows, e.status = .deadLetter →
      .began e.id ∈ p.shared.history := by
  have hI : Hears config p :=
    h.invariant (fun _ hp ↦ .init hp) fun _ _ _ hp hok hs ↦ hp.step hok.1 hok.2 hs
  intro e he hdead
  by_contra hunheard
  exact (hI.waits e he hunheard).1 hdead

section Sample

def secondEvent : OutboxEvent :=
  { invitationEvent with
    id := "event-2"
    createdAt := 1 }

def twoEvents : Table OutboxEvent where
  rows := [invitationEvent, secondEvent]
  apart := by decide

def twoEventsWorld : World :=
  { invitationWorld with platform := { Platform.empty with outboxEvents := twoEvents } }

def crashEnv : WorkerEnv := ⟨.crashes, fun _ ↦ ""⟩

def faultEnv : WorkerEnv := ⟨.fails "Connection is closed.", fun _ ↦ ""⟩

/-- Six minutes pass. -/
def later (w : World) : World := { w with clock := w.clock + 360000 }

theorem elapsed_later (w : World) : Elapsed w (later w) :=
  ⟨by simp [later], rfl, [], by simp [later], by simp⟩

def aloneMove (p : Pool World Worker) : Move Worker WorkerEnv → Bool
  | .spawn _ => p.threads.all fun t ↦ t.running.isEmpty
  | .run _ _ | .world => true

theorem alone_of_aloneMove (p : Pool World Worker) (a : Move Worker WorkerEnv)
    (h : aloneMove p a = true) : Alone p a := by
  cases a with
  | spawn t =>
    intro u hu
    simpa using List.all_eq_true.mp h u hu
  | run i env => trivial
  | world => trivial

def sparedMove (p : Pool World Worker) : Move Worker WorkerEnv → Bool
  | .run i env => (p.threads[i]?).all fun t ↦ !t.isCutOff env
  | .spawn _ | .world => true

theorem spared_of_sparedMove (p : Pool World Worker) (a : Move Worker WorkerEnv)
    (h : sparedMove p a = true) : Spared config p a := by
  cases a with
  | run i env =>
    intro t ht hcut
    simp only [sparedMove, ht, Option.all_some, hcut] at h
    cases h
  | spawn t => trivial
  | world => trivial

def performAlone (check : Pool World Worker → Move Worker WorkerEnv → Bool) :
    List (Move Worker WorkerEnv) → Pool World Worker → Option (Pool World Worker) :=
  (workers defaultConfig).replay check Worker.isStarted later

/-- The process starts, recovers `n` events, claims and dies in the first handler; then time
passes. -/
def crashRound (i n : ℕ) : List (Move Worker WorkerEnv) :=
  .spawn (.started true) :: turns i (6 + n) ++ [.run i crashEnv, .world]

/-- The process starts, claims one event, its handler fails, and it ends. -/
def failRound (i : ℕ) : List (Move Worker WorkerEnv) :=
  .spawn (.started true) :: turns i 6 ++ .run i faultEnv :: turns i 3

/-- The event behind the one that kills the process is never handled. -/
theorem given_up_unheard : ∃ p : Pool World Worker,
    Reach (workers defaultConfig).Step Alone Untouched p ∧
      ∃ e ∈ p.shared.platform.outboxEvents.rows, e.status = .deadLetter ∧
        .began e.id ∉ p.shared.history := by
  have hrun : (performAlone aloneMove (crashRound 0 0 ++ crashRound 1 2 ++ crashRound 2 2 ++
      .spawn (.started false) :: turns 3 5) ⟨twoEventsWorld, []⟩).any (fun p ↦
        p.shared.platform.outboxEvents.rows.any fun e ↦ e.status == .deadLetter &&
          decide (Handling.began e.id ∉ p.shared.history)) = true := by
    decide +kernel
  obtain ⟨p, hp, htest⟩ := (Option.any_eq_true ..).mp hrun
  have hinit : Untouched ⟨twoEventsWorld, []⟩ := ⟨rfl, rfl, by decide⟩
  have hreach : Reach (workers defaultConfig).Step Alone Untouched p :=
    Machine.reach_replay (fun p a _ ↦ alone_of_aloneMove p a) (started_starts _) elapsed_later (.start hinit) hp
  obtain ⟨e, he, hdead⟩ := List.any_eq_true.mp htest
  simp only [Bool.and_eq_true, beq_iff_eq, decide_eq_true_eq] at hdead
  exact ⟨p, hreach, e, he, hdead⟩

/-- An event whose handler fails three times is given up, and was heard. -/
theorem given_up_heard : ∃ p : Pool World Worker,
    (∃ e ∈ p.shared.platform.outboxEvents.rows, e.status = .deadLetter) ∧
      ∀ e ∈ p.shared.platform.outboxEvents.rows, e.status = .deadLetter →
        .began e.id ∈ p.shared.history := by
  have hrun : (performAlone (fun p a ↦ aloneMove p a && sparedMove p a)
      (failRound 0 ++ failRound 1 ++ failRound 2) ⟨invitationWorld, []⟩).any (fun p ↦
        p.shared.platform.outboxEvents.rows.any fun e ↦ e.status == .deadLetter) = true := by
    decide +kernel
  obtain ⟨p, hp, htest⟩ := (Option.any_eq_true ..).mp hrun
  have hinit : Untouched ⟨invitationWorld, []⟩ := ⟨rfl, rfl, by decide⟩
  have hok (r : Pool World Worker) (a : Move Worker WorkerEnv)
      (h : (aloneMove r a && sparedMove r a) = true) :
      Alone r a ∧ Spared defaultConfig r a := by
    obtain ⟨halone, hspared⟩ := Bool.and_eq_true_iff.mp h
    exact ⟨alone_of_aloneMove r a halone, spared_of_sparedMove r a hspared⟩
  have hreach : Reach (workers defaultConfig).Step
      (fun p a ↦ Alone p a ∧ Spared defaultConfig p a) Untouched p :=
    Machine.reach_replay (fun p a _ ↦ hok p a) (started_starts _) elapsed_later (.start hinit) hp
  obtain ⟨e, he, hdead⟩ := List.any_eq_true.mp htest
  exact ⟨p, ⟨e, he, beq_iff_eq.mp hdead⟩, dead_letters_heard hreach⟩

end Sample

end Innovents.Notifications
