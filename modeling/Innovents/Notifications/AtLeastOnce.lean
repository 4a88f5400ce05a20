import Innovents.Notifications.HeededFailures
import Innovents.Notifications.OutboxClaims

namespace Innovents.Notifications

open Innovents.Lib Innovents.Payments OutboxProcessor NotificationPreferenceService

/-- A record of the event, whatever the number of its attempts. -/
def SameEvent (event event' : RawOutboxRecord) : Prop := ∃ n, event' = { event with attempts := n }

/-- The events that a worker has selected and not yet dealt with, as it has read them. -/
def Worker.records : Worker → List RawOutboxRecord
  | .marking claimedEvents | .turning claimedEvents => claimedEvents
  | .handling event rest _ | .handled event rest | .failing event rest _ => event :: rest
  | .started _ | .recovering _ _ | .sweeping _ _ | .claiming | .fallingBack | .returned => []

theorem Worker.records_eq_nil {t : Worker} (h : t.held = []) : t.records = [] := by
  cases t with
  | marking claimedEvents => exact List.map_eq_nil_iff.mp h
  | turning claimedEvents => exact List.map_eq_nil_iff.mp h
  | handling event rest call => cases h
  | handled event rest => cases h
  | failing event rest errorMsg => cases h
  | _ => rfl

section

variable (config : OutboxConfig) (event : RawOutboxRecord) (u : String) (c : NotificationChannel)

/-- Workers among services that keep the notifications, and under which a user whom the event is
for remains one. -/
def attendedWorkers : Machine World Worker WorkerEnv :=
  { workers config with
    world := fun w w' ↦ Elapsed w w' ∧ Meanwhile event u c w.platform w'.platform ∧
      ∀ e ∈ w'.platform.outboxEvents.rows, e ∉ w.platform.outboxEvents.rows →
        e.id = event.id → SameEvent event (rawRecord e) }

/-- No failure is swallowed while the event is handled. -/
def FailuresHeeded (p : Pool World Worker) : Move Worker WorkerEnv → Prop
  | .run i env => ∀ event' rest call label, p.threads[i]? = some (.handling event' rest call) →
    SameEvent event event' → call.label? = some label →
    Heeded event label (handlerEnv env p.shared)
  | _ => True

/-- Nobody works yet, and the event is still to be processed. -/
structure Awaiting (p : Pool World Worker) : Prop where
  threads : p.threads = []
  intends : Intends event u c p.shared.platform
  events : ∀ e ∈ p.shared.platform.outboxEvents.rows, e.id = event.id →
    SameEvent event (rawRecord e) ∧ e.status ≠ .processed

/-- What a worker knows of the event, and what its handler will have done. -/
structure Worker.Minds (s : Platform) (t : Worker) : Prop where
  sound : t.Sound
  records : ∀ x ∈ t.records, x.id = event.id → SameEvent event x
  handling : ∀ x rest call, t = .handling x rest call → x.id = event.id →
    call.wp (Meanwhile event u c) (Heeded event) (TellsIfOk event u c) s
  handled : ∀ x rest, t = .handled x rest → x.id = event.id → Told event u c s

/-- What is known of the event while workers handle it. -/
structure Attended (w : World) : Prop where
  intends : Intends event u c w.platform
  events : ∀ e ∈ w.platform.outboxEvents.rows, e.id = event.id →
    SameEvent event (rawRecord e) ∧ (e.status = .processed → Told event u c w.platform)

end

variable {config : OutboxConfig} {event event' : RawOutboxRecord} {u : String}
  {c : NotificationChannel} {env : WorkerEnv} {w w' : World} {t t' : Worker} {s s' : Platform}
  {p q : Pool World Worker} {a : Move Worker WorkerEnv}

section SameEvent

theorem intends_attempts (n : ℕ) :
    Intends { event with attempts := n } u c s ↔ Intends event u c s := by
  have hnotification (h : HandledEvent) := Enqueued.notificationFor_attempts h event n u
  constructor
  · intro hi
    refine ⟨hi.recipient, hi.user, fun h hh ↦ ?_, hi.queues⟩
    rw [← hnotification]
    exact hi.allowed h hh
  · intro hi
    refine ⟨hi.recipient, hi.user, fun h hh ↦ ?_, hi.queues⟩
    rw [hnotification]
    exact hi.allowed h hh

theorem told_attempts (n : ℕ) : Told { event with attempts := n } u c s ↔ Told event u c s := by
  have hkey : notificationKey { event with attempts := n } u c = notificationKey event u c := by
    simp only [notificationKey, Enqueued.notificationFor_attempts]
  rw [Told, Told, hkey]

theorem handleEvent_same (hsame : SameEvent event event') (hi : Intends event u c s) :
    (handleEvent event').wp (Meanwhile event u c) (Heeded event) (TellsIfOk event u c) s := by
  obtain ⟨n, rfl⟩ := hsame
  have hheeded := handleEvent_heeded ((intends_attempts n).mpr hi)
  have hmeanwhile : Meanwhile { event with attempts := n } u c = Meanwhile event u c := by
    funext s s'
    refine propext ⟨fun h ↦ ?_, fun h ↦ ?_⟩
    · exact ⟨fun hi ↦ (intends_attempts n).mp (h.intends ((intends_attempts n).mpr hi)),
        h.notifications, h.jobs⟩
    · exact ⟨fun hi ↦ (intends_attempts n).mpr (h.intends ((intends_attempts n).mp hi)),
        h.notifications, h.jobs⟩
  rw [hmeanwhile] at hheeded
  exact Call.wpg_mono hheeded fun r s hr a ha ↦ (told_attempts n).mp (hr a ha)

theorem SameEvent.id_eq (h : SameEvent event event') : event'.id = event.id := by
  obtain ⟨n, rfl⟩ := h
  rfl

end SameEvent

theorem Worker.Minds.meanwhile (h : t.Minds event u c s) (hm : Meanwhile event u c s s') :
    t.Minds event u c s' where
  sound := h.sound
  records := h.records
  handling x rest call ht hx := Call.wpg_stable (fun _ _ _ h h' ↦ h.trans h')
    (fun _ _ _ hr hm a ha ↦ (hr a ha).meanwhile hm) (h.handling x rest call ht hx) hm
  handled x rest ht hx := (h.handled x rest ht hx).meanwhile hm

theorem meanwhile_withEvents (events : Table OutboxEvent) :
    Meanwhile event u c w.platform (w.withEvents events).platform :=
  ⟨fun hi ↦ ⟨hi.recipient, hi.user, hi.allowed, hi.queues⟩, fun n hn ↦ ⟨n, hn, rfl, rfl⟩,
    fun _ ↦ id⟩

/-- What the others see of a step of a worker. -/
theorem advance_meanwhile (ht : t.Sound) (h : Advance config env w t w' t') :
    Meanwhile event u c w.platform w'.platform := by
  cases h with
  | recovered _ => exact meanwhile_withEvents _
  | marked _ => exact meanwhile_withEvents _
  | processed _ => exact meanwhile_withEvents _
  | retried _ => exact meanwhile_withEvents _
  | worked hc =>
    obtain ⟨⟨_, _, htells⟩, _⟩ := Call.Each.step ht hc
    exact .of_tells htells
  | _ => exact .refl _

/-- A worker that holds nothing minds nothing. -/
theorem Worker.Minds.idle (h : t.held = []) : t.Minds event u c s where
  sound := by
    cases t with
    | handling x rest call => cases h
    | _ => trivial
  records x hx := by
    rw [Worker.records_eq_nil h] at hx
    cases hx
  handling x rest call ht := by
    subst ht
    cases h
  handled x rest ht := by
    subst ht
    cases h

/-- A worker between two handlers. -/
theorem Worker.Minds.between (h : ∀ x ∈ t.records, x.id = event.id → SameEvent event x)
    (hhandling : ∀ x rest call, t ≠ .handling x rest call) (hhandled : ∀ x rest, t ≠ .handled x rest) :
    t.Minds event u c s where
  sound := by
    cases t with
    | handling x rest call => exact absurd rfl (hhandling x rest call)
    | _ => trivial
  records := h
  handling x rest call ht := absurd ht (hhandling x rest call)
  handled x rest ht := absurd ht (hhandled x rest)

section Events

variable {f : OutboxEvent → OutboxEvent} {events : Table OutboxEvent}

/-- A write to events that changes nothing of what their handlers read. -/
theorem Attended.rewritten {P : OutboxEvent → Prop} [DecidablePred P] (h : Attended event u c w)
    (hrows : events.rows = w.platform.outboxEvents.rows.map fun e ↦ if P e then f e else e)
    (hf : ∀ e, rawRecord (f e) = { rawRecord e with attempts := (f e).attempts })
    (hstatus : ∀ e, P e → e.id = event.id → (f e).status = .processed →
      Told event u c w.platform) :
    Attended event u c (w.withEvents events) := by
  refine ⟨(meanwhile_withEvents events).intends h.intends, fun e he hid ↦ ?_⟩
  have hkeep : ∀ _ : Told event u c w.platform, Told event u c (w.withEvents events).platform :=
    fun htold ↦ htold.meanwhile (meanwhile_withEvents events)
  have hmem : e ∈ events.rows := he
  rw [hrows] at hmem
  obtain ⟨e, hrow, rfl⟩ := List.mem_map.mp hmem
  split_ifs at hid ⊢ with hP
  · have hid' : e.id = event.id := by
      have hraw := congrArg RawOutboxRecord.id (hf e)
      exact hraw.symm.trans hid
    obtain ⟨⟨n, hn⟩, _⟩ := h.events e hrow hid'
    refine ⟨⟨(f e).attempts, ?_⟩, fun hprocessed ↦ hkeep (hstatus e hP hid' hprocessed)⟩
    rw [hf, hn]
  · obtain ⟨hsame, htold⟩ := h.events e hrow hid
    exact ⟨hsame, fun hprocessed ↦ hkeep (htold hprocessed)⟩

theorem recoverStale_record (record e : OutboxEvent) :
    rawRecord (recoverStale config record e) =
      { rawRecord e with attempts := (recoverStale config record e).attempts } := by
  unfold recoverStale
  dsimp only
  split_ifs <;> rfl

theorem markFailed_record (event : RawOutboxRecord) (errorMsg : String) (e : OutboxEvent) :
    rawRecord (markFailed config event errorMsg e) =
      { rawRecord e with attempts := (markFailed config event errorMsg e).attempts } := by
  unfold markFailed
  dsimp only
  split_ifs <;> rfl

theorem nextStatus_ne_processed (n : ℕ) : nextStatus config n ≠ .processed := by
  unfold nextStatus
  split_ifs <;> simp

theorem Attended.advance (ha : Attended event u c w) (ht : t.Minds event u c w.platform)
    (h : Advance config env w t w' t') : Attended event u c w' := by
  have hmeanwhile : Meanwhile event u c w.platform w'.platform := advance_meanwhile ht.sound h
  cases h with
  | @recovered batch record staleRecords events hu =>
    refine ha.rewritten (Table.update_eq_ok.mp hu).2 (recoverStale_record record) ?_
    intro e _ _ hprocessed
    rw [recoverStale_status] at hprocessed
    exact absurd hprocessed (nextStatus_ne_processed _)
  | @marked claimedEvents events hu =>
    have hrows := Table.store_eq_ok.mp hu
    simp only [decide_eq_true_eq] at hrows
    refine ha.rewritten hrows (fun _ ↦ rfl) ?_
    intro e _ _ hprocessed
    cases hprocessed
  | @processed x rest events hu =>
    refine ha.rewritten (Table.update_eq_ok.mp hu).2 (fun _ ↦ rfl) fun e hx hid _ ↦ ?_
    exact ht.handled x rest rfl (hx.symm.trans hid)
  | @retried x rest errorMsg events hu =>
    refine ha.rewritten (Table.update_eq_ok.mp hu).2 (markFailed_record x errorMsg) ?_
    intro e _ _ hprocessed
    rw [markFailed_status] at hprocessed
    exact absurd hprocessed (nextStatus_ne_processed _)
  | worked hc =>
    obtain ⟨⟨_, _, htells⟩, _⟩ := Call.Each.step ht.sound hc
    refine ⟨hmeanwhile.intends ha.intends, fun e he hid ↦ ?_⟩
    rw [htells.frame] at he
    obtain ⟨hsame, htold⟩ := ha.events e he hid
    exact ⟨hsame, fun hprocessed ↦ (htold hprocessed).meanwhile hmeanwhile⟩
  | _ => exact ⟨ha.intends, ha.events⟩

end Events

theorem Worker.Minds.advance (ha : Attended event u c w)
    (hok : ∀ event' rest call label, t = .handling event' rest call → SameEvent event event' →
      call.label? = some label → Heeded event label (handlerEnv env w))
    (ht : t.Minds event u c w.platform) (h : Advance config env w t w' t') :
    t'.Minds event u c w'.platform := by
  cases h with
  | idle _ hheld _ => exact .idle hheld
  | found => exact .idle rfl
  | recovered _ => exact .idle rfl
  | selected _ =>
    refine .between (fun x hx hid ↦ ?_) (fun _ _ _ ↦ by simp) fun _ _ ↦ by simp
    obtain ⟨e, he, rfl⟩ := List.mem_map.mp hx
    exact (ha.events e (mem_findPending he).1 hid).1
  | marked _ => exact .between ht.records (fun _ _ _ ↦ by simp) fun _ _ ↦ by simp
  | @began x rest =>
    refine ⟨onlyTells_handleEvent x, ht.records, fun y rest' call hy hid ↦ ?_, fun _ _ hy ↦ ?_⟩
    · cases hy
      exact handleEvent_same (ht.records x List.mem_cons_self hid) ha.intends
    · cases hy
  | @worked x rest call call' platform hc =>
    refine ⟨(Call.Each.step ht.sound hc).2, ht.records, fun y rest' call'' hy hid ↦ ?_,
      fun _ _ hy ↦ ?_⟩
    · cases hy
      have hsame := ht.records x List.mem_cons_self hid
      exact (Call.wpg_step (ht.handling x rest call rfl hid) (.refl _)
        (fun label hlabel ↦ hok x rest call label rfl hsame hlabel) hc).2
    · cases hy
  | @succeeded x rest v =>
    refine ⟨trivial, ht.records, fun _ _ _ hy ↦ ?_, fun y rest' hy hid ↦ ?_⟩
    · cases hy
    · cases hy
      exact ht.handling x rest _ rfl hid v rfl
  | failed => exact .between ht.records (fun _ _ _ ↦ by simp) fun _ _ ↦ by simp
  | processed _ =>
    exact .between (fun x hx ↦ ht.records x (List.mem_cons_of_mem _ hx)) (fun _ _ _ ↦ by simp)
      fun _ _ ↦ by simp
  | unrecorded _ => exact .between ht.records (fun _ _ _ ↦ by simp) fun _ _ ↦ by simp
  | retried _ =>
    exact .between (fun x hx ↦ ht.records x (List.mem_cons_of_mem _ hx)) (fun _ _ _ ↦ by simp)
      fun _ _ ↦ by simp
  | gaveUp _ => exact .idle rfl

theorem Attended.elapsed (ha : Attended event u c w)
    (hw : (attendedWorkers config event u c).world w w') : Attended event u c w' := by
  obtain ⟨helapsed, hmeanwhile, henqueued⟩ := hw
  refine ⟨hmeanwhile.intends ha.intends, fun e he hid ↦ ?_⟩
  by_cases hold : e ∈ w.platform.outboxEvents.rows
  · obtain ⟨hsame, htold⟩ := ha.events e hold hid
    exact ⟨hsame, fun hprocessed ↦ (htold hprocessed).meanwhile hmeanwhile⟩
  · refine ⟨henqueued e he hold hid, fun hprocessed ↦ ?_⟩
    -- an event that was just enqueued is pending
    obtain ⟨enqueued, hrows, hpending⟩ := helapsed.events
    rw [hrows, List.mem_append] at he
    rw [hpending e (he.resolve_left hold)] at hprocessed
    cases hprocessed

/-- An event that ends up processed has been told to every user it is for, on every channel the
user allows, if no failure is swallowed on the way. -/
theorem processed_told
    (h : Reach (attendedWorkers config event u c).Step (FailuresHeeded event) (Awaiting event u c) p) :
    ∀ e ∈ p.shared.platform.outboxEvents.rows, e.id = event.id → e.status = .processed →
      Told event u c p.shared.platform := by
  have hI : Attended event u c p.shared ∧ ∀ t ∈ p.threads, t.Minds event u c p.shared.platform := by
    refine Machine.outline (J := Attended event u c) (A := fun w t ↦ t.Minds event u c w.platform)
      (fun p hp ↦ ⟨⟨hp.intends, fun e he hid ↦ ?_⟩, ?_⟩) (fun w t _ hstart ↦ ?_)
      (fun p i env t w' t' ha ht hi hok hstep ↦ ?_)
      (fun w w' ha hw ↦ ⟨ha.elapsed hw, fun t ht ↦ ht.meanwhile hw.2.1⟩) h
    · obtain ⟨hsame, hne⟩ := hp.events e he hid
      exact ⟨hsame, fun hprocessed ↦ absurd hprocessed hne⟩
    · rw [hp.threads]
      exact fun t ht ↦ absurd ht List.not_mem_nil
    · obtain ⟨batch, rfl⟩ := hstart
      exact .idle rfl
    · have hadvance := advance_cases hstep
      refine ⟨ha.advance ht hadvance, .advance ha ?_ ht hadvance,
        fun t ht' ↦ ht'.meanwhile (advance_meanwhile ht.sound hadvance)⟩
      intro event' rest call label htc hsame hlabel
      exact hok event' rest call label (htc ▸ hi) hsame hlabel
  exact fun e he hid hprocessed ↦ (hI.1.events e he hid).2 hprocessed

section Renewal

def renewalRecord : RawOutboxRecord := renewed.record "evt-1" 0

def renewalEvent : OutboxEvent where
  id := renewalRecord.id
  eventType := renewalRecord.eventType
  aggregateType := renewalRecord.aggregateType
  aggregateId := renewalRecord.aggregateId
  payload := renewalRecord.payload
  status := .pending
  attempts := 0
  lastError := none
  createdAt := 0
  processedAt := none
  processingStartedAt := none

def renewalWorld : World where
  platform := { subscriberPlatform with outboxEvents := .singleton renewalEvent }
  clock := 0
  history := []

theorem renewal_awaiting :
    Awaiting renewalRecord subscriberId .inApp ⟨renewalWorld, []⟩ where
  threads := rfl
  intends := by
    refine ⟨⟨[subscriberId], ?_, List.mem_singleton_self _⟩, by decide, fun h hh ↦ ?_, fun q ↦ ?_⟩
    · refine Enqueued.recipients_record renewed "evt-1" 0 (fun x hx ↦ ?_) fun post hpost ↦ ?_
      · rw [List.mem_singleton.mp hx]
        decide
      · cases hpost
    · cases hh
      rfl
    · cases q <;> decide
  events e he _ := by
    rw [List.mem_singleton.mp he]
    exact ⟨⟨0, rfl⟩, by decide⟩

def okEnv : WorkerEnv := ⟨.runs, freshId⟩

def lostEnv : WorkerEnv := ⟨.fails "Can't reach database server", freshId⟩

/-- One worker takes up the event and handles it; the first statement of the handler runs as
`env` says. -/
def oneBatch (env : WorkerEnv) : List (Move Worker WorkerEnv) :=
  .spawn (.started true) :: (List.replicate 6 (.run 0 okEnv) ++ .run 0 env ::
    List.replicate 7 (.run 0 okEnv))

def runBatch (env : WorkerEnv) : Option (Pool World Worker) :=
  (attendedWorkers defaultConfig renewalRecord subscriberId .inApp).replay (fun _ _ ↦ true)
    Worker.isStarted (fun w ↦ w) (oneBatch env) ⟨renewalWorld, []⟩

theorem reach_runBatch {ok : Pool World Worker → Move Worker WorkerEnv → Prop} {env : WorkerEnv}
    (hok : ∀ r, ∀ m ∈ oneBatch env, ok r m) (h : runBatch env = some p) :
    Reach (attendedWorkers defaultConfig renewalRecord subscriberId .inApp).Step ok
      (Awaiting renewalRecord subscriberId .inApp) p :=
  Machine.reach_replay (fun r m hm _ ↦ hok r m hm) (started_starts defaultConfig)
    (fun w ↦ ⟨elapsed_refl w, .refl _, fun _ he hne ↦ absurd he hne⟩) (.start renewal_awaiting) h

def isProcessed (p : Pool World Worker) : Bool :=
  p.shared.platform.outboxEvents.rows.any fun e ↦ e.id == renewalRecord.id && e.status == .processed

theorem exists_of_isProcessed (h : isProcessed p = true) :
    ∃ e ∈ p.shared.platform.outboxEvents.rows, e.id = renewalRecord.id ∧ e.status = .processed := by
  obtain ⟨e, he, htest⟩ := List.any_eq_true.mp h
  simp only [Bool.and_eq_true, beq_iff_eq] at htest
  exact ⟨e, he, htest⟩

/-- A batch in which nothing fails. -/
theorem renewal_told : ∃ p : Pool World Worker,
    (∃ e ∈ p.shared.platform.outboxEvents.rows, e.id = renewalRecord.id ∧ e.status = .processed) ∧
      Told renewalRecord subscriberId .inApp p.shared.platform := by
  have hrun : (runBatch okEnv).any isProcessed = true := by decide +kernel
  obtain ⟨p, hp, htest⟩ := (Option.any_eq_true ..).mp hrun
  obtain ⟨e, he, hid, hprocessed⟩ := exists_of_isProcessed htest
  refine ⟨p, ⟨e, he, hid, hprocessed⟩, processed_told (reach_runBatch ?_ hp) e he hid hprocessed⟩
  intro r m hm
  have hmove : m = .spawn (.started true) ∨ m = .run 0 okEnv := by
    simp only [oneBatch, List.mem_cons, List.mem_append, List.mem_replicate] at hm
    tauto
  rcases hmove with rfl | rfl
  · trivial
  · exact fun _ _ _ _ _ _ _ ↦ ⟨fun _ ↦ rfl, freshId_ne⟩

/-- The insertion of the first notification fails, and the event is processed all the same. -/
theorem renewal_lost : ∃ p : Pool World Worker,
    Reach (attendedWorkers defaultConfig renewalRecord subscriberId .inApp).Step (fun _ _ ↦ True)
      (Awaiting renewalRecord subscriberId .inApp) p ∧
    (∃ e ∈ p.shared.platform.outboxEvents.rows, e.id = renewalRecord.id ∧ e.status = .processed) ∧
      ¬Told renewalRecord subscriberId .inApp p.shared.platform := by
  have hrun : (runBatch lostEnv).any (fun p ↦ isProcessed p &&
      p.shared.platform.notifications.rows.all fun n ↦
        n.idempotencyKey != notificationKey renewalRecord subscriberId .inApp) = true := by
    decide +kernel
  obtain ⟨p, hp, htest⟩ := (Option.any_eq_true ..).mp hrun
  obtain ⟨hprocessed, hnone⟩ := Bool.and_eq_true_iff.mp htest
  refine ⟨p, reach_runBatch (fun _ _ _ ↦ trivial) hp, exists_of_isProcessed hprocessed, ?_⟩
  intro htold
  obtain ⟨n, hn, hkey, _⟩ := htold
  have hne := List.all_eq_true.mp hnone n hn
  simp [hkey] at hne

end Renewal

end Innovents.Notifications
