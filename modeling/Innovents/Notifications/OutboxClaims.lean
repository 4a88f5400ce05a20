import Innovents.Notifications.OutboxSteps

namespace Innovents.Notifications

open Innovents.Lib Innovents.Payments OutboxProcessor

def isTerminal : OutboxStatus → Bool
  | .processed | .deadLetter => true
  | .pending | .processing | .failed => false

def isHeld (ts : List Worker) (id : String) : Bool := ts.any fun t ↦ decide (id ∈ t.held)

/-- A worker selects no event that a worker holds, and recovery rewrites none that is held or
finished. -/
def Worker.isUndisturbed (config : OutboxConfig) (ts : List Worker) (s : Platform) : Worker → Bool
  | .claiming | .fallingBack => (findPending config s).all fun e ↦ !isHeld ts e.id
  | .sweeping _ (record :: _) =>
    !isHeld ts record.id && (s.eventStatus record.id).all fun status ↦ !isTerminal status
  | _ => true

def Undisturbed (config : OutboxConfig) (p : Pool World Worker) : Move Worker WorkerEnv → Prop
  | .run i _ => ∀ t, p.threads[i]? = some t →
    t.isUndisturbed config p.threads p.shared.platform = true
  | .spawn _ | .world => True

/-- No worker has been started yet. -/
def Unstarted (p : Pool World Worker) : Prop := p.threads = [] ∧ p.shared.history = []

/-- Every worker holds its own events, and nobody else has changed their status. -/
structure Claimed (p : Pool World Worker) : Prop where
  exclusive : Exclusive Worker.held p.threads
  sound : ∀ t ∈ p.threads, t.Sound
  status : ∀ t ∈ p.threads, ∀ id ∈ t.held,
    p.shared.platform.eventStatus id = some t.heldStatus

variable {config : OutboxConfig} {env : WorkerEnv} {p q : Pool World Worker} {w' : World}
  {t t' u : Worker} {i j : ℕ} {id : String}

theorem not_held {ts : List Worker} (h : isHeld ts id = false) (hu : u ∈ ts) : id ∉ u.held := by
  simp only [isHeld, List.any_eq_false, decide_eq_true_eq] at h
  exact h u hu

theorem selected_free {ts : List Worker} {s : Platform} {e : OutboxEvent}
    (hsel : t.isSelecting = true) (hok : t.isUndisturbed config ts s = true)
    (he : e ∈ findPending config s) : isHeld ts e.id = false := by
  have hall : ((findPending config s).all fun e ↦ !isHeld ts e.id) = true := by
    cases t with
    | claiming => exact hok
    | fallingBack => exact hok
    | _ => cases hsel
  simpa using List.all_eq_true.mp hall e he

theorem heldStatus_not_terminal (t : Worker) : isTerminal t.heldStatus = false := by
  cases t <;> rfl

/-- What a worker writes is its own, or up for recovery. -/
theorem writes_cases (hid : id ∈ t.writes)
    (hok : t.isUndisturbed config p.threads p.shared.platform = true) :
    id ∈ t.held ∨ (isHeld p.threads id = false ∧
      ∀ status, p.shared.platform.eventStatus id = some status → isTerminal status = false) := by
  cases t with
  | sweeping batch staleRecords =>
    cases staleRecords with
    | nil => cases hid
    | cons record staleRecords =>
      obtain rfl := List.mem_singleton.mp hid
      simp only [Worker.isUndisturbed, Bool.and_eq_true, Bool.not_eq_true'] at hok
      refine .inr ⟨hok.1, fun status hs ↦ ?_⟩
      have hall := hok.2
      rw [hs] at hall
      simpa using hall
  | marking claimedEvents => exact .inl hid
  | handled event rest => exact .inl (List.mem_cons.mpr (.inl (List.mem_singleton.mp hid)))
  | failing event rest errorMsg => exact .inl (List.mem_cons.mpr (.inl (List.mem_singleton.mp hid)))
  | _ => cases hid

/-- No worker writes an event that another one holds. -/
theorem Claimed.writes_apart (h : Claimed p) (hi : p.threads[i]? = some t)
    (hok : t.isUndisturbed config p.threads p.shared.platform = true)
    (hj : p.threads[j]? = some u) (hji : j ≠ i) (hid : id ∈ u.held) : id ∉ t.writes := by
  intro hw
  rcases writes_cases hw hok with ht | ⟨hfree, _⟩
  · exact hji (h.exclusive.apart j i u t id hj hi hid ht)
  · exact not_held hfree (List.mem_of_getElem? hj) hid

/-- No worker writes an event that is finished. -/
theorem Claimed.writes_open (h : Claimed p) (hi : p.threads[i]? = some t)
    (hok : t.isUndisturbed config p.threads p.shared.platform = true) (hid : id ∈ t.writes)
    {status : OutboxStatus} (hs : p.shared.platform.eventStatus id = some status) :
    isTerminal status = false := by
  rcases writes_cases hid hok with ht | ⟨_, hopen⟩
  · rw [h.status t (List.mem_of_getElem? hi) id ht, Option.some.injEq] at hs
    rw [← hs]
    exact heldStatus_not_terminal t
  · exact hopen status hs

/-- What the stepping worker holds after its step. -/
theorem Claimed.advance_held (h : Claimed p) (hi : p.threads[i]? = some t)
    (hok : t.isUndisturbed config p.threads p.shared.platform = true)
    (ha : Advance config env p.shared t w' t') : Exclusive Worker.held (p.threads.set i t') := by
  cases ha with
  | idle _ hheld _ => exact h.exclusive.release hi (by simp [hheld])
  | selected hsel =>
    have hids : Worker.held (.marking ((findPending config p.shared.platform).map rawRecord)) =
        (findPending config p.shared.platform).map OutboxEvent.id := by
      simp only [Worker.held, List.map_map]
      rfl
    refine h.exclusive.take (hids ▸ findPending_nodup _) fun k hk j u hj _ ↦ ?_
    rw [hids, List.mem_map] at hk
    obtain ⟨e, he, rfl⟩ := hk
    exact not_held (selected_free hsel hok he) (List.mem_of_getElem? hj)
  | gaveUp _ => exact h.exclusive.release hi (List.nil_sublist _)
  | processed _ => exact h.exclusive.release hi (List.sublist_cons_self _ _)
  | retried _ => exact h.exclusive.release hi (List.sublist_cons_self _ _)
  | _ => exact h.exclusive.release hi (List.Sublist.refl _)

/-- The status of what the stepping worker holds after its step. -/
theorem Claimed.advance_status (h : Claimed p) (hi : p.threads[i]? = some t)
    (ha : Advance config env p.shared t w' t') (hid : id ∈ t'.held) :
    w'.platform.eventStatus id = some t'.heldStatus := by
  have ht := List.mem_of_getElem? hi
  have hsame (hk : id ∉ t.writes) (hheld : id ∈ t.held) (hst : t.heldStatus = t'.heldStatus) :
      w'.platform.eventStatus id = some t'.heldStatus := by
    rw [ha.eventStatus_eq (h.sound t ht) hk, h.status t ht id hheld, hst]
  have hnodup := h.exclusive.nodup t ht
  cases ha with
  | idle _ hheld _ =>
    rw [hheld] at hid
    cases hid
  | selected _ =>
    simp only [Worker.held, List.map_map, List.mem_map, Function.comp_apply] at hid
    obtain ⟨e, he, rfl⟩ := hid
    obtain ⟨hrow, hpending⟩ := mem_findPending he
    exact eventStatus_eq_some.mpr ⟨e, hrow, rfl, hpending⟩
  | marked hu =>
    have hmem := hid
    simp only [Worker.held] at hmem
    rw [eventStatus_updateMany hu (fun _ ↦ rfl) (fun _ ↦ rfl), if_pos hmem, h.status _ ht id hid]
    rfl
  | processed _ =>
    refine hsame (fun hk ↦ ?_) (List.mem_cons_of_mem _ hid) rfl
    rw [List.mem_singleton.mp hk] at hid
    exact (List.nodup_cons.mp hnodup).1 hid
  | retried _ =>
    refine hsame (fun hk ↦ ?_) (List.mem_cons_of_mem _ hid) rfl
    rw [List.mem_singleton.mp hk] at hid
    exact (List.nodup_cons.mp hnodup).1 hid
  | began => exact hsame (by simp [Worker.writes]) hid rfl
  | worked _ => exact hsame (by simp [Worker.writes]) hid rfl
  | succeeded => exact hsame (by simp [Worker.writes]) hid rfl
  | failed => exact hsame (by simp [Worker.writes]) hid rfl
  | unrecorded _ =>
    exact h.status _ ht id hid
  | found => cases hid
  | recovered _ => cases hid
  | gaveUp _ => cases hid

theorem Claimed.step (h : Claimed p) {a : Move Worker WorkerEnv} (hok : Undisturbed config p a)
    (hs : (workers config).Step p a q) : Claimed q := by
  cases hs with
  | spawn ht =>
    obtain ⟨batch, rfl⟩ := ht
    refine ⟨h.exclusive.spawn rfl, fun u hu ↦ ?_, fun u hu id hid ↦ ?_⟩
    · rcases List.mem_append.mp hu with hm | hm
      · exact h.sound u hm
      · rw [List.mem_singleton.mp hm]
        trivial
    · rcases List.mem_append.mp hu with hm | hm
      · exact h.status u hm id hid
      · rw [List.mem_singleton.mp hm] at hid
        cases hid
  | @run i env t t' w' hi hstep =>
    have ha := advance_cases hstep
    have ht := List.mem_of_getElem? hi
    refine ⟨h.advance_held hi (hok t hi) ha, fun u hu ↦ ?_, fun u hu id hid ↦ ?_⟩
    · rcases List.mem_or_eq_of_mem_set hu with hm | rfl
      · exact h.sound u hm
      · exact sound_advance (h.sound t ht) ha
    · obtain ⟨j, hj⟩ := List.getElem?_of_mem hu
      rcases getElem?_set_cases hj with ⟨_, rfl⟩ | ⟨hji, hj⟩
      · exact h.advance_status hi ha hid
      · rw [ha.eventStatus_eq (h.sound t ht) (h.writes_apart hi (hok t hi) hj hji hid)]
        exact h.status u (List.mem_of_getElem? hj) id hid
  | world hw =>
    exact ⟨h.exclusive, h.sound, fun u hu id hid ↦ eventStatus_elapsed hw (h.status u hu id hid)⟩

/-- A finished event keeps its status in every undisturbed step. -/
theorem Claimed.terminal_step (h : Claimed p) {a : Move Worker WorkerEnv}
    (hok : Undisturbed config p a) (hs : (workers config).Step p a q) {status : OutboxStatus}
    (hid : p.shared.platform.eventStatus id = some status) (hterm : isTerminal status = true) :
    q.shared.platform.eventStatus id = some status := by
  cases hs with
  | spawn _ => exact hid
  | @run i env t t' w' hi hstep =>
    have hk : id ∉ t.writes := by
      intro hw
      rw [h.writes_open hi (hok t hi) hw hid] at hterm
      cases hterm
    rw [(advance_cases hstep).eventStatus_eq (h.sound t (List.mem_of_getElem? hi)) hk, hid]
  | world hw => exact eventStatus_elapsed hw hid

theorem Claimed.init (h : Unstarted p) : Claimed p := by
  have hnone := h.1
  exact ⟨hnone ▸ .nil, by simp [hnone], by simp [hnone]⟩

theorem claimed_of_reach (h : Reach (workers config).Step (Undisturbed config) Unstarted p) :
    Claimed p :=
  h.invariant (fun _ hp ↦ .init hp) fun _ _ _ hp hok hs ↦ hp.step hok hs

theorem terminal_absorbing
    (hp : Reach (workers config).Step (Undisturbed config) Unstarted p)
    (hq : Reach (workers config).Step (Undisturbed config) (· = p) q) {id : String}
    {status : OutboxStatus} (hid : p.shared.platform.eventStatus id = some status)
    (hterm : isTerminal status = true) : q.shared.platform.eventStatus id = some status := by
  have hrun : Claimed q ∧ q.shared.platform.eventStatus id = some status := by
    induction hq with
    | start hs =>
      rw [hs]
      exact ⟨claimed_of_reach hp, hid⟩
    | next _ hok hs ih => exact ⟨ih.1.step hok hs, ih.1.terminal_step hok hs ih.2 hterm⟩
  exact hrun.2

def Handling.eventId : Handling → String
  | .began eventId | .succeeded eventId | .failed eventId => eventId

/-- Nothing happens to an event after it was handled successfully. -/
def Handling.Precedes : Handling → Handling → Prop
  | .succeeded eventId, later => later.eventId ≠ eventId
  | _, _ => True

/-- No worker is cut off between the success of a handler and the update that records it. -/
def Recorded (p : Pool World Worker) : Move Worker WorkerEnv → Prop
  | .run i env => ∀ event rest, p.threads[i]? = some (.handled event rest) → env.fate = .runs
  | .spawn _ | .world => True

/-- An event that was handled successfully is recorded as such, or is about to be. -/
structure HandledOnce (p : Pool World Worker) : Prop where
  claimed : Claimed p
  recorded : ∀ id, .succeeded id ∈ p.shared.history →
    p.shared.platform.eventStatus id = some .processed ∨
      ∃ (j : ℕ) (event : RawOutboxRecord) (rest : List RawOutboxRecord),
        p.threads[j]? = some (.handled event rest) ∧ event.id = id
  once : p.shared.history.Pairwise Handling.Precedes

theorem update_of_status {w : World} {f : OutboxEvent → OutboxEvent}
    {status : OutboxStatus} (hs : w.platform.eventStatus id = some status)
    (hid : ∀ e, Row.id (f e) = Row.id e) :
    ∃ events, w.platform.outboxEvents.update id f = .ok events := by
  obtain ⟨e, he, heid, _⟩ := eventStatus_eq_some.mp hs
  exact Table.update_succeeds ⟨e, he, heid⟩ hid (by simp [Row.uniques])

/-- A worker that is about to handle an event, or does, handles one that has not succeeded. -/
theorem HandledOnce.fresh (h : HandledOnce p) (hi : p.threads[i]? = some t) (hheld : id ∈ t.held)
    (hst : t.heldStatus = .processing) (ht : ∀ event rest, t ≠ .handled event rest) :
    Handling.succeeded id ∉ p.shared.history := by
  intro hmem
  rcases h.recorded id hmem with hs | ⟨j, event, rest, hj, rfl⟩
  · rw [h.claimed.status t (List.mem_of_getElem? hi) id hheld, hst] at hs
    cases hs
  · have hji := h.claimed.exclusive.apart j i _ t event.id hj hi (by simp [Worker.held]) hheld
    rw [hji, hi] at hj
    exact ht event rest (Option.some.inj hj)

theorem precedes_append {history : List Handling} {x : Handling}
    (h : history.Pairwise Handling.Precedes) (hx : Handling.succeeded x.eventId ∉ history) :
    (history ++ [x]).Pairwise Handling.Precedes := by
  refine List.pairwise_append.mpr ⟨h, List.pairwise_singleton _ _, fun a ha b hb ↦ ?_⟩
  rw [List.mem_singleton.mp hb]
  cases a with
  | succeeded id =>
    intro he
    rw [he] at hx
    exact hx ha
  | began id => trivial
  | failed id => trivial

/-- What was recorded stays recorded when a worker takes its step. -/
theorem HandledOnce.recorded_step (h : HandledOnce p) (hi : p.threads[i]? = some t)
    (hok : t.isUndisturbed config p.threads p.shared.platform = true)
    (hrec : ∀ event rest, t = .handled event rest → env.fate = .runs)
    (ha : Advance config env p.shared t w' t') (hmem : .succeeded id ∈ p.shared.history) :
    w'.platform.eventStatus id = some .processed ∨
      ∃ (j : ℕ) (event : RawOutboxRecord) (rest : List RawOutboxRecord),
        (p.threads.set i t')[j]? = some (.handled event rest) ∧ event.id = id := by
  have hsound := h.claimed.sound t (List.mem_of_getElem? hi)
  rcases h.recorded id hmem with hs | ⟨j, event, rest, hj, rfl⟩
  · refine .inl ?_
    rw [ha.eventStatus_eq hsound fun hw ↦ ?_, hs]
    have hopen := h.claimed.writes_open hi hok hw hs
    cases hopen
  · by_cases hji : j = i
    · subst hji
      rw [hi, Option.some.injEq] at hj
      have hruns := hrec event rest hj
      have hfault : env.fault = none := by simp [WorkerEnv.fault, hruns]
      subst hj
      have hst := h.claimed.status _ (List.mem_of_getElem? hi) event.id (by simp [Worker.held])
      obtain ⟨events, hu⟩ := update_of_status (f := markProcessed p.shared.clock) hst fun _ ↦ rfl
      cases ha with
      | idle hheld _ _ => cases hheld
      | selected hsel => cases hsel
      | processed hu' =>
        refine .inl ?_
        rw [eventStatus_update hu' (fun _ ↦ rfl) (fun _ ↦ rfl), if_pos rfl]
      | unrecorded hwhy =>
        rcases hwhy with hf | ⟨r, hr⟩
        · simp [hfault] at hf
        · rw [hu] at hr
          cases hr
      | gaveUp hwhy =>
        rcases hwhy with hc | ⟨_, he⟩ | ⟨_, _, _, he, _⟩
        · rw [hruns] at hc
          cases hc
        · cases he
        · cases he
    · exact .inr ⟨j, event, rest, (List.getElem?_set_ne (Ne.symm hji)).trans hj, rfl⟩

theorem HandledOnce.step (h : HandledOnce p) {a : Move Worker WorkerEnv}
    (hok : Undisturbed config p a) (hrec : Recorded p a) (hs : (workers config).Step p a q) :
    HandledOnce q := by
  have hclaimed := h.claimed.step hok hs
  cases hs with
  | spawn _ =>
    refine ⟨hclaimed, fun id hmem ↦ ?_, h.once⟩
    rcases h.recorded id hmem with hs | ⟨j, event, rest, hj, hid⟩
    · exact .inl hs
    · refine .inr ⟨j, event, rest, ?_, hid⟩
      exact (List.getElem?_append_left (List.getElem?_eq_some_iff.mp hj).1).trans hj
  | @run i env t t' w' hi hstep =>
    have ha := advance_cases hstep
    have hkept {id : String} (hmem : .succeeded id ∈ p.shared.history) :=
      h.recorded_step hi (hok t hi) (fun event rest he ↦ hrec event rest (he ▸ hi)) ha hmem
    cases ha with
    | began =>
      refine ⟨hclaimed, fun id hmem ↦ hkept (by simpa [World.tell] using hmem), ?_⟩
      exact precedes_append h.once
        (h.fresh hi (by simp [Worker.held, Handling.eventId]) rfl (by simp))
    | @succeeded event rest =>
      refine ⟨hclaimed, fun id hmem ↦ ?_, ?_⟩
      · simp only [World.tell, List.mem_append, List.mem_singleton] at hmem
        rcases hmem with hmem | he
        · exact hkept hmem
        · cases he
          refine .inr ⟨i, event, rest, ?_, rfl⟩
          exact List.getElem?_set_self (List.getElem?_eq_some_iff.mp hi).1
      · exact precedes_append h.once
          (h.fresh hi (by simp [Worker.held, Handling.eventId]) rfl (by simp))
    | failed =>
      refine ⟨hclaimed, fun id hmem ↦ hkept (by simpa [World.tell] using hmem), ?_⟩
      exact precedes_append h.once
        (h.fresh hi (by simp [Worker.held, Handling.eventId]) rfl (by simp))
    | _ => exact ⟨hclaimed, fun id hmem ↦ hkept hmem, h.once⟩
  | world hw =>
    refine ⟨hclaimed, fun id hmem ↦ ?_, hw.history ▸ h.once⟩
    rcases h.recorded id (hw.history ▸ hmem) with hs | hj
    · exact .inl (eventStatus_elapsed hw hs)
    · exact .inr hj

/-- No event is handled by two workers at once, and nothing is done for an event that was
handled successfully. -/
theorem handled_once
    (h : Reach (workers config).Step (fun p a ↦ Undisturbed config p a ∧ Recorded p a) Unstarted p) :
    (∀ (i j : ℕ) (event event' : RawOutboxRecord) (rest rest' : List RawOutboxRecord)
      (call call' : Handler Unit),
      p.threads[i]? = some (.handling event rest call) →
      p.threads[j]? = some (.handling event' rest' call') → event.id = event'.id → i = j) ∧
    p.shared.history.Pairwise Handling.Precedes := by
  have hI : HandledOnce p := by
    refine Reach.invariant (I := HandledOnce) (fun p hp ↦ ?_)
      (fun p a q hp hok hs ↦ hp.step hok.1 hok.2 hs) h
    refine ⟨.init hp, fun id hmem ↦ ?_, ?_⟩
    · rw [hp.2] at hmem
      cases hmem
    · rw [hp.2]
      exact .nil
  refine ⟨fun i j event event' rest rest' call call' hi hj hid ↦ ?_, hI.once⟩
  exact hI.claimed.exclusive.apart i j _ _ event.id hi hj (by simp [Worker.held])
    (by simp [Worker.held, hid])

section Sample

def invitationEvent : OutboxEvent where
  id := "event-1"
  eventType := "ORGANIZER_INVITATION_CREATED"
  aggregateType := "OrganizerInvitation"
  aggregateId := "invitation-1"
  payload := .obj [("email", .str "guest@example.com")]
  status := .pending
  attempts := 0
  lastError := none
  createdAt := 0
  processedAt := none
  processingStartedAt := none

def invitationWorld : World where
  platform := { Platform.empty with outboxEvents := .singleton invitationEvent }
  clock := 0
  history := []

def defaultConfig : OutboxConfig := ⟨50, 3⟩

def smoothEnv : WorkerEnv := ⟨.runs, fun _ ↦ "notification-1"⟩

/-- A run in which nothing fails and no time passes. -/
def Smooth : Pool World Worker → Move Worker WorkerEnv → Prop
  | _, .run _ env => env.fate = .runs
  | _, .spawn _ => True
  | _, .world => False

def Worker.isStarted : Worker → Bool
  | .started _ => true
  | _ => false

theorem started_starts (config : OutboxConfig) (t : Worker) (h : t.isStarted = true) :
    (workers config).start t := by
  cases t with
  | started batch => exact ⟨batch, rfl⟩
  | _ => cases h

theorem elapsed_refl (w : World) : Elapsed w w := ⟨le_rfl, rfl, [], by simp, by simp⟩

/-- The moves that `Smooth` allows, and that pass a further check. -/
def smoothly (check : Pool World Worker → ℕ → Bool) (p : Pool World Worker) :
    Move Worker WorkerEnv → Bool
  | .run i env =>
    match env.fate with
    | .runs => check p i
    | _ => false
  | .spawn _ => true
  | .world => false

theorem smooth_of_smoothly {check : Pool World Worker → ℕ → Bool} (p : Pool World Worker)
    (a : Move Worker WorkerEnv) (h : smoothly check p a = true) : Smooth p a := by
  cases a with
  | run i env =>
    obtain ⟨fate, newId⟩ := env
    cases fate with
    | runs => rfl
    | _ => cases h
  | spawn t => trivial
  | world => cases h

def undisturbed (config : OutboxConfig) (p : Pool World Worker) (i : ℕ) : Bool :=
  (p.threads[i]?).all fun t ↦ t.isUndisturbed config p.threads p.shared.platform

theorem undisturbed_of_smoothly (p : Pool World Worker) (a : Move Worker WorkerEnv)
    (h : smoothly (undisturbed config) p a = true) : Undisturbed config p a ∧ Recorded p a := by
  have hsmooth := smooth_of_smoothly p a h
  cases a with
  | run i env =>
    obtain ⟨fate, newId⟩ := env
    cases fate with
    | runs =>
      refine ⟨fun t ht ↦ ?_, fun _ _ _ ↦ rfl⟩
      have hall : undisturbed config p i = true := h
      simpa [undisturbed, ht] using hall
    | _ => cases h
  | spawn t => exact ⟨trivial, trivial⟩
  | world => exact ⟨trivial, trivial⟩

def turns (i n : ℕ) : List (Move Worker WorkerEnv) := List.replicate n (.run i smoothEnv)

/-- Two workers select before either of them marks what it selected. -/
def selectTwice : List (Move Worker WorkerEnv) :=
  [.spawn (.started true), .spawn (.started true)] ++ turns 0 4 ++ turns 1 4

/-- One worker goes through its batch before the other one starts. -/
def oneByOne : List (Move Worker WorkerEnv) :=
  .spawn (.started true) :: turns 0 9 ++ .spawn (.started true) :: turns 1 4

def perform (config : OutboxConfig) (check : Pool World Worker → ℕ → Bool) :
    List (Move Worker WorkerEnv) → Pool World Worker → Option (Pool World Worker) :=
  (workers config).replay (smoothly check) Worker.isStarted fun w ↦ w

theorem reach_smooth {check : Pool World Worker → ℕ → Bool} {ms : List (Move Worker WorkerEnv)}
    {init : Pool World Worker → Prop} {p q : Pool World Worker} (hp : init p)
    (h : perform config check ms p = some q) : Reach (workers config).Step Smooth init q :=
  Machine.reach_replay (fun p a _ ↦ smooth_of_smoothly p a) (started_starts _) elapsed_refl (.start hp) h

theorem reach_undisturbed {ms : List (Move Worker WorkerEnv)} (init : Pool World Worker → Prop)
    {p q : Pool World Worker} (hp : init p)
    (h : perform config (undisturbed config) ms p = some q) :
    Reach (workers config).Step (fun p a ↦ Undisturbed config p a ∧ Recorded p a) init q :=
  Machine.reach_replay (fun p a _ ↦ undisturbed_of_smoothly p a) (started_starts _) elapsed_refl (.start hp) h

/-- The second worker finds nothing left to do. -/
theorem handled_once_by_two : ∃ p : Pool World Worker, p.threads.length = 2 ∧
    p.shared.history = [.began "event-1", .succeeded "event-1"] ∧
    p.shared.history.Pairwise Handling.Precedes := by
  have hrun : (perform defaultConfig (undisturbed defaultConfig) oneByOne
      ⟨invitationWorld, []⟩).any (fun p ↦ p.threads.length == 2 &&
        p.shared.history == [.began "event-1", .succeeded "event-1"]) = true := by
    decide +kernel
  obtain ⟨p, hp, htest⟩ := (Option.any_eq_true ..).mp hrun
  simp only [Bool.and_eq_true, beq_iff_eq] at htest
  have hinit : Unstarted ⟨invitationWorld, []⟩ := ⟨rfl, rfl⟩
  exact ⟨p, htest.1, htest.2, (handled_once (reach_undisturbed _ hinit hp)).2⟩

def handlesBoth (p : Pool World Worker) : Bool :=
  match p.threads with
  | [.handling e _ _, .handling e' _ _] => e.id == e'.id
  | _ => false

/-- Two workers handle one event at the same time, and both succeed. -/
theorem handled_twice : ∃ p q : Pool World Worker,
    Reach (workers defaultConfig).Step Smooth Unstarted p ∧ handlesBoth p = true ∧
    Reach (workers defaultConfig).Step Smooth (· = p) q ∧
    q.shared.history =
      [.began "event-1", .began "event-1", .succeeded "event-1", .succeeded "event-1"] := by
  have hrun : (perform defaultConfig (fun _ _ ↦ true) (selectTwice ++ turns 0 2 ++ turns 1 2)
      ⟨invitationWorld, []⟩).any (fun p ↦ handlesBoth p &&
        (perform defaultConfig (fun _ _ ↦ true) (turns 0 3 ++ turns 1 3) p).any fun q ↦
          q.shared.history == [.began "event-1", .began "event-1", .succeeded "event-1",
            .succeeded "event-1"]) = true := by
    decide +kernel
  obtain ⟨p, hp, htest⟩ := (Option.any_eq_true ..).mp hrun
  obtain ⟨hboth, hrest⟩ := Bool.and_eq_true_iff.mp htest
  obtain ⟨q, hq, hhistory⟩ := (Option.any_eq_true ..).mp hrest
  have hinit : Unstarted ⟨invitationWorld, []⟩ := ⟨rfl, rfl⟩
  exact ⟨p, q, reach_smooth hinit hp, hboth, reach_smooth rfl hq, beq_iff_eq.mp hhistory⟩

/-- A worker that selected the event before it was marked takes it up again. -/
theorem processed_reopened : ∃ p q : Pool World Worker,
    Reach (workers defaultConfig).Step Smooth Unstarted p ∧
    Reach (workers defaultConfig).Step Smooth (· = p) q ∧
    p.shared.platform.eventStatus "event-1" = some .processed ∧
    q.shared.platform.eventStatus "event-1" = some .processing := by
  have hrun : (perform defaultConfig (fun _ _ ↦ true) (selectTwice ++ turns 0 5)
      ⟨invitationWorld, []⟩).any (fun p ↦
        p.shared.platform.eventStatus "event-1" == some .processed &&
        (perform defaultConfig (fun _ _ ↦ true) (turns 1 1) p).any fun q ↦
          q.shared.platform.eventStatus "event-1" == some .processing) = true := by
    decide +kernel
  obtain ⟨p, hp, htest⟩ := (Option.any_eq_true ..).mp hrun
  obtain ⟨hdone, hrest⟩ := Bool.and_eq_true_iff.mp htest
  obtain ⟨q, hq, hopen⟩ := (Option.any_eq_true ..).mp hrest
  have hinit : Unstarted ⟨invitationWorld, []⟩ := ⟨rfl, rfl⟩
  exact ⟨p, q, reach_smooth hinit hp, reach_smooth rfl hq, beq_iff_eq.mp hdone,
    beq_iff_eq.mp hopen⟩

/-- An event stays processed while another worker looks for work. -/
theorem stays_processed : ∃ p q : Pool World Worker, q.threads.length = 2 ∧
    p.shared.platform.eventStatus "event-1" = some .processed ∧
    q.shared.platform.eventStatus "event-1" = some .processed := by
  have hrun : (perform defaultConfig (undisturbed defaultConfig)
      (.spawn (.started true) :: turns 0 9) ⟨invitationWorld, []⟩).any (fun p ↦
        p.shared.platform.eventStatus "event-1" == some .processed &&
        (perform defaultConfig (undisturbed defaultConfig)
          (.spawn (.started true) :: turns 1 4) p).any fun q ↦ q.threads.length == 2) = true := by
    decide +kernel
  obtain ⟨p, hp, htest⟩ := (Option.any_eq_true ..).mp hrun
  obtain ⟨hdone, hrest⟩ := Bool.and_eq_true_iff.mp htest
  obtain ⟨q, hq, htwo⟩ := (Option.any_eq_true ..).mp hrest
  have hinit : Unstarted ⟨invitationWorld, []⟩ := ⟨rfl, rfl⟩
  have hp' : Reach (workers defaultConfig).Step (Undisturbed defaultConfig) Unstarted p :=
    (reach_undisturbed _ hinit hp).mono fun _ _ h ↦ h.1
  have hq' : Reach (workers defaultConfig).Step (Undisturbed defaultConfig) (· = p) q :=
    (reach_undisturbed (· = p) rfl hq).mono fun _ _ h ↦ h.1
  exact ⟨p, q, beq_iff_eq.mp htwo, beq_iff_eq.mp hdone,
    terminal_absorbing hp' hq' (beq_iff_eq.mp hdone) rfl⟩

end Sample

end Innovents.Notifications
