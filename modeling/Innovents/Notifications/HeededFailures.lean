import Innovents.Lib.Surroundings
import Innovents.Notifications.DistinctNotifications

namespace Innovents.Notifications

open Innovents.Lib Innovents.Payments NotificationPreferenceService QueueService
  NotificationOrchestratorService NotificationFanoutService OutboxProcessor HandledEvent

/-- Whether an event goes through the fan-out. -/
def fansOut (event : RawOutboxRecord) : Bool :=
  match handledEvent event.eventType with
  | some .communityMeetupCreated | some .eventCancelled => true
  | _ => false

/-- The statements whose failure does not reach the processor: the orchestrator passes over a
failed insertion, and the fan-out over a user for whom anything fails. -/
def swallowed (event : RawOutboxRecord) : List String :=
  if fansOut event then
    ["notification.upsert", "notificationPreference.findUnique", "queue.add"]
  else ["notification.upsert"]

/-- A statement of a handler that may fail, unless nobody heeds the failure. -/
def Heeded (event : RawOutboxRecord) (label : String) (env : HandlerEnv) : Prop :=
  (label ∈ swallowed event → env.fault = none) ∧
    ∀ (t : Table Notification), ∀ n ∈ t.rows, n.id ≠ env.newId t

/-- An event is to be brought to a user on a channel. -/
structure Intends (event : RawOutboxRecord) (u : String) (c : NotificationChannel) (s : Platform) :
    Prop where
  recipient : ∃ us, recipients event s = .ok us ∧ u ∈ us
  user : s.users.has u = true
  allowed : ∀ h, handledEvent event.eventType = some h →
    allows u (h.notificationFor event u).type c s = true
  queues : ∀ queueName, queueName ∈ s.openQueues

/-- The notification of an event is there and was enqueued. -/
def Told (event : RawOutboxRecord) (u : String) (c : NotificationChannel) (s : Platform) : Prop :=
  ∃ n ∈ s.notifications.rows, n.idempotencyKey = notificationKey event u c ∧
    deliveryJob c n.id ∈ s.jobs

/-- What others do meanwhile: notifications and jobs are kept, and a user whom an event is for
remains one. -/
structure Meanwhile (event : RawOutboxRecord) (u : String) (c : NotificationChannel)
    (s s' : Platform) : Prop where
  intends : Intends event u c s → Intends event u c s'
  notifications : ∀ n ∈ s.notifications.rows, ∃ n' ∈ s'.notifications.rows,
    n'.id = n.id ∧ n'.idempotencyKey = n.idempotencyKey
  jobs : ∀ job ∈ s.jobs, job ∈ s'.jobs

variable {event : RawOutboxRecord} {u : String} {c d : NotificationChannel} {h : HandledEvent}
  {s s' s'' : Platform}

theorem Intends.tells (hi : Intends event u c s) (ht : Tells s s') : Intends event u c s' := by
  refine ⟨?_, ?_, fun h hh ↦ ?_, fun q ↦ ?_⟩
  · rw [Handlings.recipients_tells ht]
    exact hi.recipient
  · rw [ht.has]
    exact hi.user
  · rw [ht.frame]
    exact hi.allowed h hh
  · rw [ht.openQueues]
    exact hi.queues q

namespace Meanwhile

theorem refl (s : Platform) : Meanwhile event u c s s :=
  ⟨id, fun n hn ↦ ⟨n, hn, rfl, rfl⟩, fun _ ↦ id⟩

theorem trans {s s' s'' : Platform} (hm : Meanwhile event u c s s')
    (hm' : Meanwhile event u c s' s'') : Meanwhile event u c s s'' := by
  refine ⟨fun hi ↦ hm'.intends (hm.intends hi), fun n hn ↦ ?_,
    fun job hjob ↦ hm'.jobs job (hm.jobs job hjob)⟩
  obtain ⟨n₁, hn₁, hid₁, hkey₁⟩ := hm.notifications n hn
  obtain ⟨n₂, hn₂, hid₂, hkey₂⟩ := hm'.notifications n₁ hn₁
  exact ⟨n₂, hn₂, hid₂.trans hid₁, hkey₂.trans hkey₁⟩

theorem of_tells (ht : Tells s s') : Meanwhile event u c s s' :=
  ⟨fun hi ↦ hi.tells ht, fun n hn ↦ ⟨n, ht.notifications.subset hn, rfl, rfl⟩,
    fun _ hjob ↦ ht.jobs.subset hjob⟩

end Meanwhile

/-- A row of the given id under the given key. -/
def HasRow (id : String) (key : Option String) (s : Platform) : Prop :=
  ∃ n ∈ s.notifications.rows, n.id = id ∧ n.idempotencyKey = key

theorem HasRow.meanwhile {id : String} {key : Option String} (hrow : HasRow id key s)
    (hm : Meanwhile event u c s s') : HasRow id key s' := by
  obtain ⟨n, hn, rfl, rfl⟩ := hrow
  exact hm.notifications n hn

theorem Told.meanwhile (htold : Told event u c s) (hm : Meanwhile event u c s s') :
    Told event u c s' := by
  obtain ⟨n, hn, hkey, hjob⟩ := htold
  obtain ⟨n', hn', hid, hkey'⟩ := hm.notifications n hn
  exact ⟨n', hn', hkey'.trans hkey, hm.jobs _ (hid ▸ hjob)⟩

theorem keeps_told {α : Type} {call : Handler α} {ok : String → HandlerEnv → Prop}
    (hc : OnlyTells call) (htold : Told event u c s) :
    call.wp (Meanwhile event u c) ok (fun _ ↦ Told event u c) s :=
  Call.wp_keeps (hc.mono fun _ _ _ ↦ .of_tells) (fun _ _ ht hm ↦ ht.meanwhile hm) htold

theorem keeps_intends {α : Type} {call : Handler α} {ok : String → HandlerEnv → Prop}
    (hc : OnlyTells call) (hi : Intends event u c s) :
    call.wp (Meanwhile event u c) ok (fun _ ↦ Intends event u c) s :=
  Call.wp_keeps (hc.mono fun _ _ _ ↦ .of_tells) (fun _ _ hi hm ↦ hm.intends hi) hi

/-- How a call of the orchestrator for the user ends: it throws only if somebody heeds that. -/
def Fares {α : Type} (event : RawOutboxRecord) (Q : α → Platform → Prop) (r : Except String α)
    (s : Platform) : Prop :=
  match r with
  | .ok a => Q a s
  | .error _ => fansOut event = false

theorem mem_swallowed_upsert : "notification.upsert" ∈ swallowed event := by
  unfold swallowed
  split_ifs <;> simp

theorem calm_of_fansOut {label : String} {env : HandlerEnv} (henv : Heeded event label env)
    (hlabel : label ∈ ["notificationPreference.findUnique", "queue.add"]) :
    env.fault = none ∨ fansOut event = false := by
  cases hf : fansOut event with
  | false => exact .inr rfl
  | true =>
    refine .inl (henv.1 ?_)
    rw [swallowed, if_pos hf]
    exact List.mem_cons_of_mem _ hlabel

section Channel

variable (hi : Intends event u c s) (hh : handledEvent event.eventType = some h)
include hi

theorem shouldDeliver_heeded {type : NotificationType} : (shouldDeliver u type d).wp
    (Meanwhile event u c) (Heeded event)
    (Fares event fun allowed s' ↦ allowed = allows u type d s' ∧ Intends event u c s') s := by
  unfold shouldDeliver
  split_ifs with ht
  · exact ⟨by simp [allows, ht], hi⟩
  · refine Call.wp_ask fun s' hm env henv ↦ ?_
    rcases calm_of_fansOut henv (by simp) with hcalm | hheard
    · rw [hcalm]
      exact ⟨by simp [allows, ht], hm.intends hi⟩
    · cases env.fault with
      | none => exact ⟨by simp [allows, ht], hm.intends hi⟩
      | some _ => exact hheard

theorem addJob_heeded {queueName : QueueName} {job : Job} : (addJob queueName job).wp
    (Meanwhile event u c) (Heeded event) (Fares event fun _ s' ↦ (queueName, job) ∈ s'.jobs) s := by
  refine Call.wp_perform fun s' hm env henv ↦ ?_
  have hopen := (hm.intends hi).queues queueName
  simp only [if_pos hopen]
  cases hf : env.fault with
  | none => simp [Fares, Except.map, Call.written]
  | some _ => exact (calm_of_fansOut henv (by simp)).resolve_left (by simp [hf])

include hh

theorem persistNotification_heeded : (persistNotification (h.notificationFor event u) d).wp
    (Meanwhile event u c) (Heeded event) (fun r s' ↦ ∃ n, r = .ok n ∧
      HasRow n.id (notificationKey event u d) s' ∧ Intends event u c s') s := by
  refine Call.wp_perform fun s' hm env henv ↦ ?_
  have hi' := hm.intends hi
  have hfault := henv.1 mem_swallowed_upsert
  have hsome : (channelKey (h.notificationFor event u) d).isSome = true := channelKey_isSome h u d
  obtain ⟨k, hk⟩ := Option.isSome_iff_exists.mp hsome
  have hkey : notificationKey event u d = some k := by
    rw [notificationKey, hh, Option.bind_some, hk]
  simp only [hfault, Option.elim_none, hk, hkey]
  cases hfind : s'.notifications.find? fun n ↦ n.idempotencyKey == some k with
  | some n =>
    obtain ⟨hn, hnk⟩ := Table.find?_mem hfind
    exact ⟨n, rfl, ⟨n, hn, rfl, by simpa using hnk⟩, hi'⟩
  | none =>
    have hfree : some k ∉ s'.notifications.rows.map Notification.idempotencyKey := by
      intro hmem
      obtain ⟨n, hn, hnk⟩ := List.mem_map.mp hmem
      have hne := Table.find?_eq_none.mp hfind n hn
      simp [hnk] at hne
    obtain ⟨t, n, hc, hn, hrows⟩ := createNotification_calm ⟨hfault, henv.2⟩ hk hi'.user hfree
    have htells := createNotification_tells _ _ hc
    simp only [hc]
    refine ⟨n, rfl, ⟨n, ?_, rfl, ?_⟩, hi'.tells htells⟩
    · show n ∈ t.rows
      rw [hrows]
      exact List.mem_append_right _ (List.mem_singleton_self n)
    · rw [hn]
      exact hk

/-- The user is told on the channel, and an exception is heeded. -/
theorem orchestrateChannel_heeded : (orchestrateChannel (h.notificationFor event u) d).wp
    (Meanwhile event u c) (Heeded event)
    (Fares event fun _ s' ↦ d = c → Told event u c s') s := by
  refine Call.wpg_bind (Call.wpg_mono (shouldDeliver_heeded hi) fun r s₁ hr ↦ ?_)
  cases r with
  | error _ => exact hr
  | ok allowed =>
    obtain ⟨rfl, hi₁⟩ := hr
    dsimp only
    split_ifs with hallow
    · refine Call.wpg_bind (Call.wpg_attempt
        (Call.wpg_mono (persistNotification_heeded hi₁ hh) fun r s₂ hr ↦ ?_))
      obtain ⟨n, rfl, hrow, hi₂⟩ := hr
      dsimp only
      have hjob : (addJob (deliveryJob d n.id).1 (deliveryJob d n.id).2).wp
          (Meanwhile event u c) (Heeded event)
          (Fares event fun _ s' ↦ deliveryJob d n.id ∈ s'.jobs) s₂ :=
        addJob_heeded hi₂
      have hkept : (addJob (deliveryJob d n.id).1 (deliveryJob d n.id).2).wp
          (Meanwhile event u c) (Heeded event)
          (fun _ ↦ HasRow n.id (notificationKey event u d)) s₂ :=
        Call.wp_keeps ((onlyTells_addJob _ _).mono fun _ _ _ ↦ .of_tells)
          (fun _ _ hrow hm ↦ hrow.meanwhile hm) hrow
      refine Call.wpg_bind (Call.wpg_mono (Call.wpg_and hjob hkept) fun r s₃ hr ↦ ?_)
      cases r with
      | error _ => exact hr.1
      | ok _ =>
        intro hd
        subst hd
        obtain ⟨n', hn', hid, hkey⟩ := hr.2
        exact ⟨n', hn', hkey, hid ▸ hr.1⟩
    · intro hd
      subst hd
      exact absurd (hi₁.allowed h hh) (by simpa using hallow)

theorem orchestrateChannels_heeded (channels : List NotificationChannel) :
    (orchestrateChannels (h.notificationFor event u) channels).wp (Meanwhile event u c)
      (Heeded event) (Fares event fun _ s' ↦ c ∈ channels → Told event u c s') s := by
  induction channels generalizing s with
  | nil => exact fun hc ↦ absurd hc List.not_mem_nil
  | cons d channels ih =>
    have hchannel := orchestrateChannel_heeded (d := d) hi hh
    have hintends : (orchestrateChannel (h.notificationFor event u) d).wp (Meanwhile event u c)
        (Heeded event) (fun _ ↦ Intends event u c) s :=
      keeps_intends (onlyTells_orchestrateChannel (h.notificationFor event u) d) hi
    refine Call.wpg_bind (Call.wpg_mono (Call.wpg_and hchannel hintends) fun r s₁ hr ↦ ?_)
    cases r with
    | error _ => exact hr.1
    | ok created =>
      obtain ⟨htold, hi₁⟩ := hr
      have hrest := ih hi₁
      by_cases hd : d = c
      · have hkept : (orchestrateChannels (h.notificationFor event u) channels).wp
            (Meanwhile event u c) (Heeded event) (fun _ ↦ Told event u c) s₁ :=
          keeps_told (onlySteps_orchestrateChannels Tells.refl onlyTells_addJob
            (onlyTells_persistNotification (h.notificationFor event u)) channels) (htold hd)
        refine Call.wpg_bind (Call.wpg_mono (Call.wpg_and hrest hkept) fun r s₂ hr ↦ ?_)
        cases r with
        | error _ => exact hr.1
        | ok others => exact fun _ ↦ hr.2
      · refine Call.wpg_bind (Call.wpg_mono hrest fun r s₂ hr ↦ ?_)
        cases r with
        | error _ => exact hr
        | ok others => exact fun hc ↦ hr ((List.mem_cons.mp hc).resolve_left (Ne.symm hd))

theorem orchestrate_heeded : (orchestrate (h.notificationFor event u)).wp (Meanwhile event u c)
    (Heeded event) (Fares event fun _ ↦ Told event u c) s := by
  refine Call.wpg_mono (orchestrateChannels_heeded hi hh _) fun r s' hr ↦ ?_
  cases r with
  | error _ => exact hr
  | ok _ => exact hr (by cases c <;> simp [HandledEvent.notificationFor])

/-- The fan-out reaches the user, if every failure on the way is heeded. -/
theorem fanoutToUsers_heeded (hf : fansOut event = true) {userIds : List String}
    (hu : u ∈ userIds) : (fanoutToUsers (h.notificationFor event) userIds).wp
      (Meanwhile event u c) (Heeded event) (fun _ ↦ Told event u c) s := by
  induction userIds generalizing s with
  | nil => cases hu
  | cons userId userIds ih =>
    have htells : ∀ userIds, OnlyTells (fanoutToUsers (h.notificationFor event) userIds) :=
      onlySteps_fanoutToUsers Tells.refl onlyTells_addJob fun u ↦
        onlyTells_persistNotification (h.notificationFor event u)
    by_cases huser : userId = u
    · subst huser
      refine Call.wpg_bind (Call.wpg_attempt (Call.wpg_mono (orchestrate_heeded hi hh) fun r s₁ hr ↦ ?_))
      cases r with
      | error _ => exact absurd (hf.symm.trans hr) (by simp)
      | ok created =>
        refine Call.wpg_bind (Call.wpg_mono (keeps_told (htells userIds) hr) fun r s₂ hr ↦ ?_)
        cases r <;> exact hr
    · have hintends : (orchestrate (h.notificationFor event userId)).wp (Meanwhile event u c)
          (Heeded event) (fun _ ↦ Intends event u c) s :=
        keeps_intends (onlySteps_orchestrate Tells.refl onlyTells_addJob
          (onlyTells_persistNotification (h.notificationFor event userId))) hi
      refine Call.wpg_bind (Call.wpg_attempt (Call.wpg_mono hintends fun r s₁ hi₁ ↦ ?_))
      have hrest := ih hi₁ ((List.mem_cons.mp hu).resolve_left (Ne.symm huser))
      refine Call.wpg_bind (Call.wpg_mono hrest fun q s₂ hq ↦ ?_)
      cases q with
      | error _ => exact hq
      | ok count => cases r <;> exact hq

end Channel

/-- A handler that ends well has told the user. -/
def TellsIfOk {α : Type} (event : RawOutboxRecord) (u : String) (c : NotificationChannel)
    (r : Except String α) (s : Platform) : Prop := ∀ a, r = .ok a → Told event u c s

theorem addressed_mem {recipient : JsValue} {us : List String} (hus : addressed recipient = .ok us)
    (hu : u ∈ us) : addressed recipient = .ok [u] := by
  unfold addressed at hus ⊢
  split_ifs at hus ⊢
  · split at hus
    · cases hus
      rw [List.mem_singleton.mp hu]
    · cases hus
  · cases hus
    cases hu

section Handlers

variable (hi : Intends event u c s)
include hi

theorem notifyOne_heeded {recipient : JsValue} (hh : handledEvent event.eventType = some h)
    (hu : addressed recipient = .ok [u]) : (notifyOne event h recipient).wp (Meanwhile event u c)
      (Heeded event) (TellsIfOk event u c) s := by
  unfold addressed at hu
  unfold notifyOne
  split_ifs at hu ⊢
  · cases hs : recipient.asStr? with
    | none =>
      rw [hs] at hu
      cases hu
    | some userId =>
      rw [hs] at hu
      cases hu
      refine Call.wpg_bind (Call.wpg_mono (orchestrate_heeded hi hh) fun r s' hr ↦ ?_)
      cases r with
      | error _ => exact fun a ha ↦ by cases ha
      | ok _ => exact fun _ _ ↦ hr
  · cases hu

theorem handleReply_heeded (hh : handledEvent event.eventType = some .communityPostReplyCreated) :
    (handleReply event).wp (Meanwhile event u c) (Heeded event) (TellsIfOk event u c) s := by
  unfold handleReply
  dsimp only
  split_ifs with hpost
  · refine Call.wpg_bind (Call.wp_ask fun s' hm env henv ↦ ?_)
    have hi' := hm.intends hi
    obtain ⟨us, hus, hu⟩ := hi'.recipient
    simp only [recipients, hh, replyRecipients, if_pos hpost] at hus
    cases env.fault with
    | some _ => exact fun a ha ↦ by cases ha
    | none =>
      simp only [Option.elim_none]
      cases hfind : findPost (field event "postId" .undefined) s' with
      | error _ => exact fun a ha ↦ by cases ha
      | ok post =>
        rw [hfind] at hus
        cases post with
        | none =>
          cases hus
          cases hu
        | some post =>
          dsimp only at hus ⊢
          split_ifs at hus ⊢
          · cases hus
            cases hu
          · exact notifyOne_heeded hi' hh (addressed_mem hus hu)
  · obtain ⟨us, hus, hu⟩ := hi.recipient
    simp only [recipients, hh, replyRecipients, if_neg hpost] at hus
    cases hus
    cases hu

/-- The query of a fan-out may fail: the processor hears of that. -/
theorem fanout_heeded {name : String} {f : Platform → Except String (List String)}
    (hh : handledEvent event.eventType = some h) (hf : fansOut event = true)
    (hquery : ∀ s', Intends event u c s' → ∀ us, f s' = .ok us → u ∈ us) :
    ((reads name f) >>= fun userIds ↦ fanoutToUsers (h.notificationFor event) userIds >>=
      fun _ ↦ pure ()).wp (Meanwhile event u c) (Heeded event) (TellsIfOk event u c) s := by
  refine Call.wpg_bind (Call.wp_ask fun s' hm env henv ↦ ?_)
  have hi' := hm.intends hi
  cases env.fault with
  | some _ => exact fun a ha ↦ by cases ha
  | none =>
    simp only [Option.elim_none]
    cases hus : f s' with
    | error _ => exact fun a ha ↦ by cases ha
    | ok us =>
      refine Call.wpg_bind (Call.wpg_mono (fanoutToUsers_heeded hi' hh hf (hquery s' hi' us hus)) ?_)
      intro r s'' hr
      cases r with
      | error _ => exact fun a ha ↦ by cases ha
      | ok _ => exact fun _ _ ↦ hr

theorem handleMeetup_heeded (hh : handledEvent event.eventType = some .communityMeetupCreated) :
    (handleMeetup event).wp (Meanwhile event u c) (Heeded event) (TellsIfOk event u c) s := by
  unfold handleMeetup
  dsimp only
  split_ifs with hcommunity
  · refine fanout_heeded hi hh (by simp [fansOut, hh]) fun s' hi' us hus ↦ ?_
    obtain ⟨us', hus', hu⟩ := hi'.recipient
    simp only [recipients, hh, meetupRecipients, if_pos hcommunity, hus, Except.ok.injEq] at hus'
    rwa [hus']
  · obtain ⟨us, hus, hu⟩ := hi.recipient
    simp only [recipients, hh, meetupRecipients, if_neg hcommunity] at hus
    cases hus
    cases hu

theorem handleCancellation_heeded (hh : handledEvent event.eventType = some .eventCancelled) :
    (handleCancellation event).wp (Meanwhile event u c) (Heeded event) (TellsIfOk event u c) s := by
  refine fanout_heeded (h := .eventCancelled) hi hh (by simp [fansOut, hh]) fun s' hi' us hus ↦ ?_
  obtain ⟨us', hus', hu⟩ := hi'.recipient
  simp only [recipients, hh, Except.ok.injEq] at hus'
  cases hus
  rwa [hus']

/-- A handler whose failures are heeded has told the user, if it ends well. -/
theorem handleEvent_heeded :
    (handleEvent event).wp (Meanwhile event u c) (Heeded event) (TellsIfOk event u c) s := by
  obtain ⟨us, hus, hu⟩ := hi.recipient
  unfold recipients at hus
  split at hus
  · cases hus
    cases hu
  · rename_i hh
    unfold handleEvent
    simp only [hh]
    exact handleReply_heeded hi hh
  · rename_i hh
    unfold handleEvent
    simp only [hh]
    exact handleMeetup_heeded hi hh
  · rename_i hh
    unfold handleEvent
    simp only [hh]
    exact handleCancellation_heeded hi hh
  · cases hus
    cases hu
  · rename_i h hreply hmeetup hcancelled hinvitation hh
    have hone : handleEvent event = notifyOne event h (h.addressee event) := by
      unfold handleEvent
      rw [hh]
      cases h <;> first | rfl | contradiction
    have hheeded := notifyOne_heeded hi hh (addressed_mem hus hu)
    rw [← hone] at hheeded
    exact hheeded

end Handlers

end Innovents.Notifications
