import Innovents.Notifications.OutboxEvents

namespace Innovents.Notifications

open Innovents.Lib Innovents.Payments

/-- What a handler may do to the platform: new notifications and new jobs. -/
structure Tells (s s' : Platform) : Prop where
  notifications : s.notifications.rows <+: s'.notifications.rows
  jobs : s.jobs <+: s'.jobs
  frame : s' = { s with notifications := s'.notifications, jobs := s'.jobs }

theorem Tells.refl (s : Platform) : Tells s s := ⟨List.prefix_rfl, List.prefix_rfl, rfl⟩

theorem Tells.trans {s s' s'' : Platform} (h : Tells s s') (h' : Tells s' s'') : Tells s s'' := by
  refine ⟨h.notifications.trans h'.notifications, h.jobs.trans h'.jobs, ?_⟩
  have hframe := h'.frame
  rw [h.frame] at hframe
  exact hframe

/-- Every request of the handler changes the platform as `G` allows. -/
def OnlySteps {α : Type} (G : Platform → Platform → Prop) (c : Handler α) : Prop :=
  c.Each fun _ ↦ G

/-- Every request of the handler only tells. -/
def OnlyTells {α : Type} (c : Handler α) : Prop := c.Each fun _ ↦ Tells

section Requests

open NotificationPreferenceService QueueService NotificationOrchestratorService
  NotificationFanoutService OutboxProcessor HandledEvent

variable {α β : Type} {name : String} {G : Platform → Platform → Prop} (hG : ∀ s, G s s)

section

include hG

theorem onlySteps_reads {f : Platform → Except String α} : OnlySteps G (reads name f) :=
  Call.each_ask hG

end

theorem onlySteps_pure {a : α} : OnlySteps G (pure a) := trivial

theorem onlySteps_bind {c : Handler α} {f : α → Handler β} (hc : OnlySteps G c)
    (hf : ∀ a, OnlySteps G (f a)) : OnlySteps G (c >>= f) := Call.each_bind hc hf

include hG

theorem onlySteps_shouldDeliver (userId : String) (type : NotificationType)
    (channel : NotificationChannel) : OnlySteps G (shouldDeliver userId type channel) := by
  unfold shouldDeliver
  split_ifs
  · exact onlySteps_pure
  · exact onlySteps_reads hG

theorem onlySteps_existingNotification (params : OrchestrateNotificationParams)
    (channel : NotificationChannel) : OnlySteps G (existingNotification params channel) := by
  unfold existingNotification
  split
  · exact onlySteps_reads hG
  · exact onlySteps_pure

-- a handler writes with `addJob` and with `persistNotification` only
variable (hjob : ∀ queueName job, OnlySteps G (addJob queueName job))
include hjob

section

variable {params : OrchestrateNotificationParams}
  (hpersist : ∀ channel, OnlySteps G (persistNotification params channel))
include hpersist

theorem onlySteps_orchestrateChannel (channel : NotificationChannel) :
    OnlySteps G (orchestrateChannel params channel) := by
  refine onlySteps_bind (onlySteps_shouldDeliver hG _ _ channel) fun allowed ↦ ?_
  split_ifs
  · refine onlySteps_bind (Call.each_attempt (hpersist channel)) fun persisted ↦ ?_
    cases persisted with
    | ok n => exact onlySteps_bind (hjob _ _) fun _ ↦ onlySteps_pure
    | error _ => exact onlySteps_existingNotification hG params channel
  · exact onlySteps_pure

theorem onlySteps_orchestrateChannels (channels : List NotificationChannel) :
    OnlySteps G (orchestrateChannels params channels) := by
  induction channels with
  | nil => exact onlySteps_pure
  | cons channel channels ih =>
    exact onlySteps_bind (onlySteps_orchestrateChannel hG hjob hpersist channel) fun _ ↦
      onlySteps_bind ih fun _ ↦ onlySteps_pure

theorem onlySteps_orchestrate : OnlySteps G (orchestrate params) :=
  onlySteps_orchestrateChannels hG hjob hpersist _

end

theorem onlySteps_fanoutToUsers {notificationFactory : String → OrchestrateNotificationParams}
    (hpersist : ∀ u c, OnlySteps G (persistNotification (notificationFactory u) c))
    (userIds : List String) : OnlySteps G (fanoutToUsers notificationFactory userIds) := by
  induction userIds with
  | nil => exact onlySteps_pure
  | cons userId userIds ih =>
    refine onlySteps_bind (Call.each_attempt (onlySteps_orchestrate hG hjob (hpersist userId))) ?_
    intro outcome
    refine onlySteps_bind ih fun count ↦ ?_
    cases outcome <;> exact onlySteps_pure

variable {event : RawOutboxRecord}

theorem onlySteps_notifyOne {h : HandledEvent} {recipient : JsValue}
    (hpersist : ∀ u c, recipient.asStr? = some u →
      OnlySteps G (persistNotification (h.notificationFor event u) c)) :
    OnlySteps G (notifyOne event h recipient) := by
  unfold notifyOne
  split_ifs
  · cases hu : recipient.asStr? with
    | some u =>
      exact onlySteps_bind (onlySteps_orchestrate hG hjob fun c ↦ hpersist u c hu) fun _ ↦
        onlySteps_pure
    | none => trivial
  · exact onlySteps_pure

theorem onlySteps_handleReply (hpersist : ∀ u c, OnlySteps G
      (persistNotification (communityPostReplyCreated.notificationFor event u) c)) :
    OnlySteps G (handleReply event) := by
  unfold handleReply
  dsimp only
  split_ifs
  · refine onlySteps_bind (onlySteps_reads hG) fun post ↦ ?_
    cases post with
    | none => exact onlySteps_pure
    | some post =>
      dsimp only
      split_ifs
      · exact onlySteps_pure
      · exact onlySteps_notifyOne hG hjob fun u c _ ↦ hpersist u c
  · exact onlySteps_pure

theorem onlySteps_handleMeetup (hpersist : ∀ u c, OnlySteps G
      (persistNotification (communityMeetupCreated.notificationFor event u) c)) :
    OnlySteps G (handleMeetup event) := by
  unfold handleMeetup
  dsimp only
  split_ifs
  · exact onlySteps_bind (onlySteps_reads hG) fun _ ↦
      onlySteps_bind (onlySteps_fanoutToUsers hG hjob hpersist _) fun _ ↦ onlySteps_pure
  · exact onlySteps_pure

theorem onlySteps_handleCancellation (hpersist : ∀ u c, OnlySteps G
      (persistNotification (eventCancelled.notificationFor event u) c)) :
    OnlySteps G (handleCancellation event) :=
  onlySteps_bind (onlySteps_reads hG) fun _ ↦
    onlySteps_bind (onlySteps_fanoutToUsers hG hjob hpersist _) fun _ ↦ onlySteps_pure

omit hG in
theorem onlySteps_handleInvitation : OnlySteps G (handleInvitation event) := by
  unfold handleInvitation
  dsimp only
  split_ifs
  · exact hjob _ _
  · exact onlySteps_pure

/-- The status of a booking is told to the attendee whom the payload names. -/
theorem onlySteps_handleEvent (hpersist : ∀ h u c, handledEvent event.eventType = some h →
      (h = .c2bBookingStatusChanged → (h.addressee event).asStr? = some u) →
      OnlySteps G (persistNotification (h.notificationFor event u) c)) :
    OnlySteps G (handleEvent event) := by
  unfold handleEvent
  split
  · exact onlySteps_pure
  · rename_i hh
    exact onlySteps_handleReply hG hjob fun u c ↦ hpersist _ u c hh (by simp)
  · rename_i hh
    exact onlySteps_handleMeetup hG hjob fun u c ↦ hpersist _ u c hh (by simp)
  · rename_i hh
    exact onlySteps_handleCancellation hG hjob fun u c ↦ hpersist _ u c hh (by simp)
  · exact onlySteps_handleInvitation hjob
  · rename_i hh
    exact onlySteps_notifyOne hG hjob fun u c hu ↦ hpersist _ u c hh fun _ ↦ hu

end Requests

section Tells

open QueueService NotificationOrchestratorService

variable (params : OrchestrateNotificationParams) (channel : NotificationChannel)

theorem createNotification_tells {env : HandlerEnv} {s s' : Platform} {n : Notification}
    (h : createNotification params channel env s = .ok (s', n)) : Tells s s' := by
  unfold createNotification at h
  split_ifs at h
  dsimp only at h
  split at h
  · rename_i t ht
    cases h
    exact ⟨by simp [Table.create_eq_ok.mp ht], List.prefix_rfl, rfl⟩
  · cases h

theorem onlyTells_persistNotification : OnlyTells (persistNotification params channel) := by
  refine Call.each_perform Tells.refl fun env s s' n h ↦ ?_
  cases hf : env.fault with
  | some message =>
    rw [hf] at h
    cases h
  | none =>
    rw [hf] at h
    simp only [Option.elim_none] at h
    split at h
    · split at h
      · cases h
        exact Tells.refl s
      · exact createNotification_tells params channel h
    · exact createNotification_tells params channel h

theorem onlyTells_addJob (queueName : QueueName) (job : Job) : OnlyTells (addJob queueName job) := by
  refine Call.each_perform Tells.refl fun env s s' u h ↦ ?_
  split_ifs at h
  · cases hf : env.fault with
    | some message =>
      rw [hf] at h
      cases h
    | none =>
      rw [hf] at h
      cases h
      exact ⟨List.prefix_rfl, List.prefix_append _ _, rfl⟩
  · cases h
    exact Tells.refl s

theorem onlyTells_orchestrateChannel : OnlyTells (orchestrateChannel params channel) :=
  onlySteps_orchestrateChannel Tells.refl onlyTells_addJob (onlyTells_persistNotification params)
    channel

end Tells

namespace OutboxProcessor

variable (event : RawOutboxRecord)

theorem onlyTells_handleInvitation : OnlyTells (handleInvitation event) :=
  onlySteps_handleInvitation onlyTells_addJob

theorem onlyTells_handleEvent : OnlyTells (handleEvent event) :=
  onlySteps_handleEvent Tells.refl onlyTells_addJob fun h u c _ _ ↦
    onlyTells_persistNotification (h.notificationFor event u) c

end OutboxProcessor

end Innovents.Notifications
