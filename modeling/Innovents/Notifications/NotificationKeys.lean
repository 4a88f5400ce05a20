import Innovents.Lib.Delimited
import Innovents.Notifications.Recipients

namespace Innovents.Notifications

open Innovents.Lib Innovents.Payments HandledEvent NotificationOrchestratorService

/-- All events that are handled. -/
def handledEvents : List HandledEvent :=
  [.communityMentionCreated, .communityPostReplyCreated, .communityMeetupCreated, .eventCancelled,
    .passwordChanged, .accountApproved, .accountRejected, .accountSuspended,
    .organizerInvitationCreated, .organizerInvitationAccepted, .rfqSent, .rfqViewed,
    .rfqClarificationRequested, .rfqQuoted, .rfqAccepted, .rfqRejected, .rfqCancelled, .rfqExpired,
    .c2bBookingRequested, .c2bBookingStatusChanged, .sponsorAdSubmitted, .sponsorAdApproved,
    .sponsorAdRejected, .couponRedeemed, .communitySponsorshipPaid, .communitySponsorshipActivated,
    .communitySponsorshipExpired, .subscriptionActivated, .subscriptionRenewed,
    .subscriptionPaymentFailed, .subscriptionCancelled, .paymentRefunded]

theorem mem_handledEvents (h : HandledEvent) : h ∈ handledEvents := by
  cases h <;> decide

variable {a b : HandledEvent} {event event' : RawOutboxRecord} {u w : String}

/-- The scope of the keys of an event, without its payload. -/
def scopeOf (h : HandledEvent) : List Char :=
  (h.notice ⟨"", "", "", "", .null, 0⟩).scope.toList ++ [':']

theorem scope_eq (h : HandledEvent) (event : RawOutboxRecord) :
    (h.notice event).scope.toList ++ [':'] = scopeOf h := by
  cases h <;> rfl

theorem scope_unique : ∀ a ∈ handledEvents, ∀ b ∈ handledEvents, scopeOf a <+: scopeOf b → a = b := by
  decide +kernel

/-- What tells two events of one kind apart in their keys: the event itself, its aggregate, or
the status of a booking. -/
def keySubject (h : HandledEvent) (event : RawOutboxRecord) : String × String :=
  match h with
  | passwordChanged | accountApproved | accountRejected | accountSuspended
  | rfqClarificationRequested => (event.id, "")
  | c2bBookingStatusChanged =>
    (event.aggregateId, (field event "status" (.str "UPDATED")).asStr?.getD "")
  | _ => (event.aggregateId, "")

/-- The texts at the end of a key are told apart by the delimiter. -/
structure Plain (h : HandledEvent) (event : RawOutboxRecord) (u : String) : Prop where
  user : ':' ∉ u.toList
  status : ':' ∉ (keySubject h event).2.toList

theorem key_eq_parts (hab : (a.notice event).key u = (b.notice event').key w) :
    a = b ∧ ((a.notice event).parts u).1.toList ++ ':' :: ((a.notice event).parts u).2.toList =
      ((b.notice event').parts w).1.toList ++ ':' :: ((b.notice event').parts w).2.toList := by
  have hlist := congrArg String.toList hab
  rw [key_toList, key_toList] at hlist
  have heq : a = b := by
    have hpre := prefix_of_append_cons hlist
    rw [scope_eq, scope_eq] at hpre
    rcases hpre with hpre | hpre
    · exact scope_unique a (mem_handledEvents a) b (mem_handledEvents b) hpre
    · exact (scope_unique b (mem_handledEvents b) a (mem_handledEvents a) hpre).symm
  subst heq
  have hscope : (a.notice event).scope.toList = (a.notice event').scope.toList := by
    have h₁ := scope_eq a event
    rw [← scope_eq a event'] at h₁
    exact List.append_cancel_right h₁
  rw [hscope] at hlist
  exact ⟨rfl, (List.cons.inj (List.append_cancel_left hlist)).2⟩

/-- A key names the subject and then the user, or the user first; only the key of a booking
names its status instead of the user. -/
theorem parts_cases (h : HandledEvent) :
    (h ≠ .c2bBookingStatusChanged ∧ ∀ event, (keySubject h event).2 = "" ∧
      ∀ u, (h.notice event).parts u = ((keySubject h event).1, u)) ∨
    (h ≠ .c2bBookingStatusChanged ∧ ∀ event, (keySubject h event).2 = "" ∧
      ∀ u, (h.notice event).parts u = (u, (keySubject h event).1)) ∨
    (h = .c2bBookingStatusChanged ∧ ∀ event u, (h.notice event).parts u = keySubject h event) := by
  cases h with
  | c2bBookingStatusChanged => exact .inr (.inr ⟨rfl, fun _ _ ↦ rfl⟩)
  | passwordChanged => exact .inr (.inl ⟨by simp, fun _ ↦ ⟨rfl, fun _ ↦ rfl⟩⟩)
  | accountApproved => exact .inr (.inl ⟨by simp, fun _ ↦ ⟨rfl, fun _ ↦ rfl⟩⟩)
  | accountRejected => exact .inr (.inl ⟨by simp, fun _ ↦ ⟨rfl, fun _ ↦ rfl⟩⟩)
  | accountSuspended => exact .inr (.inl ⟨by simp, fun _ ↦ ⟨rfl, fun _ ↦ rfl⟩⟩)
  | _ => exact .inl ⟨by simp, fun _ ↦ ⟨rfl, fun _ ↦ rfl⟩⟩

/-- Two keys agree only for one kind of event, one subject and one user; the keys of a booking
do not name the user. -/
theorem key_eq_iff (hu : Plain a event u) (hw : Plain b event' w) :
    (a.notice event).key u = (b.notice event').key w ↔
      a = b ∧ keySubject a event = keySubject b event' ∧ (a = .c2bBookingStatusChanged ∨ u = w) := by
  constructor
  · intro hab
    obtain ⟨rfl, hparts⟩ := key_eq_parts hab
    refine ⟨rfl, ?_⟩
    rcases parts_cases a with ⟨_, hform⟩ | ⟨_, hform⟩ | ⟨hbooking, hform⟩
    · rw [(hform event).2, (hform event').2, append_cons_inj_last hu.user hw.user] at hparts
      have hsubject := String.toList_inj.mp hparts.1
      refine ⟨Prod.ext hsubject ?_, .inr (String.toList_inj.mp hparts.2)⟩
      rw [(hform event).1, (hform event').1]
    · rw [(hform event).2, (hform event').2, append_cons_inj_first hu.user hw.user] at hparts
      have hsubject := String.toList_inj.mp hparts.2
      refine ⟨Prod.ext hsubject ?_, .inr (String.toList_inj.mp hparts.1)⟩
      rw [(hform event).1, (hform event').1]
    · rw [hform, hform, append_cons_inj_last hu.status hw.status] at hparts
      exact ⟨Prod.ext (String.toList_inj.mp hparts.1) (String.toList_inj.mp hparts.2), .inl hbooking⟩
  · intro h
    obtain ⟨rfl, hsubject, huser⟩ := h
    have hscope : (a.notice event).scope.toList = (a.notice event').scope.toList :=
      List.append_cancel_right ((scope_eq a event).trans (scope_eq a event').symm)
    have hparts : (a.notice event).parts u = (a.notice event').parts w := by
      rcases parts_cases a with ⟨hne, hform⟩ | ⟨hne, hform⟩ | ⟨_, hform⟩
      · rw [(hform event).2, (hform event').2, hsubject, huser.resolve_left hne]
      · rw [(hform event).2, (hform event').2, hsubject, huser.resolve_left hne]
      · rw [hform, hform, hsubject]
    refine String.toList_inj.mp ?_
    rw [key_toList, key_toList, hscope, hparts]

theorem channelText_plain (c : NotificationChannel) : ':' ∉ (channelText c).toList := by
  cases c <;> decide

theorem channelText_injective {c c' : NotificationChannel} (h : channelText c = channelText c') :
    c = c' := by
  cases c <;> cases c' <;> first | rfl | exact absurd h (by decide)

/-- The same for the keys of the notifications, which end with the channel. -/
theorem channelKey_eq_iff (hu : Plain a event u) (hw : Plain b event' w)
    {c c' : NotificationChannel} :
    channelKey (a.notificationFor event u) c = channelKey (b.notificationFor event' w) c' ↔
      c = c' ∧ a = b ∧ keySubject a event = keySubject b event' ∧
        (a = .c2bBookingStatusChanged ∨ u = w) := by
  rw [OutboxProcessor.channelKey_notificationFor, OutboxProcessor.channelKey_notificationFor,
    Option.some.injEq, ← key_eq_iff hu hw]
  have hsplit (k : String) (d : NotificationChannel) :
      (s!"{k}:{channelText d}").toList = k.toList ++ ':' :: (channelText d).toList := by
    simp
    rfl
  rw [← String.toList_inj, hsplit, hsplit,
    append_cons_inj_last (channelText_plain c) (channelText_plain c'), String.toList_inj,
    String.toList_inj, and_comm]
  refine and_congr_left fun _ ↦ ⟨channelText_injective, ?_⟩
  intro h
  rw [h]

end Innovents.Notifications
