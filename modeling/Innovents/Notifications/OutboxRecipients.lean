import Innovents.Notifications.DistinctNotifications

namespace Innovents.Notifications

open Innovents.Lib Innovents.Payments OutboxProcessor NotificationPreferenceService
  NotificationOrchestratorService

def IsAdmin (u : String) (s : Platform) : Prop :=
  ∃ user ∈ s.users.rows, user.id = u ∧ "ADMIN" ∈ user.userRoles

/-- A user has a notification on a channel that was not there before. -/
def Notified (u : String) (c : NotificationChannel) (s s' : Platform) : Prop :=
  ∃ n ∈ s'.notifications.rows, n ∉ s.notifications.rows ∧ n.userId = u ∧ n.channel = c

namespace Enqueued

/-- Whom an event is for, by what has happened: both parties of an RFQ that expires, the other
party where one of them acts, the members of a community other than the one who invites them to
a meetup, and the admins who review an ad. -/
def IsFor (s : Platform) (u : String) : Enqueued → Prop
  | rfqSent _ _ vendorId _ _ | rfqCancelled _ _ vendorId _ | quotationAccepted _ _ _ vendorId _ _
  | quotationRejected _ _ _ vendorId _ => u = vendorId
  | rfqViewed _ sponsorId _ | rfqRejected _ sponsorId _ _
  | quotationCreated _ _ _ sponsorId _ _ _ _ | adApproved _ sponsorId _
  | adRejected _ sponsorId _ _ => u = sponsorId
  | rfqFoundExpired _ sponsorId vendorId | rfqExpired _ sponsorId vendorId _ _ =>
    u = sponsorId ∨ u = vendorId
  | clarificationRequested _ _ recipientId _ => u = recipientId
  | organizerInvitationAccepted _ _ _ eventOwnerId _ _ => u = eventOwnerId
  | bookingRequested _ providerId _ _ _ | couponRedeemed _ _ providerId _ _ => u = providerId
  | bookingUpdated _ attendeeId _ _ _ | bookingCancelled _ attendeeId _ => u = attendeeId
  | mentionedInPost _ _ _ mentionedUserId | mentionedInReply _ _ _ _ mentionedUserId =>
    u = mentionedUserId
  | userSuspended userId _ _ | accountApproved userId _ _ _ | accountRejected userId _ _ _ _
  | accountSuspended userId _ _ _ _ | sponsorshipPaid _ userId _ _ _
  | sponsorshipActivated _ userId _ _ _ | sponsorshipExpired _ userId _ _
  | subscriptionActivated _ userId _ _ _ | subscriptionRenewed _ userId _ _ _
  | subscriptionPaymentFailed _ userId _ | subscriptionDeleted _ userId _
  | subscriptionCancelled _ userId _ _ | chargeRefunded _ userId _ _
  | paymentRefunded _ userId _ _ _ => u = userId
  | eventCancelled eventId _ =>
    ∃ r ∈ s.eventRegistrations.rows, r.eventId = eventId ∧ r.status = .registered ∧ r.userId = u
  | replyCreated _ postId _ authorId _ =>
    ∃ post, s.communityPosts.get? postId = some post ∧ post.authorId = u ∧ u ≠ authorId
  | meetupCreated _ communityId _ creatorId _ =>
    (∃ m ∈ s.communityMembers.rows, m.communityId = communityId ∧ m.status = .active ∧
      m.userId = u) ∧ u ≠ creatorId
  | adSubmitted _ _ _ => IsAdmin u s
  -- an email goes to somebody who may not be a user yet
  | organizerInvitationCreated .. | unrouted .. => False

/-- Whether a user allows the notifications of an event on a channel. -/
def allowed (e : Enqueued) (u : String) (c : NotificationChannel) (s : Platform) : Bool :=
  match handledEvent (e.record "" 0).eventType with
  | some h => allows u (h.notificationFor (e.record "" 0) u).type c s
  | none => false

/-- A user is notified wherever the user allows it. -/
def Reaches (e : Enqueued) (u : String) (s s' : Platform) : Prop :=
  ∀ c, e.allowed u c s = true → Notified u c s s'

/-- The event notifies the users it is for, of the admins at least one, and nobody else. -/
structure NotifiesExactly (e : Enqueued) (s s' : Platform) : Prop where
  reaches : (∀ adId sponsorId title, e ≠ .adSubmitted adId sponsorId title) →
    ∀ u, e.IsFor s u → e.Reaches u s s'
  reachesAdmin : ∀ adId sponsorId title, e = .adSubmitted adId sponsorId title →
    (∃ u, IsAdmin u s) → ∃ u, IsAdmin u s ∧ e.Reaches u s s'
  only : ∀ u c, Notified u c s s' → e.IsFor s u

/-- The events that their handler brings to others than the users they are for. -/
def Misdirected (s : Platform) : Enqueued → Prop
  | meetupCreated _ communityId _ creatorId _ => creatorId ∈ activeMembers communityId s ∧
    ∃ c, allows creatorId .communityMeetupCreated c s = true
  | adSubmitted _ _ _ => (∃ u, IsAdmin u s) ∧
    ∀ u, IsAdmin u s → ∃ c, allows u .sponsorAdSubmitted c s = true
  | rfqRejected _ sponsorId vendorId _ => sponsorId ≠ vendorId
  | rfqFoundExpired _ sponsorId vendorId | rfqExpired _ sponsorId vendorId _ _ =>
    sponsorId ≠ vendorId ∧ ∃ c, allows sponsorId .rfqExpired c s = true
  | _ => False

/-- Nobody has been told about the event, or about another one under the same keys. -/
def Unheard (e : Enqueued) (id : String) (s : Platform) : Prop :=
  ∀ u c k, notificationKey (e.record id 0) u c = some k →
    ∀ r ∈ s.notifications.rows, r.idempotencyKey ≠ some k

variable {e : Enqueued} {id : String} {n : ℕ} {h : HandledEvent} {s s' : Platform} {u : String}
  {c : NotificationChannel} {r : Except String Unit}

theorem eventType_id (e : Enqueued) (id id' : String) (n m : ℕ) :
    (e.record id n).eventType = (e.record id' m).eventType := by
  cases e <;> rfl

theorem type_notificationFor (h : HandledEvent) (event event' : RawOutboxRecord) (u : String) :
    (h.notificationFor event u).type = (h.notificationFor event' u).type := by
  cases h <;> rfl

theorem allowed_handled (id : String) (n : ℕ)
    (hh : handledEvent (e.record id n).eventType = some h) :
    e.allowed u c s = allows u (h.notificationFor (e.record id n) u).type c s := by
  rw [eventType_id e id "" n 0] at hh
  rw [allowed, hh]
  show allows u (h.notificationFor (e.record "" 0) u).type c s = _
  rw [type_notificationFor h (e.record "" 0) (e.record id n)]

theorem handled_of_told (hs : s.Linked) (hids : ∀ x ∈ e.readIds, x ≠ "") (hu : u ∈ e.told s)
    (id : String) (n : ℕ) : ∃ h, handledEvent (e.record id n).eventType = some h := by
  cases hh : handledEvent (e.record id n).eventType with
  | some h => exact ⟨h, rfl⟩
  | none =>
    have hus := recipients_record e id n hids fun _ ↦ hs.author
    rw [recipients, hh] at hus
    rw [← Except.ok.inj hus] at hu
    cases hu

/-- Whom a handler that meets no failure notifies. -/
theorem notified_iff (hs : s.Linked) (hids : ∀ x ∈ e.readIds, x ≠ "") (hnew : e.Unheard id s)
    (hrun : (handleEvent (e.record id n)).Ran Calm s r s') :
    Notified u c s s' ↔ u ∈ e.told s ∧ s.users.has u = true ∧ e.allowed u c s = true := by
  have hus := recipients_record e id n hids fun _ ↦ hs.author
  constructor
  · intro hnotified
    obtain ⟨row, hrow, hfresh, rfl, rfl⟩ := hnotified
    obtain ⟨_, hposted⟩ := handleEvent_calm hrun hus
    obtain ⟨x, hx, hmakes, _⟩ := (hposted.rows.mem_cases hrow).resolve_left hfresh
    obtain ⟨hx, hwants⟩ := List.mem_filter.mp hx
    obtain ⟨u, hu, hx⟩ := List.mem_flatMap.mp hx
    obtain ⟨h, hh⟩ := handled_of_told hs hids hu id n
    rw [eventPostings, hh] at hx
    obtain ⟨c, _, rfl⟩ := List.mem_map.mp hx
    obtain ⟨_, _, rfl⟩ := hmakes
    simp only [Platform.wants, Bool.and_eq_true] at hwants
    refine ⟨hu, hwants.2, ?_⟩
    rw [allowed_handled id n hh]
    exact hwants.1
  · intro htold
    obtain ⟨htold, huser, hallowed⟩ := htold
    have haddresses : e.Addresses id u c s := by
      refine ⟨hids, htold, huser, fun h hh ↦ ?_, fun row hrow hkey ↦ ?_⟩
      · rw [← allowed_handled id 0 hh]
        exact hallowed
      · obtain ⟨h, hh⟩ := handled_of_told hs hids htold id 0
        obtain ⟨k, hk⟩ : ∃ k, notificationKey (e.record id 0) u c = some k := by
          refine Option.isSome_iff_exists.mp ?_
          rw [notificationKey, hh, Option.bind_some]
          exact channelKey_isSome h u c
        exact hnew u c k hk row hrow (hkey.trans hk)
    have hhandlings : Handlings [(e.record id n, true)] s s' :=
      .cons (hrun.mono fun _ henv _ ↦ henv) .nil
    obtain ⟨row, hrow, hkey⟩ := haddresses.key_present hs hhandlings List.mem_cons_self
    have hfresh : row ∉ s.notifications.rows := fun hold ↦ haddresses.fresh row hold hkey
    obtain ⟨x, hx, hmade⟩ := (hhandlings.made hrow).resolve_left hfresh
    rw [List.mem_singleton.mp hx] at hmade
    have hto := haddresses.addressed_of_key haddresses hs hmade hkey
    simp only [addressedTo, Bool.and_eq_true, beq_iff_eq] at hto
    exact ⟨row, hrow, hfresh, hto.1, hto.2⟩

theorem mem_activeMembers {communityId : String} : u ∈ activeMembers communityId s ↔
    ∃ m ∈ s.communityMembers.rows, m.communityId = communityId ∧ m.status = .active ∧
      m.userId = u := by
  simp only [activeMembers, List.mem_map, List.mem_filter, Bool.and_eq_true, beq_iff_eq, and_assoc]

section Exactly

variable (hs : s.Linked) (hids : ∀ x ∈ e.readIds, x ≠ "") (hnew : e.Unheard id s)
  (hrun : (handleEvent (e.record id n)).Ran Calm s r s')
  (hnamed : ∀ u, e.IsFor s u → s.users.has u = true)
include hs hids hnew hrun hnamed

theorem reaches_of_told (hfor : e.IsFor s u) (htold : u ∈ e.told s) : e.Reaches u s s' :=
  fun _ hallowed ↦ (notified_iff hs hids hnew hrun).mpr ⟨htold, hnamed u hfor, hallowed⟩

omit hnamed in
theorem told_of_reaches (hreaches : e.Reaches u s s') (hallowed : e.allowed u c s = true) :
    u ∈ e.told s := ((notified_iff hs hids hnew hrun).mp (hreaches c hallowed)).1

/-- The handler of most events finds exactly the users that the event is for. -/
theorem notifiesExactly_of_told
    (had : ∀ adId sponsorId title, e ≠ .adSubmitted adId sponsorId title)
    (htold : ∀ u, e.IsFor s u ↔ u ∈ e.told s) : e.NotifiesExactly s s' where
  reaches _ u hu := reaches_of_told hs hids hnew hrun hnamed hu ((htold u).mp hu)
  reachesAdmin adId sponsorId title he := absurd he (had adId sponsorId title)
  only u _ hu := (htold u).mpr ((notified_iff hs hids hnew hrun).mp hu).1

theorem meetup_notifies {meetupId communityId eventId creatorId title : String}
    (he : e = .meetupCreated meetupId communityId eventId creatorId title) :
    e.NotifiesExactly s s' ↔ ¬e.Misdirected s := by
  subst he
  constructor
  · intro hexact hwrong
    obtain ⟨hmember, c, hallowed⟩ := hwrong
    have huser : s.users.has creatorId = true := by
      obtain ⟨m, hm, _, _, hmu⟩ := mem_activeMembers.mp hmember
      rw [← hmu]
      exact hs.members m hm
    have hnotified := (notified_iff hs hids hnew hrun).mpr ⟨hmember, huser, hallowed⟩
    exact (hexact.only creatorId c hnotified).2 rfl
  · intro hright
    refine ⟨fun _ u hu ↦ ?_, fun _ _ _ he ↦ (by cases he), fun u c hu ↦ ?_⟩
    · exact reaches_of_told hs hids hnew hrun hnamed hu (mem_activeMembers.mpr hu.1)
    · obtain ⟨htold, _, hallowed⟩ := (notified_iff hs hids hnew hrun).mp hu
      refine ⟨mem_activeMembers.mp htold, fun hcreator ↦ hright ?_⟩
      rw [← hcreator]
      exact ⟨htold, c, hallowed⟩

omit hnamed in
theorem ad_notifies {adId sponsorId title : String} (he : e = .adSubmitted adId sponsorId title) :
    e.NotifiesExactly s s' ↔ ¬e.Misdirected s := by
  subst he
  have hnobody : ∀ u c, ¬Notified u c s s' := fun u c hu ↦ by
    have htold := ((notified_iff hs hids hnew hrun).mp hu).1
    cases htold
  constructor
  · intro hexact hwrong
    obtain ⟨hsome, hall⟩ := hwrong
    obtain ⟨u, hadmin, hreaches⟩ := hexact.reachesAdmin adId sponsorId title rfl hsome
    obtain ⟨c, hallowed⟩ := hall u hadmin
    exact hnobody u c (hreaches c hallowed)
  · intro hright
    refine ⟨fun hne ↦ absurd rfl (hne adId sponsorId title), fun _ _ _ _ hsome ↦ ?_,
      fun u c hu ↦ absurd hu (hnobody u c)⟩
    by_contra hnone
    refine hright ⟨hsome, fun u hadmin ↦ ?_⟩
    by_contra hnoc
    exact hnone ⟨u, hadmin, fun c hallowed ↦ absurd ⟨c, hallowed⟩ hnoc⟩

theorem rejection_notifies {rfqId sponsorId vendorId : String} {reason : Option String}
    (he : e = .rfqRejected rfqId sponsorId vendorId reason) :
    e.NotifiesExactly s s' ↔ ¬e.Misdirected s := by
  subst he
  constructor
  · intro hexact hwrong
    have hreaches := hexact.reaches (fun _ _ _ he ↦ by cases he) sponsorId rfl
    -- nobody can refuse to be told about a rejection
    have htold := told_of_reaches (c := .inApp) hs hids hnew hrun hreaches rfl
    exact hwrong (List.mem_singleton.mp htold)
  · intro hright
    obtain rfl : sponsorId = vendorId := not_not.mp hright
    refine notifiesExactly_of_told hs hids hnew hrun hnamed (fun _ _ _ he ↦ by cases he) fun u ↦ ?_
    exact List.mem_singleton.symm

/-- Of the two parties of an RFQ that expires, only the vendor is told. -/
theorem expiry_notifies {sponsorId vendorId : String} (htold : e.told s = [vendorId])
    (hfor : ∀ u, e.IsFor s u ↔ u = sponsorId ∨ u = vendorId)
    (hallows : ∀ c, e.allowed sponsorId c s = allows sponsorId .rfqExpired c s)
    (had : ∀ adId sponsorId title, e ≠ .adSubmitted adId sponsorId title) :
    e.NotifiesExactly s s' ↔
      ¬(sponsorId ≠ vendorId ∧ ∃ c, allows sponsorId .rfqExpired c s = true) := by
  constructor
  · intro hexact hwrong
    obtain ⟨hne, c, hallowed⟩ := hwrong
    have hreaches := hexact.reaches had sponsorId ((hfor sponsorId).mpr (.inl rfl))
    have hmem := told_of_reaches hs hids hnew hrun hreaches ((hallows c).trans hallowed)
    rw [htold] at hmem
    exact hne (List.mem_singleton.mp hmem)
  · intro hright
    refine ⟨fun _ u hu ↦ ?_, fun _ _ _ he ↦ absurd he (had _ _ _), fun u c hu ↦ ?_⟩
    · by_cases hvendor : u = vendorId
      · refine reaches_of_told hs hids hnew hrun hnamed hu ?_
        rw [htold, hvendor]
        exact List.mem_singleton_self vendorId
      · obtain rfl := ((hfor u).mp hu).resolve_right hvendor
        intro c hallowed
        exact absurd ⟨hvendor, c, (hallows c).symm.trans hallowed⟩ hright
    · have hmem := ((notified_iff hs hids hnew hrun).mp hu).1
      rw [htold] at hmem
      exact (hfor u).mpr (.inr (List.mem_singleton.mp hmem))

/-- A handler that meets no failure notifies exactly the users that its event is for, unless the
event is one of those that go astray. -/
theorem notifiesExactly_iff : e.NotifiesExactly s s' ↔ ¬e.Misdirected s := by
  have hexact := notifiesExactly_of_told hs hids hnew hrun hnamed
  cases e with
  | meetupCreated => exact meetup_notifies hs hids hnew hrun hnamed rfl
  | adSubmitted => exact ad_notifies hs hids hnew hrun rfl
  | rfqRejected => exact rejection_notifies hs hids hnew hrun hnamed rfl
  | rfqFoundExpired =>
    exact expiry_notifies hs hids hnew hrun hnamed rfl (fun _ ↦ Iff.rfl) (fun _ ↦ rfl)
      fun _ _ _ he ↦ by cases he
  | rfqExpired =>
    exact expiry_notifies hs hids hnew hrun hnamed rfl (fun _ ↦ Iff.rfl) (fun _ ↦ rfl)
      fun _ _ _ he ↦ by cases he
  | eventCancelled eventId cancelledBy =>
    refine iff_of_true (hexact (fun _ _ _ he ↦ by cases he) fun u ↦ ?_) not_false
    simp only [IsFor, told, findRegistered, List.mem_map, List.mem_filter, Bool.and_eq_true,
      beq_iff_eq, and_assoc]
  | replyCreated replyId postId communityId authorId parentReplyId =>
    refine iff_of_true (hexact (fun _ _ _ he ↦ by cases he) fun u ↦ ?_) not_false
    simp only [IsFor, told, repliedTo]
    cases s.communityPosts.get? postId with
    | none => simp
    | some post =>
      by_cases hauthor : authorId = post.authorId
      · simp only [Option.some.injEq, if_pos hauthor, List.not_mem_nil, iff_false]
        intro hother
        obtain ⟨_, rfl, rfl, hne⟩ := hother
        exact hne hauthor.symm
      · simp only [Option.some.injEq, if_neg hauthor, List.mem_singleton]
        constructor
        · intro hother
          obtain ⟨_, rfl, rfl, _⟩ := hother
          rfl
        · intro hu
          exact ⟨post, rfl, hu.symm, fun heq ↦ hauthor (heq.symm.trans hu)⟩
  | organizerInvitationCreated =>
    exact iff_of_true (hexact (fun _ _ _ he ↦ by cases he) fun u ↦ by simp [IsFor, told, target])
      not_false
  | unrouted =>
    exact iff_of_true (hexact (fun _ _ _ he ↦ by cases he) fun u ↦ by simp [IsFor, told, target])
      not_false
  | _ =>
    exact iff_of_true (hexact (fun _ _ _ he ↦ by cases he) fun u ↦ List.mem_singleton.symm)
      not_false

end Exactly

end Enqueued

section Meetup

def adminId : String := "00000000-0000-4000-8000-000000000002"

def meetupUsers : Table User where
  rows := [⟨subscriberId, "member@example.com", .active, none, ["ATTENDEE"]⟩,
    ⟨adminId, "admin@example.com", .active, none, ["ADMIN"]⟩]
  apart := by decide

/-- A platform with an admin and with a member of a community. -/
def meetupPlatform : Platform :=
  { Platform.empty with
    users := meetupUsers
    communityMembers := .singleton ⟨"member-1", "community-1", subscriberId, .member, .active⟩ }

def meetup : Enqueued := .meetupCreated "meetup-1" "community-1" "event-1" subscriberId "Hiking"

def submittedAd : Enqueued := .adSubmitted "ad-1" subscriberId "Summer"

theorem meetupPlatform_linked : meetupPlatform.Linked where
  users user huser := by
    simp only [meetupPlatform, meetupUsers, List.mem_cons, List.not_mem_nil, or_false] at huser
    rcases huser with rfl | rfl
    · decide
    · decide
  members m hm := by
    rw [List.mem_singleton.mp hm]
    decide
  registrations r hr := by cases hr
  authors post hpost := by cases hpost

theorem meetupPlatform_unheard (e : Enqueued) (id : String) : e.Unheard id meetupPlatform :=
  fun _ _ _ _ r hr ↦ by cases hr

theorem subscriber_has : meetupPlatform.users.has subscriberId = true := by decide

/-- An event that comes to the users it is for. -/
theorem renewal_notifies : ∃ r s', (handleEvent (renewed.record "evt-1" 0)).Ran Calm
      meetupPlatform r s' ∧ renewed.NotifiesExactly meetupPlatform s' := by
  obtain ⟨r, s', hrun⟩ := Call.exists_ran (calm_calmEnv 0)
    (handleEvent (renewed.record "evt-1" 0)) meetupPlatform
  refine ⟨r, s', hrun, (Enqueued.notifiesExactly_iff meetupPlatform_linked ?_
    (meetupPlatform_unheard renewed "evt-1") hrun ?_).mpr not_false⟩
  · intro x hx
    rw [List.mem_singleton.mp hx]
    decide
  · intro u hu
    obtain rfl : u = subscriberId := hu
    exact subscriber_has

/-- The member who creates a meetup is invited to it, and no admin learns of an ad. -/
theorem meetup_and_ad_go_astray :
    (∃ r s', (handleEvent (meetup.record "evt-1" 0)).Ran Calm meetupPlatform r s' ∧
      ¬meetup.NotifiesExactly meetupPlatform s') ∧
    ∃ r s', (handleEvent (submittedAd.record "evt-2" 0)).Ran Calm meetupPlatform r s' ∧
      ¬submittedAd.NotifiesExactly meetupPlatform s' := by
  constructor
  · obtain ⟨r, s', hrun⟩ := Call.exists_ran (calm_calmEnv 0)
      (handleEvent (meetup.record "evt-1" 0)) meetupPlatform
    refine ⟨r, s', hrun, fun hexact ↦ (Enqueued.meetup_notifies meetupPlatform_linked ?_
      (meetupPlatform_unheard meetup "evt-1") hrun ?_ rfl).mp hexact ?_⟩
    · intro x hx
      rw [List.mem_singleton.mp hx]
      decide
    · intro u hu
      obtain ⟨m, hm, _, _, rfl⟩ := hu.1
      exact meetupPlatform_linked.members m hm
    · exact ⟨List.mem_singleton_self subscriberId, .inApp, rfl⟩
  · obtain ⟨r, s', hrun⟩ := Call.exists_ran (calm_calmEnv 0)
      (handleEvent (submittedAd.record "evt-2" 0)) meetupPlatform
    refine ⟨r, s', hrun, fun hexact ↦ (Enqueued.ad_notifies meetupPlatform_linked ?_
      (meetupPlatform_unheard submittedAd "evt-2") hrun rfl).mp hexact ?_⟩
    · intro x hx
      cases hx
    · refine ⟨⟨adminId, _, List.mem_cons_of_mem _ List.mem_cons_self, rfl, ?_⟩, fun u _ ↦ ?_⟩
      · decide
      · exact ⟨.inApp, rfl⟩

end Meetup

end Innovents.Notifications
