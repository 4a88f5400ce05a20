import Innovents.Notifications.NotificationKeys
import Innovents.Notifications.OutboxProducers

namespace Innovents.Notifications

open Innovents.Lib Innovents.Payments OutboxProcessor NotificationPreferenceService
  NotificationOrchestratorService QueueService

/-- User ids are of type `uuid`, and the columns that refer to users are foreign keys. -/
structure Platform.Linked (s : Platform) : Prop where
  users : ∀ user ∈ s.users.rows, isUuid user.id = true
  members : ∀ m ∈ s.communityMembers.rows, s.users.has m.userId = true
  registrations : ∀ r ∈ s.eventRegistrations.rows, s.users.has r.userId = true
  authors : ∀ post ∈ s.communityPosts.rows, s.users.has post.authorId = true

theorem isUuid_plain {id : String} (h : isUuid id = true) : ':' ∉ id.toList ∧ id ≠ "" := by
  simp only [isUuid, Bool.and_eq_true, beq_iff_eq, List.all_eq_true] at h
  obtain ⟨hlength, hall⟩ := h
  refine ⟨fun hmem ↦ ?_, fun hempty ↦ ?_⟩
  · obtain ⟨i, hi⟩ := List.getElem?_of_mem hmem
    have hc := hall (':', i) (List.mem_zipIdx_iff_getElem?.mpr hi)
    simp only at hc
    split_ifs at hc
    · exact absurd hc (by simp)
    · exact absurd hc (by simp)
  · rw [hempty] at hlength
    exact absurd hlength (by decide)

namespace Platform.Linked

variable {s s' : Platform}

theorem plain (h : s.Linked) {u : String} (hu : s.users.has u = true) :
    ':' ∉ u.toList ∧ u ≠ "" := by
  obtain ⟨user, huser, rfl⟩ := Table.has_iff.mp hu
  exact isUuid_plain (h.users user huser)

theorem author (h : s.Linked) {post : CommunityPost} (hpost : post ∈ s.communityPosts.rows) :
    post.authorId ≠ "" := (h.plain (h.authors post hpost)).2

end Platform.Linked

/-- A notification that the handler of an event makes. -/
structure MadeFor (event : RawOutboxRecord) (s : Platform) (n : Notification) : Prop where
  user : s.users.has n.userId = true
  key : ∃ h, handledEvent event.eventType = some h ∧
    n.idempotencyKey = channelKey (h.notificationFor event n.userId) n.channel ∧
    (h = .c2bBookingStatusChanged → (h.addressee event).asStr? = some n.userId)

def OnlyMakes (event : RawOutboxRecord) (s s' : Platform) : Prop :=
  Tells s s' ∧ ∀ n ∈ s'.notifications.rows, n ∈ s.notifications.rows ∨ MadeFor event s n

section OnlyMakes

variable {event : RawOutboxRecord} {s s' s'' : Platform}

theorem OnlyMakes.refl (s : Platform) : OnlyMakes event s s := ⟨.refl s, fun _ ↦ .inl⟩

theorem Tells.has {u : String} (h : Tells s s') : s'.users.has u = s.users.has u := by
  rw [h.frame]

theorem MadeFor.back {n : Notification} (h : Tells s s') (hn : MadeFor event s' n) :
    MadeFor event s n := ⟨h.has.symm.trans hn.user, hn.key⟩

theorem OnlyMakes.trans (h : OnlyMakes event s s') (h' : OnlyMakes event s' s'') :
    OnlyMakes event s s'' := by
  refine ⟨h.1.trans h'.1, fun n hn ↦ ?_⟩
  rcases h'.2 n hn with hold | hmade
  · exact h.2 n hold
  · exact .inr (hmade.back h.1)

theorem onlyMakes_addJob (queueName : QueueName) (job : Job) :
    OnlySteps (OnlyMakes event) (addJob queueName job) := by
  refine Call.each_perform OnlyMakes.refl fun env t t' u h ↦ ?_
  have hsame : t'.notifications = t.notifications := by
    split_ifs at h
    · cases hf : env.fault with
      | some message =>
        rw [hf] at h
        cases h
      | none =>
        rw [hf] at h
        cases h
        rfl
    · cases h
      rfl
  have hstep := (onlyTells_addJob queueName job env t).1
  simp only [Call.written, h] at hstep
  exact ⟨hstep, fun n hn ↦ .inl (hsame ▸ hn)⟩

theorem createNotification_makes {params : OrchestrateNotificationParams}
    {channel : NotificationChannel} {env : HandlerEnv} {n : Notification}
    (h : createNotification params channel env s = .ok (s', n)) :
    s.users.has params.userId = true ∧
      s'.notifications.rows = s.notifications.rows ++
        [notificationRow params channel env.now (env.newId s.notifications)] := by
  unfold createNotification at h
  split_ifs at h with huser
  dsimp only at h
  split at h
  · rename_i t ht
    cases h
    exact ⟨huser, Table.create_eq_ok.mp ht⟩
  · cases h

theorem onlyMakes_persistNotification {h : HandledEvent} {u : String} (c : NotificationChannel)
    (hh : handledEvent event.eventType = some h)
    (hu : h = .c2bBookingStatusChanged → (h.addressee event).asStr? = some u) :
    OnlySteps (OnlyMakes event) (persistNotification (h.notificationFor event u) c) := by
  refine Call.each_perform OnlyMakes.refl fun env t t' n hn ↦ ?_
  have htells := (onlyTells_persistNotification (h.notificationFor event u) c env t).1
  simp only [Call.written, hn] at htells
  refine ⟨htells, ?_⟩
  have hcreate : t' = t ∨ createNotification (h.notificationFor event u) c env t = .ok (t', n) := by
    cases hf : env.fault with
    | some message =>
      rw [hf] at hn
      cases hn
    | none =>
      rw [hf] at hn
      simp only [Option.elim_none] at hn
      split at hn
      · split at hn
        · cases hn
          exact .inl rfl
        · exact .inr hn
      · exact .inr hn
  rcases hcreate with rfl | hcreate
  · exact fun _ ↦ .inl
  · obtain ⟨huser, hrows⟩ := createNotification_makes hcreate
    intro m hm
    rw [hrows, List.mem_append, List.mem_singleton] at hm
    rcases hm with hold | rfl
    · exact .inl hold
    · exact .inr ⟨huser, h, hh, rfl, hu⟩

theorem onlyMakes_handleEvent (event : RawOutboxRecord) :
    OnlySteps (OnlyMakes event) (handleEvent event) :=
  onlySteps_handleEvent OnlyMakes.refl onlyMakes_addJob fun _ _ c hh hu ↦
    onlyMakes_persistNotification c hh hu

end OnlyMakes

/-- Events that are handled one after another. The second component says that no failure
is met; another handling may stop anywhere, or fail wherever it meets one. -/
inductive Handlings : List (RawOutboxRecord × Bool) → Platform → Platform → Prop
  | nil {s : Platform} : Handlings [] s s
  | cons {event : RawOutboxRecord} {calm : Bool} {events : List (RawOutboxRecord × Bool)}
      {s s₁ s' : Platform} {r : Except String Unit} :
      (handleEvent event).Ran (fun env ↦ calm = true → Calm env) s r s₁ →
      Handlings events s₁ s' → Handlings ((event, calm) :: events) s s'

namespace Handlings

variable {events : List (RawOutboxRecord × Bool)} {event : RawOutboxRecord} {s s' : Platform}
  {u : String} {us : List String} {h : HandledEvent} {c : NotificationChannel}

theorem tells (hs : Handlings events s s') : Tells s s' := by
  induction hs with
  | nil => exact .refl _
  | cons hr _ ih => exact (onlyTells_ran (onlyTells_handleEvent _) hr).trans ih

/-- Handlings add nothing but notifications of their events, failures or not. -/
theorem made (hs : Handlings events s s') {n : Notification} (hn : n ∈ s'.notifications.rows) :
    n ∈ s.notifications.rows ∨ ∃ x ∈ events, MadeFor x.1 s n := by
  induction hs with
  | nil => exact .inl hn
  | @cons event calm events s s₁ s' r hr hs ih =>
    have hstep : OnlyMakes event s s₁ := Call.Each.ran (J := OnlyMakes event s)
      (onlyMakes_handleEvent event) (fun _ _ _ h h' ↦ h.trans h') hr (.refl s)
    rcases ih hn with hold | ⟨x, hx, hmade⟩
    · rcases hstep.2 n hold with hold | hmade
      · exact .inl hold
      · exact .inr ⟨_, List.mem_cons_self, hmade⟩
    · exact .inr ⟨x, List.mem_cons_of_mem _ hx, hmade.back hstep.1⟩

theorem exists_handlings (events : List (RawOutboxRecord × Bool)) (s : Platform) :
    ∃ s', Handlings events s s' := by
  induction events generalizing s with
  | nil => exact ⟨s, .nil⟩
  | cons x events ih =>
    obtain ⟨r, s₁, hr⟩ := Call.exists_ran (calm_calmEnv 0) (handleEvent x.1) s
    obtain ⟨s', hs'⟩ := ih s₁
    exact ⟨s', .cons (hr.mono fun _ henv _ ↦ henv) hs'⟩

theorem recipients_tells (ht : Tells s s') : recipients event s' = recipients event s := by
  rw [ht.frame]
  rfl

/-- Once an event is handled without a failure, its notifications are there. -/
theorem key_mem (hs : Handlings events s s') (hmem : (event, true) ∈ events)
    (hus : recipients event s = .ok us) (hu : u ∈ us) (hh : handledEvent event.eventType = some h)
    (hwants : s.wants (h.notificationFor event u, c) = true) :
    ∃ n ∈ s'.notifications.rows,
      n.idempotencyKey = channelKey (h.notificationFor event u) c := by
  induction hs with
  | nil => cases hmem
  | @cons event' calm events s s₁ s' r hr hs ih =>
    have htells := onlyTells_ran (onlyTells_handleEvent event') hr
    rcases List.mem_cons.mp hmem with heq | hrest
    · cases heq
      have hcalm : (handleEvent event).Ran Calm s r s₁ := hr.mono fun env henv ↦ henv rfl
      obtain ⟨_, hposted⟩ := handleEvent_calm hcalm hus
      have hx : (h.notificationFor event u, c) ∈
          (us.flatMap (eventPostings event)).filter s.wants := by
        refine List.mem_filter.mpr ⟨List.mem_flatMap.mpr ⟨u, hu, ?_⟩, hwants⟩
        rw [eventPostings, hh]
        refine List.mem_map.mpr ⟨c, ?_, rfl⟩
        show c ∈ [NotificationChannel.inApp, .push, .email]
        cases c <;> decide
      obtain ⟨n, hn, hkey⟩ := List.mem_map.mp
        (hposted.rows.key_mem (fun x n hmakes ↦ Posting.Makes.key hmakes) hx)
      exact ⟨n, hs.tells.notifications.subset hn, hkey⟩
    · refine ih hrest ?_ ?_
      · rw [recipients_tells htells, hus]
      · rw [htells.wants, hwants]

end Handlings

def addressedTo (u : String) (c : NotificationChannel) (n : Notification) : Bool :=
  n.userId == u && n.channel == c

/-- How many notifications a user has on a channel. -/
def notificationsOf (u : String) (c : NotificationChannel) (s : Platform) : ℕ :=
  s.notifications.rows.countP (addressedTo u c)

/-- The key under which a user is told about an event. -/
def notificationKey (event : RawOutboxRecord) (u : String) (c : NotificationChannel) :
    Option String :=
  (handledEvent event.eventType).bind fun h ↦ channelKey (h.notificationFor event u) c

/-- The keys of two events agree: they are of one kind and about the same subject. -/
def SameSubject (event event' : RawOutboxRecord) : Prop :=
  ∃ h, handledEvent event.eventType = some h ∧ handledEvent event'.eventType = some h ∧
    keySubject h event = keySubject h event'

namespace Enqueued

variable {e e' : Enqueued} {id id' : String} {m n : ℕ} {h : HandledEvent} {s s' : Platform}
  {u w : String} {c : NotificationChannel} {r : Notification}

/-- The handler addresses a user on a channel that the user allows, for the first time. -/
structure Addresses (e : Enqueued) (id u : String) (c : NotificationChannel) (s : Platform) :
    Prop where
  ids : ∀ x ∈ e.readIds, x ≠ ""
  told : u ∈ e.told s
  user : s.users.has u = true
  allowed : ∀ h, handledEvent (e.record id 0).eventType = some h →
    allows u (h.notificationFor (e.record id 0) u).type c s = true
  fresh : ∀ r ∈ s.notifications.rows, r.idempotencyKey ≠ notificationKey (e.record id 0) u c

theorem record_attempts (e : Enqueued) (id : String) (n : ℕ) :
    e.record id n = { e.record id 0 with attempts := n } := by
  cases e <;> rfl

theorem notificationFor_attempts (h : HandledEvent) (event : RawOutboxRecord) (n : ℕ) (u : String) :
    h.notificationFor { event with attempts := n } u = h.notificationFor event u := by
  cases h <;> rfl

theorem addressee_attempts (h : HandledEvent) (event : RawOutboxRecord) (n : ℕ) :
    h.addressee { event with attempts := n } = h.addressee event := by
  cases h <;> rfl

theorem status_plain (hh : handledEvent (e.record id n).eventType = some h) :
    ':' ∉ (keySubject h (e.record id n)).2.toList := by
  cases h with
  | c2bBookingStatusChanged =>
    cases e with
    | bookingUpdated bookingId attendeeId status serviceName providerNotes =>
      have hstatus : (keySubject .c2bBookingStatusChanged ((bookingUpdated bookingId attendeeId
          status serviceName providerNotes).record id n)).2 = bookingStatusText status := by
        cases status <;> rfl
      rw [hstatus]
      cases status <;> decide
    | bookingCancelled bookingId attendeeId serviceName =>
      show ':' ∉ "CANCELLED".toList
      decide
    | unrouted eventType _ _ _ known =>
      rw [record, handledEvent_unrouted eventType known] at hh
      cases hh
    | _ => cases hh
  | _ => exact List.not_mem_nil

theorem plain (hs : s.Linked) (hh : handledEvent (e.record id n).eventType = some h)
    (hu : s.users.has u = true) : Plain h (e.record id n) u :=
  ⟨(hs.plain hu).1, status_plain hh⟩

/-- A booking has one attendee. -/
theorem told_booking (hh : handledEvent (e.record id n).eventType = some .c2bBookingStatusChanged)
    (hids : ∀ x ∈ e.readIds, x ≠ "") (hu : u ∈ e.told s)
    (hw : (HandledEvent.c2bBookingStatusChanged.addressee (e.record id n)).asStr? = some w) :
    w = u := by
  have hattendee (attendeeId : String) (fields : List (String × JsValue))
      (hp : (e.record id n).payload = .obj fields)
      (hk : fields.lookup "attendeeId" = some (.str attendeeId)) (hne : attendeeId ≠ "") :
      w = attendeeId := by
    have hfield := field_of_lookup .undefined hp hk hne
    rw [HandledEvent.addressee, hfield] at hw
    exact (Option.some.inj hw).symm
  cases e with
  | bookingUpdated bookingId attendeeId status serviceName providerNotes =>
    rw [List.mem_singleton.mp hu]
    exact hattendee attendeeId _ rfl rfl (hids attendeeId List.mem_cons_self)
  | bookingCancelled bookingId attendeeId serviceName =>
    rw [List.mem_singleton.mp hu]
    exact hattendee attendeeId _ rfl rfl (hids attendeeId List.mem_cons_self)
  | unrouted eventType _ _ _ known =>
    rw [record, handledEvent_unrouted eventType known] at hh
    cases hh
  | _ => cases hh

namespace Addresses

theorem handled (ha : e.Addresses id u c s) (hs : s.Linked) :
    ∃ h, handledEvent (e.record id 0).eventType = some h := by
  cases hh : handledEvent (e.record id 0).eventType with
  | some h => exact ⟨h, rfl⟩
  | none =>
    have hus := recipients_record e id 0 ha.ids fun _ ↦ hs.author
    rw [recipients, hh] at hus
    have htold := ha.told
    rw [← Except.ok.inj hus] at htold
    cases htold

/-- Notifications of the event that go to the user on the channel have the key. -/
theorem key_of_addressed (hr : MadeFor (e.record id n) s r) (hto : addressedTo u c r = true) :
    r.idempotencyKey = notificationKey (e.record id 0) u c := by
  obtain ⟨h, hh, hkey, _⟩ := hr.key
  simp only [addressedTo, Bool.and_eq_true, beq_iff_eq] at hto
  rw [record_attempts] at hh hkey
  rw [notificationFor_attempts, hto.1, hto.2] at hkey
  rw [hkey, notificationKey, show handledEvent (e.record id 0).eventType = some h from hh]
  rfl

/-- Conversely, one event never takes the key under which the user is told about another one,
unless it tells the same user on the same channel. -/
theorem addressed_of_key (ha : e.Addresses id u c s) (ha' : e'.Addresses id' u c s) (hs : s.Linked)
    (hr : MadeFor (e.record id n) s r)
    (hkey : r.idempotencyKey = notificationKey (e'.record id' 0) u c) :
    addressedTo u c r = true := by
  obtain ⟨h, hh, hmade, hbooking⟩ := hr.key
  obtain ⟨h', hh'⟩ := ha'.handled hs
  rw [notificationKey, hh', Option.bind_some, hmade,
    channelKey_eq_iff (plain hs hh hr.user) (plain hs hh' ha'.user)] at hkey
  obtain ⟨hc, rfl, _, huser⟩ := hkey
  have hu : r.userId = u := by
    rcases huser with rfl | hu
    · exact told_booking hh ha.ids ha.told (hbooking rfl)
    · exact hu
  simp [addressedTo, hu, hc]

theorem wants (ha : e.Addresses id u c s) (hh : handledEvent (e.record id 0).eventType = some h) :
    s.wants (h.notificationFor (e.record id 0) u, c) = true := by
  simp only [Platform.wants, Bool.and_eq_true]
  exact ⟨ha.allowed h hh, ha.user⟩

theorem key_present {events : List (RawOutboxRecord × Bool)} (ha : e.Addresses id u c s)
    (hs : s.Linked) (hrun : Handlings events s s') (hmem : (e.record id n, true) ∈ events) :
    ∃ r ∈ s'.notifications.rows, r.idempotencyKey = notificationKey (e.record id 0) u c := by
  obtain ⟨h, hh⟩ := ha.handled hs
  have hus := recipients_record e id n ha.ids fun _ ↦ hs.author
  have hwants := ha.wants hh
  rw [← notificationFor_attempts h _ n, ← record_attempts] at hwants
  have hh' : handledEvent (e.record id n).eventType = some h := by
    rw [record_attempts]
    exact hh
  obtain ⟨r, hr, hkey⟩ := hrun.key_mem hmem hus ha.told hh' hwants
  refine ⟨r, hr, ?_⟩
  rw [hkey, record_attempts, notificationFor_attempts, notificationKey, hh, Option.bind_some]

theorem key_some (ha : e.Addresses id u c s) (hs : s.Linked) :
    ∃ k, notificationKey (e.record id 0) u c = some k := by
  obtain ⟨h, hh⟩ := ha.handled hs
  refine Option.isSome_iff_exists.mp ?_
  rw [notificationKey, hh, Option.bind_some]
  exact channelKey_isSome h u c

theorem key_eq_iff (ha : e.Addresses id u c s) (ha' : e'.Addresses id' u c s) (hs : s.Linked) :
    notificationKey (e.record id 0) u c = notificationKey (e'.record id' 0) u c ↔
      SameSubject (e.record id 0) (e'.record id' 0) := by
  obtain ⟨h, hh⟩ := ha.handled hs
  obtain ⟨h', hh'⟩ := ha'.handled hs
  rw [notificationKey, notificationKey, hh, hh', Option.bind_some, Option.bind_some,
    channelKey_eq_iff (plain hs hh ha.user) (plain hs hh' ha'.user)]
  constructor
  · intro hsame
    obtain ⟨_, rfl, hsubject, _⟩ := hsame
    exact ⟨h, hh, hh', hsubject⟩
  · intro hsame
    obtain ⟨k, hk, hk', hsubject⟩ := hsame
    rw [hh] at hk
    rw [hh'] at hk'
    cases hk
    cases hk'
    exact ⟨rfl, rfl, hsubject, .inr rfl⟩

end Addresses

end Enqueued

open Classical in
/-- Two events that address a user make two notifications, unless their keys agree. -/
theorem notificationsOf_handlings {a b : Enqueued} {i j u : String} {c : NotificationChannel}
    {s s' : Platform} {events : List (RawOutboxRecord × Bool)} (hs : s.Linked)
    (ha : a.Addresses i u c s) (hb : b.Addresses j u c s) (hrun : Handlings events s s')
    (hevents : ∀ x ∈ events, (∃ n, x.1 = a.record i n) ∨ ∃ n, x.1 = b.record j n)
    (hadone : ∃ n, (a.record i n, true) ∈ events) (hbdone : ∃ n, (b.record j n, true) ∈ events) :
    notificationsOf u c s' = notificationsOf u c s +
      if SameSubject (a.record i 0) (b.record j 0) then 1 else 2 := by
  obtain ⟨ka, hka⟩ := ha.key_some hs
  obtain ⟨kb, hkb⟩ := hb.key_some hs
  obtain ⟨_, hadone⟩ := hadone
  obtain ⟨_, hbdone⟩ := hbdone
  have hsame := ha.key_eq_iff hb hs
  rw [hka, hkb, Option.some.injEq] at hsame
  rw [notificationsOf, notificationsOf, ← if_congr hsame rfl rfl]
  refine Table.countP_two_keys (u := Notification.idempotencyKey) (List.mem_singleton_self _)
    hrun.tells.notifications ?_ ?_ ?_ ?_
  · rw [← hka]
    exact ha.key_present hs hrun hadone
  · rw [← hkb]
    exact hb.key_present hs hrun hbdone
  · intro r hr
    exact ⟨hka ▸ ha.fresh r hr, hkb ▸ hb.fresh r hr⟩
  · intro r hr hnew
    obtain ⟨x, hx, hmade⟩ := (hrun.made hr).resolve_left hnew
    rw [← hka, ← hkb]
    rcases hevents x hx with ⟨n, hxn⟩ | ⟨n, hxn⟩
    · rw [hxn] at hmade
      constructor
      · exact fun hto ↦ .inl (Enqueued.Addresses.key_of_addressed hmade hto)
      · intro hkey
        rcases hkey with hkey | hkey
        · exact ha.addressed_of_key ha hs hmade hkey
        · exact ha.addressed_of_key hb hs hmade hkey
    · rw [hxn] at hmade
      constructor
      · exact fun hto ↦ .inr (Enqueued.Addresses.key_of_addressed hmade hto)
      · intro hkey
        rcases hkey with hkey | hkey
        · exact hb.addressed_of_key ha hs hmade hkey
        · exact hb.addressed_of_key hb hs hmade hkey

/-- Two events that address a user on a channel end as two notifications exactly if they are not
of one kind and about one subject; one event ends as one, however often it is handled. -/
theorem events_as_notifications {a b : Enqueued} {i j u : String} {c : NotificationChannel}
    {s : Platform} (hs : s.Linked) (ha : a.Addresses i u c s) (hb : b.Addresses j u c s) :
    (∀ events s', Handlings events s s' →
      (∀ x ∈ events, (∃ n, x.1 = a.record i n) ∨ ∃ n, x.1 = b.record j n) →
      (∃ n, (a.record i n, true) ∈ events) → (∃ n, (b.record j n, true) ∈ events) →
      (notificationsOf u c s' = notificationsOf u c s + 2 ↔
        ¬SameSubject (a.record i 0) (b.record j 0))) ∧
    ∀ events s', Handlings events s s' → (∀ x ∈ events, ∃ n, x.1 = a.record i n) →
      (∃ n, (a.record i n, true) ∈ events) →
      notificationsOf u c s' = notificationsOf u c s + 1 := by
  constructor
  · intro events s' hrun hevents hadone hbdone
    rw [notificationsOf_handlings hs ha hb hrun hevents hadone hbdone]
    split_ifs with hsame
    · simp [hsame]
    · simp [hsame]
  · intro events s' hrun hevents hadone
    obtain ⟨h, hh⟩ := ha.handled hs
    rw [notificationsOf_handlings hs ha ha hrun (fun x hx ↦ .inl (hevents x hx)) hadone hadone,
      if_pos ⟨h, hh, hh, rfl⟩]

section Subscriber

def subscriberId : String := "00000000-0000-4000-8000-000000000001"

/-- A platform with one user. -/
def subscriberPlatform : Platform :=
  { Platform.empty with
    users := .singleton ⟨subscriberId, "subscriber@example.com", .active, none, ["SPONSOR"]⟩ }

theorem subscriberPlatform_linked : subscriberPlatform.Linked where
  users user huser := by
    rw [List.mem_singleton.mp huser]
    decide
  members m hm := by cases hm
  registrations r hr := by cases hr
  authors post hpost := by cases hpost

def renewed : Enqueued := .subscriptionRenewed "sub-1" subscriberId "Gold" 100 "SAR"

def renewalFailed : Enqueued := .subscriptionPaymentFailed "sub-1" subscriberId "Gold"

theorem renewed_addresses (id : String) :
    renewed.Addresses id subscriberId .inApp subscriberPlatform where
  ids x hx := by
    rw [List.mem_singleton.mp hx]
    decide
  told := List.mem_singleton_self _
  user := by decide
  allowed h hh := by
    cases hh
    rfl
  fresh r hr := by cases hr

theorem renewalFailed_addresses (id : String) :
    renewalFailed.Addresses id subscriberId .inApp subscriberPlatform where
  ids x hx := by
    rw [List.mem_singleton.mp hx]
    decide
  told := List.mem_singleton_self _
  user := by decide
  allowed h hh := by
    cases hh
    rfl
  fresh r hr := by cases hr

theorem distinct_renewal_notices : ∃ s', Handlings
      [(renewed.record "evt-1" 0, true), (renewalFailed.record "evt-2" 0, true)]
      subscriberPlatform s' ∧
    notificationsOf subscriberId .inApp s' = 2 := by
  obtain ⟨s', hs'⟩ := Handlings.exists_handlings
    [(renewed.record "evt-1" 0, true), (renewalFailed.record "evt-2" 0, true)] subscriberPlatform
  have htwo := (events_as_notifications subscriberPlatform_linked (renewed_addresses "evt-1")
    (renewalFailed_addresses "evt-2")).1 _ _ hs' ?_ ⟨0, by simp⟩ ⟨0, by simp⟩
  · refine ⟨s', hs', htwo.mpr ?_⟩
    intro hsame
    obtain ⟨h, hh, hh', _⟩ := hsame
    rw [show handledEvent (renewed.record "evt-1" 0).eventType = some .subscriptionRenewed from rfl]
      at hh
    cases hh
    cases hh'
  · intro x hx
    simp only [List.mem_cons, List.not_mem_nil, or_false] at hx
    rcases hx with rfl | rfl
    · exact .inl ⟨0, rfl⟩
    · exact .inr ⟨0, rfl⟩

/-- Two renewals of one subscription leave one notification. -/
theorem renewals_share_a_notification : ∃ s', Handlings
      [(renewed.record "evt-1" 0, true), (renewed.record "evt-2" 0, true)] subscriberPlatform s' ∧
    renewed.Addresses "evt-1" subscriberId .inApp subscriberPlatform ∧
    renewed.Addresses "evt-2" subscriberId .inApp subscriberPlatform ∧
    subscriberPlatform.Linked ∧ notificationsOf subscriberId .inApp s' = 1 := by
  obtain ⟨s', hs'⟩ := Handlings.exists_handlings
    [(renewed.record "evt-1" 0, true), (renewed.record "evt-2" 0, true)] subscriberPlatform
  refine ⟨s', hs', renewed_addresses _, renewed_addresses _, subscriberPlatform_linked, ?_⟩
  have hcount := notificationsOf_handlings subscriberPlatform_linked (renewed_addresses "evt-1")
    (renewed_addresses "evt-2") hs' ?_ ⟨0, by simp⟩ ⟨0, by simp⟩
  · rw [hcount, if_pos ⟨.subscriptionRenewed, rfl, rfl, rfl⟩]
    rfl
  · intro x hx
    simp only [List.mem_cons, List.not_mem_nil, or_false] at hx
    rcases hx with rfl | rfl
    · exact .inl ⟨0, rfl⟩
    · exact .inr ⟨0, rfl⟩

end Subscriber

end Innovents.Notifications
