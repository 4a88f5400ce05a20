import Innovents.Lib.Requests
import Innovents.Notifications.CalmHandlers

namespace Innovents.Notifications

open Innovents.Lib Innovents.Payments

structure PreferenceItemDto where
  type : NotificationType
  channel : NotificationChannel
  isEnabled : Bool

structure PreferenceResponseItemDto where
  type : NotificationType
  channel : NotificationChannel
  isEnabled : Bool
  isConfigurable : Bool
  deriving DecidableEq

/-- The preference of the user about the type on the channel. -/
def NotificationPreference.isAbout (userId : String) (type : NotificationType)
    (channel : NotificationChannel) (p : NotificationPreference) : Bool :=
  p.userId == userId && p.type == type && p.channel == channel

def NotificationPreference.switched (isEnabled : Bool) (p : NotificationPreference) :
    NotificationPreference := { p with isEnabled }

namespace NotificationPreferenceService

/-- `Object.values(NotificationType)` -/
def notificationTypes : List NotificationType :=
  [.eventPublished, .eventCancelled, .sessionReminder, .communityPostMention, .communityPostReply,
    .communityMeetupCreated, .communityMeetupReminder, .communityMemberAction,
    .communityModerationAction, .chatMessage, .securityEmailVerification, .securityPasswordReset,
    .accountApproved, .accountRejected, .accountSuspended, .organizerInvitationCreated,
    .organizerInvitationAccepted, .rfqSent, .rfqViewed, .rfqClarificationRequested, .rfqQuoted,
    .rfqAccepted, .rfqRejected, .rfqCancelled, .rfqExpired, .c2bBookingRequested,
    .c2bBookingStatusChanged, .sponsorAdSubmitted, .sponsorAdApproved, .sponsorAdRejected,
    .couponRedeemed, .communitySponsorshipPaid, .communitySponsorshipActivated,
    .communitySponsorshipExpired, .subscriptionActivated, .subscriptionRenewed,
    .subscriptionPaymentFailed, .subscriptionCancelled, .paymentRefunded]

def channels : List NotificationChannel := [.inApp, .push, .email]

def preferenceKey (type : NotificationType) (channel : NotificationChannel) : String :=
  typeText type ++ "_" ++ channelText channel

/-- The `Map` of the preferences, in which a later entry replaces an earlier one. -/
def prefMap (userPrefs : List NotificationPreference) (key : String) : Option Bool :=
  (userPrefs.reverse.find? fun pref ↦ preferenceKey pref.type pref.channel == key).map (·.isEnabled)

def effectivePreference (userPrefs : List NotificationPreference) (type : NotificationType)
    (channel : NotificationChannel) : PreferenceResponseItemDto where
  type
  channel
  isEnabled := if type ∈ NOTIFICATION_SECURITY_TYPES then true
    else (prefMap userPrefs (preferenceKey type channel)).getD
      ((DEFAULT_NOTIFICATION_PREFERENCES type).on channel)
  isConfigurable := decide (type ∉ NOTIFICATION_SECURITY_TYPES)

/-- The rows of `findMany({ where: { userId } })`. -/
def preferencesOf (userId : String) (s : Platform) : List NotificationPreference :=
  s.notificationPreferences.rows.filter (·.userId == userId)

def getUserPreferences (userId : String) : Handler (List PreferenceResponseItemDto) := do
  let userPrefs ← reads "notificationPreference.findMany" fun s ↦ .ok (preferencesOf userId s)
  return notificationTypes.flatMap fun type ↦ channels.map (effectivePreference userPrefs type)

/-- A statement on the preferences fails where their constraints do not allow it. -/
def storing (s : Platform) :
    Except Refusal (Table NotificationPreference) → Except String (Platform × Unit)
  | .ok notificationPreferences => .ok ({ s with notificationPreferences }, ())
  | .error _ => .error "Unique constraint failed"

/-- A preference that is there is switched; a new one needs its user. -/
def upserted (userId : String) (item : PreferenceItemDto) (env : HandlerEnv) (s : Platform) :
    Except String (Platform × Unit) :=
  match s.notificationPreferences.find? (·.isAbout userId item.type item.channel) with
  | some pref => storing s (s.notificationPreferences.update pref.id (·.switched item.isEnabled))
  | none =>
    if s.users.has userId then
      storing s (s.notificationPreferences.create
        { id := env.newId s.notifications
          userId
          type := item.type
          channel := item.channel
          isEnabled := item.isEnabled })
    else .error "Foreign key constraint violated"

/-- The loop over the updates, which passes over those of security types. -/
def applyUpdates (userId : String) : List PreferenceItemDto → Handler Unit
  | [] => return
  | item :: rest => do
    if item.type ∈ NOTIFICATION_SECURITY_TYPES then applyUpdates userId rest
    else do
      writes "notificationPreference.upsert" (upserted userId item)
      applyUpdates userId rest

def updatePreferences (userId : String) (preferences : List PreferenceItemDto) :
    Handler (List PreferenceResponseItemDto) := do
  applyUpdates userId preferences
  getUserPreferences userId

end NotificationPreferenceService

section Keys

open NotificationPreferenceService

theorem mem_notificationTypes (type : NotificationType) : type ∈ notificationTypes := by
  cases type <;> decide

theorem mem_channels (channel : NotificationChannel) : channel ∈ channels := by
  cases channel <;> decide

theorem typeText_injective : Function.Injective typeText := by
  have hnodup : (notificationTypes.map typeText).Nodup := by decide +kernel
  exact fun t t' h ↦ List.inj_on_of_nodup_map hnodup (mem_notificationTypes t)
    (mem_notificationTypes t') h

theorem key_last (t : NotificationType) (c : NotificationChannel) :
    (preferenceKey t c).toList.getLast? = (channelText c).toList.getLast? := by
  rw [preferenceKey, String.toList_append, List.getLast?_append]
  cases c <;> rfl

/-- The key of a preference tells the channel by its last letter, and then the type. -/
theorem preferenceKey_inj {t t' : NotificationType} {c c' : NotificationChannel}
    (h : preferenceKey t c = preferenceKey t' c') : t = t' ∧ c = c' := by
  have hlast : (channelText c).toList.getLast? = (channelText c').toList.getLast? := by
    rw [← key_last t c, ← key_last t' c', h]
  have hchannel : c = c' := by
    revert hlast
    cases c <;> cases c' <;> decide
  subst hchannel
  refine ⟨typeText_injective ?_, rfl⟩
  rw [preferenceKey, preferenceKey, String.append_assoc, String.append_assoc] at h
  exact (String.append_left_inj _).mp h

end Keys

section Stored

open NotificationPreferenceService

variable {userId : String} {type type' : NotificationType} {channel channel' : NotificationChannel}
  {item : PreferenceItemDto} {env : HandlerEnv} {s s' : Platform}

theorem find?_eq_some_of_unique {α : Type} {xs : List α} {p : α → Bool} {x : α}
    (h : ∀ a ∈ xs, ∀ b ∈ xs, p a = true → p b = true → a = b) :
    xs.find? p = some x ↔ x ∈ xs ∧ p x = true := by
  constructor
  · exact fun hx ↦ ⟨List.mem_of_find?_eq_some hx, List.find?_some hx⟩
  · rintro ⟨hx, hpx⟩
    obtain ⟨y, hy⟩ := Option.isSome_iff_exists.mp (List.find?_isSome.mpr ⟨x, hx, hpx⟩)
    rw [hy, h x hx y (List.mem_of_find?_eq_some hy) hpx (List.find?_some hy)]

theorem isAbout_iff {p : NotificationPreference} : p.isAbout userId type channel = true ↔
    p.userId = userId ∧ p.type = type ∧ p.channel = channel := by
  simp only [NotificationPreference.isAbout, Bool.and_eq_true, beq_iff_eq, and_assoc]

/-- A user has one preference about a type on a channel. -/
theorem isAbout_unique (t : Table NotificationPreference) : ∀ p ∈ t.rows, ∀ q ∈ t.rows,
    p.isAbout userId type channel = true → q.isAbout userId type channel = true → p = q := by
  intro p hp q hq hpa hqa
  obtain ⟨rfl, rfl, rfl⟩ := isAbout_iff.mp hpa
  obtain ⟨huser, htype, hchannel⟩ := isAbout_iff.mp hqa
  refine t.eq_of_unique (List.mem_singleton_self _) hp hq rfl ?_
  rw [huser, htype, hchannel]

/-- What the table holds about the type on the channel. -/
def storedAbout (t : Table NotificationPreference) (userId : String) (type : NotificationType)
    (channel : NotificationChannel) : Option Bool :=
  (t.find? (·.isAbout userId type channel)).map (·.isEnabled)

theorem preferred_eq : preferred userId type channel s =
    (storedAbout s.notificationPreferences userId type channel).getD
      ((DEFAULT_NOTIFICATION_PREFERENCES type).on channel) := by
  rw [storedAbout, preferred]
  unfold NotificationPreference.isAbout
  split
  · next h => rw [h]; rfl
  · next h => rw [h]; rfl

/-- The lookup through the keys finds what the table holds. -/
theorem prefMap_eq : prefMap (preferencesOf userId s) (preferenceKey type channel) =
    storedAbout s.notificationPreferences userId type channel := by
  have hmem : ∀ p, p ∈ (preferencesOf userId s).reverse ∧
      (preferenceKey p.type p.channel == preferenceKey type channel) = true ↔
        p ∈ s.notificationPreferences.rows ∧ p.isAbout userId type channel = true := by
    intro p
    rw [List.mem_reverse, preferencesOf, List.mem_filter, beq_iff_eq, beq_iff_eq, isAbout_iff,
      and_assoc]
    refine and_congr_right fun _ ↦ and_congr_right fun _ ↦ ⟨preferenceKey_inj, ?_⟩
    rintro ⟨rfl, rfl⟩
    rfl
  have hunique := @isAbout_unique userId type channel s.notificationPreferences
  rw [prefMap, storedAbout]
  congr 1
  refine Option.ext fun p ↦ ?_
  rw [find?_eq_some_of_unique fun a ha b hb hpa hpb ↦ ?_, Table.find?,
    find?_eq_some_of_unique hunique]
  · exact hmem p
  · obtain ⟨ha, hpa⟩ := (hmem a).mp ⟨ha, hpa⟩
    obtain ⟨hb, hpb⟩ := (hmem b).mp ⟨hb, hpb⟩
    exact hunique a ha b hb hpa hpb

theorem isEnabled_effective {channel : NotificationChannel} :
    (effectivePreference (preferencesOf userId s) type channel).isEnabled =
      allows userId type channel s := by
  rw [effectivePreference, allows, preferred_eq, prefMap_eq]
  split_ifs with hsecurity
  · rw [decide_eq_true hsecurity, Bool.true_or]
  · rw [decide_eq_false hsecurity, Bool.false_or]

theorem storing_eq_ok {x : Except Refusal (Table NotificationPreference)} {u : Unit} :
    storing s x = .ok (s', u) ↔ ∃ t, x = .ok t ∧ s' = { s with notificationPreferences := t } := by
  cases x with
  | ok t =>
    constructor
    · intro h
      cases h
      exact ⟨t, rfl, rfl⟩
    · rintro ⟨_, ht, rfl⟩
      cases ht
      rfl
  | error x => exact ⟨nofun, fun ⟨_, h, _⟩ ↦ nomatch h⟩

/-- What an upsert does: a row is updated or created. -/
theorem upserted_eq {u : Unit} (h : upserted userId item env s = .ok (s', u)) :
    (∃ pref, s.notificationPreferences.find? (·.isAbout userId item.type item.channel) = some pref ∧
      s.notificationPreferences.update pref.id (·.switched item.isEnabled) =
        .ok s'.notificationPreferences) ∨
    (s.notificationPreferences.find? (·.isAbout userId item.type item.channel) = none ∧
      ∃ pref, pref.isAbout userId item.type item.channel = true ∧ pref.isEnabled = item.isEnabled ∧
        s.notificationPreferences.create pref = .ok s'.notificationPreferences) := by
  unfold upserted at h
  split at h
  · next pref hfind =>
    obtain ⟨t, ht, rfl⟩ := storing_eq_ok.mp h
    exact .inl ⟨pref, hfind, ht⟩
  · next hfind =>
    split_ifs at h with huser
    obtain ⟨t, ht, rfl⟩ := storing_eq_ok.mp h
    exact .inr ⟨hfind, _, isAbout_iff.mpr ⟨rfl, rfl, rfl⟩, rfl, ht⟩

theorem isAbout_other {p : NotificationPreference} (h : p.isAbout userId item.type item.channel = true)
    (hother : ¬ (item.type = type ∧ item.channel = channel)) :
    p.isAbout userId type channel = false := by
  rw [Bool.eq_false_iff]
  intro h'
  obtain ⟨-, htype, hchannel⟩ := isAbout_iff.mp h
  obtain ⟨-, htype', hchannel'⟩ := isAbout_iff.mp h'
  exact hother ⟨htype.symm.trans htype', hchannel.symm.trans hchannel'⟩

/-- An upsert sets what it is about, and leaves everything else of the user as it is. -/
theorem storedAbout_upserted {u : Unit} (h : upserted userId item env s = .ok (s', u)) :
    storedAbout s'.notificationPreferences userId type channel =
      if item.type = type ∧ item.channel = channel then some item.isEnabled
      else storedAbout s.notificationPreferences userId type channel := by
  rcases upserted_eq h with ⟨pref, hfind, hupdate⟩ | ⟨hfind, pref, habout, hon, hcreate⟩
  · obtain ⟨hpref, habout⟩ := Table.find?_mem hfind
    rw [storedAbout, Table.find?, (Table.update_eq_ok.mp hupdate).2,
      Table.find?_updateRows (NotificationPreference.switched item.isEnabled) fun r ↦ rfl]
    split_ifs with hsame
    · obtain ⟨rfl, rfl⟩ := hsame
      rw [show s.notificationPreferences.rows.find? _ = some pref from hfind, Option.map_some,
        if_pos (show Row.id pref = pref.id from rfl), Option.map_some]
      rfl
    · rw [storedAbout, Table.find?, Option.map_map]
      refine Option.map_congr fun r hr ↦ ?_
      have hne : Row.id r ≠ pref.id := by
        intro hid
        cases s.notificationPreferences.eq_of_id (List.mem_of_find?_eq_some hr) hpref hid
        have hfound := List.find?_some hr
        rw [isAbout_other habout hsame] at hfound
        cases hfound
      rw [Function.comp_apply, if_neg hne]
  · rw [storedAbout, Table.find?, Table.create_eq_ok.mp hcreate, List.find?_append]
    split_ifs with hsame
    · obtain ⟨rfl, rfl⟩ := hsame
      rw [show s.notificationPreferences.rows.find? _ = none from hfind, Option.none_or,
        List.find?_singleton, if_pos habout, Option.map_some, hon]
    · rw [List.find?_singleton, if_neg (by simp [isAbout_other habout hsame]), Option.or_none]
      rfl

end Stored

section Updates

open NotificationPreferenceService

variable {userId : String} {type : NotificationType} {channel : NotificationChannel}
  {updates : List PreferenceItemDto} {items : List PreferenceResponseItemDto} {s s' : Platform}

/-- What the updates make of a preference: the last one about it decides, and none about a security
type. -/
def afterUpdates (updates : List PreferenceItemDto) (type : NotificationType)
    (channel : NotificationChannel) (before : Bool) : Bool :=
  if type ∈ NOTIFICATION_SECURITY_TYPES then true
  else ((updates.reverse.find? fun u ↦ u.type == type && u.channel == channel).map
    (·.isEnabled)).getD before

/-- Nothing fails. -/
def Unfailing (env : HandlerEnv) : Prop := env.fault = none

theorem writes_ran {α : Type} {ok : HandlerEnv → Prop} {name : String}
    {f : HandlerEnv → Platform → Except String (Platform × α)} {a : α}
    (h : (writes name f).Ran ok s (.ok a) s') : ∃ env, f env s = .ok (s', a) := by
  obtain ⟨env, -, ha, rfl⟩ := Call.ran_perform.mp h
  cases hf : env.fault.elim (f env s) .error with
  | error x =>
    rw [hf] at ha
    cases ha
  | ok q =>
    rw [hf] at ha
    cases ha
    exact ⟨env, (Call.elim_fault hf).2⟩

/-- The last update about a preference decides what the table holds. -/
theorem storedAbout_updates {ok : HandlerEnv → Prop} {u : Unit}
    (hsecurity : type ∉ NOTIFICATION_SECURITY_TYPES)
    (h : (applyUpdates userId updates).Ran ok s (.ok u) s') :
    storedAbout s'.notificationPreferences userId type channel =
      ((updates.reverse.find? fun u ↦ u.type == type && u.channel == channel).map (·.isEnabled)).or
        (storedAbout s.notificationPreferences userId type channel) := by
  induction updates generalizing s with
  | nil =>
    obtain ⟨-, rfl⟩ := Call.ran_returned.mp h
    rfl
  | cons item rest ih =>
    rw [applyUpdates] at h
    have hlast : (item :: rest).reverse.find? (fun u ↦ u.type == type && u.channel == channel) =
        (rest.reverse.find? fun u ↦ u.type == type && u.channel == channel).or
          (if item.type = type ∧ item.channel = channel then some item else none) := by
      rw [List.reverse_cons, List.find?_append, List.find?_singleton]
      simp only [Bool.and_eq_true, beq_iff_eq]
    rw [hlast, Option.map_or, Option.or_assoc]
    split_ifs at h with hitem
    · have hother : ¬ (item.type = type ∧ item.channel = channel) := by
        rintro ⟨rfl, -⟩
        exact hsecurity hitem
      rw [ih h, if_neg hother]
      rfl
    · obtain ⟨_, s₁, hupsert, hrest⟩ := Call.ran_bind_ok.mp h
      obtain ⟨env, hupsert⟩ := writes_ran hupsert
      rw [ih hrest, storedAbout_upserted hupsert]
      congr 1
      split_ifs <;> rfl

/-- What is delivered after the updates. -/
theorem allows_updates {ok : HandlerEnv → Prop} {u : Unit}
    (h : (applyUpdates userId updates).Ran ok s (.ok u) s') :
    allows userId type channel s' = afterUpdates updates type channel (allows userId type channel s) := by
  rw [afterUpdates]
  split_ifs with hsecurity
  · rw [allows, decide_eq_true hsecurity, Bool.true_or]
  · rw [allows, allows, decide_eq_false hsecurity, Bool.false_or, Bool.false_or, preferred_eq,
      preferred_eq, storedAbout_updates hsecurity h, Option.getD_or]

theorem shouldDeliver_ran {r : Except String Bool}
    (h : (shouldDeliver userId type channel).Ran Unfailing s r s') :
    r = .ok (allows userId type channel s) := by
  unfold shouldDeliver at h
  split_ifs at h with hsecurity
  · rw [allows, decide_eq_true hsecurity, Bool.true_or]
    exact (Call.ran_returned.mp h).1
  · obtain ⟨env, henv, rfl, -⟩ := Call.ran_ask.mp h
    rw [show env.fault = none from henv, allows, decide_eq_false hsecurity, Bool.false_or]
    rfl

/-- The list of all types and channels. -/
def effectivePreferences (userId : String) (s : Platform) : List PreferenceResponseItemDto :=
  notificationTypes.flatMap fun type ↦
    channels.map (effectivePreference (preferencesOf userId s) type)

theorem getUserPreferences_ran {ok : HandlerEnv → Prop}
    (h : (getUserPreferences userId).Ran ok s (.ok items) s') :
    items = effectivePreferences userId s ∧ s' = s := by
  obtain ⟨prefs, s₁, hread, hreturn⟩ := Call.ran_bind_ok.mp h
  obtain ⟨env, -, hprefs, rfl⟩ := Call.ran_ask.mp hread
  obtain ⟨-, hprefs⟩ := Call.elim_fault hprefs.symm
  cases hprefs
  obtain ⟨hitems, rfl⟩ := Call.ran_returned.mp hreturn
  cases hitems
  exact ⟨rfl, rfl⟩

/-- After the updates, what is shown for a type and a channel is what is delivered: everything of a
security type, else what the last update of it says, else what was delivered before. -/
theorem preferences_agree {ok : HandlerEnv → Prop}
    (h : (updatePreferences userId updates).Ran ok s (.ok items) s') (type : NotificationType)
    (channel : NotificationChannel) :
    ∃ before after : Bool,
      (∀ r t, (shouldDeliver userId type channel).Ran Unfailing s r t → r = .ok before) ∧
      (∀ r t, (shouldDeliver userId type channel).Ran Unfailing s' r t → r = .ok after) ∧
      after = afterUpdates updates type channel before ∧
      (∀ shown t, (getUserPreferences userId).Ran (fun _ ↦ True) s' (.ok shown) t → shown = items) ∧
      (∃ item ∈ items, item.type = type ∧ item.channel = channel) ∧
      ∀ item ∈ items, item.type = type → item.channel = channel → item.isEnabled = after := by
  obtain ⟨_, s₁, hupdates, hget⟩ := Call.ran_bind_ok.mp h
  obtain ⟨rfl, rfl⟩ := getUserPreferences_ran hget
  refine ⟨allows userId type channel s, allows userId type channel s', fun r t ↦ shouldDeliver_ran,
    fun r t ↦ shouldDeliver_ran, allows_updates hupdates, fun shown t hshown ↦
      (getUserPreferences_ran hshown).1, ?_, ?_⟩
  · exact ⟨_, List.mem_flatMap.mpr ⟨type, mem_notificationTypes type,
      List.mem_map_of_mem (mem_channels channel)⟩, rfl, rfl⟩
  · rintro item hitem rfl rfl
    obtain ⟨type', -, hitem⟩ := List.mem_flatMap.mp hitem
    obtain ⟨channel', -, rfl⟩ := List.mem_map.mp hitem
    exact isEnabled_effective

end Updates

section Sample

open NotificationPreferenceService

/-- A user who has stored no preference. -/
def preferringPlatform : Platform :=
  { Platform.empty with
    users := .singleton ⟨"user-1", "user@example.com", .active, none, ["ATTENDEE"]⟩ }

/-- Pushes are switched off and on again, and the mails of a security type are switched off. -/
def sampleUpdates : List PreferenceItemDto :=
  [⟨.sessionReminder, .push, false⟩, ⟨.accountSuspended, .email, false⟩,
    ⟨.sessionReminder, .push, true⟩]

theorem switched_on_again : ∃ (items : List PreferenceResponseItemDto) (s' : Platform),
    (updatePreferences "user-1" sampleUpdates).Ran (fun _ ↦ True) preferringPlatform (.ok items) s' ∧
      (∀ r t, (shouldDeliver "user-1" .sessionReminder .push).Ran Unfailing s' r t → r = .ok true) ∧
      ∀ r t, (shouldDeliver "user-1" .accountSuspended .email).Ran Unfailing s' r t → r = .ok true := by
  have hrun : (Call.outcome [calmEnv 1, calmEnv 2, calmEnv 3] preferringPlatform
      (updatePreferences "user-1" sampleUpdates)).any (fun q ↦ q.1.toOption.any fun _ ↦ true) = true := by
    decide +kernel
  obtain ⟨items, s', hran, -⟩ := Call.exists_ran_of_outcome hrun
  obtain ⟨before, _, -, hpush, rfl, -⟩ := preferences_agree hran .sessionReminder .push
  obtain ⟨before', _, -, hmail, rfl, -⟩ := preferences_agree hran .accountSuspended .email
  have hon : afterUpdates sampleUpdates .sessionReminder .push before = true := by
    cases before <;> decide
  have hmails : afterUpdates sampleUpdates .accountSuspended .email before' = true := by
    cases before' <;> decide
  exact ⟨items, s', hran, fun r t h ↦ hon ▸ hpush r t h, fun r t h ↦ hmails ▸ hmail r t h⟩

end Sample

end Innovents.Notifications
