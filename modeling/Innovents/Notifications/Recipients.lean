import Innovents.Notifications.CalmHandlers

namespace Innovents.Notifications

open Innovents.Lib Innovents.Payments HandledEvent NotificationOrchestratorService
  NotificationFanoutService

theorem key_toList (n : Notice) (userId : String) : (n.key userId).toList =
    n.scope.toList ++ ':' :: ((n.parts userId).1.toList ++ ':' :: (n.parts userId).2.toList) := by
  simp [Notice.key]
  rfl

theorem key_ne_empty (n : Notice) (userId : String) : n.key userId ≠ "" := by
  intro h
  have hlist := key_toList n userId
  rw [h] at hlist
  simp at hlist

namespace OutboxProcessor

variable {event : RawOutboxRecord} {s s' : Platform} {r : Except String Unit} {us : List String}

def addressed (recipient : JsValue) : Except String (List String) :=
  if recipient.truthy then
    match recipient.asStr? with
    | some userId => .ok [userId]
    | none => .error "Invalid value provided"
  else .ok []

/-- The author of the post, if somebody else replied. -/
def replyRecipients (event : RawOutboxRecord) (s : Platform) : Except String (List String) :=
  let postId := field event "postId" .undefined
  let replierId := (event.payload.or (.obj [])).get "authorId"
  if postId.truthy then
    match findPost postId s with
    | .ok (some post) => if replierId.isStr post.authorId then .ok [] else addressed (.str post.authorId)
    | .ok none => .ok []
    | .error e => .error e
  else .ok []

def meetupRecipients (event : RawOutboxRecord) (s : Platform) : Except String (List String) :=
  let communityId := field event "communityId" .undefined
  let creatorId := (event.payload.or (.obj [])).get "createdById"
  if communityId.truthy then findMembers communityId creatorId s else .ok []

/-- The users that the handler of an event tells, as the tables stand. -/
def recipients (event : RawOutboxRecord) (s : Platform) : Except String (List String) :=
  match handledEvent event.eventType with
  | none => .ok []
  | some .communityPostReplyCreated => replyRecipients event s
  | some .communityMeetupCreated => meetupRecipients event s
  | some .eventCancelled => .ok (findRegistered event.aggregateId s)
  | some .organizerInvitationCreated => .ok []
  | some h => addressed (h.addressee event)

/-- What a user is told about an event. -/
def eventPostings (event : RawOutboxRecord) (userId : String) : List Posting :=
  match handledEvent event.eventType with
  | none => []
  | some h => postings (h.notificationFor event userId)

theorem channelKey_notificationFor (h : HandledEvent) (userId : String) (c : NotificationChannel) :
    channelKey (h.notificationFor event userId) c =
      some s!"{(h.notice event).key userId}:{channelText c}" := by
  have hne := key_ne_empty (h.notice event) userId
  simp [channelKey, HandledEvent.notificationFor, given, Option.filter, hne]

theorem channelKey_isSome (h : HandledEvent) (userId : String) (c : NotificationChannel) :
    (channelKey (h.notificationFor event userId) c).isSome = true := by
  rw [channelKey_notificationFor]
  rfl

theorem notifyOne_calm {h : HandledEvent} {recipient : JsValue}
    (hr : (notifyOne event h recipient).Ran Calm s r s') (hus : addressed recipient = .ok us) :
    r = .ok () ∧ Posted (us.flatMap fun u ↦ postings (h.notificationFor event u)) s s' := by
  unfold addressed at hus
  unfold notifyOne at hr
  split_ifs at hus hr
  · cases hs : recipient.asStr? with
    | none =>
      rw [hs] at hus
      cases hus
    | some userId =>
      rw [hs] at hus hr
      cases hus
      simp only [Call.bind_eq, Call.ran_bind] at hr
      rcases hr with ⟨x, hx, _⟩ | ⟨created, s₁, ho, hr⟩
      · obtain ⟨⟨_, hx⟩, _⟩ := orchestrate_calm (channelKey_isSome h userId) hx
        cases hx
      obtain ⟨_, hposted⟩ := orchestrate_calm (channelKey_isSome h userId) ho
      rw [Call.pure_eq, Call.ran_returned] at hr
      obtain ⟨rfl, rfl⟩ := hr
      exact ⟨rfl, by simpa using hposted⟩
  · rw [Call.pure_eq, Call.ran_returned] at hr
    obtain ⟨rfl, rfl⟩ := hr
    cases hus
    exact ⟨rfl, .nil (.refl _) rfl⟩

theorem reads_calm {α : Type} {name : String} {f : Platform → Except String α} {q : Except String α}
    (h : (reads name f).Ran Calm s q s') : q = f s ∧ s' = s := by
  obtain ⟨env, henv, rfl, rfl⟩ := Call.ran_ask.mp h
  exact ⟨by simp [henv.1], rfl⟩

theorem handleReply_calm (hr : (handleReply event).Ran Calm s r s')
    (hus : replyRecipients event s = .ok us) : r = .ok () ∧ Posted (us.flatMap fun u ↦
      postings (communityPostReplyCreated.notificationFor event u)) s s' := by
  unfold replyRecipients at hus
  unfold handleReply at hr
  dsimp only at hus hr
  split_ifs at hus hr
  · simp only [Call.bind_eq, Call.ran_bind] at hr
    rcases hr with ⟨x, hx, _⟩ | ⟨post, s₁, hp, hr⟩
    · obtain ⟨hx, _⟩ := reads_calm hx
      rw [← hx] at hus
      cases hus
    obtain ⟨hp, rfl⟩ := reads_calm hp
    rw [← hp] at hus
    cases post with
    | none =>
      rw [Call.pure_eq, Call.ran_returned] at hr
      obtain ⟨rfl, rfl⟩ := hr
      cases hus
      exact ⟨rfl, .nil (.refl _) rfl⟩
    | some post =>
      dsimp only at hr hus
      split_ifs at hr hus
      · rw [Call.pure_eq, Call.ran_returned] at hr
        obtain ⟨rfl, rfl⟩ := hr
        cases hus
        exact ⟨rfl, .nil (.refl _) rfl⟩
      · exact notifyOne_calm hr hus
  · rw [Call.pure_eq, Call.ran_returned] at hr
    obtain ⟨rfl, rfl⟩ := hr
    cases hus
    exact ⟨rfl, .nil (.refl _) rfl⟩

/-- A fan-out to the users that a query has found. -/
theorem fanout_calm {h : HandledEvent} {name : String} {f : Platform → Except String (List String)}
    (hr : ((reads name f) >>= fun userIds ↦ fanoutToUsers (h.notificationFor event) userIds >>=
      fun _ ↦ pure ()).Ran Calm s r s') (hus : f s = .ok us) :
    r = .ok () ∧ Posted (us.flatMap fun u ↦ postings (h.notificationFor event u)) s s' := by
  simp only [Call.bind_eq, Call.ran_bind] at hr
  rcases hr with ⟨x, hx, _⟩ | ⟨userIds, s₁, hu, hr⟩
  · obtain ⟨hx, _⟩ := reads_calm hx
    rw [hus] at hx
    cases hx
  obtain ⟨hu, rfl⟩ := reads_calm hu
  rw [hus, Except.ok.injEq] at hu
  subst hu
  rcases hr with ⟨x, hx, _⟩ | ⟨count, s₂, hf, hr⟩
  · obtain ⟨⟨_, hx⟩, _⟩ := fanoutToUsers_calm (channelKey_isSome h) hx
    cases hx
  obtain ⟨_, hposted⟩ := fanoutToUsers_calm (channelKey_isSome h) hf
  rw [Call.pure_eq, Call.ran_returned] at hr
  obtain ⟨rfl, rfl⟩ := hr
  exact ⟨rfl, hposted⟩

theorem handleMeetup_calm (hr : (handleMeetup event).Ran Calm s r s')
    (hus : meetupRecipients event s = .ok us) : r = .ok () ∧ Posted (us.flatMap fun u ↦
      postings (communityMeetupCreated.notificationFor event u)) s s' := by
  unfold meetupRecipients at hus
  unfold handleMeetup at hr
  dsimp only at hus hr
  split_ifs at hus hr
  · exact fanout_calm hr hus
  · rw [Call.pure_eq, Call.ran_returned] at hr
    obtain ⟨rfl, rfl⟩ := hr
    cases hus
    exact ⟨rfl, .nil (.refl _) rfl⟩

theorem handleInvitation_calm (hr : (handleInvitation event).Ran Calm s r s') :
    r = .ok () ∧ Posted [] s s' := by
  have htells := onlyTells_ran (onlyTells_handleInvitation event) hr
  unfold handleInvitation at hr
  dsimp only at hr
  split_ifs at hr
  · obtain ⟨hok, hsame, _⟩ := addJob_calm hr
    exact ⟨hok, .nil htells (by rw [hsame])⟩
  · rw [Call.pure_eq, Call.ran_returned] at hr
    obtain ⟨rfl, rfl⟩ := hr
    exact ⟨rfl, .nil (.refl _) rfl⟩

/-- A handler that meets no failure succeeds and tells each recipient on every channel. -/
theorem handleEvent_calm (hr : (handleEvent event).Ran Calm s r s')
    (hus : recipients event s = .ok us) :
    r = .ok () ∧ Posted (us.flatMap (eventPostings event)) s s' := by
  unfold recipients at hus
  unfold handleEvent at hr
  unfold eventPostings
  split at hr
  · rename_i hh
    simp only [hh] at hus ⊢
    rw [Call.pure_eq, Call.ran_returned] at hr
    obtain ⟨rfl, rfl⟩ := hr
    cases hus
    exact ⟨rfl, .nil (.refl _) rfl⟩
  · rename_i hh
    simp only [hh] at hus ⊢
    exact handleReply_calm hr hus
  · rename_i hh
    simp only [hh] at hus ⊢
    exact handleMeetup_calm hr hus
  · rename_i hh
    simp only [hh] at hus ⊢
    have hquery : (fun s : Platform ↦ (Except.ok (findRegistered event.aggregateId s) :
        Except String (List String))) s = .ok us := hus
    exact fanout_calm (h := .eventCancelled) hr hquery
  · rename_i hh
    simp only [hh] at hus ⊢
    cases hus
    exact handleInvitation_calm hr
  · rename_i h hreply hmeetup hcancelled hinvitation hh
    rw [hh] at hus ⊢
    have hone : addressed (h.addressee event) = .ok us := by
      revert hus
      cases h <;> first | exact id | contradiction
    exact notifyOne_calm hr hone

end OutboxProcessor

end Innovents.Notifications
