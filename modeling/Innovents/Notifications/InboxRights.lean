import Innovents.Lib.Pages
import Innovents.Lib.Placement
import Innovents.Notifications.DeliveryJobs
import Innovents.Notifications.NotificationsService

namespace Innovents.Notifications

open Innovents.Lib Innovents.Payments NotificationsService

inductive InboxOp
  | getUnreadCount (userId : String)
  | markAsRead (userId notificationId : String)
  | markAllAsRead (userId : String)
  | deleteNotification (userId notificationId : String)
  | processJob (notificationId : String) (attemptNumber : Option ℕ)
  | cleanupExpired (retentionDays : ℕ)
  | insertNotification (params : OrchestrateNotificationParams) (channel : NotificationChannel)

inductive InboxAnswer
  | unreadCount (unreadCount : ℕ)
  | notification (notification : NotificationResponseDto)
  | updatedCount (updatedCount : ℕ)
  | cleaned (expiredCleaned oldCleaned : ℕ)
  | done

def InboxOp.runs : InboxOp → InboxCall InboxAnswer
  | getUnreadCount userId => .unreadCount <$> NotificationsService.getUnreadCount userId
  | markAsRead userId notificationId =>
    .notification <$> NotificationsService.markAsRead userId notificationId
  | markAllAsRead userId => .updatedCount <$> NotificationsService.markAllAsRead userId
  | deleteNotification userId notificationId =>
    (fun _ ↦ .done) <$> onDelivery (NotificationsService.deleteNotification userId notificationId)
  | processJob notificationId attemptNumber =>
    (fun _ ↦ .done) <$> onDelivery
      (NotificationDeliveryProcessor.processJob notificationId attemptNumber)
  | cleanupExpired retentionDays =>
    (fun counts ↦ .cleaned counts.1 counts.2) <$>
      NotificationCleanupService.cleanupExpired retentionDays
  | insertNotification params channel =>
    (fun _ ↦ .done) <$> NotificationOrchestratorService.insertNotification params channel

/-- Who makes the call, if it is made for a user. -/
def InboxOp.userId? : InboxOp → Option String
  | getUnreadCount userId | markAsRead userId _ | markAllAsRead userId
  | deleteNotification userId _ => some userId
  | processJob _ _ | cleanupExpired _ | insertNotification _ _ => none

abbrev InboxHistory := History String InboxWorld

abbrev InboxTask := Task InboxOp String DeliveryEnv InboxWorld String InboxAnswer

def inboxCalls : Machine InboxWorld InboxTask DeliveryEnv := tasks InboxOp.runs

section Badges

def Later (a b : Notification) : Prop := b.createdAt ≤ a.createdAt

instance : DecidableRel Later := fun a b ↦ inferInstanceAs (Decidable (b.createdAt ≤ a.createdAt))

instance : Std.Total Later := ⟨fun a b ↦ le_total b.createdAt a.createdAt⟩

instance : IsTrans Notification Later := ⟨fun _ _ _ h h' ↦ le_trans (α := ℤ) h' h⟩

def unreadQuery (page pageSize : ℤ) : NotificationQueryDto where
  page
  pageSize
  type := none
  channel := none
  status := none
  isRead := some false
  createdFrom := none
  createdTo := none

def unreadList (userId : String) (size : ℕ) (w : InboxWorld) (page : ℕ) : NotificationPage :=
  getNotifications userId (unreadQuery page size) w.delivery.platform

def unread (userId : String) (w : InboxWorld) : List Notification :=
  w.notifications.rows.filter (isUnread userId)

/-- The count is that of the user's unread notifications, and of what the pages of the unread list
show together, the latest first. -/
structure Badge (userId : String) (count : ℕ) (w : InboxWorld) : Prop where
  length : (unread userId w).length = count
  total : ∀ size page, (unreadList userId size w page).total = count
  listing : ∀ size, 1 ≤ size → size ≤ 100 →
    Listing (fun n dto ↦ dto = toResponse n) Later size (unread userId w)
      (unreadList userId size w 1).totalPages fun k ↦ (unreadList userId size w (k + 1)).data

variable {userId : String} {w : InboxWorld}

theorem matches_unread {page pageSize : ℤ} :
    matchesQuery userId (unreadQuery page pageSize) = isUnread userId := by
  funext n
  simp only [matchesQuery, unreadQuery, isUnread, Option.all_none, Option.all_some, Bool.and_true]
  cases n.readAt <;> simp

theorem unreadList_data {size : ℕ} (hsize : 1 ≤ size) (hle : size ≤ 100) (k : ℕ) :
    (unreadList userId size w (k + 1)).data =
      (page size ((unread userId w).insertionSort Later) k).map toResponse := by
  have hnumber : (max 1 (orNumber ((k + 1 : ℕ) : ℤ) 1)).toNat - 1 = k := by
    unfold orNumber
    split_ifs <;> omega
  have hbound : (min 100 (max 1 (orNumber (size : ℤ) 20))).toNat = size := by
    unfold orNumber
    split_ifs <;> omega
  rw [unreadList, getNotifications, matches_unread]
  dsimp only [unreadQuery]
  rw [hnumber, hbound]
  rfl

theorem unreadList_pages {size : ℕ} (hsize : 1 ≤ size) (hle : size ≤ 100) (p : ℕ) :
    (unreadList userId size w p).totalPages = max 1 (pageCount (unread userId w).length size) := by
  have hbound : (min 100 (max 1 (orNumber (size : ℤ) 20))).toNat = size := by
    unfold orNumber
    split_ifs <;> omega
  rw [unreadList, getNotifications, matches_unread]
  simp only [unreadQuery, hbound]
  change (if pageCount (unread userId w).length size = 0 then 1
    else pageCount (unread userId w).length size) = _
  split_ifs <;> omega

theorem badge : Badge userId (w.notifications.rows.countP (isUnread userId)) w := by
  have hcount := List.countP_eq_length_filter (p := isUnread userId) (l := w.notifications.rows)
  refine ⟨hcount.symm, fun size p ↦ ?_, fun size hsize hle ↦ ?_⟩
  · rw [hcount, unreadList, getNotifications, matches_unread]
    rfl
  · rw [unreadList_pages hsize hle]
    refine Innovents.Lib.listing hsize fun k ↦ ?_
    rw [unreadList_data hsize hle, List.forall₂_map_right_iff]
    exact List.forall₂_same.mpr fun n _ ↦ rfl

end Badges

section Frames

/-- What stays of a notification: everything but its status, its moments and whether it is read. -/
structure Kept (n n' : Notification) : Prop where
  rest : n' = { n with
    status := n'.status
    readAt := n'.readAt
    deliveredAt := n'.deliveredAt
    failedAt := n'.failedAt }
  read : n.readAt.isSome = true → n'.readAt.isSome = true

/-- Notifications are kept, unless they are purged for good. -/
structure Retains (w w' : InboxWorld) : Prop where
  purged : w.purged ⊆ w'.purged
  kept : ∀ k, ∀ n ∈ w.notifications.get? k,
    k ∈ w'.purged ∨ ∃ n' ∈ w'.notifications.get? k, Kept n n'

def PurgedGone (w : InboxWorld) : Prop := ∀ k ∈ w.purged, w.notifications.get? k = none

/-- How the call may change a notification. -/
def InboxOp.Changes (op : InboxOp) (n n' : Notification) : Prop :=
  match op with
  | markAsRead _ notificationId => n.id = notificationId ∧ n'.readAt.isSome = true ∧
      n' = { n with readAt := n'.readAt }
  | markAllAsRead userId => isUnread userId n = true ∧ n'.readAt.isSome = true ∧
      n' = { n with readAt := n'.readAt }
  | deleteNotification _ notificationId => n.id = notificationId ∧
      n' = { n with status := .cancelled }
  | processJob notificationId _ => n.id = notificationId ∧
      (n' = { n with status := .delivered, deliveredAt := n'.deliveredAt } ∨
        n' = { n with status := .failed, failedAt := n'.failedAt })
  | cleanupExpired _ => n.expiresAt.isSome = true ∧ n' = { n with status := .expired }
  | getUnreadCount _ | insertNotification _ _ => False

/-- What the call may insert. -/
def InboxOp.Inserts (op : InboxOp) (n : Notification) : Prop :=
  match op with
  | insertNotification params channel => n.userId = params.userId ∧ n.channel = channel ∧
      n.readAt = none ∧ n.status = .pending
  | _ => False

/-- Only the cleanup removes notifications, and only those that have come to an end. -/
def InboxOp.Purges (op : InboxOp) (n : Notification) : Prop :=
  match op with
  | cleanupExpired _ => NotificationCleanupService.terminal n.status = true
  | _ => False

/-- What a request of the call tells users: one count, to the caller, that was right in a state
which the call has seen. -/
def InboxOp.Tells (op : InboxOp) (history : InboxHistory) (w w' : InboxWorld) : Prop :=
  w'.unreadCounts = w.unreadCounts ∨ ∃ userId count, op.userId? = some userId ∧
    w'.unreadCounts = w.unreadCounts ++ [(userId, count)] ∧ Saw history (Badge userId count)

/-- What a request does, after the history of its call. The owner of what is changed for a user is
the user now, or was when the call found it. -/
structure Does (op : InboxOp) (history : InboxHistory) (w w' : InboxWorld) : Prop where
  changed : ∀ k n', Changed w.notifications w'.notifications k n' →
    (w.notifications.get? k = none ∧ op.Inserts n') ∨ ∃ n ∈ w.notifications.get? k,
      op.Changes n n' ∧ ∀ userId ∈ op.userId?, n.userId = userId ∨
        Saw history fun w ↦ ∃ n ∈ w.notifications.get? k, n.userId = userId
  gone : ∀ k, ∀ n ∈ w.notifications.get? k, w'.notifications.get? k = none →
    op.Purges n ∧ k ∈ w'.purged
  purged : w.purged ⊆ w'.purged
  fresh : PurgedGone w → PurgedGone w'
  tells : op.Tells history w w'

variable {op : InboxOp} {history : InboxHistory} {w w' w'' : InboxWorld} {n n' n'' : Notification}
  {k : String}

theorem Kept.refl (n : Notification) : Kept n n := ⟨rfl, fun h ↦ h⟩

theorem Kept.trans (h : Kept n n') (h' : Kept n' n'') : Kept n n'' := by
  refine ⟨?_, fun hread ↦ h'.read (h.read hread)⟩
  rw [h'.rest, h.rest]

theorem Retains.refl (w : InboxWorld) : Retains w w :=
  ⟨List.Subset.refl _, fun _ n hn ↦ .inr ⟨n, hn, .refl n⟩⟩

theorem Retains.trans (h : Retains w w') (h' : Retains w' w'') : Retains w w'' := by
  refine ⟨fun k hk ↦ h'.purged (h.purged hk), fun k n hn ↦ ?_⟩
  rcases h.kept k n hn with hpurged | ⟨n', hn', hkept⟩
  · exact .inl (h'.purged hpurged)
  · rcases h'.kept k n' hn' with hpurged | ⟨n'', hn'', hkept'⟩
    · exact .inl hpurged
    · exact .inr ⟨n'', hn'', hkept.trans hkept'⟩

theorem InboxOp.Changes.kept (h : op.Changes n n') : Kept n n' := by
  cases op with
  | getUnreadCount | insertNotification => exact h.elim
  | markAsRead | markAllAsRead =>
    obtain ⟨-, hread, h⟩ := h
    exact ⟨by rw [h], fun _ ↦ hread⟩
  | deleteNotification | cleanupExpired =>
    obtain ⟨-, h⟩ := h
    exact ⟨by rw [h], by rw [h]; exact fun hread ↦ hread⟩
  | processJob =>
    obtain ⟨-, h | h⟩ := h
    · exact ⟨by rw [h], by rw [h]; exact fun hread ↦ hread⟩
    · exact ⟨by rw [h], by rw [h]; exact fun hread ↦ hread⟩

theorem Does.keeps (h : Does op history w w') : Retains w w' := by
  refine ⟨h.purged, fun k n hn ↦ ?_⟩
  cases hget : w'.notifications.get? k with
  | none => exact .inl (h.gone k n hn hget).2
  | some n' =>
    refine .inr ⟨n', rfl, ?_⟩
    by_cases hsame : w.notifications.get? k = some n'
    · cases hn.symm.trans hsame
      exact .refl n
    · rcases h.changed k n' ⟨hget, hsame⟩ with ⟨hnone, -⟩ | ⟨old, hold, hchanges, -⟩
      · cases hn.symm.trans hnone
      · cases hn.symm.trans hold
        exact hchanges.kept

/-- A user's call changes only what is the user's. -/
theorem Does.owned (h : Does op history w w') (hsince : ∀ event ∈ history, Retains event.2.2 w)
    (hfresh : PurgedGone w) (hchanged : Changed w.notifications w'.notifications k n') :
    (w.notifications.get? k = none ∧ op.Inserts n') ∨ ∃ n ∈ w.notifications.get? k,
      op.Changes n n' ∧ ∀ userId ∈ op.userId?, n.userId = userId := by
  refine (h.changed k n' hchanged).imp_right fun ⟨n, hn, hchanges, howner⟩ ↦ ⟨n, hn, hchanges, ?_⟩
  intro userId huser
  rcases howner userId huser with hnow | ⟨event, hevent, found, hfound, hthen⟩
  · exact hnow
  · rcases (hsince event hevent).kept k found hfound with hpurged | ⟨later, hlater, hkept⟩
    · rw [hfresh k hpurged] at hn
      cases hn
    · cases hn.symm.trans hlater
      rw [← hthen, hkept.rest]

theorem does_quiet (h : w'.notifications = w.notifications) (hpurged : w'.purged = w.purged)
    (htells : op.Tells history w w') : Does op history w w' := by
  refine ⟨fun k n' hchanged ↦ ?_, fun k n hn hnone ↦ ?_, ?_, fun hfresh ↦ ?_, htells⟩
  · rw [h] at hchanged
    exact (not_changed hchanged).elim
  · rw [h] at hnone
    cases hn.symm.trans hnone
  · rw [hpurged]
    exact List.Subset.refl _
  · unfold PurgedGone
    rw [h, hpurged]
    exact hfresh

theorem does_read : Does op history w w := does_quiet rfl rfl (.inl rfl)

theorem does_rewritten {J : Notification → Notification → Prop}
    (h : Rewritten J w.notifications w'.notifications)
    (hJ : ∀ k, ∀ n ∈ w.notifications.get? k, ∀ n', J n n' → op.Changes n n' ∧
      ∀ userId ∈ op.userId?, n.userId = userId ∨
        Saw history fun w ↦ ∃ n ∈ w.notifications.get? k, n.userId = userId)
    (hpurged : w'.purged = w.purged) (htells : w'.unreadCounts = w.unreadCounts) :
    Does op history w w' := by
  refine ⟨fun k n' hchanged ↦ ?_, fun k n hn hnone ↦ ?_, ?_, fun hfresh ↦ ?_, .inl htells⟩
  · obtain ⟨n, hn, hrel⟩ := h.changed hchanged
    exact .inr ⟨n, hn, hJ k n hn n' hrel⟩
  · obtain ⟨n', hn', -⟩ := (h k).2 n hn
    cases hn'.symm.trans hnone
  · rw [hpurged]
    exact List.Subset.refl _
  · intro k hk
    rw [hpurged] at hk
    exact (h k).1 (hfresh k hk)

end Frames

section Deliveries

open NotificationDeliveryService NotificationDeliveryProcessor

variable {n : Notification} {attemptNumber : ℕ} {startedAt : Time} {id label : String}
  {w w' : DeliveryWorld}

/-- What a delivery makes of its notification. -/
def Served (id : String) (n n' : Notification) : Prop := n.id = id ∧
  (n' = { n with status := .delivered, deliveredAt := n'.deliveredAt } ∨
    n' = { n with status := .failed, failedAt := n'.failedAt })

def Serves (id : String) (_ : String) (w w' : DeliveryWorld) : Prop :=
  Rewritten (Served id) w.platform.notifications w'.platform.notifications

theorem serves_refl (w : DeliveryWorld) : Serves id label w w := rewritten_refl

theorem serves_platform (h : w'.platform = w.platform) : Serves id label w w' := by
  unfold Serves
  rw [h]
  exact rewritten_refl

theorem handOver_serves {α : Type} {message : Message} {answer : DeliveryEnv → α} :
    (handOver label n message answer).Each (Serves id) := by
  intro env w
  refine ⟨serves_platform rfl, ?_⟩
  cases env.fault <;> trivial

theorem createAttempt_serves {channel : NotificationChannel} {status : DeliveryAttemptStatus}
    {providerMessageId errorCode errorMessage : Option String} :
    (createAttempt n channel attemptNumber startedAt status providerMessageId errorCode
      errorMessage).Each (Serves id) := by
  refine each_stores serves_refl fun env w w' h ↦ ?_
  obtain ⟨t, -, ht⟩ := andThen_eq_ok.mp h
  cases ht
  exact serves_platform rfl

theorem recordFailedAttempt_serves {channel : NotificationChannel}
    {errorCode errorMessage : String} :
    (recordFailedAttempt n channel attemptNumber startedAt errorCode errorMessage).Each
      (Serves id) :=
  Call.each_bind (Call.each_attempt createAttempt_serves) fun _ ↦ trivial

theorem deactivateToken_serves {tokenHash : String} :
    (deactivateToken tokenHash).Each (Serves id) := by
  refine Call.each_bind (Call.each_attempt (each_stores serves_refl fun env w w' h ↦ ?_))
    fun _ ↦ trivial
  obtain ⟨t, -, ht⟩ := andThen_eq_ok.mp h
  cases ht
  exact serves_platform rfl

theorem setDelivered_serves : (setDelivered id).Each (Serves id) := by
  refine each_stores serves_refl fun env w w' h ↦ ?_
  obtain ⟨t, hupdate, ht⟩ := andThen_eq_ok.mp h
  cases ht
  exact rewritten_update hupdate (fun _ ↦ rfl) fun n hn ↦
    ⟨(Table.get?_eq_some.mp hn).2, .inl rfl⟩

theorem setFailed_serves : (setFailed id).Each (Serves id) := by
  refine each_stores serves_refl fun env w w' h ↦ ?_
  obtain ⟨t, hupdate, ht⟩ := andThen_eq_ok.mp h
  cases ht
  exact rewritten_update hupdate (fun _ ↦ rfl) fun n hn ↦
    ⟨(Table.get?_eq_some.mp hn).2, .inr rfl⟩

theorem deliverInApp_serves : (deliverInApp n attemptNumber startedAt).Each (Serves n.id) := by
  refine Call.each_bind (Call.each_attempt (Call.each_bind handOver_serves fun _ ↦ ?_)) fun r ↦ ?_
  · exact Call.each_bind createAttempt_serves fun _ ↦ setDelivered_serves
  · cases r with
    | ok _ => trivial
    | error errMsg => exact Call.each_bind recordFailedAttempt_serves fun _ ↦ trivial

theorem pushToDevices_serves (devices : List (String × String)) (outcome : PushOutcome) :
    (pushToDevices n attemptNumber startedAt devices outcome).Each (Serves n.id) := by
  induction devices generalizing outcome with
  | nil => trivial
  | cons device devices ih =>
    obtain ⟨token, tokenHash⟩ := device
    refine Call.each_bind handOver_serves fun result ↦ ?_
    split_ifs
    · exact Call.each_bind createAttempt_serves fun _ ↦ ih _
    · exact Call.each_bind deactivateToken_serves fun _ ↦
        Call.each_bind createAttempt_serves fun _ ↦ ih _
    · exact Call.each_bind createAttempt_serves fun _ ↦ ih _

theorem deliverPush_serves : (deliverPush n attemptNumber startedAt).Each (Serves n.id) := by
  refine Call.each_bind (Call.each_attempt (Call.each_bind (Call.each_ask serves_refl)
    fun activeDevices ↦ ?_)) fun r ↦ ?_
  · split_ifs
    · exact Call.each_bind createAttempt_serves fun _ ↦
        Call.each_bind setDelivered_serves fun _ ↦ trivial
    · refine Call.each_bind (pushToDevices_serves activeDevices _) fun outcome ↦ ?_
      split_ifs
      · exact Call.each_bind setDelivered_serves fun _ ↦ trivial
      · exact Call.each_bind setFailed_serves fun _ ↦ trivial
  · cases r with
    | ok _ => trivial
    | error errMsg => exact Call.each_bind recordFailedAttempt_serves fun _ ↦ trivial

theorem deliverEmail_serves : (deliverEmail n attemptNumber startedAt).Each (Serves n.id) := by
  refine Call.each_bind (Call.each_attempt (Call.each_bind (Call.each_ask serves_refl)
    fun user ↦ ?_)) fun r ↦ ?_
  · cases user.filter (·.email ≠ "") with
    | none => trivial
    | some user =>
      refine Call.each_bind handOver_serves fun sent ↦ ?_
      split_ifs
      · exact Call.each_bind createAttempt_serves fun _ ↦ setDelivered_serves
      · trivial
  · cases r with
    | ok _ => trivial
    | error errMsg =>
      exact Call.each_bind recordFailedAttempt_serves fun _ ↦
        Call.each_bind setFailed_serves fun _ ↦ trivial

/-- A job writes to no notification but its own. -/
theorem processJob_serves (attemptNumber : Option ℕ) :
    (processJob id attemptNumber).Each (Serves id) := by
  intro env w
  refine ⟨serves_refl w, ?_⟩
  cases hfault : env.fault with
  | some message =>
    simp only [hfault, Option.elim_some]
    trivial
  | none =>
    cases hget : w.platform.notifications.get? id with
    | none =>
      simp only [hfault, Option.elim_none, hget]
      trivial
    | some n =>
      have hn : n.id = id := (Table.get?_eq_some.mp hget).2
      simp only [hfault, Option.elim_none, hget]
      subst hn
      show ((deliver n _ _).bind _).Each _
      refine Call.each_bind ?_ fun result ↦ ?_
      · unfold deliver
        cases n.channel with
        | inApp => exact deliverInApp_serves
        | push => exact deliverPush_serves
        | email => exact deliverEmail_serves
      · split_ifs <;> trivial

end Deliveries

section Calls

variable {op : InboxOp} {history : InboxHistory} {w w' : InboxWorld}
  {userId notificationId : String}

/-- What the answer of a call tells. -/
def InboxOp.Answered (op : InboxOp) (history : InboxHistory) (answer : InboxAnswer) : Prop :=
  match op with
  | getUnreadCount userId => ∃ count, answer = .unreadCount count ∧ Saw history (Badge userId count)
  | markAsRead userId notificationId => ∃ r, answer = .notification r ∧ r.readAt.isSome = true ∧
      (Saw history fun w ↦ ∃ n ∈ w.notifications.get? notificationId, r = toResponse n) ∧
        Saw history fun w ↦ ∃ n ∈ w.notifications.get? notificationId, n.userId = userId
  | markAllAsRead userId => ∃ count, answer = .updatedCount count ∧
      Saw history fun w ↦ Badge userId 0 w
  | _ => True

theorem saw_last {q : InboxWorld → Prop} {label : String} (h : q w') :
    Saw (history ++ [(label, w, w')]) q :=
  ⟨_, List.mem_append_right _ (List.mem_singleton_self _), h⟩

theorem orMessage_eq_ok {α : Type} {x : Except Refusal α} {a : α} :
    orMessage x = .ok a ↔ x = .ok a := by
  cases x with
  | ok b => simp [orMessage]
  | error refusal => cases refusal <;> simp [orMessage]

theorem getUnreadCount_does : (NotificationsService.getUnreadCount userId).Traces
    (fun history _ _ w w' ↦ Does op history w w')
    (fun later count ↦ history <+: later ∧ Saw later (Badge userId count)) history :=
  Call.traces_reads (fun _ _ ↦ does_read) fun _ _ ↦ ⟨List.prefix_append _ _, saw_concat badge⟩

theorem sendToUser_does {count : ℕ} (huser : op.userId? = some userId)
    (hsaw : Saw history (Badge userId count)) :
    (NotificationGateway.sendToUser userId count).Traces
      (fun history _ _ w w' ↦ Does op history w w') (fun later _ ↦ history <+: later) history := by
  refine fun env w ↦ ⟨?_, List.prefix_append _ _⟩
  dsimp only
  split_ifs
  · exact does_quiet rfl rfl (.inr ⟨userId, count, huser, rfl, hsaw⟩)
  · exact does_read

/-- Nothing is unread once everything is marked. -/
theorem badge_marked {t : Table Notification} {now : Time}
    (h : w.notifications.updateMany (isUnread userId)
      (fun n ↦ { n with readAt := some now }) = .ok t) :
    Badge userId 0 (w.withNotifications t) := by
  have hnone : t.rows.countP (isUnread userId) = 0 := by
    rw [Table.store_eq_ok.mp h, List.countP_eq_zero]
    intro n hn
    obtain ⟨old, -, rfl⟩ := List.mem_map.mp hn
    split_ifs with hunread
    · simp [isUnread]
    · exact hunread
  have hbadge : Badge userId _ (w.withNotifications t) := badge
  rwa [show (w.withNotifications t).notifications.rows.countP (isUnread userId) = 0 from hnone]
    at hbadge

theorem markAsRead_does : (NotificationsService.markAsRead userId notificationId).Traces
    (fun history _ _ w w' ↦ Does (.markAsRead userId notificationId) history w w')
    (fun history r ↦ r.readAt.isSome = true ∧
      (Saw history fun w ↦ ∃ n ∈ w.notifications.get? notificationId, r = toResponse n) ∧
        Saw history fun w ↦ ∃ n ∈ w.notifications.get? notificationId, n.userId = userId) [] := by
  refine Call.traces_bind (Call.traces_reads (fun _ _ ↦ does_read) fun env w ↦ ?_)
  refine Call.traces_bind (Call.traces_returned fun found hpresent ↦ ?_)
  refine Call.traces_bind (Call.traces_returned fun _ hdemand ↦ ?_)
  have hfound := present_eq_ok.mp hpresent
  have howner := demand_eq_ok.mp hdemand
  have hsaw {label : String} : Saw ([] ++ [(label, w, w)]) fun w ↦
      ∃ n ∈ w.notifications.get? notificationId, n.userId = userId :=
    saw_concat ⟨found, hfound, howner⟩
  split_ifs with hread
  · have hshown {label : String} : Saw ([] ++ [(label, w, w)]) fun w ↦
        ∃ n ∈ w.notifications.get? notificationId, toResponse found = toResponse n :=
      saw_concat ⟨found, hfound, rfl⟩
    exact ⟨hread, hshown, hsaw⟩
  · refine Call.traces_bind (Call.traces_writes (fun _ _ ↦ does_read) fun env w₁ w₂ updated h ↦ ?_)
    obtain ⟨t, hupdate, h⟩ := andThen_eq_ok.mp h
    obtain ⟨row, hrow, h⟩ := andThen_eq_ok.mp h
    cases h
    rw [orMessage_eq_ok] at hupdate
    rw [present_eq_ok] at hrow
    refine ⟨?_, ?_⟩
    · refine does_rewritten (J := fun n n' ↦ n.id = notificationId ∧ n'.readAt.isSome = true ∧
        n' = { n with readAt := n'.readAt }) ?_ ?_ rfl rfl
      · exact rewritten_update hupdate (fun _ ↦ rfl) fun n hn ↦
          ⟨(Table.get?_eq_some.mp hn).2, rfl, rfl⟩
      · intro k n hn n' hchanges
        refine ⟨hchanges, fun u hu ↦ .inr ?_⟩
        cases hu
        rw [← (Table.get?_eq_some.mp hn).2, show Row.id n = n.id from rfl, hchanges.1]
        exact hsaw.append
    · have hrowRead : updated.readAt.isSome = true := by
        rw [Table.get?_update hupdate fun _ ↦ rfl, if_pos rfl] at hrow
        obtain ⟨old, -, rfl⟩ := Option.map_eq_some_iff.mp hrow
        rfl
      refine Call.traces_bind (getUnreadCount_does.mono fun later count ⟨hgrown, hcount⟩ ↦ ?_)
      refine Call.traces_bind ((sendToUser_does rfl hcount).mono fun later' _ hgrown' ↦ ?_)
      have hall := hgrown.trans hgrown'
      have hupdated : Saw later' fun w ↦
          ∃ n ∈ w.notifications.get? notificationId, toResponse updated = toResponse n := by
        refine Saw.of_prefix ?_ hall
        exact saw_last ⟨updated, hrow, rfl⟩
      exact ⟨hrowRead, hupdated, hsaw.append.of_prefix hall⟩

theorem markAllAsRead_does : (NotificationsService.markAllAsRead userId).Traces
    (fun history _ _ w w' ↦ Does (.markAllAsRead userId) history w w')
    (fun history _ ↦ Saw history (Badge userId 0)) [] := by
  refine Call.traces_bind (Call.traces_writes (fun _ _ ↦ does_read) fun env w w' count h ↦ ?_)
  obtain ⟨t, hupdate, h⟩ := andThen_eq_ok.mp h
  cases h
  rw [orMessage_eq_ok] at hupdate
  have hmarked := badge_marked hupdate
  refine ⟨?_, Call.traces_bind ((sendToUser_does rfl (saw_last hmarked)).mono
    fun later _ hgrown ↦ Saw.of_prefix (saw_last hmarked) hgrown)⟩
  refine does_rewritten (J := fun n n' ↦ isUnread userId n = true ∧ n'.readAt.isSome = true ∧
    n' = { n with readAt := n'.readAt }) ?_ ?_ rfl rfl
  · exact rewritten_updateMany hupdate (fun _ ↦ rfl) fun n hn ↦ ⟨hn, rfl, rfl⟩
  · intro k n hn n' hchanges
    refine ⟨hchanges, fun u hu ↦ .inl ?_⟩
    cases hu
    simp only [isUnread, Bool.and_eq_true, beq_iff_eq] at hchanges
    exact hchanges.1.1.1

theorem stores_does {name : String} {f : DeliveryEnv → DeliveryWorld → Except Refusal DeliveryWorld}
    (h : ∀ env w delivery, f env w.delivery = .ok delivery →
      Does op history w (w.withDelivery delivery)) :
    (onDelivery (NotificationDeliveryService.stores name f)).Traces
      (fun history _ _ w w' ↦ Does op history w w') (fun _ _ ↦ True) history := by
  refine Call.traces_focus_perform (fun _ _ ↦ does_read) fun env w delivery _ hok ↦
    ⟨h env w delivery ?_, trivial⟩
  cases hfault : env.fault with
  | some message => simp [hfault] at hok
  | none =>
    cases hf : f env w.delivery with
    | error refusal => cases refusal <;> simp [hfault, hf] at hok
    | ok w₁ =>
      simp only [hfault, hf, Except.ok.injEq, Prod.mk.injEq, and_true] at hok
      rw [hok]

theorem deleteNotification_does :
    (onDelivery (NotificationsService.deleteNotification userId notificationId)).Traces
      (fun history _ _ w w' ↦ Does (.deleteNotification userId notificationId) history w w')
      (fun _ _ ↦ True) [] := by
  intro env w
  refine ⟨does_read, ?_⟩
  cases hfault : env.fault with
  | some message =>
    simp only [hfault, Option.elim_some]
    trivial
  | none =>
    cases hget : w.delivery.platform.notifications.get? notificationId with
    | none =>
      simp only [hfault, Option.elim_none, hget]
      trivial
    | some found =>
      simp only [hfault, Option.elim_none, hget, Call.bind]
      split_ifs with howner
      · trivial
      · refine stores_does fun env w₁ delivery h ↦ ?_
        obtain ⟨t, hupdate, h⟩ := andThen_eq_ok.mp h
        cases h
        refine does_rewritten (J := fun n n' ↦ n.id = notificationId ∧
          n' = { n with status := .cancelled }) ?_ ?_ rfl rfl
        · exact rewritten_update hupdate (fun _ ↦ rfl) fun n hn ↦
            ⟨(Table.get?_eq_some.mp hn).2, rfl⟩
        · intro k n hn n' hchanges
          refine ⟨hchanges, fun u hu ↦ .inr ?_⟩
          cases hu
          have hk : k = notificationId := (Table.get?_eq_some.mp hn).2.symm.trans hchanges.1
          exact hk ▸ saw_last ⟨found, hget, not_not.mp howner⟩

theorem processJob_does (attemptNumber : Option ℕ) :
    (onDelivery (NotificationDeliveryProcessor.processJob notificationId attemptNumber)).Traces
      (fun history _ _ w w' ↦ Does (.processJob notificationId attemptNumber) history w w')
      (fun _ _ ↦ True) [] := by
  refine Call.traces_each (Call.each_focus (processJob_serves attemptNumber))
    fun history l env w w' ⟨delivery, hserves, hw⟩ ↦ ?_
  subst hw
  refine does_rewritten hserves (fun k n _ n' hserved ↦ ⟨hserved, ?_⟩) rfl rfl
  nofun

theorem markExpired_does (retentionDays : ℕ) (now : Time) :
    (NotificationCleanupService.markExpired now).Traces
      (fun history _ _ w w' ↦ Does (.cleanupExpired retentionDays) history w w')
      (fun _ _ ↦ True) history := by
  refine Call.traces_writes (fun _ _ ↦ does_read) fun env w w' count h ↦ ⟨?_, trivial⟩
  obtain ⟨t, hupdate, h⟩ := andThen_eq_ok.mp h
  cases h
  rw [orMessage_eq_ok] at hupdate
  refine does_rewritten (J := fun n n' ↦ n.expiresAt.isSome = true ∧
    n' = { n with status := .expired }) ?_ (fun k n _ n' hexpired ↦ ⟨hexpired, nofun⟩) rfl rfl
  refine rewritten_updateMany hupdate (fun _ ↦ rfl) fun n hn ↦ ⟨?_, rfl⟩
  simp only [NotificationCleanupService.expires, Bool.and_eq_true] at hn
  cases hexpires : n.expiresAt with
  | none => simp [hexpires] at hn
  | some time => rfl

theorem purge_does (retentionDays : ℕ) (cutoffDate : Time) :
    (NotificationCleanupService.purge cutoffDate).Traces
      (fun history _ _ w w' ↦ Does (.cleanupExpired retentionDays) history w w')
      (fun _ _ ↦ True) history := by
  refine Call.traces_writes (fun _ _ ↦ does_read) fun env w w' count h ↦ ⟨?_, trivial⟩
  cases h
  have hget (k : String) : (w.notifications.deleteMany
      (NotificationCleanupService.aged cutoffDate)).get? k = (w.notifications.get? k).filter
        fun n ↦ !NotificationCleanupService.aged cutoffDate n := Table.get?_deleteMany k
  have hgone : ∀ k n, w.notifications.get? k = some n →
      NotificationCleanupService.aged cutoffDate n = true → k ∈ (w.notifications.rows.filter
        (NotificationCleanupService.aged cutoffDate)).map Notification.id := by
    intro k n hn haged
    obtain ⟨hrow, hid⟩ := Table.get?_eq_some.mp hn
    exact List.mem_map.mpr ⟨n, List.mem_filter.mpr ⟨hrow, haged⟩, hid⟩
  constructor
  · intro k n hchanged
    obtain ⟨hnew, hold⟩ := hchanged
    obtain ⟨hfound, -⟩ := Option.filter_eq_some_iff.mp ((hget k).symm.trans hnew)
    exact absurd hfound hold
  · intro k n hn hnone
    rw [Option.mem_def] at hn
    have hfiltered := (hget k).symm.trans hnone
    rw [hn, Option.filter_some] at hfiltered
    split_ifs at hfiltered with hkept
    have haged : NotificationCleanupService.aged cutoffDate n = true := by simpa using hkept
    exact ⟨(Bool.and_eq_true_iff.mp haged).2, List.mem_append_right _ (hgone k n hn haged)⟩
  · exact List.subset_append_left _ _
  · intro hfresh k hk
    refine (hget k).trans ?_
    cases hn : w.notifications.get? k with
    | none => rfl
    | some n =>
      rcases List.mem_append.mp hk with hpurged | hpurged
      · rw [hfresh k hpurged] at hn
        cases hn
      · obtain ⟨m, hm, rfl⟩ := List.mem_map.mp hpurged
        obtain ⟨hrow, haged⟩ := List.mem_filter.mp hm
        cases hn.symm.trans (Table.get?_eq_some.mpr ⟨hrow, rfl⟩)
        rw [Option.filter_some, if_neg (by simp [haged])]
  · exact .inl rfl

theorem cleanupExpired_does (retentionDays : ℕ) :
    (NotificationCleanupService.cleanupExpired retentionDays).Traces
      (fun history _ _ w w' ↦ Does (.cleanupExpired retentionDays) history w w')
      (fun _ _ ↦ True) [] := by
  refine Call.traces_bind (Call.traces_ask (fun _ _ ↦ does_read) fun env w now _ ↦ ?_)
  refine Call.traces_bind (Call.traces_attempt ?_ fun _ _ ↦ trivial)
  refine Call.traces_bind ((markExpired_does retentionDays now).mono fun later expired _ ↦ ?_)
  exact Call.traces_bind ((purge_does retentionDays _).mono fun _ _ _ ↦ trivial)

theorem createNotification_eq_ok {params : OrchestrateNotificationParams}
    {channel : NotificationChannel} {env : HandlerEnv} {s s' : Platform} {n : Notification}
    (h : NotificationOrchestratorService.createNotification params channel env s = .ok (s', n)) :
    ∃ t, s.notifications.create (NotificationOrchestratorService.notificationRow params channel
      env.now (env.newId s.notifications)) = .ok t ∧ s' = { s with notifications := t } := by
  unfold NotificationOrchestratorService.createNotification at h
  split_ifs at h
  dsimp only at h
  split at h
  · rename_i t hcreate
    cases h
    exact ⟨t, hcreate, rfl⟩
  · cases h

theorem insertNotification_does (params : OrchestrateNotificationParams)
    (channel : NotificationChannel) :
    (NotificationOrchestratorService.insertNotification params channel).Traces
      (fun history _ _ w w' ↦ Does (.insertNotification params channel) history w w')
      (fun _ _ ↦ True) [] := by
  refine Call.traces_writes (fun _ _ ↦ does_read) fun env w w' _ h ↦ ⟨?_, trivial⟩
  obtain ⟨_, hfresh, h⟩ := andThen_eq_ok.mp h
  obtain ⟨⟨platform, n⟩, hcreated, h⟩ := andThen_eq_ok.mp h
  cases h
  rw [demand_eq_ok] at hfresh
  obtain ⟨t, hcreate, rfl⟩ := createNotification_eq_ok hcreated
  have hget := Table.get?_create hcreate
  have hstays (k : String) (n : Notification) (hn : n ∈ w.notifications.get? k) :=
    (Table.get?_create_taken hn hcreate).2
  constructor
  · intro k n' hchanged
    obtain ⟨hnew, hold⟩ := hchanged
    have hrow := (hget k).symm.trans hnew
    split_ifs at hrow with hk
    · cases hrow
      refine .inl ⟨?_, rfl, rfl, rfl, rfl⟩
      cases hn : w.notifications.get? k with
      | none => rfl
      | some n => exact absurd hk (Table.get?_create_taken hn hcreate).1
    · exact absurd hrow hold
  · intro k n hn hnone
    cases (hstays k n hn).symm.trans hnone
  · exact List.Subset.refl _
  · intro hw k hk
    refine (hget k).trans ?_
    rw [if_neg]
    · exact hw k hk
    · intro hid
      subst hid
      exact hfresh hk
  · exact .inl rfl

theorem runs_does (op : InboxOp) : op.runs.Traces
    (fun history _ _ w w' ↦ Does op history w w') op.Answered [] := by
  cases op with
  | getUnreadCount userId =>
    exact Call.traces_map (getUnreadCount_does.mono fun later count h ↦ ⟨count, rfl, h.2⟩)
  | markAsRead userId notificationId =>
    exact Call.traces_map (markAsRead_does.mono fun later r h ↦ ⟨r, rfl, h⟩)
  | markAllAsRead userId =>
    exact Call.traces_map (markAllAsRead_does.mono fun later count h ↦ ⟨count, rfl, h⟩)
  | deleteNotification userId notificationId => exact Call.traces_map deleteNotification_does
  | processJob notificationId attemptNumber =>
    exact Call.traces_map (processJob_does attemptNumber)
  | cleanupExpired retentionDays => exact Call.traces_map (cleanupExpired_does retentionDays)
  | insertNotification params channel =>
    exact Call.traces_map (insertNotification_does params channel)

end Calls

/-- However users count, read and delete their notifications while others arrive, are delivered and
are cleaned up: every count that a user is told or asks for is in some state that the call has seen
the length of the user's unread list, whose pages show each unread notification; a user's call
changes only what is the user's, and each call only as it may; a notification that is read stays
read and its user, its content and its channel stay; only the cleanup removes notifications, only
those that have come to an end, and they do not come back. -/
theorem inbox_kept {p : Pool InboxWorld InboxTask}
    (h : Reach inboxCalls.Step (fun _ _ ↦ True) (fun p ↦ p.threads = [] ∧ PurgedGone p.shared) p) :
    PurgedGone p.shared ∧ ∀ t ∈ p.threads, (∀ answer, t.call = .returned (.ok answer) →
      t.op.Answered t.history answer) ∧ ∀ earlier label w w' later,
        t.history = earlier ++ (label, w, w') :: later →
          Retains w' p.shared ∧ t.op.Tells earlier w w' ∧
            (∀ k n', Changed w.notifications w'.notifications k n' →
              (w.notifications.get? k = none ∧ t.op.Inserts n') ∨ ∃ n ∈ w.notifications.get? k,
                t.op.Changes n n' ∧ ∀ userId ∈ t.op.userId?, n.userId = userId) ∧
            ∀ k, ∀ n ∈ w.notifications.get? k, w'.notifications.get? k = none → t.op.Purges n := by
  have hinit : ∀ p : Pool InboxWorld InboxTask,
      p.threads = [] ∧ PurgedGone p.shared → p.threads = [] := fun _ hp ↦ hp.1
  have hrecorded := recorded_reach Retains.refl (fun _ _ _ ↦ Retains.trans) runs_does
    (fun _ _ _ _ _ _ hdoes ↦ hdoes.keeps) hinit h
  obtain ⟨hfresh, hfound⟩ := recorded_holds Retains.refl (fun _ _ _ ↦ Retains.trans) runs_does
    (fun _ _ _ _ _ _ hdoes ↦ hdoes.keeps) (fun _ _ _ _ _ _ hdoes _ ↦ hdoes.fresh)
    (fun _ hp ↦ hp) h
  have htracing := tracing_reach runs_does hinit h
  refine ⟨hfresh, fun t ht ↦ ⟨fun answer hanswer ↦ ?_, fun earlier label w w' later hhistory ↦ ?_⟩⟩
  · have htraces := htracing t ht
    rw [hanswer] at htraces
    exact htraces
  · obtain ⟨⟨env, hdoes⟩, hsince⟩ := hrecorded.made t ht earlier label w w' later hhistory
    have hevent : (label, w, w') ∈ t.history := by
      rw [hhistory]
      exact List.mem_append_right _ List.mem_cons_self
    refine ⟨hrecorded.since t ht _ hevent, hdoes.tells, fun k n' ↦ ?_, fun k n hn hnone ↦ ?_⟩
    · exact hdoes.owned hsince (hfound t ht _ hevent)
    · exact (hdoes.gone k n hn hnone).1

section Sample

def reminderInbox : InboxWorld := ⟨reminderWorld, true, [], []⟩

/-- The badge is counted while the reminder is marked as read and delivered, then everything is
deleted, and purged later. -/
theorem reminder_read : ∃ p : Pool InboxWorld InboxTask,
    (p.shared.unreadCounts == [("user-1", 0)] && p.shared.purged == ["notification-1"]) = true ∧
    PurgedGone p.shared ∧ ∀ t ∈ p.threads, (∀ answer, t.call = .returned (.ok answer) →
      t.op.Answered t.history answer) ∧ ∀ earlier label w w' later,
        t.history = earlier ++ (label, w, w') :: later →
          Retains w' p.shared ∧ t.op.Tells earlier w w' ∧
            (∀ k n', Changed w.notifications w'.notifications k n' →
              (w.notifications.get? k = none ∧ t.op.Inserts n') ∨ ∃ n ∈ w.notifications.get? k,
                t.op.Changes n n' ∧ ∀ userId ∈ t.op.userId?, n.userId = userId) ∧
            ∀ k, ∀ n ∈ w.notifications.get? k, w'.notifications.get? k = none → t.op.Purges n := by
  have hrun : (inboxCalls.play (fun _ _ _ ↦ true)
      ([(0, servedEnv 0), (1, servedEnv 1), (2, servedEnv 2), (0, servedEnv 0), (2, servedEnv 2),
        (0, servedEnv 0), (0, servedEnv 0), (2, servedEnv 2), (2, servedEnv 2), (3, servedEnv 3),
        (3, servedEnv 3)] ++
        List.replicate 3 (4, { servedEnv 4 with now := 100000000 }))
      ⟨reminderInbox, ([.markAsRead "user-1" "notification-1", .getUnreadCount "user-1",
        .processJob "notification-1" none, .deleteNotification "user-1" "notification-1",
        .cleanupExpired 1] : List InboxOp).map fun op ↦ ⟨op, [], op.runs⟩⟩).any (fun p ↦
          p.shared.unreadCounts == [("user-1", 0)] &&
            p.shared.purged == ["notification-1"]) = true := by
    decide +kernel
  obtain ⟨p, hp, htest⟩ := (Option.any_eq_true ..).mp hrun
  have hreach : Reach inboxCalls.Step (Heeding fun _ _ _ _ ↦ True)
      (fun p ↦ p.threads = [] ∧ PurgedGone p.shared) p :=
    reach_tasks (fun _ _ _ _ _ _ _ _ ↦ trivial) ⟨rfl, fun _ hk ↦ absurd hk List.not_mem_nil⟩ hp
  exact ⟨p, htest, inbox_kept (hreach.mono fun _ _ _ ↦ trivial)⟩

end Sample

end Innovents.Notifications
