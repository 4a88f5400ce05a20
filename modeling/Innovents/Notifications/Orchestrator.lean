import Innovents.Notifications.Schema
import Innovents.Payments.Calls

namespace Innovents.Notifications

open Innovents.Lib Innovents.Payments

structure DefaultPreference where
  inApp : Bool
  push : Bool
  email : Bool

def DefaultPreference.on (p : DefaultPreference) : NotificationChannel → Bool
  | .inApp => p.inApp
  | .push => p.push
  | .email => p.email

namespace NotificationPreferenceService

/-- The types that no preference can switch off. -/
def NOTIFICATION_SECURITY_TYPES : List NotificationType :=
  [.securityEmailVerification, .securityPasswordReset, .accountSuspended, .accountRejected,
    .accountApproved, .organizerInvitationCreated, .organizerInvitationAccepted, .rfqSent,
    .rfqQuoted, .rfqAccepted, .rfqRejected, .rfqCancelled, .c2bBookingRequested,
    .c2bBookingStatusChanged, .sponsorAdApproved, .sponsorAdRejected, .communitySponsorshipPaid,
    .communitySponsorshipActivated, .communitySponsorshipExpired, .subscriptionActivated,
    .subscriptionRenewed, .subscriptionPaymentFailed, .subscriptionCancelled, .paymentRefunded]

def DEFAULT_NOTIFICATION_PREFERENCES : NotificationType → DefaultPreference
  | .eventPublished | .communityMeetupCreated | .communityMemberAction | .rfqViewed =>
    ⟨true, false, false⟩
  | .sponsorAdSubmitted | .couponRedeemed => ⟨true, false, true⟩
  | .sessionReminder | .communityPostMention | .communityPostReply | .communityMeetupReminder
  | .chatMessage | .rfqExpired => ⟨true, true, false⟩
  | .eventCancelled | .communityModerationAction | .securityEmailVerification
  | .securityPasswordReset | .accountApproved | .accountRejected | .accountSuspended
  | .organizerInvitationCreated | .organizerInvitationAccepted | .rfqSent
  | .rfqClarificationRequested | .rfqQuoted | .rfqAccepted | .rfqRejected | .rfqCancelled
  | .c2bBookingRequested | .c2bBookingStatusChanged | .sponsorAdApproved | .sponsorAdRejected
  | .communitySponsorshipPaid | .communitySponsorshipActivated | .communitySponsorshipExpired
  | .subscriptionActivated | .subscriptionRenewed | .subscriptionPaymentFailed
  | .subscriptionCancelled | .paymentRefunded => ⟨true, true, true⟩

/-- The stored preference of a user, or the default of the type. -/
def preferred (userId : String) (type : NotificationType) (channel : NotificationChannel)
    (s : Platform) : Bool :=
  match s.notificationPreferences.find? fun p ↦
      p.userId == userId && p.type == type && p.channel == channel with
  | some explicitPref => explicitPref.isEnabled
  | none => (DEFAULT_NOTIFICATION_PREFERENCES type).on channel

def shouldDeliver (userId : String) (type : NotificationType) (channel : NotificationChannel) :
    Handler Bool :=
  if type ∈ NOTIFICATION_SECURITY_TYPES then pure true
  else reads "notificationPreference.findUnique" fun s ↦ .ok (preferred userId type channel s)

/-- Whether a user is to be notified on a channel. -/
def allows (userId : String) (type : NotificationType) (channel : NotificationChannel)
    (s : Platform) : Bool :=
  decide (type ∈ NOTIFICATION_SECURITY_TYPES) || preferred userId type channel s

end NotificationPreferenceService

structure OrchestrateNotificationParams where
  userId : String
  type : NotificationType
  title : String
  body : List JsValue
  data : JsValue
  idempotencyKey : Option String
  channels : Option (List NotificationChannel)
  expiresAt : Option Time

namespace QueueService

/-- A job for a queue that could not be initialised is dropped without an error. -/
def addJob (queueName : QueueName) (job : Job) : Handler Unit :=
  .perform "queue.add" fun env s ↦
    if queueName ∈ s.openQueues then
      env.fault.elim (.ok ({ s with jobs := s.jobs ++ [(queueName, job)] }, ())) .error
    else .ok (s, ())

end QueueService

namespace NotificationOrchestratorService

open NotificationPreferenceService QueueService

/-- The key of a notification on one channel. -/
def channelKey (params : OrchestrateNotificationParams) (channel : NotificationChannel) :
    Option String :=
  (given params.idempotencyKey).map fun key ↦ s!"{key}:{channelText channel}"

def notificationRow (params : OrchestrateNotificationParams) (channel : NotificationChannel)
    (now : Time) (id : String) : Notification where
  id
  userId := params.userId
  type := params.type
  channel
  title := params.title
  body := params.body
  data := params.data
  status := .pending
  readAt := none
  deliveredAt := none
  failedAt := none
  idempotencyKey := channelKey params channel
  expiresAt := params.expiresAt
  createdAt := now

def createNotification (params : OrchestrateNotificationParams) (channel : NotificationChannel)
    (env : HandlerEnv) (s : Platform) : Except String (Platform × Notification) :=
  if s.users.has params.userId then
    let row := notificationRow params channel env.now (env.newId s.notifications)
    match s.notifications.create row with
    | .ok t => .ok ({ s with notifications := t }, row)
    | .error _ => .error "Unique constraint failed"
  else .error "Foreign key constraint violated"

/-- Under a key the row is created once: an upsert finds it again and keeps it as it is. -/
def persistNotification (params : OrchestrateNotificationParams) (channel : NotificationChannel) :
    Handler Notification :=
  writes "notification.upsert" fun env s ↦
    match channelKey params channel with
    | some key =>
      match s.notifications.find? fun n ↦ n.idempotencyKey == some key with
      | some n => .ok (s, n)
      | none => createNotification params channel env s
    | none => createNotification params channel env s

/-- The `catch` block of a failed insertion: the row that is there already, if any. -/
def existingNotification (params : OrchestrateNotificationParams)
    (channel : NotificationChannel) : Handler (Option Notification) :=
  match channelKey params channel with
  | some key => reads "notification.findUnique" fun s ↦
    .ok (s.notifications.find? fun n ↦ n.idempotencyKey == some key)
  | none => pure none

def deliveryJob (channel : NotificationChannel) (notificationId : String) : QueueName × Job :=
  match channel with
  | .email => (.email, .deliverEmail notificationId 1)
  | _ => (.notifications, .deliverNotification notificationId 1)

/-- One turn of the loop over the channels. -/
def orchestrateChannel (params : OrchestrateNotificationParams) (channel : NotificationChannel) :
    Handler (Option Notification) := do
  let allowed ← shouldDeliver params.userId params.type channel
  if allowed then
    match ← (persistNotification params channel).attempt with
    | .ok notification =>
      let (queueName, job) := deliveryJob channel notification.id
      addJob queueName job
      return some notification
    | .error _ => existingNotification params channel
  else return none

def orchestrateChannels (params : OrchestrateNotificationParams) :
    List NotificationChannel → Handler (List Notification)
  | [] => pure []
  | channel :: channels => do
    let created ← orchestrateChannel params channel
    let others ← orchestrateChannels params channels
    return created.toList ++ others

def orchestrate (params : OrchestrateNotificationParams) : Handler (List Notification) :=
  orchestrateChannels params (params.channels.getD [.inApp, .push, .email])

end NotificationOrchestratorService

namespace NotificationFanoutService

open NotificationOrchestratorService

/-- Every user is notified, and a user for whom that fails is passed over. The source starts
the calls of a chunk of users together; they work on rows of their own. -/
def fanoutToUsers (notificationFactory : String → OrchestrateNotificationParams) :
    List String → Handler ℕ
  | [] => pure 0
  | userId :: userIds => do
    let outcome ← (orchestrate (notificationFactory userId)).attempt
    let dispatchedCount ← fanoutToUsers notificationFactory userIds
    return match outcome with
    | .ok _ => dispatchedCount + 1
    | .error _ => dispatchedCount

end NotificationFanoutService

end Innovents.Notifications
