import Innovents.Lib.Requests
import Innovents.Lib.Sequences
import Innovents.Notifications.Delivery

namespace Innovents.Notifications

open Innovents.Lib Innovents.Payments

/-- The world of the deliveries, the unread counts that the gateway was told to send, and the ids of
the notifications that were purged. -/
structure InboxWorld where
  delivery : DeliveryWorld
  serverUp : Bool
  unreadCounts : List (String × ℕ)
  purged : List String

def InboxWorld.notifications (w : InboxWorld) : Table Notification :=
  w.delivery.platform.notifications

def InboxWorld.withDelivery (w : InboxWorld) (delivery : DeliveryWorld) : InboxWorld :=
  { w with delivery }

def InboxWorld.withNotifications (w : InboxWorld) (t : Table Notification) : InboxWorld :=
  { w with delivery := w.delivery.withNotifications t }

instance : Faulty DeliveryEnv String := ⟨DeliveryEnv.fault⟩

abbrev InboxCall (α : Type) := Call String DeliveryEnv InboxWorld String α

def onDelivery {α : Type} (call : Delivery α) : InboxCall α :=
  call.focus InboxWorld.delivery fun delivery w ↦ w.withDelivery delivery

def orMessage {α : Type} : Except Refusal α → Except String α
  | .ok a => .ok a
  | .error .uniqueConstraint => .error "Unique constraint failed"
  | .error .recordNotFound => .error "Record to update not found"

namespace NotificationGateway

/-- Without a server the message is skipped. -/
def sendToUser (userId : String) (unreadCount : ℕ) : InboxCall Unit :=
  .request "gateway.sendToUser"
    (fun _ w ↦ if w.serverUp then
      { w with unreadCounts := w.unreadCounts ++ [(userId, unreadCount)] } else w)
    fun _ _ ↦ .returned (.ok ())

end NotificationGateway

namespace NotificationsService

/-- Neither read nor deleted. -/
def isUnread (userId : String) (n : Notification) : Bool :=
  n.userId == userId && n.readAt.isNone && n.status != .cancelled

def getUnreadCount (userId : String) : InboxCall ℕ :=
  .reads "notification.count" fun _ w ↦ w.notifications.rows.countP (isUnread userId)

def markAsRead (userId notificationId : String) : InboxCall NotificationResponseDto := do
  let found ← .reads "notification.findUnique" fun _ w ↦ w.notifications.get? notificationId
  let notification ← .returned (present found "Notification not found")
  .returned (demand (notification.userId = userId)
    "You are not authorized to access this notification")
  if notification.readAt.isSome then return toResponse notification
  else
    let updated ← .writes "notification.update" fun env w ↦ do
      let t ← orMessage (w.notifications.update notificationId fun n ↦
        { n with readAt := some env.now })
      let updated ← present (t.get? notificationId) "Record to update not found"
      return (w.withNotifications t, updated)
    let unreadCount ← getUnreadCount userId
    NotificationGateway.sendToUser userId unreadCount
    return toResponse updated

def markAllAsRead (userId : String) : InboxCall ℕ := do
  let updatedCount ← .writes "notification.updateMany" fun env w ↦ do
    let t ← orMessage (w.notifications.updateMany (isUnread userId) fun n ↦
      { n with readAt := some env.now })
    return (w.withNotifications t, w.notifications.rows.countP (isUnread userId))
  NotificationGateway.sendToUser userId 0
  return updatedCount

end NotificationsService

namespace NotificationCleanupService

def terminal (status : NotificationStatus) : Bool :=
  status ∈ [NotificationStatus.delivered, .failed, .expired, .cancelled]

/-- Past its time, and not yet marked so. -/
def expires (now : Time) (n : Notification) : Bool :=
  n.expiresAt.any (· < now) && n.status != .expired

def aged (cutoffDate : Time) (n : Notification) : Bool :=
  decide (n.createdAt < cutoffDate) && terminal n.status

def markExpired (now : Time) : InboxCall ℕ :=
  .writes "notification.updateMany" fun _ w ↦ do
    let t ← orMessage (w.notifications.updateMany (expires now) fun n ↦
      { n with status := .expired })
    return (w.withNotifications t, w.notifications.rows.countP (expires now))

/-- The delivery attempts go with their notifications. -/
def purge (cutoffDate : Time) : InboxCall ℕ :=
  .writes "notification.deleteMany" fun _ w ↦
    let gone := (w.notifications.rows.filter (aged cutoffDate)).map Notification.id
    let platform := { w.delivery.platform with
      notifications := w.notifications.deleteMany (aged cutoffDate) }
    let delivery := { w.delivery with
      platform
      deliveryAttempts := w.delivery.deliveryAttempts.deleteMany (·.notificationId ∈ gone) }
    .ok ({ w with
      delivery
      purged := w.purged ++ gone }, gone.length)

/-- What fails is logged only. -/
def cleanupExpired (retentionDays : ℕ) : InboxCall (ℕ × ℕ) := do
  let now ← .ask "clock" fun env _ ↦ .ok env.now
  let result ← Call.attempt do
    let expiredCleaned ← markExpired now
    let oldCleaned ← purge (now - retentionDays * (24 * 60 * 60 * 1000))
    return (expiredCleaned, oldCleaned)
  match result with
  | .ok counts => return counts
  | .error _ => return (0, 0)

end NotificationCleanupService

namespace NotificationOrchestratorService

/-- An `upsert` that inserts its row. An id that was given is not given again. -/
def insertNotification (params : OrchestrateNotificationParams) (channel : NotificationChannel) :
    InboxCall Unit :=
  .writes "notification.upsert" fun env w ↦ do
    demand (env.newId ∉ w.purged) "Unique constraint failed"
    let (platform, _) ← createNotification params channel ⟨env.now, none, fun _ ↦ env.newId⟩
      w.delivery.platform
    return (w.withDelivery { w.delivery with platform }, ())

end NotificationOrchestratorService

end Innovents.Notifications
