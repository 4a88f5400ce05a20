import Innovents.Notifications.Orchestrator
import Mathlib.Data.List.Sort

namespace Innovents.Notifications

open Innovents.Lib Innovents.Payments

inductive DeliveryAttemptStatus
  | pending | success | failed
  deriving DecidableEq, Repr

structure NotificationDeliveryAttempt where
  id : String
  notificationId : String
  channel : NotificationChannel
  attemptNumber : ℕ
  status : DeliveryAttemptStatus
  providerMessageId : Option String
  errorCode : Option String
  errorMessage : Option String
  startedAt : Time
  completedAt : Option Time

/-- A push device; `token` is what decryption makes of the stored token, if it succeeds. -/
structure UserDevice where
  id : String
  userId : String
  token : Option String
  tokenHash : String
  isActive : Bool
  revokedAt : Option Time

instance : Row NotificationDeliveryAttempt := ⟨NotificationDeliveryAttempt.id, []⟩
instance : Row UserDevice := ⟨UserDevice.id, [fun d ↦ some d.tokenHash]⟩

/-- What a channel provider gets; an email is rendered from these. -/
inductive Message
  | socket (userId id : String) (type : NotificationType) (channel : NotificationChannel)
      (title : String) (body : List JsValue) (data : JsValue) (createdAt : Time)
  | push (token title : String) (body : List JsValue) (data : JsValue)
  | email (recipient : String) (type : NotificationType) (title : String) (body : List JsValue)
      (data : JsValue)

/-- A message that was handed to a provider, with the status of its notification at that
moment. -/
structure HandedOver where
  notificationId : String
  status : Option NotificationStatus
  message : Message

/-- The platform, what providers were handed, and the notifications that owners have deleted. -/
structure DeliveryWorld where
  platform : Platform
  deliveryAttempts : Table NotificationDeliveryAttempt
  userDevices : Table UserDevice
  handedOver : List HandedOver
  deleted : List String

def DeliveryWorld.status (w : DeliveryWorld) (id : String) : Option NotificationStatus :=
  (w.platform.notifications.get? id).map Notification.status

def DeliveryWorld.withNotifications (w : DeliveryWorld) (t : Table Notification) : DeliveryWorld :=
  { w with platform := { w.platform with notifications := t } }

structure PushNotificationResult where
  success : Bool
  providerMessageId : Option String
  errorCode : Option String
  errorMessage : Option String
  isTokenInvalid : Bool

/-- What one statement takes from its surroundings: the clock, the failure it runs into, a new
id, and the answers of the providers. -/
structure DeliveryEnv where
  now : Time
  fault : Option String
  newId : String
  push : PushNotificationResult
  sent : Bool

abbrev Delivery (α : Type) := Call String DeliveryEnv DeliveryWorld String α

structure DeliveryResult where
  success : Bool
  channel : NotificationChannel
  error : Option String
  isTransient : Bool

namespace NotificationDeliveryService

section Statements

variable {α : Type}

def finds (name : String) (f : DeliveryEnv → DeliveryWorld → α) : Delivery α :=
  .ask name fun env w ↦ env.fault.elim (.ok (f env w)) .error

def stores (name : String) (f : DeliveryEnv → DeliveryWorld → Except Refusal DeliveryWorld) :
    Delivery Unit :=
  .perform name fun env w ↦
    match env.fault, f env w with
    | some message, _ => .error message
    | none, .ok w' => .ok (w', ())
    | none, .error .uniqueConstraint => .error "Unique constraint failed"
    | none, .error .recordNotFound => .error "Record to update not found"

/-- The message is out, whatever the provider answers. -/
def handOver (name : String) (n : Notification) (message : Message)
    (answer : DeliveryEnv → α) : Delivery α :=
  .request name
    (fun _ w ↦ { w with handedOver := w.handedOver ++ [⟨n.id, w.status n.id, message⟩] })
    fun env _ ↦ .returned (env.fault.elim (.ok (answer env)) .error)

end Statements

def createAttempt (n : Notification) (channel : NotificationChannel) (attemptNumber : ℕ)
    (startedAt : Time) (status : DeliveryAttemptStatus)
    (providerMessageId errorCode errorMessage : Option String) : Delivery Unit :=
  stores "notificationDeliveryAttempt.create" fun env w ↦ do
    let t ← w.deliveryAttempts.create
      { id := env.newId
        notificationId := n.id
        channel
        attemptNumber
        status
        providerMessageId
        errorCode
        errorMessage
        startedAt
        completedAt := some env.now }
    return { w with deliveryAttempts := t }

def setDelivered (id : String) : Delivery Unit :=
  stores "notification.update" fun env w ↦ do
    let t ← w.platform.notifications.update id fun n ↦
      { n with
        status := .delivered
        deliveredAt := some env.now }
    return w.withNotifications t

def setFailed (id : String) : Delivery Unit :=
  stores "notification.update" fun env w ↦ do
    let t ← w.platform.notifications.update id fun n ↦
      { n with
        status := .failed
        failedAt := some env.now }
    return w.withNotifications t

def recordFailedAttempt (n : Notification) (channel : NotificationChannel) (attemptNumber : ℕ)
    (startedAt : Time) (errorCode errorMessage : String) : Delivery Unit := do
  let _ ← (createAttempt n channel attemptNumber startedAt .failed none (some errorCode)
    (some errorMessage)).attempt
  return ()

section Channels

variable (n : Notification) (attemptNumber : ℕ) (startedAt : Time)

def sendInApp : Delivery Unit := do
  handOver "gateway.sendToUser" n
    (.socket n.userId n.id n.type n.channel n.title n.body n.data n.createdAt) fun _ ↦ ()
  createAttempt n .inApp attemptNumber startedAt .success none none none
  setDelivered n.id

def deliverInApp : Delivery DeliveryResult := do
  match ← (sendInApp n attemptNumber startedAt).attempt with
  | .ok _ => return ⟨true, .inApp, none, false⟩
  | .error errMsg =>
    recordFailedAttempt n .inApp attemptNumber startedAt "IN_APP_ERROR" errMsg
    return ⟨false, .inApp, some errMsg, true⟩

def getActiveDecryptedTokens (userId : String) : Delivery (List (String × String)) :=
  finds "userDevice.findMany" fun _ w ↦
    (w.userDevices.rows.filter fun d ↦ d.userId == userId && d.isActive).filterMap fun d ↦
      d.token.map fun token ↦ (token, d.tokenHash)

/-- A failure to deactivate a token is logged only. -/
def deactivateToken (tokenHash : String) : Delivery Unit := do
  let _ ← (stores "userDevice.updateMany" fun env w ↦ do
    let t ← w.userDevices.updateMany (fun d ↦ d.tokenHash == tokenHash) fun d ↦
      { d with
        isActive := false
        revokedAt := some env.now }
    return { w with userDevices := t }).attempt
  return ()

/-- What the loop over the devices has seen. -/
structure PushOutcome where
  anySuccess : Bool
  lastErrorMessage : String
  isTransient : Bool

def pushToDevices : List (String × String) → PushOutcome → Delivery PushOutcome
  | [], outcome => pure outcome
  | (token, tokenHash) :: devices, outcome => do
    let result ← handOver "pushProvider.sendPush" n (.push token n.title n.body n.data)
      DeliveryEnv.push
    if result.success then
      createAttempt n .push attemptNumber startedAt .success result.providerMessageId none none
      pushToDevices devices { outcome with anySuccess := true }
    else
      if result.isTokenInvalid then deactivateToken tokenHash
      createAttempt n .push attemptNumber startedAt .failed none
        (some (orText result.errorCode "PUSH_ERROR")) result.errorMessage
      pushToDevices devices
        { outcome with
          lastErrorMessage := orText result.errorMessage "Push delivery failed"
          isTransient := outcome.isTransient ||
            result.errorCode == some "UNAVAILABLE" || result.errorCode == some "TIMEOUT" }

def sendPush : Delivery DeliveryResult := do
  let activeDevices ← getActiveDecryptedTokens n.userId
  if activeDevices.isEmpty then
    createAttempt n .push attemptNumber startedAt .success none (some "NO_ACTIVE_DEVICES")
      (some "No active push device registered")
    setDelivered n.id
    return ⟨true, .push, none, false⟩
  else
    let outcome ← pushToDevices n attemptNumber startedAt activeDevices ⟨false, "", false⟩
    if outcome.anySuccess then
      setDelivered n.id
      return ⟨true, .push, none, false⟩
    else
      setFailed n.id
      return ⟨false, .push, some outcome.lastErrorMessage, outcome.isTransient⟩

def deliverPush : Delivery DeliveryResult := do
  match ← (sendPush n attemptNumber startedAt).attempt with
  | .ok result => return result
  | .error errMsg =>
    recordFailedAttempt n .push attemptNumber startedAt "PUSH_EXCEPTION" errMsg
    return ⟨false, .push, some errMsg, true⟩

def sendEmail : Delivery Unit := do
  let user ← finds "user.findUnique" fun _ w ↦ w.platform.users.get? n.userId
  match user.filter (·.email ≠ "") with
  | none => .returned (.error s!"User email not found for userId {n.userId}")
  | some user =>
    let sent ← handOver "emailProvider.sendEmail" n
      (.email user.email n.type n.title n.body n.data) DeliveryEnv.sent
    if sent then
      createAttempt n .email attemptNumber startedAt .success none none none
      setDelivered n.id
    else .returned (.error "SMTP provider rejected email transmission")

def deliverEmail : Delivery DeliveryResult := do
  match ← (sendEmail n attemptNumber startedAt).attempt with
  | .ok _ => return ⟨true, .email, none, false⟩
  | .error errMsg =>
    recordFailedAttempt n .email attemptNumber startedAt "EMAIL_ERROR" errMsg
    setFailed n.id
    return ⟨false, .email, some errMsg, true⟩

def deliver : Delivery DeliveryResult :=
  match n.channel with
  | .inApp => deliverInApp n attemptNumber startedAt
  | .push => deliverPush n attemptNumber startedAt
  | .email => deliverEmail n attemptNumber startedAt

end Channels

end NotificationDeliveryService

namespace NotificationDeliveryProcessor

open NotificationDeliveryService

/-- A job of the delivery queues. The clock is read once the notification is found. -/
def processJob (notificationId : String) (attemptNumber : Option ℕ) : Delivery Unit := do
  let (notification, startedAt) ← finds "notification.findUnique" fun env w ↦
    (w.platform.notifications.get? notificationId, env.now)
  match notification with
  | none => return ()
  | some notification =>
    let result ← deliver notification ((attemptNumber.filter (· ≠ 0)).getD 1) startedAt
    if !result.success && result.isTransient then
      .returned (.error (s!"Transient delivery failure for notification {notification.id}: " ++
        result.error.getD "undefined"))
    else return ()

end NotificationDeliveryProcessor

namespace NotificationsService

open NotificationDeliveryService

structure NotificationQueryDto where
  page : ℤ
  pageSize : ℤ
  type : Option NotificationType
  channel : Option NotificationChannel
  status : Option NotificationStatus
  isRead : Option Bool
  createdFrom : Option Time
  createdTo : Option Time

/-- The filter of the query; a given status replaces `{ not: CANCELLED }`. -/
def matchesQuery (userId : String) (query : NotificationQueryDto) (n : Notification) : Bool :=
  n.userId == userId &&
    (match query.status with
      | some status => n.status == status
      | none => n.status != .cancelled) &&
    query.type.all (n.type == ·) && query.channel.all (n.channel == ·) &&
    query.isRead.all (fun isRead ↦ n.readAt.isSome == isRead) &&
    query.createdFrom.all (· ≤ n.createdAt) && query.createdTo.all (n.createdAt ≤ ·)

structure NotificationResponseDto where
  id : String
  userId : String
  type : NotificationType
  channel : NotificationChannel
  title : String
  body : List JsValue
  data : JsValue
  status : NotificationStatus
  readAt : Option Time
  deliveredAt : Option Time
  createdAt : Time

structure NotificationPage where
  data : List NotificationResponseDto
  total : ℕ
  page : ℕ
  pageSize : ℕ
  totalPages : ℕ

/-- `value || fallback` of a number -/
def orNumber (value fallback : ℤ) : ℤ := if value = 0 then fallback else value

def toResponse (n : Notification) : NotificationResponseDto :=
  ⟨n.id, n.userId, n.type, n.channel, n.title, n.body, n.data, n.status, n.readAt, n.deliveredAt,
    n.createdAt⟩

/-- What the owner is shown; the query and the count read the table at the same time. -/
def getNotifications (userId : String) (query : NotificationQueryDto) (s : Platform) :
    NotificationPage :=
  let page := (max 1 (orNumber query.page 1)).toNat
  let pageSize := (min 100 (max 1 (orNumber query.pageSize 20))).toNat
  let found := s.notifications.rows.filter (matchesQuery userId query)
  let items := ((found.insertionSort fun a b ↦ b.createdAt ≤ a.createdAt).drop
    ((page - 1) * pageSize)).take pageSize
  let pages := (found.length + pageSize - 1) / pageSize
  { data := items.map toResponse
    total := found.length
    page
    pageSize
    totalPages := if pages = 0 then 1 else pages }

def deleteNotification (userId notificationId : String) : Delivery Unit := do
  let notification ← finds "notification.findUnique" fun _ w ↦
    w.platform.notifications.get? notificationId
  match notification with
  | none => .returned (.error "Notification not found")
  | some notification =>
    if notification.userId ≠ userId then
      .returned (.error "You are not authorized to delete this notification")
    else
      stores "notification.update" fun _ w ↦ do
        let t ← w.platform.notifications.update notificationId fun n ↦
          { n with status := .cancelled }
        return { w.withNotifications t with deleted := w.deleted ++ [notificationId] }

end NotificationsService

end Innovents.Notifications
