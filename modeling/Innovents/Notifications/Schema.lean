import Innovents.Payments.Statements
import Innovents.Lib.Call

namespace Innovents.Notifications

open Innovents.Lib Innovents.Payments

inductive NotificationChannel
  | inApp | push | email
  deriving DecidableEq, Repr

inductive NotificationType
  | eventPublished | eventCancelled | sessionReminder
  | communityPostMention | communityPostReply | communityMeetupCreated | communityMeetupReminder
  | communityMemberAction | communityModerationAction | chatMessage
  | securityEmailVerification | securityPasswordReset
  | accountApproved | accountRejected | accountSuspended
  | organizerInvitationCreated | organizerInvitationAccepted
  | rfqSent | rfqViewed | rfqClarificationRequested | rfqQuoted | rfqAccepted | rfqRejected
  | rfqCancelled | rfqExpired
  | c2bBookingRequested | c2bBookingStatusChanged
  | sponsorAdSubmitted | sponsorAdApproved | sponsorAdRejected
  | couponRedeemed
  | communitySponsorshipPaid | communitySponsorshipActivated | communitySponsorshipExpired
  | subscriptionActivated | subscriptionRenewed | subscriptionPaymentFailed
  | subscriptionCancelled
  | paymentRefunded
  deriving DecidableEq, Repr

inductive NotificationStatus
  | pending | processing | delivered | failed | expired | cancelled
  deriving DecidableEq, Repr

inductive RegistrationStatus
  | registered | cancelled | attended | noShow
  deriving DecidableEq, Repr

/-- A notification; its body is kept as the pieces of the template that made it. -/
structure Notification where
  id : String
  userId : String
  type : NotificationType
  channel : NotificationChannel
  title : String
  body : List JsValue
  data : JsValue
  status : NotificationStatus
  readAt : Option Time
  deliveredAt : Option Time
  failedAt : Option Time
  idempotencyKey : Option String
  expiresAt : Option Time
  createdAt : Time

structure NotificationPreference where
  id : String
  userId : String
  type : NotificationType
  channel : NotificationChannel
  isEnabled : Bool

structure CommunityPost where
  id : String
  communityId : String
  authorId : String

structure EventRegistration where
  id : String
  eventId : String
  userId : String
  status : RegistrationStatus

def channelText : NotificationChannel → String
  | .inApp => "IN_APP"
  | .push => "PUSH"
  | .email => "EMAIL"

def typeText : NotificationType → String
  | .eventPublished => "EVENT_PUBLISHED"
  | .eventCancelled => "EVENT_CANCELLED"
  | .sessionReminder => "SESSION_REMINDER"
  | .communityPostMention => "COMMUNITY_POST_MENTION"
  | .communityPostReply => "COMMUNITY_POST_REPLY"
  | .communityMeetupCreated => "COMMUNITY_MEETUP_CREATED"
  | .communityMeetupReminder => "COMMUNITY_MEETUP_REMINDER"
  | .communityMemberAction => "COMMUNITY_MEMBER_ACTION"
  | .communityModerationAction => "COMMUNITY_MODERATION_ACTION"
  | .chatMessage => "CHAT_MESSAGE"
  | .securityEmailVerification => "SECURITY_EMAIL_VERIFICATION"
  | .securityPasswordReset => "SECURITY_PASSWORD_RESET"
  | .accountApproved => "ACCOUNT_APPROVED"
  | .accountRejected => "ACCOUNT_REJECTED"
  | .accountSuspended => "ACCOUNT_SUSPENDED"
  | .organizerInvitationCreated => "ORGANIZER_INVITATION_CREATED"
  | .organizerInvitationAccepted => "ORGANIZER_INVITATION_ACCEPTED"
  | .rfqSent => "RFQ_SENT"
  | .rfqViewed => "RFQ_VIEWED"
  | .rfqClarificationRequested => "RFQ_CLARIFICATION_REQUESTED"
  | .rfqQuoted => "RFQ_QUOTED"
  | .rfqAccepted => "RFQ_ACCEPTED"
  | .rfqRejected => "RFQ_REJECTED"
  | .rfqCancelled => "RFQ_CANCELLED"
  | .rfqExpired => "RFQ_EXPIRED"
  | .c2bBookingRequested => "C2B_BOOKING_REQUESTED"
  | .c2bBookingStatusChanged => "C2B_BOOKING_STATUS_CHANGED"
  | .sponsorAdSubmitted => "SPONSOR_AD_SUBMITTED"
  | .sponsorAdApproved => "SPONSOR_AD_APPROVED"
  | .sponsorAdRejected => "SPONSOR_AD_REJECTED"
  | .couponRedeemed => "COUPON_REDEEMED"
  | .communitySponsorshipPaid => "COMMUNITY_SPONSORSHIP_PAID"
  | .communitySponsorshipActivated => "COMMUNITY_SPONSORSHIP_ACTIVATED"
  | .communitySponsorshipExpired => "COMMUNITY_SPONSORSHIP_EXPIRED"
  | .subscriptionActivated => "SUBSCRIPTION_ACTIVATED"
  | .subscriptionRenewed => "SUBSCRIPTION_RENEWED"
  | .subscriptionPaymentFailed => "SUBSCRIPTION_PAYMENT_FAILED"
  | .subscriptionCancelled => "SUBSCRIPTION_CANCELLED"
  | .paymentRefunded => "PAYMENT_REFUNDED"

instance : Row Notification := ⟨Notification.id, [Notification.idempotencyKey]⟩
instance : Row NotificationPreference :=
  ⟨NotificationPreference.id,
    [fun p ↦ some s!"{typeText p.type}:{channelText p.channel}:{p.userId}"]⟩
instance : Row CommunityPost := ⟨CommunityPost.id, []⟩
instance : Row EventRegistration := ⟨EventRegistration.id, []⟩

inductive QueueName
  | email | notifications
  deriving DecidableEq, Repr

/-- A job of the delivery queues. -/
inductive Job
  | deliverNotification (notificationId : String) (attemptNumber : ℕ)
  | deliverEmail (notificationId : String) (attemptNumber : ℕ)
  | sendOrganizerInvitation (recipient eventName inviterName invitationLink expiresAt : JsValue)

/-- The notification a job delivers. -/
def Job.notificationId? : Job → Option String
  | deliverNotification id _ | deliverEmail id _ => some id
  | sendOrganizerInvitation .. => none

/-- The tables that notifications work on, the queues that could be initialised and
every job that was added to one of them. -/
structure Platform extends Db where
  communityPosts : Table CommunityPost
  eventRegistrations : Table EventRegistration
  notificationPreferences : Table NotificationPreference
  notifications : Table Notification
  openQueues : List QueueName
  jobs : List (QueueName × Job)

def Platform.empty : Platform :=
  { Db.empty with
    communityPosts := .empty
    eventRegistrations := .empty
    notificationPreferences := .empty
    notifications := .empty
    openQueues := [.email, .notifications]
    jobs := [] }

/-- What one statement of a handler takes from its surroundings: the clock, the failure
it runs into and the id that the database generates for a new notification. -/
structure HandlerEnv where
  now : Time
  fault : Option String
  newId : Table Notification → String

/-- A handler of outbox events. What it throws is kept as the text of the error. -/
abbrev Handler (α : Type) := Call String HandlerEnv Platform String α

section Statements

variable {α : Type}

/-- A statement that reads. -/
def reads (name : String) (f : Platform → Except String α) : Handler α :=
  .ask name fun env s ↦ env.fault.elim (f s) .error

/-- A statement that writes: it fails with the failure it runs into, or on its own. -/
def writes (name : String) (f : HandlerEnv → Platform → Except String (Platform × α)) : Handler α :=
  .perform name fun env s ↦ env.fault.elim (f env s) .error

end Statements

end Innovents.Notifications
