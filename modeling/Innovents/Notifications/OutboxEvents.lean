import Innovents.Notifications.Orchestrator

namespace Innovents.Notifications

open Innovents.Lib Innovents.Payments

structure RawOutboxRecord where
  id : String
  eventType : String
  aggregateType : String
  aggregateId : String
  payload : JsValue
  attempts : ℕ

/-- The columns of an event that the processor selects. -/
def rawRecord (e : OutboxEvent) : RawOutboxRecord :=
  ⟨e.id, e.eventType, e.aggregateType, e.aggregateId, e.payload, e.attempts⟩

/-- The events that are not ignored. -/
inductive HandledEvent
  | communityMentionCreated | communityPostReplyCreated | communityMeetupCreated
  | eventCancelled
  | passwordChanged | accountApproved | accountRejected | accountSuspended
  | organizerInvitationCreated | organizerInvitationAccepted
  | rfqSent | rfqViewed | rfqClarificationRequested | rfqQuoted | rfqAccepted | rfqRejected
  | rfqCancelled | rfqExpired
  | c2bBookingRequested | c2bBookingStatusChanged
  | sponsorAdSubmitted | sponsorAdApproved | sponsorAdRejected
  | couponRedeemed
  | communitySponsorshipPaid | communitySponsorshipActivated | communitySponsorshipExpired
  | subscriptionActivated | subscriptionRenewed | subscriptionPaymentFailed
  | subscriptionCancelled
  | paymentRefunded
  deriving DecidableEq, Repr

/-- The `switch` over the event type. -/
def handledEvent : String → Option HandledEvent
  | "COMMUNITY_MENTION_CREATED" => some .communityMentionCreated
  | "COMMUNITY_POST_REPLY_CREATED" => some .communityPostReplyCreated
  | "COMMUNITY_MEETUP_CREATED" => some .communityMeetupCreated
  | "EVENT_CANCELLED" => some .eventCancelled
  | "PASSWORD_CHANGED" => some .passwordChanged
  | "ACCOUNT_APPROVED" => some .accountApproved
  | "ACCOUNT_REJECTED" => some .accountRejected
  | "ACCOUNT_SUSPENDED" | "ACCOUNT_LOCKED" | "USER_SUSPENDED" => some .accountSuspended
  | "ORGANIZER_INVITATION_CREATED" => some .organizerInvitationCreated
  | "ORGANIZER_INVITATION_ACCEPTED" => some .organizerInvitationAccepted
  | "RFQ_SENT" => some .rfqSent
  | "RFQ_VIEWED" => some .rfqViewed
  | "RFQ_CLARIFICATION_REQUESTED" => some .rfqClarificationRequested
  | "RFQ_QUOTED" => some .rfqQuoted
  | "RFQ_ACCEPTED" => some .rfqAccepted
  | "RFQ_REJECTED" => some .rfqRejected
  | "RFQ_CANCELLED" => some .rfqCancelled
  | "RFQ_EXPIRED" => some .rfqExpired
  | "C2B_BOOKING_REQUESTED" => some .c2bBookingRequested
  | "C2B_BOOKING_STATUS_CHANGED" => some .c2bBookingStatusChanged
  | "SPONSOR_AD_SUBMITTED" => some .sponsorAdSubmitted
  | "SPONSOR_AD_APPROVED" => some .sponsorAdApproved
  | "SPONSOR_AD_REJECTED" => some .sponsorAdRejected
  | "COUPON_REDEEMED" => some .couponRedeemed
  | "COMMUNITY_SPONSORSHIP_PAID" => some .communitySponsorshipPaid
  | "COMMUNITY_SPONSORSHIP_ACTIVATED" => some .communitySponsorshipActivated
  | "COMMUNITY_SPONSORSHIP_EXPIRED" => some .communitySponsorshipExpired
  | "SUBSCRIPTION_ACTIVATED" => some .subscriptionActivated
  | "SUBSCRIPTION_RENEWED" => some .subscriptionRenewed
  | "SUBSCRIPTION_PAYMENT_FAILED" => some .subscriptionPaymentFailed
  | "SUBSCRIPTION_CANCELLED" => some .subscriptionCancelled
  | "PAYMENT_REFUNDED" => some .paymentRefunded
  | _ => none

/-- What a branch of the `switch` tells a recipient. The idempotency key is the scope and
two more parts, one of which is mostly the recipient. -/
structure Notice where
  type : NotificationType
  title : String
  body : List JsValue
  scope : String
  parts : String → String × String

def Notice.key (n : Notice) (userId : String) : String :=
  s!"{n.scope}:{(n.parts userId).1}:{(n.parts userId).2}"

/-- `text.slice(0, n)`, which counts UTF-16 units; a pair that would be cut is left out. -/
def sliceUtf16 : ℕ → List Char → List Char
  | _, [] => []
  | n, c :: cs =>
    let units := if c.val < 0x10000 then 1 else 2
    if units ≤ n then c :: sliceUtf16 (n - units) cs else []

def sliced (n : ℕ) : JsValue → JsValue
  | .str s => .str (String.ofList (sliceUtf16 n s.toList))
  | v => v

namespace HandledEvent

variable (event : RawOutboxRecord)

/-- `payload.k || fallback` -/
def field (k : String) (fallback : JsValue) : JsValue :=
  ((event.payload.or (.obj [])).get k).or fallback

/-- Whom an event is for, if its payload says so. -/
def addressee : HandledEvent → JsValue
  | communityMentionCreated => field event "mentionedUserId" .undefined
  | passwordChanged => field event "userId" .undefined
  | accountApproved | accountRejected | accountSuspended =>
    field event "userId" (.str event.aggregateId)
  | organizerInvitationAccepted => field event "eventOwnerId" .undefined
  | rfqSent | rfqAccepted | rfqCancelled | rfqExpired => field event "vendorId" .undefined
  | rfqViewed | rfqQuoted => field event "sponsorId" .undefined
  | rfqClarificationRequested => field event "recipientId" .undefined
  | rfqRejected => field event "vendorId" (field event "sponsorId" .undefined)
  | c2bBookingRequested | couponRedeemed => field event "providerId" .undefined
  | c2bBookingStatusChanged => field event "attendeeId" .undefined
  | sponsorAdSubmitted => field event "adminId" .undefined
  | sponsorAdApproved | sponsorAdRejected => field event "sponsorId" .undefined
  | communitySponsorshipPaid | communitySponsorshipActivated | communitySponsorshipExpired
  | subscriptionActivated | subscriptionRenewed | subscriptionPaymentFailed
  | subscriptionCancelled | paymentRefunded => field event "userId" .undefined
  -- these find their recipients in the tables, or send an email
  | communityPostReplyCreated | communityMeetupCreated | eventCancelled
  | organizerInvitationCreated => .undefined

def notice : HandledEvent → Notice
  | communityMentionCreated =>
    ⟨.communityPostMention, "New Mention",
      [field event "actorName" (.str "A member"), .str " mentioned you in a community post"],
      "community-mention", fun userId ↦ (event.aggregateId, userId)⟩
  | communityPostReplyCreated =>
    ⟨.communityPostReply, "New Reply to Your Post",
      [.str "Someone replied to your community post"],
      "community-reply", fun userId ↦ (event.aggregateId, userId)⟩
  | communityMeetupCreated =>
    ⟨.communityMeetupCreated, "New Community Meetup",
      [.str "A new meetup \"", field event "title" (.str "New Meetup"),
        .str "\" has been scheduled in your community"],
      "community-meetup", fun userId ↦ (event.aggregateId, userId)⟩
  | eventCancelled =>
    ⟨.eventCancelled, "Event Cancelled",
      [.str "The event \"", field event "name" (.str "Event"),
        .str "\" has been cancelled by organizers"],
      "event-cancelled", fun userId ↦ (event.aggregateId, userId)⟩
  | passwordChanged =>
    ⟨.securityPasswordReset, "Password Changed",
      [.str "Your account password was recently updated"],
      "security:password-changed", fun userId ↦ (userId, event.id)⟩
  | accountApproved =>
    ⟨.accountApproved, "Account Approved",
      [.str "Your business account application has been reviewed and approved"],
      "account-approved", fun userId ↦ (userId, event.id)⟩
  | accountRejected =>
    ⟨.accountRejected, "Account Application Rejected",
      [.str "Your business account application was not approved: ",
        field event "reason" (.str "Application requirements not met")],
      "account-rejected", fun userId ↦ (userId, event.id)⟩
  | accountSuspended =>
    ⟨.accountSuspended, "Account Suspended",
      [.str "Your account has been suspended: ",
        field event "reason" (.str "Security or platform policy violations")],
      "security:account-suspended", fun userId ↦ (userId, event.id)⟩
  | organizerInvitationCreated =>
    -- the invitation goes out as an email without a notification
    ⟨.organizerInvitationCreated, "", [], "", fun userId ↦ (event.aggregateId, userId)⟩
  | organizerInvitationAccepted =>
    ⟨.organizerInvitationAccepted, "Organizer Invitation Accepted",
      [field event "organizerEmail" (.str "An organizer"),
        .str " accepted your invitation to organize \"", field event "eventName" (.str "Event"),
        .str "\""],
      "organizer-invitation-accepted", fun userId ↦ (event.aggregateId, userId)⟩
  | rfqSent =>
    ⟨.rfqSent, "New RFQ Received",
      [.str "You have received a new request for quotation: \"",
        field event "title" (.str "New RFQ"), .str "\""],
      "rfq-sent", fun userId ↦ (event.aggregateId, userId)⟩
  | rfqViewed =>
    ⟨.rfqViewed, "RFQ Viewed", [.str "The vendor has opened and viewed your RFQ"],
      "rfq-viewed", fun userId ↦ (event.aggregateId, userId)⟩
  | rfqClarificationRequested =>
    ⟨.rfqClarificationRequested, "RFQ Clarification Inquiry",
      [.str "New message on RFQ: ",
        sliced 100 (field event "message" (.str "New clarification message"))],
      "rfq-clarification", fun userId ↦ (event.id, userId)⟩
  | rfqQuoted =>
    ⟨.rfqQuoted, "New Quotation Received",
      [.str "Quotation v", field event "version" (.num 1), .str " submitted for your RFQ: ",
        field event "total" (.num 0), .str " ", field event "currency" (.str "SAR")],
      "rfq-quoted", fun userId ↦ (event.aggregateId, userId)⟩
  | rfqAccepted =>
    ⟨.rfqAccepted, "Quotation Accepted!",
      [.str "Your quotation of ", field event "total" (.num 0), .str " ",
        field event "currency" (.str "SAR"), .str " has been accepted by the sponsor"],
      "rfq-accepted", fun userId ↦ (event.aggregateId, userId)⟩
  | rfqRejected =>
    ⟨.rfqRejected, "Quotation / RFQ Rejected",
      [.str "Proposal was not accepted: ", field event "reason" (.str "No reason provided")],
      "rfq-rejected", fun userId ↦ (event.aggregateId, userId)⟩
  | rfqCancelled =>
    ⟨.rfqCancelled, "RFQ Cancelled",
      [.str "The RFQ was cancelled: ", field event "reason" (.str "Cancelled by sponsor")],
      "rfq-cancelled", fun userId ↦ (event.aggregateId, userId)⟩
  | rfqExpired =>
    ⟨.rfqExpired, "RFQ Expired", [.str "The RFQ validity window has ended"],
      "rfq-expired", fun userId ↦ (event.aggregateId, userId)⟩
  | c2bBookingRequested =>
    ⟨.c2bBookingRequested, "New Booking Request",
      [.str "You have received a new booking request for \"",
        field event "serviceName" (.str "Service"), .str "\""],
      "c2b-booking-req", fun userId ↦ (event.aggregateId, userId)⟩
  | c2bBookingStatusChanged =>
    let status := field event "status" (.str "UPDATED")
    ⟨.c2bBookingStatusChanged, "Booking Request Updated",
      [.str "Your booking request for \"", field event "serviceName" (.str "Service"),
        .str "\" is now ", status],
      -- a status is text
      "c2b-booking-status", fun _ ↦ (event.aggregateId, status.asStr?.getD "")⟩
  | sponsorAdSubmitted =>
    ⟨.sponsorAdSubmitted, "Sponsor Ad Submitted for Review",
      [.str "New ad \"", field event "title" (.str "Sponsor Ad"),
        .str "\" submitted and awaiting moderation"],
      "sponsor-ad-submitted", fun userId ↦ (event.aggregateId, userId)⟩
  | sponsorAdApproved =>
    ⟨.sponsorAdApproved, "Sponsor Ad Approved",
      [.str "Your ad \"", field event "title" (.str "Sponsor Ad"),
        .str "\" has been approved for publication"],
      "sponsor-ad-approved", fun userId ↦ (event.aggregateId, userId)⟩
  | sponsorAdRejected =>
    ⟨.sponsorAdRejected, "Sponsor Ad Rejected",
      [.str "Your ad \"", field event "title" (.str "Sponsor Ad"), .str "\" was not approved: ",
        field event "reason" (.str "Policy violation")],
      "sponsor-ad-rejected", fun userId ↦ (event.aggregateId, userId)⟩
  | couponRedeemed =>
    ⟨.couponRedeemed, "Coupon Redeemed",
      [.str "Promotional coupon \"", field event "code" (.str "Coupon"), .str "\" was redeemed"],
      "coupon-redeemed", fun userId ↦ (event.aggregateId, userId)⟩
  | communitySponsorshipPaid =>
    ⟨.communitySponsorshipPaid, "Sponsorship Payment Received",
      [.str "Payment received for sponsoring \"",
        field event "communityName" (.str "Community"), .str "\""],
      "sponsorship-paid", fun userId ↦ (event.aggregateId, userId)⟩
  | communitySponsorshipActivated =>
    ⟨.communitySponsorshipActivated, "Community Sponsorship Activated",
      [.str "Community \"", field event "communityName" (.str "Community"),
        .str "\" is now active and sponsored"],
      "sponsorship-activated", fun userId ↦ (event.aggregateId, userId)⟩
  | communitySponsorshipExpired =>
    ⟨.communitySponsorshipExpired, "Community Sponsorship Expired",
      [.str "The sponsorship period for \"", field event "communityName" (.str "Community"),
        .str "\" has expired"],
      "sponsorship-expired", fun userId ↦ (event.aggregateId, userId)⟩
  | subscriptionActivated =>
    ⟨.subscriptionActivated, "Subscription Activated",
      [.str "Your \"", field event "planName" (.str "Subscription"),
        .str "\" subscription is now active"],
      "sub-activated", fun userId ↦ (event.aggregateId, userId)⟩
  | subscriptionRenewed =>
    ⟨.subscriptionRenewed, "Subscription Renewed",
      [.str "Your \"", field event "planName" (.str "Subscription"),
        .str "\" subscription has renewed successfully"],
      "sub-renewed", fun userId ↦ (event.aggregateId, userId)⟩
  | subscriptionPaymentFailed =>
    ⟨.subscriptionPaymentFailed, "Subscription Payment Failed",
      [.str "Renewal payment failed for \"", field event "planName" (.str "Subscription"),
        .str "\". Please update your billing method"],
      "sub-failed", fun userId ↦ (event.aggregateId, userId)⟩
  | subscriptionCancelled =>
    ⟨.subscriptionCancelled, "Subscription Cancelled",
      [.str "Your subscription \"", field event "planName" (.str "Subscription"),
        .str "\" has been cancelled"],
      "sub-cancelled", fun userId ↦ (event.aggregateId, userId)⟩
  | paymentRefunded =>
    ⟨.paymentRefunded, "Payment Refunded",
      [.str "A refund of ", field event "amount" (.str "0"), .str " ",
        field event "currency" (.str "SAR"), .str " has been processed"],
      "payment-refunded", fun userId ↦ (event.aggregateId, userId)⟩

/-- What the orchestrator is asked to tell a user about the event. -/
def notificationFor (h : HandledEvent) (userId : String) : OrchestrateNotificationParams where
  userId
  type := (h.notice event).type
  title := (h.notice event).title
  body := (h.notice event).body
  data := event.payload.or (.obj [])
  idempotencyKey := some ((h.notice event).key userId)
  channels := none
  expiresAt := none

end HandledEvent

namespace OutboxProcessor

open HandledEvent NotificationOrchestratorService NotificationFanoutService QueueService

variable (event : RawOutboxRecord)

/-- Tell one user, if the payload names one. Ids are text: another value that is truthy
would be refused by the first statement that uses it. -/
def notifyOne (h : HandledEvent) (recipient : JsValue) : Handler Unit :=
  if recipient.truthy then
    match recipient.asStr? with
    | some userId => do
      let _ ← orchestrate (h.notificationFor event userId)
      return ()
    | none => .returned (.error "Invalid value provided")
  else pure ()

def findPost (postId : JsValue) (s : Platform) : Except String (Option CommunityPost) :=
  match postId.asStr? with
  | some id => .ok (s.communityPosts.get? id)
  | none => .error "Invalid value provided"

def handleReply : Handler Unit := do
  let postId := field event "postId" .undefined
  let replierId := (event.payload.or (.obj [])).get "authorId"
  if postId.truthy then
    match ← reads "communityPost.findUnique" (findPost postId) with
    | some post =>
      -- no self-replies
      if replierId.isStr post.authorId then return ()
      else notifyOne event .communityPostReplyCreated (.str post.authorId)
    | none => return ()
  else return ()

/-- `userId: { not: creatorId }`: an undefined filter value leaves the filter out. -/
def otherThan : JsValue → Except String (String → Bool)
  | .undefined => .ok fun _ ↦ true
  | .str creatorId => .ok (· != creatorId)
  | _ => .error "Invalid value provided"

def findMembers (communityId creatorId : JsValue) (s : Platform) : Except String (List String) :=
  match communityId.asStr?, otherThan creatorId with
  | some id, .ok other =>
    .ok ((s.communityMembers.rows.filter fun m ↦
      m.communityId == id && m.status == .active && other m.userId).map CommunityMember.userId)
  | _, _ => .error "Invalid value provided"

def handleMeetup : Handler Unit := do
  let communityId := field event "communityId" .undefined
  let creatorId := (event.payload.or (.obj [])).get "createdById"
  if communityId.truthy then
    let userIds ← reads "communityMember.findMany" (findMembers communityId creatorId)
    let _ ← fanoutToUsers (communityMeetupCreated.notificationFor event) userIds
    return ()
  else return ()

def findRegistered (eventId : String) (s : Platform) : List String :=
  (s.eventRegistrations.rows.filter fun r ↦
    r.eventId == eventId && r.status == .registered).map EventRegistration.userId

def handleCancellation : Handler Unit := do
  let userIds ← reads "eventRegistration.findMany" fun s ↦ .ok (findRegistered event.aggregateId s)
  let _ ← fanoutToUsers (eventCancelled.notificationFor event) userIds
  return ()

def handleInvitation : Handler Unit :=
  let email := field event "email" .undefined
  if email.truthy then
    addJob .email (.sendOrganizerInvitation email (field event "eventName" (.str "Event"))
      (field event "inviterName" (.str "Event Owner")) (field event "invitationLink" (.str ""))
      (field event "expiresAt" (.str "")))
  else pure ()

def handleEvent : Handler Unit :=
  match handledEvent event.eventType with
  | none => pure ()
  | some .communityPostReplyCreated => handleReply event
  | some .communityMeetupCreated => handleMeetup event
  | some .eventCancelled => handleCancellation event
  | some .organizerInvitationCreated => handleInvitation event
  | some h => notifyOne event h (h.addressee event)

end OutboxProcessor

end Innovents.Notifications
