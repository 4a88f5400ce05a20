import Innovents.Notifications.Recipients

namespace Innovents.Notifications

open Innovents.Lib Innovents.Payments

inductive C2bBookingStatus
  | pending | confirmed | rejected | cancelled | completed
  deriving DecidableEq, Repr

def bookingStatusText : C2bBookingStatus → String
  | .pending => "PENDING"
  | .confirmed => "CONFIRMED"
  | .rejected => "REJECTED"
  | .cancelled => "CANCELLED"
  | .completed => "COMPLETED"

/-- The types of the events that services enqueue and nobody is told about. -/
def unroutedTypes : List String :=
  ["USER_ACTIVATED", "USER_REACTIVATED", "USER_DEACTIVATED", "EMAIL_VERIFICATION_REQUESTED",
    "PASSWORD_RESET_REQUESTED", "ACCOUNT_REACTIVATED", "ACCOUNT_REOPENED", "EVENT_CREATED",
    "EVENT_UPDATED", "EVENT_PUBLISHED", "EVENT_DELETED", "EVENT_REGISTRATION_CREATED",
    "EVENT_REGISTRATION_CANCELLED", "SESSION_CREATED", "SESSION_UPDATED", "SESSION_DELETED",
    "SESSION_ORDER_UPDATED", "SESSION_REMINDER_SCHEDULED", "COMMUNITY_CREATED",
    "COMMUNITY_UPDATED", "COMMUNITY_DELETED", "COMMUNITY_MEMBER_JOINED", "COMMUNITY_MEMBER_LEFT",
    "COMMUNITY_MEMBER_ROLE_UPDATED", "COMMUNITY_MEMBER_BANNED", "COMMUNITY_MEMBER_UNBANNED",
    "COMMUNITY_POST_CREATED", "COMMUNITY_POST_DELETED", "COMMUNITY_POST_PINNED",
    "COMMUNITY_POST_UNPINNED", "COMMUNITY_POST_LIKED", "COMMUNITY_POST_UNLIKED",
    "COMMUNITY_MEETUP_JOINED", "COMMUNITY_MEETUP_LEFT", "COMMUNITY_MEETUP_STATUS_UPDATED"]

/-- The places that enqueue an event, with the values they put into it. -/
inductive Enqueued
  | rfqSent (rfqId sponsorId vendorId title expiresAt : String)
  | rfqViewed (rfqId sponsorId vendorId : String)
  /-- `getRfqDetails` finds the RFQ past its expiration. -/
  | rfqFoundExpired (rfqId sponsorId vendorId : String)
  /-- `RfqExpirationService`. -/
  | rfqExpired (rfqId sponsorId vendorId title expiredAt : String)
  | clarificationRequested (rfqId senderId recipientId message : String)
  | rfqCancelled (rfqId sponsorId vendorId : String) (reason : Option String)
  /-- The vendor rejects the RFQ. -/
  | rfqRejected (rfqId sponsorId vendorId : String) (reason : Option String)
  | quotationCreated (quotationId rfqId vendorId sponsorId : String) (version total : ℚ)
      (currency validUntil : String)
  | quotationAccepted (quotationId rfqId sponsorId vendorId : String) (total : ℚ)
      (currency : String)
  /-- The sponsor rejects the quotation. -/
  | quotationRejected (quotationId rfqId sponsorId vendorId : String) (reason : Option String)
  | userSuspended (userId reason adminUserId : String)
  | accountApproved (userId email : String) (roles : List String) (approvedAt : String)
  | accountRejected (userId email reason : String) (roles : List String) (rejectedAt : String)
  | accountSuspended (userId email reason : String) (roles : List String) (suspendedAt : String)
  | organizerInvitationCreated
      (invitationId email eventId eventName inviterName invitationLink expiresAt : String)
  | organizerInvitationAccepted
      (invitationId eventId eventName eventOwnerId organizerEmail acceptedAt : String)
  | bookingRequested (bookingId providerId attendeeId serviceName : String)
      (requestedDate : Option String)
  | bookingUpdated (bookingId attendeeId : String) (status : C2bBookingStatus)
      (serviceName : String) (providerNotes : Option String)
  | bookingCancelled (bookingId attendeeId serviceName : String)
  | couponRedeemed (couponId redemptionId providerId attendeeId code : String)
  | eventCancelled (eventId cancelledBy : String)
  | mentionedInPost (postId communityId actorId mentionedUserId : String)
  | mentionedInReply (replyId postId communityId actorId mentionedUserId : String)
  | replyCreated (replyId postId communityId authorId : String) (parentReplyId : Option String)
  | meetupCreated (meetupId communityId eventId creatorId title : String)
  | adSubmitted (adId sponsorId title : String)
  | adApproved (adId sponsorId title : String)
  | adRejected (adId sponsorId title reason : String)
  | sponsorshipPaid (sponsorshipId userId communityId : String) (amount : ℚ) (currency : String)
  | sponsorshipActivated (sponsorshipId userId communityId : String) (memberCapacity : ℚ)
      (endsAt : String)
  | sponsorshipExpired (sponsorshipId userId communityId communityName : String)
  | subscriptionActivated (subscriptionId userId planName : String) (amount : ℚ)
      (currency : String)
  | subscriptionRenewed (subscriptionId userId planName : String) (amount : ℚ) (currency : String)
  | subscriptionPaymentFailed (subscriptionId userId planName : String)
  /-- The provider deletes the subscription. -/
  | subscriptionDeleted (subscriptionId userId planName : String)
  /-- The user or an admin cancels the subscription at once. -/
  | subscriptionCancelled (subscriptionId userId planName : String) (reason : Option String)
  | chargeRefunded (paymentId userId : String) (amount : ℚ) (currency : String)
  | paymentRefunded (paymentId userId : String) (amount : ℚ) (currency : String)
      (reason : Option String)
  | unrouted (eventType aggregateType aggregateId : String) (payload : JsValue)
      (known : eventType ∈ unroutedTypes)

namespace Enqueued

def texts (fields : List (String × String)) : List (String × JsValue) :=
  fields.map fun (k, v) ↦ (k, .str v)

def orNull : Option String → JsValue
  | some s => .str s
  | none => .null

/-- A field that the document leaves out when it is undefined. -/
def optionalText (k : String) : Option String → List (String × JsValue)
  | some s => [(k, .str s)]
  | none => []

def textList (items : List String) : JsValue := .arr (items.map .str)

/-- The row that is enqueued, as the processor selects it. -/
def record (id : String) (attempts : ℕ) : Enqueued → RawOutboxRecord
  | rfqSent rfqId sponsorId vendorId title expiresAt =>
    ⟨id, "RFQ_SENT", "rfq", rfqId, .obj (texts [("rfqId", rfqId), ("sponsorId", sponsorId),
      ("vendorId", vendorId), ("title", title), ("expiresAt", expiresAt)]), attempts⟩
  | rfqViewed rfqId sponsorId vendorId =>
    ⟨id, "RFQ_VIEWED", "rfq", rfqId, .obj (texts [("rfqId", rfqId), ("sponsorId", sponsorId),
      ("vendorId", vendorId)]), attempts⟩
  | rfqFoundExpired rfqId sponsorId vendorId =>
    ⟨id, "RFQ_EXPIRED", "rfq", rfqId, .obj (texts [("rfqId", rfqId), ("sponsorId", sponsorId),
      ("vendorId", vendorId)]), attempts⟩
  | rfqExpired rfqId sponsorId vendorId title expiredAt =>
    ⟨id, "RFQ_EXPIRED", "rfq", rfqId, .obj (texts [("rfqId", rfqId), ("sponsorId", sponsorId),
      ("vendorId", vendorId), ("title", title), ("expiredAt", expiredAt)]), attempts⟩
  | clarificationRequested rfqId senderId recipientId message =>
    ⟨id, "RFQ_CLARIFICATION_REQUESTED", "rfq", rfqId, .obj (texts [("rfqId", rfqId),
      ("senderId", senderId), ("recipientId", recipientId), ("message", message)]), attempts⟩
  | rfqCancelled rfqId sponsorId vendorId reason =>
    ⟨id, "RFQ_CANCELLED", "rfq", rfqId, .obj (texts [("rfqId", rfqId), ("sponsorId", sponsorId),
      ("vendorId", vendorId)] ++ [("reason", orNull reason)]), attempts⟩
  | rfqRejected rfqId sponsorId vendorId reason =>
    ⟨id, "RFQ_REJECTED", "rfq", rfqId, .obj (texts [("rfqId", rfqId), ("sponsorId", sponsorId),
      ("vendorId", vendorId)] ++ [("reason", orNull reason)]), attempts⟩
  | quotationCreated quotationId rfqId vendorId sponsorId version total currency validUntil =>
    ⟨id, "RFQ_QUOTED", "quotation", quotationId, .obj (texts [("quotationId", quotationId),
      ("rfqId", rfqId), ("vendorId", vendorId), ("sponsorId", sponsorId)] ++
      [("version", .num version), ("total", .num total)] ++
      texts [("currency", currency), ("validUntil", validUntil)]), attempts⟩
  | quotationAccepted quotationId rfqId sponsorId vendorId total currency =>
    ⟨id, "RFQ_ACCEPTED", "quotation", quotationId, .obj (texts [("quotationId", quotationId),
      ("rfqId", rfqId), ("sponsorId", sponsorId), ("vendorId", vendorId)] ++
      [("total", .num total), ("currency", .str currency)]), attempts⟩
  | quotationRejected quotationId rfqId sponsorId vendorId reason =>
    ⟨id, "RFQ_REJECTED", "quotation", quotationId, .obj (texts [("quotationId", quotationId),
      ("rfqId", rfqId), ("sponsorId", sponsorId), ("vendorId", vendorId)] ++
      [("reason", orNull reason)]), attempts⟩
  | userSuspended userId reason adminUserId =>
    ⟨id, "USER_SUSPENDED", "USER", userId, .obj (texts [("userId", userId), ("reason", reason),
      ("adminUserId", adminUserId)]), attempts⟩
  | accountApproved userId email roles approvedAt =>
    ⟨id, "ACCOUNT_APPROVED", "User", userId, .obj (texts [("userId", userId), ("email", email)] ++
      [("roles", textList roles), ("approvedAt", .str approvedAt)]), attempts⟩
  | accountRejected userId email reason roles rejectedAt =>
    ⟨id, "ACCOUNT_REJECTED", "User", userId, .obj (texts [("userId", userId), ("email", email),
      ("reason", reason)] ++ [("roles", textList roles), ("rejectedAt", .str rejectedAt)]),
      attempts⟩
  | accountSuspended userId email reason roles suspendedAt =>
    ⟨id, "ACCOUNT_SUSPENDED", "User", userId, .obj (texts [("userId", userId), ("email", email),
      ("reason", reason)] ++ [("roles", textList roles), ("suspendedAt", .str suspendedAt)]),
      attempts⟩
  | organizerInvitationCreated invitationId email eventId eventName inviterName invitationLink
      expiresAt =>
    ⟨id, "ORGANIZER_INVITATION_CREATED", "OrganizerInvitation", invitationId,
      .obj (texts [("invitationId", invitationId), ("email", email), ("eventId", eventId),
        ("eventName", eventName), ("inviterName", inviterName),
        ("invitationLink", invitationLink), ("expiresAt", expiresAt)]), attempts⟩
  | organizerInvitationAccepted invitationId eventId eventName eventOwnerId organizerEmail
      acceptedAt =>
    ⟨id, "ORGANIZER_INVITATION_ACCEPTED", "OrganizerInvitation", invitationId,
      .obj (texts [("invitationId", invitationId), ("eventId", eventId),
        ("eventName", eventName), ("eventOwnerId", eventOwnerId),
        ("organizerEmail", organizerEmail), ("acceptedAt", acceptedAt)]), attempts⟩
  | bookingRequested bookingId providerId attendeeId serviceName requestedDate =>
    ⟨id, "C2B_BOOKING_REQUESTED", "c2b_booking", bookingId, .obj (texts [("bookingId", bookingId),
      ("providerId", providerId), ("attendeeId", attendeeId), ("serviceName", serviceName)] ++
      optionalText "requestedDate" requestedDate), attempts⟩
  | bookingUpdated bookingId attendeeId status serviceName providerNotes =>
    ⟨id, "C2B_BOOKING_STATUS_CHANGED", "c2b_booking", bookingId,
      .obj (texts [("bookingId", bookingId), ("attendeeId", attendeeId),
        ("status", bookingStatusText status), ("serviceName", serviceName)] ++
        optionalText "providerNotes" providerNotes), attempts⟩
  | bookingCancelled bookingId attendeeId serviceName =>
    ⟨id, "C2B_BOOKING_STATUS_CHANGED", "c2b_booking", bookingId,
      .obj (texts [("bookingId", bookingId), ("attendeeId", attendeeId),
        ("status", bookingStatusText .cancelled), ("serviceName", serviceName)]), attempts⟩
  | couponRedeemed couponId redemptionId providerId attendeeId code =>
    ⟨id, "COUPON_REDEEMED", "coupon", couponId, .obj (texts [("redemptionId", redemptionId),
      ("providerId", providerId), ("attendeeId", attendeeId), ("code", code)]), attempts⟩
  | eventCancelled eventId cancelledBy =>
    ⟨id, "EVENT_CANCELLED", "event", eventId, .obj (texts [("eventId", eventId),
      ("cancelledBy", cancelledBy)]), attempts⟩
  | mentionedInPost postId communityId actorId mentionedUserId =>
    ⟨id, "COMMUNITY_MENTION_CREATED", "COMMUNITY_MENTION", s!"{postId}:{mentionedUserId}",
      .obj (texts [("communityId", communityId), ("postId", postId), ("actorId", actorId),
        ("mentionedUserId", mentionedUserId)]), attempts⟩
  | mentionedInReply replyId postId communityId actorId mentionedUserId =>
    ⟨id, "COMMUNITY_MENTION_CREATED", "COMMUNITY_MENTION", s!"{replyId}:{mentionedUserId}",
      .obj (texts [("communityId", communityId), ("postId", postId), ("replyId", replyId),
        ("actorId", actorId), ("mentionedUserId", mentionedUserId)]), attempts⟩
  | replyCreated replyId postId communityId authorId parentReplyId =>
    ⟨id, "COMMUNITY_POST_REPLY_CREATED", "COMMUNITY_POST_REPLY", replyId,
      .obj (texts [("replyId", replyId), ("postId", postId), ("communityId", communityId),
        ("authorId", authorId)] ++ [("parentReplyId", orNull parentReplyId)]), attempts⟩
  | meetupCreated meetupId communityId eventId creatorId title =>
    ⟨id, "COMMUNITY_MEETUP_CREATED", "COMMUNITY_MEETUP", meetupId,
      .obj (texts [("meetupId", meetupId), ("communityId", communityId), ("eventId", eventId),
        ("creatorId", creatorId), ("title", title)]), attempts⟩
  | adSubmitted adId sponsorId title =>
    ⟨id, "SPONSOR_AD_SUBMITTED", "sponsor_ad", adId, .obj (texts [("adId", adId),
      ("sponsorId", sponsorId), ("title", title)]), attempts⟩
  | adApproved adId sponsorId title =>
    ⟨id, "SPONSOR_AD_APPROVED", "sponsor_ad", adId, .obj (texts [("adId", adId),
      ("sponsorId", sponsorId), ("title", title)]), attempts⟩
  | adRejected adId sponsorId title reason =>
    ⟨id, "SPONSOR_AD_REJECTED", "sponsor_ad", adId, .obj (texts [("adId", adId),
      ("sponsorId", sponsorId), ("title", title), ("reason", reason)]), attempts⟩
  | sponsorshipPaid sponsorshipId userId communityId amount currency =>
    ⟨id, "COMMUNITY_SPONSORSHIP_PAID", "COMMUNITY_SPONSORSHIP", sponsorshipId,
      .obj (texts [("userId", userId), ("communityId", communityId)] ++
        [("amount", .num amount)] ++ texts [("currency", currency),
        ("sponsorshipId", sponsorshipId)]), attempts⟩
  | sponsorshipActivated sponsorshipId userId communityId memberCapacity endsAt =>
    ⟨id, "COMMUNITY_SPONSORSHIP_ACTIVATED", "COMMUNITY_SPONSORSHIP", sponsorshipId,
      .obj (texts [("userId", userId), ("communityId", communityId)] ++
        [("memberCapacity", .num memberCapacity)] ++ texts [("endsAt", endsAt),
        ("sponsorshipId", sponsorshipId)]), attempts⟩
  | sponsorshipExpired sponsorshipId userId communityId communityName =>
    ⟨id, "COMMUNITY_SPONSORSHIP_EXPIRED", "COMMUNITY_SPONSORSHIP", sponsorshipId,
      .obj (texts [("userId", userId), ("communityId", communityId),
        ("communityName", communityName), ("sponsorshipId", sponsorshipId)]), attempts⟩
  | subscriptionActivated subscriptionId userId planName amount currency =>
    ⟨id, "SUBSCRIPTION_ACTIVATED", "SUBSCRIPTION", subscriptionId,
      .obj (texts [("userId", userId), ("subscriptionId", subscriptionId),
        ("planName", planName)] ++ [("amount", .num amount), ("currency", .str currency)]),
      attempts⟩
  | subscriptionRenewed subscriptionId userId planName amount currency =>
    ⟨id, "SUBSCRIPTION_RENEWED", "SUBSCRIPTION", subscriptionId,
      .obj (texts [("userId", userId), ("subscriptionId", subscriptionId),
        ("planName", planName)] ++ [("amount", .num amount), ("currency", .str currency)]),
      attempts⟩
  | subscriptionPaymentFailed subscriptionId userId planName =>
    ⟨id, "SUBSCRIPTION_PAYMENT_FAILED", "SUBSCRIPTION", subscriptionId,
      .obj (texts [("userId", userId), ("subscriptionId", subscriptionId),
        ("planName", planName)]), attempts⟩
  | subscriptionDeleted subscriptionId userId planName =>
    ⟨id, "SUBSCRIPTION_CANCELLED", "SUBSCRIPTION", subscriptionId,
      .obj (texts [("userId", userId), ("subscriptionId", subscriptionId),
        ("planName", planName)]), attempts⟩
  | subscriptionCancelled subscriptionId userId planName reason =>
    ⟨id, "SUBSCRIPTION_CANCELLED", "SUBSCRIPTION", subscriptionId,
      .obj (texts [("userId", userId), ("subscriptionId", subscriptionId),
        ("planName", planName)] ++ optionalText "reason" reason), attempts⟩
  | chargeRefunded paymentId userId amount currency =>
    ⟨id, "PAYMENT_REFUNDED", "PAYMENT", paymentId, .obj (texts [("userId", userId),
      ("paymentId", paymentId)] ++ [("amount", .num amount), ("currency", .str currency)]),
      attempts⟩
  | paymentRefunded paymentId userId amount currency reason =>
    ⟨id, "PAYMENT_REFUNDED", "PAYMENT", paymentId, .obj (texts [("userId", userId),
      ("paymentId", paymentId)] ++ [("amount", .num amount), ("currency", .str currency)] ++
      optionalText "reason" reason), attempts⟩
  | unrouted eventType aggregateType aggregateId payload _ =>
    ⟨id, eventType, aggregateType, aggregateId, payload, attempts⟩

/-- The user whom the handler finds in the payload. -/
def target : Enqueued → Option String
  | rfqSent _ _ userId _ _ | rfqViewed _ userId _ | rfqFoundExpired _ _ userId
  | rfqExpired _ _ userId _ _ | clarificationRequested _ _ userId _ | rfqCancelled _ _ userId _
  | rfqRejected _ _ userId _ | quotationCreated _ _ _ userId _ _ _ _
  | quotationAccepted _ _ _ userId _ _ | quotationRejected _ _ _ userId _
  | userSuspended userId _ _ | accountApproved userId _ _ _ | accountRejected userId _ _ _ _
  | accountSuspended userId _ _ _ _ | organizerInvitationAccepted _ _ _ userId _ _
  | bookingRequested _ userId _ _ _ | bookingUpdated _ userId _ _ _ | bookingCancelled _ userId _
  | couponRedeemed _ _ userId _ _ | mentionedInPost _ _ _ userId | mentionedInReply _ _ _ _ userId
  | adApproved _ userId _ | adRejected _ userId _ _ | sponsorshipPaid _ userId _ _ _
  | sponsorshipActivated _ userId _ _ _ | sponsorshipExpired _ userId _ _
  | subscriptionActivated _ userId _ _ _ | subscriptionRenewed _ userId _ _ _
  | subscriptionPaymentFailed _ userId _ | subscriptionDeleted _ userId _
  | subscriptionCancelled _ userId _ _ | chargeRefunded _ userId _ _
  | paymentRefunded _ userId _ _ _ => some userId
  | organizerInvitationCreated .. | eventCancelled .. | replyCreated .. | meetupCreated ..
  | adSubmitted .. | unrouted .. => none

def activeMembers (communityId : String) (s : Platform) : List String :=
  (s.communityMembers.rows.filter fun m ↦
    m.communityId == communityId && m.status == .active).map CommunityMember.userId

/-- The author of the post, unless it is the one who replied. -/
def repliedTo (postId authorId : String) (s : Platform) : List String :=
  match s.communityPosts.get? postId with
  | some post => if authorId = post.authorId then [] else [post.authorId]
  | none => []

/-- The users whom the handler of the event tells. -/
def told (s : Platform) : Enqueued → List String
  | eventCancelled eventId _ => OutboxProcessor.findRegistered eventId s
  | replyCreated _ postId _ authorId _ => repliedTo postId authorId s
  | meetupCreated _ communityId _ _ _ => activeMembers communityId s
  | e => e.target.toList

/-- The ids that the handler takes from the payload. -/
def readIds : Enqueued → List String
  | replyCreated _ postId _ _ _ => [postId]
  | meetupCreated _ communityId _ _ _ => [communityId]
  | e => e.target.toList

section

open OutboxProcessor HandledEvent

variable {event : RawOutboxRecord} {fields : List (String × JsValue)} {k u : String}

theorem field_of_lookup (fallback : JsValue) (hp : event.payload = .obj fields)
    (hk : fields.lookup k = some (.str u)) (hu : u ≠ "") : field event k fallback = .str u := by
  rw [field, hp, JsValue.or_of_truthy _ (JsValue.truthy_obj fields), JsValue.get, hk]
  exact JsValue.or_of_truthy _ ((JsValue.truthy_str_iff u).mpr hu)

theorem addressed_str (hu : u ≠ "") : addressed (.str u) = .ok [u] := by
  rw [addressed, if_pos ((JsValue.truthy_str_iff u).mpr hu)]
  rfl

theorem recipients_of_addressee {h : HandledEvent} {s : Platform}
    (hr : recipients event s = addressed (h.addressee event)) (ha : h.addressee event = .str u)
    (hu : u ≠ "") : recipients event s = .ok [u] := by
  rw [hr, ha, addressed_str hu]

theorem handledEvent_unrouted : ∀ eventType ∈ unroutedTypes, handledEvent eventType = none := by
  decide

/-- What the handler finds in the payload of an event, as its producer has written it. -/
theorem recipients_record (e : Enqueued) (id : String) (n : ℕ) {s : Platform}
    (hids : ∀ x ∈ e.readIds, x ≠ "")
    (hauthors : ∀ post ∈ s.communityPosts.rows, post.authorId ≠ "") :
    recipients (e.record id n) s = .ok (e.told s) := by
  cases e with
  | organizerInvitationCreated => rfl
  | eventCancelled => rfl
  | adSubmitted adId sponsorId title => rfl
  | replyCreated replyId postId communityId authorId parentReplyId =>
    have hpost := hids postId List.mem_cons_self
    show replyRecipients _ s = .ok (repliedTo postId authorId s)
    rw [replyRecipients, field_of_lookup _ rfl rfl hpost,
      if_pos ((JsValue.truthy_str_iff postId).mpr hpost), repliedTo]
    simp only [findPost, JsValue.asStr?_str]
    cases hget : s.communityPosts.get? postId with
    | none => rfl
    | some post =>
      have hauthor := hauthors post (Table.get?_eq_some.mp hget).1
      have hreplier : (((record id n (.replyCreated replyId postId communityId authorId
          parentReplyId)).payload.or (.obj [])).get "authorId") = .str authorId := rfl
      simp only [hreplier, JsValue.isStr_str, beq_iff_eq, addressed_str hauthor]
      split_ifs <;> rfl
  | meetupCreated meetupId communityId eventId creatorId title =>
    have hcommunity := hids communityId List.mem_cons_self
    show meetupRecipients _ s = .ok (activeMembers communityId s)
    rw [meetupRecipients, field_of_lookup _ rfl rfl hcommunity,
      if_pos ((JsValue.truthy_str_iff communityId).mpr hcommunity)]
    -- the payload has a `creatorId`, but no `createdById`
    have hcreator : (((record id n (.meetupCreated meetupId communityId eventId creatorId
        title)).payload.or (.obj [])).get "createdById") = .undefined := rfl
    simp only [hcreator, findMembers, otherThan, JsValue.asStr?_str, Bool.and_true, activeMembers]
  | unrouted eventType aggregateType aggregateId payload known =>
    have hnone := handledEvent_unrouted eventType known
    simp only [recipients, record, hnone, told, target, Option.toList_none]
  | _ =>
    have hu := hids _ List.mem_cons_self
    exact recipients_of_addressee rfl (field_of_lookup _ rfl rfl hu) hu

end

end Enqueued

end Innovents.Notifications
