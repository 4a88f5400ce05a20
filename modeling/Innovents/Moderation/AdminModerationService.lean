import Innovents.Moderation.Schema

namespace Innovents.Moderation

open Innovents.Lib Innovents.Auth Innovents.Platform
open Innovents.Payments (Time)

inductive ModerationAction
  | hide | restore | reject
  deriving DecidableEq, Repr

def ModerationAction.text : ModerationAction → String
  | hide => "HIDE"
  | restore => "RESTORE"
  | reject => "REJECT"

structure AdminModerationDto where
  targetType : ReportTargetType
  targetId : String
  action : ModerationAction
  reason : String

structure ModerationResultDto where
  success : Bool
  targetType : ReportTargetType
  targetId : String
  action : ModerationAction
  reason : String
  moderatedAt : Time
  moderatorId : String

namespace AdminModerationService

/-- The content is looked for, and its row is updated. -/
def moderated (model missing : String) (found : ContentDb → Bool)
    (write : AuthEnv → ContentDb → Except AuthError ContentDb) : ContentCall Unit := do
  let found ← Call.reads (model ++ ".findUnique") fun _ ↦ found
  Call.returned (demand (found = true) (refusal .notFound missing))
  Call.writes (model ++ ".update") fun env db ↦ do
    let db ← write env db
    return (db, ())

/-- The status of a post or a reply. -/
def postStatus (action : ModerationAction) : Communities.Social.CommunityPostStatus :=
  if action = .restore then .published else .hidden

def postUpdate (targetId : String) (action : ModerationAction) (env : AuthEnv) (db : ContentDb) :
    Except AuthError ContentDb := do
  let communityPosts ← ofRefusal (db.social.communityPosts.update targetId fun post ↦
    { post with
      status := postStatus action
      updatedAt := env.now })
  return { db with social := { db.social with communityPosts } }

def replyUpdate (targetId : String) (action : ModerationAction) (env : AuthEnv) (db : ContentDb) :
    Except AuthError ContentDb := do
  let communityPostReplies ← ofRefusal (db.social.communityPostReplies.update targetId fun reply ↦
    { reply with
      status := postStatus action
      updatedAt := env.now })
  return { db with social := { db.social with communityPostReplies } }

def meetupUpdate (targetId : String) (action : ModerationAction) (env : AuthEnv) (db : ContentDb) :
    Except AuthError ContentDb := do
  let communityMeetups ← ofRefusal (db.social.communityMeetups.update targetId fun meetup ↦
    { meetup with
      status := if action = .restore then .scheduled else .cancelled
      updatedAt := env.now })
  return { db with social := { db.social with communityMeetups } }

def adUpdate (targetId : String) (action : ModerationAction) (reason : String) (env : AuthEnv)
    (db : ContentDb) : Except AuthError ContentDb := do
  let sponsorAds ← ofRefusal (db.sponsorAds.update targetId fun ad ↦
    { ad with
      status := if action = .restore then .approved else .rejected
      rejectionReason := if action = .reject then some reason else none
      updatedAt := env.now })
  return { db with sponsorAds }

def c2bServiceUpdate (targetId : String) (action : ModerationAction) (env : AuthEnv)
    (db : ContentDb) : Except AuthError ContentDb := do
  let c2bServices ← ofRefusal (db.c2bServices.update targetId fun service ↦
    { service with isAvailable := decide (action = .restore) })
  let details ← ofRefusal (db.offers.details.update targetId fun d ↦
    { d with updatedAt := env.now })
  return { db with offers := { db.offers with
    market := { db.offers.market with c2bServices }
    details } }

def vendorServiceUpdate (targetId : String) (action : ModerationAction) (_ : AuthEnv)
    (db : ContentDb) : Except AuthError ContentDb := do
  let vendorServices ← ofRefusal (db.vendorServices.update targetId fun service ↦
    { service with isActive := decide (action = .restore) })
  return { db with vendorServices }

def eventUpdate (targetId : String) (action : ModerationAction) (env : AuthEnv) (db : ContentDb) :
    Except AuthError ContentDb := do
  let events ← ofRefusal (db.events.update targetId fun event ↦
    { event with
      status := if action = .restore then .published else .cancelled
      updatedAt := env.now })
  return { db with offers := { db.offers with schedule := { db.offers.schedule with events } } }

/-- The `switch` over the types of content. -/
def moderate (dto : AdminModerationDto) : ContentCall Unit :=
  match dto.targetType with
  | .communityPost => moderated "communityPost" "Community post not found"
      (·.social.communityPosts.has dto.targetId) (postUpdate dto.targetId dto.action)
  | .communityReply => moderated "communityPostReply" "Community post reply not found"
      (·.social.communityPostReplies.has dto.targetId) (replyUpdate dto.targetId dto.action)
  | .communityMeetup => moderated "communityMeetup" "Community meetup not found"
      (·.social.communityMeetups.has dto.targetId) (meetupUpdate dto.targetId dto.action)
  | .sponsorAd => moderated "sponsorAd" "Sponsor ad not found"
      (·.sponsorAds.has dto.targetId) (adUpdate dto.targetId dto.action dto.reason)
  | .c2bService => moderated "c2bService" "C2B service not found"
      (·.c2bServices.has dto.targetId) (c2bServiceUpdate dto.targetId dto.action)
  | .vendorService => moderated "vendorService" "Vendor service not found"
      (·.vendorServices.has dto.targetId) (vendorServiceUpdate dto.targetId dto.action)
  | .event => moderated "event" "Event not found"
      (·.events.has dto.targetId) (eventUpdate dto.targetId dto.action)
  | targetType => Call.returned (.error (refusal .badRequest
      s!"Moderation not supported for target type {targetType.text}"))

def moderateContent (adminUserId : String) (dto : AdminModerationDto) (client : Client) :
    ContentCall ModerationResultDto := do
  moderate dto
  log
    { actorUserId := some adminUserId
      action := "CONTENT_MODERATED"
      resourceType := dto.targetType.text
      resourceId := some dto.targetId
      metadata := [("action", .str dto.action.text), ("reason", .str dto.reason)] } client
  let moderatedAt ← Call.ask "clock" fun env _ ↦ .ok env.now
  return {
    success := true
    targetType := dto.targetType
    targetId := dto.targetId
    action := dto.action
    reason := dto.reason
    moderatedAt
    moderatorId := adminUserId }

end AdminModerationService

end Innovents.Moderation
