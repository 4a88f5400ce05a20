import Innovents.Moderation.Schema

namespace Innovents.Moderation

open Innovents.Lib Innovents.Auth Innovents.Platform
open Innovents.Payments (Time)

structure CreateReportDto where
  targetType : ReportTargetType
  targetId : String
  reason : String
  description : Option String

/-- Any status of the enumeration is admitted. -/
structure ResolveReportDto where
  status : ReportStatus
  resolutionNote : Option String

structure ReportUserSummaryDto where
  id : String
  email : String

structure ReportResponseDto where
  id : String
  reporterId : String
  targetType : ReportTargetType
  targetId : String
  reason : String
  description : Option String
  status : ReportStatus
  resolvedByUserId : Option String
  resolvedAt : Option Time
  resolutionNote : Option String
  createdAt : Time
  updatedAt : Time
  reporter : Option ReportUserSummaryDto
  resolvedBy : Option ReportUserSummaryDto

/-- The report waits for a decision. -/
def Report.isActive (r : Report) : Bool := r.status = .isOpen ∨ r.status = .inReview

/-- The report is closed. -/
def Report.isClosed (r : Report) : Bool := r.status = .resolved ∨ r.status = .dismissed

def CreateReportDto.isTarget (dto : CreateReportDto) (reporterId : String) (r : Report) : Bool :=
  r.reporterId = reporterId ∧ r.targetType = dto.targetType ∧ r.targetId = dto.targetId

namespace ReportsService

/-- `select: { id: true, email: true }` -/
def userSummary (userId : String) (db : ContentDb) : Option ReportUserSummaryDto :=
  (db.accounts.users.get? userId).map fun user ↦ ⟨user.id, user.email⟩

def mapToResponse (r : Report) (reporter resolvedBy : Option ReportUserSummaryDto) :
    ReportResponseDto where
  id := r.id
  reporterId := r.reporterId
  targetType := r.targetType
  targetId := r.targetId
  reason := r.reason
  description := r.description
  status := r.status
  resolvedByUserId := r.resolvedByUserId
  resolvedAt := r.resolvedAt
  resolutionNote := r.resolutionNote
  createdAt := r.createdAt
  updatedAt := r.updatedAt
  reporter
  resolvedBy

/-- `text?.trim() || null` -/
def trimmed (trim : String → String) (text : Option String) : Option String :=
  (text.map trim).filter (· ≠ "")

/-- The model that has the reported resources of a type. -/
def modelOf : ReportTargetType → String
  | .communityPost => "communityPost"
  | .communityReply => "communityPostReply"
  | .communityMeetup => "communityMeetup"
  | .communityChatMessage => "communityChatMessage"
  | .event => "event"
  | .community => "community"
  | .sponsorAd => "sponsorAd"
  | .c2bService => "c2bService"
  | .vendorService => "vendorService"
  | .user => "user"

/-- Whether there is something to report, which meetups and chat messages are even if deleted. -/
def targetExists (targetType : ReportTargetType) (targetId : String) (db : ContentDb) : Bool :=
  match targetType with
  | .communityPost => (db.social.communityPosts.get? targetId).any (·.deletedAt.isNone)
  | .communityReply => (db.social.communityPostReplies.get? targetId).any (·.deletedAt.isNone)
  | .communityMeetup => db.social.communityMeetups.has targetId
  | .communityChatMessage => db.social.communityChatMessages.has targetId
  | .event => (db.events.get? targetId).any (·.deletedAt.isNone)
  | .community => (db.social.communities.get? targetId).any (·.deletedAt.isNone)
  | .sponsorAd => (db.sponsorAds.get? targetId).any (·.deletedAt.isNone)
  | .c2bService => (db.c2bServices.get? targetId).any (·.deletedAt.isNone)
  | .vendorService => (db.vendorServices.get? targetId).any (·.deletedAt.isNone)
  | .user => (db.accounts.users.get? targetId).any (·.deletedAt.isNone)

def validateTargetExistence (targetType : ReportTargetType) (targetId : String) :
    ContentCall Unit := do
  let found ← Call.reads (modelOf targetType ++ ".findFirst") fun _ ↦ targetExists targetType targetId
  Call.returned (demand (found = true)
    (refusal .notFound "The specified resource does not exist or cannot be reported"))

def newReport (trim : String → String) (id reporterId : String) (dto : CreateReportDto)
    (now : Time) : Report where
  id
  reporterId
  targetType := dto.targetType
  targetId := dto.targetId
  reason := trim dto.reason
  description := trimmed trim dto.description
  status := .isOpen
  resolvedByUserId := none
  resolvedAt := none
  resolutionNote := none
  createdAt := now
  updatedAt := now

/-- `report.create` -/
def reportCreate (trim : String → String) (reporterId : String) (dto : CreateReportDto)
    (env : AuthEnv) (db : ContentDb) : Except AuthError (ContentDb × ReportResponseDto) := do
  demand (db.accounts.users.has reporterId) (.fault "Foreign key constraint violated")
  let report := newReport trim (env.idFor db.reports) reporterId dto env.now
  let reports ← ofRefusal (db.reports.create report)
  return ({ db with reports }, mapToResponse report (userSummary reporterId db) none)

def createReport (trim : String → String) (reporterId : String) (dto : CreateReportDto)
    (client : Client) : ContentCall ReportResponseDto := do
  validateTargetExistence dto.targetType dto.targetId
  let existingActive ← Call.reads "report.findFirst" fun _ (db : ContentDb) ↦
    db.reports.find? fun r ↦ dto.isTarget reporterId r && r.isActive
  Call.returned (demand (existingActive.isNone) (refusal .conflict
    "An active report submitted by you is already under review for this resource"))
  let report ← Call.writes "report.create" (reportCreate trim reporterId dto)
  log
    { actorUserId := some reporterId
      action := "REPORT_SUBMITTED"
      resourceType := "REPORT"
      resourceId := some report.id
      metadata := [("targetType", .str dto.targetType.text), ("targetId", .str dto.targetId),
        ("reason", .str dto.reason)] }
    client
  return report

/-- `report.update` -/
def reportUpdate (trim : String → String) (id adminUserId : String) (dto : ResolveReportDto)
    (env : AuthEnv) (db : ContentDb) : Except AuthError (ContentDb × ReportResponseDto) := do
  demand (db.accounts.users.has adminUserId) (.fault "Foreign key constraint violated")
  let reports ← ofRefusal (db.reports.update id fun r ↦
    { r with
      status := dto.status
      resolvedByUserId := some adminUserId
      resolvedAt := if dto.status = .inReview then none else some env.now
      resolutionNote := trimmed trim dto.resolutionNote
      updatedAt := env.now })
  let updated ← present (reports.get? id) (.prisma .recordNotFound)
  return ({ db with reports },
    mapToResponse updated (userSummary updated.reporterId db) (userSummary adminUserId db))

def resolveReport (trim : String → String) (id adminUserId : String) (dto : ResolveReportDto)
    (client : Client) : ContentCall ReportResponseDto := do
  let found ← Call.reads "report.findUnique" fun _ (db : ContentDb) ↦ db.reports.get? id
  let report ← Call.returned (present found (refusal .notFound "Report record not found"))
  Call.returned (demand (report.isClosed = false)
    (refusal .badRequest "Report is already closed and cannot be modified"))
  Call.returned (demand (dto.status ≠ .isOpen)
    (refusal .badRequest "Cannot transition a report back to OPEN status"))
  let updated ← Call.writes "report.update" (reportUpdate trim id adminUserId dto)
  log
    { actorUserId := some adminUserId
      action := "REPORT_RESOLVED"
      resourceType := "REPORT"
      resourceId := some report.id
      metadata := [("previousStatus", .str report.status.text), ("newStatus", .str dto.status.text)] ++
        (dto.resolutionNote.map fun note ↦ ("resolutionNote", JsValue.str note)).toList }
    client
  return updated

end ReportsService

end Innovents.Moderation
