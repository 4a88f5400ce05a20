import Innovents.Communities.Social.ReplyThreads
import Innovents.Lib.Pages
import Innovents.Lib.Utf16

namespace Innovents.Communities.Social

open Innovents.Lib Innovents.Auth Innovents.Platform
open Innovents.Payments (Time CommunityMemberRole)

structure CreatePostDto where
  content : String
  attachments : Option (List String)
  linkUrl : Option String
  mentionedUserIds : Option (List String)

/-- Each field may be missing, and may be `null`. -/
structure UpdatePostDto where
  content : Option (Option String)
  attachments : Option (Option (List String))
  linkUrl : Option (Option String)

structure PostQueryDto where
  page : Option ℕ
  pageSize : Option ℕ
  isPinned : Option Bool

/-- An author, with the role in the community where it has been looked up. -/
structure PostAuthorDto where
  id : String
  email : String
  communityRole : Option (Option CommunityMemberRole)

structure PostResponseDto where
  id : String
  communityId : String
  authorId : String
  content : String
  attachments : List String
  linkUrl : Option String
  isPinned : Bool
  status : CommunityPostStatus
  likeCount : ℤ
  replyCount : ℤ
  createdAt : Time
  updatedAt : Time
  author : PostAuthorDto
  likedByCurrentUser : Option Bool

structure PaginatedPostsDto where
  data : List PostResponseDto
  total : ℕ
  page : ℕ
  pageSize : ℕ
  totalPages : ℕ

namespace CommunityPostsService

open Innovents.Communities.Social.CommunitiesService (asked)
open Innovents.Communities.Social.CommunityRepliesService (uniqueMentionIds roleIn)

def mapToResponseDto (post : CommunityPost) (author : PostAuthorDto)
    (likedByCurrentUser : Option Bool) : PostResponseDto where
  id := post.id
  communityId := post.communityId
  authorId := post.authorId
  content := post.content
  attachments := post.attachments
  linkUrl := post.linkUrl
  isPinned := post.isPinned
  status := post.status
  likeCount := post.likeCount
  replyCount := post.replyCount
  createdAt := post.createdAt
  updatedAt := post.updatedAt
  author
  likedByCurrentUser

def newPost (id communityId authorId : String) (dto : CreatePostDto) (now : Time) :
    CommunityPost where
  id
  communityId
  authorId
  content := dto.content
  attachments := dto.attachments.getD []
  linkUrl := dto.linkUrl
  isPinned := false
  status := .published
  likeCount := 0
  replyCount := 0
  deletedAt := none
  createdAt := now
  updatedAt := now

/-- A mentioned user is told, if there is one with the id. -/
def mention (communityId postId authorId : String) (env : AuthEnv) (db : SocialDb)
    (targetUserId : String) : Except AuthError SocialDb :=
  if db.accounts.users.has targetUserId then do
    let communityMentions ← ofRefusal (db.communityMentions.create
      { id := env.idFor db.communityMentions
        actorId := authorId
        mentionedUserId := targetUserId
        postId := some postId
        replyId := none })
    enqueued
      { eventType := "COMMUNITY_MENTION_CREATED"
        aggregateType := "COMMUNITY_MENTION"
        aggregateId := postId ++ ":" ++ targetUserId
        payload := [("communityId", .str communityId), ("postId", .str postId),
          ("actorId", .str authorId), ("mentionedUserId", .str targetUserId)] }
      env { db with communityMentions }
  else return db

/-- The transaction of `create`. -/
def postCreated (communityId authorId : String) (dto : CreatePostDto) (client : Client)
    (env : AuthEnv) (db : SocialDb) : Except AuthError (SocialDb × CommunityPost) := do
  let p := newPost (env.idFor db.communityPosts) communityId authorId dto env.now
  foreignKeys (db.communities.has communityId ∧ db.accounts.users.has authorId)
  let communityPosts ← ofRefusal (db.communityPosts.create p)
  let db ← (uniqueMentionIds authorId dto.mentionedUserIds).foldlM
    (mention communityId p.id authorId env) { db with communityPosts }
  let db ← enqueued
    { eventType := "COMMUNITY_POST_CREATED"
      aggregateType := "COMMUNITY_POST"
      aggregateId := p.id
      payload := [("postId", .str p.id), ("communityId", .str communityId),
        ("authorId", .str authorId),
        ("contentLength", .num (Utf16.ofChars p.content.toList).length)] } env db
  let db ← audited
    { actorUserId := some authorId
      action := "COMMUNITY_POST_CREATE"
      resourceType := "COMMUNITY_POST"
      resourceId := some p.id
      metadata := [("communityId", .str communityId)] } client env db
  return (db, p)

/-- Only active members publish posts. -/
def create (communityId authorId : String) (dto : CreatePostDto) (client : Client) :
    SocialCall PostResponseDto := do
  let (_, member) ← CommunityAuthorizationService.assertActiveMember authorId communityId
  let post ← Call.writes "$transaction" (postCreated communityId authorId dto client)
  let found ← Call.reads "user.findUnique" fun _ ↦ userSummary authorId
  let author ← Call.returned (present found (.fault "Cannot read properties of null"))
  return mapToResponseDto post ⟨author.id, author.email, some (some member.role)⟩ (some false)

/-- The conditions of a search besides the community: neither deleted nor hidden. -/
def isListed (communityId : String) (isPinned : Option Bool) (post : CommunityPost) : Bool :=
  post.communityId == communityId && post.deletedAt.isNone && post.status == .published &&
    isPinned.all (post.isPinned == ·)

/-- `orderBy: [{ isPinned: 'desc' }, { createdAt: 'desc' }]` -/
def Before (a b : CommunityPost) : Prop :=
  a.isPinned = true ∧ b.isPinned = false ∨ a.isPinned = b.isPinned ∧ b.createdAt ≤ a.createdAt

instance : DecidableRel Before := fun a b ↦
  inferInstanceAs (Decidable (a.isPinned = true ∧ b.isPinned = false ∨
    a.isPinned = b.isPinned ∧ b.createdAt ≤ a.createdAt))

/-- A post with what a search includes: its author, and whether the caller has liked it. -/
structure IncludedPost where
  post : CommunityPost
  author : UserSummary
  liked : Bool

/-- A post that is found, with its author and with whether the caller has liked it. -/
def withAuthor (currentUserId : Option String) (db : SocialDb) (post : CommunityPost) :
    CommunityPost × Option UserSummary × Bool :=
  (post, userSummary post.authorId db, (asked currentUserId).any fun userId ↦
    db.communityPostLikes.rows.any fun l ↦ l.postId == post.id && l.userId == userId)

/-- An author is required. -/
def included (found : CommunityPost × Option UserSummary × Bool) :
    Except AuthError IncludedPost := do
  let author ← present found.2.1 (.fault
    "Inconsistent query result: Field author is required to return data, got null instead.")
  return ⟨found.1, author, found.2.2⟩

/-- The answer for a post, whose author has the role in the community. -/
def toDto (role : Option CommunityMemberRole) (p : IncludedPost) : PostResponseDto :=
  mapToResponseDto p.post ⟨p.author.id, p.author.email, some role⟩ (some p.liked)

def findAll (communityId : String) (query : PostQueryDto) (currentUserId : Option String)
    (currentUserRoles : List String) : SocialCall PaginatedPostsDto := do
  let _ ← CommunityAuthorizationService.assertCanViewCommunity communityId currentUserId
    currentUserRoles
  let page := query.page.getD 1
  let pageSize := query.pageSize.getD 20
  let found ← Call.reads "communityPost.findMany" fun _ (db : SocialDb) ↦
    (Lib.page pageSize ((db.communityPosts.rows.filter
      (isListed communityId query.isPinned)).insertionSort Before) (page - 1)).map
        (withAuthor currentUserId db)
  let posts ← Call.returned (found.mapM included)
  let total ← Call.reads "communityPost.count" fun _ (db : SocialDb) ↦
    db.communityPosts.rows.countP (isListed communityId query.isPinned)
  let memberships ← Call.reads "communityMember.findMany" fun _ (db : SocialDb) ↦
    db.communityMembers.rows.filter fun m ↦
      m.communityId == communityId && (posts.map (·.post.authorId)).contains m.userId
  return {
    data := posts.map fun p ↦ toDto (roleIn memberships p.post.authorId) p
    total
    page
    pageSize
    totalPages := max 1 (pageCount total pageSize) }

/-- A post is found whatever its status is. -/
def findOne (communityId postId : String) (currentUserId : Option String)
    (currentUserRoles : List String) : SocialCall PostResponseDto := do
  let _ ← CommunityAuthorizationService.assertCanViewCommunity communityId currentUserId
    currentUserRoles
  let found ← Call.reads "communityPost.findFirst" fun _ (db : SocialDb) ↦
    (existingPost communityId postId db).map (withAuthor currentUserId db)
  let found ← Call.returned (found.mapM included)
  let p ← Call.returned (present found (refusal .notFound "Post not found"))
  let membership ← Call.reads "communityMember.findUnique" fun _ ↦
    membershipOf communityId p.post.authorId
  return toDto (membership.map (·.role)) p

/-- The post of the path, with its author. -/
def findPost (communityId postId : String) : SocialCall IncludedPost := do
  let found ← Call.reads "communityPost.findFirst" fun _ (db : SocialDb) ↦
    (existingPost communityId postId db).map (withAuthor none db)
  let found ← Call.returned (found.mapM included)
  Call.returned (present found (refusal .notFound "Post not found"))

/-- `communityPost.update`, which returns the new row with its author. -/
def postUpdate (postId : String) (change : CommunityPost → CommunityPost) (env : AuthEnv)
    (db : SocialDb) : Except AuthError (SocialDb × IncludedPost) := do
  let communityPosts ← ofRefusal (db.communityPosts.update postId fun post ↦
    { change post with updatedAt := env.now })
  let updated ← present (communityPosts.get? postId) (.prisma .recordNotFound)
  let p ← included (withAuthor none db updated)
  return ({ db with communityPosts }, p)

def contentUpdate (postId : String) (dto : UpdatePostDto) (env : AuthEnv) (db : SocialDb) :
    Except AuthError (SocialDb × IncludedPost) := do
  let content ← Events.given "content" dto.content
  let attachments ← Events.given "attachments" dto.attachments
  postUpdate postId (fun post ↦
    { post with
      content := content.getD post.content
      attachments := attachments.getD post.attachments
      linkUrl := dto.linkUrl.getD post.linkUrl }) env db

/-- The author may edit a post, and an admin of the platform. -/
def update (communityId postId userId : String) (userRoles : List String) (dto : UpdatePostDto) :
    SocialCall PostResponseDto := do
  let p ← findPost communityId postId
  Call.returned (demand (p.post.authorId = userId ∨ "ADMIN" ∈ userRoles)
    (refusal .forbidden "You do not have permission to edit this post"))
  let updated ← Call.writes "communityPost.update" (contentUpdate postId dto)
  return mapToResponseDto updated.post ⟨updated.author.id, updated.author.email, none⟩ none

/-- The entry of the log about a post. -/
def postAudit (action communityId postId userId : String) : CreateAuditLogParams where
  actorUserId := some userId
  action
  resourceType := "COMMUNITY_POST"
  resourceId := some postId
  metadata := [("communityId", .str communityId)]

/-- The transaction of `delete`. -/
def postDeleted (communityId postId userId : String) (client : Client) (env : AuthEnv)
    (db : SocialDb) : Except AuthError (SocialDb × Unit) := do
  let communityPosts ← ofRefusal (db.communityPosts.update postId fun post ↦
    { post with
      deletedAt := some env.now
      status := .deleted
      updatedAt := env.now })
  let db ← enqueued
    { eventType := "COMMUNITY_POST_DELETED"
      aggregateType := "COMMUNITY_POST"
      aggregateId := postId
      payload := [("postId", .str postId), ("communityId", .str communityId),
        ("deletedBy", .str userId)] } env { db with communityPosts }
  let db ← audited (postAudit "COMMUNITY_POST_DELETE" communityId postId userId) client env db
  return (db, ())

/-- The author may delete a post, and who may moderate the community. -/
def delete (communityId postId userId : String) (userRoles : List String) (client : Client) :
    SocialCall MessageDto := do
  let found ← Call.reads "communityPost.findFirst" fun _ ↦ existingPost communityId postId
  let post ← Call.returned (present found (refusal .notFound "Post not found"))
  if post.authorId = userId then
    Call.writes "$transaction" (postDeleted communityId postId userId client)
  else do
    let _ ← CommunityAuthorizationService.assertCanModerateCommunity userId userRoles communityId
    Call.writes "$transaction" (postDeleted communityId postId userId client)
  return ⟨true, "Post deleted successfully"⟩

/-- The transaction of `pin` and `unpin`. -/
def pinnedMoved (isPinned : Bool) (eventType actor action communityId postId userId : String)
    (client : Client) (env : AuthEnv) (db : SocialDb) :
    Except AuthError (SocialDb × IncludedPost) := do
  let (db, p) ← postUpdate postId (fun post ↦ { post with isPinned }) env db
  let db ← enqueued
    { eventType
      aggregateType := "COMMUNITY_POST"
      aggregateId := postId
      payload := [("postId", .str postId), ("communityId", .str communityId),
        (actor, .str userId)] } env db
  let db ← audited (postAudit action communityId postId userId) client env db
  return (db, p)

/-- Who may moderate the community pins a post, or takes it down. -/
def movePin (isPinned : Bool) (eventType actor action communityId postId userId : String)
    (userRoles : List String) (client : Client) : SocialCall PostResponseDto := do
  let _ ← CommunityAuthorizationService.assertCanModerateCommunity userId userRoles communityId
  let _ ← findPost communityId postId
  let updated ← Call.writes "$transaction"
    (pinnedMoved isPinned eventType actor action communityId postId userId client)
  return mapToResponseDto updated.post ⟨updated.author.id, updated.author.email, none⟩ none

def pin : String → String → String → List String → Client → SocialCall PostResponseDto :=
  movePin true "COMMUNITY_POST_PINNED" "pinnedBy" "COMMUNITY_POST_PIN"

def unpin : String → String → String → List String → Client → SocialCall PostResponseDto :=
  movePin false "COMMUNITY_POST_UNPINNED" "unpinnedBy" "COMMUNITY_POST_UNPIN"

end CommunityPostsService

end Innovents.Communities.Social
