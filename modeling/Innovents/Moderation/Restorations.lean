import Innovents.Moderation.AdminModerationService

namespace Innovents.Moderation

open Innovents.Lib Innovents.Auth Innovents.Platform AdminModerationService
open Innovents.Communities.Social (CommunityPostStatus CommunityMeetupStatus)
open Innovents.Events (EventStatus)
open Innovents.SponsorAds (SponsorAdStatus)
open Innovents.Payments (Time)

/-- The fields of the content of each type that tell whether it is shown. -/
inductive Shown
  | post (status : CommunityPostStatus)
  | meetup (status : CommunityMeetupStatus)
  | ad (status : SponsorAdStatus) (rejectionReason : Option String)
  | c2bService (isAvailable : Bool)
  | vendorService (isActive : Bool)
  | event (status : EventStatus)
  deriving DecidableEq

structure Visibility where
  shown : Shown
  deletedAt : Option Time
  deriving DecidableEq

/-- What is shown of the content, if there is a row of it. -/
def visibility (targetType : ReportTargetType) (targetId : String) (db : ContentDb) :
    Option Visibility :=
  match targetType with
  | .communityPost => (db.social.communityPosts.get? targetId).map fun post ↦
      ⟨.post post.status, post.deletedAt⟩
  | .communityReply => (db.social.communityPostReplies.get? targetId).map fun reply ↦
      ⟨.post reply.status, reply.deletedAt⟩
  | .communityMeetup => (db.social.communityMeetups.get? targetId).map fun meetup ↦
      ⟨.meetup meetup.status, meetup.deletedAt⟩
  | .sponsorAd => (db.sponsorAds.get? targetId).map fun ad ↦
      ⟨.ad ad.status ad.rejectionReason, ad.deletedAt⟩
  | .c2bService => (db.c2bServices.get? targetId).map fun service ↦
      ⟨.c2bService service.isAvailable, service.deletedAt⟩
  | .vendorService => (db.vendorServices.get? targetId).map fun service ↦
      ⟨.vendorService service.isActive, service.deletedAt⟩
  | .event => (db.events.get? targetId).map fun event ↦ ⟨.event event.status, event.deletedAt⟩
  | .communityChatMessage | .community | .user => none

namespace Shown

/-- What the content of each type becomes when it is restored. -/
def published : Shown → Shown
  | post _ => post .published
  | meetup _ => meetup .scheduled
  | ad _ _ => ad .approved none
  | c2bService _ => c2bService true
  | vendorService _ => vendorService true
  | event _ => event .published

/-- A post or a reply is published, a meetup scheduled, an ad approved and without a reason for a
rejection, a service of either kind on offer, and an event published. -/
def isPublic : Shown → Bool
  | post status => status = .published
  | meetup status => status = .scheduled
  | ad status rejectionReason => status = .approved ∧ rejectionReason = none
  | c2bService isAvailable => isAvailable
  | vendorService isActive => isActive
  | event status => status = .published

def decided (action : ModerationAction) (reason : String) : Shown → Shown
  | post _ => post (postStatus action)
  | meetup _ => meetup (if action = .restore then .scheduled else .cancelled)
  | ad _ _ => ad (if action = .restore then .approved else .rejected)
      (if action = .reject then some reason else none)
  | c2bService _ => c2bService (decide (action = .restore))
  | vendorService _ => vendorService (decide (action = .restore))
  | event _ => event (if action = .restore then .published else .cancelled)

theorem published_eq_iff (s : Shown) : s.published = s ↔ s.isPublic = true := by
  cases s with
  | post status | meetup status | event status =>
    rw [isPublic, decide_eq_true_eq]
    exact ⟨fun h ↦ by injection h with h; exact h.symm, fun h ↦ by rw [published, h]⟩
  | ad status rejectionReason =>
    rw [isPublic, decide_eq_true_eq]
    constructor
    · intro h
      injection h with hstatus hreason
      exact ⟨hstatus.symm, hreason.symm⟩
    · rintro ⟨rfl, rfl⟩
      rfl
  | c2bService b | vendorService b => cases b <;> decide

theorem decided_restore {reason : String} (s : Shown) : s.decided .restore reason = s.published := by
  cases s <;> rfl

/-- What has been decided before is lost. -/
theorem published_decided {action : ModerationAction} {reason : String} (s : Shown) :
    (s.decided action reason).published = s.published := by
  cases s <;> rfl

end Shown

namespace Visibility

def decided (action : ModerationAction) (reason : String) (v : Visibility) : Visibility :=
  { v with shown := v.shown.decided action reason }

def published (v : Visibility) : Visibility := { v with shown := v.shown.published }

theorem published_eq_iff (v : Visibility) : v.published = v ↔ v.shown.isPublic = true := by
  rw [← Shown.published_eq_iff]
  constructor
  · exact congrArg shown
  · intro h
    rw [published, h]

end Visibility

section Calls

variable {ok : AuthEnv → Prop} {db db' : ContentDb} {u : Unit}

theorem ran_moderated {model missing : String} {found : ContentDb → Bool}
    {write : AuthEnv → ContentDb → Except AuthError ContentDb}
    (h : (moderated model missing found write).Ran ok db (.ok u) db') :
    ∃ env, write env db = .ok db' := by
  obtain ⟨_, db₁, hread, hrest⟩ := Call.ran_bind_ok.mp h
  obtain ⟨_, db₂, hfound, hwrite⟩ := Call.ran_bind_ok.mp hrest
  obtain ⟨env, -, -, hwrite⟩ := Call.ran_writes_ok.mp hwrite
  obtain ⟨written, hwritten, heq⟩ := andThen_eq_ok.mp hwrite
  cases heq
  have hdb₁ : db₁ = db := (Call.ran_reads_ok.mp hread).choose_spec.2.2.2
  rw [(Call.ran_returned_ok.mp hfound).2, hdb₁] at hwritten
  exact ⟨env, hwritten⟩

/-- What an update makes of a row, it makes of what is shown of the row. -/
theorem shown_updated {ρ : Type} [Row ρ] {t t' : Table ρ} {id : String} {f : ρ → ρ}
    {shows : ρ → Visibility} {g : Visibility → Visibility}
    (h : ofRefusal (t.update id f) = .ok t') (hid : ∀ r, Row.id (f r) = Row.id r)
    (hg : ∀ r, shows (f r) = g (shows r)) :
    (t'.get? id).map shows = ((t.get? id).map shows).map g := by
  rw [Table.get?_update (ofRefusal_eq_ok.mp h) hid, if_pos rfl, Option.map_map, Option.map_map]
  congr 1
  funext r
  exact hg r

theorem ran_moderate {dto : AdminModerationDto} (h : (moderate dto).Ran ok db (.ok u) db') :
    visibility dto.targetType dto.targetId db' =
      (visibility dto.targetType dto.targetId db).map (·.decided dto.action dto.reason) := by
  obtain ⟨targetType, targetId, action, reason⟩ := dto
  cases targetType with
  | c2bService =>
    obtain ⟨env, h⟩ := ran_moderated h
    obtain ⟨c2bServices, hupdate, h⟩ := andThen_eq_ok.mp h
    obtain ⟨details, -, h⟩ := andThen_eq_ok.mp h
    cases h
    exact shown_updated hupdate (fun _ ↦ rfl) fun _ ↦ rfl
  | communityPost | communityReply | communityMeetup | sponsorAd | vendorService | event =>
    obtain ⟨env, h⟩ := ran_moderated h
    obtain ⟨_, hupdate, h⟩ := andThen_eq_ok.mp h
    cases h
    exact shown_updated hupdate (fun _ ↦ rfl) fun _ ↦ rfl
  | communityChatMessage | community | user => cases (Call.ran_returned_ok.mp h).1

theorem ran_moderateContent {adminUserId : String} {dto : AdminModerationDto} {client : Client}
    {result : ModerationResultDto}
    (h : (moderateContent adminUserId dto client).Ran ok db (.ok result) db') :
    visibility dto.targetType dto.targetId db' =
      (visibility dto.targetType dto.targetId db).map (·.decided dto.action dto.reason) := by
  obtain ⟨_, db₁, hmoderate, hrest⟩ := Call.ran_bind_ok.mp h
  obtain ⟨_, db₂, hlog, hrest⟩ := Call.ran_bind_ok.mp hrest
  obtain ⟨_, db₃, hclock, hreturned⟩ := Call.ran_bind_ok.mp hrest
  obtain ⟨env, -, hlog⟩ := Call.ran_request.mp hlog
  have hdb₂ := (Call.ran_returned_ok.mp hlog).2
  have hdb₃ : db₃ = db₂ := (Call.ran_ask.mp hclock).choose_spec.2.2
  rw [← ran_moderate hmoderate, (Call.ran_returned_ok.mp hreturned).2, hdb₃, hdb₂]
  cases dto.targetType <;> rfl

/-- Restored content is public whatever it was before it was hidden or rejected, so it is as it was
exactly if it was public. -/
theorem restored_iff {adminUserId adminUserId' : String} {dto dto' : AdminModerationDto}
    {client client' : Client} {result result' : ModerationResultDto} {db₁ db₂ : ContentDb}
    {v : Visibility} (hv : visibility dto.targetType dto.targetId db = some v)
    (hmoderate : (moderateContent adminUserId dto client).Ran ok db (.ok result) db₁)
    (hrestore : (moderateContent adminUserId' dto' client').Ran ok db₁ (.ok result') db₂)
    (haction : dto'.action = .restore)
    (htarget : dto'.targetType = dto.targetType ∧ dto'.targetId = dto.targetId) :
    visibility dto.targetType dto.targetId db₂ = some v.published ∧
      (visibility dto.targetType dto.targetId db₂ = visibility dto.targetType dto.targetId db ↔
        v.shown.isPublic = true) := by
  have hfirst := ran_moderateContent hmoderate
  have hsecond := ran_moderateContent hrestore
  rw [htarget.1, htarget.2, haction, hfirst, hv] at hsecond
  have hpublished : visibility dto.targetType dto.targetId db₂ = some v.published := by
    rw [hsecond]
    simp only [Option.map_some, Visibility.decided, Visibility.published, Shown.decided_restore,
      Shown.published_decided]
  refine ⟨hpublished, ?_⟩
  rw [hpublished, hv, Option.some_inj]
  exact v.published_eq_iff

end Calls

section Sample

/-- An event with the status. -/
def eventDb (status : EventStatus) : ContentDb :=
  { contentDb with offers := { contentDb.offers with schedule := { Events.sampleDb with
    events := .singleton { Events.sampleEvent with status } } } }

def onEvent (action : ModerationAction) : AdminModerationDto where
  targetType := .event
  targetId := "event-1"
  action
  reason := "Reported by attendees"

def decides (action : ModerationAction) : ContentCall ModerationResultDto :=
  moderateContent "admin-1" (onEvent action) nobody

/-- A decision that is carried out at a time, and what holds then. -/
def afterwards (action : ModerationAction) (now : Time) (p : ContentDb → Bool) (db : ContentDb) :
    Bool :=
  (Call.outcome (List.replicate 4 (sampleEnv now s!"{now}")) db (decides action)).any
    fun q ↦ q.1.isOk && p q.2

theorem exists_afterwards {action : ModerationAction} {now : Time} {p : ContentDb → Bool}
    {db : ContentDb} (h : afterwards action now p db = true) :
    ∃ result db', (decides action).Ran (fun _ ↦ True) db (.ok result) db' ∧ p db' = true := by
  obtain ⟨⟨r, db'⟩, hrun, htest⟩ := (Option.any_eq_true ..).mp h
  rw [Bool.and_eq_true] at htest
  cases r with
  | error x => cases htest.1
  | ok result => exact ⟨result, db', Call.ran_of_outcome (fun _ _ ↦ trivial) hrun, htest.2⟩

/-- What attendees saw before, they see again. -/
theorem published_event_restored : ∃ db₁ db₂ result result',
    (decides .hide).Ran (fun _ ↦ True) (eventDb .published) (.ok result) db₁ ∧
      (decides .restore).Ran (fun _ ↦ True) db₁ (.ok result') db₂ ∧
      visibility .event "event-1" db₂ = visibility .event "event-1" (eventDb .published) := by
  have hrun : afterwards .hide 10 (afterwards .restore 20 fun _ ↦ true) (eventDb .published) =
      true := by decide +kernel
  obtain ⟨result, db₁, hhidden, hrun⟩ := exists_afterwards hrun
  obtain ⟨result', db₂, hrestored, -⟩ := exists_afterwards hrun
  have h := restored_iff (v := ⟨.event .published, none⟩) rfl hhidden hrestored rfl ⟨rfl, rfl⟩
  exact ⟨db₁, db₂, result, result', hhidden, hrestored, h.2.mpr rfl⟩

/-- A draft is published by being hidden and restored. -/
theorem draft_event_published : ¬ ∀ (adminUserId : String) (dto dto' : AdminModerationDto)
    (client : Client) (result result' : ModerationResultDto) (db db₁ db₂ : ContentDb),
    dto.action ≠ .restore → dto'.targetType = dto.targetType → dto'.targetId = dto.targetId →
    dto'.action = .restore →
    (moderateContent adminUserId dto client).Ran (fun _ ↦ True) db (.ok result) db₁ →
    (moderateContent adminUserId dto' client).Ran (fun _ ↦ True) db₁ (.ok result') db₂ →
    visibility dto.targetType dto.targetId db₂ = visibility dto.targetType dto.targetId db := by
  intro hclaim
  have hrun : afterwards .hide 10 (afterwards .restore 20 fun db ↦
      decide (visibility .event "event-1" db = some ⟨.event .published, none⟩)) (eventDb .draft) =
      true := by decide +kernel
  obtain ⟨result, db₁, hhidden, hrun⟩ := exists_afterwards hrun
  obtain ⟨result', db₂, hrestored, hshown⟩ := exists_afterwards hrun
  have hsame := hclaim "admin-1" (onEvent .hide) (onEvent .restore) nobody result result' _ db₁ db₂
    nofun rfl rfl rfl hhidden hrestored
  have hpublished : some (⟨.event .published, none⟩ : Visibility) =
      visibility .event "event-1" (eventDb .draft) := (of_decide_eq_true hshown).symm.trans hsame
  cases hpublished

end Sample

end Innovents.Moderation
