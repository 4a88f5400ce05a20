import Innovents.Communities.Social.MeetupConstraints
import Innovents.Events.EventLifecycle
import Innovents.Marketplace.OfferExpiry
import Innovents.Marketplace.ServiceDiscovery
import Innovents.Moderation.ReplyForests
import Innovents.Moderation.ReportLifecycle
import Innovents.Moderation.Restorations
import Innovents.SponsorAds.ReviewedAds

namespace Innovents.Moderation

open Innovents.Lib Innovents.Auth Innovents.Platform AdminModerationService
open Innovents.Communities.Social (MeetupOp MeetupAnswer SocialDb CommunityMeetup
  CommunityMeetupStatus)
open Innovents.Events (EventsDb EventText LifecycleOp LifecycleReply StayOver)
open Innovents.Marketplace (OfferDb UpdateC2bServiceDto C2bServiceResponseDto)
open Innovents.SponsorAds (AdOp AdsDb SponsorAd SponsorAdStatus SponsorAdResponseDto)

section Operations

inductive ContentOp
  | updateService (providerId serviceId : String) (dto : UpdateC2bServiceDto) (client : Client)
  | meetup (op : MeetupOp)
  | ad (op : AdOp)
  | event (op : LifecycleOp)
  | moderateContent (adminUserId : String) (dto : AdminModerationDto) (client : Client)

inductive ContentReply
  | service (dto : C2bServiceResponseDto)
  | meetup (answer : MeetupAnswer)
  | ad (dto : Option SponsorAdResponseDto)
  | event (reply : LifecycleReply)
  | moderated (result : ModerationResultDto)

def ContentOp.runs (text : EventText) : ContentOp → ContentCall ContentReply
  | updateService providerId serviceId dto client =>
    .service <$> Call.focus ContentDb.offers ContentDb.putOffers
      (Marketplace.C2bServicesService.updateService providerId serviceId dto client)
  | meetup op => .meetup <$> op.runs.focus ContentDb.socialView ContentDb.putSocial
  | ad op => .ad <$> op.runs.focus ContentDb.adsView ContentDb.putAds
  | event op => .event <$> (op.runs text).focus ContentDb.schedule ContentDb.putSchedule
  | moderateContent adminUserId dto client =>
    .moderated <$> AdminModerationService.moderateContent adminUserId dto client

abbrev ContentTask := Task ContentOp String AuthEnv ContentDb AuthError ContentReply

def contentCalls (text : EventText) : Machine ContentDb ContentTask AuthEnv :=
  tasks (ContentOp.runs text)

end Operations

/-- The status of an ad that its sponsor cannot bring out without a review. -/
def isBarred (status : SponsorAdStatus) : Bool :=
  status ≠ .approved ∧ status ≠ .published ∧ status ≠ .paused

/-- The service, meetup, ad or event is there, and nobody but an admin should bring it back. -/
def Withdrawn (targetType : ReportTargetType) (targetId : String) (db : ContentDb) : Prop :=
  match targetType with
  | .c2bService => ∃ s ∈ db.c2bServices.get? targetId, s.isAvailable = false
  | .communityMeetup => ∃ m ∈ db.social.communityMeetups.get? targetId, m.status ≠ .scheduled
  | .sponsorAd => ∃ ad ∈ db.sponsorAds.get? targetId, isBarred ad.status = true
  | .event => ∃ e ∈ db.events.get? targetId, e.status = .cancelled
  | _ => False

/-- The service can be booked, the meetup takes place, the ad is out, or the event is published. -/
def Active (targetType : ReportTargetType) (targetId : String) (db : ContentDb) : Prop :=
  match targetType with
  | .c2bService => ∃ s ∈ db.c2bServices.get? targetId, s.isAvailable = true
  | .communityMeetup => ∃ m ∈ db.social.communityMeetups.get? targetId, m.status = .scheduled
  | .sponsorAd => ∃ ad ∈ db.sponsorAds.get? targetId, ad.status.isOut
  | .event => ∃ e ∈ db.events.get? targetId, e.status = .published
  | _ => False

/-- Which request of an operation puts the meetup `k` back on the calendar. -/
def Schedules (k label : String) : MeetupOp → Prop
  | .update _ meetupId _ _ dto =>
    label = "communityMeetup.update" ∧ meetupId = k ∧ dto.status.join = some .scheduled
  | _ => False

/-- Which request of an operation publishes the event `k` after it has been cancelled. -/
def Republishes (k label : String) (db : EventsDb) : LifecycleOp → Prop
  | .publish eventId _ _ _ =>
    label = "$transaction" ∧ eventId = k ∧ ∃ e ∈ db.events.get? eventId, e.status = .cancelled
  | _ => False

/-- Which request of an operation writes a status of the ad `k` that follows from an earlier one
than its present one, and does not bar the ad. -/
def Outdated (k label : String) (history : History String AdsDb) (db : AdsDb) : AdOp → Prop
  | .updateAd _ adId dto _ => label = "sponsorAd.update" ∧ adId = k ∧ ∃ found ∈ history.last,
    ∃ ad ∈ found.sponsorAds.get? adId,
      isBarred (SponsorAds.SponsorAdsService.statusAfter dto ad.status) = false
  | .togglePauseAd _ adId _ => label = "sponsorAd.update" ∧ adId = k ∧
    ∃ ad ∈ db.sponsorAds.get? adId, isBarred ad.status = true
  | _ => False

section Decidable

variable (k label : String)

instance (op : MeetupOp) : Decidable (Schedules k label op) :=
  match op with
  | .update .. => inferInstanceAs (Decidable (_ ∧ _ ∧ _))
  | .create .. | .join .. | .leave .. | .cancel .. => inferInstanceAs (Decidable False)

instance (db : EventsDb) (op : LifecycleOp) : Decidable (Republishes k label db op) :=
  match op with
  | .publish eventId _ _ _ => inferInstanceAs (Decidable (_ ∧ _ ∧
    ∃ e ∈ db.events.get? eventId, e.status = .cancelled))
  | .cancel .. | .softDelete .. | .update .. | .register .. => inferInstanceAs (Decidable False)

instance (history : History String AdsDb) (db : AdsDb) (op : AdOp) :
    Decidable (Outdated k label history db op) :=
  match op with
  | .updateAd _ adId dto _ => inferInstanceAs (Decidable (_ ∧ _ ∧ ∃ found ∈ history.last,
    ∃ ad ∈ found.sponsorAds.get? adId,
      isBarred (SponsorAds.SponsorAdsService.statusAfter dto ad.status) = false))
  | .togglePauseAd _ adId _ => inferInstanceAs (Decidable (_ ∧ _ ∧
    ∃ ad ∈ db.sponsorAds.get? adId, isBarred ad.status = true))
  | .createAd .. | .submitAd .. | .deleteAd .. | .approveAd .. | .rejectAd .. =>
    inferInstanceAs (Decidable False)

end Decidable

namespace ContentOp

/-- An admin restores the content, or approves the ad. -/
def Lifts (targetType : ReportTargetType) (targetId : String) : ContentOp → Prop
  | moderateContent _ dto _ =>
    dto.targetType = targetType ∧ dto.targetId = targetId ∧ dto.action = .restore
  | ad (.approveAd _ adId _) => targetType = .sponsorAd ∧ adId = targetId
  | _ => False

instance (targetType : ReportTargetType) (targetId : String) (op : ContentOp) :
    Decidable (op.Lifts targetType targetId) :=
  match op with
  | moderateContent _ _ _ => inferInstanceAs (Decidable (_ ∧ _ ∧ _))
  | ad (.approveAd _ _ _) => inferInstanceAs (Decidable (_ ∧ _))
  | ad (.createAd ..) | ad (.updateAd ..) | ad (.submitAd ..) | ad (.togglePauseAd ..)
  | ad (.deleteAd ..) | ad (.rejectAd ..) | updateService .. | meetup _ | event _ =>
    inferInstanceAs (Decidable False)

/-- Which request of an owner brings the content back: the service is put on offer, the meetup on
the calendar, or what was found of the ad or the event before the decision prevails over it. -/
def Defies (targetType : ReportTargetType) (targetId : String) (op : ContentOp)
    (history : ContentHistory) (label : String) (db : ContentDb) : Prop :=
  match op with
  | updateService _ serviceId dto _ => targetType = .c2bService ∧
    label = "c2bService.update" ∧ serviceId = targetId ∧ dto.isAvailable.join = some true
  | meetup op => targetType = .communityMeetup ∧ Schedules targetId label op
  | ad op => targetType = .sponsorAd ∧
    Outdated targetId label (history.seen ContentDb.adsView) db.adsView op
  | event op => targetType = .event ∧ Republishes targetId label db.schedule op
  | moderateContent _ _ _ => False

instance (targetType : ReportTargetType) (targetId : String) (op : ContentOp)
    (history : ContentHistory) (label : String) (db : ContentDb) :
    Decidable (op.Defies targetType targetId history label db) :=
  match op with
  | updateService .. => inferInstanceAs (Decidable (_ ∧ _ ∧ _ ∧ _))
  | meetup op => inferInstanceAs (Decidable (_ ∧ Schedules targetId label op))
  | ad op => inferInstanceAs (Decidable (_ ∧
    Outdated targetId label (history.seen ContentDb.adsView) db.adsView op))
  | event op => inferInstanceAs (Decidable (_ ∧ Republishes targetId label db.schedule op))
  | moderateContent .. => inferInstanceAs (Decidable False)

end ContentOp

section Rows

variable {ρ : Type} [Row ρ] {t t' : Table ρ} {id k : String} {p : ρ → Prop}

theorem kept_updated {f : ρ → ρ} (h : t.update id f = .ok t') (hid : ∀ r, Row.id (f r) = Row.id r)
    (hf : k = id → ∀ r ∈ t.get? k, p r → p (f r)) (hp : ∃ r ∈ t.get? k, p r) :
    ∃ r ∈ t'.get? k, p r := by
  obtain ⟨r, hr, hpr⟩ := hp
  rw [Table.get?_update h hid]
  split_ifs with hk
  · rw [← hk]
    exact ⟨f r, Option.mem_map_of_mem f hr, hf hk r hr hpr⟩
  · exact ⟨r, hr, hpr⟩

theorem kept_created {new : ρ} (h : t.create new = .ok t') (hp : ∃ r ∈ t.get? k, p r) :
    ∃ r ∈ t'.get? k, p r := by
  obtain ⟨r, hr, hpr⟩ := hp
  exact ⟨r, (Table.get?_create_taken hr h).2, hpr⟩

/-- What an update in favour of `p` unless the content is restored leaves of `p`. -/
theorem decided_rows (action : ModerationAction) {f : ρ → ρ} (h : t.update id f = .ok t')
    (hid : ∀ r, Row.id (f r) = Row.id r) (hf : action ≠ .restore → ∀ r, p (f r)) :
    (∀ k, ¬(id = k ∧ action = .restore) → (∃ r ∈ t.get? k, p r) → ∃ r ∈ t'.get? k, p r) ∧
      (action ≠ .restore → ∃ r ∈ t'.get? id, p r) := by
  constructor
  · intro k hlifts hk
    exact kept_updated h hid (fun heq r _ _ ↦ hf (fun haction ↦ hlifts ⟨heq.symm, haction⟩) r) hk
  · intro haction
    obtain ⟨r, hr, hrid⟩ := (Table.update_eq_ok.mp h).1
    rw [Table.get?_update h hid, if_pos rfl, Table.get?_eq_some.mpr ⟨hr, hrid⟩]
    exact ⟨f r, rfl, hf haction r⟩

end Rows

section Meetups

open Communities.Social Communities.Social.CommunityMeetupsService

variable {communityId eventId creatorId meetupId userId participantId k : String}
  {userRoles : List String} {dto : CreateMeetupDto} {startsAt : Payments.Time} {change : ℤ}
  {client : Client} {env : AuthEnv} {db db' : SocialDb}

/-- The meetup is there, and does not take place. -/
def Off (k : String) (db : SocialDb) : Prop :=
  ∃ m ∈ db.communityMeetups.get? k, m.status ≠ .scheduled

theorem participantsMoved_off (h : participantsMoved meetupId change env db = .ok db')
    (hk : Off k db) : Off k db' := by
  obtain ⟨meetups, hupdate, h⟩ := andThen_eq_ok.mp h
  cases h
  exact kept_updated (ofRefusal_eq_ok.mp hupdate) (fun _ ↦ rfl) (fun _ _ _ hm ↦ hm) hk

theorem beside_off (h : Beside db db') (hk : Off k db) : Off k db' := by
  obtain ⟨accounts, rfl⟩ := h
  exact hk

theorem meetupCreated_off {m : CommunityMeetup} (hk : Off k db)
    (h : meetupCreated communityId eventId creatorId dto startsAt client env db = .ok (db', m)) :
    Off k db' := by
  obtain ⟨hcreate, -⟩ := meetupCreated_eq h
  exact kept_created hcreate hk

theorem meetupJoined_off {m : CommunityMeetup} (hk : Off k db)
    (h : meetupJoined communityId meetupId userId env db = .ok (db', m)) : Off k db' := by
  obtain ⟨locked, -, h⟩ := andThen_eq_ok.mp h
  obtain ⟨_, -, h⟩ := andThen_eq_ok.mp h
  obtain ⟨db₁, hadded, h⟩ := andThen_eq_ok.mp h
  obtain ⟨db₂, hmoved, h⟩ := andThen_eq_ok.mp h
  obtain ⟨updated, -, h⟩ := andThen_eq_ok.mp h
  obtain ⟨db₃, hevent, h⟩ := andThen_eq_ok.mp h
  cases h
  refine beside_off (enqueued_eq_ok hevent) (participantsMoved_off hmoved ?_)
  rw [Off, (participantAdded_eq hadded).2]
  exact hk

theorem meetupLeft_off {u : Unit} (hk : Off k db)
    (h : meetupLeft communityId meetupId userId participantId env db = .ok (db', u)) :
    Off k db' := by
  obtain ⟨participants, -, h⟩ := andThen_eq_ok.mp h
  obtain ⟨db₁, hmoved, h⟩ := andThen_eq_ok.mp h
  obtain ⟨db₂, hevent, h⟩ := andThen_eq_ok.mp h
  cases h
  exact beside_off (enqueued_eq_ok hevent) (participantsMoved_off hmoved hk)

/-- An update leaves the meetup off unless it asks for it to take place. -/
theorem meetupUpdate_off {dto : UpdateMeetupDto} {a : CommunityMeetup × Option UserSummary}
    (h : meetupUpdate meetupId dto env db = .ok (db', a)) (hk : Off k db)
    (hstatus : meetupId = k → dto.status.join ≠ some .scheduled) : Off k db' := by
  obtain ⟨title, -, h⟩ := andThen_eq_ok.mp h
  obtain ⟨description, -, h⟩ := andThen_eq_ok.mp h
  obtain ⟨startsAt, -, h⟩ := andThen_eq_ok.mp h
  obtain ⟨endsAt, -, h⟩ := andThen_eq_ok.mp h
  obtain ⟨location, -, h⟩ := andThen_eq_ok.mp h
  obtain ⟨status, hgiven, h⟩ := andThen_eq_ok.mp h
  obtain ⟨meetups, hupdate, h⟩ := andThen_eq_ok.mp h
  obtain ⟨updated, -, h⟩ := andThen_eq_ok.mp h
  cases h
  refine kept_updated (ofRefusal_eq_ok.mp hupdate) (fun _ ↦ rfl) (fun hid m _ hm ↦ ?_) hk
  have hasked := hstatus hid.symm
  rw [Events.given_join hgiven] at hasked
  cases status with
  | none => exact hm
  | some status => exact fun hscheduled ↦ hasked (congrArg some hscheduled)

theorem meetupCancelled_off {u : Unit} (hk : Off k db)
    (h : meetupCancelled communityId meetupId userId client env db = .ok (db', u)) : Off k db' := by
  obtain ⟨meetups, hupdate, h⟩ := andThen_eq_ok.mp h
  obtain ⟨db₁, hevent, h⟩ := andThen_eq_ok.mp h
  obtain ⟨db₂, haudit, h⟩ := andThen_eq_ok.mp h
  cases h
  refine beside_off (audited_eq_ok haudit) (beside_off (enqueued_eq_ok hevent) ?_)
  refine kept_updated (ofRefusal_eq_ok.mp hupdate) (fun _ ↦ rfl) (fun _ m _ _ ↦ ?_) hk
  intro hstatus
  cases hstatus

theorem meetups_off (op : MeetupOp) : op.runs.Each fun label db db' ↦
    ¬Schedules k label op → Off k db → Off k db' := by
  have hread : ∀ label db, ¬Schedules k label op → Off k db → Off k db := fun _ _ _ hk ↦ hk
  cases op with
  | create communityId creatorId dto client =>
    refine Call.each_map (Call.each_bind (CommunityAuthorizationService.assertActiveMember_each
      (hread _) (hread _)) fun _ ↦ Call.each_bind Call.each_returned fun startsAt ↦ ?_)
    refine Call.each_bind Call.each_returned fun _ ↦ Call.each_bind (Call.each_reads (hread _))
      fun event ↦ Call.each_bind Call.each_returned fun _ ↦ ?_
    refine Call.each_bind (Call.each_writes (hread _) fun env db db' m h _ hk ↦
      meetupCreated_off hk h) fun m ↦ ?_
    exact Call.each_bind (Call.each_reads (hread _)) fun _ ↦ Call.each_returned
  | join communityId meetupId userId =>
    refine Call.each_map (Call.each_bind (CommunityAuthorizationService.assertActiveMember_each
      (hread _) (hread _)) fun _ ↦ ?_)
    refine Call.each_bind (Call.each_writes (hread _) fun env db db' m h _ hk ↦
      meetupJoined_off hk h) fun m ↦ ?_
    exact Call.each_bind (Call.each_reads (hread _)) fun _ ↦ Call.each_returned
  | leave communityId meetupId userId =>
    refine Call.each_map (Call.each_bind (CommunityAuthorizationService.assertActiveMember_each
      (hread _) (hread _)) fun _ ↦ Call.each_bind (Call.each_reads (hread _)) fun found ↦ ?_)
    refine Call.each_bind Call.each_returned fun meetup ↦ Call.each_bind Call.each_returned
      fun _ ↦ Call.each_bind (Call.each_reads (hread _)) fun found ↦ ?_
    refine Call.each_bind Call.each_returned fun existing ↦ ?_
    exact Call.each_bind (Call.each_writes (hread _) fun env db db' u h _ hk ↦
      meetupLeft_off hk h) fun _ ↦ Call.each_returned
  | update communityId meetupId userId userRoles dto =>
    refine Call.each_map (Call.each_bind (Call.each_reads (hread _)) fun found ↦
      Call.each_bind Call.each_returned fun meetup ↦ ?_)
    refine Call.each_bind (assertCanChange_each hread meetup) fun _ ↦ ?_
    refine Call.each_bind (Call.each_writes (hread _) fun env db db' a h hbows hk ↦ ?_) fun _ ↦
      Call.each_returned
    exact meetupUpdate_off h hk fun hid hstatus ↦ hbows ⟨rfl, hid, hstatus⟩
  | cancel communityId meetupId userId userRoles client =>
    refine Call.each_map (Call.each_bind (Call.each_reads (hread _)) fun found ↦
      Call.each_bind Call.each_returned fun meetup ↦ ?_)
    refine Call.each_bind (assertCanChange_each hread meetup) fun _ ↦ ?_
    exact Call.each_bind (Call.each_writes (hread _) fun env db db' u h _ hk ↦
      meetupCancelled_off hk h) fun _ ↦ Call.each_returned

end Meetups

section Services

open Marketplace Marketplace.C2bServicesService

variable {serviceId k : String} {db db' : OfferDb}

def Unavailable (k : String) (db : OfferDb) : Prop :=
  ∃ s ∈ db.market.c2bServices.get? k, s.isAvailable = false

theorem serviceUpdate_unavailable {dto : UpdateC2bServiceDto} {expiresAt : Option Payments.Time}
    {env : AuthEnv} {r : C2bServiceResponseDto}
    (h : serviceUpdate serviceId dto expiresAt env db = .ok (db', r)) :
    db'.schedule = db.schedule ∧ ((serviceId = k → dto.isAvailable.join ≠ some true) →
      Unavailable k db → Unavailable k db') := by
  obtain ⟨price, -, h⟩ := andThen_eq_ok.mp h
  obtain ⟨isAvailable, hgiven, h⟩ := andThen_eq_ok.mp h
  obtain ⟨services, hupdate, h⟩ := andThen_eq_ok.mp h
  obtain ⟨allDetails, -, h⟩ := andThen_eq_ok.mp h
  obtain ⟨service, -, h⟩ := andThen_eq_ok.mp h
  obtain ⟨details, -, h⟩ := andThen_eq_ok.mp h
  cases h
  refine ⟨rfl, fun hasked hk ↦ ?_⟩
  refine kept_updated (ofRefusal_eq_ok.mp hupdate) (fun _ ↦ rfl) (fun hid s _ hs ↦ ?_) hk
  have hasked := hasked hid.symm
  rw [Events.given_join hgiven] at hasked
  cases isAvailable with
  | none => exact hs
  | some b =>
    cases b with
    | false => rfl
    | true => exact absurd rfl hasked

/-- An update of a service touches no event. -/
theorem updateService_unavailable {providerId : String} {dto : UpdateC2bServiceDto}
    {client : Client} : (updateService providerId serviceId dto client).Each fun label db db' ↦
      db'.schedule.events = db.schedule.events ∧
        (¬(label = "c2bService.update" ∧ serviceId = k ∧ dto.isAvailable.join = some true) →
          Unavailable k db → Unavailable k db') := by
  refine Call.each_bind (offerProvider_reads.mono ?_) fun _ ↦ ?_
  · rintro _ db _ rfl
    exact ⟨rfl, fun _ hk ↦ hk⟩
  refine Call.each_bind (Call.each_reads fun _ ↦ ⟨rfl, fun _ hk ↦ hk⟩) fun found ↦ ?_
  refine Call.each_bind Call.each_returned fun _ ↦ Call.each_bind Call.each_returned fun _ ↦
    Call.each_bind Call.each_returned fun expiresAt ↦ ?_
  refine Call.each_bind (Call.each_writes (fun _ ↦ ⟨rfl, fun _ hk ↦ hk⟩) fun env db db' r h ↦ ?_)
    fun updated ↦ Call.each_bind (each_log ?_) fun _ ↦ Call.each_returned
  · obtain ⟨hschedule, hstays⟩ := serviceUpdate_unavailable (k := k) h
    exact ⟨congrArg Events.EventsDb.events hschedule,
      fun hasked ↦ hstays fun hid havailable ↦ hasked ⟨rfl, hid, havailable⟩⟩
  · rintro db _ ⟨accounts, rfl⟩
    exact ⟨rfl, fun _ hk ↦ hk⟩

end Services

section Events

open Events.EventsService

variable {text : EventText} {k : String} {db db' : EventsDb}

def Cancelled (k : String) (db : EventsDb) : Prop := ∃ e ∈ db.events.get? k, e.status = .cancelled

theorem stayOver_cancelled (h : StayOver db db') (hk : Cancelled k db) : Cancelled k db' := by
  obtain ⟨e, he, hcancelled⟩ := hk
  exact h.cancelled k e he hcancelled

theorem lifecycles_cancelled (op : LifecycleOp) : (op.runs text).Each fun label db db' ↦
    ¬Republishes k label db op → Cancelled k db → Cancelled k db' := by
  cases op with
  | publish eventId userId userRoles client =>
    have hread : ∀ label db, ¬Republishes k label db (.publish eventId userId userRoles client) →
        Cancelled k db → Cancelled k db := fun _ _ _ hk ↦ hk
    refine Call.each_map (Call.each_bind (Events.EventAuthorizationService.assertCanManageEvent_each
      (hread _) (hread _)) fun event ↦ ?_)
    refine Call.each_bind Call.each_returned fun _ ↦ Call.each_bind Call.each_returned fun _ ↦
      Call.each_bind Call.each_returned fun _ ↦ ?_
    refine Call.each_bind (Call.each_writes (hread _) fun env db db' event h hbows hk ↦ ?_)
      fun updated ↦ answered_each hread fun _ _ _ hbeside _ hk ↦
        stayOver_cancelled (Events.beside_over hbeside) hk
    obtain ⟨hupdate, hbeside⟩ := eventMoved_eq h
    refine kept_updated hupdate (fun _ ↦ rfl) (fun hid e he hcancelled ↦ ?_) hk
    subst hid
    exact absurd ⟨rfl, rfl, e, he, hcancelled⟩ hbows
  | cancel eventId userId userRoles client =>
    exact (Events.runs_over (.cancel eventId userId userRoles client)).mono
      fun _ _ _ h _ hk ↦ stayOver_cancelled (h trivial) hk
  | softDelete eventId userId userRoles client =>
    exact (Events.runs_over (.softDelete eventId userId userRoles client)).mono
      fun _ _ _ h _ hk ↦ stayOver_cancelled (h trivial) hk
  | update eventId userId userRoles dto client =>
    exact (Events.runs_over (.update eventId userId userRoles dto client)).mono
      fun _ _ _ h _ hk ↦ stayOver_cancelled (h trivial) hk
  | register eventId userId client =>
    exact (Events.runs_over (.register eventId userId client)).mono
      fun _ _ _ h _ hk ↦ stayOver_cancelled (h trivial) hk

end Events

section Ads

open SponsorAds SponsorAds.SponsorAdsService

variable {sponsorId adId k verb : String} {client : Client} {env : AuthEnv} {db db' : AdsDb}
  {change : SponsorAd → SponsorAd} {reply : SponsorAdResponseDto}

def Barred (k : String) (db : AdsDb) : Prop :=
  ∃ ad ∈ db.sponsorAds.get? k, isBarred ad.status = true

/-- An admin approves the ad `k`. -/
def Approves (k : String) : AdOp → Prop
  | .approveAd _ adId _ => adId = k
  | _ => False

/-- What a request of an operation keeps. -/
def KeepsBarred (k : String) (op : AdOp) (history : History String AdsDb) (label : String)
    (_ : AuthEnv) (db db' : AdsDb) : Prop :=
  db'.events = db.events ∧ (¬Approves k op → ¬Outdated k label history db op → Barred k db →
    Barred k db')

theorem beside_barred (h : Beside db db') :
    db'.events = db.events ∧ (Barred k db → Barred k db') := by
  obtain ⟨accounts, rfl⟩ := h
  exact ⟨rfl, fun hk ↦ hk⟩

theorem adUpdate_barred (h : adUpdate adId change env db = .ok (db', reply))
    (hid : ∀ ad, (change ad).id = ad.id) : db'.events = db.events ∧
      ((adId = k → ∀ ad ∈ db.sponsorAds.get? k, isBarred ad.status = true →
        isBarred (change ad).status = true) → Barred k db → Barred k db') := by
  refine ⟨?_, fun hnew hk ↦ kept_updated (adUpdate_eq h) hid (fun he ↦ hnew he.symm) hk⟩
  obtain ⟨sponsorAds, -, h⟩ := andThen_eq_ok.mp h
  obtain ⟨ad, -, h⟩ := andThen_eq_ok.mp h
  cases h
  rfl

theorem adCreate_barred {dto : CreateSponsorAdDto} {startsAt endsAt : Payments.Time}
    (h : adCreate sponsorId dto startsAt endsAt env db = .ok (db', reply)) :
    db'.events = db.events ∧ (Barred k db → Barred k db') := by
  obtain ⟨-, -, h⟩ := andThen_eq_ok.mp h
  obtain ⟨sponsorAds, hcreate, h⟩ := andThen_eq_ok.mp h
  cases h
  exact ⟨rfl, fun hk ↦ kept_created (ofRefusal_eq_ok.mp hcreate) hk⟩

theorem reviewed_barred {adminId eventType : String} {payload : List (String × JsValue)}
    {status : SponsorAdStatus} {reason : Option String} {now : Payments.Time}
    (h : reviewed adminId adId eventType payload status reason now env db = .ok (db', reply)) :
    db'.events = db.events ∧
      ((adId = k → isBarred status = true) → Barred k db → Barred k db') := by
  obtain ⟨-, -, h⟩ := andThen_eq_ok.mp h
  obtain ⟨⟨updated, ad⟩, hupdate, h⟩ := andThen_eq_ok.mp h
  obtain ⟨queued, henqueued, h⟩ := andThen_eq_ok.mp h
  cases h
  obtain ⟨hevents, hbarred⟩ := adUpdate_barred (k := k) hupdate fun _ ↦ rfl
  obtain ⟨hevents', hbarred'⟩ := beside_barred (k := k) (enqueued_eq_ok henqueued)
  refine ⟨hevents'.trans hevents, fun hstatus hk ↦ hbarred' (hbarred ?_ hk)⟩
  exact fun hid _ _ _ ↦ hstatus hid

theorem logged_barred {params : CreateAuditLogParams} {G : String → AdsDb → AdsDb → Prop}
    (hG : ∀ label db db', db'.events = db.events ∧ (Barred k db → Barred k db') → G label db db') :
    (log params client).Each G :=
  each_log fun db db' h ↦ hG _ db db' (beside_barred h)

theorem ownAd_each {G : String → AdsDb → AdsDb → Prop} (hread : ∀ label db, G label db db) :
    (ownAd sponsorId adId verb).Each G := by
  refine Call.each_bind (assertActiveSponsor_reads.mono fun label db _ h ↦ h ▸ hread label db)
    fun _ ↦ Call.each_bind (Call.each_bind (Call.each_reads (hread _)) fun _ ↦ Call.each_returned)
      fun ad ↦ Call.each_bind Call.each_returned fun _ ↦ Call.each_returned

theorem findForReview_each {G : String → AdsDb → AdsDb → Prop} (hread : ∀ label db, G label db db) :
    (findForReview adId).Each G :=
  findForReview_reads.mono fun label db _ h ↦ h ▸ hread label db

/-- What a request of an operation keeps that does not rest on what was found before. -/
theorem ads_each {op : AdOp} (hop : ∀ sponsorId adId dto client,
    op ≠ .updateAd sponsorId adId dto client) : op.runs.Each fun label db db' ↦
      ∀ history env, KeepsBarred k op history label env db db' := by
  have hkept : ∀ label db db', db'.events = db.events ∧ (Barred k db → Barred k db') →
      ∀ history env, KeepsBarred k op history label env db db' :=
    fun label db db' h history env ↦ ⟨h.1, fun _ _ ↦ h.2⟩
  have hread : ∀ label db, ∀ history env, KeepsBarred k op history label env db db :=
    fun label db ↦ hkept label db db ⟨rfl, fun hk ↦ hk⟩
  cases op with
  | createAd sponsorId dto client =>
    have hsponsor : (assertActiveSponsor sponsorId).Each fun label db db' ↦
        ∀ history env, KeepsBarred k (.createAd sponsorId dto client) history label env db db' :=
      assertActiveSponsor_reads.mono fun label db _ h ↦ h ▸ hread label db
    refine Call.each_map (Call.each_bind hsponsor fun _ ↦ Call.each_bind Call.each_returned
      fun dates ↦ ?_)
    refine Call.each_bind Call.each_returned fun _ ↦ Call.each_bind ?_ fun _ ↦ ?_
    · unfold assertTarget
      split
      · exact Call.each_returned
      · exact Call.each_bind (Call.each_reads (hread _)) fun _ ↦ Call.each_returned
    refine Call.each_bind (Call.each_writes (hread _) fun env db db' ad h ↦ ?_) fun ad ↦
      Call.each_bind (logged_barred hkept) fun _ ↦ Call.each_returned
    exact hkept _ db db' (adCreate_barred h)
  | updateAd sponsorId adId dto client => exact absurd rfl (hop sponsorId adId dto client)
  | submitAd sponsorId adId client =>
    refine Call.each_map (Call.each_bind (ownAd_each hread) fun ad ↦
      Call.each_bind Call.each_returned fun _ ↦ ?_)
    refine Call.each_bind (Call.each_writes (hread _) fun env db db' updated h ↦ ?_)
      fun updated ↦ ?_
    · obtain ⟨hevents, hbarred⟩ := adUpdate_barred (k := k) h fun _ ↦ rfl
      exact hkept _ db db' ⟨hevents, hbarred fun _ _ _ _ ↦ rfl⟩
    refine Call.each_bind (Call.each_writes (hread _) fun env db db' _ h ↦ ?_) fun _ ↦
      Call.each_bind (logged_barred hkept) fun _ ↦ Call.each_returned
    obtain ⟨queued, henqueued, h⟩ := andThen_eq_ok.mp h
    cases h
    exact hkept _ db db' (beside_barred (enqueued_eq_ok henqueued))
  | togglePauseAd sponsorId adId client =>
    refine Call.each_map (Call.each_bind (ownAd_each hread) fun ad ↦
      Call.each_bind Call.each_returned fun nextStatus ↦ ?_)
    refine Call.each_bind (Call.each_writes (hread _) fun env db db' updated h history env' ↦ ?_)
      fun updated ↦ Call.each_bind (logged_barred hkept) fun _ ↦ Call.each_returned
    obtain ⟨hevents, hbarred⟩ := adUpdate_barred (k := k) h fun _ ↦ rfl
    refine ⟨hevents, fun _ hcurrent ↦ hbarred fun hid ad had hstatus ↦ ?_⟩
    exact absurd ⟨rfl, hid, ad, hid ▸ had, hstatus⟩ hcurrent
  | deleteAd sponsorId adId client =>
    refine Call.each_map (Call.each_bind (ownAd_each hread) fun ad ↦ ?_)
    refine Call.each_bind (Call.each_writes (hread _) fun env db db' updated h ↦ ?_) fun _ ↦
      logged_barred hkept
    obtain ⟨hevents, hbarred⟩ := adUpdate_barred (k := k) h fun _ ↦ rfl
    exact hkept _ db db' ⟨hevents, hbarred fun _ _ _ hstatus ↦ hstatus⟩
  | approveAd adminId adId client =>
    refine Call.each_map (Call.each_bind (findForReview_each hread) fun found ↦
      Call.each_bind Call.each_returned fun _ ↦ ?_)
    refine Call.each_bind (Call.each_writes (hread _) fun env db db' updated h history env' ↦ ?_)
      fun updated ↦ Call.each_bind (logged_barred hkept) fun _ ↦ Call.each_returned
    obtain ⟨hevents, hbarred⟩ := reviewed_barred (k := k) h
    exact ⟨hevents, fun hother _ ↦ hbarred fun hid ↦ absurd hid hother⟩
  | rejectAd adminId adId dto client =>
    refine Call.each_map (Call.each_bind (findForReview_each hread) fun found ↦
      Call.each_bind Call.each_returned fun _ ↦ ?_)
    refine Call.each_bind (Call.each_writes (hread _) fun env db db' updated h ↦ ?_)
      fun updated ↦ Call.each_bind (logged_barred hkept) fun _ ↦ Call.each_returned
    obtain ⟨hevents, hbarred⟩ := reviewed_barred (k := k) h
    exact hkept _ db db' ⟨hevents, hbarred fun _ ↦ rfl⟩

/-- The ad is the one that the latest request has found. -/
theorem ownAd_traces {P : History String AdsDb → String → AuthEnv → AdsDb → AdsDb → Prop}
    {history : History String AdsDb} (hread : ∀ history label env db, P history label env db db) :
    (ownAd sponsorId adId verb).Traces P (fun history ad ↦ ∃ found ∈ history.last,
      found.sponsorAds.get? adId = some ad) history := by
  refine Call.traces_bind ((Call.traces_each assertActiveSponsor_reads
    fun _ _ _ _ _ h ↦ h ▸ hread _ _ _ _).mono fun history _ _ ↦ ?_)
  refine Call.traces_bind (Call.traces_bind (Call.traces_reads (hread _ _) fun env db ↦ ?_))
  refine Call.traces_returned fun ad had ↦ ?_
  refine Call.traces_bind (Call.traces_returned fun _ _ ↦ Call.traces_returned fun ad' had' ↦ ?_)
  cases had'
  exact ⟨db, History.last_concat, (Option.filter_eq_some_iff.mp (present_eq_ok.mp had)).1⟩

theorem updateAd_kept {dto : UpdateSponsorAdDto} : (updateAd sponsorId adId dto client).Traces
    (KeepsBarred k (.updateAd sponsorId adId dto client)) (fun _ _ ↦ True) [] := by
  have hkept : ∀ history label env db db', db'.events = db.events ∧ (Barred k db → Barred k db') →
      KeepsBarred k (.updateAd sponsorId adId dto client) history label env db db' :=
    fun _ _ _ _ _ h ↦ ⟨h.1, fun _ _ ↦ h.2⟩
  have hread := fun history label env db ↦ hkept history label env db db ⟨rfl, fun hk ↦ hk⟩
  refine Call.traces_bind ((ownAd_traces hread).mono fun history ad hfound ↦ ?_)
  refine Call.traces_bind (Call.traces_returned fun _ _ ↦ ?_)
  refine Call.traces_bind (Call.traces_writes (hread _ _) fun env db db' updated h ↦ ⟨?_, ?_⟩)
  · obtain ⟨startsAt, -, h⟩ := andThen_eq_ok.mp h
    obtain ⟨endsAt, -, h⟩ := andThen_eq_ok.mp h
    obtain ⟨hevents, hbarred⟩ := adUpdate_barred (k := k) h fun _ ↦ rfl
    refine ⟨hevents, fun _ hcurrent ↦ hbarred fun hid _ _ _ ↦ ?_⟩
    by_contra hout
    obtain ⟨found, hlast, had⟩ := hfound
    exact hcurrent ⟨rfl, hid, found, hlast, ad, had, Bool.eq_false_of_not_eq_true hout⟩
  · exact Call.traces_bind ((Call.traces_each (logged_barred fun _ _ _ h ↦ h)
      fun _ _ _ _ _ h ↦ hkept _ _ _ _ _ h).mono fun _ _ _ ↦ Call.traces_returned fun _ _ ↦ trivial)

theorem ads_kept (op : AdOp) : op.runs.Traces (KeepsBarred k op) (fun _ _ ↦ True) [] := by
  cases op with
  | updateAd sponsorId adId dto client =>
    exact Call.traces_map updateAd_kept
  | createAd | submitAd | togglePauseAd | deleteAd | approveAd | rejectAd =>
    exact Call.traces_each (ads_each fun _ _ _ _ h ↦ by cases h) fun _ _ _ _ _ h ↦ h _ _

end Ads

section Contents

variable {text : EventText} {targetType : ReportTargetType} {targetId : String} {db : ContentDb}

/-- What a request of an operation keeps of a decision. -/
def KeepsWithdrawn (targetType : ReportTargetType) (targetId : String) (op : ContentOp)
    (history : ContentHistory) (label : String) (_ : AuthEnv) (db db' : ContentDb) : Prop :=
  ¬op.Lifts targetType targetId → ¬op.Defies targetType targetId history label db →
    Withdrawn targetType targetId db → Withdrawn targetType targetId db'

theorem cancelled_congr {db db' : EventsDb} (h : db'.events = db.events)
    (hk : Cancelled targetId db) : Cancelled targetId db' := by
  rw [Cancelled, h]
  exact hk

theorem updateService_kept {providerId serviceId : String} {dto : UpdateC2bServiceDto}
    {client : Client} : ((ContentOp.updateService providerId serviceId dto client).runs text).Each
      fun label db db' ↦ ∀ history env, KeepsWithdrawn targetType targetId
        (.updateService providerId serviceId dto client) history label env db db' := by
  refine Call.each_map ((Call.each_focus (updateService_unavailable (k := targetId))).mono ?_)
  rintro label db _ ⟨offers, ⟨hevents, hstays⟩, rfl⟩ _ _ _ hobeys hk
  cases targetType with
  | c2bService => exact hstays (fun hlisted ↦ hobeys ⟨rfl, hlisted⟩) hk
  | event => exact cancelled_congr hevents hk
  | communityMeetup | sponsorAd => exact hk
  | communityPost | communityReply | communityChatMessage | community | vendorService | user =>
    exact hk

theorem meetups_kept (op : MeetupOp) : ((ContentOp.meetup op).runs text).Each
    fun label db db' ↦ ∀ history env, KeepsWithdrawn targetType targetId (.meetup op) history label
      env db db' := by
  refine Call.each_map ((Call.each_focus (meetups_off (k := targetId) op)).mono ?_)
  rintro label db _ ⟨social, hstays, rfl⟩ _ _ _ hobeys hk
  cases targetType with
  | communityMeetup => exact hstays (fun hscheduled ↦ hobeys ⟨rfl, hscheduled⟩) hk
  | c2bService | sponsorAd | event => exact hk
  | communityPost | communityReply | communityChatMessage | community | vendorService | user =>
    exact hk

theorem events_kept (op : LifecycleOp) : ((ContentOp.event op).runs text).Each
    fun label db db' ↦ ∀ history env, KeepsWithdrawn targetType targetId (.event op) history label
      env db db' := by
  refine Call.each_map ((Call.each_focus (lifecycles_cancelled (k := targetId) op)).mono ?_)
  rintro label db _ ⟨schedule, hstays, rfl⟩ _ _ _ hobeys hk
  cases targetType with
  | event => exact hstays (fun hpublished ↦ hobeys ⟨rfl, hpublished⟩) hk
  | c2bService | communityMeetup | sponsorAd => exact hk
  | communityPost | communityReply | communityChatMessage | community | vendorService | user =>
    exact hk

theorem adsView_putAds {ads : AdsDb} (h : ads.events = db.events) :
    (db.putAds ads).adsView = ads := by
  obtain ⟨accounts, events, sponsorAds⟩ := ads
  cases h
  rfl

theorem adsOps_kept (op : AdOp) : ((ContentOp.ad op).runs text).Traces
    (KeepsWithdrawn targetType targetId (.ad op)) (fun _ _ ↦ True) [] := by
  have hview : ∀ history label env (db : ContentDb) (ads : AdsDb),
      KeepsBarred targetId op history label env db.adsView ads → (db.putAds ads).adsView = ads :=
    fun _ _ _ _ _ h ↦ adsView_putAds h.1
  refine Call.traces_map ((Call.traces_focus hview (ads_kept op)).imp ?_)
  rintro history label env db db' ⟨⟨-, hstays⟩, hput⟩ hlifts hobeys hk
  cases targetType with
  | sponsorAd =>
    refine hstays (fun happroves ↦ hlifts ?_) (fun houtdated ↦ hobeys ⟨rfl, houtdated⟩) hk
    cases op with
    | approveAd adminId adId client => exact ⟨rfl, happroves⟩
    | createAd | updateAd | submitAd | togglePauseAd | deleteAd | rejectAd => exact happroves
  | c2bService | communityMeetup | event =>
    rw [hput]
    exact hk
  | communityPost | communityReply | communityChatMessage | community | vendorService | user =>
    exact hk

end Contents

section Decisions

variable {text : EventText} {targetType : ReportTargetType} {targetId adminUserId : String}
  {dto : AdminModerationDto} {client : Client} {env : AuthEnv} {db db' : ContentDb}

/-- The model of the table in which a decision is written. -/
def modelOf : ReportTargetType → String
  | .communityPost => "communityPost"
  | .communityReply => "communityPostReply"
  | .communityMeetup => "communityMeetup"
  | .sponsorAd => "sponsorAd"
  | .c2bService => "c2bService"
  | .vendorService => "vendorService"
  | .event => "event"
  | .communityChatMessage | .community | .user => ""

/-- The types of content that owners publish and take back themselves. -/
def Withdrawable (targetType : ReportTargetType) : Prop :=
  targetType ∈ [.c2bService, .communityMeetup, .sponsorAd, .event]

/-- An admin hides or rejects the content. -/
def ContentOp.Decides (targetType : ReportTargetType) (targetId : String) : ContentOp → Prop
  | moderateContent _ dto _ =>
    dto.targetType = targetType ∧ dto.targetId = targetId ∧ dto.action ≠ .restore
  | _ => False

/-- The request of a decision that writes it. -/
def ContentOp.Withdraws (targetType : ReportTargetType) (targetId : String) (op : ContentOp)
    (label : String) : Prop :=
  op.Decides targetType targetId ∧ label = modelOf targetType ++ ".update"

/-- A decision about the content has been written. -/
def Carried (targetType : ReportTargetType) (targetId : String)
    (p : Pool ContentDb ContentTask) : Prop :=
  Left (ContentOp.Withdraws targetType targetId) (Withdrawn targetType targetId) p

/-- What an update by an admin does to all content. -/
structure DecidedBy (dto : AdminModerationDto) (db db' : ContentDb) : Prop where
  keeps : ∀ targetType targetId, Withdrawn targetType targetId db →
    ¬(dto.targetType = targetType ∧ dto.targetId = targetId ∧ dto.action = .restore) →
      Withdrawn targetType targetId db'
  withdraws : dto.action ≠ .restore → Withdrawable dto.targetType →
    Withdrawn dto.targetType dto.targetId db'

/-- The part of a decision that finds the content and updates it. -/
theorem moderate_cases (dto : AdminModerationDto) : (∃ x, moderate dto = .returned (.error x)) ∨
    ∃ missing found write, moderate dto = moderated (modelOf dto.targetType) missing found write ∧
      ∀ env db db', write env db = .ok db' → DecidedBy dto db db' := by
  obtain ⟨targetType, targetId, action, reason⟩ := dto
  cases targetType with
  | communityChatMessage | community | user => exact .inl ⟨_, rfl⟩
  | communityMeetup =>
    refine .inr ⟨_, _, _, rfl, fun env db db' h ↦ ?_⟩
    obtain ⟨meetups, hupdate, h⟩ := andThen_eq_ok.mp h
    cases h
    obtain ⟨hkeeps, hnew⟩ := decided_rows action (p := fun m ↦ m.status ≠ .scheduled)
      (ofRefusal_eq_ok.mp hupdate) (fun _ ↦ rfl) fun haction m ↦ by simp [haction]
    refine ⟨fun tt k hk hlifts ↦ ?_, fun haction _ ↦ hnew haction⟩
    cases tt with
    | communityMeetup => exact hkeeps k (fun h ↦ hlifts ⟨rfl, h⟩) hk
    | _ => exact hk
  | sponsorAd =>
    refine .inr ⟨_, _, _, rfl, fun env db db' h ↦ ?_⟩
    obtain ⟨ads, hupdate, h⟩ := andThen_eq_ok.mp h
    cases h
    obtain ⟨hkeeps, hnew⟩ := decided_rows action (p := fun ad ↦ isBarred ad.status = true)
      (ofRefusal_eq_ok.mp hupdate) (fun _ ↦ rfl) fun haction ad ↦ by simp [haction, isBarred]
    refine ⟨fun tt k hk hlifts ↦ ?_, fun haction _ ↦ hnew haction⟩
    cases tt with
    | sponsorAd => exact hkeeps k (fun h ↦ hlifts ⟨rfl, h⟩) hk
    | _ => exact hk
  | c2bService =>
    refine .inr ⟨_, _, _, rfl, fun env db db' h ↦ ?_⟩
    obtain ⟨services, hupdate, h⟩ := andThen_eq_ok.mp h
    obtain ⟨details, -, h⟩ := andThen_eq_ok.mp h
    cases h
    obtain ⟨hkeeps, hnew⟩ := decided_rows action (p := fun s ↦ s.isAvailable = false)
      (ofRefusal_eq_ok.mp hupdate) (fun _ ↦ rfl) fun haction s ↦ by simp [haction]
    refine ⟨fun tt k hk hlifts ↦ ?_, fun haction _ ↦ hnew haction⟩
    cases tt with
    | c2bService => exact hkeeps k (fun h ↦ hlifts ⟨rfl, h⟩) hk
    | _ => exact hk
  | event =>
    refine .inr ⟨_, _, _, rfl, fun env db db' h ↦ ?_⟩
    obtain ⟨events, hupdate, h⟩ := andThen_eq_ok.mp h
    cases h
    obtain ⟨hkeeps, hnew⟩ := decided_rows action (p := fun e ↦ e.status = .cancelled)
      (ofRefusal_eq_ok.mp hupdate) (fun _ ↦ rfl) fun haction e ↦ by simp [haction]
    refine ⟨fun tt k hk hlifts ↦ ?_, fun haction _ ↦ hnew haction⟩
    cases tt with
    | event => exact hkeeps k (fun h ↦ hlifts ⟨rfl, h⟩) hk
    | _ => exact hk
  | communityPost | communityReply | vendorService =>
    -- what these updates write tells nothing of the four types
    refine .inr ⟨_, _, _, rfl, fun env db db' h ↦ ?_⟩
    obtain ⟨_, -, h⟩ := andThen_eq_ok.mp h
    cases h
    refine ⟨fun tt k hk _ ↦ ?_, fun _ htype ↦ by simp [Withdrawable] at htype⟩
    cases tt <;> exact hk

/-- A decision that is answered has been written. -/
theorem moderateContent_kept : (moderateContent adminUserId dto client).Traces
    (KeepsWithdrawn targetType targetId (.moderateContent adminUserId dto client))
    (fun history _ ↦ Withdrawable targetType →
      ContentOp.Decides targetType targetId (.moderateContent adminUserId dto client) →
        ∃ event ∈ history, ContentOp.Withdraws targetType targetId
          (.moderateContent adminUserId dto client) event.1 ∧
            Withdrawn targetType targetId event.2.2) [] := by
  have hread : ∀ history label env db, KeepsWithdrawn targetType targetId
      (.moderateContent adminUserId dto client) history label env db db :=
    fun _ _ _ _ _ _ hk ↦ hk
  refine Call.traces_bind ?_
  rcases moderate_cases dto with ⟨x, hx⟩ | ⟨missing, found, write, hmoderate, hwrite⟩
  · rw [hx]
    trivial
  rw [hmoderate]
  refine Call.traces_bind (Call.traces_reads (hread _ _) fun env db ↦ ?_)
  refine Call.traces_bind (Call.traces_returned fun _ _ ↦ ?_)
  refine Call.traces_writes (hread _ _) fun env db db' u h ↦ ?_
  obtain ⟨written, hwritten, h⟩ := andThen_eq_ok.mp h
  cases h
  have hdecided := hwrite env db db' hwritten
  refine ⟨fun hlifts _ hk ↦ hdecided.keeps _ _ hk hlifts, ?_⟩
  -- neither the log nor the clock touches the content
  have hlog : ((log
      { actorUserId := some adminUserId
        action := "CONTENT_MODERATED"
        resourceType := dto.targetType.text
        resourceId := some dto.targetId
        metadata := [("action", .str dto.action.text), ("reason", .str dto.reason)] }
      client : ContentCall Unit)).Each fun _ db db' ↦
        Withdrawn targetType targetId db → Withdrawn targetType targetId db' := by
    refine each_log ?_
    rintro db _ ⟨accounts, rfl⟩ hk
    cases targetType <;> exact hk
  refine Call.traces_bind ((Call.traces_each hlog fun _ _ _ _ _ h _ _ ↦ h).grows.mono
    fun history _ ⟨hgrown, _⟩ ↦ ?_)
  refine Call.traces_bind (Call.traces_ask (hread _ _) fun env db now _ ↦ ?_)
  refine Call.traces_returned fun result _ htype ↦ ?_
  rintro ⟨rfl, rfl, haction⟩
  refine ⟨_, List.mem_append_left _ (hgrown.subset (List.mem_append_right _
    (List.mem_singleton_self _))), ⟨⟨rfl, rfl, haction⟩, rfl⟩, hdecided.withdraws haction htype⟩

/-- What the operations keep, and what an answered decision has written. -/
theorem runs_kept (op : ContentOp) : (op.runs text).Traces (KeepsWithdrawn targetType targetId op)
    (fun history _ ↦ Withdrawable targetType → op.Decides targetType targetId →
      ∃ event ∈ history, op.Withdraws targetType targetId event.1 ∧
        Withdrawn targetType targetId event.2.2) [] := by
  cases op with
  | updateService providerId serviceId dto client =>
    exact (Call.traces_each updateService_kept fun _ _ _ _ _ h ↦ h _ _).mono
      fun _ _ _ _ hdecides ↦ hdecides.elim
  | meetup op =>
    exact (Call.traces_each (meetups_kept op) fun _ _ _ _ _ h ↦ h _ _).mono
      fun _ _ _ _ hdecides ↦ hdecides.elim
  | ad op => exact (adsOps_kept op).mono fun _ _ _ _ hdecides ↦ hdecides.elim
  | event op =>
    exact (Call.traces_each (events_kept op) fun _ _ _ _ _ h ↦ h _ _).mono
      fun _ _ _ _ hdecides ↦ hdecides.elim
  | moderateContent adminUserId dto client =>
    exact Call.traces_map moderateContent_kept

theorem not_active (h : Withdrawn targetType targetId db) : ¬Active targetType targetId db := by
  intro hactive
  cases targetType with
  | c2bService | communityMeetup | event =>
    obtain ⟨r, hr, hoff⟩ := h
    obtain ⟨r', hr', hon⟩ := hactive
    cases hr.symm.trans hr'
    simp_all
  | sponsorAd =>
    obtain ⟨ad, had, hbarred⟩ := h
    obtain ⟨ad', had', hout⟩ := hactive
    cases had.symm.trans had'
    rcases hout with hout | hout <;> simp [isBarred, hout] at hbarred
  | communityPost | communityReply | communityChatMessage | community | vendorService | user =>
    exact h

/-- Once an admin has hidden or rejected a service, a meetup, an ad or an event, it stays inactive
until an admin brings it back, unless its owner lists the service or schedules the meetup again, or
a request that rests on what it found before the decision prevails over it. -/
theorem decision_lasts {q : Pool ContentDb ContentTask}
    (hq : Reach (contentCalls text).Step (fun p m ↦ Carried targetType targetId p →
      Heeding (fun op history label db ↦ ¬op.Lifts targetType targetId ∧
        ¬op.Defies targetType targetId history label db) p m) (fun p ↦ p.threads = []) q)
    (htype : Withdrawable targetType) :
    (∀ t ∈ q.threads, t.op.Decides targetType targetId → ∀ reply, t.call = .returned (.ok reply) →
        Carried targetType targetId q) ∧
      (Carried targetType targetId q → Withdrawn targetType targetId q.shared ∧
        ¬Active targetType targetId q.shared) := by
  constructor
  · intro t ht hdecides reply hreply
    have htraces := tracing_reach (P := KeepsWithdrawn targetType targetId) runs_kept
      (fun _ hp ↦ hp) hq t ht
    rw [hreply] at htraces
    obtain ⟨event, hevent, hwritten⟩ := htraces htype hdecides
    exact ⟨t, ht, event, hevent, hwritten⟩
  · intro hcarried
    have hwithdrawn := left_stays runs_kept (fun op history label env db db' hkept hobeys ↦
      hkept hobeys.1 hobeys.2) (fun _ hp ↦ hp) hq hcarried
    exact ⟨hwithdrawn, not_active hwithdrawn⟩

end Decisions

section Sample

/-- The meetup of the community, with the accounts and the event. -/
def meetupDb : ContentDb := { contentDb with social := Communities.Social.breakfastDb }

/-- An admin hides the meetup. -/
def hidden : ContentOp := .moderateContent "user-2"
  { targetType := .communityMeetup
    targetId := "meetup-1"
    action := .hide
    reason := "SPAM" } nobody

/-- The creator edits the meetup. -/
def editing (status : Option CommunityMeetupStatus) : ContentOp :=
  .meetup (.update "community-1" "meetup-1" "user-1" []
    { Communities.Social.UpdateMeetupDto.empty with
      title := some (some "Brunch")
      status := status.map some })

/-- The operations begin together. -/
def begun (ops : List ContentOp) : Pool ContentDb ContentTask :=
  ⟨meetupDb, ops.map fun op ↦ ⟨op, [], op.runs Events.sampleText⟩⟩

/-- The title and the status of the meetup. -/
def meetupState (p : Pool ContentDb ContentTask) : Option (String × CommunityMeetupStatus) :=
  (p.shared.social.communityMeetups.get? "meetup-1").map fun m ↦ (m.title, m.status)

/-- The creator edits the meetup after it has been hidden. -/
theorem hidden_and_edited : ∃ q : Pool ContentDb ContentTask,
    meetupState q = some ("Brunch", .cancelled) ∧
    (∀ t ∈ q.threads, t.op.Decides .communityMeetup "meetup-1" →
        ∀ reply, t.call = .returned (.ok reply) → Carried .communityMeetup "meetup-1" q) ∧
      (Carried .communityMeetup "meetup-1" q →
        Withdrawn .communityMeetup "meetup-1" q.shared ∧
          ¬Active .communityMeetup "meetup-1" q.shared) := by
  have hrun : ((contentCalls Events.sampleText).play (meets fun op history label db ↦
      ¬op.Lifts .communityMeetup "meetup-1" ∧
        ¬op.Defies .communityMeetup "meetup-1" history label db)
      (Communities.Social.requests 0 4 "a" ++ Communities.Social.requests 1 2 "b")
      (begun [hidden, editing none])).any (fun p ↦
        meetupState p == some ("Brunch", .cancelled)) = true := by
    decide +kernel
  obtain ⟨q, hq, htest⟩ := (Option.any_eq_true ..).mp hrun
  have hreach : Reach (contentCalls Events.sampleText).Step (Heeding fun op history label db ↦
      ¬op.Lifts .communityMeetup "meetup-1" ∧
        ¬op.Defies .communityMeetup "meetup-1" history label db) (fun p ↦ p.threads = []) q :=
    reach_tasks (fun _ _ _ h ↦ meets_sound h) rfl hq
  have hlater : Reach (contentCalls Events.sampleText).Step (fun p m ↦
      Carried .communityMeetup "meetup-1" p → Heeding (fun op history label db ↦
        ¬op.Lifts .communityMeetup "meetup-1" ∧
          ¬op.Defies .communityMeetup "meetup-1" history label db) p m)
      (fun p ↦ p.threads = []) q := by
    apply hreach.mono
    intro p m hobeys _
    exact hobeys
  exact ⟨q, beq_iff_eq.mp htest, decision_lasts hlater (by simp [Withdrawable])⟩

/-- The creator schedules the meetup again after it has been hidden. -/
theorem hidden_and_scheduled : ∃ p q : Pool ContentDb ContentTask,
    Reach (contentCalls Events.sampleText).Step (fun _ _ ↦ True) (fun p ↦ p.threads = []) p ∧
      Reach (contentCalls Events.sampleText).Step (fun _ _ ↦ True) (fun u ↦ u = p) q ∧
      meetupState p = some ("Breakfast", .cancelled) ∧
      meetupState q = some ("Brunch", .scheduled) := by
  have hrun : ((contentCalls Events.sampleText).play (fun _ _ _ ↦ true)
      (Communities.Social.requests 0 4 "a") (begun [hidden, editing (some .scheduled)])).any
        (fun p ↦ meetupState p == some ("Breakfast", .cancelled) &&
          ((contentCalls Events.sampleText).play (fun _ _ _ ↦ true)
            (Communities.Social.requests 1 2 "b") p).any fun q ↦
              meetupState q == some ("Brunch", .scheduled)) = true := by
    decide +kernel
  obtain ⟨p, hp, htest⟩ := (Option.any_eq_true ..).mp hrun
  obtain ⟨hfirst, htest⟩ := Bool.and_eq_true_iff.mp htest
  obtain ⟨q, hq, hlast⟩ := (Option.any_eq_true ..).mp htest
  have hreach : Reach (contentCalls Events.sampleText).Step (Heeding fun _ _ _ _ ↦ True)
      (fun p ↦ p.threads = []) p := reach_tasks (fun _ _ _ _ _ _ _ _ ↦ trivial) rfl hp
  exact ⟨p, q, hreach.mono fun _ _ _ ↦ trivial,
    Machine.reach_play (fun _ _ _ _ ↦ trivial) (.start rfl) hq, beq_iff_eq.mp hfirst,
    beq_iff_eq.mp hlast⟩

end Sample

end Innovents.Moderation
