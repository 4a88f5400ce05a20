import Innovents.Communities.CommunitiesService
import Innovents.Payments.SponsorshipActivities

namespace Innovents.Communities

open Innovents.Lib Innovents.Payments PaymentsService PaymentReconciliationService
open StripeWebhookService CommunitiesService CommunityMembersService
open CommunitySponsorshipExpirationService

/-- The operations on communities and their sponsorships, each of them run on its own. -/
inductive CapacityOp
  | create (userId : String) (userRoles : List String) (dto : CreateCommunityDto)
  | update (communityId userId : String) (userRoles : List String) (dto : UpdateCommunityDto)
  | payment (op : PaymentOp)
  | sweep

namespace CapacityOp

/-- The operation runs from `db` to `db'` with inputs that meet `ok`. -/
inductive Runs (ok : Env → Prop) : CapacityOp → Db → Db → Prop
  | create {userId : String} {userRoles : List String} {dto : CreateCommunityDto} {db db' : Db}
      {r : Except Err Community} : (CommunitiesService.create userId userRoles dto).Ran ok db r db' →
      Runs ok (.create userId userRoles dto) db db'
  | update {communityId userId : String} {userRoles : List String} {dto : UpdateCommunityDto}
      {db db' : Db} {r : Except Err Community} :
      (CommunitiesService.update communityId userId userRoles dto).Ran ok db r db' →
      Runs ok (.update communityId userId userRoles dto) db db'
  | payment {op : PaymentOp} {db db' : Db} : op.Runs ok db db' → Runs ok (.payment op) db db'
  | sweep {db db' : Db} {r : Except Err ℕ} : sweepExpiredSponsorships.Ran ok db r db' →
      Runs ok .sweep db db'

/-- One operation after another, while time passes. Generated keys are not empty. -/
def Next (w : World) (op : CapacityOp) (w' : World) : Prop :=
  w.clock ≤ w'.clock ∧ op.Runs (fun env ↦
    w.clock ≤ env.now ∧ env.now ≤ w'.clock ∧ env.communityId ≠ "") w.db w'.db

end CapacityOp

/-- The capacity fits the sponsorships of the community: it is 20 if none is active,
and that of every running one. -/
def Fits (capacity : ℤ) (communityId : String) (w : World) : Prop :=
  ((∀ s ∈ w.db.communitySponsorships.rows, s.communityId = communityId → s.status ≠ .active) →
    capacity = 20) ∧
  ∀ s ∈ w.db.communitySponsorships.rows, s.communityId = communityId →
    s.isRunning w.clock = true → capacity = s.sponsoredCapacity

structure CapacityKept (w : World) : Prop where
  named : ∀ c ∈ w.db.communities.rows, c.id ≠ ""
  linked : ∀ s ∈ w.db.communitySponsorships.rows,
    ∃ c ∈ w.db.communities.rows, c.id = s.communityId
  dated : ∀ s ∈ w.db.communitySponsorships.rows, s.status = .active → s.endsAt.isSome = true
  fits : ∀ c ∈ w.db.communities.rows, Fits c.memberCapacity c.id w

/-- The capacity that the activation of a payment writes. -/
def activatedCapacity (event : PaymentWebhookEvent) (payment : Payment) (db : Db) :
    Except Err ℤ := do
  let planKey ← textArg (((((eventObject event).get "metadata").or (.obj [])).get "planId").or
    (payment.metadataField PaymentMetadata.planId))
  return (planTerms (db.communitySponsorshipPlans.get? planKey)).1

/-- A new community gets a capacity of 20, an update writes a capacity that fits, and
a sponsorship is activated next to running ones of the same capacity only. -/
def WritesEffective (w : World) : CapacityOp → Prop
  | .create _ _ dto => newCapacity dto = 20
  | .update communityId userId userRoles dto => ∀ community capacity,
      managedCommunity userId userRoles communityId w.db = .ok community →
      updatedCapacity community dto = .ok (some capacity) → Fits capacity communityId w
  | .payment (.webhook event) => ∀ payment communityId capacity,
      activatedPayment event w.db = some payment →
      sponsoredCommunity event payment = .ok communityId →
      activatedCapacity event payment w.db = .ok capacity →
      ∀ s ∈ w.db.communitySponsorships.rows, s.communityId = communityId →
        s.isRunning w.clock = true → s.sponsoredCapacity = capacity
  | .payment _ | .sweep => True

section Steps

variable {db db' : Db} {now clock : Time} {capacity : ℤ} {communityId : String}

theorem Fits.later (h : Fits capacity communityId ⟨db, now⟩) (hle : now ≤ clock) :
    Fits capacity communityId ⟨db, clock⟩ :=
  ⟨h.1, fun s hs hc hr ↦ h.2 s hs hc (isRunning_mono hle hr)⟩

theorem Fits.congr (h : Fits capacity communityId ⟨db, clock⟩)
    (hs : db'.communitySponsorships = db.communitySponsorships) :
    Fits capacity communityId ⟨db', clock⟩ := by
  simpa only [Fits, hs] using h

theorem CapacityKept.later (h : CapacityKept ⟨db, now⟩) (hle : now ≤ clock) :
    CapacityKept ⟨db, clock⟩ :=
  ⟨h.named, h.linked, h.dated, fun c hc ↦ (h.fits c hc).later hle⟩

theorem CapacityKept.congr (h : CapacityKept ⟨db, clock⟩)
    (hs : db'.communitySponsorships = db.communitySponsorships)
    (hc : db'.communities = db.communities) : CapacityKept ⟨db', clock⟩ := by
  refine ⟨?_, ?_, ?_, ?_⟩
  · simpa only [hc] using h.named
  · simpa only [hs, hc] using h.linked
  · simpa only [hs] using h.dated
  · rw [hc]
    exact fun c hm ↦ (h.fits c hm).congr hs

/-- The end of a sponsorship: the capacity is reset, unless another one is running. -/
theorem CapacityKept.ended {status : CommunitySponsorshipStatus} {s : CommunitySponsorship}
    (h : CapacityKept ⟨db, clock⟩) (hne : status ≠ .active)
    (hthere : ∃ r ∈ db.communitySponsorships.rows, r.id = s.id ∧ r.communityId = s.communityId)
    (hle : now ≤ clock) (he : Ended status now s db db') : CapacityKept ⟨db', clock⟩ := by
  obtain ⟨r₀, hr₀, hid₀, hcommunity₀⟩ := hthere
  -- what is active afterwards was there before and is not the one that ended
  have hactive : ∀ r ∈ db'.communitySponsorships.rows, r.status = .active →
      r ∈ db.communitySponsorships.rows ∧ r.id ≠ s.id := by
    intro r hr hs
    rw [he.sponsorships, Table.mem_updateRows] at hr
    rcases hr with ⟨a, _, _, rfl⟩ | ⟨hr, hid⟩
    · exact absurd hs hne
    · exact ⟨hr, hid⟩
  have hkept : ∀ r ∈ db.communitySponsorships.rows, r.id ≠ s.id →
      r ∈ db'.communitySponsorships.rows := by
    intro r hr hid
    rw [he.sponsorships]
    exact Table.mem_updateRows.mpr (.inr ⟨hr, hid⟩)
  have hfits : ∀ c ∈ db.communities.rows,
      (c.id = s.communityId → db.otherRunning now s.communityId s.id = true) →
      Fits c.memberCapacity c.id ⟨db', clock⟩ := by
    intro c hc hother
    obtain ⟨hfree, hrunning⟩ := h.fits c hc
    refine ⟨fun hnone ↦ hfree fun r hr hrc hrs ↦ ?_, fun r hr hrc hrr ↦ ?_⟩
    · by_cases hid : r.id = s.id
      · have hcs : c.id = s.communityId := by
          rw [← hrc, ← hcommunity₀,
            db.communitySponsorships.eq_of_id hr hr₀ (hid.trans hid₀.symm)]
        obtain ⟨o, ho, hor⟩ := List.any_eq_true.mp (hother hcs)
        simp only [Bool.and_eq_true, beq_iff_eq, bne_iff_ne] at hor
        refine hnone o (hkept o ho hor.2) (hor.1.1.trans hcs.symm) ?_
        exact beq_iff_eq.mp (Bool.and_eq_true_iff.mp hor.1.2).1
      · exact hnone r (hkept r hr hid) hrc hrs
    · have hrs : r.status = .active := beq_iff_eq.mp (Bool.and_eq_true_iff.mp hrr).1
      exact hrunning r (hactive r hr hrs).1 hrc hrr
  have hlinked : ∀ k, (∃ c ∈ db.communities.rows, c.id = k) →
      (∀ c ∈ db.communities.rows, ∃ c' ∈ db'.communities.rows, c'.id = c.id) →
      ∃ c ∈ db'.communities.rows, c.id = k := by
    intro k hk hids
    obtain ⟨c, hc, rfl⟩ := hk
    exact hids c hc
  have hlink : (∀ c ∈ db.communities.rows, ∃ c' ∈ db'.communities.rows, c'.id = c.id) →
      ∀ r ∈ db'.communitySponsorships.rows, ∃ c ∈ db'.communities.rows, c.id = r.communityId := by
    intro hids r hr
    rw [he.sponsorships, Table.mem_updateRows] at hr
    rcases hr with ⟨a, ha, _, rfl⟩ | ⟨hr, _⟩
    · exact hlinked _ (h.linked a ha) hids
    · exact hlinked _ (h.linked r hr) hids
  have hdated : ∀ r ∈ db'.communitySponsorships.rows, r.status = .active →
      r.endsAt.isSome = true := fun r hr hs ↦ h.dated r (hactive r hr hs).1 hs
  have hcommunities := he.communities
  split_ifs at hcommunities with hother
  · refine ⟨?_, hlink fun c hc ↦ ⟨c, hcommunities ▸ hc, rfl⟩, hdated, ?_⟩
    · rw [hcommunities]
      exact h.named
    · rw [hcommunities]
      exact fun c hc ↦ hfits c hc fun _ ↦ hother
  · obtain ⟨_, hrows⟩ := hcommunities
    have hsplit : ∀ c ∈ db'.communities.rows, (c.id = s.communityId ∧ c.memberCapacity = 20 ∧
        ∃ c₀ ∈ db.communities.rows, c₀.id = c.id) ∨
        (c ∈ db.communities.rows ∧ c.id ≠ s.communityId) := by
      intro c hc
      rw [hrows, Table.mem_updateRows] at hc
      rcases hc with ⟨a, ha, haid, rfl⟩ | hc
      · exact .inl ⟨haid, rfl, a, ha, rfl⟩
      · exact .inr hc
    refine ⟨fun c hc ↦ ?_, hlink fun c hc ↦ ?_, hdated, fun c hc ↦ ?_⟩
    · rcases hsplit c hc with ⟨_, _, c₀, hc₀, hid⟩ | ⟨hc, _⟩
      · exact hid ▸ h.named c₀ hc₀
      · exact h.named c hc
    · rw [hrows]
      by_cases hid : Row.id c = s.communityId
      · exact ⟨resetCommunity c, Table.mem_updateRows.mpr (.inl ⟨c, hc, hid, rfl⟩), rfl⟩
      · exact ⟨c, Table.mem_updateRows.mpr (.inr ⟨hc, hid⟩), rfl⟩
    · rcases hsplit c hc with ⟨hid, hcap, _⟩ | ⟨hc, hid⟩
      · refine ⟨fun _ ↦ hcap, fun r hr hrc hrr ↦ ?_⟩
        -- a running one would have been found in the transaction
        have hrs : r.status = .active := beq_iff_eq.mp (Bool.and_eq_true_iff.mp hrr).1
        obtain ⟨hrdb, hrid⟩ := hactive r hr hrs
        exfalso
        apply hother
        refine List.any_eq_true.mpr ⟨r, hrdb, ?_⟩
        simp only [Bool.and_eq_true, beq_iff_eq, bne_iff_ne]
        exact ⟨⟨hrc.trans hid, isRunning_mono hle hrr⟩, hrid⟩
      · exact hfits c hc fun he ↦ absurd he hid

theorem asStr?_eq_some {v : JsValue} {k : String} (h : v.asStr? = some k) : v = .str k := by
  cases v <;> simp_all [JsValue.asStr?]

theorem activatedCapacity_of_terms {event : PaymentWebhookEvent} {payment : Payment} {env : Env}
    {terms : ActivationTerms} (h : activationTerms env (eventObject event) payment db = .ok terms) :
    activatedCapacity event payment db = .ok terms.memberCapacity := by
  simp only [activationTerms, bind_eq_ok, pure_eq_ok] at h
  obtain ⟨planKey, hplan, _, _, _, _, _, _, rfl⟩ := h
  simp only [activatedCapacity, bind_eq_ok, pure_eq_ok]
  exact ⟨planKey, hplan, rfl⟩

/-- The community that is marked sponsored is the one the sponsorship is for. -/
theorem communityKey_eq {session : JsValue} {payment : Payment} {env : Env}
    {terms : ActivationTerms} (h : activationTerms env session payment db = .ok terms)
    (hne : terms.communityKey ≠ "") : terms.parties.communityId = terms.communityKey := by
  simp only [activationTerms, bind_eq_ok, pure_eq_ok] at h
  obtain ⟨_, _, _, _, parties, hparties, key, hkey, rfl⟩ := h
  simp only [sponsorshipParties, bind_eq_ok, pure_eq_ok] at hparties
  obtain ⟨communityId, hcommunity, _, _, _, _, _, _, _, _, rfl⟩ := hparties
  simp only [textArg, found_eq_ok] at hkey hcommunity
  have hv := asStr?_eq_some hkey
  rw [hv, JsValue.or_of_truthy _ ((JsValue.truthy_str_iff key).mpr hne)] at hcommunity
  exact (Option.some.inj hcommunity).symm

/-- An activation next to running sponsorships of the same capacity only. -/
theorem CapacityKept.activated {event : PaymentWebhookEvent} {payment : Payment} {env : Env}
    {terms : ActivationTerms} (h : CapacityKept ⟨db, clock⟩)
    (hterms : activationTerms env (eventObject event) payment db = .ok terms)
    (hact : Activated env (eventObject event) payment terms db db')
    (hsame : ∀ s ∈ db.communitySponsorships.rows, s.communityId = terms.parties.communityId →
      s.isRunning clock = true → s.sponsoredCapacity = terms.memberCapacity) :
    CapacityKept ⟨db', clock⟩ := by
  obtain ⟨c₀, hc₀, hkey⟩ := hact.community_found
  have hcommunity := communityKey_eq hterms (hkey ▸ h.named c₀ hc₀)
  have hrow : (terms.row env payment).communityId = terms.communityKey := hcommunity
  have hsplit : ∀ c ∈ db'.communities.rows,
      (c.id = terms.communityKey ∧ c.memberCapacity = terms.memberCapacity) ∨
      (c ∈ db.communities.rows ∧ c.id ≠ terms.communityKey) := by
    intro c hc
    rw [hact.communities, Table.mem_updateRows] at hc
    rcases hc with ⟨a, _, haid, rfl⟩ | hc
    · exact .inl ⟨haid, rfl⟩
    · exact .inr hc
  have hids : ∀ c ∈ db.communities.rows, ∃ c' ∈ db'.communities.rows, c'.id = c.id := by
    intro c hc
    rw [hact.communities]
    by_cases hid : Row.id c = terms.communityKey
    · exact ⟨_, Table.mem_updateRows.mpr (.inl ⟨c, hc, hid, rfl⟩), rfl⟩
    · exact ⟨c, Table.mem_updateRows.mpr (.inr ⟨hc, hid⟩), rfl⟩
  have hmem : ∀ s, s ∈ db'.communitySponsorships.rows ↔
      s ∈ db.communitySponsorships.rows ∨ s = terms.row env payment := by
    intro s
    rw [hact.sponsorships, List.mem_append, List.mem_singleton]
  refine ⟨fun c hc ↦ ?_, fun s hs ↦ ?_, fun s hs hst ↦ ?_, fun c hc ↦ ?_⟩
  · rcases hsplit c hc with ⟨hid, _⟩ | ⟨hc, _⟩
    · rw [hid, ← hkey]
      exact h.named c₀ hc₀
    · exact h.named c hc
  · rcases (hmem s).mp hs with hs | rfl
    · obtain ⟨c, hc, hid⟩ := h.linked s hs
      obtain ⟨c', hc', hid'⟩ := hids c hc
      exact ⟨c', hc', hid'.trans hid⟩
    · obtain ⟨c', hc', hid'⟩ := hids c₀ hc₀
      exact ⟨c', hc', hid'.trans (hkey.trans hrow.symm)⟩
  · rcases (hmem s).mp hs with hs | rfl
    · exact h.dated s hs hst
    · rfl
  · rcases hsplit c hc with ⟨hid, hcap⟩ | ⟨hc, hid⟩
    · refine ⟨fun hnone ↦ ?_, fun s hs hsc hsr ↦ ?_⟩
      · exact absurd rfl (hnone _ ((hmem _).mpr (.inr rfl)) (hrow.trans hid.symm))
      · rw [hcap]
        rcases (hmem s).mp hs with hs | rfl
        · exact (hsame s hs (by rw [hsc, hid, hcommunity]) hsr).symm
        · rfl
    · obtain ⟨hfree, hrunning⟩ := h.fits c hc
      refine ⟨fun hnone ↦ hfree fun s hs ↦ hnone s ((hmem s).mpr (.inl hs)),
        fun s hs hsc hsr ↦ ?_⟩
      rcases (hmem s).mp hs with hs | rfl
      · exact hrunning s hs hsc hsr
      · exact absurd (hsc.symm.trans hrow) hid

/-- A new community has no sponsorship yet. -/
theorem CapacityKept.created {userId : String} {dto : CreateCommunityDto} {env : Env}
    (h : CapacityKept ⟨db, clock⟩) (hkey : env.communityId ≠ "") (hcap : newCapacity dto = 20)
    (hc : db'.communities.rows = db.communities.rows ++ [newCommunity env userId dto])
    (hs : db'.communitySponsorships = db.communitySponsorships) : CapacityKept ⟨db', clock⟩ := by
  have hmem : ∀ c, c ∈ db'.communities.rows ↔
      c ∈ db.communities.rows ∨ c = newCommunity env userId dto := by
    intro c
    rw [hc, List.mem_append, List.mem_singleton]
  refine ⟨fun c hcm ↦ ?_, fun s hsm ↦ ?_, fun s hsm ↦ h.dated s (hs ▸ hsm), fun c hcm ↦ ?_⟩
  · rcases (hmem c).mp hcm with hcm | rfl
    · exact h.named c hcm
    · exact hkey
  · obtain ⟨c, hcm, hid⟩ := h.linked s (hs ▸ hsm)
    exact ⟨c, (hmem c).mpr (.inl hcm), hid⟩
  · rcases (hmem c).mp hcm with hcm | rfl
    · exact (h.fits c hcm).congr hs
    · refine ⟨fun _ ↦ hcap, fun s hsm hsc _ ↦ ?_⟩
      -- a sponsorship of the new community would have a community with the same key
      exfalso
      obtain ⟨c, hcold, hid⟩ := h.linked s (hs ▸ hsm)
      have hpair := db'.communities.apart
      rw [hc, List.pairwise_append] at hpair
      have hclash := hpair.2.2 c hcold _ (List.mem_singleton.mpr rfl)
      rw [clash_of_id (show Row.id c = _ from hid.trans hsc)] at hclash
      cases hclash

theorem CapacityKept.updated {dto : UpdateCommunityDto} {memberCapacity : Option ℤ}
    (h : CapacityKept ⟨db, clock⟩)
    (hfits : ∀ capacity, memberCapacity = some capacity → Fits capacity communityId ⟨db, clock⟩)
    (hc : db'.communities.rows =
      Table.updateRows communityId (withChanges dto memberCapacity) db.communities.rows)
    (hs : db'.communitySponsorships = db.communitySponsorships) : CapacityKept ⟨db', clock⟩ := by
  refine ⟨fun c hcm ↦ ?_, fun s hsm ↦ ?_, fun s hsm ↦ h.dated s (hs ▸ hsm), fun c hcm ↦ ?_⟩
  · rw [hc, Table.mem_updateRows] at hcm
    rcases hcm with ⟨a, ha, _, rfl⟩ | ⟨hcm, _⟩
    · exact h.named a ha
    · exact h.named c hcm
  · obtain ⟨c, hcm, hid⟩ := h.linked s (hs ▸ hsm)
    rw [hc]
    by_cases hk : Row.id c = communityId
    · exact ⟨_, Table.mem_updateRows.mpr (.inl ⟨c, hcm, hk, rfl⟩), hid⟩
    · exact ⟨c, Table.mem_updateRows.mpr (.inr ⟨hcm, hk⟩), hid⟩
  · rw [hc, Table.mem_updateRows] at hcm
    rcases hcm with ⟨a, ha, haid, rfl⟩ | ⟨hcm, _⟩
    · have hid : (withChanges dto memberCapacity a).id = communityId := haid
      rw [hid]
      cases hm : memberCapacity with
      | none =>
        have hold := h.fits a ha
        rw [show a.id = communityId from haid] at hold
        exact hold.congr hs
      | some capacity => exact (hfits capacity hm).congr hs
    · exact (h.fits c hcm).congr hs

theorem CapacityKept.commit {event : PaymentWebhookEvent} {env : Env}
    (h : CapacityKept ⟨db, clock⟩) (hle : now ≤ clock)
    (hok : WritesEffective ⟨db, now⟩ (.payment (.webhook event)))
    (hw : CommitWrite env event db db') : CapacityKept ⟨db', clock⟩ := by
  cases hw with
  | recorded _ _ hs hc => exact h.congr hs hc
  | refunded _ hs hc => exact h.congr hs hc
  | activated hactivated _ hterms hact =>
    exact h.activated hterms hact fun s hs hsc hsr ↦ hok _ _ _ hactivated
      (sponsoredCommunity_of_terms hterms) (activatedCapacity_of_terms hterms) s hs hsc
      (isRunning_mono hle hsr)

theorem CapacityKept.payment {ok : Env → Prop} {op : PaymentOp} (h : CapacityKept ⟨db, clock⟩)
    (hle : now ≤ clock) (hnow : ∀ env, ok env → env.now ≤ clock)
    (hok : WritesEffective ⟨db, now⟩ (.payment op)) (hr : op.Runs ok db db') :
    CapacityKept ⟨db', clock⟩ := by
  cases hr with
  | checkout hran =>
    refine (checkout_writes _ _).ran (J := fun d ↦ CapacityKept ⟨d, clock⟩) ?_ hran h
    intro _ d d' hd hw
    cases hw with
    | elsewhere hframe => exact hd.congr (by rw [hframe]) (by rw [hframe])
    | opened _ _ _ hframe => exact hd.congr (by rw [hframe]) (by rw [hframe])
    | session _ hframe => exact hd.congr (by rw [hframe]) (by rw [hframe])
  | @webhook event env =>
    obtain ⟨t₀, db₁, t, a, he, hw⟩ := handleVerified_commits env event db
    rw [he]
    have h₀ : CapacityKept ⟨db.withLogs t₀ db.auditLogs, clock⟩ := h.congr rfl rfl
    have h₁ : CapacityKept ⟨db₁, clock⟩ := h₀.commit hle hok hw
    exact h₁.congr rfl rfl
  | @refund paymentId adminUserId dto _ _ r hran =>
    cases refundPayment_ran hran with
    | nothing he => exact he ▸ h
    | @recorded env p targetRefund refundAmount db₁ t hokenv hp _ _ _ href he =>
      have h₁ : CapacityKept ⟨db₁, clock⟩ := by
        rcases href.ended_or_kept with ⟨s, _, hs, hended⟩ | ⟨hs, hc⟩
        · obtain ⟨hsm, _⟩ := sponsorshipOf_eq_some.mp hs
          have hend := h.ended (by decide) ⟨s, hsm, rfl, rfl⟩ (hnow env hokenv) hended
          exact hend.congr rfl rfl
        · exact h.congr hs hc
      rw [he]
      exact h₁.congr rfl rfl
  | reconcile hran =>
    refine (reconcile_writes _).ran (J := fun d ↦ CapacityKept ⟨d, clock⟩) ?_ hran h
    intro _ d d' hd hw
    cases hw <;> exact hd.congr rfl rfl

theorem CapacityKept.next {w w' : World} {op : CapacityOp} (h : CapacityKept w)
    (hok : WritesEffective w op) (hr : CapacityOp.Next w op w') : CapacityKept w' := by
  obtain ⟨hle, hr⟩ := hr
  obtain ⟨db, now⟩ := w
  obtain ⟨db', clock⟩ := w'
  dsimp only at hle hr
  have hlater : CapacityKept ⟨db, clock⟩ := h.later hle
  cases hr with
  | create hran =>
    rcases create_ran hran with rfl | ⟨env, hokenv, hc, hs⟩
    · exact hlater
    · exact hlater.created hokenv.2.2 hok hc hs
  | update hran =>
    rcases update_ran hran with rfl | ⟨community, memberCapacity, hmanaged, hcapacity, hc, hs⟩
    · exact hlater
    · refine hlater.updated (fun capacity hm ↦ ?_) hc hs
      exact (hok community capacity hmanaged (hm ▸ hcapacity)).later hle
  | payment hruns => exact hlater.payment hle (fun env he ↦ he.2.1) hok hruns
  | sweep hran =>
    refine sweep_ran (J := fun d ↦ CapacityKept ⟨d, clock⟩) (fun env d d' he hd hw ↦ ?_) hran hlater
    cases hw with
    | logged hframe => exact hd.congr (by rw [hframe]) (by rw [hframe])
    | expired hthere hended hframe =>
      have hend := hd.ended (by decide) hthere he.2.1 hended
      exact hend.congr (by rw [hframe]) (by rw [hframe])

end Steps

/-- In every run whose operations write the effective capacity, the stored capacity of
every community is the one that `join` enforces, unless a sponsorship is past its end. -/
theorem capacity_agrees {w : World}
    (h : Reach CapacityOp.Next WritesEffective CapacityKept w)
    (hpast : ∀ s ∈ w.db.communitySponsorships.rows, isPast w.clock s = false) :
    ∀ c ∈ w.db.communities.rows, ∀ o, ActiveSponsorship c.id w.clock w.db o →
      c.memberCapacity = effectiveCapacity o := by
  have hkept : CapacityKept w := Reach.invariant (fun _ hw ↦ hw) (fun _ _ _ hw hok hr ↦
    hw.next hok hr) h
  intro c hc o ho
  obtain ⟨hfree, hrunning⟩ := hkept.fits c hc
  cases o with
  | some s => exact hrunning s ho.1 ho.2.1 ho.2.2
  | none =>
    refine hfree fun s hs hsc hst ↦ ?_
    obtain ⟨endsAt, he⟩ := Option.isSome_iff_exists.mp (hkept.dated s hs hst)
    have hnot := ho s hs hsc
    have hp := hpast s hs
    simp only [CommunitySponsorship.isRunning, isPast, hst, he, beq_self_eq_true, Bool.true_and,
      Option.any_some, decide_eq_false_iff_not] at hnot hp
    exact hp (not_lt.mp hnot)

namespace CapacityOp

/-- The operation with the given inputs, one for each of its requests. -/
def perform (envs : List Env) (db : Db) : CapacityOp → Option Db
  | create userId userRoles dto => (CommunitiesService.create userId userRoles dto).finish envs db
  | update communityId userId userRoles dto =>
    (CommunitiesService.update communityId userId userRoles dto).finish envs db
  | payment op => op.perform envs db
  | sweep => sweepExpiredSponsorships.finish envs db

theorem runs_of_perform {ok : Env → Prop} {envs : List Env} {db db' : Db} {op : CapacityOp}
    (hok : ∀ env ∈ envs, ok env) (h : op.perform envs db = some db') : op.Runs ok db db' := by
  cases op with
  | create userId userRoles dto =>
    obtain ⟨r, hr⟩ := Call.ran_of_finish hok h
    exact .create hr
  | update communityId userId userRoles dto =>
    obtain ⟨r, hr⟩ := Call.ran_of_finish hok h
    exact .update hr
  | payment op => exact .payment (PaymentOp.runs_of_perform hok h)
  | sweep =>
    obtain ⟨r, hr⟩ := Call.ran_of_finish hok h
    exact .sweep hr

/-- The world after the operations, each with all of its inputs at one moment, if
each meets the check. -/
def performAll (check : World → CapacityOp → Bool) :
    List (CapacityOp × Time × List Env) → World → Option World
  | [], w => some w
  | (op, clock, envs) :: ops, w =>
    if w.clock ≤ clock ∧ (∀ env ∈ envs, env.now = clock ∧ env.communityId ≠ "") ∧
        check w op = true then
      (op.perform envs w.db).bind fun db ↦ performAll check ops ⟨db, clock⟩
    else none

theorem reach_performAll {check : World → CapacityOp → Bool} {ok : World → CapacityOp → Prop}
    {init : World → Prop} {ops : List (CapacityOp × Time × List Env)} {w w' : World}
    (hok : ∀ w op, check w op = true → ok w op) (h : Reach Next ok init w)
    (hp : performAll check ops w = some w') : Reach Next ok init w' := by
  induction ops generalizing w with
  | nil =>
    cases hp
    exact h
  | cons op ops ih =>
    obtain ⟨op, clock, envs⟩ := op
    simp only [performAll] at hp
    split_ifs at hp with hc
    obtain ⟨hle, henvs, hcheck⟩ := hc
    obtain ⟨db, hdb, hrest⟩ := Option.bind_eq_some_iff.mp hp
    refine ih (.next h (hok w op hcheck) ⟨hle, runs_of_perform (fun env he ↦ ?_) hdb⟩) hrest
    obtain ⟨hnow, hkey⟩ := henvs env he
    exact ⟨hnow ▸ hle, hnow.le, hkey⟩

end CapacityOp

section Sample

instance (capacity : ℤ) (communityId : String) (w : World) :
    Decidable (Fits capacity communityId w) := inferInstanceAs (Decidable (_ ∧ _))

def writesEffective (w : World) : CapacityOp → Bool
  | .create _ _ dto => newCapacity dto == 20
  | .update communityId userId userRoles dto =>
    match managedCommunity userId userRoles communityId w.db with
    | .error _ => true
    | .ok community =>
      match updatedCapacity community dto with
      | .ok (some capacity) => decide (Fits capacity communityId w)
      | _ => true
  | .payment (.webhook event) =>
    (activatedPayment event w.db).all fun payment ↦
      match sponsoredCommunity event payment, activatedCapacity event payment w.db with
      | .ok communityId, .ok capacity => w.db.communitySponsorships.rows.all fun s ↦
          s.communityId != communityId || !s.isRunning w.clock || s.sponsoredCapacity == capacity
      | _, _ => true
  | .payment _ | .sweep => true

theorem writesEffective_ok (w : World) (op : CapacityOp) (h : writesEffective w op = true) :
    WritesEffective w op := by
  cases op with
  | create userId userRoles dto => exact beq_iff_eq.mp h
  | update communityId userId userRoles dto =>
    intro community capacity hmanaged hcapacity
    simp only [writesEffective, hmanaged, hcapacity, decide_eq_true_eq] at h
    exact h
  | payment op =>
    cases op with
    | webhook event =>
      intro payment communityId capacity hact hcommunity hcapacity s hs hsc hsr
      simp only [writesEffective, hact, Option.all_some, hcommunity, hcapacity,
        List.all_eq_true] at h
      have hs' := h s hs
      simpa [hsc, hsr] using hs'
    | checkout | refund | reconcile => trivial
  | sweep => trivial

/-- The sample database with an event to found communities at. -/
def hostingDb : Db := { sponsoringDb with events := .singleton ⟨"event-1", none⟩ }

def foundersDto (type : CommunityType) : CreateCommunityDto :=
  ⟨"event-1", "Founders", "Founders", "A place for founders", "Business", some type, none, none,
    none, none⟩

def renamedDto : UpdateCommunityDto := ⟨some "Makers", none, none, none, none, none, none, none⟩

theorem capacityKept_hostingDb : CapacityKept ⟨hostingDb, 0⟩ := by
  refine ⟨fun c hc ↦ ?_, fun s hs ↦ ?_, fun s hs ↦ ?_, fun c hc ↦ ?_⟩
  · rw [List.mem_singleton.mp hc]
    decide
  · cases hs
  · cases hs
  · rw [List.mem_singleton.mp hc]
    decide

/-- A community is founded and another one renamed, then sponsored, and the
sponsorship swept when it is over. -/
theorem capacity_agrees_after_sweep : ∃ w : World,
    w.db.communitySponsorships.rows.map (·.status) = [.expired] ∧
    ∀ c ∈ w.db.communities.rows, ∀ o, ActiveSponsorship c.id w.clock w.db o →
      c.memberCapacity = effectiveCapacity o := by
  have hrun : (CapacityOp.performAll writesEffective
      [(.create "user-1" [] (foundersDto .free), 0, List.replicate 3 (.online 0 "" "a" "b")),
        (.update "community-1" "user-1" [] renamedDto, 1, List.replicate 2 (.online 1 "" "c" "d")),
        (.payment (.checkout "user-1" sponsoringDto), 2,
          List.replicate 10 (.online 2 "cs_1" key₁ "e")),
        (.payment (.webhook (sponsorshipSession "evt_1" "cs_1" key₁ "pi_1")), 3,
          [.online 3 "" "f" "g"]),
        (.sweep, 31 * 86400000, List.replicate 3 (.online (31 * 86400000) "" "h" "i"))]
      ⟨hostingDb, 0⟩).any (fun w ↦
        w.db.communitySponsorships.rows.map (·.status) == [.expired] &&
        w.db.communitySponsorships.rows.all fun s ↦ !isPast w.clock s) = true := by
    decide +kernel
  obtain ⟨w, hw, hend⟩ := (Option.any_eq_true ..).mp hrun
  simp only [Bool.and_eq_true, beq_iff_eq, List.all_eq_true, Bool.not_eq_true'] at hend
  have hreach := CapacityOp.reach_performAll writesEffective_ok (.start capacityKept_hostingDb) hw
  exact ⟨w, hend.1, capacity_agrees hreach hend.2⟩

/-- A sponsored community is founded: 500 members are stored and 20 may join. -/
theorem sponsored_capacity_not_effective : ∃ w : World,
    Reach CapacityOp.Next (fun _ _ ↦ True) CapacityKept w ∧
      (∀ s ∈ w.db.communitySponsorships.rows, isPast w.clock s = false) ∧
      ∃ c ∈ w.db.communities.rows, ActiveSponsorship c.id w.clock w.db none ∧
        c.memberCapacity = 500 ∧ effectiveCapacity none = 20 := by
  have hrun : (CapacityOp.performAll (fun _ _ ↦ true)
      [(.create "user-1" ["SPONSOR"] (foundersDto .sponsored), 0,
        List.replicate 3 (.online 0 "" "a" "b"))]
      ⟨hostingDb, 0⟩).any (fun w ↦ w.db.communitySponsorships.rows.isEmpty &&
        w.db.communities.rows.any fun c ↦ c.memberCapacity == 500) = true := by
    decide +kernel
  obtain ⟨w, hw, hend⟩ := (Option.any_eq_true ..).mp hrun
  simp only [Bool.and_eq_true, List.isEmpty_iff, List.any_eq_true, beq_iff_eq] at hend
  obtain ⟨hnone, c, hc, hcapacity⟩ := hend
  refine ⟨w, CapacityOp.reach_performAll (fun _ _ _ ↦ trivial) (.start capacityKept_hostingDb) hw,
    by simp [hnone], c, hc, ?_, hcapacity, rfl⟩
  intro s hs
  rw [hnone] at hs
  cases hs

end Sample

end Innovents.Communities
