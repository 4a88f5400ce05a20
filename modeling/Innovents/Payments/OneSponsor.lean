import Innovents.Payments.SponsorshipActivities

namespace Innovents.Payments

open Innovents.Lib PaymentsService PaymentReconciliationService StripeWebhookService
open Innovents.Communities.CommunitySponsorshipExpirationService

/-- How many sponsorships of a community are active and not past their end. -/
def runningSponsorships (communityId : String) (now : Time) (db : Db) : ℕ :=
  db.communitySponsorships.rows.countP fun s ↦ s.communityId == communityId && s.isRunning now

/-- Every community has at most one running sponsorship. -/
def OneSponsor (w : World) : Prop :=
  ∀ communityId, runningSponsorships communityId w.clock w.db ≤ 1

/-- A sponsorship is activated only while the community has no running one. -/
def ActivatesAlone (p : Pool World Activity) : Move Activity Env → Prop
  | .run i _ => ∀ event recordId commit,
      p.threads[i]? = some (.delivery (.planned event recordId commit)) →
      ∀ payment communityId, activatedPayment event p.shared.db = some payment →
        sponsoredCommunity event payment = .ok communityId →
        runningSponsorships communityId p.shared.clock p.shared.db = 0
  | _ => True

section Steps

variable {env : Env} {db db' : Db} {now clock : Time} {communityId : String}

theorem runningSponsorships_mono (hle : now ≤ clock) :
    runningSponsorships communityId clock db ≤ runningSponsorships communityId now db := by
  apply List.countP_mono_left
  intro s _ hs
  rw [Bool.and_eq_true] at hs ⊢
  exact ⟨hs.1, isRunning_mono hle hs.2⟩

/-- Ending a sponsorship starts none. -/
theorem runningSponsorships_ended {status : CommunitySponsorshipStatus} {sponsorshipId : String}
    (hne : status ≠ .active) (h : db'.communitySponsorships.rows =
      Table.updateRows sponsorshipId (·.withStatus status) db.communitySponsorships.rows) :
    runningSponsorships communityId now db' ≤ runningSponsorships communityId now db := by
  unfold runningSponsorships
  rw [h, Table.updateRows, List.countP_map]
  apply List.countP_mono_left
  intro s _ hs
  simp only [Function.comp_apply] at hs
  split_ifs at hs
  · simp [CommunitySponsorship.isRunning, CommunitySponsorship.withStatus, hne] at hs
  · exact hs

/-- An activation while no other sponsorship of the community is running. -/
theorem activated_alone {event : PaymentWebhookEvent} {payment : Payment} {terms : ActivationTerms}
    (h : OneSponsor ⟨db, clock⟩)
    (hterms : activationTerms env (eventObject event) payment db = .ok terms)
    (hact : Activated env (eventObject event) payment terms db db')
    (hnone : ∀ communityId, sponsoredCommunity event payment = .ok communityId →
      runningSponsorships communityId clock db = 0) : OneSponsor ⟨db', clock⟩ := by
  intro k
  have hcount : runningSponsorships k clock db' = runningSponsorships k clock db +
      [terms.row env payment].countP fun s ↦ s.communityId == k && s.isRunning clock := by
    unfold runningSponsorships
    rw [hact.sponsorships, List.countP_append]
  rw [List.countP_singleton] at hcount
  rw [hcount]
  split_ifs with hnew
  · rw [Bool.and_eq_true, beq_iff_eq] at hnew
    have hk : terms.parties.communityId = k := hnew.1
    rw [← hk, hnone _ (sponsoredCommunity_of_terms hterms)]
  · exact h k

end Steps

/-- However checkouts, webhook deliveries, reconciliation runs, refunds and sweeps
interleave, if no sponsorship is activated next to a running one, every community
has at most one at every moment. -/
theorem one_sponsor {p : Pool World Activity}
    (h : Reach activities.Step ActivatesAlone (fun q ↦ q.threads = [] ∧ OneSponsor q.shared) p) :
    OneSponsor p.shared := by
  refine Activity.invariant (fun _ hq ↦ hq) ?_ (fun w clock hw hle k ↦ ?_) h
  · intro q i env t db' hJ hi hok hw
    have hkept (hs : db'.communitySponsorships = q.shared.db.communitySponsorships) :
        OneSponsor ⟨db', q.shared.clock⟩ := by
      intro k
      rw [runningSponsorships, hs]
      exact hJ k
    have hended {status : CommunitySponsorshipStatus} {id : String} (hne : status ≠ .active)
        (hrows : db'.communitySponsorships.rows = Table.updateRows id (·.withStatus status)
          q.shared.db.communitySponsorships.rows) : OneSponsor ⟨db', q.shared.clock⟩ :=
      fun k ↦ (runningSponsorships_ended hne hrows).trans (hJ k)
    cases hw with
    | checkout hw =>
      cases hw with
      | elsewhere hframe => exact hkept (by rw [hframe])
      | opened _ _ _ hframe => exact hkept (by rw [hframe])
      | session _ hframe => exact hkept (by rw [hframe])
    | aside _ hs _ => exact hkept hs
    | commit hw =>
      cases hw with
      | recorded _ _ hs _ => exact hkept hs
      | activated hact _ hterms hactivated =>
        exact activated_alone hJ hterms hactivated fun k hk ↦ hok _ _ _ hi _ k hact hk
      | refunded _ hs _ => exact hkept hs
    | reconciliation _ hw => cases hw <;> exact hJ
    | refund hw =>
      cases hw with
      | logged hframe => exact hkept (by rw [hframe])
      | recorded href =>
        rcases href.ended_or_kept with ⟨s, _, _, he⟩ | ⟨hs, _⟩
        · exact hended (by decide) he.sponsorships
        · exact hkept hs
    | sweep hw =>
      cases hw with
      | logged hframe => exact hkept (by rw [hframe])
      | @expired s _ he hframe =>
        have hrows : db'.communitySponsorships.rows = Table.updateRows s.id
            (·.withStatus .expired) q.shared.db.communitySponsorships.rows := by
          rw [hframe]
          exact he.sponsorships
        exact hended (by decide) hrows
  · exact (runningSponsorships_mono hle).trans (hw k)

/-- Two checkouts for one community, and the webhooks of their sessions. -/
def twoCheckouts : List Activity :=
  [.checkout (createCommunitySponsorshipCheckout "user-1" sponsoringDto),
    .checkout (createCommunitySponsorshipCheckout "user-1" sponsoringDto),
    .delivery (.received (sponsorshipSession "evt_1" "cs_1" key₁ "pi_1")),
    .delivery (.received (sponsorshipSession "evt_2" "cs_2" key₂ "pi_2"))]

theorem starts_twoCheckouts : ∀ t ∈ twoCheckouts, activities.start t := by
  intro t ht
  simp only [twoCheckouts, List.mem_cons, List.not_mem_nil, or_false] at ht
  rcases ht with rfl | rfl | rfl | rfl
  · exact .checkout _ _
  · exact .checkout _ _
  · exact .delivery _
  · exact .delivery _

def activatesAlone (p : Pool World Activity) (i : ℕ) (_ : Env) : Bool :=
  match p.threads[i]? with
  | some (.delivery (.planned event _ _)) =>
    (activatedPayment event p.shared.db).all fun payment ↦
      match sponsoredCommunity event payment with
      | .ok communityId => runningSponsorships communityId p.shared.clock p.shared.db == 0
      | .error _ => true
  | _ => true

theorem activatesAlone_ok (p : Pool World Activity) (i : ℕ) (env : Env)
    (h : activatesAlone p i env = true) : ActivatesAlone p (.run i env) := by
  intro event recordId commit hi payment communityId hact hcommunity
  simp only [activatesAlone, hi, hact, hcommunity, Option.all_some] at h
  exact beq_iff_eq.mp h

/-- Both sessions are opened first; the second is paid when the first sponsorship is over. -/
theorem sponsored_in_turn : ∃ p : Pool World Activity,
    p.shared.db.communitySponsorships.rows.length = 2 ∧ OneSponsor p.shared := by
  have hinit : Reach activities.Step ActivatesAlone (fun q ↦ q.threads = [] ∧ OneSponsor q.shared)
      ⟨⟨sponsoringDb, 0⟩, []⟩ := .start ⟨rfl, fun k ↦ Nat.zero_le 1⟩
  have hstart := Machine.reach_spawnAll (fun _ _ _ ↦ trivial) starts_twoCheckouts hinit
  have hrun : (Activity.phases activatesAlone
      [(0, List.replicate 8 (0, .online 0 "cs_1" key₁ "a") ++
          List.replicate 8 (1, .online 0 "cs_2" key₂ "b") ++
          List.replicate 6 (2, .online 0 "" "c" "d")),
        (31 * 86400000, List.replicate 6 (3, .online 0 "" "e" "f"))]
      ⟨⟨sponsoringDb, 0⟩, twoCheckouts⟩).any (fun p ↦
        p.shared.db.communitySponsorships.rows.length == 2) = true := by
    decide +kernel
  obtain ⟨p, hp, htwo⟩ := (Option.any_eq_true ..).mp hrun
  have hreach := Activity.reach_phases activatesAlone_ok (fun _ ↦ trivial) hstart hp
  exact ⟨p, beq_iff_eq.mp htwo, one_sponsor hreach⟩

/-- Both sessions are opened before either is paid: two sponsorships run at once. -/
theorem sponsored_twice : ∃ p : Pool World Activity,
    Reach activities.Step (fun _ _ ↦ True) (fun q ↦ q = ⟨⟨sponsoringDb, 0⟩, []⟩) p ∧
      runningSponsorships "community-1" p.shared.clock p.shared.db = 2 := by
  have hinit : Reach activities.Step (fun _ _ ↦ True) (fun q ↦ q = ⟨⟨sponsoringDb, 0⟩, []⟩)
      ⟨⟨sponsoringDb, 0⟩, []⟩ := .start rfl
  have hstart := Machine.reach_spawnAll (fun _ _ _ ↦ trivial) starts_twoCheckouts hinit
  have hrun : (Activity.phases (fun _ _ _ ↦ true)
      [(0, List.replicate 8 (0, .online 0 "cs_1" key₁ "a") ++
          List.replicate 8 (1, .online 0 "cs_2" key₂ "b") ++
          List.replicate 6 (2, .online 0 "" "c" "d") ++
          List.replicate 6 (3, .online 0 "" "e" "f"))]
      ⟨⟨sponsoringDb, 0⟩, twoCheckouts⟩).any (fun p ↦
        runningSponsorships "community-1" p.shared.clock p.shared.db == 2) = true := by
    decide +kernel
  obtain ⟨p, hp, htwo⟩ := (Option.any_eq_true ..).mp hrun
  exact ⟨p, Activity.reach_phases (fun _ _ _ _ ↦ trivial) (fun _ ↦ trivial) hstart hp,
    beq_iff_eq.mp htwo⟩

end Innovents.Payments
