import Innovents.Payments.SponsorshipActivities

namespace Innovents.Payments

open Innovents.Lib PaymentsService PaymentReconciliationService StripeWebhookService
open Innovents.Communities.CommunitySponsorshipExpirationService

/-- How many sponsorships are linked to a payment. -/
def linkedSponsorships (paymentId : String) (db : Db) : ℕ :=
  db.communitySponsorships.rows.countP fun s ↦ s.paymentId == some paymentId

/-- Every sponsorship payment that is paid has bought exactly one sponsorship. -/
def Provisioned (db : Db) : Prop :=
  ∀ p ∈ db.payments.rows, p.purpose = .communitySponsorship → p.status = .succeeded →
    linkedSponsorships p.id db = 1

/-- A reconciliation run marks a sponsorship payment paid only after its webhook has
created the sponsorship. -/
def ReconcilesLast (p : Pool World Activity) : Move Activity Env → Prop
  | .run i _ => ∀ c id, p.threads[i]? = some (.reconciliation c) →
      c.label? = some (.updatePayment id .succeeded) → ∀ payment ∈ p.shared.db.payments.rows,
        payment.id = id → payment.purpose = .communitySponsorship →
          linkedSponsorships id p.shared.db = 1
  | _ => True

section Steps

variable {env : Env} {db db' : Db}

theorem linked_iff {id : String} : linkedSponsorships id db = 1 ↔
    ∃ s ∈ db.communitySponsorships.rows, s.paymentId = some id :=
  Table.countP_unique_eq_one (u := CommunitySponsorship.paymentId) (by simp [Row.uniques])

theorem linked_ended {status : CommunitySponsorshipStatus} {sponsorshipId paymentId : String}
    (h : db'.communitySponsorships.rows = Table.updateRows sponsorshipId (·.withStatus status)
      db.communitySponsorships.rows) :
    linkedSponsorships paymentId db' = linkedSponsorships paymentId db := by
  unfold linkedSponsorships
  rw [h]
  exact Table.countP_updateRows fun _ _ _ ↦ rfl

/-- Links stay, and whatever is paid now was paid before or is linked. -/
theorem Provisioned.step (h : Provisioned db)
    (hlinked : ∀ id, linkedSponsorships id db = 1 → linkedSponsorships id db' = 1)
    (hpaid : ∀ p ∈ db'.payments.rows, p.purpose = .communitySponsorship → p.status = .succeeded →
      linkedSponsorships p.id db' = 1 ∨ ∃ q ∈ db.payments.rows,
        q.id = p.id ∧ q.purpose = .communitySponsorship ∧ q.status = .succeeded) :
    Provisioned db' := by
  intro p hp hpurpose hstatus
  rcases hpaid p hp hpurpose hstatus with hl | ⟨q, hq, hid, hqp, hqs⟩
  · exact hl
  · rw [← hid]
    exact hlinked q.id (h q hq hqp hqs)

/-- An update of one payment that leaves it unpaid, or finds it linked. -/
theorem Provisioned.update {id : String} {f : Payment → Payment} (h : Provisioned db)
    (hlinked : ∀ k, linkedSponsorships k db = 1 → linkedSponsorships k db' = 1)
    (hrows : db'.payments.rows = Table.updateRows id f db.payments.rows)
    (hf : ∀ p ∈ db.payments.rows, p.id = id → (f p).purpose = .communitySponsorship →
      (f p).status = .succeeded → linkedSponsorships (f p).id db' = 1) :
    Provisioned db' := by
  refine h.step hlinked fun p hp hpurpose hstatus ↦ ?_
  rw [hrows, Table.mem_updateRows] at hp
  rcases hp with ⟨a, ha, haid, rfl⟩ | ⟨hp, _⟩
  · exact .inl (hf a ha haid hpurpose hstatus)
  · exact .inr ⟨p, hp, rfl, hpurpose, hstatus⟩

theorem Provisioned.ended {status : CommunitySponsorshipStatus} {sponsorshipId : String}
    (h : Provisioned db) (hp : db'.payments = db.payments)
    (hs : db'.communitySponsorships.rows = Table.updateRows sponsorshipId (·.withStatus status)
      db.communitySponsorships.rows) : Provisioned db' := by
  intro p hm hpurpose hstatus
  rw [hp] at hm
  rw [linked_ended hs]
  exact h p hm hpurpose hstatus

theorem checkout_provisioned (h : Provisioned db) (hw : CheckoutWrite db db') :
    Provisioned db' := by
  cases hw with
  | elsewhere hframe =>
    rw [hframe]
    exact h
  | opened hs _ hrows hframe =>
    refine h.step (fun id hl ↦ by rw [hframe]; exact hl) fun p hp hpurpose hstatus ↦ ?_
    rw [hrows, List.mem_append, List.mem_singleton] at hp
    rcases hp with hp | rfl
    · exact .inr ⟨p, hp, rfl, hpurpose, hstatus⟩
    · rw [hs] at hstatus
      cases hstatus
  | session hrows hframe =>
    refine h.step (fun id hl ↦ by rw [hframe]; exact hl) fun p hp hpurpose hstatus ↦ ?_
    rw [hrows, Table.mem_updateRows] at hp
    rcases hp with ⟨a, ha, _, rfl⟩ | ⟨hp, _⟩
    · exact .inr ⟨a, ha, rfl, hpurpose, hstatus⟩
    · exact .inr ⟨p, hp, rfl, hpurpose, hstatus⟩

theorem commit_provisioned {event : PaymentWebhookEvent} (h : Provisioned db)
    (hw : CommitWrite env event db db') : Provisioned db' := by
  cases hw with
  | recorded hadded hrows hs _ =>
    refine h.step (fun id hl ↦ by rw [linkedSponsorships, hs]; exact hl) fun p hp hpurpose hst ↦ ?_
    rw [hrows, List.mem_append] at hp
    rcases hp with hp | hp
    · exact .inr ⟨p, hp, rfl, hpurpose, hst⟩
    · rw [hadded p hp] at hpurpose
      cases hpurpose
  | @activated payment terms _ _ _ hact =>
    have hkept : ∀ s ∈ db.communitySponsorships.rows, s ∈ db'.communitySponsorships.rows := by
      intro s hs
      rw [hact.sponsorships]
      exact List.mem_append_left _ hs
    refine h.update (fun id hl ↦ ?_) hact.payments fun p _ hid _ _ ↦ ?_
    · obtain ⟨s, hs, hlink⟩ := linked_iff.mp hl
      exact linked_iff.mpr ⟨s, hkept s hs, hlink⟩
    · refine linked_iff.mpr ⟨terms.row env payment, ?_, congrArg some hid.symm⟩
      rw [hact.sponsorships]
      simp
  | refunded hrows hs _ =>
    refine h.update (fun id hl ↦ by rw [linkedSponsorships, hs]; exact hl) hrows ?_
    intro p _ _ _ hst
    cases hst

theorem reconcile_provisioned {l : Request} (h : Provisioned db)
    (hok : ∀ id, l = .updatePayment id .succeeded → ∀ payment ∈ db.payments.rows,
      payment.id = id → payment.purpose = .communitySponsorship → linkedSponsorships id db = 1)
    (hw : ReconcileWrite l db db') : Provisioned db' := by
  cases hw with
  | nothing => exact h
  | succeeded ht =>
    refine h.update (fun _ hl ↦ hl) ht fun p hp hid hpurpose _ ↦ ?_
    show linkedSponsorships p.id db = 1
    rw [show p.id = _ from hid]
    exact hok _ rfl p hp hid hpurpose
  | failed ht =>
    refine h.update (fun _ hl ↦ hl) ht ?_
    intro p _ _ _ hst
    cases hst

theorem refund_provisioned (h : Provisioned db) (hw : RefundWrite db db') : Provisioned db' := by
  cases hw with
  | logged hframe =>
    rw [hframe]
    exact h
  | recorded href =>
    have hlinked : ∀ id, linkedSponsorships id db = 1 → linkedSponsorships id db' = 1 := by
      intro id hl
      rcases href.ended_or_kept with ⟨s, _, _, hended⟩ | ⟨hs, _⟩
      · rw [linked_ended (show db'.communitySponsorships.rows = _ from hended.sponsorships)]
        exact hl
      · rw [linkedSponsorships, hs]
        exact hl
    refine h.update hlinked href.payments fun p _ _ _ hst ↦ ?_
    simp only [settleRefund] at hst
    split_ifs at hst

theorem sweep_provisioned {now : Time} (h : Provisioned db) (hw : SweepWrite now db db') :
    Provisioned db' := by
  cases hw with
  | logged hframe =>
    rw [hframe]
    exact h
  | @expired s _ hended hframe =>
    have hrows : db'.communitySponsorships.rows = Table.updateRows s.id (·.withStatus .expired)
        db.communitySponsorships.rows := by
      rw [hframe]
      exact hended.sponsorships
    exact h.ended (by rw [hframe, hended.frame]) hrows

end Steps

/-- However checkouts, webhook deliveries, reconciliation runs, refunds and sweeps
interleave, if reconciliation comes last, whatever is paid is provisioned. -/
theorem paid_provisioned {p : Pool World Activity}
    (h : Reach activities.Step ReconcilesLast
      (fun q ↦ q.threads = [] ∧ Provisioned q.shared.db) p) : Provisioned p.shared.db := by
  refine Activity.invariant (J := fun w ↦ Provisioned w.db) (fun _ hq ↦ hq) ?_
    (fun _ _ hJ _ ↦ hJ) h
  intro q i env t db' hJ hi hok hw
  cases hw with
  | checkout hw => exact checkout_provisioned hJ hw
  | aside hp hs _ =>
    intro r hr
    rw [linkedSponsorships, hs]
    rw [hp] at hr
    exact hJ r hr
  | commit hw => exact commit_provisioned hJ hw
  | reconciliation hl hw =>
    exact reconcile_provisioned hJ (fun id he ↦ hok _ id hi (he ▸ hl)) hw
  | refund hw => exact refund_provisioned hJ hw
  | sweep hw => exact sweep_provisioned hJ hw

/-- A checkout of the sample sponsor, its webhook, and a reconciliation run. -/
def checkoutWebhookReconciliation : List Activity :=
  [.checkout (createCommunitySponsorshipCheckout "user-1" sponsoringDto),
    .delivery (.received (sponsorshipSession "evt_1" "cs_1" key₁ "pi_1")),
    .reconciliation (reconcileStalePendingPayments ⟨none, none⟩)]

theorem starts_sample : ∀ t ∈ checkoutWebhookReconciliation, activities.start t := by
  intro t ht
  simp only [checkoutWebhookReconciliation, List.mem_cons, List.not_mem_nil, or_false] at ht
  rcases ht with rfl | rfl | rfl
  · exact .checkout _ _
  · exact .delivery _
  · exact .reconciliation _

def reconcilesLast (p : Pool World Activity) (i : ℕ) (_ : Env) : Bool :=
  match p.threads[i]? with
  | some (.reconciliation c) =>
    match c.label? with
    | some (.updatePayment id .succeeded) => linkedSponsorships id p.shared.db == 1
    | _ => true
  | _ => true

theorem reconcilesLast_ok (p : Pool World Activity) (i : ℕ) (env : Env)
    (h : reconcilesLast p i env = true) : ReconcilesLast p (.run i env) := by
  intro c id hc hl _ _ _ _
  simp only [reconcilesLast, hc, hl] at h
  exact beq_iff_eq.mp h

/-- Reconciliation finds the payment pending, and marks it after its webhook has. -/
theorem paid_once_provisioned : ∃ p : Pool World Activity,
    p.shared.db.payments.rows.map (·.status) = [.succeeded] ∧ Provisioned p.shared.db := by
  have hinit : Reach activities.Step ReconcilesLast
      (fun q ↦ q.threads = [] ∧ Provisioned q.shared.db) ⟨⟨sponsoringDb, 0⟩, []⟩ :=
    .start ⟨rfl, fun p hp ↦ by cases hp⟩
  have hstart := Machine.reach_spawnAll (fun _ _ _ ↦ trivial) starts_sample hinit
  have hrun : (Activity.phases reconcilesLast
      [(0, List.replicate 8 (0, .online 0 "cs_1" key₁ "a")),
        (1000000, List.replicate 2 (2, .online 0 "" "b" "c") ++
          List.replicate 6 (1, .online 0 "" "d" "e") ++ [(2, .online 0 "" "f" "g")])]
      ⟨⟨sponsoringDb, 0⟩, checkoutWebhookReconciliation⟩).any (fun p ↦
        p.shared.db.payments.rows.map (·.status) == [.succeeded]) = true := by
    decide +kernel
  obtain ⟨p, hp, hstatus⟩ := (Option.any_eq_true ..).mp hrun
  have hreach := Activity.reach_phases reconcilesLast_ok (fun _ ↦ trivial) hstart hp
  exact ⟨p, beq_iff_eq.mp hstatus, paid_provisioned hreach⟩

/-- Reconciliation marks the payment paid before its webhook is handled: the event
is processed, the payment is paid, and no sponsorship is there. -/
theorem paid_not_provisioned : ∃ p : Pool World Activity,
    Reach activities.Step (fun _ _ ↦ True) (fun q ↦ q = ⟨⟨sponsoringDb, 0⟩, []⟩) p ∧
      (∃ row ∈ p.shared.db.stripeWebhookEvents.rows,
        row.providerEventId = "evt_1" ∧ row.processingStatus = .processed) ∧
      ∃ payment ∈ p.shared.db.payments.rows, payment.purpose = .communitySponsorship ∧
        payment.status = .succeeded ∧ linkedSponsorships payment.id p.shared.db = 0 := by
  have hinit : Reach activities.Step (fun _ _ ↦ True) (fun q ↦ q = ⟨⟨sponsoringDb, 0⟩, []⟩)
      ⟨⟨sponsoringDb, 0⟩, []⟩ := .start rfl
  have hstart := Machine.reach_spawnAll (fun _ _ _ ↦ trivial) starts_sample hinit
  have hrun : (Activity.phases (fun _ _ _ ↦ true)
      [(0, List.replicate 8 (0, .online 0 "cs_1" key₁ "a")),
        (1000000, List.replicate 3 (2, .online 0 "" "b" "c") ++
          List.replicate 5 (1, .online 0 "" "d" "e"))]
      ⟨⟨sponsoringDb, 0⟩, checkoutWebhookReconciliation⟩).any (fun p ↦
        (p.shared.db.stripeWebhookEvents.rows.any fun row ↦
          row.providerEventId == "evt_1" && row.processingStatus == .processed) &&
        p.shared.db.payments.rows.any fun payment ↦
          payment.purpose == .communitySponsorship && payment.status == .succeeded &&
            linkedSponsorships payment.id p.shared.db == 0) = true := by
    decide +kernel
  obtain ⟨p, hp, hend⟩ := (Option.any_eq_true ..).mp hrun
  simp only [Bool.and_eq_true, List.any_eq_true, beq_iff_eq] at hend
  obtain ⟨hevent, payment, hm, ⟨hpurpose, hstatus⟩, hnone⟩ := hend
  exact ⟨p, Activity.reach_phases (fun _ _ _ _ ↦ trivial) (fun _ ↦ trivial) hstart hp, hevent,
    payment, hm, hpurpose, hstatus, hnone⟩

end Innovents.Payments
