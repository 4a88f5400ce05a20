import Innovents.Payments.PaymentRuns

namespace Innovents.Payments

open Innovents.Lib JsNumber PaymentsService PaymentReconciliationService StripeWebhookService

/-- No sponsorship runs that was bought with a payment refunded in full. -/
def NoRefundedRunning (db : Db) : Prop :=
  ∀ p ∈ db.payments.rows, p.purpose = .communitySponsorship → p.refundAmount = some p.amount →
    ∀ s ∈ db.communitySponsorships.rows, s.paymentId = some p.id → s.status ≠ .active

/-- No sponsorship bought with the payment is active. -/
def Unsponsoring (p : Payment) (db : Db) : Prop :=
  ∀ s ∈ sponsorshipOf p db, s.status ≠ .active

/-- The event refunds a whole number of minor units other than the amount. -/
def RefundsPart (event : PaymentWebhookEvent) (p : Payment) : Prop :=
  ∃ minorUnits, minorUnits ∈ ((eventObject event).get "amount_refunded").asNum? ∧
    minorUnits.den = 1 ∧ minorUnits ≠ p.amount.cents

/-- The refunds miss the amount by half a cent or less. -/
def MissesAmount (p : Payment) (targetRefund : ℚ) : Prop :=
  p.amount.cents - 1 / 2 ≤ 100 * newTotalRefunded p targetRefund ∧
    100 * newTotalRefunded p targetRefund < p.amount.cents

/-- What an operation must find for a full refund to end the sponsorship: an
activated payment is not refunded in full, a charge refunded in full has no active
sponsorship, and no admin refund reaches the amount by rounding alone. -/
def EndsRefunded (db : Db) : PaymentOp → Prop
  | .webhook event =>
    (∀ p ∈ activatedPayment event db,
      p.purpose = .communitySponsorship → p.refundAmount ≠ some p.amount) ∧
      ∀ p ∈ refundedPayment event db, RefundsPart event p ∨ Unsponsoring p db
  | .refund paymentId _ dto => ∀ p ∈ db.payments.get? paymentId,
      ∀ targetRefund ∈ (refundTarget p dto).toOption,
        ¬MissesAmount p targetRefund ∨ Unsponsoring p db
  | .checkout _ _ | .reconcile _ => True

section Steps

variable {env : Env} {db db' : Db} {p : Payment}

theorem Unsponsoring.not_active (h : Unsponsoring p db) {s : CommunitySponsorship}
    (hs : s ∈ db.communitySponsorships.rows) (hp : s.paymentId = some p.id) :
    s.status ≠ .active := h s (sponsorshipOf_eq_some.mpr ⟨hs, hp⟩)

/-- A payment `p` is rewritten and the sponsorships stay. -/
theorem NoRefundedRunning.update {t : Table Payment} {f : Payment → Payment}
    (h : NoRefundedRunning db) (hp : p ∈ db.payments.rows)
    (hf : (f p).id = p.id ∧ (f p).purpose = p.purpose ∧ (f p).amount = p.amount)
    (hr : (f p).refundAmount = some p.amount → p.refundAmount = some p.amount ∨ Unsponsoring p db)
    (ht : t.rows = Table.updateRows p.id f db.payments.rows) :
    NoRefundedRunning { db with payments := t } := by
  intro q hq hpurpose hamount s hs hlink
  have hq' : q ∈ t.rows := hq
  rw [ht, Table.mem_updateRows] at hq'
  rcases hq' with ⟨a, ha, haid, rfl⟩ | ⟨hq', _⟩
  · rw [db.payments.eq_of_id ha hp haid] at hpurpose hamount hlink
    rw [hf.1] at hlink
    rw [hf.2.1] at hpurpose
    rw [hf.2.2] at hamount
    rcases hr hamount with hr | hr
    · exact h p hp hpurpose hr s hs hlink
    · exact hr.not_active hs hlink
  · exact h q hq' hpurpose hamount s hs hlink

theorem NoRefundedRunning.congr (h : NoRefundedRunning db)
    (hs : db'.communitySponsorships = db.communitySponsorships)
    (hp : ∀ p ∈ db'.payments.rows, p.refundAmount = some p.amount → p ∈ db.payments.rows) :
    NoRefundedRunning db' := by
  intro p hpm hpurpose hamount s hsm hlink
  rw [hs] at hsm
  exact h p (hp p hpm hamount) hpurpose hamount s hsm hlink

theorem checkout_keeps_ended (h : NoRefundedRunning db) (hw : CheckoutWrite db db') :
    NoRefundedRunning db' := by
  cases hw with
  | elsewhere hframe =>
    rw [hframe]
    exact h
  | opened _ hr hrows hframe =>
    refine h.congr (by rw [hframe]) fun p hp hamount ↦ ?_
    rw [hrows, List.mem_append, List.mem_singleton] at hp
    rcases hp with hp | rfl
    · exact hp
    · rw [hr] at hamount
      cases hamount
  | session hrows hframe =>
    intro p hp hpurpose hamount s hs hlink
    rw [hframe] at hs
    rw [hrows, Table.mem_updateRows] at hp
    rcases hp with ⟨a, ha, _, rfl⟩ | ⟨hp, _⟩
    · exact h a ha hpurpose hamount s hs hlink
    · exact h p hp hpurpose hamount s hs hlink

theorem webhook_keeps_ended {event : PaymentWebhookEvent} (h : NoRefundedRunning db)
    (hok : EndsRefunded db (.webhook event)) (hw : WebhookWrite env event db db') :
    NoRefundedRunning db' := by
  cases hw with
  | recorded hadded hrows hs _ =>
    refine h.congr hs fun p hp hamount ↦ ?_
    rw [hrows, List.mem_append] at hp
    rcases hp with hp | hp
    · exact hp
    · rw [(hadded p hp).2.1] at hamount
      cases hamount
  | @activated p terms hact hp _ hrows hsrows _ =>
    have hnot := hok.1 p hact
    have hpaid := h.update hp (f := markPaid env (eventObject event)) ⟨rfl, rfl, rfl⟩
      (fun hr ↦ .inl hr) hrows
    intro q hq hpurpose hamount s hs hlink
    rw [hsrows, List.mem_append, List.mem_singleton] at hs
    rcases hs with hs | rfl
    · exact hpaid q hq hpurpose hamount s hs hlink
    · -- the new sponsorship belongs to `p`, which is not refunded in full
      exfalso
      have hid : q.id = p.id := (Option.some.inj hlink).symm
      rw [hrows, Table.mem_updateRows] at hq
      rcases hq with ⟨a, ha, haid, rfl⟩ | ⟨_, hne⟩
      · rw [db.payments.eq_of_id ha hp haid] at hpurpose hamount
        exact hnot hpurpose hamount
      · exact hne hid
  | @refunded p refundAmount href hp hcents hrows hs _ =>
    have hdb := h.update hp (f := markRefunded env refundAmount) ⟨rfl, rfl, rfl⟩ ?_ hrows
    · exact hdb.congr hs fun q hq _ ↦ hq
    · intro hr
      refine .inr ?_
      rcases hok.2 p href with ⟨q, hq, hden, hne⟩ | hun
      · exfalso
        apply hne
        have hint : q = q.num := ((Rat.den_eq_one_iff q).mp hden).symm
        rw [Option.mem_def] at hq
        simp only [amountOf, hq] at hcents
        rw [hint] at hcents
        have he : refundAmount = p.amount := Option.some.inj hr
        rw [hint, ← he, hundredths_eq hcents refundAmount.fits]
      · exact hun

theorem refund_keeps_ended {ok : Env → Prop} {paymentId adminUserId : String} {dto : AdminRefundDto}
    (h : NoRefundedRunning db) (hok : EndsRefunded db (.refund paymentId adminUserId dto))
    (hw : Refunds ok paymentId dto db db') : NoRefundedRunning db' := by
  cases hw with
  | nothing he => rwa [he]
  | @recorded env p targetRefund refundAmount db₁ t _ hp hid htarget hcents href he =>
    rw [he]
    show NoRefundedRunning db₁
    have hkeeps := hok p (Table.get?_eq_some.mpr ⟨hp, hid⟩) targetRefund (by rw [htarget]; rfl)
    cases hfull : isFullRefund p targetRefund with
    | false =>
      have hdb := h.update hp ⟨rfl, rfl, rfl⟩ ?_ href.payments
      · exact hdb.congr (href.kept (.inl hfull)).1 fun q hq _ ↦ hq
      · intro hr
        rcases hkeeps with hmiss | hun
        · exfalso
          apply hmiss
          have hamount : refundAmount = p.amount := Option.some.inj hr
          have hlt : newTotalRefunded p targetRefund < p.amount.toRat :=
            not_le.mp (of_decide_eq_false hfull)
          have hround := abs_le.mp (roundHalfAway_error (100 * newTotalRefunded p targetRefund))
          rw [← hcents, hamount] at hround
          unfold Money.toRat at hlt
          constructor <;> linarith
        · exact .inr hun
    | true =>
      intro q hq hpurpose hamount s hs hlink
      rw [href.payments, Table.mem_updateRows] at hq
      cases hsp : sponsorshipOf p db with
      | none =>
        rw [(href.kept (.inr hsp)).1] at hs
        rcases hq with ⟨a, ha, haid, rfl⟩ | ⟨hq, _⟩
        · have hlink' : s.paymentId = some p.id := by
            rw [hlink, ← haid]
            rfl
          have hsome := sponsorshipOf_eq_some.mpr ⟨hs, hlink'⟩
          rw [hsp] at hsome
          cases hsome
        · exact h q hq hpurpose hamount s hs hlink
      | some s₀ =>
        have hended := href.ended s₀ hfull hsp
        have hs' : s ∈ Table.updateRows s₀.id (·.withStatus .cancelled)
            db.communitySponsorships.rows := by
          rw [← hended.sponsorships]
          exact hs
        rw [Table.mem_updateRows] at hs'
        rcases hs' with ⟨b, _, _, rfl⟩ | ⟨hs', hne⟩
        · simp [CommunitySponsorship.withStatus]
        · rcases hq with ⟨a, ha, haid, rfl⟩ | ⟨hq, _⟩
          · exfalso
            have hlink' : s.paymentId = some p.id := by
              rw [hlink, ← haid]
              rfl
            have hsome := sponsorshipOf_eq_some.mpr ⟨hs', hlink'⟩
            rw [hsp, Option.some.injEq] at hsome
            exact hne (by rw [hsome]; rfl)
          · exact h q hq hpurpose hamount s hs' hlink

theorem reconcile_keeps_ended : KeptByReconcile NoRefundedRunning := by
  intro db env p f t h hp _ hf ht
  rcases hf with ⟨session, rfl⟩ | rfl
  · exact h.update hp ⟨rfl, rfl, rfl⟩ (fun hr ↦ .inl hr) ht
  · exact h.update hp ⟨rfl, rfl, rfl⟩ (fun hr ↦ .inl hr) ht

theorem op_keeps_ended {ok : Env → Prop} {op : PaymentOp} (h : NoRefundedRunning db)
    (hok : EndsRefunded db op) (hr : op.Runs ok db db') : NoRefundedRunning db' := by
  cases hr with
  | checkout hran =>
    exact (checkout_writes _ _).ran (fun _ _ _ hd hw ↦ checkout_keeps_ended hd hw) hran h
  | webhook => exact webhook_keeps_ended h hok (webhook_writes _ _ db)
  | refund hran => exact refund_keeps_ended h hok (refundPayment_ran hran)
  | reconcile hran => exact reconcile_ran reconcile_keeps_ended hran h

end Steps

/-- In every run whose operations find what `EndsRefunded` asks for, a sponsorship
that was refunded in full does not run. -/
theorem refunded_not_running {db : Db}
    (h : Reach PaymentOp.Next EndsRefunded NoRefundedRunning db) : NoRefundedRunning db :=
  Reach.invariant (I := NoRefundedRunning) (fun _ hdb ↦ hdb)
    (fun _ _ _ hdb hok hr ↦ op_keeps_ended hdb hok hr) h

instance (p : Payment) (db : Db) : Decidable (Unsponsoring p db) :=
  inferInstanceAs (Decidable (∀ s ∈ sponsorshipOf p db, s.status ≠ .active))

instance (event : PaymentWebhookEvent) (p : Payment) : Decidable (RefundsPart event p) :=
  inferInstanceAs (Decidable (∃ minorUnits,
    minorUnits ∈ ((eventObject event).get "amount_refunded").asNum? ∧
      (minorUnits.den = 1 ∧ minorUnits ≠ p.amount.cents)))

instance (p : Payment) (targetRefund : ℚ) : Decidable (MissesAmount p targetRefund) :=
  inferInstanceAs (Decidable (_ ∧ _))

instance (db : Db) (op : PaymentOp) : Decidable (EndsRefunded db op) :=
  match op with
  | .checkout .. => inferInstanceAs (Decidable True)
  | .webhook event =>
    inferInstanceAs (Decidable (
      (∀ p ∈ activatedPayment event db,
        p.purpose = .communitySponsorship → p.refundAmount ≠ some p.amount) ∧
        ∀ p ∈ refundedPayment event db, RefundsPart event p ∨ Unsponsoring p db))
  | .refund paymentId _ dto =>
    inferInstanceAs (Decidable (∀ p ∈ db.payments.get? paymentId,
      ∀ targetRefund ∈ (refundTarget p dto).toOption,
        ¬MissesAmount p targetRefund ∨ Unsponsoring p db))
  | .reconcile .. => inferInstanceAs (Decidable True)

/-- An admin refunds a sponsorship in full, and Stripe reports the refund afterwards. -/
theorem refunded_and_echoed : ∃ db,
    Reach PaymentOp.Next EndsRefunded NoRefundedRunning db ∧ NoRefundedRunning db ∧
      db.communitySponsorships.rows.map (·.status) = [.cancelled] := by
  have hrun : ((PaymentOp.performAll EndsRefunded (sponsorshipPaid ++
      [(.refund key₁ "user-1" ⟨none, none⟩, List.replicate 4 (.online 2 "" "d" "e")),
        (.webhook (chargeRefunded "evt_2" "pi_1" 10000), [.online 3 "" "f" "g"])])
      sponsoringDb).any fun db ↦
        db.communitySponsorships.rows.map (·.status) == [.cancelled]) = true := by
    decide +kernel
  obtain ⟨db, hdb, hstatus⟩ := (Option.any_eq_true ..).mp hrun
  have hinit : NoRefundedRunning sponsoringDb := fun p hp ↦ by cases hp
  have hreach := PaymentOp.reach_performAll (.start hinit) hdb
  exact ⟨db, hreach, refunded_not_running hreach, beq_iff_eq.mp hstatus⟩

/-- A full refund that Stripe reports first: the sponsorship goes on. -/
theorem refunded_still_running : ∃ db,
    Reach PaymentOp.Next (fun _ _ ↦ True) (fun d ↦ d = sponsoringDb) db ∧
      NoRefundedRunning sponsoringDb ∧ ¬NoRefundedRunning db := by
  have hrun : ((PaymentOp.performAll (fun _ _ ↦ True) (sponsorshipPaid ++
      [(.webhook (chargeRefunded "evt_2" "pi_1" 10000), [.online 2 "" "d" "e"])])
      sponsoringDb).any fun db ↦ db.payments.rows.any fun p ↦
        p.purpose == .communitySponsorship && p.refundAmount == some p.amount &&
          db.communitySponsorships.rows.any fun s ↦
            s.paymentId == some p.id && s.status == .active) = true := by
    decide +kernel
  obtain ⟨db, hdb, hp⟩ := (Option.any_eq_true ..).mp hrun
  have hinit : NoRefundedRunning sponsoringDb := fun p hp ↦ by cases hp
  refine ⟨db, PaymentOp.reach_performAll (.start rfl) hdb, hinit, fun h ↦ ?_⟩
  obtain ⟨p, hpm, hp⟩ := List.any_eq_true.mp hp
  simp only [Bool.and_eq_true, beq_iff_eq] at hp
  obtain ⟨⟨hpurpose, hamount⟩, hs⟩ := hp
  obtain ⟨s, hsm, hs⟩ := List.any_eq_true.mp hs
  simp only [Bool.and_eq_true, beq_iff_eq] at hs
  exact h p hpm hpurpose hamount s hsm hs.1 hs.2

end Innovents.Payments
