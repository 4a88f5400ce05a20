import Innovents.Payments.PaymentRuns

namespace Innovents.Payments

open Innovents.Lib JsNumber PaymentsService PaymentReconciliationService StripeWebhookService

/-- The status of a payment says how much of it is refunded. -/
structure Payment.RefundConsistent (p : Payment) : Prop where
  refunded : p.status = .refunded ↔ p.refundAmount = some p.amount
  partiallyRefunded : p.status = .partiallyRefunded ↔
    ∃ r, p.refundAmount = some r ∧ 0 < r.cents ∧ r.cents < p.amount.cents
  other : (p.status ≠ .refunded ∧ p.status ≠ .partiallyRefunded) ↔ p.refundAmount = none

def RefundsConsistent (db : Db) : Prop := ∀ p ∈ db.payments.rows, p.RefundConsistent

section Payments

variable {p q : Payment} {targetRefund : ℚ}

theorem Payment.RefundConsistent.of_none (hs : p.status ≠ .refunded) (hs' : p.status ≠ .partiallyRefunded)
    (hnone : p.refundAmount = none) : p.RefundConsistent := by
  constructor <;> simp [hs, hs', hnone]

theorem Payment.RefundConsistent.of_full (hs : p.status = .refunded)
    (hr : p.refundAmount = some p.amount) : p.RefundConsistent := by
  constructor <;> simp [hs, hr]

theorem Payment.RefundConsistent.of_part {r : Money} (hs : p.status = .partiallyRefunded)
    (hr : p.refundAmount = some r) (hpos : 0 < r.cents) (hlt : r.cents < p.amount.cents) :
    p.RefundConsistent := by
  have hne : r ≠ p.amount := fun he ↦ by rw [he] at hlt; exact lt_irrefl _ hlt
  constructor <;> simp [hs, hr, hpos, hlt, hne]

/-- A change of columns that neither say the status nor an amount. -/
theorem Payment.RefundConsistent.congr (h : p.RefundConsistent) (hs : q.status = p.status)
    (hr : q.refundAmount = p.refundAmount) (ha : q.amount = p.amount) : q.RefundConsistent := by
  obtain ⟨h₁, h₂, h₃⟩ := h
  constructor <;> rw [hs, hr] <;> first | rw [ha]; assumption | assumption

theorem Payment.RefundConsistent.none_of_pending (h : p.RefundConsistent) (hs : p.status = .pending) :
    p.refundAmount = none := h.other.mp (by simp [hs])

theorem Payment.RefundConsistent.bounded (h : p.RefundConsistent) (hr : isRefundable p = true)
    (hpos : 0 < targetRefund) (hmax : targetRefund ≤ maxRefundable p) : p.RefundBounded := by
  simp only [isRefundable, Bool.or_eq_true, beq_iff_eq] at hr
  rcases hr with hs | hs
  · exact bounded_of_none (h.other.mp (by simp [hs])) hpos hmax
  · obtain ⟨r, hr, hrpos, hlt⟩ := h.partiallyRefunded.mp hs
    have hc : p.refundedCents = r.cents := by simp [Payment.refundedCents, hr]
    exact ⟨hc ▸ hrpos.le, hc ▸ hlt.le⟩

/-- The refunds add up to at least half a cent, and do not miss the amount by half
a cent or less. -/
def RoundsFairly (p : Payment) (targetRefund : ℚ) : Prop :=
  1 / 2 ≤ 100 * newTotalRefunded p targetRefund ∧
    ¬(p.amount.cents - 1 / 2 ≤ 100 * newTotalRefunded p targetRefund ∧
      100 * newTotalRefunded p targetRefund < p.amount.cents)

theorem RoundsFairly.pos (hb : p.RefundBounded) (hpos : 0 < targetRefund)
    (hmax : targetRefund ≤ maxRefundable p) (hfair : RoundsFairly p targetRefund) :
    0 < newTotalCents p targetRefund := by
  have h : 1 ≤ newTotalCents p targetRefund := by
    rw [newTotalCents_eq hb hpos hmax]
    apply le_mathRound
    have h₁ := hfair.1
    push_cast
    linarith
  omega

/-- A part refund stays below the amount when it is rounded to cents. -/
theorem RoundsFairly.lt_amount (hb : p.RefundBounded) (hpos : 0 < targetRefund)
    (hmax : targetRefund ≤ maxRefundable p) (hfair : RoundsFairly p targetRefund)
    (hfull : isFullRefund p targetRefund = false) :
    newTotalCents p targetRefund < p.amount.cents := by
  have hlt : newTotalRefunded p targetRefund < p.amount.toRat :=
    not_le.mp (of_decide_eq_false hfull)
  unfold Money.toRat at hlt
  by_contra hle
  have hround := newTotalCents_eq hb hpos hmax
  have he := abs_le.mp (mathRound_error (100 * newTotalRefunded p targetRefund))
  rw [← hround] at he
  have hle' : (p.amount.cents : ℚ) ≤ newTotalCents p targetRefund := by
    exact_mod_cast not_lt.mp hle
  apply hfair.2
  constructor <;> linarith

theorem Payment.RefundConsistent.settle {env : Env} {refundAmount : Money} {reason : Option String}
    (h : p.RefundConsistent) (hr : isRefundable p = true) (hpos : 0 < targetRefund)
    (hmax : targetRefund ≤ maxRefundable p) (hfair : RoundsFairly p targetRefund)
    (hcents : refundAmount.cents = newTotalCents p targetRefund) :
    (settleRefund env (isFullRefund p targetRefund) refundAmount reason p).RefundConsistent := by
  have hb := h.bounded hr hpos hmax
  cases hfull : isFullRefund p targetRefund with
  | true =>
    refine .of_full rfl ?_
    have he : refundAmount = p.amount :=
      Money.ext (hcents.trans (newTotalCents_of_full hb hpos hmax hfull))
    exact congrArg some he
  | false =>
    refine .of_part (r := refundAmount) rfl rfl ?_ ?_
    · rw [hcents]
      exact hfair.pos hb hpos hmax
    · rw [hcents]
      exact hfair.lt_amount hb hpos hmax hfull

end Payments

/-- What an operation must find for the status and the refunded amount to stay in
step: an activated payment has no refund yet, a refunded charge is refunded in
full, and the total of an admin refund rounds fairly. -/
def KeepsRefunds (db : Db) : PaymentOp → Prop
  | .webhook event =>
    (∀ p ∈ activatedPayment event db, p.refundAmount = none) ∧
      ∀ p ∈ refundedPayment event db,
        ∀ minorUnits ∈ ((eventObject event).get "amount_refunded").asNum?,
          minorUnits = p.amount.cents
  | .refund paymentId _ dto => ∀ p ∈ db.payments.get? paymentId,
      ∀ targetRefund ∈ (refundTarget p dto).toOption, RoundsFairly p targetRefund
  | .checkout _ _ | .reconcile _ => True

section Steps

variable {env : Env} {db db' : Db}

/-- All rows stay consistent if the rewritten one does. -/
theorem RefundsConsistent.update {t : Table Payment} {f : Payment → Payment} {p : Payment}
    (h : RefundsConsistent db) (hp : p ∈ db.payments.rows) (hf : (f p).RefundConsistent)
    (ht : t.rows = Table.updateRows p.id f db.payments.rows) :
    ∀ q ∈ t.rows, q.RefundConsistent := by
  intro q hq
  rw [ht, Table.mem_updateRows] at hq
  rcases hq with ⟨a, ha, haid, rfl⟩ | ⟨hq, _⟩
  · rw [db.payments.eq_of_id ha hp haid]
    exact hf
  · exact h q hq

theorem checkout_keeps (h : RefundsConsistent db) (hw : CheckoutWrite db db') :
    RefundsConsistent db' := by
  cases hw with
  | elsewhere hframe =>
    rw [hframe]
    exact h
  | opened hs hr hrows _ =>
    intro p hp
    rw [hrows, List.mem_append, List.mem_singleton] at hp
    rcases hp with hp | rfl
    · exact h p hp
    · exact .of_none (by simp [hs]) (by simp [hs]) hr
  | session hrows _ =>
    intro p hp
    rw [hrows, Table.mem_updateRows] at hp
    rcases hp with ⟨a, ha, _, rfl⟩ | ⟨hp, _⟩
    · exact (h a ha).congr rfl rfl rfl
    · exact h p hp

theorem webhook_keeps {event : PaymentWebhookEvent} (h : RefundsConsistent db)
    (hok : KeepsRefunds db (.webhook event)) (hw : WebhookWrite env event db db') :
    RefundsConsistent db' := by
  cases hw with
  | recorded hadded hrows _ _ =>
    intro p hp
    rw [hrows, List.mem_append] at hp
    rcases hp with hp | hp
    · exact h p hp
    · obtain ⟨hs, hr, _⟩ := hadded p hp
      exact .of_none (by simp [hs]) (by simp [hs]) hr
  | @activated p _ hact hp _ hrows _ _ =>
    have hnone : p.refundAmount = none := hok.1 p hact
    exact h.update hp (.of_none (by simp [markPaid]) (by simp [markPaid]) hnone) hrows
  | @refunded p refundAmount href hp hcents hrows _ _ =>
    have he : refundAmount = p.amount := by
      refine Money.ext ?_
      unfold amountOf at hcents
      split at hcents
      · next minorUnits hm =>
        have hfull := hok.2 p href minorUnits hm
        rw [hfull] at hcents
        exact hundredths_eq hcents refundAmount.fits
      · exact hundredths_eq hcents refundAmount.fits
    exact h.update hp (.of_full rfl (congrArg some he)) hrows

theorem refund_keeps {ok : Env → Prop} {paymentId adminUserId : String} {dto : AdminRefundDto}
    (h : RefundsConsistent db) (hok : KeepsRefunds db (.refund paymentId adminUserId dto))
    (hw : Refunds ok paymentId dto db db') : RefundsConsistent db' := by
  cases hw with
  | nothing he => rwa [he]
  | @recorded env p targetRefund refundAmount db₁ t _ hp hid htarget hcents href he =>
    obtain ⟨hr, _, hpos, hmax⟩ := refundTarget_eq_ok.mp htarget
    have hfair := hok p (Table.get?_eq_some.mpr ⟨hp, hid⟩) targetRefund (by rw [htarget]; rfl)
    rw [he]
    exact h.update hp ((h p hp).settle hr hpos hmax hfair hcents) href.payments

theorem reconcile_keeps : KeptByReconcile RefundsConsistent := by
  intro db env p f t h hp hs hf ht
  have hnone := (h p hp).none_of_pending hs
  refine h.update hp ?_ ht
  rcases hf with ⟨session, rfl⟩ | rfl
  · exact .of_none (by simp [markSucceeded]) (by simp [markSucceeded]) hnone
  · exact .of_none (by simp [PaymentReconciliationService.markFailed])
      (by simp [PaymentReconciliationService.markFailed]) hnone

theorem op_keeps {ok : Env → Prop} {op : PaymentOp} (h : RefundsConsistent db)
    (hok : KeepsRefunds db op) (hr : op.Runs ok db db') : RefundsConsistent db' := by
  cases hr with
  | checkout hran =>
    exact (checkout_writes _ _).ran (fun _ _ _ hd hw ↦ checkout_keeps hd hw) hran h
  | webhook => exact webhook_keeps h hok (webhook_writes _ _ db)
  | refund hran => exact refund_keeps h hok (refundPayment_ran hran)
  | reconcile hran => exact reconcile_ran reconcile_keeps hran h

end Steps

/-- In every run whose operations find what `KeepsRefunds` asks for, the status of
every payment says how much of it is refunded. -/
theorem refunds_consistent {db : Db}
    (h : Reach PaymentOp.Next KeepsRefunds RefundsConsistent db) : RefundsConsistent db :=
  Reach.invariant (I := RefundsConsistent) (fun _ hdb ↦ hdb)
    (fun _ _ _ hdb hok hr ↦ op_keeps hdb hok hr) h

instance (db : Db) (op : PaymentOp) : Decidable (KeepsRefunds db op) := by
  cases op with
  | checkout => exact inferInstanceAs (Decidable True)
  | webhook event =>
    exact inferInstanceAs (Decidable ((∀ p ∈ activatedPayment event db, p.refundAmount = none) ∧
      ∀ p ∈ refundedPayment event db,
        ∀ minorUnits ∈ ((eventObject event).get "amount_refunded").asNum?,
          minorUnits = p.amount.cents))
  | refund paymentId _ dto =>
    exact inferInstanceAs (Decidable (∀ p ∈ db.payments.get? paymentId,
      ∀ targetRefund ∈ (refundTarget p dto).toOption,
        1 / 2 ≤ 100 * newTotalRefunded p targetRefund ∧
          ¬(p.amount.cents - 1 / 2 ≤ 100 * newTotalRefunded p targetRefund ∧
            100 * newTotalRefunded p targetRefund < p.amount.cents)))
  | reconcile => exact inferInstanceAs (Decidable True)

theorem refundsConsistent_sponsoring : RefundsConsistent sponsoringDb := by
  intro p hp
  cases hp

/-- A sponsorship is paid, 40.00 and then the rest are refunded by an admin. -/
theorem refunded_in_two_parts : ∃ db,
    Reach PaymentOp.Next KeepsRefunds RefundsConsistent db ∧ RefundsConsistent db ∧
      db.payments.rows.map (·.status) = [.refunded] := by
  have hrun : ((PaymentOp.performAll KeepsRefunds (sponsorshipPaid ++
      [(.refund key₁ "user-1" ⟨some 40, none⟩, List.replicate 4 (.online 2 "" "d" "e")),
        (.refund key₁ "user-1" ⟨none, none⟩, List.replicate 4 (.online 3 "" "f" "g"))])
      sponsoringDb).any fun db ↦ db.payments.rows.map (·.status) == [.refunded]) = true := by
    decide +kernel
  obtain ⟨db, hdb, hstatus⟩ := (Option.any_eq_true ..).mp hrun
  have hreach := PaymentOp.reach_performAll (.start refundsConsistent_sponsoring) hdb
  exact ⟨db, hreach, refunds_consistent hreach, beq_iff_eq.mp hstatus⟩

/-- A refund of 40.00 out of 100.00 that Stripe reports: the payment is `REFUNDED`. -/
theorem part_refund_marked_refunded : ∃ db,
    Reach PaymentOp.Next (fun _ _ ↦ True) (fun d ↦ d = sponsoringDb) db ∧
      RefundsConsistent sponsoringDb ∧ ¬RefundsConsistent db := by
  have hrun : ((PaymentOp.performAll (fun _ _ ↦ True) (sponsorshipPaid ++
      [(.webhook (chargeRefunded "evt_2" "pi_1" 4000), [.online 2 "" "d" "e"])])
      sponsoringDb).any fun db ↦ db.payments.rows.any fun p ↦
        p.status == .refunded && p.refundAmount != some p.amount) = true := by
    decide +kernel
  obtain ⟨db, hdb, hp⟩ := (Option.any_eq_true ..).mp hrun
  refine ⟨db, PaymentOp.reach_performAll (.start rfl) hdb, refundsConsistent_sponsoring, fun h ↦ ?_⟩
  obtain ⟨p, hpm, hp⟩ := List.any_eq_true.mp hp
  simp only [Bool.and_eq_true, beq_iff_eq, bne_iff_ne] at hp
  exact hp.2 ((h p hpm).refunded.mp hp.1)

end Innovents.Payments
