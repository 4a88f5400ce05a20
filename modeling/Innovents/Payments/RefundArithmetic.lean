import Innovents.Payments.PaymentsService

namespace Innovents.Payments

open Innovents.Lib JsNumber

/-- What the row says is refunded, in cents. -/
def Payment.refundedCents (p : Payment) : ℤ := p.refundAmount.elim 0 Money.cents

/-- The row says that something between nothing and all of it is refunded. -/
structure Payment.RefundBounded (p : Payment) : Prop where
  nonneg : 0 ≤ p.refundedCents
  le_amount : p.refundedCents ≤ p.amount.cents

namespace PaymentsService

variable {p : Payment} {targetRefund : ℚ}

/-- The new total of a refund, as the column keeps it. -/
def newTotalCents (p : Payment) (targetRefund : ℚ) : ℤ :=
  roundHalfAway (100 * newTotalRefunded p targetRefund)

/-- The amount lies more than a hundredth of a cent away from every half cent. -/
def AwayFromHalfCent (amount : ℚ) : Prop := ∀ n : ℤ, 1 / 100 < |100 * amount - (n + 1 / 2)|

theorem refundTarget_eq_ok {dto : AdminRefundDto} :
    refundTarget p dto = .ok targetRefund ↔
      isRefundable p = true ∧ targetRefund = dto.amount.getD (maxRefundable p) ∧
        0 < targetRefund ∧ targetRefund ≤ maxRefundable p := by
  simp only [refundTarget, bind_eq_ok, require_eq_ok, pure_eq_ok, Bool.and_eq_true,
    decide_eq_true_eq]
  constructor
  · intro h
    obtain ⟨_, hr, _, ⟨hpos, hmax⟩, rfl⟩ := h
    exact ⟨hr, rfl, hpos, hmax⟩
  · intro h
    obtain ⟨hr, rfl, hpos, hmax⟩ := h
    exact ⟨(), hr, (), ⟨hpos, hmax⟩, rfl⟩

/-- What can be refunded of a payment without refunds has a positive amount. -/
theorem bounded_of_none (hnone : p.refundAmount = none) (hpos : 0 < targetRefund)
    (hmax : targetRefund ≤ maxRefundable p) : p.RefundBounded := by
  have hr : p.refundedCents = 0 := by simp [Payment.refundedCents, hnone]
  refine ⟨hr.ge, ?_⟩
  have hm : 0 < maxRefundable p := hpos.trans_le hmax
  simp only [maxRefundable, currentRefunded, hnone, Option.elim_none, sub_zero] at hm
  have ha : 0 < p.amount.toRat := pos_of_fl_pos (pos_of_fl_pos hm)
  unfold Money.toRat at ha
  have hc : (0 : ℚ) < p.amount.cents := by linarith
  rw [hr]
  exact_mod_cast hc.le

theorem currentRefunded_eq (p : Payment) : currentRefunded p = fl (p.refundedCents / 100) := by
  unfold currentRefunded Payment.refundedCents
  cases p.refundAmount with
  | none => simp [fl_zero]
  | some r => rfl

theorem amount_cast_lt (p : Payment) : (p.amount.cents : ℚ) < 10 ^ 12 := by
  have h := (abs_lt.mp p.amount.fits).2
  exact_mod_cast h

section Bounds

variable (hp : p.RefundBounded) (hpos : 0 < targetRefund) (hmax : targetRefund ≤ maxRefundable p)
include hp

theorem currentRefunded_error :
    |100 * currentRefunded p - p.refundedCents| ≤ 1 / 2000 := by
  have hn : (0 : ℚ) ≤ p.refundedCents := by exact_mod_cast hp.nonneg
  have hl : (p.refundedCents : ℚ) ≤ p.amount.cents := by exact_mod_cast hp.le_amount
  have ha := amount_cast_lt p
  have h := fl_error ((p.refundedCents : ℚ) / 100)
  rw [← currentRefunded_eq, abs_of_nonneg (show (0 : ℚ) ≤ p.refundedCents / 100 by linarith)] at h
  rw [abs_le] at h ⊢
  norm_num at h ha ⊢
  constructor <;> linarith

theorem toNumber_error : |100 * p.amount.toNumber - p.amount.cents| ≤ 1 / 2000 := by
  have hn : (0 : ℚ) ≤ p.refundedCents := by exact_mod_cast hp.nonneg
  have hl : (p.refundedCents : ℚ) ≤ p.amount.cents := by exact_mod_cast hp.le_amount
  have ha := amount_cast_lt p
  have h := fl_error p.amount.toRat
  unfold Money.toRat at h
  rw [abs_of_nonneg (show (0 : ℚ) ≤ p.amount.cents / 100 by linarith)] at h
  unfold Money.toNumber Money.toRat
  rw [abs_le] at h ⊢
  norm_num at h ha ⊢
  constructor <;> linarith

/-- What is left to refund, up to the rounding of doubles. -/
theorem maxRefundable_error :
    |100 * maxRefundable p - (p.amount.cents - p.refundedCents)| ≤ 1 / 500 := by
  have hn : (0 : ℚ) ≤ p.refundedCents := by exact_mod_cast hp.nonneg
  have hl : (p.refundedCents : ℚ) ≤ p.amount.cents := by exact_mod_cast hp.le_amount
  have ha := amount_cast_lt p
  have hr := abs_le.mp (currentRefunded_error hp)
  have hA := abs_le.mp (toNumber_error hp)
  have hd := fl_error (p.amount.toNumber - currentRefunded p)
  have hsize : |p.amount.toNumber - currentRefunded p| ≤ 2 * 10 ^ 10 := by
    rw [abs_le]
    norm_num at ha ⊢
    constructor <;> linarith
  unfold maxRefundable
  rw [abs_le] at hd ⊢
  norm_num at hsize hd ⊢
  constructor <;> linarith

include hmax

theorem target_le : 100 * targetRefund ≤ p.amount.cents - p.refundedCents + 1 / 500 := by
  have he := (abs_le.mp (maxRefundable_error hp)).2
  linarith

include hpos

theorem newTotal_error :
    |100 * newTotalRefunded p targetRefund - (p.refundedCents + 100 * targetRefund)| ≤ 1 / 500 := by
  have hn : (0 : ℚ) ≤ p.refundedCents := by exact_mod_cast hp.nonneg
  have ha := amount_cast_lt p
  have ht := target_le hp hmax
  have hr := abs_le.mp (currentRefunded_error hp)
  have hs := shortest_fl_error (currentRefunded p + targetRefund)
  have hsize : |currentRefunded p + targetRefund| ≤ 2 * 10 ^ 10 := by
    rw [abs_le]
    norm_num at ha ⊢
    constructor <;> linarith
  unfold newTotalRefunded
  have hs' : |shortest (fl (currentRefunded p + targetRefund)) -
      (currentRefunded p + targetRefund)| ≤ 1 / 100000 := by
    refine hs.trans ?_
    norm_num at hsize ⊢
    linarith
  rw [abs_le] at hs' ⊢
  constructor <;> linarith

theorem newTotalCents_eq :
    newTotalCents p targetRefund = mathRound (100 * newTotalRefunded p targetRefund) := by
  have hn : (0 : ℚ) ≤ p.refundedCents := by exact_mod_cast hp.nonneg
  have he := abs_le.mp (newTotal_error hp hpos hmax)
  unfold newTotalCents roundHalfAway
  split_ifs with h
  · rfl
  · -- a negative total would be a rounding error away from zero, and rounds to zero
    have h₁ : mathRound (100 * newTotalRefunded p targetRefund) = 0 := by
      apply mathRound_eq
      rw [abs_lt]
      push_cast
      constructor <;> linarith
    have h₂ : mathRound (-(100 * newTotalRefunded p targetRefund)) = 0 := by
      apply mathRound_eq
      rw [abs_lt]
      push_cast
      constructor <;> linarith
    unfold mathRound at h₂
    rw [h₁, h₂, neg_zero]

/-- The recorded total never exceeds the amount. -/
theorem newTotalCents_le : newTotalCents p targetRefund ≤ p.amount.cents := by
  rw [newTotalCents_eq hp hpos hmax]
  apply mathRound_le
  have he := abs_le.mp (newTotal_error hp hpos hmax)
  have ht := target_le hp hmax
  linarith

theorem newTotalCents_of_full (hfull : isFullRefund p targetRefund = true) :
    newTotalCents p targetRefund = p.amount.cents := by
  apply le_antisymm (newTotalCents_le hp hpos hmax)
  rw [newTotalCents_eq hp hpos hmax]
  apply le_mathRound
  have h : p.amount.toRat ≤ newTotalRefunded p targetRefund := of_decide_eq_true hfull
  unfold Money.toRat at h
  linarith

theorem refundedCents_le_newTotal : p.refundedCents ≤ newTotalCents p targetRefund := by
  rw [newTotalCents_eq hp hpos hmax]
  apply le_mathRound
  have he := abs_le.mp (newTotal_error hp hpos hmax)
  linarith

omit hpos hmax in
theorem maxRefundable_away : AwayFromHalfCent (maxRefundable p) := by
  intro n
  have he := abs_le.mp (maxRefundable_error hp)
  rw [lt_abs]
  rcases le_or_gt (p.amount.cents - p.refundedCents) n with hle | hlt
  · have hle' : (p.amount.cents : ℚ) - p.refundedCents ≤ n := by exact_mod_cast hle
    right
    linarith
  · have hlt' : (n : ℚ) + 1 ≤ p.amount.cents - p.refundedCents := by exact_mod_cast hlt
    left
    linarith

/-- What a refund asks of the provider is what the recorded total grows by. -/
theorem minorUnits_eq (haway : AwayFromHalfCent targetRefund) :
    mathRound (fl (targetRefund * 100)) = newTotalCents p targetRefund - p.refundedCents := by
  have hn : (0 : ℚ) ≤ p.refundedCents := by exact_mod_cast hp.nonneg
  have ha := amount_cast_lt p
  have ht := target_le hp hmax
  have he := newTotal_error hp hpos hmax
  have hsize : |targetRefund * 100| ≤ 2 * 10 ^ 12 := by
    rw [abs_le]
    norm_num at ha ⊢
    constructor <;> linarith
  have hf : |100 * targetRefund - fl (targetRefund * 100)| ≤ 1 / 100 := by
    have h := fl_error (targetRefund * 100)
    rw [abs_le] at h ⊢
    norm_num at h hsize ⊢
    constructor <;> linarith
  have hround : mathRound (100 * targetRefund) = mathRound (fl (targetRefund * 100)) :=
    mathRound_congr hf haway
  have hshift : mathRound (p.refundedCents + 100 * targetRefund) =
      p.refundedCents + mathRound (100 * targetRefund) := by
    unfold mathRound
    rw [add_assoc, Int.floor_intCast_add]
  have htotal : mathRound (p.refundedCents + 100 * targetRefund) =
      mathRound (100 * newTotalRefunded p targetRefund) := by
    have hclose : |p.refundedCents + 100 * targetRefund -
        100 * newTotalRefunded p targetRefund| ≤ 1 / 100 := by
      rw [abs_sub_comm]
      linarith
    refine mathRound_congr hclose fun n ↦ ?_
    have h := haway (n - p.refundedCents)
    push_cast at h
    convert h using 2
    ring
  rw [newTotalCents_eq hp hpos hmax, ← htotal, hshift, hround]
  ring

end Bounds

end PaymentsService

end Innovents.Payments
