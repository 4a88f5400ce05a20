import Innovents.Lib.JsNumber

namespace Innovents.Lib.Decimal

open JsNumber

/-- The result of a decimal operation keeps `k` significant digits, and halves go away from zero. -/
def rounded (k : ℕ) (x : ℚ) : ℚ := roundHalfAway (x / digitStep k x) * digitStep k x

section Rounding

variable {k : ℕ} {x : ℚ}

theorem digitStep_pos : 0 < digitStep k x := zpow_pos (by norm_num) _

theorem roundHalfAway_int (n : ℤ) : roundHalfAway n = n := by
  apply roundHalfAway_eq
  rw [sub_self, abs_zero]
  norm_num

theorem rounded_nonneg (hx : 0 ≤ x) : 0 ≤ rounded k x := by
  have hpos := digitStep_pos (k := k) (x := x)
  have hquot : 0 ≤ x / digitStep k x := div_nonneg hx hpos.le
  refine mul_nonneg ?_ hpos.le
  rw [roundHalfAway_of_nonneg hquot]
  have hle : (0 : ℤ) ≤ mathRound (x / digitStep k x) := le_mathRound (by push_cast; linarith)
  exact_mod_cast hle

/-- A number of hundredths with few digits in front of the point is kept. -/
theorem rounded_eq (hcents : ∃ c : ℤ, x = c / 100) {m : ℕ} (hk : m + 2 ≤ k) (hx : |x| < 10 ^ m) :
    rounded k x = x := by
  obtain ⟨c, rfl⟩ := hcents
  by_cases hzero : c = 0
  · subst hzero
    have h := roundHalfAway_int 0
    rw [Int.cast_zero] at h
    simp [rounded, h]
  have hpos : 0 < |(c : ℚ) / 100| := abs_pos.mpr (div_ne_zero (by exact_mod_cast hzero) (by norm_num))
  have hlog : Int.log 10 |(c : ℚ) / 100| < m :=
    (Int.lt_zpow_iff_log_lt (by norm_num) hpos).mp (by exact_mod_cast hx)
  -- The step divides a hundredth.
  obtain ⟨d, hd⟩ : ∃ d : ℕ, Int.log 10 |(c : ℚ) / 100| - k + 1 = -(d + 2 : ℤ) :=
    ⟨(-(Int.log 10 |(c : ℚ) / 100| - k + 1) - 2).toNat, by omega⟩
  have hstep : digitStep k ((c : ℚ) / 100) = (10 ^ d * 100)⁻¹ := by
    rw [digitStep, hd, zpow_neg, zpow_add₀ (by norm_num), zpow_natCast]
    norm_num
  have hquot : (c : ℚ) / 100 / digitStep k ((c : ℚ) / 100) = ((c * 10 ^ d : ℤ) : ℚ) := by
    rw [hstep, div_inv_eq_mul]
    push_cast
    ring
  rw [rounded, hquot, roundHalfAway_int, hstep]
  push_cast
  field_simp

/-- A power of ten is not passed downwards. -/
theorem le_rounded {m : ℕ} (hk : 1 ≤ k) (hx : (10 : ℚ) ^ m ≤ x) : 10 ^ m ≤ rounded k x := by
  have hpos : 0 < x := lt_of_lt_of_le (by positivity) hx
  have hstep := digitStep_pos (k := k) (x := x)
  have hlog : (m : ℤ) ≤ Int.log 10 x := (Int.zpow_le_iff_le_log (by norm_num) hpos).mp (by
    exact_mod_cast hx)
  obtain ⟨d, rfl⟩ : ∃ d, k = d + 1 := ⟨k - 1, by omega⟩
  have hmul : (10 : ℚ) ^ d * digitStep (d + 1) x = 10 ^ Int.log 10 x := by
    rw [digitStep, abs_of_pos hpos, ← zpow_natCast, ← zpow_add₀ (by norm_num)]
    congr 1
    push_cast
    ring
  have hle : (10 : ℚ) ^ Int.log 10 x ≤ x := by
    exact_mod_cast Int.zpow_log_le_self (b := 10) (by norm_num) hpos
  have hquot : (10 : ℚ) ^ d ≤ x / digitStep (d + 1) x := by
    rw [le_div_iff₀ hstep, hmul]
    exact hle
  have hround : ((10 ^ d : ℤ) : ℚ) ≤ roundHalfAway (x / digitStep (d + 1) x) := by
    rw [roundHalfAway_of_nonneg (div_nonneg hpos.le hstep.le)]
    exact_mod_cast le_mathRound (by push_cast; linarith)
  calc (10 : ℚ) ^ m ≤ 10 ^ Int.log 10 x := by
        rw [← zpow_natCast]
        exact zpow_le_zpow_right₀ (by norm_num) hlog
    _ = 10 ^ d * digitStep (d + 1) x := hmul.symm
    _ ≤ rounded (d + 1) x := by
        refine mul_le_mul_of_nonneg_right ?_ hstep.le
        exact_mod_cast hround

end Rounding

end Innovents.Lib.Decimal
