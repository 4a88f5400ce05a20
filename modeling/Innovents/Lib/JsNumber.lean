import Mathlib.Data.Int.Log
import Mathlib.Data.Rat.Floor
import Mathlib.Tactic.Linarith
import Mathlib.Tactic.Positivity
import Mathlib.Tactic.FieldSimp
import Mathlib.Tactic.Ring

namespace Innovents.Lib.JsNumber

/-- The integer nearest to `x`, and the even one of the two when `x` lies halfway. -/
def nearestEven (x : ℚ) : ℤ :=
  if x - ⌊x⌋ < 1 / 2 ∨ (x - ⌊x⌋ = 1 / 2 ∧ ⌊x⌋ % 2 = 0) then ⌊x⌋ else ⌊x⌋ + 1

theorem nearestEven_error (x : ℚ) : |(nearestEven x : ℚ) - x| ≤ 1 / 2 := by
  have hl := Int.floor_le x
  have hu := Int.lt_floor_add_one x
  unfold nearestEven
  split_ifs with h
  · have hr : x - ⌊x⌋ ≤ 1 / 2 := by
      rcases h with h | h
      · exact h.le
      · exact h.1.le
    rw [abs_le]
    constructor <;> linarith
  · have hr : 1 / 2 ≤ x - ⌊x⌋ := by
      by_contra hc
      exact h (.inl (not_le.mp hc))
    push_cast
    rw [abs_le]
    constructor <;> linarith

/-- The spacing of the 53-bit binary numbers around `x`. -/
def ulp (x : ℚ) : ℚ := 2 ^ (Int.log 2 |x| - 52)

/-- The double nearest to `x`. The exponent is not bounded here: the numbers of
this development stay far from the overflow and the underflow threshold. -/
def fl (x : ℚ) : ℚ := nearestEven (x / ulp x) * ulp x

theorem ulp_pos (x : ℚ) : 0 < ulp x := zpow_pos two_pos _

theorem ulp_le (x : ℚ) (hx : x ≠ 0) : ulp x ≤ |x| / 2 ^ 52 := by
  have h : (2 : ℚ) ^ Int.log 2 |x| ≤ |x| := by
    exact_mod_cast Int.zpow_log_le_self one_lt_two (abs_pos.mpr hx)
  have he : ulp x = (2 : ℚ) ^ Int.log 2 |x| / 2 ^ 52 := by
    unfold ulp
    rw [zpow_sub₀ two_ne_zero]
    norm_num
  rw [he]
  exact div_le_div_of_nonneg_right h (by norm_num)

theorem fl_zero : fl 0 = 0 := by simp [fl, nearestEven]

/-- One rounding loses at most one part in `2 ^ 53`. -/
theorem fl_error (x : ℚ) : |fl x - x| ≤ |x| / 2 ^ 53 := by
  by_cases hx : x = 0
  · simp [hx, fl_zero]
  have hp := ulp_pos x
  have he : fl x - x = (nearestEven (x / ulp x) - x / ulp x) * ulp x := by
    unfold fl
    field_simp
  rw [he, abs_mul, abs_of_pos hp]
  calc |(nearestEven (x / ulp x) : ℚ) - x / ulp x| * ulp x
      ≤ 1 / 2 * ulp x := mul_le_mul_of_nonneg_right (nearestEven_error _) hp.le
    _ ≤ 1 / 2 * (|x| / 2 ^ 52) := mul_le_mul_of_nonneg_left (ulp_le x hx) (by norm_num)
    _ = |x| / 2 ^ 53 := by ring

theorem pos_of_fl_pos {x : ℚ} (h : 0 < fl x) : 0 < x := by
  by_contra hx
  have he := (abs_le.mp (fl_error x)).2
  rw [abs_of_nonpos (not_lt.mp hx)] at he
  linarith

/-- The distance between two decimals with `k` significant digits around `x`. -/
def digitStep (k : ℕ) (x : ℚ) : ℚ := 10 ^ (Int.log 10 |x| - k + 1)

/-- The decimal with `k` significant digits that reads back as the double `x`,
the nearer one to `x` when there are two. -/
def decimalAt (x : ℚ) (k : ℕ) : Option ℚ :=
  let s := digitStep k x
  let a := ⌊x / s⌋ * s
  let b := a + s
  if fl a = x then
    if fl b = x ∧ |b - x| < |a - x| then some b else some a
  else if fl b = x then some b else none

/-- `Number::toString`: the shortest decimal that reads back as `x`. Seventeen
digits always suffice for a double, so the default is not reached for one. -/
def shortest (x : ℚ) : ℚ := ((List.range' 1 17).findSome? (decimalAt x)).getD x

theorem fl_of_decimalAt {x d : ℚ} {k : ℕ} (h : decimalAt x k = some d) : fl d = x := by
  unfold decimalAt at h
  dsimp only at h
  split_ifs at h with ha hb hb
  · cases h; exact hb.1
  · cases h; exact ha
  · cases h; exact hb

theorem shortest_error (x : ℚ) : |shortest x - x| ≤ |shortest x| / 2 ^ 53 := by
  unfold shortest
  cases h : (List.range' 1 17).findSome? (decimalAt x) with
  | none =>
    simp only [Option.getD_none, sub_self, abs_zero]
    positivity
  | some d =>
    obtain ⟨k, _, hk⟩ := List.exists_of_findSome?_eq_some h
    simp only [Option.getD_some]
    rw [abs_sub_comm]
    simpa only [fl_of_decimalAt hk] using fl_error d

/-- Printing the double nearest to `x` loses at most four parts in `2 ^ 53`. -/
theorem shortest_fl_error (x : ℚ) : |shortest (fl x) - x| ≤ |x| / 2 ^ 51 := by
  have hf := fl_error x
  have hs := shortest_error (fl x)
  have hsum : |shortest (fl x) - x| ≤ |shortest (fl x) - fl x| + |fl x - x| := abs_sub_le _ _ _
  have hsize : |shortest (fl x)| ≤ |x| + |shortest (fl x) - x| := by
    have h := abs_add_le x (shortest (fl x) - x)
    rwa [add_sub_cancel] at h
  have hpos : 0 ≤ |x| := abs_nonneg x
  have hs' : |shortest (fl x) - fl x| ≤ (|x| + |shortest (fl x) - x|) / 2 ^ 53 :=
    hs.trans (div_le_div_of_nonneg_right hsize (by positivity))
  linarith

/-- `Math.round`: halves go up. -/
def mathRound (x : ℚ) : ℤ := ⌊x + 1 / 2⌋

/-- Rounding of SQL decimals: halves go away from zero. -/
def roundHalfAway (x : ℚ) : ℤ := if 0 ≤ x then ⌊x + 1 / 2⌋ else -⌊-x + 1 / 2⌋

theorem roundHalfAway_of_nonneg {x : ℚ} (h : 0 ≤ x) : roundHalfAway x = mathRound x := by
  simp [roundHalfAway, mathRound, h]

theorem mathRound_error (x : ℚ) : |(mathRound x : ℚ) - x| ≤ 1 / 2 := by
  have hl := Int.floor_le (x + 1 / 2)
  have hu := Int.lt_floor_add_one (x + 1 / 2)
  unfold mathRound
  rw [abs_le]
  constructor <;> linarith

theorem roundHalfAway_error (x : ℚ) : |(roundHalfAway x : ℚ) - x| ≤ 1 / 2 := by
  unfold roundHalfAway
  split_ifs with hx
  · exact mathRound_error x
  · have h := mathRound_error (-x)
    unfold mathRound at h
    rw [← abs_neg]
    push_cast
    convert h using 2
    ring

theorem mathRound_eq {x : ℚ} {n : ℤ} (h : |x - n| < 1 / 2) : mathRound x = n := by
  rw [abs_lt] at h
  unfold mathRound
  rw [Int.floor_eq_iff]
  constructor <;> linarith

theorem roundHalfAway_eq {x : ℚ} {n : ℤ} (h : |x - n| < 1 / 2) : roundHalfAway x = n := by
  unfold roundHalfAway
  split_ifs with hx
  · exact mathRound_eq h
  · have hn : mathRound (-x) = -n := by
      apply mathRound_eq
      push_cast
      rwa [← abs_neg, show -(-x - -(n : ℚ)) = x - n by ring]
    unfold mathRound at hn
    rw [hn, neg_neg]

/-- Two numbers that lie closer to each other than the first one lies to any
half round to the same integer. -/
theorem mathRound_congr {x y ε : ℚ} (hxy : |x - y| ≤ ε)
    (hx : ∀ n : ℤ, ε < |x - (n + 1 / 2)|) : mathRound x = mathRound y := by
  rw [abs_le] at hxy
  unfold mathRound
  have hl := Int.floor_le (x + 1 / 2)
  have hu := Int.lt_floor_add_one (x + 1 / 2)
  have hε : 0 ≤ ε := by linarith
  have h₀ := hx (⌊x + 1 / 2⌋ - 1)
  have h₁ := hx ⌊x + 1 / 2⌋
  push_cast at h₀
  rw [abs_of_nonneg (by linarith)] at h₀
  rw [abs_of_nonpos (by linarith)] at h₁
  symm
  rw [Int.floor_eq_iff]
  constructor <;> linarith

theorem mathRound_le {x : ℚ} {n : ℤ} (h : x < n + 1 / 2) : mathRound x ≤ n := by
  unfold mathRound
  rw [← Int.lt_add_one_iff, Int.floor_lt]
  push_cast
  linarith

theorem le_mathRound {x : ℚ} {n : ℤ} (h : n - 1 / 2 ≤ x) : n ≤ mathRound x := by
  unfold mathRound
  rw [Int.le_floor]
  linarith

/-- A number of hundredths survives the way through a double and its decimal. -/
theorem hundredths_eq {m n : ℤ} (hn : n = roundHalfAway (100 * shortest (fl (m / 100))))
    (hfits : |n| < 10 ^ 12) : n = m := by
  have hs := shortest_fl_error ((m : ℚ) / 100)
  have hr := roundHalfAway_error (100 * shortest (fl ((m : ℚ) / 100)))
  rw [← hn] at hr
  have hfits' : |(n : ℚ)| < 10 ^ 12 := by exact_mod_cast hfits
  rw [abs_div, abs_of_pos (show (0 : ℚ) < 100 by norm_num)] at hs
  have hnm : |(n : ℚ) - m| ≤ 1 / 2 + |(m : ℚ)| / 2 ^ 51 := by
    rw [abs_le] at hs hr ⊢
    constructor <;> linarith
  have hm : |(m : ℚ)| ≤ |(n : ℚ)| + |(n : ℚ) - m| := by
    have h := abs_sub_le (m : ℚ) n 0
    rw [sub_zero, sub_zero, abs_sub_comm] at h
    linarith
  have hlt : |(n : ℚ) - m| < 1 := by
    norm_num at hfits' hnm ⊢
    linarith
  have hlt' : |n - m| < 1 := by exact_mod_cast hlt
  rw [Int.abs_lt_one_iff] at hlt'
  omega

end Innovents.Lib.JsNumber
