import Mathlib.Algebra.BigOperators.Group.List.Basic
import Mathlib.Data.List.Perm.Basic

namespace Innovents.Lib

variable {κ β γ : Type}

/-- The sum of a figure over the buckets. -/
def sumOver [AddCommMonoid γ] (figure : β → γ) (buckets : List (κ × β)) : γ :=
  (buckets.map fun b ↦ figure b.2).sum

theorem sumOver_cons [AddCommMonoid γ] {figure : β → γ} {k : κ} {b : β} {rest : List (κ × β)} :
    sumOver figure ((k, b) :: rest) = figure b + sumOver figure rest := by
  rw [sumOver, List.map_cons, List.sum_cons, sumOver]

theorem sumOver_map {δ : Type} [AddCommMonoid γ] {figure : δ → γ} {f : β → δ}
    {buckets : List (κ × β)} : sumOver figure (buckets.map fun b ↦ (b.1, f b.2)) =
      sumOver (fun b ↦ figure (f b)) buckets := by
  rw [sumOver, List.map_map]
  rfl

section Bump

variable [DecidableEq κ]

/-- The bucket of the key is changed, which is created if there is none. -/
def bump (k : κ) (empty : β) (f : β → β) : List (κ × β) → List (κ × β)
  | [] => [(k, f empty)]
  | (j, b) :: rest => if j = k then (j, f b) :: rest else (j, b) :: bump k empty f rest

variable {k j : κ} {empty : β} {f g : β → β} {buckets : List (κ × β)}

theorem bump_same {b : β} {rest : List (κ × β)} :
    bump k empty f ((k, b) :: rest) = (k, f b) :: rest := by
  rw [bump, if_pos rfl]

theorem bump_other {b : β} {rest : List (κ × β)} (h : j ≠ k) :
    bump k empty f ((j, b) :: rest) = (j, b) :: bump k empty f rest := by
  rw [bump, if_neg h]

theorem keys_bump (hk : k ∈ buckets.map Prod.fst) :
    (bump k empty f buckets).map Prod.fst = buckets.map Prod.fst := by
  induction buckets with
  | nil => exact absurd hk List.not_mem_nil
  | cons bucket rest ih =>
    obtain ⟨j, b⟩ := bucket
    by_cases hj : j = k
    · subst hj
      rw [bump_same, List.map_cons, List.map_cons]
    · rw [List.map_cons, List.mem_cons] at hk
      rw [bump_other hj, List.map_cons, List.map_cons, ih (hk.resolve_left fun h ↦ hj h.symm)]

/-- A figure that a change adds to in every bucket grows as much in all of them together. -/
theorem sumOver_bump [AddCommMonoid γ] {figure : β → γ} {change : γ} (hempty : figure empty = 0)
    (hf : ∀ b, figure (f b) = figure b + change) :
    sumOver figure (bump k empty f buckets) = sumOver figure buckets + change := by
  induction buckets with
  | nil =>
    show figure (f empty) + 0 = 0 + change
    rw [hf, hempty, add_zero]
  | cons bucket rest ih =>
    obtain ⟨j, b⟩ := bucket
    by_cases hj : j = k
    · subst hj
      rw [bump_same, sumOver_cons, sumOver_cons, hf]
      exact add_right_comm _ _ _
    · rw [bump_other hj, sumOver_cons, sumOver_cons, ih, add_assoc]

/-- Changes of buckets that are there commute if they commute in one bucket. -/
theorem bump_comm (hfg : ∀ b, f (g b) = g (f b)) (hk : k ∈ buckets.map Prod.fst)
    (hj : j ∈ buckets.map Prod.fst) :
    bump k empty f (bump j empty g buckets) = bump j empty g (bump k empty f buckets) := by
  induction buckets with
  | nil => exact absurd hk List.not_mem_nil
  | cons bucket rest ih =>
    obtain ⟨i, b⟩ := bucket
    rw [List.map_cons, List.mem_cons] at hk hj
    by_cases hik : i = k <;> by_cases hij : i = j
    · subst hik hij
      rw [bump_same, bump_same, bump_same, bump_same, hfg]
    · subst hik
      rw [bump_other hij, bump_same, bump_same, bump_other hij]
    · subst hij
      rw [bump_same, bump_other hik, bump_other hik, bump_same]
    · rw [bump_other hij, bump_other hik, bump_other hik, bump_other hij,
        ih (hk.resolve_left fun h ↦ hik h.symm) (hj.resolve_left fun h ↦ hij h.symm)]

end Bump

/-- Steps that commute where the invariant holds may be made in any order. -/
theorem foldl_perm_of {σ α : Type} {step : σ → α → σ} {I : σ → Prop} {xs ys : List α} {s : σ}
    (h : xs.Perm ys) (hkeep : ∀ s x, I s → I (step s x))
    (hcomm : ∀ s x y, I s → step (step s x) y = step (step s y) x) (hs : I s) :
    xs.foldl step s = ys.foldl step s := by
  induction h generalizing s with
  | nil => rfl
  | cons x _ ih => exact ih (hkeep s x hs)
  | swap x y rest => rw [List.foldl_cons, List.foldl_cons, List.foldl_cons, List.foldl_cons,
      hcomm s y x hs]
  | trans _ _ ih ih' => exact (ih hs).trans (ih' hs)

end Innovents.Lib
