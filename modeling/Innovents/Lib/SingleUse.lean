import Innovents.Lib.Interleaving

namespace Innovents.Lib

variable {τ : Type} {claims pending : τ → Bool} {ts : List τ} {t t' : τ} {i : ℕ}
  {Spent Spent' : Prop}

/-- Threads that claim a resource when they find it, and use it up by a later step of their own:
at most one has claimed it, and it is used up unless that step is still to come. -/
structure SingleUse (claims pending : τ → Bool) (ts : List τ) (Spent : Prop) : Prop where
  single : ts.countP claims ≤ 1
  spent : 0 < ts.countP claims → Spent ∨ 0 < ts.countP pending

namespace SingleUse

/-- Nobody has claimed the resource yet. -/
theorem of_none (h : ∀ t ∈ ts, claims t = false) : SingleUse claims pending ts Spent := by
  have hzero : ts.countP claims = 0 := List.countP_eq_zero.mpr fun t ht ↦ by simp [h t ht]
  exact ⟨by omega, fun hpos ↦ by omega⟩

theorem mono (h : SingleUse claims pending ts Spent) (hs : Spent → Spent') :
    SingleUse claims pending ts Spent' :=
  ⟨h.single, fun hpos ↦ (h.spent hpos).imp_left hs⟩

theorem spawn (h : SingleUse claims pending ts Spent) (ht : claims t = false) :
    SingleUse claims pending (ts ++ [t]) Spent := by
  have hc : (ts ++ [t]).countP claims = ts.countP claims := by
    rw [List.countP_append, List.countP_singleton, ht]
    rfl
  have hp : ts.countP pending ≤ (ts ++ [t]).countP pending := by
    rw [List.countP_append]
    omega
  refine ⟨by rw [hc]; exact h.single, fun hpos ↦ ?_⟩
  rw [hc] at hpos
  exact (h.spent hpos).imp_right fun hopen ↦ by omega

/-- A step that neither claims nor uses anything up. -/
theorem same (h : SingleUse claims pending ts Spent) (hi : ts[i]? = some t)
    (hclaims : claims t' = claims t) (hpending : pending t' = pending t) :
    SingleUse claims pending (ts.set i t') Spent := by
  have hc := countP_set_add claims t' hi
  have hp := countP_set_add pending t' hi
  rw [hclaims] at hc
  rw [hpending] at hp
  refine ⟨by have := h.single; omega, fun hpos ↦ ?_⟩
  rcases h.spent (by omega) with hs | hopen
  · exact .inl hs
  · exact .inr (by omega)

/-- A thread finds the resource, which nobody is about to use up. -/
theorem claim (h : SingleUse claims pending ts Spent) (hi : ts[i]? = some t)
    (hbefore : claims t = false) (hpending : claims t' = true → pending t' = true)
    (hnone : ts.countP pending = 0) (hfree : claims t' = true → ¬Spent) :
    SingleUse claims pending (ts.set i t') Spent := by
  have hc := countP_set_add claims t' hi
  have hp := countP_set_add pending t' hi
  rw [hbefore] at hc
  simp only [Bool.false_eq_true, if_false, Nat.add_zero] at hc
  cases hclaims : claims t' with
  | false =>
    rw [hclaims] at hc
    simp only [Bool.false_eq_true, if_false, Nat.add_zero] at hc
    refine ⟨by have := h.single; omega, fun hpos ↦ ?_⟩
    rcases h.spent (by omega) with hs | hopen
    · exact .inl hs
    · omega
  | true =>
    rw [hclaims, if_pos rfl] at hc
    have hidle : pending t = false := by
      simpa using List.countP_eq_zero.mp hnone t (List.mem_of_getElem? hi)
    rw [hpending hclaims, hidle] at hp
    simp only [Bool.false_eq_true, if_false, if_true, Nat.add_zero] at hp
    have hzero : ts.countP claims = 0 := by
      by_contra hpos
      rcases h.spent (Nat.pos_of_ne_zero hpos) with hs | hopen
      · exact hfree hclaims hs
      · omega
    exact ⟨by omega, fun _ ↦ .inr (by omega)⟩

/-- A thread that has claimed the resource uses it up. -/
theorem use (h : SingleUse claims pending ts Spent) (hi : ts[i]? = some t)
    (hclaims : claims t' = claims t) (hs : claims t = true → Spent')
    (hpending : claims t = false → pending t' = pending t) (hmono : Spent → Spent') :
    SingleUse claims pending (ts.set i t') Spent' := by
  have hc := countP_set_add claims t' hi
  rw [hclaims] at hc
  refine ⟨by have := h.single; omega, fun hpos ↦ ?_⟩
  cases hclaim : claims t with
  | true => exact .inl (hs hclaim)
  | false => exact ((h.same hi hclaims (hpending hclaim)).spent hpos).imp_left hmono

end SingleUse

end Innovents.Lib
