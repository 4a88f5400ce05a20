import Innovents.Lib.Interleaving

namespace Innovents.Lib

section

variable {τ κ : Type}

/-- No thread holds a resource twice, and no two threads hold the same one. -/
structure Exclusive (held : τ → List κ) (ts : List τ) : Prop where
  nodup : ∀ t ∈ ts, (held t).Nodup
  apart : ∀ (i j : ℕ) (t u : τ) (k : κ), ts[i]? = some t → ts[j]? = some u →
    k ∈ held t → k ∈ held u → i = j

variable {held : τ → List κ} {ts : List τ} {i : ℕ} {t t' : τ}

theorem Exclusive.nil : Exclusive held [] := ⟨by simp, by simp⟩

/-- A thread that starts with nothing. -/
theorem Exclusive.spawn (h : Exclusive held ts) (ht : held t = []) : Exclusive held (ts ++ [t]) := by
  refine ⟨fun u hu ↦ ?_, fun i j u v k hi hj hu hv ↦ ?_⟩
  · rcases List.mem_append.mp hu with hm | hm
    · exact h.nodup u hm
    · rw [List.mem_singleton.mp hm, ht]
      exact .nil
  · rcases getElem?_append_singleton_cases hi with ⟨_, rfl⟩ | hi
    · simp [ht] at hu
    rcases getElem?_append_singleton_cases hj with ⟨_, rfl⟩ | hj
    · simp [ht] at hv
    exact h.apart i j u v k hi hj hu hv

/-- A thread may take what nobody else holds. -/
theorem Exclusive.take (h : Exclusive held ts) (hnodup : (held t').Nodup)
    (hfree : ∀ k ∈ held t', ∀ j u, ts[j]? = some u → j ≠ i → k ∉ held u) :
    Exclusive held (ts.set i t') := by
  refine ⟨fun u hu ↦ ?_, fun j l u v k hj hl hu hv ↦ ?_⟩
  · rcases List.mem_or_eq_of_mem_set hu with hm | rfl
    · exact h.nodup u hm
    · exact hnodup
  · rcases getElem?_set_cases hj with ⟨hji, rfl⟩ | ⟨hji, hj'⟩
    · rcases getElem?_set_cases hl with ⟨hli, _⟩ | ⟨hli, hl'⟩
      · rw [hji, hli]
      · exact absurd hv (hfree k hu l v hl' hli)
    · rcases getElem?_set_cases hl with ⟨_, rfl⟩ | ⟨_, hl'⟩
      · exact absurd hu (hfree k hv j u hj' hji)
      · exact h.apart j l u v k hj' hl' hu hv

/-- A thread may give up what it holds, or part of it. -/
theorem Exclusive.release (h : Exclusive held ts) (hi : ts[i]? = some t)
    (hsub : (held t').Sublist (held t)) : Exclusive held (ts.set i t') := by
  have hmem : t ∈ ts := List.mem_of_getElem? hi
  refine h.take ((h.nodup t hmem).sublist hsub) fun k hk j u hj hji hu ↦ hji ?_
  exact h.apart j i u t k hj hi hu (hsub.subset hk)

end

namespace Machine

section OneByOne

variable {σ τ ε : Type} {M : Machine σ τ ε} {J : σ → Prop} {A : σ → τ → Prop} {ended : τ → Prop}
  {ok : Pool σ τ → Move τ ε → Prop} {init : Pool σ τ → Prop} {p : Pool σ τ}

/-- At most one thread has not ended, and its assertion holds. -/
structure OneByOne (J : σ → Prop) (A : σ → τ → Prop) (ended : τ → Prop) (p : Pool σ τ) :
    Prop where
  shared : J p.shared
  threads : ∀ t ∈ p.threads, ¬ended t → A p.shared t
  alone : ∀ (i j : ℕ) (t u : τ), p.threads[i]? = some t → p.threads[j]? = some u →
    ¬ended t → ¬ended u → i = j

/-- The rule for threads of which one starts when the one before has ended: the thread that
runs need not leave the assertion of any other one true. -/
theorem oneByOne (hinit : ∀ p, init p → p.threads = [] ∧ J p.shared)
    (hstart : ∀ p t, J p.shared → ok p (.spawn t) → M.start t →
      (∀ u ∈ p.threads, ended u) ∧ A p.shared t)
    (hended : ∀ e s t, ended t → M.step e s t = none)
    (hrun : ∀ p i e t s' t', J p.shared → A p.shared t → p.threads[i]? = some t →
      ok p (.run i e) → M.step e p.shared t = some (s', t') → J s' ∧ A s' t')
    (hworld : ∀ s s', J s → M.world s s' → J s' ∧ ∀ t, A s t → A s' t)
    (h : Reach M.Step ok init p) : OneByOne J A ended p := by
  refine Reach.invariant (I := OneByOne J A ended) (fun p hp ↦ ?_) (fun p a q hp hok hs ↦ ?_) h
  · obtain ⟨hnone, hJ⟩ := hinit p hp
    exact ⟨hJ, by simp [hnone], by simp [hnone]⟩
  · cases hs with
    | @spawn t ht =>
      obtain ⟨hothers, hA⟩ := hstart p t hp.shared hok ht
      refine ⟨hp.shared, fun u hu hrun ↦ ?_, fun i j u v hi hj hu hv ↦ ?_⟩
      · rcases List.mem_append.mp hu with hm | hm
        · exact absurd (hothers u hm) hrun
        · rw [List.mem_singleton.mp hm]
          exact hA
      · rcases getElem?_append_singleton_cases hi with ⟨hi', _⟩ | hi
        · rcases getElem?_append_singleton_cases hj with ⟨hj', _⟩ | hj
          · rw [hi', hj']
          · exact absurd (hothers v (List.mem_of_getElem? hj)) hv
        · exact absurd (hothers u (List.mem_of_getElem? hi)) hu
    | @run i e t t' s' hi hstep =>
      have ht : ¬ended t := fun hend ↦ by
        rw [hended e p.shared t hend] at hstep
        cases hstep
      obtain ⟨hJ, hA⟩ := hrun p i e t s' t' hp.shared
        (hp.threads t (List.mem_of_getElem? hi) ht) hi hok hstep
      have hset : ∀ j u, (p.threads.set i t')[j]? = some u → ¬ended u → j = i ∧ u = t' := by
        intro j u hj hu
        rcases getElem?_set_cases hj with hnew | ⟨hji, hj⟩
        · exact hnew
        · exact absurd (hp.alone j i u t hj hi hu ht) hji
      refine ⟨hJ, fun u hu hrun ↦ ?_, fun j k u v hj hk hu hv ↦ ?_⟩
      · obtain ⟨j, hj⟩ := List.getElem?_of_mem hu
        rw [(hset j u hj hrun).2]
        exact hA
      · rw [(hset j u hj hu).1, (hset k v hk hv).1]
    | world hw =>
      obtain ⟨hJ, hstable⟩ := hworld _ _ hp.shared hw
      exact ⟨hJ, fun u hu hrun ↦ hstable u (hp.threads u hu hrun), hp.alone⟩

end OneByOne

end Machine

end Innovents.Lib
