import Innovents.Lib.Call

namespace Innovents.Lib.Call

variable {L ε σ χ α β : Type} {R : σ → σ → Prop} {G : L → σ → σ → Prop} {ok : L → ε → Prop}

/-- The weakest precondition of a call among others, for a postcondition and for a guarantee:
before each request the others may change the state by `R`, the inputs of the requests meet `ok`,
and the requests change the state by `G`. -/
def wpg (R : σ → σ → Prop) (G : L → σ → σ → Prop) (ok : L → ε → Prop) :
    Call L ε σ χ α → (Except χ α → σ → Prop) → σ → Prop
  | returned r, post, s => post r s
  | request label effect next, post, s => ∀ s', R s s' → ∀ e, ok label e →
    G label s' (effect e s') ∧ wpg R G ok (next e s') post (effect e s')

/-- Without a guarantee. -/
abbrev wp (R : σ → σ → Prop) (ok : L → ε → Prop) (c : Call L ε σ χ α)
    (post : Except χ α → σ → Prop) (s : σ) : Prop :=
  wpg R (fun _ _ _ ↦ True) ok c post s

section Rules

variable {c : Call L ε σ χ α} {post post' : Except χ α → σ → Prop} {s s' : σ}

theorem wpg_mono (h : wpg R G ok c post s) (hpost : ∀ r s, post r s → post' r s) :
    wpg R G ok c post' s := by
  induction c generalizing s with
  | returned r => exact hpost r s h
  | request label effect next ih =>
    intro s' hs e he
    obtain ⟨hG, hrest⟩ := h s' hs e he
    exact ⟨hG, ih e s' hrest⟩

/-- Others that do less, and inputs that meet more. -/
theorem wpg_anti {R' : σ → σ → Prop} {ok' : L → ε → Prop} (hR : ∀ a b, R' a b → R a b)
    (hok : ∀ l e, ok' l e → ok l e) (h : wpg R G ok c post s) : wpg R' G ok' c post s := by
  induction c generalizing s with
  | returned r => exact h
  | request label effect next ih =>
    intro s' hs e he
    obtain ⟨hG, hrest⟩ := h s' (hR s s' hs) e (hok label e he)
    exact ⟨hG, ih e s' hrest⟩

theorem wpg_and (h : wpg R G ok c post s) (h' : wpg R G ok c post' s) :
    wpg R G ok c (fun r s ↦ post r s ∧ post' r s) s := by
  induction c generalizing s with
  | returned r => exact ⟨h, h'⟩
  | request label effect next ih =>
    intro s' hs e he
    exact ⟨(h s' hs e he).1, ih e s' (h s' hs e he).2 (h' s' hs e he).2⟩

theorem wpg_bind {f : α → Call L ε σ χ β} {post : Except χ β → σ → Prop}
    (h : wpg R G ok c (fun r s ↦ match r with
      | .ok a => wpg R G ok (f a) post s
      | .error x => post (.error x) s) s) : wpg R G ok (c.bind f) post s := by
  induction c generalizing s with
  | returned r =>
    cases r with
    | ok a => exact h
    | error x => exact h
  | request label effect next ih =>
    intro s' hs e he
    obtain ⟨hG, hrest⟩ := h s' hs e he
    exact ⟨hG, ih e s' hrest⟩

theorem wpg_attempt {post : Except χ (Except χ α) → σ → Prop}
    (h : wpg R G ok c (fun r s ↦ post (.ok r) s) s) : wpg R G ok c.attempt post s := by
  induction c generalizing s with
  | returned r => exact h
  | request label effect next ih =>
    intro s' hs e he
    obtain ⟨hG, hrest⟩ := h s' hs e he
    exact ⟨hG, ih e s' hrest⟩

theorem wp_ask {label : L} {f : ε → σ → Except χ α}
    (h : ∀ s', R s s' → ∀ e, ok label e → post (f e s') s') : wp R ok (ask label f) post s :=
  fun s' hs e he ↦ ⟨trivial, h s' hs e he⟩

theorem wp_perform {label : L} {f : ε → σ → Except χ (σ × α)}
    (h : ∀ s', R s s' → ∀ e, ok label e → post ((f e s').map Prod.snd) (written (f e s') s')) :
    wp R ok (perform label f) post s := fun s' hs e he ↦ ⟨trivial, h s' hs e he⟩

/-- What a call achieves does not depend on what the others have done before. -/
theorem wpg_stable (htrans : ∀ a b c, R a b → R b c → R a c)
    (hpost : ∀ r a b, post r a → R a b → post r b) (h : wpg R G ok c post s) (hs : R s s') :
    wpg R G ok c post s' := by
  cases c with
  | returned r => exact hpost r s s' h hs
  | request label effect next => exact fun t ht e he ↦ h t (htrans s s' t hs ht) e he

/-- A fact that the others keep, and that the requests of the call keep too, is there afterwards. -/
theorem wp_invariant {Q : σ → Prop} (hc : c.Each G) (hG : ∀ l a b, Q a → G l a b → Q b)
    (hR : ∀ a b, Q a → R a b → Q b) (h : Q s) : wp R ok c (fun _ ↦ Q) s := by
  induction c generalizing s with
  | returned r => exact h
  | request label effect next ih =>
    intro s' hs e _
    exact ⟨trivial, ih e s' (hc e s').2 (hG label s' _ (hR s s' h hs) (hc e s').1)⟩

theorem wp_keeps {Q : σ → Prop} (hc : c.Each fun _ ↦ R) (hQ : ∀ a b, Q a → R a b → Q b)
    (h : Q s) : wp R ok c (fun _ ↦ Q) s := wp_invariant hc (fun _ ↦ hQ) hQ h

/-- A request of a call keeps the guarantee and leaves a call that still achieves the same. -/
theorem wpg_step {c' : Call L ε σ χ α} {s'' : σ} {e : ε} (h : wpg R G ok c post s) (hs : R s s')
    (hok : ∀ label, c.label? = some label → ok label e) (hstep : c.step e s' = some (s'', c')) :
    (∃ label, c.label? = some label ∧ G label s' s'') ∧ wpg R G ok c' post s'' := by
  cases c with
  | returned r => cases hstep
  | request label effect next =>
    cases hstep
    obtain ⟨hG, hrest⟩ := h s' hs e (hok label rfl)
    exact ⟨⟨label, rfl, hG⟩, hrest⟩

/-- An uninterrupted run is one that nobody disturbs. -/
theorem wpg_ran {ok' : ε → Prop} {r : Except χ α} (h : wpg R G ok c post s) (hR : ∀ s, R s s)
    (hok : ∀ label e, ok' e → ok label e) (hr : Ran ok' c s r s') : post r s' := by
  induction hr with
  | returned => exact h
  | @request label effect next e s s' r he _ ih =>
    exact ih (h s (hR s) e (hok label e he)).2

/-- The same for a run whose requests get the inputs of their labels. -/
theorem wpg_answered {inputs : L → ε} (h : wpg R G ok c post s) (hR : ∀ s, R s s)
    (hok : ∀ label, ok label (inputs label)) : post (answered inputs s c).1 (answered inputs s c).2 := by
  induction c generalizing s with
  | returned r => exact h
  | request label effect next ih => exact ih _ _ (h s (hR s) _ (hok label)).2

end Rules

end Innovents.Lib.Call
