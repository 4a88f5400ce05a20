import Innovents.Lib.Call

namespace Innovents.Lib.Call

variable {L ε σ χ α β : Type} {J : σ → Prop} {post post' : α → Prop} {c : Call L ε σ χ α}

/-- Every request of the call keeps `J`, which it may rely on whatever the others do in between,
and a value that the call returns meets `post`. -/
def Keeps (J : σ → Prop) (post : α → Prop) : Call L ε σ χ α → Prop
  | returned (.ok a) => post a
  | returned (.error _) => True
  | request _ effect next => ∀ e s, J s → J (effect e s) ∧ Keeps J post (next e s)

theorem Keeps.mono (h : c.Keeps J post) (hpost : ∀ a, post a → post' a) : c.Keeps J post' := by
  induction c with
  | returned r =>
    cases r with
    | ok a => exact hpost a h
    | error x => trivial
  | request label effect next ih => exact fun e s hs ↦ ⟨(h e s hs).1, ih e s (h e s hs).2⟩

theorem keeps_bind {f : α → Call L ε σ χ β} {post : β → Prop}
    (h : c.Keeps J fun a ↦ (f a).Keeps J post) : (c.bind f).Keeps J post := by
  induction c with
  | returned r =>
    cases r with
    | ok a => exact h
    | error x => trivial
  | request label effect next ih => exact fun e s hs ↦ ⟨(h e s hs).1, ih e s (h e s hs).2⟩

theorem keeps_ask {label : L} {f : ε → σ → Except χ α} (h : ∀ e s a, J s → f e s = .ok a → post a) :
    (ask label f).Keeps J post := by
  refine fun e s hs ↦ ⟨hs, ?_⟩
  dsimp only
  cases hf : f e s with
  | ok a => exact h e s a hs hf
  | error x => trivial

theorem keeps_perform {label : L} {f : ε → σ → Except χ (σ × α)}
    (h : ∀ e s s' a, J s → f e s = .ok (s', a) → J s' ∧ post a) :
    (perform label f).Keeps J post := by
  intro e s hs
  dsimp only
  cases hf : f e s with
  | ok q => exact h e s q.1 q.2 hs hf
  | error x => exact ⟨hs, trivial⟩

/-- A call whose requests keep `J` by themselves. -/
theorem keeps_each {G : L → σ → σ → Prop} (hc : c.Each G) (hG : ∀ l s s', J s → G l s s' → J s') :
    c.Keeps J fun _ ↦ True := by
  induction c with
  | returned r => cases r <;> trivial
  | request label effect next ih =>
    exact fun e s hs ↦ ⟨hG label s _ hs (hc e s).1, ih e s (hc e s).2⟩

theorem Keeps.step {c' : Call L ε σ χ α} {e : ε} {s s' : σ} (h : c.Keeps J post) (hs : J s)
    (hstep : c.step e s = some (s', c')) : J s' ∧ c'.Keeps J post := by
  cases c with
  | returned r => cases hstep
  | request label effect next =>
    cases hstep
    exact h e s hs

/-- Calls that keep `J` keep it in every interleaving, and what they return is as promised. -/
theorem keeps_pool {start : Call L ε σ χ α → Prop}
    {ok : Pool σ (Call L ε σ χ α) → Move (Call L ε σ χ α) ε → Prop} {s : σ}
    {p : Pool σ (Call L ε σ χ α)} (hs : J s) (hstart : ∀ c, start c → c.Keeps J post)
    (h : Reach (pool start).Step ok (fun p ↦ p = ⟨s, []⟩) p) :
    J p.shared ∧ ∀ c ∈ p.threads, c.Keeps J post := by
  refine Machine.outline (A := fun _ c ↦ c.Keeps J post) ?_ (fun _ c _ hc ↦ hstart c hc) ?_ ?_ h
  · rintro p rfl
    exact ⟨hs, by simp⟩
  · intro p i e c s' c' hJ hc _ _ hstep
    obtain ⟨hJ', hc'⟩ := hc.step hJ hstep
    exact ⟨hJ', hc', fun _ hu ↦ hu⟩
  · exact fun _ _ _ hworld ↦ hworld.elim

end Innovents.Lib.Call
