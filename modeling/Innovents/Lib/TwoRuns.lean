import Innovents.Lib.Call
import Mathlib.Data.List.Forall2

namespace Innovents.Lib

/-- Both fail alike, or both return related values. -/
def Alike {χ α β : Type} (V : α → β → Prop) : Except χ α → Except χ β → Prop
  | .ok a, .ok b => V a b
  | .error x, .error y => x = y
  | _, _ => False

theorem alike_bind {χ α β γ : Type} {V : β → γ → Prop} {x : Except χ α} {f : α → Except χ β}
    {g : α → Except χ γ} (h : ∀ a, Alike V (f a) (g a)) : Alike V (x >>= f) (x >>= g) := by
  cases x with
  | ok a => exact h a
  | error x => exact rfl

theorem alike_andThen {χ α β γ δ : Type} {V : α → β → Prop} {W : γ → δ → Prop} {x : Except χ α}
    {y : Except χ β} {f : α → Except χ γ} {g : β → Except χ δ} (hxy : Alike V x y)
    (h : ∀ a b, V a b → Alike W (f a) (g b)) : Alike W (x >>= f) (y >>= g) := by
  cases x with
  | ok a =>
    cases y with
    | ok b => exact h a b hxy
    | error y => exact hxy.elim
  | error x =>
    cases y with
    | ok b => exact hxy.elim
    | error y => exact hxy

theorem alike_elim {χ α β μ : Type} {V : α → β → Prop} {x : Except χ α} {y : Except χ β}
    {fault : Option μ} {f : μ → χ} (h : Alike V x y) :
    Alike V (fault.elim x fun m ↦ .error (f m)) (fault.elim y fun m ↦ .error (f m)) := by
  cases fault with
  | none => exact h
  | some m => exact rfl

namespace Call

variable {L ε σ χ α β γ δ : Type}

/-- Two calls in lockstep: with related inputs and in related states their requests leave related
states, and they return related values. From a request with a label to `avoid` on they are not
compared. -/
def Twin (avoid : L → Prop) (E : ε → ε → Prop) (S : σ → σ → Prop) (V : α → β → Prop) :
    Call L ε σ χ α → Call L ε σ χ β → Prop
  | returned r, returned q => Alike V r q
  | request label effect next, request label' effect' next' =>
    label' = label ∧ (¬avoid label → ∀ e e', E e e' → ∀ s s', S s s' →
      S (effect e s) (effect' e' s') ∧ Twin avoid E S V (next e s) (next' e' s'))
  | _, _ => False

/-- The run makes no request with a label to avoid. -/
def Avoids (avoid : L → Prop) : List ε → σ → Call L ε σ χ α → Prop
  | e :: es, s, request label effect next =>
    ¬avoid label ∧ Avoids avoid es (effect e s) (next e s)
  | _, _, _ => True

instance decidableAvoids (avoid : L → Prop) [DecidablePred avoid] :
    ∀ (es : List ε) (s : σ) (c : Call L ε σ χ α), Decidable (Avoids avoid es s c)
  | e :: es, s, request _ effect next =>
    have := decidableAvoids avoid es (effect e s) (next e s)
    inferInstanceAs (Decidable (_ ∧ _))
  | [], _, request _ _ _ => .isTrue trivial
  | [], _, returned _ => .isTrue trivial
  | _ :: _, _, returned _ => .isTrue trivial

section Rules

variable {avoid : L → Prop} {E : ε → ε → Prop} {S : σ → σ → Prop} {V : α → β → Prop}
  {c : Call L ε σ χ α} {d : Call L ε σ χ β} {label : L}

/-- Runs of twins with related inputs end in related states. -/
theorem Twin.outcome (h : Twin avoid E S V c d) {es es' : List ε} (hes : List.Forall₂ E es es')
    {s s' t : σ} (hs : S s s') (havoid : Avoids avoid es s c) {r : Except χ α}
    (hr : outcome es s c = some (r, t)) :
    ∃ q t', Call.outcome es' s' d = some (q, t') ∧ S t t' ∧ Alike V r q := by
  induction hes generalizing s s' c d with
  | nil =>
    cases c with
    | request => cases hr
    | returned r =>
      cases hr
      cases d with
      | request => exact h.elim
      | returned q => exact ⟨q, s', rfl, hs, h⟩
  | cons he _ ih =>
    cases c with
    | returned r =>
      cases hr
      cases d with
      | request => exact h.elim
      | returned q => exact ⟨q, s', rfl, hs, h⟩
    | request label effect next =>
      cases d with
      | returned q => exact h.elim
      | request label' effect' next' =>
        obtain ⟨hs', hnext⟩ := h.2 havoid.1 _ _ he s s' hs
        exact ih hnext hs' havoid.2 hr

theorem twin_bind {W : γ → δ → Prop} {f : α → Call L ε σ χ γ} {g : β → Call L ε σ χ δ}
    (h : Twin avoid E S V c d) (hf : ∀ a b, V a b → Twin avoid E S W (f a) (g b)) :
    Twin avoid E S W (c.bind f) (d.bind g) := by
  induction c generalizing d with
  | returned r =>
    cases d with
    | request => exact h.elim
    | returned q =>
      cases r with
      | ok a =>
        cases q with
        | ok b => exact hf a b h
        | error y => exact h.elim
      | error x =>
        cases q with
        | ok b => exact h.elim
        | error y => exact h
  | request label effect next ih =>
    cases d with
    | returned q => exact h.elim
    | request label' effect' next' =>
      refine ⟨h.1, fun havoid e e' he s s' hs ↦ ?_⟩
      obtain ⟨hs', hnext⟩ := h.2 havoid e e' he s s' hs
      exact ⟨hs', ih e s hnext⟩

theorem twin_avoided {effect effect' : ε → σ → σ} {next : ε → σ → Call L ε σ χ α}
    {next' : ε → σ → Call L ε σ χ β} (h : avoid label) :
    Twin avoid E S V (request label effect next) (request label effect' next') :=
  ⟨rfl, fun hne ↦ absurd h hne⟩

theorem twin_ask {f : ε → σ → Except χ α} {g : ε → σ → Except χ β}
    (h : ∀ e e', E e e' → ∀ s s', S s s' → Alike V (f e s) (g e' s')) :
    Twin avoid E S V (ask label f) (ask label g) :=
  ⟨rfl, fun _ e e' he s s' hs ↦ ⟨hs, h e e' he s s' hs⟩⟩

theorem twin_perform {f : ε → σ → Except χ (σ × α)} {g : ε → σ → Except χ (σ × β)}
    (h : ∀ e e', E e e' → ∀ s s', S s s' →
      Alike (fun p q ↦ S p.1 q.1 ∧ V p.2 q.2) (f e s) (g e' s')) :
    Twin avoid E S V (perform label f) (perform label g) := by
  refine ⟨rfl, fun _ e e' he s s' hs ↦ ?_⟩
  have hfg := h e e' he s s' hs
  show S (written (f e s) s) (written (g e' s') s') ∧
    Alike V ((f e s).map Prod.snd) ((g e' s').map Prod.snd)
  cases hf : f e s with
  | ok p =>
    cases hg : g e' s' with
    | ok q =>
      rw [hf, hg] at hfg
      exact hfg
    | error y =>
      rw [hf, hg] at hfg
      exact hfg.elim
  | error x =>
    cases hg : g e' s' with
    | ok q =>
      rw [hf, hg] at hfg
      exact hfg.elim
    | error y =>
      rw [hf, hg] at hfg
      exact ⟨hs, hfg⟩

end Rules

end Call

end Innovents.Lib
