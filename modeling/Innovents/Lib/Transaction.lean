import Innovents.Lib.Call
import Innovents.Lib.Table

namespace Innovents.Lib

variable {L ε σ χ α : Type}

/-- What an open transaction has written: nobody else sees it, and it is applied to the state when
the transaction commits. -/
abbrev Pending (σ χ : Type) := σ → Except χ σ

namespace Pending

def andThen (tx : Pending σ χ) (f : σ → Except χ (σ × α)) : Pending σ χ := fun s ↦ do
  let view ← tx s
  let (view, _) ← f view
  return view

theorem andThen_eq_ok {tx : Pending σ χ} {f : σ → Except χ (σ × α)} {s s' : σ} :
    tx.andThen f s = .ok s' ↔ ∃ view a, tx s = .ok view ∧ f view = .ok (s', a) := by
  constructor
  · intro h
    obtain ⟨view, hview, h⟩ := Lib.andThen_eq_ok.mp h
    obtain ⟨q, hq, h⟩ := Lib.andThen_eq_ok.mp h
    cases h
    exact ⟨view, q.2, hview, hq⟩
  · rintro ⟨view, a, hview, ha⟩
    exact Lib.andThen_eq_ok.mpr ⟨view, hview, Lib.andThen_eq_ok.mpr ⟨_, ha, rfl⟩⟩

/-- How the writes change the state. -/
def Changes (P : σ → σ → Prop) (tx : Pending σ χ) : Prop := ∀ s s', tx s = .ok s' → P s s'

theorem Changes.andThen {P : σ → σ → Prop} {tx : Pending σ χ} {f : σ → Except χ (σ × α)}
    (h : tx.Changes P) (htrans : ∀ a b c, P a b → P b c → P a c)
    (hf : ∀ s s' a, f s = .ok (s', a) → P s s') : (tx.andThen f).Changes P := by
  intro s s' hs
  obtain ⟨view, a, hview, ha⟩ := andThen_eq_ok.mp hs
  exact htrans s view s' (h s view hview) (hf view s' a ha)

/-- The writes neither see nor touch what `g` changes. -/
def Ignores (g : σ → σ) (tx : Pending σ χ) : Prop := ∀ s, tx (g s) = (tx s).map g

theorem Ignores.andThen {g : σ → σ} {tx : Pending σ χ} {f : σ → Except χ (σ × α)}
    (h : tx.Ignores g) (hf : ∀ s, f (g s) = (f s).map fun q ↦ (g q.1, q.2)) :
    (tx.andThen f).Ignores g := by
  intro s
  unfold Pending.andThen
  rw [h s]
  cases tx s with
  | error x => rfl
  | ok view =>
    show (do let q ← f (g view); return q.1 : Except χ σ) = (do let q ← f view; return q.1).map g
    rw [hf view]
    cases f view <;> rfl

end Pending

namespace Call

/-- A statement of an open transaction sees the committed state with what the transaction has
written. -/
def within (label : L) (tx : Pending σ χ) (f : ε → σ → Except χ (σ × α)) :
    Call L ε σ χ (Pending σ χ × α) :=
  ask label fun e s ↦ do
    let view ← tx s
    let (_, a) ← f e view
    return (tx.andThen (f e), a)

def commit (label : L) (check : ε → Except χ Unit) (tx : Pending σ χ) : Call L ε σ χ Unit :=
  perform label fun e s ↦ do
    check e
    let s ← tx s
    return (s, ())

section Rules

variable {ok : ε → Prop} {label : L} {tx : Pending σ χ} {s : σ}

/-- Without others the view of a transaction is the state with its own writes. -/
theorem returns_within {f : ε → σ → Except χ (σ × α)}
    {P : Pending σ χ × α → σ → Prop}
    (h : ∀ e view view' a, ok e → tx s = .ok view → f e view = .ok (view', a) →
      P (tx.andThen (f e), a) s) : (within label tx f).Returns ok s P := by
  refine returns_ask fun e q he hq ↦ ?_
  obtain ⟨view, hview, hq⟩ := andThen_eq_ok.mp hq
  obtain ⟨p, hp, hq⟩ := andThen_eq_ok.mp hq
  cases hq
  exact h e view p.1 p.2 he hview hp

theorem returns_commit {check : ε → Except χ Unit} {P : Unit → σ → Prop}
    (h : ∀ s', tx s = .ok s' → P () s') : (commit label check tx).Returns ok s P := by
  refine returns_perform fun e s' a _ hs ↦ ?_
  obtain ⟨_, -, hs⟩ := andThen_eq_ok.mp hs
  obtain ⟨s'', htx, hs⟩ := andThen_eq_ok.mp hs
  cases hs
  exact h _ htx

variable {inputs : L → ε} {view view' : σ} {a : α} {x : χ}

theorem answered_within {f : ε → σ → Except χ (σ × α)} (htx : tx s = .ok view)
    (hf : f (inputs label) view = .ok (view', a)) :
    answered inputs s (within label tx f) = (.ok (tx.andThen (f (inputs label)), a), s) := by
  have hresult : (do
      let view ← tx s
      let (_, a) ← f (inputs label) view
      return (tx.andThen (f (inputs label)), a)) = .ok (tx.andThen (f (inputs label)), a) :=
    andThen_eq_ok.mpr ⟨view, htx, andThen_eq_ok.mpr ⟨_, hf, rfl⟩⟩
  exact Prod.ext hresult rfl

theorem answered_within_error {f : ε → σ → Except χ (σ × α)} (htx : tx s = .ok view)
    (hf : f (inputs label) view = .error x) :
    answered inputs s (within label tx f) = (.error x, s) := by
  have hresult : (do
      let view ← tx s
      let (_, a) ← f (inputs label) view
      return (tx.andThen (f (inputs label)), a)) = .error x :=
    andThen_eq_error.mpr (.inr ⟨view, htx, andThen_eq_error.mpr (.inl hf)⟩)
  exact Prod.ext hresult rfl

theorem answered_commit {check : ε → Except χ Unit} (hcheck : check (inputs label) = .ok ())
    (htx : tx s = .ok view) : answered inputs s (commit label check tx) = (.ok (), view) := by
  have hwritten : (do
      check (inputs label)
      let s ← tx s
      return (s, ())) = .ok (view, ()) :=
    andThen_eq_ok.mpr ⟨(), hcheck, andThen_eq_ok.mpr ⟨view, htx, rfl⟩⟩
  rw [commit, perform, answered, hwritten]
  rfl

/-- A commit that fails drops the writes. -/
theorem answered_commit_error {check : ε → Except χ Unit} (hcheck : check (inputs label) = .error x) :
    answered inputs s (commit label check tx) = (.error x, s) := by
  have hwritten : (do
      check (inputs label)
      let s ← tx s
      return (s, ())) = .error x := andThen_eq_error.mpr (.inl hcheck)
  rw [commit, perform, answered, hwritten]
  rfl

end Rules

end Call

end Innovents.Lib
