import Innovents.Lib.Requests

namespace Innovents.Lib

variable {L ε σ χ α : Type} {R : σ → σ → Prop} {Q : σ → Prop}

/-- Whatever state the next request of a call finds, `Q` holds of it, if nobody does more than `R`
in between. -/
def History.Sure (R : σ → σ → Prop) (Q : σ → Prop) (history : History L σ) : Prop :=
  ∀ s, (∀ s₀ ∈ history.last, R s₀ s) → Q s

theorem History.sure_concat {history : History L σ} {l : L} {a b : σ}
    (hQ : ∀ s s', Q s → R s s' → Q s') (h : Q b) : History.Sure R Q (history ++ [(l, a, b)]) := by
  intro s hs
  exact hQ b s h (hs b (by rw [History.last_concat, Option.mem_some]))

theorem History.sure_true {history : History L σ} : history.Sure R fun _ ↦ True :=
  fun _ _ ↦ trivial

/-- A condition on the requests of calls among others who do no more than `R`. -/
abbrev Among (R : σ → σ → Prop) (ok : History L σ → L → σ → Prop) (history : History L σ) (l : L)
    (s : σ) : Prop :=
  ok history l s ∧ ∀ s₀ ∈ history.last, R s₀ s

namespace Call

variable {J : σ → Prop} {ok : History L σ → L → σ → Prop} {G : L → σ → σ → Prop} {P : L → Prop}
  {history : History L σ} {c : Call L ε σ χ α}

/-- A part that only reads: what the call was sure of it is sure of afterwards, and its history
has grown by requests with the labels of the part. -/
theorem heeds_reading (hc : c.Each fun l s s' ↦ P l ∧ s' = s) (hG : ∀ l s, P l → G l s s)
    (hQ : ∀ s s', Q s → R s s' → Q s') (hsure : history.Sure R Q) :
    c.Heeds J (Among R ok) G (fun history' _ ↦
      (∃ new, history' = history ++ new ∧ ∀ event ∈ new, P event.1) ∧
        History.Sure R Q history') history := by
  induction c generalizing history with
  | returned r =>
    cases r with
    | ok a => exact ⟨⟨[], by simp⟩, hsure⟩
    | error x => trivial
  | request label effect next ih =>
    intro e s hs hok
    obtain ⟨⟨hlabel, heffect⟩, hnext⟩ := hc e s
    have hQs : Q s := hsure s hok.2
    rw [heffect]
    refine ⟨hs, hG label s hlabel, (ih e s hnext (History.sure_concat hQ hQs)).mono ?_⟩
    rintro history' a ⟨⟨new, rfl, hnew⟩, hsure'⟩
    refine ⟨⟨(label, s, s) :: new, by rw [List.append_assoc]; rfl, fun event hevent ↦ ?_⟩, hsure'⟩
    rcases List.mem_cons.mp hevent with rfl | hevent
    · exact hlabel
    · exact hnew event hevent

end Call

end Innovents.Lib
