import Innovents.Lib.Sequences
import Mathlib.Data.List.Induction

namespace Innovents.Lib

variable {ω L ε σ τ χ α β κ : Type}

namespace Call

section Finishes

variable {P : History L σ → L → ε → σ → σ → Prop} {history : History L σ} {label : L}

/-- As `Traces`, with what the history has been when the call fails. -/
abbrev Finishes (P : History L σ → L → ε → σ → σ → Prop) (post : History L σ → Except χ α → Prop)
    (history : History L σ) (c : Call L ε σ χ α) : Prop :=
  c.attempt.Traces P post history

theorem finishes_returned {x : Except χ α} {post : History L σ → Except χ α → Prop}
    (h : post history x) : (returned x : Call L ε σ χ α).Finishes P post history := h

theorem finishes_bind {c : Call L ε σ χ α} {f : α → Call L ε σ χ β}
    {post : History L σ → Except χ β → Prop}
    (h : c.Finishes P (fun history r ↦ match r with
      | .ok a => (f a).Finishes P post history
      | .error x => post history (.error x)) history) : (c.bind f).Finishes P post history := by
  induction c generalizing history with
  | returned r =>
    cases r with
    | ok a => exact h
    | error x => exact h
  | request label effect next ih => exact fun e s ↦ ⟨(h e s).1, ih e s (h e s).2⟩

theorem Finishes.traces {c : Call L ε σ χ α} {post : History L σ → Except χ α → Prop}
    (h : c.Finishes P post history) :
    c.Traces P (fun history a ↦ post history (.ok a)) history := by
  induction c generalizing history with
  | returned r =>
    cases r with
    | ok a => exact h
    | error x => trivial
  | request label effect next ih => exact fun e s ↦ ⟨(h e s).1, ih e s (h e s).2⟩

/-- A check before the rest of a call. -/
theorem finishes_checked {x : Except χ α} {f : α → Call L ε σ χ β}
    {post : History L σ → Except χ β → Prop} (herror : ∀ x, post history (.error x))
    (h : ∀ a, x = .ok a → (f a).Finishes P post history) :
    ((returned x).bind f).Finishes P post history := by
  cases x with
  | ok a => exact h a rfl
  | error x => exact herror x

variable [Faulty ε χ]

theorem finishes_reads {f : ε → σ → α} {post : History L σ → Except χ α → Prop}
    (hP : ∀ e s, P history label e s s)
    (herror : ∀ s x, post (history ++ [(label, s, s)]) (.error x))
    (h : ∀ e s, post (history ++ [(label, s, s)]) (.ok (f e s))) :
    (reads label f : Call L ε σ χ α).Finishes P post history := by
  intro e s
  refine ⟨hP e s, ?_⟩
  show post _ ((Faulty.fault e).elim (.ok (f e s)) .error)
  cases Faulty.fault e with
  | some x => exact herror s x
  | none => exact h e s

theorem finishes_writes {f : ε → σ → Except χ (σ × α)} {post : History L σ → Except χ α → Prop}
    (hP : ∀ e s, P history label e s s)
    (herror : ∀ s x, post (history ++ [(label, s, s)]) (.error x))
    (h : ∀ e s s' a, f e s = .ok (s', a) →
      P history label e s s' ∧ post (history ++ [(label, s, s')]) (.ok a)) :
    (writes label f : Call L ε σ χ α).Finishes P post history := by
  intro e s
  dsimp only
  cases hf : (Faulty.fault e).elim (f e s) .error with
  | error x => exact ⟨hP e s, herror s x⟩
  | ok q => exact h e s q.1 q.2 (elim_fault hf).2

end Finishes

section Focus

variable {view : τ → σ} {put : σ → τ → τ} {label : L}

@[simp] theorem focus_returned {r : Except χ α} :
    (returned r : Call L ε σ χ α).focus view put = returned r := rfl

@[simp] theorem focus_bind {c : Call L ε σ χ α} {f : α → Call L ε σ χ β} :
    (c.bind f).focus view put = (c.focus view put).bind fun a ↦ (f a).focus view put := by
  induction c with
  | returned r => cases r <;> rfl
  | request label effect next ih => simp only [bind, focus, ih]

variable [Faulty ε χ]

theorem focus_reads {f : ε → σ → α} (hput : ∀ t, put (view t) t = t) :
    (reads label f : Call L ε σ χ α).focus view put = reads label fun e t ↦ f e (view t) := by
  simp only [reads, ask, focus, hput]

theorem focus_writes {f : ε → σ → Except χ (σ × α)} (hput : ∀ t, put (view t) t = t) :
    (writes label f : Call L ε σ χ α).focus view put =
      writes label fun e t ↦ (f e (view t)).map fun q ↦ (put q.1 t, q.2) := by
  simp only [writes, perform, focus]
  congr 1
  · funext e t
    cases Faulty.fault e with
    | some x => exact hput t
    | none =>
      cases hf : f e (view t) with
      | ok q => simp [written, Except.map]
      | error x => simp [written, Except.map, hput]
  · funext e t
    cases Faulty.fault e with
    | some x => rfl
    | none =>
      cases hf : f e (view t) with
      | ok q => simp [Except.map]
      | error x => simp [Except.map]

end Focus

end Call

section Appends

variable {view : σ → List κ} {l : L} {s s' : σ} {xs : List κ} {history : History L σ}

/-- What a request has added to the end of a log. -/
def added (view : σ → List κ) (event : L × σ × σ) : List κ :=
  (view event.2.2).drop (view event.2.1).length

/-- What a call has added to the end of a log. -/
def History.added (view : σ → List κ) (history : History L σ) : List κ :=
  history.flatMap (Lib.added view)

@[simp] theorem History.added_nil : History.added view ([] : History L σ) = [] := rfl

theorem History.added_concat (h : view s' = view s ++ xs) :
    History.added view (history ++ [(l, s, s')]) = history.added view ++ xs := by
  simp [added, Lib.added, h]

theorem History.added_same (h : view s' = view s) :
    History.added view (history ++ [(l, s, s')]) = history.added view := by
  rw [added_concat (h.trans (List.append_nil _).symm), List.append_nil]

/-- One of several lists is lengthened. -/
theorem flatMap_set_perm {ts : List τ} {f : τ → List κ} {i : ℕ} {t t' : τ} (hi : ts[i]? = some t)
    (ht : f t' = f t ++ xs) : ((ts.set i t').flatMap f).Perm (ts.flatMap f ++ xs) := by
  induction ts generalizing i with
  | nil => cases hi
  | cons u ts ih =>
    cases i with
    | zero =>
      cases hi
      rw [List.set_cons_zero, List.flatMap_cons, List.flatMap_cons, ht, List.append_assoc,
        List.append_assoc]
      exact List.perm_append_comm.append_left _
    | succ i =>
      rw [List.set_cons_succ, List.flatMap_cons, List.flatMap_cons, List.append_assoc]
      exact (ih hi).append_left _

variable {program : ω → Call L ε σ χ α} {P : ω → History L σ → L → ε → σ → σ → Prop}
  {post : ω → History L σ → α → Prop} {p : Pool σ (Task ω L ε σ χ α)} {old : List κ}

/-- A log to whose end the requests add holds what it held before, and what the calls have added. -/
theorem added_reach {ok : Pool σ (Task ω L ε σ χ α) → Move (Task ω L ε σ χ α) ε → Prop}
    {init : Pool σ (Task ω L ε σ χ α) → Prop}
    (hprogram : ∀ op, (program op).Traces (P op) (post op) [])
    (hP : ∀ op history l e s s', P op history l e s s' → view s <+: view s')
    (hinit : ∀ p, init p → p.threads = [] ∧ view p.shared = old)
    (h : Reach (tasks program).Step ok init p) : ∃ new, view p.shared = old ++ new ∧
      new.Perm (p.threads.flatMap fun t ↦ t.history.added view) := by
  refine (h.invariant (I := fun p ↦ Tracing P post p ∧ ∃ new, view p.shared = old ++ new ∧
    new.Perm (p.threads.flatMap fun t ↦ t.history.added view)) (fun p hp ↦ ?_)
    fun p m q ⟨hp, new, hnew, hperm⟩ _ hs ↦ ⟨hp.step hprogram hs, ?_⟩).2
  · obtain ⟨hthreads, hold⟩ := hinit p hp
    refine ⟨by simp [Tracing, hthreads], [], by simp [hold], by simp [hthreads]⟩
  · cases hs with
    | @spawn t ht =>
      obtain ⟨op, rfl⟩ := ht
      refine ⟨new, hnew, ?_⟩
      simpa using hperm
    | @run i e t t' s' hi hstep =>
      obtain ⟨label, hlabel, hcall, -, hhistory⟩ := Task.step_eq hstep
      have hmove := ((hp t (List.mem_of_getElem? hi)).step hlabel hcall).1
      obtain ⟨xs, hxs⟩ := hP _ _ _ _ _ _ hmove
      refine ⟨new ++ xs, ?_, ?_⟩
      · rw [← hxs, hnew, List.append_assoc]
      · have hadded : t'.history.added view = t.history.added view ++ xs := by
          rw [hhistory]
          exact History.added_concat hxs.symm
        exact (hperm.append_right xs).trans (flatMap_set_perm hi hadded).symm
    | world hw => exact hw.elim

/-- What every request of a history keeps, given those before it. -/
theorem History.invariant {I : History L σ → Prop} (hnil : I [])
    (hstep : ∀ earlier l s s' later, history = earlier ++ (l, s, s') :: later → I earlier →
      I (earlier ++ [(l, s, s')])) : I history := by
  suffices hgen : ∀ earlier later, history = earlier ++ later → I earlier from
    hgen history [] (List.append_nil _).symm
  intro earlier
  induction earlier using List.reverseRecOn with
  | nil => exact fun _ _ ↦ hnil
  | append_singleton earlier event ih =>
    intro later hsplit
    rw [List.append_assoc] at hsplit
    exact hstep earlier event.1 event.2.1 event.2.2 later hsplit (ih _ hsplit)

end Appends

end Innovents.Lib
