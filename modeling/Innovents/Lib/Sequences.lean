import Innovents.Lib.Requests

namespace Innovents.Lib

variable {ω L ε σ τ χ α β : Type}

namespace Call

variable {ok : L → σ → Prop} {s s' : σ} {r : Except χ α} {c : Call L ε σ χ α}
  {post post' : Except χ α → σ → Prop}

/-- The call runs without interruption from `s` to `s'` and has the result `r`, and its requests
find states that meet `ok`. -/
inductive Passes (ok : L → σ → Prop) : Call L ε σ χ α → σ → Except χ α → σ → Prop
  | returned {r : Except χ α} {s : σ} : Passes ok (.returned r) s r s
  | request {label : L} {effect : ε → σ → σ} {next : ε → σ → Call L ε σ χ α} {e : ε} {s s' : σ}
      {r : Except χ α} : ok label s → Passes ok (next e s) (effect e s) r s' →
      Passes ok (.request label effect next) s r s'

/-- The weakest precondition of a call that nobody interrupts, if its requests find states that
meet `ok`. -/
def Alone (ok : L → σ → Prop) : Call L ε σ χ α → (Except χ α → σ → Prop) → σ → Prop
  | returned r, post, s => post r s
  | request label effect next, post, s => ok label s → ∀ e, Alone ok (next e s) post (effect e s)

theorem alone_passes (h : c.Alone ok post s) (hp : c.Passes ok s r s') : post r s' := by
  induction hp with
  | returned => exact h
  | request hok _ ih => exact ih (h hok _)

theorem alone_ran {oks : ε → Prop} (h : c.Alone (fun _ _ ↦ True) post s) (hr : c.Ran oks s r s') :
    post r s' := by
  induction hr with
  | returned => exact h
  | request _ _ ih => exact ih (h trivial _)

theorem alone_mono (h : c.Alone ok post s) (hpost : ∀ r s, post r s → post' r s) :
    c.Alone ok post' s := by
  induction c generalizing s with
  | returned r => exact hpost r s h
  | request label effect next ih => exact fun hok e ↦ ih e s (h hok e)

theorem alone_bind {f : α → Call L ε σ χ β} {post : Except χ β → σ → Prop}
    (h : c.Alone ok (fun r s ↦ match r with
      | .ok a => (f a).Alone ok post s
      | .error x => post (.error x) s) s) : (c.bind f).Alone ok post s := by
  induction c generalizing s with
  | returned r =>
    cases r with
    | ok a => exact h
    | error x => exact h
  | request label effect next ih => exact fun hok e ↦ ih e s (h hok e)

theorem alone_returned {x : Except χ α} (h : post x s) :
    (returned x : Call L ε σ χ α).Alone ok post s := h

/-- What every request keeps under its condition is there afterwards. -/
theorem alone_each {J : σ → Prop} (hc : c.Each fun l s s' ↦ ok l s → J s → J s') (hs : J s) :
    c.Alone ok (fun _ ↦ J) s := by
  induction c generalizing s with
  | returned => exact hs
  | request label effect next ih => exact fun hok e ↦ ih e s (hc e s).2 ((hc e s).1 hok hs)

theorem alone_map {f : α → β} {post : Except χ β → σ → Prop}
    (h : c.Alone ok (fun r s ↦ post (r.map f) s) s) : (f <$> c).Alone ok post s := by
  refine alone_bind (alone_mono h fun r s hs ↦ ?_)
  cases r with
  | ok a => exact hs
  | error x => exact hs

section Parts

variable {f : α → Call L ε σ χ β} {post : Except χ β → σ → Prop} {label : L}

theorem alone_returned_bind {x : Except χ α} (herror : ∀ x, post (.error x) s)
    (h : ∀ a, x = .ok a → (f a).Alone ok post s) :
    ((returned x : Call L ε σ χ α).bind f).Alone ok post s := by
  cases x with
  | ok a => exact h a rfl
  | error x => exact herror x

/-- After a part that only reads. -/
theorem alone_reading_bind (hc : c.Each fun _ s s' ↦ s' = s) (herror : ∀ x, post (.error x) s)
    (h : ∀ a, (f a).Alone ok post s) : (c.bind f).Alone ok post s := by
  have hreads : c.Alone ok (fun _ s' ↦ s' = s) s :=
    alone_each (hc.mono fun _ _ _ h _ hs ↦ h.trans hs) rfl
  refine alone_bind (alone_mono hreads fun r s' hs ↦ ?_)
  subst hs
  cases r with
  | ok a => exact h a
  | error x => exact herror x

theorem alone_ask_bind {g : ε → σ → Except χ α} (herror : ∀ x, post (.error x) s)
    (h : ∀ e a, g e s = .ok a → (f a).Alone ok post s) :
    ((ask label g).bind f).Alone ok post s :=
  fun _ e ↦ alone_returned_bind herror fun a ha ↦ h e a ha

theorem alone_perform_bind {g : ε → σ → Except χ (σ × α)} (herror : ∀ x, post (.error x) s)
    (h : ∀ e s' a, ok label s → g e s = .ok (s', a) → (f a).Alone ok post s') :
    ((perform label g).bind f).Alone ok post s := by
  intro hok e
  dsimp only
  cases hg : g e s with
  | ok q => exact h e q.1 q.2 hok hg
  | error x => exact herror x

variable [Faulty ε χ]

theorem alone_reads_bind {g : ε → σ → α} (herror : ∀ x, post (.error x) s)
    (h : ∀ e, (f (g e s)).Alone ok post s) :
    ((reads label g : Call L ε σ χ α).bind f).Alone ok post s := by
  refine alone_ask_bind herror fun e a ha ↦ ?_
  obtain ⟨-, ha⟩ := elim_fault ha
  cases ha
  exact h e

theorem alone_writes_bind {g : ε → σ → Except χ (σ × α)} (herror : ∀ x, post (.error x) s)
    (h : ∀ e s' a, ok label s → g e s = .ok (s', a) → (f a).Alone ok post s') :
    ((writes label g : Call L ε σ χ α).bind f).Alone ok post s :=
  alone_perform_bind herror fun e s' a hok ha ↦ h e s' a hok (elim_fault ha).2

end Parts

section Checks

variable {label : L} {P Q : α → Prop} {f : α → Call L ε σ χ β}

theorem Alone.anyway {ok' : L → σ → Prop} (h : c.Alone (fun _ _ ↦ True) post s) :
    c.Alone ok' post s := by
  induction c generalizing s with
  | returned => exact h
  | request label effect next ih => exact fun _ e ↦ ih e s (h trivial e)

/-- Uninterrupted, the call changes nothing, and what it returns meets `P`. -/
def Finds (P : α → Prop) (s : σ) (c : Call L ε σ χ α) : Prop :=
  c.Alone (fun _ _ ↦ True) (fun r s' ↦ s' = s ∧ ∀ a, r = .ok a → P a) s

theorem finds_returned {x : Except χ α} (h : ∀ a, x = .ok a → P a) :
    (returned x : Call L ε σ χ α).Finds P s := ⟨rfl, h⟩

theorem finds_pure {a : α} (h : P a) : (pure a : Call L ε σ χ α).Finds P s := by
  refine finds_returned fun b hb ↦ ?_
  cases hb
  exact h

theorem alone_finds_bind {post : Except χ β → σ → Prop} (hc : c.Finds P s)
    (herror : ∀ x, post (.error x) s) (h : ∀ a, P a → (f a).Alone ok post s) :
    (c.bind f).Alone ok post s := by
  refine alone_bind (alone_mono hc.anyway fun r s' hs ↦ ?_)
  obtain ⟨rfl, hP⟩ := hs
  cases r with
  | ok a => exact h a (hP a rfl)
  | error x => exact herror x

theorem finds_bind {P : β → Prop} (hc : c.Finds Q s) (hf : ∀ a, Q a → (f a).Finds P s) :
    (c.bind f).Finds P s := by
  refine alone_finds_bind hc (fun x ↦ ⟨rfl, fun a ha ↦ ?_⟩) hf
  cases ha

theorem finds_reads [Faulty ε χ] {g : ε → σ → α} (h : ∀ e, P (g e s)) :
    (reads label g : Call L ε σ χ α).Finds P s := by
  intro _ e
  refine ⟨rfl, fun a ha ↦ ?_⟩
  obtain ⟨-, ha⟩ := elim_fault ha
  cases ha
  exact h e

end Checks

section Focus

variable {view : τ → σ} {put : σ → τ → τ}

/-- A call that works on a part of the state. -/
def focus (view : τ → σ) (put : σ → τ → τ) : Call L ε σ χ α → Call L ε τ χ α
  | returned r => returned r
  | request label effect next => request label (fun e t ↦ put (effect e (view t)) t)
      fun e t ↦ (next e (view t)).focus view put

theorem each_focus {G : L → σ → σ → Prop} (hc : c.Each G) :
    (c.focus view put).Each fun l t t' ↦ ∃ s, G l (view t) s ∧ t' = put s t := by
  induction c with
  | returned => trivial
  | request label effect next ih =>
    exact fun e t ↦ ⟨⟨_, (hc e (view t)).1, rfl⟩, ih e (view t) (hc e (view t)).2⟩

/-- What a call heeds on the part, it heeds in the whole. -/
theorem heeds_focus {J : σ → Prop} {ok : History L σ → L → σ → Prop} {G : L → σ → σ → Prop}
    {post : History L σ → α → Prop} {history : History L τ}
    (hview : ∀ t s, J (view t) → J s → view (put s t) = s)
    (h : c.Heeds J ok G post (history.seen view)) :
    (c.focus view put).Heeds (fun t ↦ J (view t))
      (fun history l t ↦ ok (history.seen view) l (view t))
      (fun l t t' ↦ G l (view t) (view t') ∧ t' = put (view t') t)
      (fun history a ↦ post (history.seen view) a) history := by
  induction c generalizing history with
  | returned r => cases r <;> exact h
  | request label effect next ih =>
    intro e t ht hok
    obtain ⟨hJ, hG, hrest⟩ := h e (view t) ht hok
    dsimp only
    rw [hview t _ ht hJ]
    refine ⟨hJ, ⟨hG, rfl⟩, ih e (view t) ?_⟩
    rw [History.seen_concat, hview t _ ht hJ]
    exact hrest

/-- What a call does to the part after its history there, it does to the part of the whole. -/
theorem traces_focus {P : History L σ → L → ε → σ → σ → Prop} {history : History L τ}
    (hview : ∀ history l e t s, P history l e (view t) s → view (put s t) = s)
    (h : c.Traces P (fun _ _ ↦ True) (history.seen view)) :
    (c.focus view put).Traces (fun history l e t t' ↦
      P (history.seen view) l e (view t) (view t') ∧ t' = put (view t') t) (fun _ _ ↦ True)
        history := by
  induction c generalizing history with
  | returned r => cases r <;> trivial
  | request label effect next ih =>
    intro e t
    obtain ⟨hP, hrest⟩ := h e (view t)
    have hput := hview _ _ _ _ _ hP
    dsimp only
    rw [hput]
    refine ⟨⟨hP, rfl⟩, ih e (view t) ?_⟩
    rw [History.seen_concat, hput]
    exact hrest

theorem traces_focus_perform {P : History L τ → L → ε → τ → τ → Prop} {history : History L τ}
    {label : L} {f : ε → σ → Except χ (σ × α)} {post : History L τ → α → Prop}
    (hP : ∀ e t, P history label e t (put (view t) t))
    (h : ∀ e t s a, f e (view t) = .ok (s, a) →
      P history label e t (put s t) ∧ post (history ++ [(label, t, put s t)]) a) :
    ((perform label f).focus view put).Traces P post history := by
  intro e t
  simp only [written]
  cases hf : f e (view t) with
  | ok q => exact h e t q.1 q.2 hf
  | error x => exact ⟨hP e t, trivial⟩

/-- The parts that `K` leads to can be put back and looked at again. -/
structure Part (view : τ → σ) (put : σ → τ → τ) (K : σ → σ → Prop) : Prop where
  refl : ∀ s, K s s
  trans : ∀ s s' s'', K s s' → K s' s'' → K s s''
  view_put : ∀ t s, K (view t) s → view (put s t) = s
  put_put : ∀ t s s', put s' (put s t) = put s' t

/-- The whole `t` as it was, or with a new part `s`. -/
def PartOf (view : τ → σ) (put : σ → τ → τ) (K : σ → σ → Prop) (t : τ) (s : σ) (t' : τ) : Prop :=
  view t' = s ∧ K (view t) s ∧ (t' = t ∨ t' = put s t)

/-- What a call achieves on the part, it achieves in the whole. -/
theorem alone_focus {K : σ → σ → Prop} (hpart : Part view put K) (hc : c.Each fun _ ↦ K) {t : τ}
    {ok : L → τ → Prop}
    (h : c.Alone (fun l s ↦ ∃ t', PartOf view put K t s t' ∧ ok l t') post (view t)) :
    (c.focus view put).Alone ok (fun r t' ↦ ∃ s, PartOf view put K t s t' ∧ post r s) t := by
  suffices hgen : ∀ s, ∀ c : Call L ε σ χ α, (c.Each fun _ ↦ K) →
      c.Alone (fun l s ↦ ∃ t', PartOf view put K t s t' ∧ ok l t') post s →
        ∀ t', PartOf view put K t s t' →
          (c.focus view put).Alone ok (fun r t' ↦ ∃ s, PartOf view put K t s t' ∧ post r s) t' from
    hgen (view t) c hc h t ⟨rfl, hpart.refl _, .inl rfl⟩
  intro s c hc h
  induction c generalizing s with
  | returned r => exact fun t' ht' ↦ ⟨s, ht', h⟩
  | request label effect next ih =>
    intro t' ht' hok e
    have hK := (hc e (view t')).1
    obtain ⟨rfl, hled, hput⟩ := ht'
    refine ih e (view t') _ (hc e (view t')).2 (h ⟨t', ⟨rfl, hled, hput⟩, hok⟩ e) _
      ⟨hpart.view_put t' _ hK, hpart.trans _ _ _ hled hK, .inr ?_⟩
    rcases hput with rfl | hput
    · rfl
    · exact (congrArg (put _) hput).trans (hpart.put_put t _ _)

/-- What holds of the whole if `P` holds of the part, a call on the part keeps. -/
theorem alone_part {K : σ → σ → Prop} {P : σ → Prop} {Q : τ → Prop} (hpart : Part view put K)
    {t : τ} {ok : L → τ → Prop} (hc : c.Each fun _ ↦ K)
    (h : c.Alone (fun _ _ ↦ True) (fun _ ↦ P) (view t)) (hQ : Q t)
    (hput : ∀ s, K (view t) s → P s → Q (put s t)) :
    (c.focus view put).Alone ok (fun _ ↦ Q) t := by
  refine alone_mono (alone_focus hpart hc h.anyway) ?_
  rintro r t' ⟨s, ⟨-, hK, rfl | rfl⟩, hP⟩
  · exact hQ
  · exact hput s hK hP

end Focus

/-- Where an uninterrupted call ends and what it returns, if the inputs suffice and every request
passes the check. -/
def passing (check : L → σ → Bool) : List ε → σ → Call L ε σ χ α → Option (Except χ α × σ)
  | _, s, returned r => some (r, s)
  | [], _, request _ _ _ => none
  | e :: es, s, request label effect next =>
    if check label s then passing check es (effect e s) (next e s) else none

theorem passes_of_passing {check : L → σ → Bool} {es : List ε}
    (hcheck : ∀ l s, check l s = true → ok l s) (h : c.passing check es s = some (r, s')) :
    c.Passes ok s r s' := by
  induction es generalizing s c with
  | nil =>
    cases c with
    | returned result =>
      cases h
      exact .returned
    | request label effect next => cases h
  | cons e es ih =>
    cases c with
    | returned result =>
      cases h
      exact .returned
    | request label effect next =>
      rw [passing] at h
      split_ifs at h with hc
      exact .request (hcheck label s hc) (ih h)

end Call

section InSequence

variable {program : ω → Call L ε σ χ α} {ok : ω → L → σ → Prop} {J : σ → Prop} {s s' : σ}

/-- An operation is carried out from its first request to its last, and its requests find states
that meet `ok`. -/
def InSequence (program : ω → Call L ε σ χ α) (ok : ω → L → σ → Prop) (s : σ) (op : ω) (s' : σ) :
    Prop :=
  ∃ r, (program op).Passes (ok op) s r s'

theorem inSequence_invariant {init : σ → Prop} (hinit : ∀ s, init s → J s)
    (hprogram : ∀ op s, J s → (program op).Alone (ok op) (fun _ ↦ J) s)
    (h : Reach (InSequence program ok) (fun _ _ ↦ True) init s) : J s :=
  h.invariant hinit fun s op _ hs _ ⟨_, hpasses⟩ ↦ Call.alone_passes (hprogram op s hs) hpasses

/-- As `InSequence`, with a log of the operations and their results, the latest first. -/
def Logged (program : ω → Call L ε σ χ α) (ok : ω → L → σ → Prop) (s : σ × List (ω × Except χ α))
    (op : ω) (s' : σ × List (ω × Except χ α)) : Prop :=
  ∃ r, (program op).Passes (ok op) s.1 r s'.1 ∧ s'.2 = (op, r) :: s.2

theorem logged_invariant {J : σ → List (ω × Except χ α) → Prop}
    {init : σ × List (ω × Except χ α) → Prop} {log : List (ω × Except χ α)}
    (hinit : ∀ s, init s → J s.1 s.2)
    (hprogram : ∀ op s log, J s log →
      (program op).Alone (ok op) (fun r s' ↦ J s' ((op, r) :: log)) s)
    (h : Reach (Logged program ok) (fun _ _ ↦ True) init (s, log)) : J s log := by
  refine h.invariant (I := fun s ↦ J s.1 s.2) hinit ?_
  rintro ⟨s, log⟩ op ⟨s', log'⟩ hs _ ⟨r, hpasses, rfl⟩
  exact Call.alone_passes (hprogram op s log hs) hpasses

/-- The state after the listed operations, each with its inputs, if they all end, and the log. -/
def carryLogged (program : ω → Call L ε σ χ α) (check : ω → L → σ → Bool) :
    List (ω × List ε) → σ × List (ω × Except χ α) → Option (σ × List (ω × Except χ α))
  | [], s => some s
  | (op, es) :: rest, s => do
    let (r, s') ← (program op).passing (check op) es s.1
    carryLogged program check rest (s', (op, r) :: s.2)

theorem reach_carryLogged {check : ω → L → σ → Bool} {ops : List (ω × List ε)}
    {init : σ × List (ω × Except χ α) → Prop} {s s' : σ × List (ω × Except χ α)}
    (hcheck : ∀ op l s, check op l s = true → ok op l s)
    (hs : Reach (Logged program ok) (fun _ _ ↦ True) init s)
    (h : carryLogged program check ops s = some s') :
    Reach (Logged program ok) (fun _ _ ↦ True) init s' := by
  induction ops generalizing s with
  | nil =>
    cases h
    exact hs
  | cons op rest ih =>
    obtain ⟨op, es⟩ := op
    rw [carryLogged, Option.bind_eq_bind, Option.bind_eq_some_iff] at h
    obtain ⟨⟨r, t⟩, ht, h⟩ := h
    exact ih (.next hs trivial ⟨r, Call.passes_of_passing (hcheck op) ht, rfl⟩) h

/-- The state after the listed operations, each with its inputs, if they all end. -/
def carryOut (program : ω → Call L ε σ χ α) (check : ω → L → σ → Bool) :
    List (ω × List ε) → σ → Option σ
  | [], s => some s
  | (op, es) :: rest, s => do
    let (_, s) ← (program op).passing (check op) es s
    carryOut program check rest s

theorem reach_carryOut {check : ω → L → σ → Bool} {ops : List (ω × List ε)} {init : σ → Prop}
    (hcheck : ∀ op l s, check op l s = true → ok op l s)
    (hs : Reach (InSequence program ok) (fun _ _ ↦ True) init s)
    (h : carryOut program check ops s = some s') :
    Reach (InSequence program ok) (fun _ _ ↦ True) init s' := by
  induction ops generalizing s with
  | nil =>
    cases h
    exact hs
  | cons op rest ih =>
    obtain ⟨op, es⟩ := op
    rw [carryOut, Option.bind_eq_bind, Option.bind_eq_some_iff] at h
    obtain ⟨⟨r, t⟩, ht, h⟩ := h
    exact ih (.next hs trivial ⟨r, Call.passes_of_passing (hcheck op) ht⟩) h

end InSequence

end Innovents.Lib
