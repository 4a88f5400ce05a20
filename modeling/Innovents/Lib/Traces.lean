import Innovents.Lib.Histories

namespace Innovents.Lib

variable {ω L ε σ χ α β : Type}

/-- The requests of the history were made one after another from `s` to `s'`, and nobody else
came in between. -/
def History.Leads : History L σ → σ → σ → Prop
  | [], s, s' => s' = s
  | (_, a, b) :: rest, s, s' => a = s ∧ History.Leads rest b s'

theorem History.leads_concat {history : History L σ} {l : L} {s a b s' : σ} :
    History.Leads (history ++ [(l, a, b)]) s s' ↔ history.Leads s a ∧ s' = b := by
  induction history generalizing s with
  | nil => simp only [List.nil_append, Leads]
  | cons event rest ih => simp only [List.cons_append, Leads, ih, and_assoc]

theorem History.Leads.last {history : History L σ} {s s' b : σ} (h : history.Leads s s')
    (hlast : history.last = some b) : s' = b := by
  obtain ⟨⟨l, a, c⟩, hevent, rfl⟩ := Option.map_eq_some_iff.mp hlast
  obtain ⟨rest, rfl⟩ := List.getLast?_eq_some_iff.mp hevent
  exact (leads_concat.mp h).2

namespace Call

variable {P : History L σ → L → ε → σ → σ → Prop} {post post' : History L σ → α → Prop}
  {c : Call L ε σ χ α} {history : History L σ}

/-- Every request changes the state as `P` allows after the history of the call so far, and a
value that the call returns meets `post` together with its history. -/
def Traces (P : History L σ → L → ε → σ → σ → Prop) (post : History L σ → α → Prop) :
    History L σ → Call L ε σ χ α → Prop
  | history, returned (.ok a) => post history a
  | _, returned (.error _) => True
  | history, request label effect next => ∀ e s, P history label e s (effect e s) ∧
      Traces P post (history ++ [(label, s, effect e s)]) (next e s)

theorem Traces.mono (h : c.Traces P post history)
    (hpost : ∀ history a, post history a → post' history a) : c.Traces P post' history := by
  induction c generalizing history with
  | returned r =>
    cases r with
    | ok a => exact hpost history a h
    | error x => trivial
  | request label effect next ih => exact fun e s ↦ ⟨(h e s).1, ih e s (h e s).2⟩

theorem Traces.imp {P' : History L σ → L → ε → σ → σ → Prop} (h : c.Traces P post history)
    (hP : ∀ history l e s s', P history l e s s' → P' history l e s s') :
    c.Traces P' post history := by
  induction c generalizing history with
  | returned r => cases r <;> exact h
  | request label effect next ih => exact fun e s ↦ ⟨hP _ _ _ _ _ (h e s).1, ih e s (h e s).2⟩

theorem traces_bind {f : α → Call L ε σ χ β} {post : History L σ → β → Prop}
    (h : c.Traces P (fun history a ↦ (f a).Traces P post history) history) :
    (c.bind f).Traces P post history := by
  induction c generalizing history with
  | returned r =>
    cases r with
    | ok a => exact h
    | error x => trivial
  | request label effect next ih => exact fun e s ↦ ⟨(h e s).1, ih e s (h e s).2⟩

theorem traces_ask {label : L} {f : ε → σ → Except χ α} (hP : ∀ e s, P history label e s s)
    (h : ∀ e s a, f e s = .ok a → post (history ++ [(label, s, s)]) a) :
    (ask label f).Traces P post history := by
  refine fun e s ↦ ⟨hP e s, ?_⟩
  dsimp only
  cases hf : f e s with
  | ok a => exact h e s a hf
  | error x => trivial

theorem traces_perform {label : L} {f : ε → σ → Except χ (σ × α)}
    (hP : ∀ e s, P history label e s s)
    (h : ∀ e s s' a, f e s = .ok (s', a) →
      P history label e s s' ∧ post (history ++ [(label, s, s')]) a) :
    (perform label f).Traces P post history := by
  intro e s
  dsimp only
  cases hf : f e s with
  | ok q => exact h e s q.1 q.2 hf
  | error x => exact ⟨hP e s, trivial⟩

/-- A part that does what is allowed after every history. -/
theorem traces_each {G : L → σ → σ → Prop} (hc : c.Each G)
    (hP : ∀ history l e s s', G l s s' → P history l e s s') :
    c.Traces P (fun _ _ ↦ True) history := by
  induction c generalizing history with
  | returned r => cases r <;> trivial
  | request label effect next ih =>
    exact fun e s ↦ ⟨hP history label e s _ (hc e s).1, ih e s (hc e s).2⟩

theorem traces_attempt {post : History L σ → Except χ α → Prop}
    (h : c.Traces P (fun history a ↦ post history (.ok a)) history)
    (herror : ∀ history x, post history (.error x)) : c.attempt.Traces P post history := by
  induction c generalizing history with
  | returned r =>
    cases r with
    | ok a => exact h
    | error x => exact herror history x
  | request label effect next ih => exact fun e s ↦ ⟨(h e s).1, ih e s (h e s).2⟩

/-- The history of a call only grows. -/
theorem Traces.grows (h : c.Traces P post history) :
    c.Traces P (fun history' a ↦ history <+: history' ∧ post history' a) history := by
  induction c generalizing history with
  | returned r =>
    cases r with
    | ok a => exact ⟨List.prefix_rfl, h⟩
    | error x => trivial
  | request label effect next ih =>
    intro e s
    refine ⟨(h e s).1, (ih e s (h e s).2).mono fun history' a ⟨hearlier, ha⟩ ↦ ⟨?_, ha⟩⟩
    exact (List.prefix_append history _).trans hearlier

/-- What a call does under conditions on its requests. -/
theorem Traces.heeds {J : σ → Prop} {ok : History L σ → L → σ → Prop} {G : L → σ → σ → Prop}
    (h : c.Traces P post history) (hP : ∀ history l e s s', P history l e s s' → J s →
      ok history l s → J s' ∧ G l s s') : c.Heeds J ok G post history := by
  induction c generalizing history with
  | returned r =>
    cases r with
    | ok a => exact h
    | error x => trivial
  | request label effect next ih =>
    intro e s hs hok
    obtain ⟨hJ, hG⟩ := hP history label e s _ (h e s).1 hs hok
    exact ⟨hJ, hG, ih e s (h e s).2⟩

/-- An uninterrupted call keeps what its requests keep, which follow one another. -/
theorem Traces.ran {J : σ → Prop} {ok : ε → Prop} {start s s' : σ} {r : Except χ α}
    (h : c.Traces P post history) (hr : Ran ok c s r s') (hleads : history.Leads start s)
    (hs : J s) (hJ : ∀ history l e s s', history.Leads start s → ok e → P history l e s s' → J s →
      J s') : J s' := by
  induction hr generalizing history with
  | returned => exact hs
  | request he _ ih =>
    obtain ⟨hP, hnext⟩ := h _ _
    exact ih hnext (History.leads_concat.mpr ⟨hleads, rfl⟩) (hJ _ _ _ _ _ hleads he hP hs)

/-- What a call returns meets `post` with some history. -/
theorem Traces.of_ran {ok : ε → Prop} {s s' : σ} {a : α} (h : c.Traces P post history)
    (hr : Ran ok c s (.ok a) s') : ∃ history', post history' a := by
  induction c generalizing history s with
  | returned r =>
    cases (ran_returned.mp hr).1
    exact ⟨history, h⟩
  | request label effect next ih =>
    obtain ⟨e, -, hr⟩ := ran_request.mp hr
    exact ih e s (h e s).2 hr

theorem Traces.step {c' : Call L ε σ χ α} {label : L} {e : ε} {s s' : σ}
    (h : c.Traces P post history) (hlabel : c.label? = some label)
    (hstep : c.step e s = some (s', c')) :
    P history label e s s' ∧ c'.Traces P post (history ++ [(label, s, s')]) := by
  cases c with
  | returned r => cases hstep
  | request label' effect next =>
    cases hstep
    cases hlabel
    exact h e s

end Call

section Runs

variable {program : ω → Call L ε σ χ α} {P : ω → History L σ → L → ε → σ → σ → Prop}
  {post : ω → History L σ → α → Prop} {p q : Pool σ (Task ω L ε σ χ α)}
  {m : Move (Task ω L ε σ χ α) ε}

/-- The tasks go on as `P` allows after their histories, and return what meets `post`. -/
def Tracing (P : ω → History L σ → L → ε → σ → σ → Prop) (post : ω → History L σ → α → Prop)
    (p : Pool σ (Task ω L ε σ χ α)) : Prop :=
  ∀ t ∈ p.threads, t.call.Traces (P t.op) (post t.op) t.history

theorem Tracing.step (hp : Tracing P post p)
    (hprogram : ∀ op, (program op).Traces (P op) (post op) [])
    (hs : (tasks program).Step p m q) : Tracing P post q := by
  cases hs with
  | @spawn t ht =>
    obtain ⟨op, rfl⟩ := ht
    intro u hu
    rcases List.mem_append.mp hu with hm | hm
    · exact hp u hm
    · rw [List.mem_singleton.mp hm]
      exact hprogram op
  | @run i e t t' s' hi hstep =>
    obtain ⟨label, hlabel, hcall, hop, hhistory⟩ := Task.step_eq hstep
    intro u hu
    rcases List.mem_or_eq_of_mem_set hu with hm | rfl
    · exact hp u hm
    · rw [hop, hhistory]
      exact ((hp t (List.mem_of_getElem? hi)).step hlabel hcall).2
  | world hw => exact hw.elim

theorem tracing_reach {ok : Pool σ (Task ω L ε σ χ α) → Move (Task ω L ε σ χ α) ε → Prop}
    {init : Pool σ (Task ω L ε σ χ α) → Prop}
    (hprogram : ∀ op, (program op).Traces (P op) (post op) [])
    (hinit : ∀ p, init p → p.threads = []) (h : Reach (tasks program).Step ok init p) :
    Tracing P post p := by
  refine h.invariant (fun p hp ↦ ?_) fun p m q hp _ hs ↦ hp.step hprogram hs
  simp [Tracing, hinit p hp]

/-- A request that `D` tells has left a state that meets `J`. -/
def Left (D : ω → L → Prop) (J : σ → Prop) (p : Pool σ (Task ω L ε σ χ α)) : Prop :=
  ∃ t ∈ p.threads, ∃ event ∈ t.history, D t.op event.1 ∧ J event.2.2

/-- What is left of the tasks was left before, or by this step. -/
theorem Left.step {D : ω → L → Prop} {J : σ → Prop} (hs : (tasks program).Step p m q)
    (h : Left D J q) : Left D J p ∨ J q.shared := by
  obtain ⟨u, hu, event, hevent, hD, hJ⟩ := h
  cases hs with
  | @spawn t ht =>
    rcases List.mem_append.mp hu with hm | hm
    · exact .inl ⟨u, hm, event, hevent, hD, hJ⟩
    · obtain ⟨op, rfl⟩ := ht
      rw [List.mem_singleton.mp hm] at hevent
      cases hevent
  | @run i e t t' s' hi hstep =>
    obtain ⟨label, -, -, hop, hhistory⟩ := Task.step_eq hstep
    rcases List.mem_or_eq_of_mem_set hu with hm | rfl
    · exact .inl ⟨u, hm, event, hevent, hD, hJ⟩
    · rw [hhistory] at hevent
      rcases List.mem_append.mp hevent with hevent | hevent
      · exact .inl ⟨t, List.mem_of_getElem? hi, event, hevent, hop ▸ hD, hJ⟩
      · rw [List.mem_singleton.mp hevent] at hJ
        exact .inr hJ
  | world hw => exact hw.elim

/-- Once it has been left so, a state stays as it was left if every later request meets its
condition. -/
theorem left_stays {D : ω → L → Prop} {J : σ → Prop} {ok : ω → History L σ → L → σ → Prop}
    {init : Pool σ (Task ω L ε σ χ α) → Prop}
    (hprogram : ∀ op, (program op).Traces (P op) (post op) [])
    (hP : ∀ op history l e s s', P op history l e s s' → ok op history l s → J s → J s')
    (hinit : ∀ p, init p → p.threads = [])
    (h : Reach (tasks program).Step (fun p m ↦ Left D J p → Heeding ok p m) init p)
    (hleft : Left D J p) : J p.shared := by
  refine (h.invariant (I := fun p ↦ Tracing P post p ∧ (Left D J p → J p.shared)) ?_ ?_).2 hleft
  · intro p hp
    simp [Tracing, Left, hinit p hp]
  · intro p m q ⟨hp, hJ⟩ hok hs
    refine ⟨hp.step hprogram hs, fun hq ↦ ?_⟩
    rcases hq.step hs with hbefore | hnow
    · have hheeds := hok hbefore
      have hshared := hJ hbefore
      cases hs with
      | spawn => exact hshared
      | @run i e t t' s' hi hstep =>
        obtain ⟨label, hlabel, hcall, -, -⟩ := Task.step_eq hstep
        have hmove := ((hp t (List.mem_of_getElem? hi)).step hlabel hcall).1
        exact hP _ _ _ _ _ _ hmove (hheeds t label hi hlabel) hshared
      | world hw => exact hw.elim
    · exact hnow

/-- The requests of the tasks were made as `P` allows, and `R` leads from what each has left to what
later ones found, and to the present. -/
structure Recorded (P : ω → History L σ → L → ε → σ → σ → Prop) (R : σ → σ → Prop)
    (p : Pool σ (Task ω L ε σ χ α)) : Prop where
  made : ∀ t ∈ p.threads, ∀ earlier l s s' later, t.history = earlier ++ (l, s, s') :: later →
    (∃ e, P t.op earlier l e s s') ∧ ∀ event ∈ earlier, R event.2.2 s
  since : ∀ t ∈ p.threads, ∀ event ∈ t.history, R event.2.2 p.shared

/-- The latest request, or one before it. -/
theorem concat_eq_split {β : Type} {xs earlier later : List β} {x y : β}
    (h : xs ++ [x] = earlier ++ y :: later) :
    (earlier = xs ∧ y = x) ∨ ∃ rest, xs = earlier ++ y :: rest := by
  rcases List.eq_nil_or_concat later with rfl | ⟨rest, z, rfl⟩
  · obtain ⟨hxs, hx⟩ := List.append_inj' h rfl
    cases hx
    exact .inl ⟨hxs.symm, rfl⟩
  · rw [List.concat_eq_append, ← List.cons_append, ← List.append_assoc] at h
    obtain ⟨hxs, -⟩ := List.append_inj' h rfl
    exact .inr ⟨rest, hxs⟩

theorem Recorded.step {R : σ → σ → Prop} (hrefl : ∀ s, R s s)
    (htrans : ∀ a b c, R a b → R b c → R a c)
    (hR : ∀ op history l e s s', P op history l e s s' → R s s') (hp : Tracing P post p)
    (h : Recorded P R p) (hs : (tasks program).Step p m q) : Recorded P R q := by
  cases hs with
  | @spawn t ht =>
    obtain ⟨op, rfl⟩ := ht
    constructor
    · intro u hu earlier l s s' later hhistory
      rcases List.mem_append.mp hu with hm | hm
      · exact h.made u hm earlier l s s' later hhistory
      · rw [List.mem_singleton.mp hm] at hhistory
        exact absurd hhistory.symm (List.append_ne_nil_of_right_ne_nil _ (List.cons_ne_nil _ _))
    · intro u hu event hevent
      rcases List.mem_append.mp hu with hm | hm
      · exact h.since u hm event hevent
      · rw [List.mem_singleton.mp hm] at hevent
        cases hevent
  | @run i e t t' s' hi hstep =>
    obtain ⟨label, hlabel, hcall, hop, hhistory⟩ := Task.step_eq hstep
    have hmem := List.mem_of_getElem? hi
    have hmove := ((hp t hmem).step hlabel hcall).1
    have hlatest := hR _ _ _ _ _ _ hmove
    constructor
    · intro u hu earlier l s a later hsplit
      rcases List.mem_or_eq_of_mem_set hu with hm | rfl
      · exact h.made u hm earlier l s a later hsplit
      · rw [hhistory] at hsplit
        rcases concat_eq_split hsplit with ⟨rfl, hevent⟩ | ⟨rest, hrest⟩
        · cases hevent
          exact ⟨⟨e, hop ▸ hmove⟩, h.since t hmem⟩
        · rw [hop]
          exact h.made t hmem earlier l s a rest hrest
    · intro u hu event hevent
      rcases List.mem_or_eq_of_mem_set hu with hm | rfl
      · exact htrans _ _ _ (h.since u hm event hevent) hlatest
      · rw [hhistory] at hevent
        rcases List.mem_append.mp hevent with hevent | hevent
        · exact htrans _ _ _ (h.since t hmem event hevent) hlatest
        · rw [List.mem_singleton.mp hevent]
          exact hrefl s'
  | world hw => exact hw.elim

theorem recorded_reach {R : σ → σ → Prop}
    {ok : Pool σ (Task ω L ε σ χ α) → Move (Task ω L ε σ χ α) ε → Prop}
    {init : Pool σ (Task ω L ε σ χ α) → Prop} (hrefl : ∀ s, R s s)
    (htrans : ∀ a b c, R a b → R b c → R a c)
    (hprogram : ∀ op, (program op).Traces (P op) (post op) [])
    (hR : ∀ op history l e s s', P op history l e s s' → R s s')
    (hinit : ∀ p, init p → p.threads = []) (h : Reach (tasks program).Step ok init p) :
    Recorded P R p := by
  refine (h.invariant (I := fun p ↦ Tracing P post p ∧ Recorded P R p) (fun p hp ↦ ?_)
    fun p m q ⟨hp, hrecorded⟩ _ hs ↦ ?_).2
  · refine ⟨by simp [Tracing, hinit p hp], ?_, ?_⟩ <;> simp [hinit p hp]
  · exact ⟨hp.step hprogram hs, hrecorded.step hrefl htrans hR hp hs⟩

/-- What every request keeps, given what those before it in its call have left, holds throughout, also
in the states that the requests have found. -/
theorem recorded_holds {R : σ → σ → Prop} {J : σ → Prop}
    {ok : Pool σ (Task ω L ε σ χ α) → Move (Task ω L ε σ χ α) ε → Prop}
    {init : Pool σ (Task ω L ε σ χ α) → Prop} (hrefl : ∀ s, R s s)
    (htrans : ∀ a b c, R a b → R b c → R a c)
    (hprogram : ∀ op, (program op).Traces (P op) (post op) [])
    (hR : ∀ op history l e s s', P op history l e s s' → R s s')
    (hJ : ∀ op history l e s s', P op history l e s s' → (∀ event ∈ history, R event.2.2 s) →
      J s → J s')
    (hinit : ∀ p, init p → p.threads = [] ∧ J p.shared) (h : Reach (tasks program).Step ok init p) :
    J p.shared ∧ ∀ t ∈ p.threads, ∀ event ∈ t.history, J event.2.1 := by
  refine (h.invariant (I := fun p ↦ Tracing P post p ∧ Recorded P R p ∧ J p.shared ∧
    ∀ t ∈ p.threads, ∀ event ∈ t.history, J event.2.1) (fun p hp ↦ ?_)
    fun p m q ⟨hp, hrecorded, hshared, hfound⟩ _ hs ↦ ?_).2.2
  · obtain ⟨hthreads, hshared⟩ := hinit p hp
    refine ⟨by simp [Tracing, hthreads], ⟨?_, ?_⟩, hshared, ?_⟩ <;> simp [hthreads]
  · refine ⟨hp.step hprogram hs, hrecorded.step hrefl htrans hR hp hs, ?_⟩
    cases hs with
    | @spawn t ht =>
      refine ⟨hshared, fun u hu ↦ ?_⟩
      rcases List.mem_append.mp hu with hm | hm
      · exact hfound u hm
      · obtain ⟨op, rfl⟩ := ht
        rw [List.mem_singleton.mp hm]
        simp
    | @run i e t t' s' hi hstep =>
      obtain ⟨label, hlabel, hcall, -, hhistory⟩ := Task.step_eq hstep
      have hmem := List.mem_of_getElem? hi
      refine ⟨hJ _ _ _ _ _ _ ((hp t hmem).step hlabel hcall).1 (hrecorded.since t hmem) hshared,
        fun u hu event hevent ↦ ?_⟩
      rcases List.mem_or_eq_of_mem_set hu with hm | rfl
      · exact hfound u hm event hevent
      · rw [hhistory] at hevent
        rcases List.mem_append.mp hevent with hevent | hevent
        · exact hfound t hmem event hevent
        · rw [List.mem_singleton.mp hevent]
          exact hshared
    | world hw => exact hw.elim

theorem recorded_stays {R : σ → σ → Prop} {J : σ → Prop}
    {ok : Pool σ (Task ω L ε σ χ α) → Move (Task ω L ε σ χ α) ε → Prop}
    {init : Pool σ (Task ω L ε σ χ α) → Prop} (hrefl : ∀ s, R s s)
    (htrans : ∀ a b c, R a b → R b c → R a c)
    (hprogram : ∀ op, (program op).Traces (P op) (post op) [])
    (hR : ∀ op history l e s s', P op history l e s s' → R s s')
    (hJ : ∀ op history l e s s', P op history l e s s' → (∀ event ∈ history, R event.2.2 s) →
      J s → J s')
    (hinit : ∀ p, init p → p.threads = [] ∧ J p.shared) (h : Reach (tasks program).Step ok init p) :
    J p.shared := (recorded_holds hrefl htrans hprogram hR hJ hinit h).1

end Runs

end Innovents.Lib
