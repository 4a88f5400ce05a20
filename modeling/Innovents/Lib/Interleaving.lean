import Mathlib.Data.List.Basic
import Mathlib.Data.List.Count
import Mathlib.Logic.Basic
import Mathlib.Tactic.SplitIfs

namespace Innovents.Lib

section Reach

variable {σ α : Type*}

/-- The states reached from `init` by steps that all meet `ok`. -/
inductive Reach (step : σ → α → σ → Prop) (ok : σ → α → Prop) (init : σ → Prop) : σ → Prop
  | start {s : σ} : init s → Reach step ok init s
  | next {s t : σ} {a : α} : Reach step ok init s → ok s a → step s a t → Reach step ok init t

variable {step : σ → α → σ → Prop} {ok ok' : σ → α → Prop} {init : σ → Prop}

theorem Reach.invariant {I : σ → Prop} (hinit : ∀ s, init s → I s)
    (hstep : ∀ s a t, I s → ok s a → step s a t → I t) {s : σ} (h : Reach step ok init s) :
    I s := by
  induction h with
  | start h => exact hinit _ h
  | next _ hok hs ih => exact hstep _ _ _ ih hok hs

theorem Reach.mono (hok : ∀ s a, ok s a → ok' s a) {s : σ} (h : Reach step ok init s) :
    Reach step ok' init s := by
  induction h with
  | start h => exact .start h
  | next _ ho hs ih => exact .next ih (hok _ _ ho) hs

/-- A run starts somewhere. -/
theorem Reach.origin {s : σ} (h : Reach step ok init s) :
    ∃ s₀, init s₀ ∧ Reach step ok (fun u ↦ u = s₀) s := by
  induction h with
  | start h => exact ⟨_, h, .start rfl⟩
  | next _ ho hs ih =>
    obtain ⟨s₀, h₀, hreach⟩ := ih
    exact ⟨s₀, h₀, .next hreach ho hs⟩

/-- A run goes on where another one has ended. -/
theorem Reach.trans {s t : σ} (h : Reach step ok init s)
    (ht : Reach step ok (fun u ↦ u = s) t) : Reach step ok init t := by
  induction ht with
  | start heq =>
    rw [heq]
    exact h
  | next _ ho hs ih => exact .next ih ho hs

end Reach

section Set

variable {τ : Type} {ts : List τ} {i j : ℕ} {t u : τ}

theorem getElem?_set_cases (h : (ts.set i t)[j]? = some u) :
    (j = i ∧ u = t) ∨ (j ≠ i ∧ ts[j]? = some u) := by
  rw [List.getElem?_set] at h
  split_ifs at h with hij
  · exact .inl ⟨hij.symm, by simpa using h.symm⟩
  · exact .inr ⟨Ne.symm hij, h⟩

theorem getElem?_append_singleton_cases (h : (ts ++ [t])[j]? = some u) :
    (j = ts.length ∧ u = t) ∨ ts[j]? = some u := by
  rw [List.getElem?_append] at h
  split_ifs at h with hj
  · exact .inr h
  · rw [List.getElem?_singleton] at h
    split_ifs at h with hz
    · exact .inl ⟨by omega, by simpa using h.symm⟩

end Set

/-- A shared state and the local states of the threads that work on it. -/
structure Pool (σ τ : Type) where
  shared : σ
  threads : List τ

/-- One move of an interleaving: a thread is started, a running thread takes its
next atomic step with the input `e`, or the surroundings change the state. -/
inductive Move (τ ε : Type)
  | spawn (t : τ)
  | run (i : ℕ) (e : ε)
  | world

/-- A family of threads over one shared state. A thread that has no next step
has returned; a thread that is never run again has crashed. -/
structure Machine (σ τ ε : Type) where
  start : τ → Prop
  step : ε → σ → τ → Option (σ × τ)
  world : σ → σ → Prop

namespace Machine

variable {σ τ ε : Type} (M : Machine σ τ ε)

inductive Step : Pool σ τ → Move τ ε → Pool σ τ → Prop
  | spawn {p : Pool σ τ} {t : τ} : M.start t → Step p (.spawn t) ⟨p.shared, p.threads ++ [t]⟩
  | run {p : Pool σ τ} {i : ℕ} {e : ε} {t t' : τ} {s' : σ} :
      p.threads[i]? = some t → M.step e p.shared t = some (s', t') →
      Step p (.run i e) ⟨s', p.threads.set i t'⟩
  | world {p : Pool σ τ} {s' : σ} : M.world p.shared s' → Step p .world ⟨s', p.threads⟩

/-- One thread running alone, one input for each of its steps. -/
def solo : List ε → σ → τ → σ × τ
  | [], s, t => (s, t)
  | e :: es, s, t =>
    match M.step e s t with
    | some (s', t') => solo es s' t'
    | none => (s, t)

theorem solo_returned {s : σ} {t : τ} (h : ∀ e, M.step e s t = none) (es : List ε) :
    M.solo es s t = (s, t) := by
  cases es with
  | nil => rfl
  | cons e es => simp only [solo, h]

theorem solo_append (es fs : List ε) (s : σ) (t : τ)
    (hstop : ∀ s t e, M.step e s t = none → ∀ e', M.step e' s t = none) :
    M.solo (es ++ fs) s t = M.solo fs (M.solo es s t).1 (M.solo es s t).2 := by
  induction es generalizing s t with
  | nil => rfl
  | cons e es ih =>
    simp only [List.cons_append, solo]
    cases h : M.step e s t with
    | none => exact (M.solo_returned (hstop s t e h) fs).symm
    | some q => exact ih q.1 q.2

/-- The pool after each listed thread has taken its next step with the given
input, if every such move passes the check. -/
def play (check : Pool σ τ → ℕ → ε → Bool) : List (ℕ × ε) → Pool σ τ → Option (Pool σ τ)
  | [], p => some p
  | (i, e) :: ms, p =>
    if check p i e then do
      let t ← p.threads[i]?
      let (s', t') ← M.step e p.shared t
      play check ms ⟨s', p.threads.set i t'⟩
    else none

/-- The pool after the listed moves, if each is possible and passes the check. The
surroundings move by `tick`. -/
def replay (check : Pool σ τ → Move τ ε → Bool) (starts : τ → Bool) (tick : σ → σ) :
    List (Move τ ε) → Pool σ τ → Option (Pool σ τ)
  | [], p => some p
  | m :: ms, p =>
    if check p m then
      match m with
      | .spawn t =>
        if starts t then replay check starts tick ms ⟨p.shared, p.threads ++ [t]⟩ else none
      | .run i e => do
        let t ← p.threads[i]?
        let (s', t') ← M.step e p.shared t
        replay check starts tick ms ⟨s', p.threads.set i t'⟩
      | .world => replay check starts tick ms ⟨tick p.shared, p.threads⟩
    else none

section Play

variable {M} {ok : Pool σ τ → Move τ ε → Prop} {init : Pool σ τ → Prop}

theorem reach_spawnAll {ts : List τ} (hok : ∀ p, ∀ t ∈ ts, ok p (.spawn t))
    (hts : ∀ t ∈ ts, M.start t) {p : Pool σ τ} (h : Reach M.Step ok init p) :
    Reach M.Step ok init ⟨p.shared, p.threads ++ ts⟩ := by
  induction ts generalizing p with
  | nil => simpa using h
  | cons t ts ih =>
    have hs : Reach M.Step ok init ⟨p.shared, p.threads ++ [t]⟩ :=
      .next h (hok p t (by simp)) (.spawn (hts t (by simp)))
    simpa using ih (fun q u hu ↦ hok q u (by simp [hu])) (fun u hu ↦ hts u (by simp [hu])) hs

theorem reach_play {check : Pool σ τ → ℕ → ε → Bool} {ms : List (ℕ × ε)} {p q : Pool σ τ}
    (hok : ∀ r i e, check r i e = true → ok r (.run i e))
    (h : Reach M.Step ok init p) (hm : M.play check ms p = some q) : Reach M.Step ok init q := by
  induction ms generalizing p with
  | nil =>
    cases hm
    exact h
  | cons m ms ih =>
    obtain ⟨i, e⟩ := m
    simp only [Machine.play] at hm
    split_ifs at hm with hc
    simp only [Option.bind_eq_bind, Option.bind_eq_some_iff] at hm
    obtain ⟨t, ht, ⟨s', t'⟩, hstep, hrest⟩ := hm
    exact ih (.next h (hok p i e hc) (.run ht hstep)) hrest

theorem step_play {check : Pool σ τ → ℕ → ε → Bool} {i : ℕ} {e : ε} {p q : Pool σ τ}
    (h : M.play check [(i, e)] p = some q) : M.Step p (.run i e) q := by
  simp only [Machine.play] at h
  split_ifs at h
  simp only [Option.bind_eq_bind, Option.bind_eq_some_iff] at h
  obtain ⟨t, hi, ⟨s', t'⟩, hstep, hrest⟩ := h
  cases hrest
  exact .run hi hstep

theorem reach_replay {check : Pool σ τ → Move τ ε → Bool} {starts : τ → Bool} {tick : σ → σ}
    {ms : List (Move τ ε)} {p q : Pool σ τ} (hok : ∀ r, ∀ m ∈ ms, check r m = true → ok r m)
    (hstarts : ∀ t, starts t = true → M.start t) (htick : ∀ s, M.world s (tick s))
    (h : Reach M.Step ok init p) (hm : M.replay check starts tick ms p = some q) :
    Reach M.Step ok init q := by
  induction ms generalizing p with
  | nil =>
    cases hm
    exact h
  | cons m ms ih =>
    have ih := fun {p} ↦ ih (p := p) fun r m hm ↦ hok r m (List.mem_cons_of_mem _ hm)
    have hhead := fun r ↦ hok r m List.mem_cons_self
    simp only [Machine.replay] at hm
    split_ifs at hm with hc
    cases m with
    | spawn t =>
      simp only at hm
      split_ifs at hm with ht
      exact ih (.next h (hhead _ hc) (.spawn (hstarts t ht))) hm
    | run i e =>
      simp only [Option.bind_eq_bind, Option.bind_eq_some_iff] at hm
      obtain ⟨t, ht, ⟨s', t'⟩, hstep, hrest⟩ := hm
      exact ih (.next h (hhead _ hc) (.run ht hstep)) hrest
    | world => exact ih (.next h (hhead _ hc) (.world (htick _))) hm

end Play

variable {M} {J : σ → Prop} {A : σ → τ → Prop} {ok : Pool σ τ → Move τ ε → Prop}
  {init : Pool σ τ → Prop}

/-- A proof outline for every interleaving: `J` holds of the shared state and `A`
of every thread. A step re-establishes both for the thread that takes it, and
leaves the assertion of every other thread true. -/
theorem outline
    (hinit : ∀ p, init p → J p.shared ∧ ∀ t ∈ p.threads, A p.shared t)
    (hstart : ∀ s t, J s → M.start t → A s t)
    (hrun : ∀ p i e t s' t', J p.shared → A p.shared t → p.threads[i]? = some t →
      ok p (.run i e) → M.step e p.shared t = some (s', t') →
      J s' ∧ A s' t' ∧ ∀ u, A p.shared u → A s' u)
    (hworld : ∀ s s', J s → M.world s s' → J s' ∧ ∀ u, A s u → A s' u)
    {p : Pool σ τ} (h : Reach M.Step ok init p) :
    J p.shared ∧ ∀ t ∈ p.threads, A p.shared t := by
  refine Reach.invariant (I := fun p ↦ J p.shared ∧ ∀ t ∈ p.threads, A p.shared t) hinit ?_ h
  rintro p a q ⟨hJ, hA⟩ hok hs
  cases hs with
  | spawn ht =>
    refine ⟨hJ, fun t htm ↦ ?_⟩
    rcases List.mem_append.mp htm with hm | hm
    · exact hA t hm
    · rw [List.mem_singleton.mp hm]
      exact hstart _ _ hJ ht
  | run hi hstep =>
    obtain ⟨hJ', hA', hstable⟩ := hrun p _ _ _ _ _ hJ (hA _ (List.mem_of_getElem? hi)) hi hok hstep
    refine ⟨hJ', fun u hu ↦ ?_⟩
    rcases List.mem_or_eq_of_mem_set hu with hm | rfl
    · exact hstable u (hA u hm)
    · exact hA'
  | world hw =>
    obtain ⟨hJ', hstable⟩ := hworld _ _ hJ hw
    exact ⟨hJ', fun u hu ↦ hstable u (hA u hu)⟩

/-- An invariant of the shared state alone. -/
theorem shared_invariant
    (hinit : ∀ p, init p → J p.shared)
    (hrun : ∀ p i e t s' t', J p.shared → p.threads[i]? = some t → ok p (.run i e) →
      M.step e p.shared t = some (s', t') → J s')
    (hworld : ∀ s s', J s → M.world s s' → J s')
    {p : Pool σ τ} (h : Reach M.Step ok init p) : J p.shared := by
  refine Reach.invariant (I := fun p ↦ J p.shared) hinit ?_ h
  rintro p a q hJ hok hs
  cases hs with
  | spawn => exact hJ
  | run hi hstep => exact hrun p _ _ _ _ _ hJ hi hok hstep
  | world hw => exact hworld _ _ hJ hw

section Turns

variable {busy : τ → Bool} {Idle : σ → Prop}

/-- What holds between two moves of threads that take turns: at most one of them is
busy, and `Idle` holds of the shared state as long as none is. -/
structure InTurns (J : σ → Prop) (A : σ → τ → Prop) (busy : τ → Bool) (Idle : σ → Prop)
    (p : Pool σ τ) : Prop where
  shared : J p.shared
  threads : ∀ t ∈ p.threads, A p.shared t
  alone : ∀ (i j : ℕ) (t u : τ), p.threads[i]? = some t → p.threads[j]? = some u →
    busy t = true → busy u = true → i = j
  idle : (∀ t ∈ p.threads, busy t = false) → Idle p.shared

theorem InTurns.run {p : Pool σ τ} {i : ℕ} {t t' : τ} {s' : σ}
    (h : InTurns J A busy Idle p) (hi : p.threads[i]? = some t) (hJ : J s') (hA : A s' t')
    (hidle : busy t' = false → Idle s') (hstable : ∀ u, busy u = false → A p.shared u → A s' u)
    (hothers : ∀ j u, p.threads[j]? = some u → j ≠ i → busy u = false) :
    InTurns J A busy Idle ⟨s', p.threads.set i t'⟩ := by
  have hset : ∀ j u, (p.threads.set i t')[j]? = some u → busy u = true → j = i := by
    intro j u hj hu
    rcases getElem?_set_cases hj with ⟨hji, _⟩ | ⟨hji, hj⟩
    · exact hji
    · rw [hothers j u hj hji] at hu
      cases hu
  refine ⟨hJ, fun u hu ↦ ?_, fun j k u v hj hk hu hv ↦ ?_, fun hall ↦ hidle (hall t' ?_)⟩
  · obtain ⟨j, hj⟩ := List.getElem?_of_mem hu
    rcases getElem?_set_cases hj with ⟨_, rfl⟩ | ⟨hji, hj⟩
    · exact hA
    · exact hstable u (hothers j u hj hji) (h.threads u (List.mem_of_getElem? hj))
  · rw [hset j u hj hu, hset k v hk hv]
  · exact List.mem_of_getElem? (List.getElem?_set_self (List.getElem?_eq_some_iff.mp hi).1)

theorem InTurns.beside {p : Pool σ τ} {i : ℕ} {t t' : τ} {s' : σ}
    (h : InTurns J A busy Idle p) (hi : p.threads[i]? = some t) (ht : busy t = false)
    (hu : ∃ u ∈ p.threads, busy u = true) (ht' : busy t' = false) (hJ : J s') (hA : A s' t')
    (hstable : ∀ u, A p.shared u → A s' u) :
    InTurns J A busy Idle ⟨s', p.threads.set i t'⟩ := by
  refine ⟨hJ, fun u hu ↦ ?_, fun j k u v hj hk hu hv ↦ ?_, fun hall ↦ ?_⟩
  · rcases List.mem_or_eq_of_mem_set hu with hm | rfl
    · exact hstable u (h.threads u hm)
    · exact hA
  · rcases getElem?_set_cases hj with ⟨_, rfl⟩ | ⟨_, hj⟩
    · simp [ht'] at hu
    rcases getElem?_set_cases hk with ⟨_, rfl⟩ | ⟨_, hk⟩
    · simp [ht'] at hv
    exact h.alone j k u v hj hk hu hv
  · -- the busy thread is still there
    obtain ⟨u, hu, hbusy⟩ := hu
    obtain ⟨j, hj⟩ := List.getElem?_of_mem hu
    have hji : i ≠ j := by
      intro he
      subst he
      rw [hi] at hj
      cases hj
      simp [ht] at hbusy
    have hmem : u ∈ p.threads.set i t' :=
      List.mem_of_getElem? ((List.getElem?_set_ne hji).trans hj)
    simp [hall u hmem] at hbusy

variable (busy Idle) in
/-- The rule for threads that take turns: a thread that has all others idle may
rely on `Idle` and break it until it is idle again; a thread that runs beside a
busy one stays idle and leaves the assertion of every other thread true. -/
theorem turns (hinit : ∀ p, init p → p.threads = [] ∧ J p.shared ∧ Idle p.shared)
    (hstart : ∀ p t, ok p (.spawn t) → M.start t → busy t = false ∧ A p.shared t)
    (hturn : ∀ p i e t s' t', J p.shared → A p.shared t → p.threads[i]? = some t →
      ok p (.run i e) → M.step e p.shared t = some (s', t') → (busy t = false → Idle p.shared) →
      J s' ∧ A s' t' ∧ (busy t' = false → Idle s') ∧ ∀ u, busy u = false → A p.shared u → A s' u)
    (hbeside : ∀ p i e t s' t', J p.shared → A p.shared t → p.threads[i]? = some t →
      ok p (.run i e) → M.step e p.shared t = some (s', t') → busy t = false →
      (∃ u ∈ p.threads, busy u = true) →
      busy t' = false ∧ J s' ∧ A s' t' ∧ ∀ u, A p.shared u → A s' u)
    (hworld : ∀ s s', ¬M.world s s') {p : Pool σ τ} (h : Reach M.Step ok init p) :
    InTurns J A busy Idle p := by
  refine Reach.invariant (I := InTurns J A busy Idle) (fun p hp ↦ ?_) (fun p a q hp hok hs ↦ ?_) h
  · obtain ⟨hnone, hJ, hidle⟩ := hinit p hp
    exact ⟨hJ, by simp [hnone], by simp [hnone], fun _ ↦ hidle⟩
  · cases hs with
    | @spawn t ht =>
      obtain ⟨hbusy, hA⟩ := hstart p t hok ht
      refine ⟨hp.shared, fun u hu ↦ ?_, fun i j u v hi hj hu hv ↦ ?_, fun hall ↦ ?_⟩
      · rcases List.mem_append.mp hu with hm | hm
        · exact hp.threads u hm
        · rw [List.mem_singleton.mp hm]
          exact hA
      · rcases getElem?_append_singleton_cases hi with ⟨_, rfl⟩ | hi
        · simp [hbusy] at hu
        rcases getElem?_append_singleton_cases hj with ⟨_, rfl⟩ | hj
        · simp [hbusy] at hv
        exact hp.alone i j u v hi hj hu hv
      · exact hp.idle fun u hu ↦ hall u (List.mem_append_left _ hu)
    | @run i e t t' s' hi hstep =>
      have hA := hp.threads t (List.mem_of_getElem? hi)
      by_cases hothers : ∃ j u, p.threads[j]? = some u ∧ j ≠ i ∧ busy u = true
      · obtain ⟨j, u, hj, hji, hu⟩ := hothers
        have ht : busy t = false := by
          by_contra hbusy
          exact hji (hp.alone j i u t hj hi hu (by simpa using hbusy))
        have hex : ∃ u ∈ p.threads, busy u = true := ⟨u, List.mem_of_getElem? hj, hu⟩
        obtain ⟨ht', hJ, hA', hstable⟩ := hbeside p i e t s' t' hp.shared hA hi hok hstep ht hex
        exact hp.beside hi ht hex ht' hJ hA' hstable
      · have hfree : ∀ j u, p.threads[j]? = some u → j ≠ i → busy u = false := by
          intro j u hj hji
          by_contra hbusy
          exact hothers ⟨j, u, hj, hji, by simpa using hbusy⟩
        have hidle : busy t = false → Idle p.shared := by
          intro ht
          refine hp.idle fun u hu ↦ ?_
          obtain ⟨j, hj⟩ := List.getElem?_of_mem hu
          by_cases hji : j = i
          · rw [hji, hi] at hj
            cases hj
            exact ht
          · exact hfree j u hj hji
        obtain ⟨hJ, hA', hidle', hstable⟩ := hturn p i e t s' t' hp.shared hA hi hok hstep hidle
        exact hp.run hi hJ hA' hidle' hstable hfree
    | world hw => exact absurd hw (hworld _ _)

end Turns

end Machine

section Count

variable {τ : Type} {ts : List τ} {i : ℕ} {t : τ}

/-- Replacing one thread moves a count by what the two threads weigh. -/
theorem countP_set_add (p : τ → Bool) (t' : τ) (h : ts[i]? = some t) :
    (ts.set i t').countP p + (if p t then 1 else 0) =
      ts.countP p + (if p t' then 1 else 0) := by
  obtain ⟨hi, ht⟩ := List.getElem?_eq_some_iff.mp h
  rw [List.countP_set hi, ht]
  have hpos : p t = true → 0 < ts.countP p := fun hp ↦
    List.countP_pos_iff.mpr ⟨t, List.mem_of_getElem? h, hp⟩
  split_ifs with h₁ h₂
  · have := hpos h₁; omega
  · have := hpos h₁; omega
  · rfl
  · rfl

end Count

end Innovents.Lib
