import Innovents.Lib.Requests

namespace Innovents.Lib

variable {ω L ε σ χ α β : Type}

namespace Call

/-- The result of a call that has ended. -/
def result? : Call L ε σ χ α → Option (Except χ α)
  | returned r => some r
  | request _ _ _ => none

/-- Every request meets `Q` with its input, its label, the state before and after it, and the result
of the call if the call ends with it. -/
def Answers (Q : ε → L → σ → σ → Option (Except χ α) → Prop) : Call L ε σ χ α → Prop
  | returned _ => True
  | request label effect next => ∀ e s, Q e label s (effect e s) (next e s).result? ∧
      (next e s).Answers Q

/-- The result of a part, after which `f` goes on. -/
def resumed (f : α → Call L ε σ χ β) : Option (Except χ α) → Option (Except χ β)
  | none => none
  | some (.ok a) => (f a).result?
  | some (.error x) => some (.error x)

theorem result?_eq_some {c : Call L ε σ χ α} {r : Except χ α} :
    c.result? = some r ↔ c = returned r := by
  cases c with
  | returned r' => rw [result?, Option.some_inj, returned.injEq]
  | request => exact ⟨nofun, nofun⟩

theorem result?_bind (c : Call L ε σ χ α) (f : α → Call L ε σ χ β) :
    (c.bind f).result? = resumed f c.result? := by
  cases c with
  | returned r => cases r <;> rfl
  | request => rfl

section Rules

variable {Q : ε → L → σ → σ → Option (Except χ β) → Prop} {c : Call L ε σ χ α}
  {f : α → Call L ε σ χ β} {label : L}

theorem answers_bind (hc : c.Answers fun e l s s' r ↦ Q e l s s' (resumed f r))
    (hf : ∀ a, (f a).Answers Q) : (c.bind f).Answers Q := by
  induction c with
  | returned r =>
    cases r with
    | ok a => exact hf a
    | error x => trivial
  | request label effect next ih =>
    refine fun e s ↦ ⟨?_, ih e s (hc e s).2⟩
    rw [result?_bind]
    exact (hc e s).1

theorem answers_returned {x : Except χ β} : (returned x : Call L ε σ χ β).Answers Q := trivial

theorem answers_trivial {c : Call L ε σ χ β} (hQ : ∀ e l s s' r, Q e l s s' r) : c.Answers Q := by
  induction c with
  | returned => trivial
  | request label effect next ih => exact fun e s ↦ ⟨hQ e label s _ _, ih e s⟩

theorem Answers.mono {c : Call L ε σ χ β} {Q' : ε → L → σ → σ → Option (Except χ β) → Prop}
    (hc : c.Answers Q) (h : ∀ e l s s' r, Q e l s s' r → Q' e l s s' r) : c.Answers Q' := by
  induction c with
  | returned => trivial
  | request label effect next ih => exact fun e s ↦ ⟨h e label s _ _ (hc e s).1, ih e s (hc e s).2⟩

theorem answers_each {c : Call L ε σ χ β} {G : L → σ → σ → Prop} (hc : c.Each G)
    (h : ∀ e l s s' r, G l s s' → Q e l s s' r) : c.Answers Q := by
  induction c with
  | returned => trivial
  | request label effect next ih => exact fun e s ↦ ⟨h e label s _ _ (hc e s).1, ih e s (hc e s).2⟩

theorem Answers.each {c : Call L ε σ χ β} {G : L → σ → σ → Prop} (hc : c.Answers Q)
    (h : ∀ e l s s' r, Q e l s s' r → G l s s') : c.Each G := by
  induction c with
  | returned => trivial
  | request label effect next ih => exact fun e s ↦ ⟨h e label s _ _ (hc e s).1, ih e s (hc e s).2⟩

/-- A part that only reads, where reading alone meets `Q`. -/
theorem answers_reader_bind (hc : c.Each fun _ s s' ↦ s' = s) (hQ : ∀ e l s r, Q e l s s r)
    (hf : ∀ a, (f a).Answers Q) : (c.bind f).Answers Q := by
  refine answers_bind (answers_each hc fun e l s s' r h ↦ ?_) hf
  rw [h]
  exact hQ e l s _

theorem answers_map {g : α → β}
    (hc : c.Answers fun e l s s' r ↦ Q e l s s' (r.map (Except.map g))) : (g <$> c).Answers Q := by
  have hresumed : ∀ r : Option (Except χ α),
      resumed (fun a ↦ (returned (.ok (g a)) : Call L ε σ χ β)) r = r.map (Except.map g) := by
    rintro (_ | _ | _) <;> rfl
  show (c.bind fun a ↦ returned (.ok (g a))).Answers Q
  refine answers_bind ?_ fun a ↦ answers_returned
  simpa only [hresumed] using hc

/-- A part that only reads, and with which the call does not succeed. -/
theorem answers_reading_bind (hc : c.Each fun _ s s' ↦ s' = s)
    (hQ : ∀ e l s r, (∀ b, r ≠ some (.ok b)) → Q e l s s r)
    (hrest : ∀ a b, (f a).result? ≠ some (.ok b)) (hf : ∀ a, (f a).Answers Q) :
    (c.bind f).Answers Q := by
  refine answers_bind ?_ hf
  induction c with
  | returned r => trivial
  | request label effect next ih =>
    refine fun e s ↦ ⟨?_, ih e s (hc e s).2⟩
    rw [(hc e s).1]
    refine hQ e label s _ fun b ↦ ?_
    cases (next e s).result? with
    | none => exact nofun
    | some r =>
      cases r with
      | ok a => exact hrest a b
      | error x => exact nofun

theorem answers_returned_bind {x : Except χ α} (h : ∀ a, (f a).Answers Q) :
    ((returned x : Call L ε σ χ α).bind f).Answers Q :=
  answers_bind answers_returned h

variable [Faulty ε χ]

theorem answers_writes_bind {g : ε → σ → Except χ (σ × α)}
    (hfail : ∀ e s x, Q e label s s (some (.error x)))
    (hg : ∀ e s s' a, g e s = .ok (s', a) → Q e label s s' (f a).result?)
    (hf : ∀ a, (f a).Answers Q) : ((writes label g).bind f).Answers Q := by
  refine answers_bind (fun e s ↦ ⟨?_, answers_returned⟩) hf
  dsimp only
  cases hr : (Faulty.fault e).elim (g e s) .error with
  | ok q => exact hg e s q.1 q.2 (elim_fault hr).2
  | error x => exact hfail e s x

end Rules

theorem Answers.step {Q : ε → L → σ → σ → Option (Except χ α) → Prop} {c c' : Call L ε σ χ α} {e : ε}
    {s s' : σ} (h : c.Answers Q) (hs : c.step e s = some (s', c')) :
    (∃ label, c.label? = some label ∧ Q e label s s' c'.result?) ∧ c'.Answers Q := by
  cases c with
  | returned => cases hs
  | request label effect next =>
    cases hs
    exact ⟨⟨label, rfl, (h e s).1⟩, (h e s).2⟩

end Call

section Runs

variable {program : ω → Call L ε σ χ α} {Q : ω → ε → L → σ → σ → Option (Except χ α) → Prop}
  {p q : Pool σ (Task ω L ε σ χ α)} {m : Move (Task ω L ε σ χ α) ε}

/-- The requests that the tasks have still to make meet `Q`. -/
def Answering (Q : ω → ε → L → σ → σ → Option (Except χ α) → Prop)
    (p : Pool σ (Task ω L ε σ χ α)) : Prop :=
  ∀ t ∈ p.threads, t.call.Answers (Q t.op)

theorem Answering.step (hprogram : ∀ op, (program op).Answers (Q op)) (hp : Answering Q p)
    (hs : (tasks program).Step p m q) : Answering Q q := by
  cases hs with
  | @spawn t ht =>
    obtain ⟨op, rfl⟩ := ht
    intro u hu
    rcases List.mem_append.mp hu with hm | hm
    · exact hp u hm
    · rw [List.mem_singleton.mp hm]
      exact hprogram op
  | @run i e t t' s' hi hstep =>
    obtain ⟨label, -, hcall, hop, -⟩ := Task.step_eq hstep
    intro u hu
    rcases List.mem_or_eq_of_mem_set hu with hm | rfl
    · exact hp u hm
    · rw [hop]
      exact ((hp t (List.mem_of_getElem? hi)).step hcall).2
  | world hw => exact hw.elim

theorem Reach.answering {ok : Pool σ (Task ω L ε σ χ α) → Move (Task ω L ε σ χ α) ε → Prop}
    {init : Pool σ (Task ω L ε σ χ α) → Prop} (hprogram : ∀ op, (program op).Answers (Q op))
    (hinit : ∀ p, init p → p.threads = []) (h : Reach (tasks program).Step ok init p) :
    Answering Q p := by
  refine h.invariant (fun p hp ↦ ?_) fun p m q hp _ hs ↦ hp.step hprogram hs
  simp [Answering, hinit p hp]

/-- What the request of a run achieves, and what the task then is. -/
theorem Answering.run {i : ℕ} {e : ε} {t t' : Task ω L ε σ χ α} (hp : Answering Q p)
    (hs : (tasks program).Step p (.run i e) q) (ht : p.threads[i]? = some t)
    (ht' : q.threads[i]? = some t') : t'.op = t.op ∧
      ∃ label, t.call.label? = some label ∧ Q t.op e label p.shared q.shared t'.call.result? := by
  obtain ⟨label, -, hcall, hop, -⟩ := tasks_run hs ht ht'
  exact ⟨hop, ((hp t (List.mem_of_getElem? ht)).step hcall).1⟩

/-- `R` holds between every state that a call has found and the present. -/
def Recalling (R : σ → σ → Prop) (p : Pool σ (Task ω L ε σ χ α)) : Prop :=
  ∀ t ∈ p.threads, ∀ event ∈ t.history, R event.2.1 p.shared

/-- What every request establishes, and leaves so of what was found before, the calls recall. -/
theorem Reach.recalling {R : σ → σ → Prop}
    {ok : Pool σ (Task ω L ε σ χ α) → Move (Task ω L ε σ χ α) ε → Prop}
    {init : Pool σ (Task ω L ε σ χ α) → Prop} (hprogram : ∀ op, (program op).Answers (Q op))
    (hinit : ∀ p, init p → p.threads = [])
    (hself : ∀ op e label s s' r, Q op e label s s' r → R s s')
    (hkeep : ∀ p i e op label s' r, ok p (.run i e) → Q op e label p.shared s' r →
      ∀ t ∈ p.threads, ∀ event ∈ t.history, R event.2.1 p.shared → R event.2.1 s')
    (h : Reach (tasks program).Step ok init p) :
    Reach (tasks program).Step (fun p m ↦ ok p m ∧
      Heeding (fun _ history _ s ↦ ∀ event ∈ history, R event.2.1 s) p m) init p := by
  suffices hboth : Reach (tasks program).Step (fun p m ↦ ok p m ∧
      Heeding (fun _ history _ s ↦ ∀ event ∈ history, R event.2.1 s) p m) init p ∧
        Answering Q p ∧ Recalling R p from hboth.1
  induction h with
  | start h =>
    have hnone := hinit _ h
    exact ⟨.start h, by simp [Answering, hnone], by simp [Recalling, hnone]⟩
  | @next p q m _ hok hs ih =>
    obtain ⟨hreach, hp, hrecalls⟩ := ih
    refine ⟨.next hreach ⟨hok, ?_⟩ hs, hp.step hprogram hs, ?_⟩
    · cases m with
      | run i e => exact fun t label hi _ event hevent ↦ hrecalls t (List.mem_of_getElem? hi) event hevent
      | spawn t => trivial
      | world => trivial
    · cases hs with
      | @spawn t ht =>
        obtain ⟨op, rfl⟩ := ht
        intro u hu event hevent
        rcases List.mem_append.mp hu with hm | hm
        · exact hrecalls u hm event hevent
        · rw [List.mem_singleton.mp hm] at hevent
          cases hevent
      | @run i e t t' s' hi hstep =>
        obtain ⟨label, -, hcall, -, hhistory⟩ := Task.step_eq hstep
        have hmem := List.mem_of_getElem? hi
        obtain ⟨⟨label', -, hQ⟩, -⟩ := (hp t hmem).step hcall
        have hold : ∀ u ∈ p.threads, ∀ event ∈ u.history, R event.2.1 s' := fun u hu event hevent ↦
          hkeep p i e t.op label' s' _ hok hQ u hu event hevent (hrecalls u hu event hevent)
        intro u hu event hevent
        rcases List.mem_or_eq_of_mem_set hu with hm | rfl
        · exact hold u hm event hevent
        · rw [hhistory] at hevent
          rcases List.mem_append.mp hevent with hevent | hevent
          · exact hold t hmem event hevent
          · rw [List.mem_singleton.mp hevent]
            exact hself t.op e label' p.shared s' _ hQ
      | world hw => exact hw.elim

/-- The operation `op` succeeds by the move. -/
def Succeeds (program : ω → Call L ε σ χ α) (p : Pool σ (Task ω L ε σ χ α))
    (m : Move (Task ω L ε σ χ α) ε) (q : Pool σ (Task ω L ε σ χ α)) (op : ω) : Prop :=
  (tasks program).Step p m q ∧ ∃ i e t t' a, m = .run i e ∧ p.threads[i]? = some t ∧
    q.threads[i]? = some t' ∧ t.op = op ∧ t'.call = .returned (.ok a)

/-- The listed moves leave the tasks their operations. -/
theorem play_ops {check : Pool σ (Task ω L ε σ χ α) → ℕ → ε → Bool} {moves : List (ℕ × ε)}
    (h : (tasks program).play check moves p = some q) :
    q.threads.map (·.op) = p.threads.map (·.op) := by
  induction moves generalizing p with
  | nil =>
    cases h
    rfl
  | cons move moves ih =>
    obtain ⟨i, e⟩ := move
    simp only [Machine.play] at h
    split_ifs at h
    simp only [Option.bind_eq_bind, Option.bind_eq_some_iff] at h
    obtain ⟨t, hi, ⟨s', t'⟩, hstep, hrest⟩ := h
    obtain ⟨_, -, -, hop, -⟩ := Task.step_eq hstep
    obtain ⟨hlt, rfl⟩ := List.getElem?_eq_some_iff.mp hi
    rw [ih hrest, List.map_set, hop, ← List.map_set, List.set_getElem_self hlt]

/-- A call that has ended with a value. -/
def succeeded (p : Pool σ (Task ω L ε σ χ α)) (i : ℕ) : Bool :=
  p.threads[i]?.any fun t ↦ t.call.result?.any Except.isOk

theorem succeeds_play {check : Pool σ (Task ω L ε σ χ α) → ℕ → ε → Bool} {i : ℕ} {e : ε} {op : ω}
    (h : (tasks program).play check [(i, e)] p = some q) (hop : (p.threads.map (·.op))[i]? = some op)
    (hq : succeeded q i = true) : Succeeds program p (.run i e) q op := by
  rw [List.getElem?_map, Option.map_eq_some_iff] at hop
  obtain ⟨t, ht, hop⟩ := hop
  obtain ⟨t', ht', hresult⟩ := (Option.any_eq_true ..).mp hq
  obtain ⟨r, hr, hok⟩ := (Option.any_eq_true ..).mp hresult
  cases r with
  | ok a =>
    exact ⟨Machine.step_play h, i, e, t, t', a, rfl, ht, ht', hop, Call.result?_eq_some.mp hr⟩
  | error x => cases hok

/-- How many calls with an operation that `sel` selects have succeeded. -/
def successes (sel : ω → Bool) (p : Pool σ (Task ω L ε σ χ α)) : ℕ :=
  p.threads.countP fun t ↦ sel t.op && t.call.result?.any Except.isOk

/-- A move counts the operation whose call succeeds by it. -/
theorem Answering.successes (hp : Answering Q p) (hprogram : ∀ op, (program op).result? = none)
    (hs : (tasks program).Step p m q) :
    (q.shared = p.shared ∧ ∀ sel, successes sel q = successes sel p) ∨
      ∃ op e label r, Q op e label p.shared q.shared r ∧ ∀ sel, Lib.successes sel q =
        Lib.successes sel p + if sel op && r.any Except.isOk then 1 else 0 := by
  cases hs with
  | @spawn t ht =>
    obtain ⟨op, rfl⟩ := ht
    refine .inl ⟨rfl, fun sel ↦ ?_⟩
    rw [Lib.successes, Lib.successes, List.countP_append, List.countP_singleton, hprogram op]
    simp
  | @run i e t t' s' hi hstep =>
    obtain ⟨_, -, hcall, hop, -⟩ := Task.step_eq hstep
    obtain ⟨⟨label, -, hQ⟩, -⟩ := (hp t (List.mem_of_getElem? hi)).step hcall
    refine .inr ⟨t.op, e, label, t'.call.result?, hQ, fun sel ↦ ?_⟩
    have hcount := countP_set_add (fun t ↦ sel t.op && t.call.result?.any Except.isOk) t' hi
    have hrunning : t.call.result? = none := by
      cases hc : t.call with
      | returned r =>
        rw [hc] at hcall
        cases hcall
      | request => rfl
    rw [hop, hrunning, Option.any_none, Bool.and_false] at hcount
    exact hcount
  | world hw => exact hw.elim

end Runs

end Innovents.Lib
