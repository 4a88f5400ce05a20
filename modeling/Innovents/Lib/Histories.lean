import Innovents.Lib.Call

namespace Innovents.Lib

variable {ω L ε σ χ α β : Type}

/-- The requests that a call has made so far, each with the state before and after it. -/
abbrev History (L σ : Type) := List (L × σ × σ)

/-- The state in which a call made its first request. -/
def History.first (history : History L σ) : Option σ :=
  history.head?.map fun event ↦ event.2.1

/-- The state that the latest request has left. -/
def History.last (history : History L σ) : Option σ :=
  history.getLast?.map fun event ↦ event.2.2

@[simp] theorem History.last_concat {history : History L σ} {l : L} {a b : σ} :
    History.last (history ++ [(l, a, b)]) = some b := by
  rw [last, List.getLast?_append, List.getLast?_singleton, Option.some_or, Option.map_some]

theorem History.first_of_prefix {l : L} {s s' : σ} {history : History L σ}
    (h : [(l, s, s')] <+: history) : history.first = some s := by
  obtain ⟨rest, rfl⟩ := h
  rfl

/-- What a history has done to a part of the state. -/
def History.seen {τ : Type} (view : τ → σ) (history : History L τ) : History L σ :=
  history.map fun event ↦ (event.1, view event.2.1, view event.2.2)

theorem History.seen_concat {τ : Type} {view : τ → σ} {history : History L τ} {l : L} {a b : τ} :
    History.seen view (history ++ [(l, a, b)]) = history.seen view ++ [(l, view a, view b)] := by
  rw [seen, List.map_append]
  rfl

theorem History.seen_last {τ : Type} {view : τ → σ} {history : History L τ} :
    (history.seen view).last = history.last.map view := by
  rw [seen, last, last, List.getLast?_map, Option.map_map, Option.map_map]
  rfl

/-- A call that carries out an operation, with its history. -/
structure Task (ω L ε σ χ α : Type) where
  op : ω
  history : History L σ
  call : Call L ε σ χ α

namespace Task

def step (e : ε) (s : σ) (t : Task ω L ε σ χ α) : Option (σ × Task ω L ε σ χ α) :=
  match t.call with
  | .returned _ => none
  | .request label effect next =>
    some (effect e s, ⟨t.op, t.history ++ [(label, s, effect e s)], next e s⟩)

theorem step_eq {t t' : Task ω L ε σ χ α} {e : ε} {s s' : σ} (h : t.step e s = some (s', t')) :
    ∃ label, t.call.label? = some label ∧ t.call.step e s = some (s', t'.call) ∧ t'.op = t.op ∧
      t'.history = t.history ++ [(label, s, s')] := by
  obtain ⟨op, history, call⟩ := t
  cases call with
  | returned r => cases h
  | request label effect next =>
    cases h
    exact ⟨label, rfl, rfl, rfl, rfl⟩

end Task

/-- Operations that are carried out side by side. -/
def tasks (program : ω → Call L ε σ χ α) : Machine σ (Task ω L ε σ χ α) ε where
  start t := ∃ op, t = ⟨op, [], program op⟩
  step := Task.step
  world _ _ := False

/-- The request that is made meets `ok`, which may depend on the operation, its history and the
state. -/
def Heeding (ok : ω → History L σ → L → σ → Prop) (p : Pool σ (Task ω L ε σ χ α)) :
    Move (Task ω L ε σ χ α) ε → Prop
  | .run i _ => ∀ t label, p.threads[i]? = some t → t.call.label? = some label →
    ok t.op t.history label p.shared
  | _ => True

namespace Call

variable {J : σ → Prop} {ok : History L σ → L → σ → Prop} {G : L → σ → σ → Prop}
  {post post' : History L σ → α → Prop} {c : Call L ε σ χ α} {history : History L σ}

/-- The requests that meet `ok` keep `J` and change the state by `G`, and a value that the call
returns meets `post` together with its history. -/
def Heeds (J : σ → Prop) (ok : History L σ → L → σ → Prop) (G : L → σ → σ → Prop)
    (post : History L σ → α → Prop) : History L σ → Call L ε σ χ α → Prop
  | history, returned (.ok a) => post history a
  | _, returned (.error _) => True
  | history, request label effect next => ∀ e s, J s → ok history label s →
    J (effect e s) ∧ G label s (effect e s) ∧
      Heeds J ok G post (history ++ [(label, s, effect e s)]) (next e s)

theorem Heeds.mono (h : c.Heeds J ok G post history)
    (hpost : ∀ history a, post history a → post' history a) : c.Heeds J ok G post' history := by
  induction c generalizing history with
  | returned r =>
    cases r with
    | ok a => exact hpost history a h
    | error x => trivial
  | request label effect next ih =>
    intro e s hs hok
    obtain ⟨hJ, hG, hnext⟩ := h e s hs hok
    exact ⟨hJ, hG, ih e s hnext⟩

theorem Heeds.weaken {ok' : History L σ → L → σ → Prop} {G' : L → σ → σ → Prop}
    (h : c.Heeds J ok G post history) (hok : ∀ history l s, ok' history l s → ok history l s)
    (hG : ∀ l s s', G l s s' → G' l s s') : c.Heeds J ok' G' post history := by
  induction c generalizing history with
  | returned r => cases r <;> exact h
  | request label effect next ih =>
    intro e s hs hmeets
    obtain ⟨hJ, hG', hnext⟩ := h e s hs (hok _ _ _ hmeets)
    exact ⟨hJ, hG _ _ _ hG', ih e s hnext⟩

theorem Heeds.and (h : c.Heeds J ok G post history) (h' : c.Heeds J ok G post' history) :
    c.Heeds J ok G (fun history a ↦ post history a ∧ post' history a) history := by
  induction c generalizing history with
  | returned r =>
    cases r with
    | ok a => exact ⟨h, h'⟩
    | error x => trivial
  | request label effect next ih =>
    intro e s hs hok
    obtain ⟨hJ, hG, hnext⟩ := h e s hs hok
    exact ⟨hJ, hG, ih e s hnext (h' e s hs hok).2.2⟩

theorem heeds_attempt (h : c.Heeds J ok G post history) :
    c.attempt.Heeds J ok G (fun _ _ ↦ True) history := by
  induction c generalizing history with
  | returned => trivial
  | request label effect next ih =>
    intro e s hs hok
    obtain ⟨hJ, hG, hnext⟩ := h e s hs hok
    exact ⟨hJ, hG, ih e s hnext⟩

theorem heeds_bind {f : α → Call L ε σ χ β} {post : History L σ → β → Prop}
    (h : c.Heeds J ok G (fun history a ↦ (f a).Heeds J ok G post history) history) :
    (c.bind f).Heeds J ok G post history := by
  induction c generalizing history with
  | returned r =>
    cases r with
    | ok a => exact h
    | error x => trivial
  | request label effect next ih =>
    intro e s hs hok
    obtain ⟨hJ, hG, hnext⟩ := h e s hs hok
    exact ⟨hJ, hG, ih e s hnext⟩

theorem heeds_ask {label : L} {f : ε → σ → Except χ α} (hG : ∀ s, G label s s)
    (h : ∀ e s a, J s → ok history label s → f e s = .ok a →
      post (history ++ [(label, s, s)]) a) : (ask label f).Heeds J ok G post history := by
  refine fun e s hs hok ↦ ⟨hs, hG s, ?_⟩
  dsimp only
  cases hf : f e s with
  | ok a => exact h e s a hs hok hf
  | error x => trivial

theorem heeds_perform {label : L} {f : ε → σ → Except χ (σ × α)} (hG : ∀ s, G label s s)
    (h : ∀ e s s' a, J s → ok history label s → f e s = .ok (s', a) →
      J s' ∧ G label s s' ∧ post (history ++ [(label, s, s')]) a) :
    (perform label f).Heeds J ok G post history := by
  intro e s hs hok
  dsimp only
  cases hf : f e s with
  | ok q => exact h e s q.1 q.2 hs hok hf
  | error x => exact ⟨hs, hG s, trivial⟩

/-- A call only adds to its history. -/
theorem Heeds.grows (h : c.Heeds J ok G post history) :
    c.Heeds J ok G (fun history' a ↦ history <+: history' ∧ post history' a) history := by
  induction c generalizing history with
  | returned r =>
    cases r with
    | ok a => exact ⟨List.prefix_rfl, h⟩
    | error x => trivial
  | request label effect next ih =>
    intro e s hs hok
    obtain ⟨hJ, hG, hnext⟩ := h e s hs hok
    refine ⟨hJ, hG, (ih e s hnext).mono fun history' a ⟨hearlier, ha⟩ ↦ ⟨?_, ha⟩⟩
    exact (List.prefix_append history _).trans hearlier

/-- A part whose requests need no condition. -/
theorem heeds_each {H : L → σ → σ → Prop} (hc : c.Each H)
    (hJ : ∀ l s s', J s → H l s s' → J s') (hG : ∀ l s s', J s → H l s s' → G l s s') :
    c.Heeds J ok G (fun _ _ ↦ True) history := by
  induction c generalizing history with
  | returned r => cases r <;> trivial
  | request label effect next ih =>
    exact fun e s hs _ ↦ ⟨hJ label s _ hs (hc e s).1, hG label s _ hs (hc e s).1, ih e s (hc e s).2⟩

/-- What each request keeps under its condition, a part keeps whose requests meet the conditions. -/
theorem heeds_guarded {ok : L → σ → Prop} (hc : c.Each fun l s s' ↦ ok l s → J s → J s') :
    c.Heeds J (fun _ ↦ ok) (fun _ _ _ ↦ True) (fun _ _ ↦ True) history := by
  induction c generalizing history with
  | returned r => cases r <;> trivial
  | request label effect next ih =>
    exact fun e s hs hok ↦ ⟨(hc e s).1 hok hs, trivial, ih e s (hc e s).2⟩

section Ends

variable {post : History L σ → Except χ α → Prop}

/-- As `Heeds`, with what the history has been when the call fails. -/
abbrev Ends (J : σ → Prop) (ok : History L σ → L → σ → Prop) (G : L → σ → σ → Prop)
    (post : History L σ → Except χ α → Prop) (history : History L σ) (c : Call L ε σ χ α) : Prop :=
  c.attempt.Heeds J ok G post history

theorem ends_pure {a : α} (h : post history (.ok a)) :
    (pure a : Call L ε σ χ α).Ends J ok G post history := h

theorem ends_bind {f : α → Call L ε σ χ β} {post : History L σ → Except χ β → Prop}
    (h : c.Ends J ok G (fun history r ↦ match r with
      | .ok a => (f a).Ends J ok G post history
      | .error x => post history (.error x)) history) : (c.bind f).Ends J ok G post history := by
  induction c generalizing history with
  | returned r =>
    cases r with
    | ok a => exact h
    | error x => exact h
  | request label effect next ih =>
    intro e s hs hok
    obtain ⟨hJ, hG, hnext⟩ := h e s hs hok
    exact ⟨hJ, hG, ih e s hnext⟩

theorem ends_ask {label : L} {f : ε → σ → Except χ α} (hG : ∀ s, G label s s)
    (h : ∀ e s, J s → ok history label s → post (history ++ [(label, s, s)]) (f e s)) :
    (ask label f).Ends J ok G post history :=
  fun e s hs hok ↦ ⟨hs, hG s, h e s hs hok⟩

theorem ends_perform {label : L} {f : ε → σ → Except χ (σ × α)} (hG : ∀ s, G label s s)
    (herror : ∀ e s x, J s → ok history label s → f e s = .error x →
      post (history ++ [(label, s, s)]) (.error x))
    (h : ∀ e s s' a, J s → ok history label s → f e s = .ok (s', a) →
      J s' ∧ G label s s' ∧ post (history ++ [(label, s, s')]) (.ok a)) :
    (perform label f).Ends J ok G post history := by
  intro e s hs hok
  dsimp only
  cases hf : f e s with
  | ok q => exact h e s q.1 q.2 hs hok hf
  | error x => exact ⟨hs, hG s, herror e s x hs hok hf⟩

end Ends

theorem Heeds.step {c' : Call L ε σ χ α} {label : L} {e : ε} {s s' : σ}
    (h : c.Heeds J ok G post history) (hlabel : c.label? = some label)
    (hstep : c.step e s = some (s', c')) (hs : J s) (hok : ok history label s) :
    J s' ∧ G label s s' ∧ c'.Heeds J ok G post (history ++ [(label, s, s')]) := by
  cases c with
  | returned r => cases hstep
  | request label' effect next =>
    cases hstep
    cases hlabel
    exact h e s hs hok

end Call

section Runs

variable {program : ω → Call L ε σ χ α} {J : σ → Prop} {ok : ω → History L σ → L → σ → Prop}
  {G : ω → L → σ → σ → Prop} {post : ω → History L σ → α → Prop}
  {p q : Pool σ (Task ω L ε σ χ α)} {m : Move (Task ω L ε σ χ α) ε}

/-- The tasks heed their conditions, and `J` holds. -/
structure Heedful (J : σ → Prop) (ok : ω → History L σ → L → σ → Prop) (G : ω → L → σ → σ → Prop)
    (post : ω → History L σ → α → Prop) (p : Pool σ (Task ω L ε σ χ α)) : Prop where
  shared : J p.shared
  threads : ∀ t ∈ p.threads, t.call.Heeds J (ok t.op) (G t.op) (post t.op) t.history

/-- What a move does to heedful tasks: a task is added, or one of them goes on. -/
inductive Moved (program : ω → Call L ε σ χ α) (G : ω → L → σ → σ → Prop)
    (ok : ω → History L σ → L → σ → Prop) (p q : Pool σ (Task ω L ε σ χ α)) : Prop
  | spawned (op : ω) : q.shared = p.shared → q.threads = p.threads ++ [⟨op, [], program op⟩] →
      Moved program G ok p q
  | ran (i : ℕ) (t t' : Task ω L ε σ χ α) (label : L) : p.threads[i]? = some t →
      ok t.op t.history label p.shared → G t.op label p.shared q.shared → t'.op = t.op →
      t'.history = t.history ++ [(label, p.shared, q.shared)] → t' ∈ q.threads →
      q.threads = p.threads.set i t' → (∃ e, t.call.step e p.shared = some (q.shared, t'.call)) →
      Moved program G ok p q

theorem Heedful.step (hp : Heedful J ok G post p)
    (hprogram : ∀ op, (program op).Heeds J (ok op) (G op) (post op) [])
    (hok : Heeding ok p m) (hs : (tasks program).Step p m q) :
    Heedful J ok G post q ∧ Moved program G ok p q := by
  cases hs with
  | @spawn t ht =>
    obtain ⟨op, rfl⟩ := ht
    refine ⟨⟨hp.shared, fun u hu ↦ ?_⟩, .spawned op rfl rfl⟩
    rcases List.mem_append.mp hu with hm | hm
    · exact hp.threads u hm
    · rw [List.mem_singleton.mp hm]
      exact hprogram op
  | @run i e t t' s' hi hstep =>
    obtain ⟨label, hlabel, hcall, hop, hhistory⟩ := Task.step_eq hstep
    have hmeets := hok t label hi hlabel
    obtain ⟨hJ, hG, hrest⟩ :=
      (hp.threads t (List.mem_of_getElem? hi)).step hlabel hcall hp.shared hmeets
    have hmem : t' ∈ p.threads.set i t' :=
      List.mem_of_getElem? (List.getElem?_set_self (List.getElem?_eq_some_iff.mp hi).1)
    refine ⟨⟨hJ, fun u hu ↦ ?_⟩, .ran i t t' label hi hmeets hG hop hhistory hmem rfl ⟨e, hcall⟩⟩
    rcases List.mem_or_eq_of_mem_set hu with hm | rfl
    · exact hp.threads u hm
    · rw [hop, hhistory]
      exact hrest
  | world hw => exact hw.elim

/-- What a run does to the task that makes its next request. -/
theorem tasks_run {i : ℕ} {e : ε} {t t' : Task ω L ε σ χ α}
    (hs : (tasks program).Step p (.run i e) q) (ht : p.threads[i]? = some t)
    (ht' : q.threads[i]? = some t') : ∃ label, t.call.label? = some label ∧
      t.call.step e p.shared = some (q.shared, t'.call) ∧ t'.op = t.op ∧
        t'.history = t.history ++ [(label, p.shared, q.shared)] := by
  cases hs with
  | @run i e u u' s' hi hstep =>
    cases ht.symm.trans hi
    rw [List.getElem?_set_self (List.getElem?_eq_some_iff.mp hi).1] at ht'
    cases ht'
    exact Task.step_eq hstep

theorem Heedful.run {i : ℕ} {e : ε} {t t' : Task ω L ε σ χ α} (hp : Heedful J ok G post p)
    (hok : Heeding ok p (.run i e)) (hs : (tasks program).Step p (.run i e) q)
    (ht : p.threads[i]? = some t) (ht' : q.threads[i]? = some t') : t'.op = t.op ∧
      ∃ label, t.call.label? = some label ∧ ok t.op t.history label p.shared ∧
        G t.op label p.shared q.shared ∧
          t'.call.Heeds J (ok t.op) (G t.op) (post t.op)
            (t.history ++ [(label, p.shared, q.shared)]) := by
  obtain ⟨label, hlabel, hcall, hop, -⟩ := tasks_run hs ht ht'
  have hmeets := hok t label ht hlabel
  obtain ⟨-, hG, hrest⟩ :=
    (hp.threads t (List.mem_of_getElem? ht)).step hlabel hcall hp.shared hmeets
  exact ⟨hop, label, hlabel, hmeets, hG, hrest⟩

/-- Programs that heed their conditions keep `J` in every run that meets them, and so does what
their moves keep besides. -/
theorem heedful_reach {I : Pool σ (Task ω L ε σ χ α) → Prop}
    {init : Pool σ (Task ω L ε σ χ α) → Prop}
    (hprogram : ∀ op, (program op).Heeds J (ok op) (G op) (post op) [])
    (hinit : ∀ p, init p → Heedful J ok G post p ∧ I p)
    (hmove : ∀ p q, Heedful J ok G post p → Heedful J ok G post q → I p → Moved program G ok p q →
      I q)
    (h : Reach (tasks program).Step (Heeding ok) init p) : Heedful J ok G post p ∧ I p := by
  refine h.invariant hinit fun p m q ⟨hp, hI⟩ hok hs ↦ ?_
  obtain ⟨hq, hmoved⟩ := hp.step hprogram hok hs
  exact ⟨hq, hmove p q hp hq hI hmoved⟩

/-- The same in every run whose requests meet the conditions. -/
theorem guarded_reach {ok : ω → L → σ → Prop} {init : Pool σ (Task ω L ε σ χ α) → Prop}
    (hprogram : ∀ op, (program op).Each fun l s s' ↦ ok op l s → J s → J s')
    (hinit : ∀ p, init p → p.threads = [] ∧ J p.shared)
    (h : Reach (tasks program).Step (Heeding fun op _ ↦ ok op) init p) : J p.shared := by
  refine (heedful_reach (I := fun _ ↦ True) (fun op ↦ Call.heeds_guarded (hprogram op))
    (fun p hp ↦ ⟨⟨(hinit p hp).2, ?_⟩, trivial⟩) (fun _ _ _ _ _ _ ↦ trivial) h).1.shared
  simp [(hinit p hp).1]

/-- What the requests of all calls lead to, which meet their conditions, a run leads to. -/
theorem guarded_stays {ok : ω → L → σ → Prop} {R : σ → σ → Prop}
    {init : Pool σ (Task ω L ε σ χ α) → Prop} (hrefl : ∀ s, R s s)
    (htrans : ∀ a b c, R a b → R b c → R a c)
    (hprogram : ∀ op, (program op).Each fun l s s' ↦ ok op l s → R s s')
    (hinit : ∀ p, init p → p.threads = [])
    (h : Reach (tasks program).Step (Heeding fun op _ ↦ ok op) init p)
    (hq : Reach (tasks program).Step (Heeding fun op _ ↦ ok op) (fun u ↦ u = p) q) :
    R p.shared q.shared := by
  let guarded (p : Pool σ (Task ω L ε σ χ α)) : Prop :=
    ∀ t ∈ p.threads, t.call.Each fun l s s' ↦ ok t.op l s → R s s'
  have hstep : ∀ (p : Pool σ (Task ω L ε σ χ α)) m q, guarded p → Heeding (fun op _ ↦ ok op) p m →
      (tasks program).Step p m q → guarded q ∧ R p.shared q.shared := by
    intro p m q hp hok hs
    cases hs with
    | @spawn t ht =>
      obtain ⟨op, rfl⟩ := ht
      refine ⟨fun u hu ↦ ?_, hrefl p.shared⟩
      rcases List.mem_append.mp hu with hm | hm
      · exact hp u hm
      · rw [List.mem_singleton.mp hm]
        exact hprogram op
    | @run i e t t' s' hi hstep =>
      obtain ⟨label, hlabel, hcall, hop, -⟩ := Task.step_eq hstep
      obtain ⟨⟨label', hlabel', hR⟩, hrest⟩ := (hp t (List.mem_of_getElem? hi)).step hcall
      cases hlabel.symm.trans hlabel'
      refine ⟨fun u hu ↦ ?_, hR (hok t label hi hlabel)⟩
      rcases List.mem_or_eq_of_mem_set hu with hm | rfl
      · exact hp u hm
      · rw [hop]
        exact hrest
    | world hw => exact hw.elim
  have hp : guarded p := by
    refine h.invariant (fun p hp ↦ ?_) fun p m q hp hok hs ↦ (hstep p m q hp hok hs).1
    simp [guarded, hinit p hp]
  refine (hq.invariant (I := fun q ↦ guarded q ∧ R p.shared q.shared) ?_ ?_).2
  · rintro _ rfl
    exact ⟨hp, hrefl _⟩
  · intro u m v hu hok hs
    obtain ⟨hv, hR⟩ := hstep u m v hu.1 hok hs
    exact ⟨hv, htrans _ _ _ hu.2 hR⟩

/-- What every request keeps holds between the states of a history and the present. -/
structure Remembered (R : σ → σ → Prop) (p : Pool σ (Task ω L ε σ χ α)) : Prop where
  history : ∀ t ∈ p.threads, ∀ event ∈ t.history, R event.2.2 p.shared
  calls : ∀ t ∈ p.threads, t.call.Each fun _ ↦ R

theorem Remembered.step {R : σ → σ → Prop} (hrefl : ∀ s, R s s)
    (htrans : ∀ a b c, R a b → R b c → R a c) (hprogram : ∀ op, (program op).Each fun _ ↦ R)
    (hp : Remembered R p) (hs : (tasks program).Step p m q) : Remembered R q := by
  cases hs with
  | @spawn t ht =>
    obtain ⟨op, rfl⟩ := ht
    constructor
    · intro u hu event hevent
      rcases List.mem_append.mp hu with hm | hm
      · exact hp.history u hm event hevent
      · rw [List.mem_singleton.mp hm] at hevent
        cases hevent
    · intro u hu
      rcases List.mem_append.mp hu with hm | hm
      · exact hp.calls u hm
      · rw [List.mem_singleton.mp hm]
        exact hprogram op
  | @run i e t t' s' hi hstep =>
    obtain ⟨label, -, hcall, -, hhistory⟩ := Task.step_eq hstep
    have hmem := List.mem_of_getElem? hi
    obtain ⟨⟨_, -, hR⟩, hrest⟩ := (hp.calls t hmem).step hcall
    constructor
    · intro u hu event hevent
      rcases List.mem_or_eq_of_mem_set hu with hm | rfl
      · exact htrans _ _ _ (hp.history u hm event hevent) hR
      · rw [hhistory] at hevent
        rcases List.mem_append.mp hevent with hevent | hevent
        · exact htrans _ _ _ (hp.history t hmem event hevent) hR
        · rw [List.mem_singleton.mp hevent]
          exact hrefl s'
    · intro u hu
      rcases List.mem_or_eq_of_mem_set hu with hm | rfl
      · exact hp.calls u hm
      · exact hrest
  | world hw => exact hw.elim

theorem Remembered.shared {R : σ → σ → Prop} (hrefl : ∀ s, R s s) (hp : Remembered R p)
    (hs : (tasks program).Step p m q) : R p.shared q.shared := by
  cases hs with
  | spawn => exact hrefl p.shared
  | @run i e t t' s' hi hstep =>
    obtain ⟨label, -, hcall, -⟩ := Task.step_eq hstep
    obtain ⟨⟨_, -, hR⟩, -⟩ := (hp.calls t (List.mem_of_getElem? hi)).step hcall
    exact hR
  | world hw => exact hw.elim

/-- A call may rely on what every request keeps since its latest one. -/
theorem Remembered.heeding {R : σ → σ → Prop} (hp : Remembered R p) (h : Heeding ok p m) :
    Heeding (fun op history l s ↦ ok op history l s ∧ ∀ s₀ ∈ history.last, R s₀ s) p m := by
  cases m with
  | run i e =>
    intro t label hi hlabel
    refine ⟨h t label hi hlabel, fun s₀ hs₀ ↦ ?_⟩
    obtain ⟨event, hevent, rfl⟩ := Option.map_eq_some_iff.mp hs₀
    exact hp.history t (List.mem_of_getElem? hi) event (List.mem_of_getLast? hevent)
  | spawn t => trivial
  | world => trivial

theorem Reach.remember {R : σ → σ → Prop} {init : Pool σ (Task ω L ε σ χ α) → Prop}
    (hrefl : ∀ s, R s s) (htrans : ∀ a b c, R a b → R b c → R a c)
    (hprogram : ∀ op, (program op).Each fun _ ↦ R) (hinit : ∀ p, init p → p.threads = [])
    (h : Reach (tasks program).Step (Heeding ok) init p) :
    Reach (tasks program).Step
      (Heeding fun op history l s ↦ ok op history l s ∧ ∀ s₀ ∈ history.last, R s₀ s) init p ∧
        Remembered R p := by
  induction h with
  | start h => exact ⟨.start h, by simp [hinit _ h], by simp [hinit _ h]⟩
  | next _ hok hs ih =>
    obtain ⟨hreach, hp⟩ := ih
    exact ⟨.next hreach (hp.heeding hok) hs, hp.step hrefl htrans hprogram hs⟩

/-- The tasks of `p` are among those of `q`, where they may have made more requests. -/
def Traced (p q : Pool σ (Task ω L ε σ χ α)) : Prop :=
  ∀ t ∈ p.threads, ∃ t' ∈ q.threads, t'.op = t.op ∧ t.history <+: t'.history

theorem Traced.refl (p : Pool σ (Task ω L ε σ χ α)) : Traced p p :=
  fun t ht ↦ ⟨t, ht, rfl, List.prefix_rfl⟩

theorem Traced.trans {p q r : Pool σ (Task ω L ε σ χ α)} (h : Traced p q) (h' : Traced q r) :
    Traced p r := by
  intro t ht
  obtain ⟨t', ht', hop, hprefix⟩ := h t ht
  obtain ⟨t'', ht'', hop', hprefix'⟩ := h' t' ht'
  exact ⟨t'', ht'', hop'.trans hop, hprefix.trans hprefix'⟩

theorem Traced.step (hs : (tasks program).Step p m q) : Traced p q := by
  cases hs with
  | spawn => exact fun t ht ↦ ⟨t, List.mem_append_left _ ht, rfl, List.prefix_rfl⟩
  | @run i e t t' s' hi hstep =>
    obtain ⟨label, -, -, hop, hhistory⟩ := Task.step_eq hstep
    intro u hu
    obtain ⟨j, hj⟩ := List.mem_iff_getElem?.mp hu
    by_cases hij : i = j
    · subst hij
      cases hi.symm.trans hj
      refine ⟨t', List.mem_of_getElem? (List.getElem?_set_self (List.getElem?_eq_some_iff.mp hi).1),
        hop, ?_⟩
      rw [hhistory]
      exact List.prefix_append _ _
    · exact ⟨u, List.mem_of_getElem? ((List.getElem?_set_ne hij).trans hj), rfl, List.prefix_rfl⟩
  | world hw => exact hw.elim

/-- In a run that leads to `p`, every request is one in the history of a task of `p`. -/
theorem Reach.traced {init : Pool σ (Task ω L ε σ χ α) → Prop}
    (h : Reach (tasks program).Step (Heeding ok) init p) :
    Reach (tasks program).Step (Heeding fun op history l s ↦ ok op history l s ∧
      ∃ t ∈ p.threads, t.op = op ∧ ∃ s', history ++ [(l, s, s')] <+: t.history) init p := by
  suffices hgen : ∀ u, Traced p u → Reach (tasks program).Step
      (Heeding fun op history l s ↦ ok op history l s ∧
        ∃ t ∈ u.threads, t.op = op ∧ ∃ s', history ++ [(l, s, s')] <+: t.history) init p from
    hgen p (Traced.refl p)
  induction h with
  | start h => exact fun u _ ↦ .start h
  | @next p q m _ hok hs ih =>
    intro u hu
    refine .next (ih u ((Traced.step hs).trans hu)) ?_ hs
    cases m with
    | run i e =>
      intro t label hi hlabel
      refine ⟨hok t label hi hlabel, ?_⟩
      cases hs with
      | @run i e t₀ t' s' hi' hstep =>
        cases hi.symm.trans hi'
        obtain ⟨label', hlabel', -, hop, hhistory⟩ := Task.step_eq hstep
        cases hlabel.symm.trans hlabel'
        obtain ⟨t'', ht'', hop', hprefix⟩ := hu t'
          (List.mem_of_getElem? (List.getElem?_set_self (List.getElem?_eq_some_iff.mp hi).1))
        exact ⟨t'', ht'', hop'.trans hop, s', hhistory ▸ hprefix⟩
    | spawn t => trivial
    | world => trivial

/-- From a state on, a task either stays as it is or makes its latest request later. -/
theorem Remembered.later {R : σ → σ → Prop} {ok : Pool σ (Task ω L ε σ χ α) →
      Move (Task ω L ε σ χ α) ε → Prop} (hrefl : ∀ s, R s s)
    (htrans : ∀ a b c, R a b → R b c → R a c) (hprogram : ∀ op, (program op).Each fun _ ↦ R)
    (hp : Remembered R p) (h : Reach (tasks program).Step ok (fun u ↦ u = p) q) :
    R p.shared q.shared ∧ ∀ (i : ℕ) t, q.threads[i]? = some t →
      p.threads[i]? = some t ∨ ∀ s ∈ t.history.last, R p.shared s := by
  refine (h.invariant (I := fun q ↦ Remembered R q ∧ R p.shared q.shared ∧ ∀ (i : ℕ) t,
    q.threads[i]? = some t → p.threads[i]? = some t ∨ ∀ s ∈ t.history.last, R p.shared s) ?_ ?_).2
  · rintro u rfl
    exact ⟨hp, hrefl u.shared, fun i t hi ↦ .inl hi⟩
  · rintro u m v ⟨hu, hR, hthreads⟩ - hs
    have hR' := htrans _ _ _ hR (hu.shared hrefl hs)
    refine ⟨hu.step hrefl htrans hprogram hs, hR', fun j t hj ↦ ?_⟩
    cases hs with
    | @spawn t₀ ht₀ =>
      obtain ⟨op, rfl⟩ := ht₀
      rw [List.getElem?_append] at hj
      split_ifs at hj with hlt
      · exact hthreads j t hj
      · have ht := List.mem_singleton.mp (List.mem_of_getElem? hj)
        rw [ht]
        exact .inr nofun
    | @run i e t₀ t' s' hi hstep =>
      obtain ⟨label, -, -, -, hhistory⟩ := Task.step_eq hstep
      rw [List.getElem?_set] at hj
      split_ifs at hj with hij hlt
      · cases hj
        right
        intro s hs
        rw [hhistory, History.last_concat] at hs
        cases hs
        exact hR'
      · exact hthreads j t hj
    | world hw => exact hw.elim

/-- A check of the moves for a condition that can be decided. -/
def meets (ok : ω → History L σ → L → σ → Prop) [∀ op history l s, Decidable (ok op history l s)]
    (p : Pool σ (Task ω L ε σ χ α)) (i : ℕ) (_ : ε) : Bool :=
  p.threads[i]?.all fun t ↦ t.call.label?.all fun l ↦ decide (ok t.op t.history l p.shared)

theorem meets_sound [∀ op history l s, Decidable (ok op history l s)] {i : ℕ} {e : ε}
    (h : meets ok p i e = true) : Heeding ok p (.run i e) := by
  intro t label hi hlabel
  rw [meets, hi, Option.all_some, hlabel, Option.all_some] at h
  exact of_decide_eq_true h

/-- A run of operations that begin together. -/
theorem reach_tasks {init : Pool σ (Task ω L ε σ χ α) → Prop} {ops : List ω} {s : σ}
    {check : Pool σ (Task ω L ε σ χ α) → ℕ → ε → Bool} {moves : List (ℕ × ε)}
    (hcheck : ∀ p i e, check p i e = true → Heeding ok p (.run i e)) (hinit : init ⟨s, []⟩)
    (h : (tasks program).play check moves ⟨s, ops.map fun op ↦ ⟨op, [], program op⟩⟩ = some p) :
    Reach (tasks program).Step (Heeding ok) init p := by
  refine Machine.reach_play hcheck
    (Machine.reach_spawnAll (fun _ _ _ ↦ trivial) (fun t ht ↦ ?_) (.start hinit)) h
  obtain ⟨op, -, rfl⟩ := List.mem_map.mp ht
  exact ⟨op, rfl⟩

end Runs

end Innovents.Lib
