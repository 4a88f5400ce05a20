import Innovents.Lib.Interleaving

namespace Innovents.Lib

/-- A call of a service as the requests it makes one after another. A request is
atomic: it changes the state, and the call goes on with what it learnt. -/
inductive Call (L ε σ χ α : Type)
  | returned (result : Except χ α)
  | request (label : L) (effect : ε → σ → σ) (next : ε → σ → Call L ε σ χ α)

namespace Call

variable {L ε σ χ α β : Type}

def bind (c : Call L ε σ χ α) (f : α → Call L ε σ χ β) : Call L ε σ χ β :=
  match c with
  | returned (.ok a) => f a
  | returned (.error x) => returned (.error x)
  | request label effect next => request label effect fun e s ↦ (next e s).bind f

instance : Monad (Call L ε σ χ) where
  pure a := returned (.ok a)
  bind := bind

/-- A request that only asks. -/
def ask (label : L) (f : ε → σ → Except χ α) : Call L ε σ χ α :=
  request label (fun _ s ↦ s) fun e s ↦ returned (f e s)

def written (r : Except χ (σ × α)) (s : σ) : σ :=
  match r with
  | .ok (s', _) => s'
  | .error _ => s

/-- A request that writes, or is refused and then changes nothing. -/
def perform (label : L) (f : ε → σ → Except χ (σ × α)) : Call L ε σ χ α :=
  request label (fun e s ↦ written (f e s) s) fun e s ↦ returned ((f e s).map Prod.snd)

/-- `try { … } catch`: what the call throws becomes a value. -/
def attempt : Call L ε σ χ α → Call L ε σ χ (Except χ α)
  | returned r => returned (.ok r)
  | request label effect next => request label effect fun e s ↦ (next e s).attempt

/-- The request a call waits for. -/
def label? : Call L ε σ χ α → Option L
  | returned _ => none
  | request label _ _ => some label

theorem exists_returned {c : Call L ε σ χ α} (h : c.label? = none) :
    ∃ r, c = .returned r := by
  cases c with
  | returned r => exact ⟨r, rfl⟩
  | request => cases h

def step (e : ε) (s : σ) : Call L ε σ χ α → Option (σ × Call L ε σ χ α)
  | returned _ => none
  | request _ effect next => some (effect e s, next e s)

@[simp] theorem bind_eq (c : Call L ε σ χ α) (f : α → Call L ε σ χ β) : c >>= f = c.bind f := rfl

@[simp] theorem pure_eq (a : α) : (pure a : Call L ε σ χ α) = returned (.ok a) := rfl

theorem bind_assoc {γ : Type} (c : Call L ε σ χ α) (f : α → Call L ε σ χ β)
    (g : β → Call L ε σ χ γ) : (c.bind f).bind g = c.bind fun a ↦ (f a).bind g := by
  induction c with
  | returned result =>
    cases result with
    | ok a => rfl
    | error x => rfl
  | request label effect next ih => simp only [bind, ih]

section Ran

variable {ok : ε → Prop} {s s' : σ} {r : Except χ α}

/-- The call runs without interruption from `s` to `s'` and then has the result `r`.
Every request gets an input of its own, all of which meet `ok`. -/
inductive Ran (ok : ε → Prop) : Call L ε σ χ α → σ → Except χ α → σ → Prop
  | returned {r : Except χ α} {s : σ} : Ran ok (.returned r) s r s
  | request {label : L} {effect : ε → σ → σ} {next : ε → σ → Call L ε σ χ α} {e : ε} {s s' : σ}
      {r : Except χ α} : ok e → Ran ok (next e s) (effect e s) r s' →
      Ran ok (.request label effect next) s r s'

theorem Ran.mono {ok' : ε → Prop} {c : Call L ε σ χ α} (h : Ran ok c s r s')
    (hok : ∀ e, ok e → ok' e) : Ran ok' c s r s' := by
  induction h with
  | returned => exact .returned
  | request he _ ih => exact .request (hok _ he) ih

/-- A call ends, whatever its requests meet. -/
theorem exists_ran {e : ε} (he : ok e) (c : Call L ε σ χ α) (s : σ) : ∃ r s', Ran ok c s r s' := by
  induction c generalizing s with
  | returned result => exact ⟨result, s, .returned⟩
  | request label effect next ih =>
    obtain ⟨r, s', hr⟩ := ih e s (effect e s)
    exact ⟨r, s', .request he hr⟩

@[simp] theorem ran_returned {result : Except χ α} :
    Ran ok (returned result : Call L ε σ χ α) s r s' ↔ r = result ∧ s' = s := by
  constructor
  · intro h
    cases h
    exact ⟨rfl, rfl⟩
  · rintro ⟨rfl, rfl⟩
    exact .returned

@[simp] theorem ran_request {label : L} {effect : ε → σ → σ} {next : ε → σ → Call L ε σ χ α} :
    Ran ok (request label effect next) s r s' ↔
      ∃ e, ok e ∧ Ran ok (next e s) (effect e s) r s' := by
  constructor
  · intro h
    cases h with
    | request he hrest => exact ⟨_, he, hrest⟩
  · rintro ⟨e, he, hrest⟩
    exact .request he hrest

theorem ran_bind {c : Call L ε σ χ α} {f : α → Call L ε σ χ β} {q : Except χ β} :
    Ran ok (c.bind f) s q s' ↔
      (∃ x, Ran ok c s (.error x) s' ∧ q = .error x) ∨
        ∃ a t, Ran ok c s (.ok a) t ∧ Ran ok (f a) t q s' := by
  induction c generalizing s with
  | returned result =>
    cases result with
    | ok a => simp [bind]
    | error x => simp [bind, and_comm]
  | request label effect next ih =>
    simp only [bind, ran_request, ih]
    constructor
    · rintro ⟨e, he, ⟨x, hx, rfl⟩ | ⟨a, t, ha, hrest⟩⟩
      · exact .inl ⟨x, ⟨e, he, hx⟩, rfl⟩
      · exact .inr ⟨a, t, ⟨e, he, ha⟩, hrest⟩
    · rintro (⟨x, ⟨e, he, hx⟩, rfl⟩ | ⟨a, t, ⟨e, he, ha⟩, hrest⟩)
      · exact ⟨e, he, .inl ⟨x, hx, rfl⟩⟩
      · exact ⟨e, he, .inr ⟨a, t, ha, hrest⟩⟩

theorem ran_ask {label : L} {f : ε → σ → Except χ α} :
    Ran ok (ask label f) s r s' ↔ ∃ e, ok e ∧ r = f e s ∧ s' = s := by
  simp [ask]

theorem ran_perform {label : L} {f : ε → σ → Except χ (σ × α)} :
    Ran ok (perform label f) s r s' ↔
      ∃ e, ok e ∧ r = (f e s).map Prod.snd ∧ s' = written (f e s) s := by
  simp [perform]

/-- A write that is refused changes nothing. -/
theorem ran_perform_error {label : L} {f : ε → σ → Except χ (σ × α)} {x : χ}
    (h : Ran ok (perform label f) s (.error x) s') : s' = s := by
  obtain ⟨e, -, hx, rfl⟩ := ran_perform.mp h
  cases hf : f e s with
  | ok q =>
    rw [hf] at hx
    cases hx
  | error y => rfl

theorem ran_attempt {c : Call L ε σ χ α} {q : Except χ (Except χ α)} :
    Ran ok c.attempt s q s' ↔ ∃ r, Ran ok c s r s' ∧ q = .ok r := by
  induction c generalizing s with
  | returned result =>
    simp only [attempt, ran_returned]
    constructor
    · rintro ⟨rfl, rfl⟩
      exact ⟨_, ⟨rfl, rfl⟩, rfl⟩
    · rintro ⟨_, ⟨rfl, rfl⟩, rfl⟩
      exact ⟨rfl, rfl⟩
  | request label effect next ih =>
    simp only [attempt, ran_request, ih]
    constructor
    · rintro ⟨e, he, r, hr, hq⟩
      exact ⟨r, ⟨e, he, hr⟩, hq⟩
    · rintro ⟨r, ⟨e, he, hr⟩, hq⟩
      exact ⟨e, he, r, hr, hq⟩

end Ran

section Returns

variable {ok : ε → Prop} {s s' : σ} {c : Call L ε σ χ α} {P Q : α → σ → Prop}

/-- A value that an uninterrupted run returns, and the state where it ends, meet `P`. -/
def Returns (ok : ε → Prop) (c : Call L ε σ χ α) (s : σ) (P : α → σ → Prop) : Prop :=
  ∀ a s', Ran ok c s (.ok a) s' → P a s'

theorem Returns.mono (h : c.Returns ok s P) (hPQ : ∀ a s, P a s → Q a s) : c.Returns ok s Q :=
  fun a s' hr ↦ hPQ a s' (h a s' hr)

theorem returns_error {x : χ} : (returned (.error x) : Call L ε σ χ α).Returns ok s P := by
  intro a s' hr
  cases hr

theorem returns_ok {a : α} (h : P a s) : (returned (.ok a) : Call L ε σ χ α).Returns ok s P := by
  intro b s' hr
  cases hr
  exact h

theorem returns_bind {f : α → Call L ε σ χ β} {P : β → σ → Prop}
    (h : c.Returns ok s fun a s ↦ (f a).Returns ok s P) : (c.bind f).Returns ok s P := by
  intro b s' hr
  rcases ran_bind.mp hr with ⟨x, _, hx⟩ | ⟨a, t, ha, hr⟩
  · cases hx
  · exact h a t ha b s' hr

theorem returns_request {label : L} {effect : ε → σ → σ} {next : ε → σ → Call L ε σ χ α}
    (h : ∀ e, ok e → (next e s).Returns ok (effect e s) P) :
    (request label effect next).Returns ok s P := by
  intro a s' hr
  obtain ⟨e, he, hr⟩ := ran_request.mp hr
  exact h e he a s' hr

theorem returns_ask {label : L} {f : ε → σ → Except χ α}
    (h : ∀ e a, ok e → f e s = .ok a → P a s) : (ask label f).Returns ok s P := by
  intro a s' hr
  obtain ⟨e, he, ha, rfl⟩ := ran_ask.mp hr
  exact h e a he ha.symm

theorem returns_perform {label : L} {f : ε → σ → Except χ (σ × α)}
    (h : ∀ e s' a, ok e → f e s = .ok (s', a) → P a s') : (perform label f).Returns ok s P := by
  intro a s' hr
  obtain ⟨e, he, ha, rfl⟩ := ran_perform.mp hr
  cases hf : f e s with
  | error x =>
    rw [hf] at ha
    cases ha
  | ok q =>
    rw [hf] at ha
    cases ha
    exact h e q.1 q.2 he hf

end Returns

section Each

variable {G H : L → σ → σ → Prop}

/-- Every request of the call changes the state as `G` allows for its label. -/
def Each (G : L → σ → σ → Prop) : Call L ε σ χ α → Prop
  | returned _ => True
  | request label effect next => ∀ e s, G label s (effect e s) ∧ (next e s).Each G

theorem Each.mono {c : Call L ε σ χ α} (h : c.Each G) (hGH : ∀ l s s', G l s s' → H l s s') :
    c.Each H := by
  induction c with
  | returned => trivial
  | request label effect next ih =>
    intro e s
    exact ⟨hGH _ _ _ (h e s).1, ih e s (h e s).2⟩

theorem each_bind {c : Call L ε σ χ α} {f : α → Call L ε σ χ β} (hc : c.Each G)
    (hf : ∀ a, (f a).Each G) : (c.bind f).Each G := by
  induction c with
  | returned result =>
    cases result with
    | ok a => exact hf a
    | error x => trivial
  | request label effect next ih =>
    intro e s
    exact ⟨(hc e s).1, ih e s (hc e s).2⟩

theorem each_ask {label : L} {f : ε → σ → Except χ α} (hG : ∀ s, G label s s) :
    (ask label f).Each G := fun _ s ↦ ⟨hG s, trivial⟩

theorem each_perform {label : L} {f : ε → σ → Except χ (σ × α)} (hG : ∀ s, G label s s)
    (hf : ∀ e s s' a, f e s = .ok (s', a) → G label s s') : (perform label f).Each G := by
  intro e s
  refine ⟨?_, trivial⟩
  show G label s (written (f e s) s)
  cases h : f e s with
  | ok q => exact hf e s q.1 q.2 h
  | error x => exact hG s

theorem each_attempt {c : Call L ε σ χ α} (hc : c.Each G) : c.attempt.Each G := by
  induction c with
  | returned => trivial
  | request label effect next ih =>
    intro e s
    exact ⟨(hc e s).1, ih e s (hc e s).2⟩

theorem Each.step {c c' : Call L ε σ χ α} {e : ε} {s s' : σ} (h : c.Each G)
    (hs : c.step e s = some (s', c')) :
    (∃ label, c.label? = some label ∧ G label s s') ∧ c'.Each G := by
  cases c with
  | returned => cases hs
  | request label effect next =>
    cases hs
    exact ⟨⟨label, rfl, (h e s).1⟩, (h e s).2⟩

/-- What the requests of a call preserve, its uninterrupted run preserves. -/
theorem Each.ran {c : Call L ε σ χ α} {ok : ε → Prop} {s s' : σ} {r : Except χ α} {J : σ → Prop}
    (h : c.Each G) (hJ : ∀ l s s', J s → G l s s' → J s') (hr : Ran ok c s r s') (hs : J s) :
    J s' := by
  induction hr with
  | returned => exact hs
  | request _ _ ih => exact ih (h _ _).2 (hJ _ _ _ hs (h _ _).1)

/-- What the requests of a call preserve is there afterwards. -/
theorem returns_each {G : L → σ → σ → Prop} {J : σ → Prop} {c : Call L ε σ χ α} {ok : ε → Prop}
    {s : σ} (hc : c.Each G) (hJ : ∀ l s s', J s → G l s s' → J s') (hs : J s) :
    c.Returns ok s fun _ ↦ J :=
  fun _ _ hr ↦ hc.ran hJ hr hs

end Each

/-- Calls that run side by side. -/
def pool (start : Call L ε σ χ α → Prop) : Machine σ (Call L ε σ χ α) ε where
  start := start
  step := step
  world _ _ := False

/-- Where an uninterrupted call ends, if the inputs suffice. -/
def finish : List ε → σ → Call L ε σ χ α → Option σ
  | _, s, returned _ => some s
  | [], _, request _ _ _ => none
  | e :: es, s, request _ effect next => finish es (effect e s) (next e s)

theorem ran_of_finish {ok : ε → Prop} {es : List ε} {c : Call L ε σ χ α} {s s' : σ}
    (hok : ∀ e ∈ es, ok e) (h : finish es s c = some s') : ∃ r, Ran ok c s r s' := by
  induction es generalizing s c with
  | nil =>
    cases c with
    | returned result =>
      cases h
      exact ⟨result, .returned⟩
    | request label effect next => cases h
  | cons e es ih =>
    cases c with
    | returned result =>
      cases h
      exact ⟨result, .returned⟩
    | request label effect next =>
      obtain ⟨r, hr⟩ := ih (fun e' he' ↦ hok e' (by simp [he'])) h
      exact ⟨r, .request (hok e (by simp)) hr⟩

/-- Where an uninterrupted call ends and what it returns, if the inputs suffice. -/
def outcome : List ε → σ → Call L ε σ χ α → Option (Except χ α × σ)
  | _, s, returned r => some (r, s)
  | [], _, request _ _ _ => none
  | e :: es, s, request _ effect next => outcome es (effect e s) (next e s)

theorem ran_of_outcome {ok : ε → Prop} {es : List ε} {c : Call L ε σ χ α} {s s' : σ}
    {r : Except χ α} (hok : ∀ e ∈ es, ok e) (h : outcome es s c = some (r, s')) :
    Ran ok c s r s' := by
  induction es generalizing s c with
  | nil =>
    cases c with
    | returned result =>
      cases h
      exact .returned
    | request label effect next => cases h
  | cons e es ih =>
    cases c with
    | returned result =>
      cases h
      exact .returned
    | request label effect next =>
      exact .request (hok e (by simp)) (ih (fun e' he' ↦ hok e' (by simp [he'])) h)

/-- A test that an evaluated call passes holds of a value that the call returns. -/
theorem exists_ran_of_outcome {es : List ε} {c : Call L ε σ χ α} {s : σ} {p : α → Bool}
    (h : (outcome es s c).any (fun q ↦ q.1.toOption.any p) = true) :
    ∃ a s', Ran (fun _ ↦ True) c s (.ok a) s' ∧ p a = true := by
  obtain ⟨⟨r, s'⟩, hran, hr⟩ := (Option.any_eq_true ..).mp h
  cases r with
  | ok a => exact ⟨a, s', ran_of_outcome (fun _ _ ↦ trivial) hran, hr⟩
  | error x => cases hr

@[simp] theorem outcome_returned {es : List ε} {s : σ} {r : Except χ α} :
    outcome es s (returned r : Call L ε σ χ α) = some (r, s) := by
  cases es <;> rfl

theorem outcome_ask_bind {label : L} {f : ε → σ → Except χ α} {g : α → Call L ε σ χ β} {e : ε}
    {es : List ε} {s : σ} :
    outcome (e :: es) s ((ask label f).bind g) = outcome es s ((returned (f e s)).bind g) := rfl

theorem outcome_perform_bind {label : L} {f : ε → σ → Except χ (σ × α)} {g : α → Call L ε σ χ β}
    {e : ε} {es : List ε} {s : σ} :
    outcome (e :: es) s ((perform label f).bind g) =
      outcome es (written (f e s) s) ((returned ((f e s).map Prod.snd)).bind g) := rfl

/-- A value that a call returns is what its first part makes possible. -/
theorem outcome_bind_ok {r : Except χ α} {g : α → Call L ε σ χ β} {es : List ε} {s s' : σ} {b : β}
    (h : outcome es s ((returned r).bind g) = some (.ok b, s')) :
    ∃ a, r = .ok a ∧ outcome es s (g a) = some (.ok b, s') := by
  cases r with
  | ok a => exact ⟨a, rfl, h⟩
  | error x =>
    rw [bind, outcome_returned] at h
    cases h

/-- Where an uninterrupted call ends and what it returns, when each request gets the input of its
label. -/
def answered (inputs : L → ε) (s : σ) : Call L ε σ χ α → Except χ α × σ
  | returned r => (r, s)
  | request label effect next => answered inputs (effect (inputs label) s) (next (inputs label) s)

theorem answered_bind {inputs : L → ε} {s : σ} {c : Call L ε σ χ α} {f : α → Call L ε σ χ β} :
    answered inputs s (c.bind f) = match answered inputs s c with
      | (.ok a, s') => answered inputs s' (f a)
      | (.error x, s') => (.error x, s') := by
  induction c generalizing s with
  | returned r => cases r <;> rfl
  | request label effect next ih => exact ih _ _

end Call

end Innovents.Lib
