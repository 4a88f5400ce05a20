import Innovents.Lib.Table
import Innovents.Lib.Traces

namespace Innovents.Lib

variable {L ε σ χ α β : Type}

/-- `if (!p) throw x` -/
def demand (p : Prop) [Decidable p] (x : χ) : Except χ Unit := if p then .ok () else .error x

/-- `if (!o) throw x` -/
def present (o : Option α) (x : χ) : Except χ α :=
  match o with
  | some a => .ok a
  | none => .error x

@[simp] theorem demand_eq_ok {p : Prop} [Decidable p] {x : χ} {u : Unit} :
    demand p x = .ok u ↔ p := by
  unfold demand
  split_ifs with hp
  · exact ⟨fun _ ↦ hp, fun _ ↦ rfl⟩
  · exact ⟨nofun, fun h ↦ absurd h hp⟩

@[simp] theorem present_eq_ok {o : Option α} {x : χ} {a : α} : present o x = .ok a ↔ o = some a := by
  cases o <;> simp [present]

/-- A request may fail for a reason of its own. -/
class Faulty (ε : Type) (χ : outParam Type) where
  fault : ε → Option χ

namespace Call

section Ran

variable {ok : ε → Prop} {s s' : σ}

theorem ran_bind_ok {c : Call L ε σ χ α} {f : α → Call L ε σ χ β} {b : β} :
    Ran ok (c.bind f) s (.ok b) s' ↔ ∃ a t, Ran ok c s (.ok a) t ∧ Ran ok (f a) t (.ok b) s' := by
  rw [ran_bind]
  constructor
  · rintro (⟨x, -, hx⟩ | h)
    · cases hx
    · exact h
  · exact .inr

theorem exists_ran_bind {c : Call L ε σ χ α} {f : α → Call L ε σ χ β} {b : β} :
    (∃ s', Ran ok (c.bind f) s (.ok b) s') ↔
      ∃ a t, Ran ok c s (.ok a) t ∧ ∃ s', Ran ok (f a) t (.ok b) s' := by
  simp only [ran_bind_ok]
  constructor
  · rintro ⟨s', a, t, ha, hb⟩
    exact ⟨a, t, ha, s', hb⟩
  · rintro ⟨a, t, ha, s', hb⟩
    exact ⟨s', a, t, ha, hb⟩

theorem ran_returned_ok {x : Except χ α} {a : α} :
    Ran ok (returned x : Call L ε σ χ α) s (.ok a) s' ↔ x = .ok a ∧ s' = s := by
  rw [ran_returned, eq_comm]

/-- A check before the rest of a call. -/
theorem ran_checked_ok {x : Except χ α} {f : α → Call L ε σ χ β} {b : β} :
    Ran ok ((returned x).bind f) s (.ok b) s' ↔ ∃ a, x = .ok a ∧ Ran ok (f a) s (.ok b) s' := by
  rw [ran_bind_ok]
  simp only [ran_returned_ok]
  constructor
  · rintro ⟨a, t, ⟨hx, rfl⟩, h⟩
    exact ⟨a, hx, h⟩
  · rintro ⟨a, hx, h⟩
    exact ⟨a, s, ⟨hx, rfl⟩, h⟩

end Ran

theorem each_returned {x : Except χ α} {G : L → σ → σ → Prop} :
    (returned x : Call L ε σ χ α).Each G := trivial

theorem each_map {c : Call L ε σ χ α} {f : α → β} {G : L → σ → σ → Prop} (hc : c.Each G) :
    (f <$> c).Each G := each_bind hc fun _ ↦ each_returned

section Heeds

variable {J : σ → Prop} {ok : History L σ → L → σ → Prop} {G : L → σ → σ → Prop}
  {history : History L σ}

theorem heeds_returned {x : Except χ α} {post : History L σ → α → Prop}
    (h : ∀ a, x = .ok a → post history a) :
    (returned x : Call L ε σ χ α).Heeds J ok G post history := by
  cases x with
  | ok a => exact h a rfl
  | error x => trivial

theorem heeds_map {c : Call L ε σ χ α} {f : α → β} {post : History L σ → β → Prop}
    (h : c.Heeds J ok G (fun history a ↦ post history (f a)) history) :
    (f <$> c).Heeds J ok G post history := heeds_bind h

/-- A part that only reads. -/
theorem heeds_reader {c : Call L ε σ χ α} (hc : c.Each fun _ s s' ↦ s' = s)
    (hG : ∀ l s, G l s s) : c.Heeds J ok G (fun _ _ ↦ True) history := by
  refine heeds_each hc (fun _ s s' hs h ↦ ?_) fun l s s' _ h ↦ ?_
  · rwa [h]
  · rw [h]
    exact hG l s

theorem traces_returned {P : History L σ → L → ε → σ → σ → Prop} {x : Except χ α}
    {post : History L σ → α → Prop} (h : ∀ a, x = .ok a → post history a) :
    (returned x : Call L ε σ χ α).Traces P post history := by
  cases x with
  | ok a => exact h a rfl
  | error x => trivial

theorem traces_map {P : History L σ → L → ε → σ → σ → Prop} {c : Call L ε σ χ α} {f : α → β}
    {post : History L σ → β → Prop} (h : c.Traces P (fun history a ↦ post history (f a)) history) :
    (f <$> c).Traces P post history := traces_bind h

theorem ends_returned {x : Except χ α} {post : History L σ → Except χ α → Prop}
    (h : post history x) : (returned x : Call L ε σ χ α).Ends J ok G post history := h

end Heeds

variable [Faulty ε χ]

/-- A request that only reads. -/
def reads (label : L) (f : ε → σ → α) : Call L ε σ χ α :=
  ask label fun e s ↦ (Faulty.fault e).elim (.ok (f e s)) .error

/-- One statement that writes, or one transaction. -/
def writes (label : L) (f : ε → σ → Except χ (σ × α)) : Call L ε σ χ α :=
  perform label fun e s ↦ (Faulty.fault e).elim (f e s) .error

theorem elim_fault {x : Except χ α} {fault : Option χ} {a : α}
    (h : fault.elim x .error = .ok a) : fault = none ∧ x = .ok a := by
  cases fault with
  | some y => cases h
  | none => exact ⟨rfl, h⟩

section Ran

variable {ok : ε → Prop} {s s' : σ} {label : L}

theorem ran_reads_ok {f : ε → σ → α} {a : α} : Ran ok (reads label f) s (.ok a) s' ↔
    ∃ e, ok e ∧ Faulty.fault e = none ∧ f e s = a ∧ s' = s := by
  rw [reads, ran_ask]
  constructor
  · rintro ⟨e, he, ha, rfl⟩
    obtain ⟨hfault, ha⟩ := elim_fault ha.symm
    exact ⟨e, he, hfault, by simpa using ha, rfl⟩
  · rintro ⟨e, he, hfault, rfl, rfl⟩
    exact ⟨e, he, by rw [hfault, Option.elim_none], rfl⟩

theorem ran_writes_ok {f : ε → σ → Except χ (σ × α)} {a : α} :
    Ran ok (writes label f) s (.ok a) s' ↔
      ∃ e, ok e ∧ Faulty.fault e = none ∧ f e s = .ok (s', a) := by
  rw [writes, ran_perform]
  constructor
  · rintro ⟨e, he, ha, rfl⟩
    cases hf : (Faulty.fault e).elim (f e s) .error with
    | error x =>
      rw [hf] at ha
      cases ha
    | ok q =>
      rw [hf] at ha
      cases ha
      obtain ⟨hfault, hq⟩ := elim_fault hf
      exact ⟨e, he, hfault, hq⟩
  · rintro ⟨e, he, hfault, ha⟩
    exact ⟨e, he, by rw [hfault, Option.elim_none, ha]; rfl, by rw [hfault, Option.elim_none, ha]; rfl⟩

end Ran

section Each

variable {G : L → σ → σ → Prop} {label : L}

theorem each_reads {f : ε → σ → α} (hG : ∀ s, G label s s) :
    (reads label f : Call L ε σ χ α).Each G := each_ask hG

theorem each_writes {f : ε → σ → Except χ (σ × α)} (hG : ∀ s, G label s s)
    (hf : ∀ e s s' a, f e s = .ok (s', a) → G label s s') :
    (writes label f : Call L ε σ χ α).Each G :=
  each_perform hG fun e s s' a h ↦ hf e s s' a (elim_fault h).2

end Each

section Heeds

variable {J : σ → Prop} {ok : History L σ → L → σ → Prop} {G : L → σ → σ → Prop} {label : L}
  {history : History L σ}

theorem heeds_reads {f : ε → σ → α} {post : History L σ → α → Prop} (hG : ∀ s, G label s s)
    (h : ∀ e s, J s → ok history label s → post (history ++ [(label, s, s)]) (f e s)) :
    (reads label f : Call L ε σ χ α).Heeds J ok G post history := by
  refine heeds_ask hG fun e s a hs hok ha ↦ ?_
  obtain ⟨-, ha⟩ := elim_fault ha
  cases ha
  exact h e s hs hok

theorem heeds_writes {f : ε → σ → Except χ (σ × α)} {post : History L σ → α → Prop}
    (hG : ∀ s, G label s s)
    (h : ∀ e s s' a, J s → ok history label s → f e s = .ok (s', a) →
      J s' ∧ G label s s' ∧ post (history ++ [(label, s, s')]) a) :
    (writes label f : Call L ε σ χ α).Heeds J ok G post history :=
  heeds_perform hG fun e s s' a hs hok ha ↦ h e s s' a hs hok (elim_fault ha).2

theorem traces_reads {P : History L σ → L → ε → σ → σ → Prop} {f : ε → σ → α}
    {post : History L σ → α → Prop} (hP : ∀ e s, P history label e s s)
    (h : ∀ e s, post (history ++ [(label, s, s)]) (f e s)) :
    (reads label f : Call L ε σ χ α).Traces P post history := by
  refine traces_ask hP fun e s a ha ↦ ?_
  obtain ⟨-, ha⟩ := elim_fault ha
  cases ha
  exact h e s

theorem traces_writes {P : History L σ → L → ε → σ → σ → Prop} {f : ε → σ → Except χ (σ × α)}
    {post : History L σ → α → Prop} (hP : ∀ e s, P history label e s s)
    (h : ∀ e s s' a, f e s = .ok (s', a) →
      P history label e s s' ∧ post (history ++ [(label, s, s')]) a) :
    (writes label f : Call L ε σ χ α).Traces P post history :=
  traces_perform hP fun e s s' a ha ↦ h e s s' a (elim_fault ha).2

theorem ends_reads {f : ε → σ → α} {post : History L σ → Except χ α → Prop}
    (hG : ∀ s, G label s s)
    (hfault : ∀ (e : ε) x s, Faulty.fault e = some x → J s → ok history label s →
      post (history ++ [(label, s, s)]) (.error x))
    (h : ∀ e s, J s → ok history label s → post (history ++ [(label, s, s)]) (.ok (f e s))) :
    (reads label f : Call L ε σ χ α).Ends J ok G post history := by
  refine ends_ask hG fun e s hs hok ↦ ?_
  cases hf : Faulty.fault e with
  | some x => exact hfault e x s hf hs hok
  | none => exact h e s hs hok

theorem ends_writes {f : ε → σ → Except χ (σ × α)} {post : History L σ → Except χ α → Prop}
    (hG : ∀ s, G label s s)
    (hfault : ∀ (e : ε) x s, Faulty.fault e = some x → J s → ok history label s →
      post (history ++ [(label, s, s)]) (.error x))
    (herror : ∀ e s x, J s → ok history label s → f e s = .error x →
      post (history ++ [(label, s, s)]) (.error x))
    (h : ∀ e s s' a, J s → ok history label s → f e s = .ok (s', a) →
      J s' ∧ G label s s' ∧ post (history ++ [(label, s, s')]) (.ok a)) :
    (writes label f : Call L ε σ χ α).Ends J ok G post history := by
  refine ends_perform hG (fun e s x hs hok hx ↦ ?_) fun e s s' a hs hok ha ↦
    h e s s' a hs hok (elim_fault ha).2
  cases hf : Faulty.fault e with
  | some y =>
    rw [hf] at hx
    cases hx
    exact hfault e x s hf hs hok
  | none =>
    rw [hf] at hx
    exact herror e s x hs hok hx

end Heeds

end Call

end Innovents.Lib
