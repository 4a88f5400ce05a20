import Innovents.Lib.Requests

namespace Innovents.Lib

section Rows

variable {ρ κ : Type} [Row ρ] {place : ρ → κ} {t t' t'' : Table ρ} {id k : String} {c : κ} {r : ρ}

/-- The row is new, or not as it was. -/
def Changed (t t' : Table ρ) (k : String) (r : ρ) : Prop := t'.get? k = some r ∧ t.get? k ≠ some r

/-- Rows stay, and where they belong. -/
def Stay (place : ρ → κ) (t t' : Table ρ) : Prop :=
  ∀ k, ∀ r ∈ t.get? k, ∃ r' ∈ t'.get? k, place r' = place r

/-- No row is changed but `k`. -/
structure OnlyAt (place : ρ → κ) (k : String) (t t' : Table ρ) : Prop where
  stay : Stay place t t'
  changed : ∀ j r, Changed t t' j r → j = k ∧ ∃ old ∈ t.get? k, place old = place r

/-- No row is changed that does not belong to `c`. -/
structure OnlyIn (place : ρ → κ) (c : κ) (t t' : Table ρ) : Prop where
  stay : Stay place t t'
  changed : ∀ j r, Changed t t' j r → place r = c

theorem stay_refl : Stay place t t := fun _ r hr ↦ ⟨r, hr, rfl⟩

theorem Stay.trans (h : Stay place t t') (h' : Stay place t' t'') : Stay place t t'' := by
  intro k r hr
  obtain ⟨r', hr', hplace⟩ := h k r hr
  obtain ⟨r'', hr'', hplace'⟩ := h' k r' hr'
  exact ⟨r'', hr'', hplace'.trans hplace⟩

theorem not_changed (h : Changed t t k r) : False := h.2 h.1

theorem updated_onlyAt {f : ρ → ρ} (h : t.update id f = .ok t')
    (hf : ∀ r, Row.id (f r) = Row.id r ∧ place (f r) = place r) : OnlyAt place id t t' := by
  have hget := fun k ↦ Table.get?_update (k := k) h fun r ↦ (hf r).1
  constructor
  · intro k r hr
    rw [hget]
    split_ifs with hk
    · subst hk
      exact ⟨f r, Option.mem_map_of_mem f hr, (hf r).2⟩
    · exact ⟨r, hr, rfl⟩
  · intro k r hchanged
    obtain ⟨hnew, hold⟩ := hchanged
    rw [hget] at hnew
    split_ifs at hnew with hk
    · subst hk
      obtain ⟨old, hfound, rfl⟩ := Option.map_eq_some_iff.mp hnew
      exact ⟨rfl, old, hfound, (hf old).2.symm⟩
    · exact absurd hnew hold

theorem created_onlyIn {new : ρ} (h : t.create new = .ok t') : OnlyIn place (place new) t t' := by
  constructor
  · exact fun k r hr ↦ ⟨r, (Table.get?_create_taken hr h).2, rfl⟩
  · intro k r hchanged
    obtain ⟨hnew, hold⟩ := hchanged
    rw [Table.get?_create h] at hnew
    split_ifs at hnew
    · cases hnew
      rfl
    · exact absurd hnew hold

/-- Rows are neither added nor removed, and each is kept or changed as `J` allows. -/
def Rewritten (J : ρ → ρ → Prop) (t t' : Table ρ) : Prop :=
  ∀ k, (t.get? k = none → t'.get? k = none) ∧ ∀ r ∈ t.get? k, ∃ r' ∈ t'.get? k, r' = r ∨ J r r'

section Rewritten

variable {J J' : ρ → ρ → Prop} {f : ρ → ρ}

theorem rewritten_refl : Rewritten J t t := fun _ ↦ ⟨fun h ↦ h, fun r hr ↦ ⟨r, hr, .inl rfl⟩⟩

theorem Rewritten.mono (h : Rewritten J t t') (hJ : ∀ k, ∀ r ∈ t.get? k, ∀ r', J r r' → J' r r') :
    Rewritten J' t t' := by
  intro k
  refine ⟨(h k).1, fun r hr ↦ ?_⟩
  obtain ⟨r', hr', hrel⟩ := (h k).2 r hr
  exact ⟨r', hr', hrel.imp_right (hJ k r hr r')⟩

theorem rewritten_update (h : t.update id f = .ok t') (hid : ∀ r, Row.id (f r) = Row.id r)
    (hJ : ∀ r ∈ t.get? id, J r (f r)) : Rewritten J t t' := by
  intro k
  rw [Table.get?_update h hid]
  by_cases hk : k = id
  · subst hk
    rw [if_pos rfl]
    refine ⟨fun hnone ↦ by rw [hnone, Option.map_none], fun r hr ↦ ?_⟩
    exact ⟨f r, Option.mem_map_of_mem f hr, .inr (hJ r hr)⟩
  · rw [if_neg hk]
    exact ⟨fun hnone ↦ hnone, fun r hr ↦ ⟨r, hr, .inl rfl⟩⟩

theorem rewritten_updateMany {p : ρ → Bool} (h : t.updateMany p f = .ok t')
    (hid : ∀ r, Row.id (f r) = Row.id r) (hJ : ∀ r, p r = true → J r (f r)) :
    Rewritten J t t' := by
  intro k
  rw [Table.get?_updateMany h hid]
  refine ⟨fun hnone ↦ by rw [hnone, Option.map_none], fun r hr ↦ ?_⟩
  refine ⟨_, Option.mem_map_of_mem _ hr, ?_⟩
  split_ifs with hp
  · exact .inr (hJ r hp)
  · exact .inl rfl

/-- What is changed was there before. -/
theorem Rewritten.changed (h : Rewritten J t t') (hchanged : Changed t t' k r) :
    ∃ old ∈ t.get? k, J old r := by
  obtain ⟨hnew, hold⟩ := hchanged
  cases hget : t.get? k with
  | none =>
    rw [(h k).1 hget] at hnew
    cases hnew
  | some old =>
    obtain ⟨r', hr', hrel⟩ := (h k).2 old hget
    cases hnew.symm.trans hr'
    refine ⟨old, rfl, hrel.resolve_left fun hsame ↦ hold ?_⟩
    rw [hget, hsame]

end Rewritten

end Rows

section Saw

variable {L σ : Type} {history later : History L σ} {q : σ → Prop} {label : L} {s : σ}

/-- A request of the call has found a state that meets `q`. -/
def Saw (history : History L σ) (q : σ → Prop) : Prop := ∃ event ∈ history, q event.2.2

theorem Saw.append (h : Saw history q) : Saw (history ++ later) q := by
  obtain ⟨event, hevent, hq⟩ := h
  exact ⟨event, List.mem_append_left _ hevent, hq⟩

theorem saw_concat (h : q s) : Saw (history ++ [(label, s, s)]) q :=
  ⟨_, List.mem_append_right _ (List.mem_singleton_self _), h⟩

theorem Saw.of_prefix (h : Saw history q) (hgrown : history <+: later) : Saw later q := by
  obtain ⟨rest, rfl⟩ := hgrown
  exact h.append

/-- What has been found is still where it was. -/
theorem found_placed {ρ κ : Type} [Row ρ] {place : ρ → κ} {table : σ → Table ρ}
    {found : σ → Option ρ} {k : String} {c : κ}
    (hfound : ∀ s, ∀ r ∈ found s, r ∈ (table s).get? k ∧ place r = c)
    (hsaw : Saw history fun s ↦ (found s).isSome = true)
    (hstay : ∀ event ∈ history, Stay place (table event.2.2) (table s)) :
    ∀ r ∈ (table s).get? k, place r = c := by
  intro r hr
  obtain ⟨event, hevent, hsome⟩ := hsaw
  obtain ⟨old, hold⟩ := Option.isSome_iff_exists.mp hsome
  obtain ⟨hget, hplace⟩ := hfound _ old hold
  obtain ⟨r', hr', hsame⟩ := hstay event hevent k old hget
  cases hr.symm.trans hr'
  exact hsame.trans hplace

end Saw

end Innovents.Lib
