import Innovents.Lib.Table

namespace Innovents.Lib

section Journals

variable {ρ ε μ ς : Type} [Row ρ] {tells : String → ε → Option μ} {next : ς → μ → ς} {first : ς}
  {view : ρ → ς} {log : List ε} {entry : ε} {t t' : Table ρ} {k : String}

/-- What the entries of a log tell of the row `k`, in their order. -/
def told (tells : String → ε → Option μ) (k : String) (log : List ε) : List μ :=
  log.filterMap (tells k)

/-- The state of every row is what its entries make of the first one, and other rows have none. -/
structure Journal (tells : String → ε → Option μ) (next : ς → μ → ς) (first : ς) (view : ρ → ς)
    (log : List ε) (t : Table ρ) : Prop where
  replayed : ∀ k, ∀ r ∈ t.get? k, (told tells k log).foldl next first = view r
  known : ∀ k, t.get? k = none → told tells k log = []

theorem told_append : told tells k (log ++ [entry]) = told tells k log ++ (tells k entry).toList := by
  rw [told, List.filterMap_append]
  cases h : tells k entry <;> simp [told, h]

theorem told_silent (h : tells k entry = none) : told tells k (log ++ [entry]) = told tells k log := by
  rw [told_append, h, Option.toList_none, List.append_nil]

/-- A new row starts in the first state. -/
theorem Journal.created {new : ρ} (h : Journal tells next first view log t)
    (hcreate : t.create new = .ok t') (hview : view new = first)
    (hsilent : ∀ k, tells k entry = none) : Journal tells next first view (log ++ [entry]) t' := by
  have hget := Table.get?_create hcreate
  constructor
  · intro k r hr
    rw [told_silent (hsilent k)]
    rw [Option.mem_def, hget] at hr
    split_ifs at hr with hk
    · cases hr
      have hfree : t.get? k = none := by
        cases hold : t.get? k with
        | none => rfl
        | some old => exact absurd hk (Table.get?_create_taken hold hcreate).1
      rw [h.known k hfree, List.foldl_nil, hview]
    · exact h.replayed k r hr
  · intro k hk
    rw [told_silent (hsilent k)]
    rw [hget] at hk
    split_ifs at hk
    exact h.known k hk

/-- A change of one row is told by one entry. -/
theorem Journal.updated {f : ρ → ρ} {m : μ} (h : Journal tells next first view log t)
    (hupdate : t.update k f = .ok t') (hid : ∀ r, Row.id (f r) = Row.id r)
    (htells : tells k entry = some m) (hothers : ∀ j, j ≠ k → tells j entry = none)
    (hview : ∀ r, view (f r) = next (view r) m) :
    Journal tells next first view (log ++ [entry]) t' := by
  have hget := fun j ↦ Table.get?_update (k := j) hupdate hid
  constructor
  · intro j r hr
    rw [Option.mem_def, hget] at hr
    split_ifs at hr with hj
    · subst hj
      obtain ⟨old, hold, rfl⟩ := Option.map_eq_some_iff.mp hr
      rw [told_append, htells, Option.toList_some, List.foldl_append, h.replayed j old hold, hview]
      rfl
    · rw [told_silent (hothers j hj)]
      exact h.replayed j r hr
  · intro j hj
    rw [hget] at hj
    split_ifs at hj with heq
    · subst heq
      obtain ⟨⟨r, hr, hrid⟩, -⟩ := Table.update_eq_ok.mp hupdate
      rw [Table.get?_eq_some.mpr ⟨hr, hrid⟩] at hj
      cases hj
    · rw [told_silent (hothers j heq)]
      exact h.known j hj

end Journals

end Innovents.Lib
