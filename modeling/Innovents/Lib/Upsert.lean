import Mathlib.Data.List.Basic

namespace Innovents.Lib

variable {α ρ κ : Type}

/-- The rows after upserts that leave what they find as it is: a request makes a row, unless
there is one with its key. -/
inductive Upserts (key : ρ → κ) (keyOf : α → κ) (makes : α → ρ → Prop) :
    List α → List ρ → List ρ → Prop
  | nil {rows : List ρ} : Upserts key keyOf makes [] rows rows
  | found {x : α} {xs : List α} {rows rows' : List ρ} : keyOf x ∈ rows.map key →
      Upserts key keyOf makes xs rows rows' → Upserts key keyOf makes (x :: xs) rows rows'
  | made {x : α} {xs : List α} {r : ρ} {rows rows' : List ρ} : keyOf x ∉ rows.map key →
      makes x r → Upserts key keyOf makes xs (rows ++ [r]) rows' →
      Upserts key keyOf makes (x :: xs) rows rows'

namespace Upserts

variable {key : ρ → κ} {keyOf : α → κ} {makes : α → ρ → Prop} {xs ys : List α}
  {rows rows' rows'' : List ρ}

theorem append (h : Upserts key keyOf makes xs rows rows')
    (h' : Upserts key keyOf makes ys rows' rows'') :
    Upserts key keyOf makes (xs ++ ys) rows rows'' := by
  induction h with
  | nil => exact h'
  | found hk _ ih => exact .found hk (ih h')
  | made hk hm _ ih => exact .made hk hm (ih h')

theorem isPrefix (h : Upserts key keyOf makes xs rows rows') : rows <+: rows' := by
  induction h with
  | nil => exact List.prefix_rfl
  | found _ _ ih => exact ih
  | made _ _ _ ih => exact (List.prefix_append _ _).trans ih

/-- A row that is new was made for a request whose key was free. -/
theorem mem_cases (h : Upserts key keyOf makes xs rows rows') {r : ρ} (hr : r ∈ rows') :
    r ∈ rows ∨ ∃ x ∈ xs, makes x r ∧ keyOf x ∉ rows.map key := by
  induction h with
  | nil => exact .inl hr
  | found _ _ ih =>
    rcases ih hr with hold | ⟨x, hx, hmade⟩
    · exact .inl hold
    · exact .inr ⟨x, List.mem_cons_of_mem _ hx, hmade⟩
  | made hk hm _ ih =>
    rcases ih hr with hold | ⟨x, hx, hmade, hfree⟩
    · rcases List.mem_append.mp hold with hold | hnew
      · exact .inl hold
      · rw [List.mem_singleton.mp hnew]
        exact .inr ⟨_, List.mem_cons_self, hm, hk⟩
    · refine .inr ⟨x, List.mem_cons_of_mem _ hx, hmade, fun hmem ↦ hfree ?_⟩
      rw [List.map_append]
      exact List.mem_append_left _ hmem

section

variable (hmakes : ∀ x r, makes x r → key r = keyOf x)
include hmakes

/-- Every request finds a row with its key afterwards. -/
theorem key_mem (h : Upserts key keyOf makes xs rows rows') {x : α} (hx : x ∈ xs) :
    keyOf x ∈ rows'.map key := by
  induction h with
  | nil => cases hx
  | found hk hrest ih =>
    rcases List.mem_cons.mp hx with rfl | hx
    · exact (hrest.isPrefix.map key).subset hk
    · exact ih hx
  | made hk hm hrest ih =>
    rcases List.mem_cons.mp hx with rfl | hx
    · refine (hrest.isPrefix.map key).subset ?_
      rw [List.map_append, List.map_singleton, hmakes _ _ hm]
      exact List.mem_append_right _ (List.mem_singleton_self _)
    · exact ih hx

/-- The keys afterwards are the keys before and the keys of the requests. -/
theorem mem_keys (h : Upserts key keyOf makes xs rows rows') {k : κ} :
    k ∈ rows'.map key ↔ k ∈ rows.map key ∨ ∃ x ∈ xs, keyOf x = k := by
  constructor
  · intro hk
    obtain ⟨r, hr, rfl⟩ := List.mem_map.mp hk
    rcases h.mem_cases hr with hold | ⟨x, hx, hm, _⟩
    · exact .inl (List.mem_map_of_mem hold)
    · exact .inr ⟨x, hx, (hmakes x r hm).symm⟩
  · intro hk
    rcases hk with hold | ⟨x, hx, rfl⟩
    · exact (h.isPrefix.map key).subset hold
    · exact h.key_mem hmakes hx

end

end Upserts

end Innovents.Lib
