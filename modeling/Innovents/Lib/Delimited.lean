import Mathlib.Data.List.Basic
import Mathlib.Data.List.Infix

namespace Innovents.Lib

variable {α : Type} {c : α} {l l' r r' : List α}

/-- Text up to the first delimiter is read back. -/
theorem append_cons_inj_first (hl : c ∉ l) (hl' : c ∉ l') :
    l ++ c :: r = l' ++ c :: r' ↔ l = l' ∧ r = r' := by
  constructor
  · intro h
    induction l generalizing l' with
    | nil =>
      cases l' with
      | nil => exact ⟨rfl, by simpa using h⟩
      | cons a l' =>
        obtain ⟨rfl, _⟩ := List.cons.inj h
        exact absurd List.mem_cons_self hl'
    | cons a l ih =>
      cases l' with
      | nil =>
        obtain ⟨rfl, _⟩ := List.cons.inj h
        exact absurd List.mem_cons_self hl
      | cons b l' =>
        obtain ⟨rfl, htail⟩ := List.cons.inj h
        obtain ⟨rfl, hr⟩ := ih (fun hm ↦ hl (List.mem_cons_of_mem _ hm))
          (fun hm ↦ hl' (List.mem_cons_of_mem _ hm)) htail
        exact ⟨rfl, hr⟩
  · intro h
    rw [h.1, h.2]

/-- Text after the last delimiter is read back. -/
theorem append_cons_inj_last (hr : c ∉ r) (hr' : c ∉ r') :
    l ++ c :: r = l' ++ c :: r' ↔ l = l' ∧ r = r' := by
  have hrev : r.reverse ++ c :: l.reverse = r'.reverse ++ c :: l'.reverse ↔
      r.reverse = r'.reverse ∧ l.reverse = l'.reverse :=
    append_cons_inj_first (by simpa using hr) (by simpa using hr')
  rw [← List.reverse_inj]
  simpa [and_comm] using hrev

/-- Of two delimited texts that begin alike one begins with the other, delimiter included. -/
theorem prefix_of_append_cons (h : l ++ c :: r = l' ++ c :: r') :
    l ++ [c] <+: l' ++ [c] ∨ l' ++ [c] <+: l ++ [c] := by
  have hl : l ++ [c] <+: l ++ c :: r := ⟨r, by simp⟩
  have hl' : l' ++ [c] <+: l ++ c :: r := ⟨r', by simp [h]⟩
  exact List.prefix_or_prefix_of_prefix hl hl'

end Innovents.Lib
