import Mathlib.Data.List.Nodup
import Mathlib.Data.List.Sort
import Mathlib.Tactic.Ring

namespace Innovents.Lib

variable {α β : Type}

/-- What `skip: k * size, take: size` selects of a list. -/
def page (size : ℕ) (xs : List α) (k : ℕ) : List α := (xs.drop (k * size)).take size

/-- How many pages a list of the length has. -/
def pageCount (total size : ℕ) : ℕ := (total + size - 1) / size

section Pages

variable {size : ℕ} {xs : List α}

theorem page_map (f : α → β) (k : ℕ) : page size (xs.map f) k = (page size xs k).map f := by
  simp only [page, List.map_take, List.map_drop]

theorem length_page (k : ℕ) : (page size xs k).length = min size (xs.length - k * size) := by
  simp only [page, List.length_take, List.length_drop]

theorem page_sublist (k : ℕ) : (page size xs k).Sublist xs :=
  (List.take_sublist _ _).trans (List.drop_sublist _ _)

/-- The first pages together are the beginning of the list. -/
theorem pages_join (n : ℕ) : (List.range n).flatMap (page size xs) = xs.take (n * size) := by
  induction n with
  | zero => simp
  | succ n ih =>
    rw [List.range_succ, List.flatMap_append, ih, Nat.succ_mul, List.take_add]
    simp [page]

theorem mem_page (hsize : 0 < size) {a : α} {k : ℕ} :
    a ∈ page size xs k ↔ ∃ i, xs[i]? = some a ∧ i / size = k := by
  rw [page, List.mem_iff_getElem?]
  constructor
  · rintro ⟨j, hj⟩
    rw [List.getElem?_take] at hj
    split_ifs at hj with hlt
    rw [List.getElem?_drop] at hj
    refine ⟨k * size + j, hj, ?_⟩
    rw [Nat.mul_comm, Nat.mul_add_div hsize, Nat.div_eq_of_lt hlt, Nat.add_zero]
  · rintro ⟨i, hi, rfl⟩
    refine ⟨i % size, ?_⟩
    rw [List.getElem?_take, if_pos (Nat.mod_lt i hsize), List.getElem?_drop, Nat.div_add_mod']
    exact hi

/-- An entry that does not repeat is on one page and no other. -/
theorem existsUnique_page (hsize : 0 < size) (hnodup : xs.Nodup) {a : α} (ha : a ∈ xs) :
    ∃! k, a ∈ page size xs k := by
  obtain ⟨i, hi⟩ := List.mem_iff_getElem?.mp ha
  refine ⟨i / size, (mem_page hsize).mpr ⟨i, hi, rfl⟩, fun k hk ↦ ?_⟩
  obtain ⟨j, hj, rfl⟩ := (mem_page hsize).mp hk
  obtain ⟨hlt, -⟩ := List.getElem?_eq_some_iff.mp hi
  rw [(List.getElem?_inj hlt hnodup).mp (hi.trans hj.symm)]

theorem lt_pageCount (hsize : 0 < size) {a : α} {k : ℕ} (ha : a ∈ page size xs k) :
    k < pageCount xs.length size := by
  obtain ⟨i, hi, rfl⟩ := (mem_page hsize).mp ha
  obtain ⟨hlt, -⟩ := List.getElem?_eq_some_iff.mp hi
  have hnext : i / size + 1 = (i + size) / size := (Nat.add_div_right i hsize).symm
  rw [pageCount, Nat.lt_iff_add_one_le, hnext]
  exact Nat.div_le_div_right (by omega)

/-- The pages that are counted hold the whole list. -/
theorem length_le_pages (hsize : 0 < size) (total : ℕ) : total ≤ pageCount total size * size := by
  have h := Nat.div_add_mod (total + size - 1) size
  have hmod := Nat.mod_lt (total + size - 1) hsize
  rw [pageCount, Nat.mul_comm]
  omega

/-- Each page before the last one that is counted is full. -/
theorem page_full {k : ℕ} (hsize : 0 < size) (hk : k + 1 < pageCount xs.length size) :
    (page size xs k).length = size := by
  have hle : (k + 2) * size ≤ xs.length + size - 1 := (Nat.le_div_iff_mul_le hsize).mp hk
  rw [length_page]
  have hmul : (k + 2) * size = k * size + size + size := by ring
  omega

/-- Pages that together are the list, and of which only the last is shorter than the others. -/
structure Paged (size : ℕ) (xs : List α) (count : ℕ) (pages : ℕ → List α) : Prop where
  joined : (List.range count).flatMap pages = xs
  full : ∀ k, k + 1 < count → (pages k).length = size
  beyond : ∀ k, count ≤ k → pages k = []

theorem paged (hsize : 0 < size) :
    Paged size xs (max 1 (pageCount xs.length size)) (page size xs) := by
  have hall := length_le_pages hsize xs.length
  have hmost : xs.length ≤ max 1 (pageCount xs.length size) * size :=
    hall.trans (Nat.mul_le_mul_right size (le_max_right _ _))
  refine ⟨?_, fun k hk ↦ page_full hsize (by omega), fun k hk ↦ ?_⟩
  · rw [pages_join]
    exact List.take_of_length_le hmost
  · have hlate : xs.length ≤ k * size := hmost.trans (Nat.mul_le_mul_right size hk)
    rw [page, List.drop_of_length_le hlate, List.take_nil]

theorem exists_related {R : α → β → Prop} {ys : List β} (h : List.Forall₂ R xs ys) {a : α}
    (ha : a ∈ xs) : ∃ b ∈ ys, R a b := by
  induction h with
  | nil => cases ha
  | cons hab hrest ih =>
    rcases List.mem_cons.mp ha with rfl | ha
    · exact ⟨_, List.mem_cons_self, hab⟩
    · obtain ⟨b, hb, hR⟩ := ih ha
      exact ⟨b, List.mem_cons_of_mem _ hb, hR⟩

/-- What has the keys of entries that differ in them does not repeat. -/
theorem nodup_related {γ : Type} {f : α → γ} {g : β → γ} {ys : List β}
    (h : List.Forall₂ (fun a b ↦ f a = g b) xs ys) (hnodup : (xs.map f).Nodup) : ys.Nodup := by
  have hkeys : List.Forall₂ (· = ·) (xs.map f) (ys.map g) :=
    List.forall₂_map_left_iff.mpr (List.forall₂_map_right_iff.mpr h)
  rw [List.forall₂_eq_eq_eq] at hkeys
  rw [hkeys] at hnodup
  exact hnodup.of_map

/-- What is made of the pages, entry by entry, is paged as they are. -/
theorem Paged.related {R : α → β → Prop} {count : ℕ} {pages : ℕ → List α} {pages' : ℕ → List β}
    (h : Paged size xs count pages) (hR : ∀ k, List.Forall₂ R (pages k) (pages' k)) :
    ∃ ys, List.Forall₂ R xs ys ∧ Paged size ys count pages' := by
  have hjoined : ∀ ks : List ℕ, List.Forall₂ R (ks.flatMap pages) (ks.flatMap pages') := by
    intro ks
    induction ks with
    | nil => exact .nil
    | cons k ks ih =>
      rw [List.flatMap_cons, List.flatMap_cons]
      exact List.rel_append (hR k) ih
  refine ⟨_, h.joined ▸ hjoined (List.range count), rfl, fun k hk ↦ ?_, fun k hk ↦ ?_⟩
  · rw [← (hR k).length_eq, h.full k hk]
  · have hnil := hR k
    rw [h.beyond k hk] at hnil
    exact List.forall₂_nil_left_iff.mp hnil

/-- Each entry is on one page and no other, if none repeats. -/
theorem Paged.existsUnique {count : ℕ} {pages : ℕ → List α} (h : Paged size xs count pages)
    (hnodup : xs.Nodup) {a : α} (ha : a ∈ xs) : ∃! k, a ∈ pages k := by
  rw [← h.joined] at ha hnodup
  obtain ⟨k, hk, hmem⟩ := List.mem_flatMap.mp ha
  rw [List.mem_range] at hk
  refine ⟨k, hmem, fun j (hj : a ∈ pages j) ↦ ?_⟩
  have hlt : j < count := by
    by_contra hle
    rw [h.beyond j (by omega)] at hj
    exact List.not_mem_nil hj
  have happart := (List.nodup_flatMap.mp hnodup).2
  have hdisjoint : ∀ i j, i < j → j < count → List.Disjoint (pages i) (pages j) := by
    intro i j hij hj
    have hrel := List.pairwise_iff_getElem.mp happart i j (by simp; omega) (by simpa using hj) hij
    simpa [Function.onFun] using hrel
  rcases Nat.lt_trichotomy j k with hjk | hjk | hjk
  · exact absurd hmem (hdisjoint j k hjk hk hj)
  · exact hjk
  · exact absurd hj (hdisjoint k j hjk hlt hmem)

end Pages

section Listing

variable {size : ℕ} {R : α → β → Prop} {le : α → α → Prop} {rows : List α} {count : ℕ}
  {items : ℕ → List β}

/-- The pages are made of the rows, entry by entry, in the order that is asked for. -/
def Listing (R : α → β → Prop) (le : α → α → Prop) (size : ℕ) (rows : List α) (count : ℕ)
    (items : ℕ → List β) : Prop :=
  ∃ (as : List α) (bs : List β), as.Perm rows ∧ as.Pairwise le ∧ List.Forall₂ R as bs ∧
    Paged size bs count items

theorem listing [DecidableRel le] [Std.Total le] [IsTrans α le] (hsize : 0 < size)
    (h : ∀ k, List.Forall₂ R (page size (rows.insertionSort le) k) (items k)) :
    Listing R le size rows (max 1 (pageCount rows.length size)) items := by
  obtain ⟨bs, hbs, hpaged⟩ := (paged hsize).related h
  rw [(List.perm_insertionSort le rows).length_eq] at hpaged
  exact ⟨_, bs, List.perm_insertionSort le rows, List.pairwise_insertionSort le rows, hbs, hpaged⟩

theorem Listing.mono {R' : α → β → Prop} (h : Listing R le size rows count items)
    (hR : ∀ a ∈ rows, ∀ b, R a b → R' a b) : Listing R' le size rows count items := by
  obtain ⟨as, bs, hperm, hsorted, hbs, hpaged⟩ := h
  have hrows : ∀ a ∈ as, a ∈ rows := fun a ha ↦ hperm.mem_iff.mp ha
  refine ⟨as, bs, hperm, hsorted, ?_, hpaged⟩
  exact ((List.forall₂_and_left _ _).mpr ⟨hrows, hbs⟩).imp fun a b hab ↦ hR a hab.1 b hab.2

/-- What is made of a row is on one page and no other, if the rows have keys. -/
theorem Listing.existsUnique {γ : Type} {f : α → γ} {g : β → γ}
    (h : Listing R le size rows count items) (hkeys : ∀ a b, R a b → f a = g b)
    (hnodup : (rows.map f).Nodup) {a : α} {b : β} (ha : a ∈ rows) (hunique : ∀ b', R a b' → b' = b) :
    ∃! k, b ∈ items k := by
  obtain ⟨as, bs, hperm, -, hbs, hpaged⟩ := h
  obtain ⟨b', hb', hR⟩ := exists_related hbs (hperm.mem_iff.mpr ha)
  rw [hunique b' hR] at hb'
  have hkeyed : (as.map f).Nodup := (hperm.map f).nodup_iff.mpr hnodup
  exact hpaged.existsUnique (nodup_related (hbs.imp hkeys) hkeyed) hb'

end Listing

end Innovents.Lib
