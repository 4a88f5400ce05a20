import Mathlib.Data.List.Pairwise
import Mathlib.Data.List.Count
import Mathlib.Data.List.Basic
import Mathlib.Data.List.Nodup

namespace Innovents.Lib

/-- What a relational store knows about the rows of one table: their primary key
and the nullable columns declared unique. -/
class Row (ρ : Type) where
  id : ρ → String
  uniques : List (ρ → Option String)

/-- Why a store refuses a write. -/
inductive Refusal
  | uniqueConstraint
  | recordNotFound
  deriving DecidableEq, Repr

theorem andThen_eq_ok {χ α β : Type} {x : Except χ α} {f : α → Except χ β} {b : β} :
    (x >>= f) = .ok b ↔ ∃ a, x = .ok a ∧ f a = .ok b := by
  cases x with
  | ok a => simp [bind, Except.bind]
  | error e => simp [bind, Except.bind]

theorem andThen_eq_error {χ α β : Type} {x : Except χ α} {f : α → Except χ β} {e : χ} :
    (x >>= f) = .error e ↔ x = .error e ∨ ∃ a, x = .ok a ∧ f a = .error e := by
  cases x with
  | ok a => simp [bind, Except.bind]
  | error e => simp [bind, Except.bind]

theorem mapM_forall₂ {χ α β : Type} {f : α → Except χ β} {xs : List α} {ys : List β}
    (h : xs.mapM f = .ok ys) :
    List.Forall₂ (fun x y ↦ f x = .ok y) xs ys := by
  induction xs generalizing ys with
  | nil =>
    cases h
    exact .nil
  | cons x xs ih =>
    rw [List.mapM_cons] at h
    obtain ⟨y, hy, h⟩ := andThen_eq_ok.mp h
    obtain ⟨rest, hrest, h⟩ := andThen_eq_ok.mp h
    cases h
    exact .cons hy (ih hrest)

/-- A loop that may fail keeps what its steps keep. -/
theorem foldlM_keeps {χ β ρ : Type} {f : β → ρ → Except χ β} {I : β → Prop} {xs : List ρ} {b b' : β}
    (hf : ∀ a ∈ xs, ∀ b b', I b → f b a = .ok b' → I b') (hb : I b)
    (h : xs.foldlM f b = .ok b') : I b' := by
  induction xs generalizing b with
  | nil =>
    cases h
    exact hb
  | cons a xs ih =>
    rw [List.foldlM_cons] at h
    obtain ⟨b₁, hb₁, h⟩ := andThen_eq_ok.mp h
    exact ih (fun a ha ↦ hf a (List.mem_cons_of_mem _ ha)) (hf a List.mem_cons_self b b₁ hb hb₁) h

section

variable {ρ : Type} [Row ρ]

/-- Two rows that no table holds together: they agree on the key or on a unique
column that is not null. -/
def clash (a b : ρ) : Bool :=
  Row.id a == Row.id b || Row.uniques.any fun u ↦ (u a).isSome && u a == u b

theorem clash_of_id {a b : ρ} (h : Row.id a = Row.id b) : clash a b = true := by
  simp [clash, h]

theorem clash_of_unique {a b : ρ} {u : ρ → Option String} (hu : u ∈ Row.uniques)
    {k : String} (ha : u a = some k) (hb : u b = some k) : clash a b = true := by
  simp only [clash, Bool.or_eq_true, List.any_eq_true]
  exact .inr ⟨u, hu, by simp [ha, hb]⟩

theorem clash_eq_false {a b : ρ} (hid : Row.id a ≠ Row.id b)
    (hu : ∀ u ∈ Row.uniques, ∀ k, u a = some k → u b ≠ some k) : clash a b = false := by
  rw [← Bool.not_eq_true]
  intro h
  simp only [clash, Bool.or_eq_true, beq_iff_eq, hid, false_or, List.any_eq_true,
    Bool.and_eq_true, Option.isSome_iff_exists] at h
  obtain ⟨u, hm, ⟨k, hk⟩, he⟩ := h
  exact hu u hm k hk (he ▸ hk)

instance : Std.Symm fun a b : ρ ↦ clash a b = false where
  symm a b h := by
    refine clash_eq_false (fun he ↦ ?_) (fun u hu k hb ha ↦ ?_)
    · simp [clash_of_id he.symm] at h
    · simp [clash_of_unique hu ha hb] at h

end

/-- A key that is longer than all that are taken. -/
def freshKey (taken : List String) : String :=
  String.ofList ('x' :: taken.flatMap String.toList)

theorem freshKey_notMem (taken : List String) : freshKey taken ∉ taken := by
  intro h
  have hle : (freshKey taken).toList.length ≤ (taken.flatMap String.toList).length := by
    rw [List.flatMap_def]
    exact (List.sublist_flatten_of_mem (List.mem_map_of_mem h)).length_le
  rw [freshKey, String.toList_ofList, List.length_cons] at hle
  omega

/-- The rows of a table, no two of which clash. -/
@[ext] structure Table (ρ : Type) [Row ρ] where
  rows : List ρ
  apart : rows.Pairwise fun a b ↦ clash a b = false

namespace Table

variable {ρ : Type} [Row ρ]

def empty : Table ρ := ⟨[], .nil⟩

def singleton (r : ρ) : Table ρ := ⟨[r], List.pairwise_singleton _ _⟩

def find? (t : Table ρ) (p : ρ → Bool) : Option ρ := t.rows.find? p

def get? (t : Table ρ) (id : String) : Option ρ := t.find? fun r ↦ Row.id r == id

def has (t : Table ρ) (id : String) : Bool := (t.get? id).isSome

/-- The table that a statement leaves behind, if the constraints allow it. -/
def store (rows : List ρ) : Except Refusal (Table ρ) :=
  if h : rows.Pairwise fun a b ↦ clash a b = false then .ok ⟨rows, h⟩
  else .error .uniqueConstraint

def create (t : Table ρ) (r : ρ) : Except Refusal (Table ρ) := store (t.rows ++ [r])

def updateRows (id : String) (f : ρ → ρ) (rows : List ρ) : List ρ :=
  rows.map fun r ↦ if Row.id r = id then f r else r

/-- Rewrite the row with key `id`. -/
def update (t : Table ρ) (id : String) (f : ρ → ρ) : Except Refusal (Table ρ) :=
  if t.has id then store (updateRows id f t.rows) else .error .recordNotFound

/-- Rewrite the rows that meet `p`. -/
def updateMany (t : Table ρ) (p : ρ → Bool) (f : ρ → ρ) : Except Refusal (Table ρ) :=
  store (t.rows.map fun r ↦ if p r then f r else r)

/-- Delete the rows that meet `p`. -/
def deleteMany (t : Table ρ) (p : ρ → Bool) : Table ρ :=
  ⟨t.rows.filter fun r ↦ !p r, t.apart.filter _⟩

/-- Delete the row with key `id`. -/
def delete (t : Table ρ) (id : String) : Except Refusal (Table ρ) :=
  if t.has id then .ok (t.deleteMany fun r ↦ Row.id r == id) else .error .recordNotFound

/-- The rows as another type shows them. -/
def map {ρ' : Type} [Row ρ'] (t : Table ρ) (f : ρ → ρ')
    (hf : ∀ a b, clash a b = false → clash (f a) (f b) = false) : Table ρ' :=
  ⟨t.rows.map f, List.pairwise_map.mpr (t.apart.imp (hf _ _))⟩

@[simp] theorem rows_empty : (empty : Table ρ).rows = [] := rfl

theorem eq_of_id (t : Table ρ) {a b : ρ} (ha : a ∈ t.rows) (hb : b ∈ t.rows)
    (h : Row.id a = Row.id b) : a = b := by
  by_contra hne
  have hc := t.apart.forall ha hb hne
  simp [clash_of_id h] at hc

theorem eq_of_unique (t : Table ρ) {u : ρ → Option String} (hu : u ∈ Row.uniques) {a b : ρ}
    (ha : a ∈ t.rows) (hb : b ∈ t.rows) {k : String} (hka : u a = some k)
    (hkb : u b = some k) : a = b := by
  by_contra hne
  have hc := t.apart.forall ha hb hne
  simp [clash_of_unique hu hka hkb] at hc

theorem nodup_ids (t : Table ρ) : (t.rows.map Row.id).Nodup := by
  rw [List.Nodup, List.pairwise_map]
  refine t.apart.imp fun {a b} hab he ↦ ?_
  rw [clash_of_id he] at hab
  cases hab

theorem find?_mem {t : Table ρ} {p : ρ → Bool} {r : ρ} (h : t.find? p = some r) :
    r ∈ t.rows ∧ p r = true :=
  ⟨List.mem_of_find?_eq_some h, List.find?_some h⟩

theorem find?_eq_none {t : Table ρ} {p : ρ → Bool} :
    t.find? p = none ↔ ∀ r ∈ t.rows, p r = false := by
  simp [find?]

theorem get?_eq_some {t : Table ρ} {id : String} {r : ρ} :
    t.get? id = some r ↔ r ∈ t.rows ∧ Row.id r = id := by
  constructor
  · intro h
    obtain ⟨hm, hp⟩ := find?_mem h
    exact ⟨hm, by simpa using hp⟩
  · rintro ⟨hm, rfl⟩
    cases h : t.get? (Row.id r) with
    | none =>
      have hn := find?_eq_none.mp h r hm
      simp at hn
    | some a =>
      obtain ⟨ha, he⟩ := find?_mem h
      rw [t.eq_of_id ha hm (by simpa using he)]

/-- As many rows are found as keys are wanted just when all are there and none is wanted twice. -/
theorem length_found {t : Table ρ} {wanted : List String} {p : ρ → Bool} :
    (t.rows.filter fun r ↦ wanted.contains (Row.id r) && p r).length = wanted.length ↔
      wanted.Nodup ∧ ∀ id ∈ wanted, ∃ r, t.get? id = some r ∧ p r = true := by
  let found := t.rows.filter fun r ↦ wanted.contains (Row.id r) && p r
  have hfound : ∀ id, id ∈ found.map Row.id ↔
      id ∈ wanted ∧ ∃ r, t.get? id = some r ∧ p r = true := by
    intro id
    simp only [found, List.mem_map, List.mem_filter, Bool.and_eq_true, List.contains_iff_mem,
      get?_eq_some]
    constructor
    · rintro ⟨r, ⟨hr, hwanted, hp⟩, rfl⟩
      exact ⟨hwanted, r, ⟨hr, rfl⟩, hp⟩
    · rintro ⟨hwanted, r, ⟨hr, rfl⟩, hp⟩
      exact ⟨r, ⟨hr, hwanted, hp⟩, rfl⟩
  have hnodup : (found.map Row.id).Nodup := t.nodup_ids.sublist (List.filter_sublist.map Row.id)
  have hsub : found.map Row.id ⊆ wanted := fun id hid ↦ ((hfound id).mp hid).1
  show found.length = wanted.length ↔ _
  rw [← List.length_map Row.id]
  constructor
  · intro h
    have hperm := (List.subperm_of_subset hnodup hsub).perm_of_length_le (Nat.le_of_eq h.symm)
    exact ⟨hperm.nodup_iff.mp hnodup, fun id hid ↦ ((hfound id).mp (hperm.mem_iff.mpr hid)).2⟩
  · rintro ⟨hwanted, hall⟩
    have hback : wanted ⊆ found.map Row.id := fun id hid ↦ (hfound id).mpr ⟨hid, hall id hid⟩
    exact Nat.le_antisymm (List.subperm_of_subset hnodup hsub).length_le
      (List.subperm_of_subset hwanted hback).length_le

theorem get?_eq_none {t : Table ρ} {id : String} :
    t.get? id = none ↔ ∀ r ∈ t.rows, Row.id r ≠ id := by
  simp [get?, find?_eq_none]

theorem has_iff {t : Table ρ} {id : String} : t.has id = true ↔ ∃ r ∈ t.rows, Row.id r = id := by
  simp only [has, Option.isSome_iff_exists, get?_eq_some]

theorem store_eq_ok {rows : List ρ} {t : Table ρ} : store rows = .ok t ↔ t.rows = rows := by
  unfold store
  split_ifs with h
  · rw [Except.ok.injEq, Table.ext_iff, eq_comm]
  · simp only [false_iff]
    rintro rfl
    exact h t.apart

theorem create_eq_ok {t t' : Table ρ} {r : ρ} :
    t.create r = .ok t' ↔ t'.rows = t.rows ++ [r] := store_eq_ok

theorem create_succeeds {t : Table ρ} {r : ρ} (h : ∀ a ∈ t.rows, clash a r = false) :
    ∃ t', t.create r = .ok t' := by
  have hp : (t.rows ++ [r]).Pairwise fun a b ↦ clash a b = false := by
    rw [List.pairwise_append]
    exact ⟨t.apart, List.pairwise_singleton _ _, by simpa using h⟩
  exact ⟨⟨_, hp⟩, create_eq_ok.mpr rfl⟩

/-- Where nothing else is unique, only a row is refused whose key is taken. -/
theorem taken_of_refused {t : Table ρ} {r : ρ} {x : Refusal} (h : t.create r = .error x)
    (hu : (Row.uniques : List (ρ → Option String)) = []) : Row.id r ∈ t.rows.map Row.id := by
  by_contra hid
  obtain ⟨t', ht⟩ : ∃ t', t.create r = .ok t' := by
    refine create_succeeds fun a ha ↦ clash_eq_false (fun he ↦ hid ?_) fun u hm ↦ ?_
    · exact he ▸ List.mem_map_of_mem ha
    · rw [hu] at hm
      cases hm
  rw [ht] at h
  cases h

/-- A row with a key or a unique value that is taken cannot be created. -/
theorem create_refused {t : Table ρ} {a r : ρ} (ha : a ∈ t.rows) (h : clash a r = true) :
    t.create r = .error .uniqueConstraint := by
  unfold create store
  rw [dif_neg]
  intro hp
  have hc := (List.pairwise_append.mp hp).2.2 a ha r (by simp)
  simp [h] at hc

/-- Where nothing else is unique, the key decides. -/
theorem exists_created {t : Table ρ} {r : ρ} (hu : (Row.uniques : List (ρ → Option String)) = []) :
    (∃ t', t.create r = .ok t') ↔ t.has (Row.id r) = false := by
  rw [← Bool.not_eq_true, has_iff]
  constructor
  · rintro ⟨t', ht⟩ ⟨a, ha, hid⟩
    rw [create_refused ha (clash_of_id hid)] at ht
    cases ht
  · intro hkey
    cases h : t.create r with
    | ok t' => exact ⟨t', rfl⟩
    | error x =>
      obtain ⟨a, ha, hid⟩ := List.mem_map.mp (taken_of_refused h hu)
      exact absurd ⟨a, ha, hid⟩ hkey

theorem update_eq_ok {t t' : Table ρ} {id : String} {f : ρ → ρ} :
    t.update id f = .ok t' ↔
      (∃ r ∈ t.rows, Row.id r = id) ∧ t'.rows = updateRows id f t.rows := by
  unfold update
  split_ifs with h
  · simp only [store_eq_ok, has_iff.mp h, true_and]
  · simp only [false_iff, not_and]
    intro he
    exact absurd (has_iff.mpr he) h

theorem mem_updateRows {id : String} {f : ρ → ρ} {rows : List ρ} {r : ρ} :
    r ∈ updateRows id f rows ↔
      (∃ a ∈ rows, Row.id a = id ∧ f a = r) ∨ (r ∈ rows ∧ Row.id r ≠ id) := by
  simp only [updateRows, List.mem_map]
  constructor
  · rintro ⟨a, ha, he⟩
    split_ifs at he with hid
    · exact .inl ⟨a, ha, hid, he⟩
    · exact .inr ⟨he ▸ ha, he ▸ hid⟩
  · rintro (⟨a, ha, hid, rfl⟩ | ⟨hr, hid⟩)
    · exact ⟨a, ha, by rw [if_pos hid]⟩
    · exact ⟨r, hr, by rw [if_neg hid]⟩

/-- Rewriting rows without touching a key or a unique column succeeds. -/
theorem map_succeeds {t : Table ρ} {g : ρ → ρ} (hid : ∀ r, Row.id (g r) = Row.id r)
    (hu : ∀ u ∈ Row.uniques, ∀ r, u (g r) = u r) : ∃ t', store (t.rows.map g) = .ok t' := by
  have hc (a b : ρ) : clash (g a) (g b) = clash a b := by
    unfold clash
    rw [hid, hid, Bool.eq_iff_iff]
    simp only [Bool.or_eq_true, List.any_eq_true]
    refine or_congr Iff.rfl (exists_congr fun u ↦ and_congr_right fun hm ↦ ?_)
    rw [hu u hm, hu u hm]
  have hp : (t.rows.map g).Pairwise fun a b ↦ clash a b = false := by
    rw [List.pairwise_map]
    exact t.apart.imp fun hab ↦ by rw [hc, hab]
  exact ⟨⟨_, hp⟩, store_eq_ok.mpr rfl⟩

/-- An update that keeps the key and does not touch a unique column succeeds. -/
theorem update_succeeds {t : Table ρ} {id : String} {f : ρ → ρ} (h : ∃ r ∈ t.rows, Row.id r = id)
    (hid : ∀ r, Row.id (f r) = Row.id r) (hu : ∀ u ∈ Row.uniques, ∀ r, u (f r) = u r) :
    ∃ t', t.update id f = .ok t' := by
  obtain ⟨t', ht⟩ := map_succeeds (t := t) (g := fun r ↦ if Row.id r = id then f r else r)
    (fun r ↦ by split_ifs <;> simp [hid]) (fun u hm r ↦ by split_ifs <;> simp [hu u hm])
  exact ⟨t', update_eq_ok.mpr ⟨h, store_eq_ok.mp ht⟩⟩

theorem updateMany_succeeds {t : Table ρ} {p : ρ → Bool} {f : ρ → ρ}
    (hid : ∀ r, Row.id (f r) = Row.id r) (hu : ∀ u ∈ Row.uniques, ∀ r, u (f r) = u r) :
    ∃ t', t.updateMany p f = .ok t' :=
  map_succeeds (fun r ↦ by split_ifs <;> simp [hid]) fun u hm r ↦ by split_ifs <;> simp [hu u hm]

theorem exists_create {t : Table ρ} {r : ρ} :
    (∃ t' : Table ρ, t'.rows = t.rows ++ [r]) ↔ ∀ a ∈ t.rows, clash a r = false := by
  constructor
  · rintro ⟨t', ht⟩ a ha
    have hp := t'.apart
    rw [ht, List.pairwise_append] at hp
    exact hp.2.2 a ha r (by simp)
  · intro h
    obtain ⟨t', ht⟩ := create_succeeds h
    exact ⟨t', create_eq_ok.mp ht⟩

/-- An update that keeps the key is possible if the new row clashes with no other. -/
theorem exists_update {t : Table ρ} {id : String} (f : ρ → ρ)
    (hid : ∀ r, Row.id (f r) = Row.id r) :
    (∃ t' : Table ρ, t'.rows = updateRows id f t.rows) ↔
      ∀ a ∈ t.rows, Row.id a = id → ∀ b ∈ t.rows, Row.id b ≠ id → clash (f a) b = false := by
  constructor
  · rintro ⟨t', ht⟩ a ha haid b hb hbid
    have hfa : f a ∈ t'.rows := ht ▸ mem_updateRows.mpr (.inl ⟨a, ha, haid, rfl⟩)
    have hb' : b ∈ t'.rows := ht ▸ mem_updateRows.mpr (.inr ⟨hb, hbid⟩)
    refine t'.apart.forall hfa hb' fun he ↦ hbid ?_
    rw [← he, hid, haid]
  · intro h
    have hp : (updateRows id f t.rows).Pairwise fun a b ↦ clash a b = false := by
      rw [updateRows, List.pairwise_map]
      refine t.apart.imp_of_mem fun {a b} ha hb hab ↦ ?_
      have hne : Row.id a ≠ Row.id b := fun he ↦ by simp [clash_of_id he] at hab
      split_ifs with h₁ h₂ h₂
      · exact absurd (h₁.trans h₂.symm) hne
      · exact h a ha h₁ b hb h₂
      · exact Std.Symm.symm (r := fun a b : ρ ↦ clash a b = false) _ _ (h b hb h₂ a ha h₁)
      · exact hab
    exact ⟨⟨_, hp⟩, rfl⟩

/-- Reading a column that an update keeps. -/
theorem find?_updateRows {id : String} (f : ρ → ρ) {rows : List ρ}
    {p : ρ → Bool} (h : ∀ r, p (f r) = p r) : (updateRows id f rows).find? p =
      (rows.find? p).map fun r ↦ if Row.id r = id then f r else r := by
  rw [updateRows, List.find?_map]
  congr 2
  funext r
  simp only [Function.comp_apply]
  split_ifs
  · exact h r
  · rfl

theorem updateRows_twice {id : String} {f : ρ → ρ} {rows : List ρ}
    (hid : ∀ r, Row.id (f r) = Row.id r) (hf : ∀ r, f (f r) = f r) :
    updateRows id f (updateRows id f rows) = updateRows id f rows := by
  simp only [updateRows, List.map_map]
  refine List.map_congr_left fun r _ ↦ ?_
  simp only [Function.comp_apply]
  by_cases h : Row.id r = id
  · rw [if_pos h, if_pos (by rw [hid, h]), hf]
  · rw [if_neg h, if_neg h]

/-- Two updates of one row that a view does not tell apart. -/
theorem map_updateRows_congr {β : Type} {id : String} {f g : ρ → ρ} {rows : List ρ} {v : ρ → β}
    (h : ∀ r, v (f r) = v (g r)) :
    (updateRows id f rows).map v = (updateRows id g rows).map v := by
  simp only [updateRows, List.map_map]
  refine List.map_congr_left fun r _ ↦ ?_
  simp only [Function.comp_apply]
  split_ifs
  · exact h r
  · rfl

/-- Counting over an update: a predicate the rewriting keeps counts the same. -/
theorem countP_updateRows {id : String} {f : ρ → ρ} {rows : List ρ} {p : ρ → Bool}
    (h : ∀ r ∈ rows, Row.id r = id → p (f r) = p r) :
    (updateRows id f rows).countP p = rows.countP p := by
  rw [updateRows, List.countP_map]
  refine List.countP_congr fun r hr ↦ ?_
  simp only [Function.comp_apply]
  split_ifs with hid
  · rw [h r hr hid]
  · exact Iff.rfl

/-- An update leaves out what a filter leaves out before and after. -/
theorem filter_updateRows_apart {id : String} {f : ρ → ρ} {rows : List ρ} {p : ρ → Bool}
    (h : ∀ r ∈ rows, Row.id r = id → p r = false ∧ p (f r) = false) :
    (updateRows id f rows).filter p = rows.filter p := by
  induction rows with
  | nil => rfl
  | cons r rows ih =>
    have hrest := ih fun s hs ↦ h s (List.mem_cons_of_mem _ hs)
    rw [updateRows, List.map_cons, List.filter_cons, List.filter_cons, ← updateRows, hrest]
    split_ifs with hid hnew hold hold
    · rw [(h r List.mem_cons_self hid).2] at hnew
      cases hnew
    · rw [(h r List.mem_cons_self hid).2] at hnew
      cases hnew
    · rw [(h r List.mem_cons_self hid).1] at hold
      cases hold
    · rfl
    · rfl
    · rfl

/-- Counting over an update of the row that has the key. -/
theorem countP_update_row {t : Table ρ} {id : String} {f : ρ → ρ} {p : ρ → Bool} {old : ρ}
    (h : t.get? id = some old) :
    (updateRows id f t.rows).countP p + (p old).toNat = t.rows.countP p + (p (f old)).toNat := by
  obtain ⟨hmem, hid⟩ := get?_eq_some.mp h
  obtain ⟨before, after, hrows⟩ := List.append_of_mem hmem
  have hnodup := t.nodup_ids
  rw [hrows, List.map_append, List.map_cons, List.nodup_append] at hnodup
  obtain ⟨-, hafter, hapart⟩ := hnodup
  have hkeep : ∀ rows : List ρ, (∀ r ∈ rows, Row.id r ≠ id) → updateRows id f rows = rows := by
    intro rows hne
    refine (List.map_congr_left fun r hr ↦ ?_).trans (List.map_id rows)
    rw [if_neg (hne r hr)]
    rfl
  have hsplit : updateRows id f t.rows = before ++ f old :: after := by
    rw [hrows, updateRows, List.map_append, List.map_cons, if_pos hid]
    congr 1
    · refine hkeep before fun r hr he ↦ ?_
      exact hapart _ (List.mem_map_of_mem hr) _ List.mem_cons_self (he.trans hid.symm)
    · refine congrArg (f old :: ·) (hkeep after fun r hr he ↦ ?_)
      exact (List.nodup_cons.mp hafter).1 (hid.trans he.symm ▸ List.mem_map_of_mem hr)
  rw [hsplit, hrows, List.countP_append, List.countP_append, List.countP_cons, List.countP_cons]
  cases p old <;> cases p (f old) <;> simp <;> omega

/-- An update adds at most one to a count, and only if the new row may count. -/
theorem countP_update_le {t t' : Table ρ} {id : String} {f : ρ → ρ} {p : ρ → Bool} {c : Prop}
    [Decidable c] (h : t.update id f = .ok t')
    (hc : ∀ r ∈ t.rows, Row.id r = id → p (f r) = true → c) :
    t'.rows.countP p ≤ t.rows.countP p + if c then 1 else 0 := by
  obtain ⟨⟨old, hold, hid⟩, hrows⟩ := update_eq_ok.mp h
  have hcount := countP_update_row (f := f) (p := p) (get?_eq_some.mpr ⟨hold, hid⟩)
  rw [hrows]
  cases hp : p (f old) with
  | true =>
    rw [hp, Bool.toNat_true] at hcount
    rw [if_pos (hc old hold hid hp)]
    omega
  | false =>
    rw [hp, Bool.toNat_false] at hcount
    omega

/-- At most one row has a given value in a unique column. -/
theorem countP_unique_le (t : Table ρ) {u : ρ → Option String} (hu : u ∈ Row.uniques)
    (k : String) : t.rows.countP (fun r ↦ u r == some k) ≤ 1 := by
  obtain ⟨rows, hapart⟩ := t
  induction rows with
  | nil => simp
  | cons a rows ih =>
    rw [List.pairwise_cons] at hapart
    rw [List.countP_cons]
    split_ifs with ha
    · have hzero : rows.countP (fun r ↦ u r == some k) = 0 := by
        rw [List.countP_eq_zero]
        intro b hb hk
        have hc := hapart.1 b hb
        rw [clash_of_unique hu (beq_iff_eq.mp ha) (beq_iff_eq.mp hk)] at hc
        cases hc
      simp [hzero]
    · exact ih hapart.2

theorem countP_unique_eq_one {t : Table ρ} {u : ρ → Option String} (hu : u ∈ Row.uniques)
    {k : String} : t.rows.countP (fun r ↦ u r == some k) = 1 ↔ ∃ r ∈ t.rows, u r = some k := by
  have hle := t.countP_unique_le hu k
  constructor
  · intro h
    have hpos : 0 < t.rows.countP (fun r ↦ u r == some k) := by omega
    obtain ⟨r, hr, hk⟩ := List.countP_pos_iff.mp hpos
    exact ⟨r, hr, beq_iff_eq.mp hk⟩
  · intro h
    obtain ⟨r, hr, hk⟩ := h
    have hpos : 0 < t.rows.countP (fun r ↦ u r == some k) :=
      List.countP_pos_iff.mpr ⟨r, hr, beq_iff_eq.mpr hk⟩
    omega

/-- A table that grew by rows under two keys, which may be the same. -/
theorem countP_two_keys {t t' : Table ρ} {u : ρ → Option String} (hu : u ∈ Row.uniques)
    {p : ρ → Bool} {k l : String} (hrows : t.rows <+: t'.rows)
    (hk : ∃ r ∈ t'.rows, u r = some k) (hl : ∃ r ∈ t'.rows, u r = some l)
    (hfree : ∀ r ∈ t.rows, u r ≠ some k ∧ u r ≠ some l)
    (hp : ∀ r ∈ t'.rows, r ∉ t.rows → (p r = true ↔ u r = some k ∨ u r = some l)) :
    t'.rows.countP p = t.rows.countP p + if k = l then 1 else 2 := by
  obtain ⟨new, hnew⟩ := hrows
  have hdisjoint : ∀ r ∈ new, r ∉ t.rows := by
    intro r hr hold
    have hnodup := List.Nodup.of_map _ t'.nodup_ids
    rw [← hnew] at hnodup
    exact (List.nodup_append.mp hnodup).2.2 r hold r hr rfl
  have hone (m : String) (hm : ∃ r ∈ t'.rows, u r = some m) (hmfree : ∀ r ∈ t.rows, u r ≠ some m) :
      new.countP (fun r ↦ u r == some m) = 1 := by
    have htotal := (countP_unique_eq_one hu).mpr hm
    have hzero : t.rows.countP (fun r ↦ u r == some m) = 0 :=
      List.countP_eq_zero.mpr fun r hr ↦ by simpa using hmfree r hr
    rw [← hnew, List.countP_append, hzero, Nat.zero_add] at htotal
    exact htotal
  have hkone := hone k hk fun r hr ↦ (hfree r hr).1
  have hlone := hone l hl fun r hr ↦ (hfree r hr).2
  have hnewp : ∀ r ∈ new, p r = true ↔ u r = some k ∨ u r = some l := fun r hr ↦
    hp r (by rw [← hnew]; exact List.mem_append_right _ hr) (hdisjoint r hr)
  rw [← hnew, List.countP_append, Nat.add_left_cancel_iff]
  split_ifs with hkl
  · rw [← hkone]
    refine List.countP_congr fun r hr ↦ ?_
    rw [hnewp r hr, ← hkl, or_self, beq_iff_eq]
  · rw [List.countP_eq_countP_filter_add new p fun r ↦ u r == some k, List.countP_filter,
      List.countP_filter]
    have hleft : new.countP (fun r ↦ p r && u r == some k) = 1 := by
      rw [← hkone]
      refine List.countP_congr fun r hr ↦ ?_
      rw [Bool.and_eq_true, beq_iff_eq, hnewp r hr]
      exact ⟨fun h ↦ h.2, fun h ↦ ⟨.inl h, h⟩⟩
    have hright : new.countP (fun r ↦ p r && !(u r == some k)) = 1 := by
      rw [← hlone]
      refine List.countP_congr fun r hr ↦ ?_
      rw [Bool.and_eq_true, beq_iff_eq, hnewp r hr, Bool.not_eq_true', beq_eq_false_iff_ne]
      constructor
      · intro h
        exact h.1.resolve_left h.2
      · intro h
        refine ⟨.inr h, fun hk' ↦ hkl ?_⟩
        rw [h] at hk'
        exact (Option.some.inj hk').symm
    rw [hleft, hright]

theorem get?_map {ρ' : Type} [Row ρ'] {t : Table ρ} {f : ρ → ρ'}
    (hf : ∀ a b, clash a b = false → clash (f a) (f b) = false)
    (hid : ∀ r, Row.id (f r) = Row.id r) (id : String) : (t.map f hf).get? id = (t.get? id).map f := by
  simp only [get?, find?, map, List.find?_map]
  congr 2
  funext r
  simp only [Function.comp_apply, hid]

theorem get?_create {t t' : Table ρ} {r : ρ} (h : t.create r = .ok t') (id : String) :
    t'.get? id = if Row.id r = id then some r else t.get? id := by
  have hr := create_eq_ok.mp h
  split_ifs with hid
  · exact get?_eq_some.mpr ⟨by simp [hr], hid⟩
  · simp only [get?, find?, hr, List.find?_append, List.find?_singleton, beq_iff_eq, if_neg hid,
      Option.or_none]

/-- A new row neither takes nor changes a key that is there. -/
theorem get?_create_taken {t t' : Table ρ} {a r : ρ} {id : String} (ha : t.get? id = some a)
    (h : t.create r = .ok t') : Row.id r ≠ id ∧ t'.get? id = some a := by
  obtain ⟨hmem, hid⟩ := get?_eq_some.mp ha
  have hne : Row.id r ≠ id := by
    intro he
    rw [create_refused hmem (clash_of_id (hid.trans he.symm))] at h
    cases h
  exact ⟨hne, by rw [get?_create h, if_neg hne, ha]⟩

theorem get?_update {t t' : Table ρ} {id : String} {f : ρ → ρ} (h : t.update id f = .ok t')
    (hid : ∀ r, Row.id (f r) = Row.id r) (k : String) :
    t'.get? k = if k = id then (t.get? id).map f else t.get? k := by
  obtain ⟨⟨r, hr, hrid⟩, hrows⟩ := update_eq_ok.mp h
  split_ifs with hk
  · subst hk
    rw [get?_eq_some.mpr ⟨hr, hrid⟩, Option.map_some, get?_eq_some, hrows, mem_updateRows]
    exact ⟨.inl ⟨r, hr, hrid, rfl⟩, by rw [hid, hrid]⟩
  · cases hg : t.get? k with
    | none =>
      rw [get?_eq_none] at hg ⊢
      intro a ha
      rw [hrows, mem_updateRows] at ha
      rcases ha with ⟨b, hb, _, rfl⟩ | ⟨ha, _⟩
      · rw [hid]; exact hg b hb
      · exact hg a ha
    | some a =>
      rw [get?_eq_some] at hg ⊢
      rw [hrows, mem_updateRows]
      exact ⟨.inr ⟨hg.1, by rw [hg.2]; exact hk⟩, hg.2⟩

/-- A row with the key, if there is one, meets `p`. -/
def RowAt (t : Table ρ) (id : String) (p : ρ → Prop) : Prop := ∀ r, t.get? id = some r → p r

/-- An update keeps what it keeps of the row that it is for. -/
theorem RowAt.update {t t' : Table ρ} {id k : String} {f : ρ → ρ} {p : ρ → Prop}
    (ht : t.RowAt id p) (h : t.update k f = .ok t') (hid : ∀ r, Row.id (f r) = Row.id r)
    (hp : ∀ r, t.get? id = some r → p r → id = k → p (f r)) : t'.RowAt id p := by
  intro r hr
  rw [get?_update h hid] at hr
  split_ifs at hr with hk
  · obtain ⟨old, hold, rfl⟩ := Option.map_eq_some_iff.mp hr
    rw [← hk] at hold
    exact hp old hold (ht old hold) hk
  · exact ht r hr

/-- What an update makes of every row, the row that it is for is. -/
theorem rowAt_updated {t t' : Table ρ} {id : String} {f : ρ → ρ} {p : ρ → Prop}
    (h : t.update id f = .ok t') (hid : ∀ r, Row.id (f r) = Row.id r) (hp : ∀ r, p (f r)) :
    t'.RowAt id p := by
  intro r hr
  rw [get?_update h hid, if_pos rfl] at hr
  obtain ⟨old, -, rfl⟩ := Option.map_eq_some_iff.mp hr
  exact hp old

theorem delete_eq_ok {t t' : Table ρ} {id : String} : t.delete id = .ok t' ↔
    (∃ r ∈ t.rows, Row.id r = id) ∧ t'.rows = t.rows.filter fun r ↦ !(Row.id r == id) := by
  rw [delete, ← has_iff]
  split_ifs with hid
  · rw [Except.ok.injEq, and_iff_right hid]
    constructor
    · rintro rfl
      rfl
    · intro hrows
      cases t'
      cases hrows
      rfl
  · exact ⟨nofun, fun h ↦ absurd h.1 hid⟩

theorem get?_delete {t t' : Table ρ} {id : String} (h : t.delete id = .ok t') (k : String) :
    t'.get? k = if k = id then none else t.get? k := by
  have hrows := (delete_eq_ok.mp h).2
  split_ifs with hk
  · rw [get?_eq_none, hrows]
    intro r hr
    simpa [hk] using (List.mem_filter.mp hr).2
  · refine Option.ext fun r ↦ ?_
    rw [get?_eq_some, get?_eq_some, hrows, List.mem_filter]
    refine and_congr_left fun hrk ↦ and_iff_left ?_
    simpa [hrk] using hk

theorem get?_deleteMany {t : Table ρ} {p : ρ → Bool} (k : String) :
    (t.deleteMany p).get? k = (t.get? k).filter fun r ↦ !p r := by
  refine Option.ext fun r ↦ ?_
  rw [get?_eq_some, Option.filter_eq_some_iff, get?_eq_some, deleteMany, List.mem_filter]
  constructor
  · rintro ⟨⟨hr, hp⟩, hid⟩
    exact ⟨⟨hr, hid⟩, hp⟩
  · rintro ⟨⟨hr, hid⟩, hp⟩
    exact ⟨⟨hr, hp⟩, hid⟩

/-- Counting without the row that has the key. -/
theorem countP_delete {t t' : Table ρ} {id : String} {p : ρ → Bool} {old : ρ}
    (h : t.delete id = .ok t') (hold : t.get? id = some old) :
    t'.rows.countP p + (p old).toNat = t.rows.countP p := by
  obtain ⟨hmem, hid⟩ := get?_eq_some.mp hold
  obtain ⟨before, after, hrows⟩ := List.append_of_mem hmem
  have hnodup := t.nodup_ids
  rw [hrows, List.map_append, List.map_cons, List.nodup_append] at hnodup
  obtain ⟨-, hafter, hapart⟩ := hnodup
  have hkeep : ∀ rows : List ρ, (∀ r ∈ rows, Row.id r ≠ id) →
      (rows.filter fun r ↦ !(Row.id r == id)) = rows := by
    intro rows hne
    exact List.filter_eq_self.mpr fun r hr ↦ by simpa using hne r hr
  have hsplit : t'.rows = before ++ after := by
    rw [(delete_eq_ok.mp h).2, hrows, List.filter_append, List.filter_cons_of_neg (by simp [hid])]
    congr 1
    · refine hkeep before fun r hr he ↦ ?_
      exact hapart _ (List.mem_map_of_mem hr) _ List.mem_cons_self (he.trans hid.symm)
    · refine hkeep after fun r hr he ↦ ?_
      exact (List.nodup_cons.mp hafter).1 (hid.trans he.symm ▸ List.mem_map_of_mem hr)
  rw [hsplit, hrows, List.countP_append, List.countP_append, List.countP_cons]
  cases p old <;> simp
  omega

theorem get?_updateMany {t t' : Table ρ} {p : ρ → Bool} {f : ρ → ρ} (h : t.updateMany p f = .ok t')
    (hid : ∀ r, Row.id (f r) = Row.id r) (k : String) :
    t'.get? k = (t.get? k).map fun r ↦ if p r then f r else r := by
  have hrow (r : ρ) : Row.id (if p r then f r else r) = Row.id r := by
    split_ifs
    · exact hid r
    · rfl
  rw [get?, find?, store_eq_ok.mp h, List.find?_map]
  congr 2
  funext r
  simp only [Function.comp_apply, hrow]

/-- A conditional update of one row that has found it. -/
theorem get?_updateMany_found {t t' : Table ρ} {p : ρ → Bool} {f : ρ → ρ} {k : String}
    (h : t.updateMany p f = .ok t') (hid : ∀ r, Row.id (f r) = Row.id r)
    (hp : ∀ r, p r = true → Row.id r = k) (hfound : t.rows.countP p ≠ 0) :
    (∃ r, t.get? k = some r ∧ p r = true) ∧
      ∀ id, t'.get? id = (t.get? id).map fun r ↦ if id = k then f r else r := by
  obtain ⟨r, hr, hpr⟩ := List.countP_pos_iff.mp (Nat.pos_of_ne_zero hfound)
  have hget := get?_eq_some.mpr ⟨hr, hp r hpr⟩
  refine ⟨⟨r, hget, hpr⟩, fun id ↦ ?_⟩
  rw [get?_updateMany h hid]
  refine Option.map_congr fun s hs ↦ ?_
  have hsid : Row.id s = id := (get?_eq_some.mp hs).2
  by_cases hk : id = k
  · subst hk
    rw [Option.mem_def.mp hs] at hget
    rw [if_pos rfl, Option.some.inj hget, if_pos hpr]
  · rw [if_neg hk, if_neg fun hps ↦ hk (hsid.symm.trans (hp s hps))]

end Table

/-- Rewritten rows that a predicate no longer counts. -/
theorem countP_map_drop {ρ : Type} {p q : ρ → Bool} {f : ρ → ρ} (h : ∀ r, q r = true → p (f r) = false)
    (rows : List ρ) : (rows.map fun r ↦ if q r then f r else r).countP p +
      rows.countP (fun r ↦ p r && q r) = rows.countP p := by
  induction rows with
  | nil => rfl
  | cons r rows ih =>
    simp only [List.map_cons, List.countP_cons]
    cases hq : q r with
    | true =>
      simp only [if_pos, h r hq, Bool.and_true, Bool.false_eq_true, if_false]
      omega
    | false =>
      simp only [Bool.false_eq_true, if_false, Bool.and_false]
      omega

end Innovents.Lib
