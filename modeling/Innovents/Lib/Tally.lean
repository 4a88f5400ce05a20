import Innovents.Lib.Table
import Mathlib.Algebra.Order.Group.Unbundled.Int
import Mathlib.Data.Int.Basic

namespace Innovents.Lib

variable {ρ κ : Type}

/-- What the row adds to the number of its owner. -/
def weight (counts : ρ → Bool) (r : ρ) : ℤ := if counts r then 1 else 0

theorem weight_of (owner : ρ → String) (counts : ρ → Bool) (k : String) (r : ρ) :
    ((owner r == k && counts r).toNat : ℤ) = if k = owner r then weight counts r else 0 := by
  unfold weight
  by_cases hk : k = owner r
  · cases counts r <;> simp [hk]
  · simp [hk, Ne.symm hk]

variable [Row ρ] [Row κ]

/-- The number of the owner `k` moves by `change`, and its key stays. -/
def NumberMoved (number : κ → ℤ) (k : String) (change : ℤ) (owners owners' : Table κ) : Prop :=
  ∃ f : κ → κ, owners.update k f = .ok owners' ∧
    ∀ o, Row.id (f o) = Row.id o ∧ number (f o) = number o + change

/-- How many rows count for the owner `k`. -/
def counted (owner : ρ → String) (counts : ρ → Bool) (k : String) (rows : Table ρ) : ℕ :=
  rows.rows.countP fun r ↦ owner r == k && counts r

/-- Every row belongs to an owner, whose number is that of its rows that count. -/
structure Tallied (owner : ρ → String) (counts : ρ → Bool) (number : κ → ℤ) (rows : Table ρ)
    (owners : Table κ) : Prop where
  known : ∀ r ∈ rows.rows, (owners.get? (owner r)).isSome = true
  tally : ∀ k o, owners.get? k = some o → number o = counted owner counts k rows

variable {owner : ρ → String} {counts : ρ → Bool} {number : κ → ℤ} {rows rows' : Table ρ}
  {owners owners' : Table κ} {id k : String} {change : ℤ} {r : ρ} {f : ρ → ρ}

theorem NumberMoved.lookup (h : NumberMoved number k change owners owners') {k' : String} {o : κ}
    (ho : owners'.get? k' = some o) : ∃ old, owners.get? k' = some old ∧
      number o = number old + if k' = k then change else 0 := by
  obtain ⟨f, hupdate, hf⟩ := h
  rw [Table.get?_update hupdate fun o ↦ (hf o).1] at ho
  split_ifs at ho with hk
  · subst hk
    obtain ⟨old, hold, rfl⟩ := Option.map_eq_some_iff.mp ho
    exact ⟨old, hold, by rw [if_pos rfl, (hf old).2]⟩
  · exact ⟨o, ho, by rw [if_neg hk, add_zero]⟩

theorem NumberMoved.kept (h : NumberMoved number k change owners owners') {k' : String}
    (hk' : (owners.get? k').isSome = true) : (owners'.get? k').isSome = true := by
  obtain ⟨f, hupdate, hf⟩ := h
  rw [Table.get?_update hupdate fun o ↦ (hf o).1]
  split_ifs with hk
  · rw [Option.isSome_map, ← hk]
    exact hk'
  · exact hk'

theorem NumberMoved.found (h : NumberMoved number k change owners owners') :
    (owners'.get? k).isSome = true := by
  refine h.kept ?_
  obtain ⟨f, hupdate, -⟩ := h
  obtain ⟨⟨o, ho, hid⟩, -⟩ := Table.update_eq_ok.mp hupdate
  rw [Table.get?_eq_some.mpr ⟨ho, hid⟩, Option.isSome_some]

theorem Tallied.nonneg (h : Tallied owner counts number rows owners) {o : κ}
    (ho : owners.get? k = some o) : 0 ≤ number o := by
  rw [h.tally k o ho]
  exact Int.natCast_nonneg _

/-- The rows of one owner change, and its number moves alike. -/
theorem Tallied.moved (h : Tallied owner counts number rows owners)
    (hmoved : NumberMoved number k change owners owners')
    (hrows : ∀ r ∈ rows'.rows, owner r = k ∨ r ∈ rows.rows)
    (hcount : ∀ k', (counted owner counts k' rows' : ℤ) =
      counted owner counts k' rows + if k' = k then change else 0) :
    Tallied owner counts number rows' owners' := by
  constructor
  · intro r hr
    rcases hrows r hr with hk | hold
    · rw [hk]
      exact hmoved.found
    · exact hmoved.kept (h.known r hold)
  · intro k' o ho
    obtain ⟨old, hold, hnumber⟩ := hmoved.lookup ho
    rw [hnumber, h.tally k' old hold, hcount]

theorem Tallied.created (h : Tallied owner counts number rows owners)
    (hrows : rows.create r = .ok rows')
    (hmoved : NumberMoved number (owner r) (weight counts r) owners owners') :
    Tallied owner counts number rows' owners' := by
  have hcreated := Table.create_eq_ok.mp hrows
  refine h.moved hmoved (fun s hs ↦ ?_) fun k' ↦ ?_
  · rw [hcreated] at hs
    rcases List.mem_append.mp hs with hold | hnew
    · exact .inr hold
    · exact .inl (congrArg owner (List.mem_singleton.mp hnew))
  · rw [← weight_of, counted, counted, hcreated, List.countP_append, List.countP_singleton]
    cases owner r == k' && counts r <;> simp

theorem Tallied.deleted (h : Tallied owner counts number rows owners)
    (hrows : rows.delete id = .ok rows') (hr : rows.get? id = some r)
    (hmoved : NumberMoved number (owner r) (-weight counts r) owners owners') :
    Tallied owner counts number rows' owners' := by
  refine h.moved hmoved (fun s hs ↦ ?_) fun k' ↦ ?_
  · rw [(Table.delete_eq_ok.mp hrows).2] at hs
    exact .inr (List.mem_filter.mp hs).1
  · have hcount := Table.countP_delete (p := fun r ↦ owner r == k' && counts r) hrows hr
    have hweight := weight_of owner counts k' r
    rw [counted, counted]
    split_ifs at hweight ⊢ <;> omega

/-- The row stays with its owner. -/
theorem Tallied.updated (h : Tallied owner counts number rows owners)
    (hrows : rows.update id f = .ok rows') (hr : rows.get? id = some r)
    (howner : ∀ r, owner (f r) = owner r)
    (hmoved : NumberMoved number (owner r) (weight counts (f r) - weight counts r) owners owners') :
    Tallied owner counts number rows' owners' := by
  refine h.moved hmoved (fun s hs ↦ ?_) fun k' ↦ ?_
  · rw [(Table.update_eq_ok.mp hrows).2, Table.mem_updateRows] at hs
    rcases hs with ⟨a, ha, hid, rfl⟩ | ⟨hs, -⟩
    · cases (Table.get?_eq_some.mpr ⟨ha, hid⟩).symm.trans hr
      exact .inl (howner _)
    · exact .inr hs
  · have hcount := Table.countP_update_row (f := f) (p := fun r ↦ owner r == k' && counts r) hr
    have hold := weight_of owner counts k' r
    have hnew := weight_of owner counts k' (f r)
    rw [howner] at hnew
    rw [counted, counted, (Table.update_eq_ok.mp hrows).2]
    rw [howner] at hcount
    split_ifs at hold hnew ⊢ <;> omega

/-- A change that leaves the number of the owner alone. -/
theorem Tallied.kept (h : Tallied owner counts number rows owners)
    (hmoved : NumberMoved number k 0 owners owners') : Tallied owner counts number rows owners' :=
  h.moved hmoved (fun _ hr ↦ .inr hr) fun _ ↦ by rw [ite_self, add_zero]

/-- A new owner, with its first row. -/
theorem Tallied.founded (h : Tallied owner counts number rows owners) {o : κ}
    (howners : owners.create o = .ok owners') (hrows : rows.create r = .ok rows')
    (hr : owner r = Row.id o) (hnumber : number o = weight counts r) :
    Tallied owner counts number rows' owners' := by
  have hcreated := Table.create_eq_ok.mp hrows
  constructor
  · intro s hs
    rw [hcreated] at hs
    rw [Table.get?_create howners]
    split_ifs with hid
    · rfl
    · rcases List.mem_append.mp hs with hold | hnew
      · exact h.known s hold
      · rw [List.mem_singleton.mp hnew] at hid
        exact absurd hr.symm hid
  · intro k x hx
    have hcount : (counted owner counts k rows' : ℤ) =
        counted owner counts k rows + if k = owner r then weight counts r else 0 := by
      rw [← weight_of, counted, counted, hcreated, List.countP_append, List.countP_singleton]
      cases owner r == k && counts r <;> simp
    rw [Table.get?_create howners] at hx
    split_ifs at hx with hid
    · -- nothing belonged to the owner before
      have hnone : counted owner counts k rows = 0 := by
        refine List.countP_eq_zero.mpr fun s hs hcounts ↦ ?_
        have hown : owner s = k := by simpa using (Bool.and_eq_true_iff.mp hcounts).1
        obtain ⟨a, ha⟩ := Option.isSome_iff_exists.mp (h.known s hs)
        exact (Table.get?_create_taken ha howners).1 (hid.trans hown.symm)
      cases hx
      rw [hcount, hnone, if_pos (hid.symm.trans hr.symm), hnumber, Int.natCast_zero, zero_add]
    · rw [hcount, if_neg fun hk ↦ hid (hr.symm.trans hk.symm), add_zero]
      exact h.tally k x hx

section Toggles

variable {user : ρ → String} {k' u u' : String}

/-- Whether the user `u` has a row of the owner `k`. -/
def has (owner user : ρ → String) (k u : String) (rows : Table ρ) : Bool :=
  rows.rows.any fun r ↦ owner r == k && user r == u

theorem has_iff : has owner user k u rows = true ↔ ∃ r ∈ rows.rows, owner r = k ∧ user r = u := by
  simp [has]

/-- The row of the owner `k` and the user `u` is deleted if there is one and created otherwise, and
the number of the owner moves alike. -/
inductive Toggled (owner user : ρ → String) (number : κ → ℤ) (k u : String) (rows : Table ρ)
    (owners : Table κ) (rows' : Table ρ) (owners' : Table κ) : Prop
  | removed (r : ρ) : r ∈ rows.rows → owner r = k → user r = u →
      rows.delete (Row.id r) = .ok rows' → NumberMoved number k (-1) owners owners' →
      Toggled owner user number k u rows owners rows' owners'
  | added (r : ρ) : owner r = k → user r = u → has owner user k u rows = false →
      rows.create r = .ok rows' → NumberMoved number k 1 owners owners' →
      Toggled owner user number k u rows owners rows' owners'

theorem Toggled.tallied (h : Toggled owner user number k u rows owners rows' owners')
    (hrows : Tallied owner (fun _ ↦ true) number rows owners) :
    Tallied owner (fun _ ↦ true) number rows' owners' := by
  cases h with
  | removed r hr hk hu hdelete hmoved =>
    subst hk
    exact hrows.deleted hdelete (Table.get?_eq_some.mpr ⟨hr, rfl⟩) hmoved
  | added r hk hu hnone hcreate hmoved =>
    subst hk
    exact hrows.created hcreate hmoved

/-- A toggle turns one pair of an owner and a user over, and no other. -/
theorem Toggled.has (h : Toggled owner user number k u rows owners rows' owners')
    (hkey : ∀ a ∈ rows.rows, ∀ b ∈ rows.rows, owner a = owner b → user a = user b → a = b)
    (k' u' : String) : has owner user k' u' rows' =
      (has owner user k' u' rows ^^ (k == k' && u == u')) := by
  cases h with
  | removed r hr hk hu hdelete hmoved =>
    have hrows := (Table.delete_eq_ok.mp hdelete).2
    by_cases hsame : k = k' ∧ u = u'
    · obtain ⟨rfl, rfl⟩ := hsame
      have hbefore : Lib.has owner user k u rows = true := has_iff.mpr ⟨r, hr, hk, hu⟩
      have hafter : Lib.has owner user k u rows' = false := by
        rw [← Bool.not_eq_true, has_iff, hrows]
        rintro ⟨a, ha, hak, hau⟩
        obtain ⟨hmem, hne⟩ := List.mem_filter.mp ha
        simp [hkey a hmem r hr (hak.trans hk.symm) (hau.trans hu.symm)] at hne
      simp [hbefore, hafter]
    · have hother : (k == k' && u == u') = false := by simpa using hsame
      rw [hother, Bool.xor_false, Bool.eq_iff_iff, has_iff, has_iff, hrows]
      constructor
      · intro h
        obtain ⟨a, ha, hkeys⟩ := h
        exact ⟨a, (List.mem_filter.mp ha).1, hkeys⟩
      · intro h
        obtain ⟨a, ha, hak, hau⟩ := h
        refine ⟨a, List.mem_filter.mpr ⟨ha, ?_⟩, hak, hau⟩
        have hne : Row.id a ≠ Row.id r := by
          intro hid
          rw [rows.eq_of_id ha hr hid] at hak hau
          exact hsame ⟨hk.symm.trans hak, hu.symm.trans hau⟩
        simpa using hne
  | added r hk hu hnone hcreate hmoved =>
    have hrows : Lib.has owner user k' u' rows' =
        (Lib.has owner user k' u' rows || (k == k' && u == u')) := by
      rw [Lib.has, Table.create_eq_ok.mp hcreate, List.any_append, List.any_cons, List.any_nil, hk,
        hu, Bool.or_false]
      rfl
    rw [hrows]
    cases hsame : (k == k' && u == u') with
    | false => rw [Bool.or_false, Bool.xor_false]
    | true =>
      rw [Bool.and_eq_true, beq_iff_eq, beq_iff_eq] at hsame
      rw [← hsame.1, ← hsame.2, hnone]
      rfl

end Toggles

end Innovents.Lib
