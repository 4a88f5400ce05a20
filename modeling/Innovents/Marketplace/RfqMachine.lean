import Innovents.Marketplace.Schema
import Mathlib.Data.List.Nodup

namespace Innovents.Marketplace

/-- What a quotation is about, apart from its amounts. -/
structure QuotationView where
  id : String
  version : ℕ
  status : QuotationStatus
  deriving DecidableEq

/-- An RFQ with its quotations in the order of their creation. -/
structure RfqView where
  status : Option RfqStatus
  quotations : List QuotationView
  deriving DecidableEq

/-- The ways in which an RFQ develops. -/
inductive RfqMove
  | become (status : RfqStatus)
  | quote (id : String)
  | accept (id : String)
  | reject (id : String)
  | close (status : RfqStatus) (unanswered : QuotationStatus)

/-- What becomes of a pending quotation. -/
def QuotationView.settle (status : QuotationStatus) (q : QuotationView) : QuotationView :=
  if q.status = .pending then { q with status } else q

def RfqView.maxVersion (v : RfqView) : ℕ := (v.quotations.map QuotationView.version).foldr max 0

namespace RfqMove

def Enabled : RfqMove → RfqView → Prop
  | become status, _ => status ≠ .accepted
  | quote id, v => ∀ q ∈ v.quotations, q.id ≠ id
  | accept id, v => v.status ≠ some .accepted ∧ ∃ q ∈ v.quotations, q.id = id ∧ q.status = .pending
  | reject _, _ => True
  | close status unanswered, _ =>
    status ≠ .accepted ∧ unanswered ≠ .pending ∧ unanswered ≠ .accepted

def apply : RfqMove → RfqView → RfqView
  | become status, v => { v with status := some status }
  | quote id, v => ⟨some .quoted,
    (if 0 < v.maxVersion then v.quotations.map (QuotationView.settle .superseded) else v.quotations) ++
      [⟨id, v.maxVersion + 1, .pending⟩]⟩
  | accept id, v => ⟨some .accepted, v.quotations.map fun q ↦
    if q.id = id then { q with status := .accepted } else q.settle .superseded⟩
  | reject id, v =>
    { v with quotations := v.quotations.map fun q ↦
        if q.id = id then { q with status := .rejected } else q }
  | close status unanswered, v =>
    ⟨some status, v.quotations.map (QuotationView.settle unanswered)⟩

end RfqMove

section Quotations

variable {q : QuotationView} {status : QuotationStatus} {qs : List QuotationView} {id : String}

@[simp] theorem settle_id : (q.settle status).id = q.id := by
  unfold QuotationView.settle
  split_ifs <;> rfl

@[simp] theorem settle_version : (q.settle status).version = q.version := by
  unfold QuotationView.settle
  split_ifs <;> rfl

theorem settle_status : (q.settle status).status = if q.status = .pending then status else q.status := by
  unfold QuotationView.settle
  split_ifs <;> rfl

/-- Settled quotations are no longer pending. -/
theorem settle_not_pending (h : status ≠ .pending) : (q.settle status).status ≠ .pending := by
  rw [settle_status]
  split_ifs with hq
  · exact h
  · exact hq

theorem settle_accepted (h : status ≠ .accepted) :
    (q.settle status).status = .accepted ↔ q.status = .accepted := by
  rw [settle_status]
  split_ifs with hq
  · rw [hq]
    exact iff_of_false h (by decide)
  · exact Iff.rfl

theorem maxVersion_eq {n : ℕ} {v : RfqView}
    (h : v.quotations.map QuotationView.version = List.range' 1 n) : v.maxVersion = n := by
  rw [RfqView.maxVersion, h]
  clear h
  have hmax : ∀ s, (List.range' s n).foldr max 0 = if n = 0 then 0 else s + n - 1 := by
    induction n with
    | zero => intro s; rfl
    | succ n ih =>
      intro s
      rw [List.range'_succ, List.foldr_cons, ih, if_neg (Nat.succ_ne_zero n)]
      split_ifs
      · subst n
        simp
      · omega
  rw [hmax]
  split_ifs <;> omega

end Quotations

/-- The versions are `1` to `n`, and only the quotation with the last one can be pending. -/
structure Versioned (v : RfqView) : Prop where
  versions : v.quotations.map QuotationView.version = List.range' 1 v.quotations.length
  pending : ∀ q ∈ v.quotations, q.status = .pending → q.version = v.quotations.length

/-- The RFQ is accepted just when one of its quotations is, and no other quotation is then. -/
structure Agreed (v : RfqView) : Prop where
  ids : (v.quotations.map QuotationView.id).Nodup
  accepted : v.quotations.countP (fun q ↦ q.status == .accepted) =
    if v.status = some .accepted then 1 else 0

section Versions

variable {v : RfqView} {m : RfqMove} {f : QuotationView → QuotationView} {status : Option RfqStatus}

/-- A rewriting that makes no quotation pending. -/
theorem Versioned.map (h : Versioned v) (hversion : ∀ q, (f q).version = q.version)
    (hpending : ∀ q, (f q).status = .pending → q.status = .pending) :
    Versioned ⟨status, v.quotations.map f⟩ := by
  constructor
  · rw [List.map_map, List.length_map, ← h.versions]
    exact List.map_congr_left fun q _ ↦ hversion q
  · intro q hq hp
    obtain ⟨r, hr, rfl⟩ := List.mem_map.mp hq
    rw [hversion, List.length_map]
    exact h.pending r hr (hpending r hp)

theorem Versioned.apply (h : Versioned v) (hm : m.Enabled v) : Versioned (m.apply v) := by
  cases m with
  | become status => exact ⟨h.versions, h.pending⟩
  | quote id =>
    have hmax := maxVersion_eq h.versions
    have hold : ∃ qs : List QuotationView,
        (if 0 < v.maxVersion then v.quotations.map (QuotationView.settle .superseded)
          else v.quotations) = qs ∧ qs.map QuotationView.version = List.range' 1 v.quotations.length ∧
        qs.length = v.quotations.length ∧ ∀ q ∈ qs, q.status ≠ .pending := by
      refine ⟨_, rfl, ?_⟩
      split_ifs with hpos
      · refine ⟨?_, List.length_map .., fun q hq ↦ ?_⟩
        · rw [List.map_map, ← h.versions]
          exact List.map_congr_left fun q _ ↦ settle_version
        · obtain ⟨r, -, rfl⟩ := List.mem_map.mp hq
          exact settle_not_pending (by decide)
      · -- a positive version would be the greatest one
        have hnil : v.quotations = [] := List.length_eq_zero_iff.mp (by omega)
        simp [hnil]
    obtain ⟨qs, hqs, hversions, hlength, hnone⟩ := hold
    have hquoted : (RfqMove.quote id).apply v =
        ⟨some .quoted, qs ++ [⟨id, v.quotations.length + 1, .pending⟩]⟩ := by
      rw [RfqMove.apply, hqs, hmax]
    rw [hquoted]
    constructor
    · rw [List.map_append, hversions, List.length_append, hlength, List.length_singleton,
        List.range'_concat]
      simp [Nat.add_comm]
    · intro q hq hp
      rcases List.mem_append.mp hq with hq | hq
      · exact absurd hp (hnone q hq)
      · rw [List.mem_singleton.mp hq, List.length_append, hlength]
        rfl
  | accept id =>
    refine h.map (fun q ↦ ?_) fun q hp ↦ ?_
    · split_ifs
      · rfl
      · exact settle_version
    · split_ifs at hp
      exact absurd hp (settle_not_pending (by decide))
  | reject id =>
    refine h.map (fun q ↦ ?_) fun q hp ↦ ?_
    · split_ifs <;> rfl
    · split_ifs at hp
      exact hp
  | close status unanswered =>
    exact h.map (fun q ↦ settle_version) fun q hp ↦ absurd hp (settle_not_pending hm.2.1)

/-- At most one quotation is pending. -/
theorem Versioned.one_pending (h : Versioned v) :
    v.quotations.countP (fun q ↦ q.status == .pending) ≤ 1 := by
  have hle : v.quotations.countP (fun q ↦ q.status == .pending) ≤
      (v.quotations.map QuotationView.version).count v.quotations.length := by
    rw [List.count, List.countP_map]
    refine List.countP_mono_left fun q hq hp ↦ ?_
    rw [beq_iff_eq] at hp
    simp [h.pending q hq hp]
  refine hle.trans ?_
  rw [h.versions]
  exact List.nodup_iff_count_le_one.mp List.nodup_range' _

end Versions

section Agreement

variable {v : RfqView} {m : RfqMove} {status : Option RfqStatus} {qs : List QuotationView}

/-- An accepted RFQ is left alone, and so is an accepted quotation. -/
def RfqMove.Harmless : RfqMove → RfqView → Prop
  | accept _, _ => True
  | reject id, v => ∀ q ∈ v.quotations, q.id = id → q.status ≠ .accepted
  | _, v => v.status ≠ some .accepted

/-- The quotation is accepted. -/
def RfqView.Accepted (v : RfqView) (id : String) : Prop :=
  ∃ q ∈ v.quotations, q.id = id ∧ q.status = .accepted

theorem Agreed.status_eq (h : Agreed v) {id : String} (ha : v.Accepted id) :
    v.status = some .accepted := by
  by_contra hne
  have hzero := h.accepted
  rw [if_neg hne, List.countP_eq_zero] at hzero
  obtain ⟨q, hq, -, hstatus⟩ := ha
  exact hzero q hq (beq_iff_eq.mpr hstatus)

/-- Only one quotation is accepted. -/
theorem Agreed.accepted_unique (h : Agreed v) {id id' : String} (ha : v.Accepted id)
    (ha' : v.Accepted id') : id' = id := by
  have hone := h.accepted
  rw [if_pos (h.status_eq ha), List.countP_eq_length_filter] at hone
  obtain ⟨r, hr⟩ := List.length_eq_one_iff.mp hone
  have honly : ∀ {i}, v.Accepted i → i = r.id := by
    rintro i ⟨q, hq, rfl, hstatus⟩
    have hmem : q ∈ v.quotations.filter fun q ↦ q.status == .accepted :=
      List.mem_filter.mpr ⟨hq, beq_iff_eq.mpr hstatus⟩
    rw [hr] at hmem
    rw [List.mem_singleton.mp hmem]
  rw [honly ha, honly ha']

theorem Agreed.none_accepted (h : Agreed v) (hne : v.status ≠ some .accepted) :
    ∀ q ∈ v.quotations, q.status ≠ .accepted :=
  fun q hq ha ↦ hne (h.status_eq ⟨q, hq, rfl, ha⟩)

theorem Agreed.of_none (hids : (qs.map QuotationView.id).Nodup) (hstatus : status ≠ some .accepted)
    (hnone : ∀ q ∈ qs, q.status ≠ .accepted) : Agreed ⟨status, qs⟩ := by
  refine ⟨hids, ?_⟩
  rw [if_neg hstatus, List.countP_eq_zero]
  exact fun q hq ha ↦ hnone q hq (beq_iff_eq.mp ha)

theorem map_ids {f : QuotationView → QuotationView} (hf : ∀ q, (f q).id = q.id) :
    (qs.map f).map QuotationView.id = qs.map QuotationView.id := by
  rw [List.map_map]
  exact List.map_congr_left fun q _ ↦ hf q

theorem Agreed.apply (h : Agreed v) (hm : m.Enabled v) (hharmless : m.Harmless v) :
    Agreed (m.apply v) := by
  have hsettled : ∀ unanswered, unanswered ≠ .accepted → v.status ≠ some .accepted →
      ∀ q ∈ v.quotations.map (QuotationView.settle unanswered), q.status ≠ .accepted := by
    intro unanswered hne hopen q hq
    obtain ⟨r, hr, rfl⟩ := List.mem_map.mp hq
    rw [Ne, settle_accepted hne]
    exact h.none_accepted hopen r hr
  cases m with
  | become status =>
    exact .of_none h.ids (fun he ↦ hm (Option.some.inj he)) (h.none_accepted hharmless)
  | quote id =>
    refine .of_none ?_ (by decide) fun q hq ↦ ?_
    · have hids : (if 0 < v.maxVersion then v.quotations.map (QuotationView.settle .superseded)
          else v.quotations).map QuotationView.id = v.quotations.map QuotationView.id := by
        split_ifs
        · exact map_ids fun q ↦ settle_id
        · rfl
      rw [List.map_append, hids, List.map_singleton]
      refine List.nodup_append.mpr ⟨h.ids, List.nodup_singleton _, fun a ha b hb ↦ ?_⟩
      obtain ⟨q, hq, rfl⟩ := List.mem_map.mp ha
      rw [List.mem_singleton.mp hb]
      exact hm q hq
    · rcases List.mem_append.mp hq with hq | hq
      · split_ifs at hq
        · exact hsettled _ (by decide) hharmless q hq
        · exact h.none_accepted hharmless q hq
      · rw [List.mem_singleton.mp hq]
        exact QuotationStatus.noConfusion
  | accept id =>
    obtain ⟨hopen, hmem⟩ := hm
    refine ⟨?_, ?_⟩
    · show (List.map _ (List.map _ _)).Nodup
      rw [map_ids]
      · exact h.ids
      · intro q
        split_ifs
        · rfl
        · exact settle_id
    · -- the quotation is the only one with its id
      show (List.map _ _).countP _ = 1
      rw [List.countP_map]
      have hcount : (v.quotations.map QuotationView.id).count id = 1 := by
        obtain ⟨q, hq, hid, -⟩ := hmem
        exact List.count_eq_one_of_mem h.ids (hid ▸ List.mem_map_of_mem hq)
      rw [← hcount, List.count, List.countP_map]
      refine List.countP_congr fun q hq ↦ ?_
      simp only [Function.comp_apply]
      split_ifs with hid
      · simp [hid]
      · simp [hid, settle_accepted, h.none_accepted hopen q hq]
  | reject id =>
    refine ⟨?_, ?_⟩
    · show (List.map _ (List.map _ _)).Nodup
      rw [map_ids]
      · exact h.ids
      · intro q
        split_ifs <;> rfl
    · refine Eq.trans ?_ h.accepted
      show (List.map _ _).countP _ = _
      rw [List.countP_map]
      refine List.countP_congr fun q hq ↦ ?_
      simp only [Function.comp_apply]
      split_ifs with hid
      · simp [hharmless q hq hid]
      · rfl
  | close status unanswered =>
    refine .of_none ?_ (fun he ↦ hm.1 (Option.some.inj he)) (hsettled _ hm.2.2 hharmless)
    rw [map_ids fun q ↦ settle_id]
    exact h.ids

/-- An accepted quotation stays accepted. -/
theorem Agreed.stays (h : Agreed v) (hm : m.Enabled v) (hharmless : m.Harmless v) {id : String}
    (ha : v.Accepted id) : (m.apply v).Accepted id := by
  have hstatus := h.status_eq ha
  cases m with
  | become status => exact absurd hstatus hharmless
  | quote id' => exact absurd hstatus hharmless
  | accept id' => exact absurd hstatus hm.1
  | close status unanswered => exact absurd hstatus hharmless
  | reject id' =>
    obtain ⟨q, hq, hid, haccepted⟩ := ha
    refine ⟨q, List.mem_map.mpr ⟨q, hq, if_neg fun he ↦ ?_⟩, hid, haccepted⟩
    exact hharmless q hq he haccepted

end Agreement

end Innovents.Marketplace
