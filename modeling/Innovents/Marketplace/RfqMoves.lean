import Innovents.Marketplace.QuotationService
import Innovents.Marketplace.RfqMachine
import Innovents.Marketplace.Statements

namespace Innovents.Marketplace

open Innovents.Lib Innovents.Auth RfqService QuotationService RfqExpirationService
open Innovents.Payments (Time)

def Quotation.view (q : Quotation) : QuotationView := ⟨q.id, q.version, q.status⟩

def quotationsOf (k : String) (t : Table Quotation) : List QuotationView :=
  (t.rows.filter (·.rfqId == k)).map Quotation.view

def rfqStatus (k : String) (t : Table Rfq) : Option RfqStatus := (t.get? k).map Rfq.status

/-- The RFQ `k` and its quotations. -/
def rfqView (k : String) (db : MarketDb) : RfqView :=
  ⟨rfqStatus k db.rfqs, quotationsOf k db.quotations⟩

/-- The RFQ `id` makes the move, and no other RFQ changes. -/
structure Makes (id : String) (m : RfqMove) (db db' : MarketDb) : Prop where
  enabled : m.Enabled (rfqView id db)
  moved : rfqView id db' = m.apply (rfqView id db)
  others : ∀ k, k ≠ id → rfqView k db' = rfqView k db
  rows : ∀ k, k ≠ id → db'.rfqs.get? k = db.rfqs.get? k

/-- The RFQs and the quotations stay as they are. -/
def SameRfqs (db db' : MarketDb) : Prop := db'.rfqs = db.rfqs ∧ db'.quotations = db.quotations

section Tables

variable {k id : String} {db db' : MarketDb} {t t' : Table Quotation} {env : AuthEnv}

theorem SameRfqs.view (h : SameRfqs db db') : rfqView k db' = rfqView k db := by
  rw [rfqView, h.1, h.2, rfqView]

theorem SameRfqs.of_same (h : SameMarket db db') : SameRfqs db db' := by
  obtain ⟨accounts, rfl⟩ := h
  exact ⟨rfl, rfl⟩

theorem SameMarket.view (h : SameMarket db db') : rfqView k db' = rfqView k db :=
  (SameRfqs.of_same h).view

theorem nodup_quotationsOf : ((quotationsOf k t).map QuotationView.id).Nodup := by
  rw [quotationsOf, List.map_map]
  have hsublist : ((t.rows.filter (·.rfqId == k)).map Quotation.id).Sublist (t.rows.map Quotation.id) :=
    List.filter_sublist.map _
  exact hsublist.nodup t.nodup_ids

theorem quotationsOf_map {g : Quotation → Quotation} {f : QuotationView → QuotationView}
    (hg : ∀ q, (g q).rfqId = q.rfqId)
    (hf : ∀ q ∈ t.rows, q.rfqId = k → (g q).view = f q.view) (ht : t'.rows = t.rows.map g) :
    quotationsOf k t' = (quotationsOf k t).map f := by
  rw [quotationsOf, ht, List.filter_map, List.map_map, quotationsOf, List.map_map]
  have hfilter : ((fun q : Quotation ↦ q.rfqId == k) ∘ g) = fun q ↦ q.rfqId == k := by
    funext q
    rw [Function.comp_apply, hg]
  rw [hfilter]
  refine List.map_congr_left fun q hq ↦ ?_
  obtain ⟨hmem, hk⟩ := List.mem_filter.mp hq
  exact hf q hmem (beq_iff_eq.mp hk)

theorem updateRfq_eq_ok {f : Rfq → Rfq} {rfq : Rfq}
    (h : updateRfq id f env db = .ok (db', rfq)) (hid : ∀ r, (f r).id = r.id) : db'.quotations = db.quotations ∧
      (∃ t, db' = { db with rfqs := t } ∧
        db.rfqs.update id (fun r ↦ { f r with updatedAt := env.now }) = .ok t) ∧
      (∃ old, db.rfqs.get? id = some old ∧ rfq = { f old with updatedAt := env.now }) ∧
      rfqStatus k db'.rfqs = (if k = id then some rfq.status else rfqStatus k db.rfqs) ∧
      (k ≠ id → db'.rfqs.get? k = db.rfqs.get? k) := by
  obtain ⟨t, ht, h⟩ := andThen_eq_ok.mp h
  have ht := ofRefusal_eq_ok.mp ht
  have hget := Table.get?_update ht (fun r ↦ hid r)
  split at h
  · next updated hupdated =>
    cases h
    have hold := hget id
    rw [if_pos rfl, hupdated] at hold
    obtain ⟨old, hold, hrfq⟩ := Option.map_eq_some_iff.mp hold.symm
    refine ⟨rfl, ⟨t, rfl, ht⟩, ⟨old, hold, hrfq.symm⟩, ?_, fun hk ↦ ?_⟩
    · rw [rfqStatus, hget]
      split_ifs
      · rw [hold, Option.map_some, Option.map_some, hrfq]
      · rfl
    · exact (hget k).trans (if_neg hk)
  · cases h

theorem updatePending_eq_ok {f : Quotation → Quotation} {status : QuotationStatus}
    (h : updatePending id f env db = .ok db')
    (hf : ∀ q, (f q).id = q.id ∧ (f q).rfqId = q.rfqId ∧ (f q).version = q.version ∧
      (f q).status = status) :
    (∃ t, db' = { db with quotations := t }) ∧ quotationsOf k db'.quotations =
      if k = id then (quotationsOf k db.quotations).map (QuotationView.settle status)
      else quotationsOf k db.quotations := by
  obtain ⟨t, ht, h⟩ := andThen_eq_ok.mp h
  cases h
  have hrows := Table.store_eq_ok.mp (ofRefusal_eq_ok.mp ht)
  refine ⟨⟨t, rfl⟩, ?_⟩
  have hrfqId : ∀ q : Quotation, (if q.rfqId == id && q.status == .pending
      then { f q with updatedAt := env.now } else q).rfqId = q.rfqId := by
    intro q
    split_ifs
    · exact (hf q).2.1
    · rfl
  split_ifs with hk
  · refine quotationsOf_map hrfqId (fun q _ hq ↦ ?_) hrows
    obtain ⟨hid, -, hversion, hstatus⟩ := hf q
    have hqid : (q.rfqId == id) = true := beq_iff_eq.mpr (hq.trans hk)
    rw [hqid, Bool.true_and]
    by_cases hpending : q.status = .pending
    · simp [hpending, Quotation.view, QuotationView.settle, hid, hversion, hstatus]
    · simp [hpending, Quotation.view, QuotationView.settle]
  · refine (quotationsOf_map (f := fun q ↦ q) hrfqId (fun q _ hq ↦ ?_) hrows).trans (List.map_id' _)
    rw [if_neg]
    simp [hq, hk]

theorem updateQuotation_eq_ok {f : Quotation → Quotation} {q : Quotation}
    (h : updateQuotation id f env db = .ok (db', q)) (g : QuotationView → QuotationView)
    (hf : ∀ q, (f q).rfqId = q.rfqId) (hg : ∀ q, (f q).view = g q.view) :
    (∃ t, db' = { db with quotations := t }) ∧
      quotationsOf k db'.quotations = (quotationsOf k db.quotations).map fun q ↦
        if q.id = id then g q else q := by
  obtain ⟨t, ht, h⟩ := andThen_eq_ok.mp h
  obtain ⟨-, hrows⟩ := Table.update_eq_ok.mp (ofRefusal_eq_ok.mp ht)
  have hdb' : db' = { db with quotations := t } := by
    split at h
    · cases h
      rfl
    · cases h
  rw [hdb']
  refine ⟨⟨t, rfl⟩, quotationsOf_map (fun q ↦ ?_) (fun q _ _ ↦ ?_) hrows⟩
  · split_ifs
    · exact hf q
    · rfl
  · show (if q.id = id then { f q with updatedAt := env.now } else q).view = _
    by_cases hq : q.id = id
    · rw [if_pos hq, if_pos (show q.view.id = id from hq)]
      exact hg q
    · rw [if_neg hq, if_neg (show ¬q.view.id = id from hq)]

end Tables

section Transactions

variable {k id : String} {db db' : MarketDb} {env : AuthEnv}

/-- Writing a status that is not that of an acceptance, with what else the RFQ's quotations do. -/
theorem makes_of_status {m : RfqMove} {rfq : Rfq} {db₁ : MarketDb} {f : Rfq → Rfq}
    (h : updateRfq id f env db = .ok (db₁, rfq)) (hid : ∀ r, (f r).id = r.id)
    (henabled : m.Enabled (rfqView id db))
    (hmoved : m.apply (rfqView id db) = ⟨some rfq.status, quotationsOf id db'.quotations⟩)
    (hrfqs : db'.rfqs = db₁.rfqs)
    (hothers : ∀ k, k ≠ id → quotationsOf k db'.quotations = quotationsOf k db.quotations) :
    Makes id m db db' := by
  have hwritten := fun k ↦ (updateRfq_eq_ok (k := k) h hid).2.2.2
  refine ⟨henabled, ?_, fun k hk ↦ ?_, fun k hk ↦ ?_⟩
  · rw [hmoved, rfqView, hrfqs, (hwritten id).1, if_pos rfl]
  · rw [rfqView, hrfqs, (hwritten k).1, if_neg hk, hothers k hk, rfqView]
  · rw [hrfqs]
    exact (hwritten k).2 hk

theorem sending_makes {sponsorId : String} {r : Rfq × List RfqClarification}
    (h : sending sponsorId id env db = .ok (db', r)) : Makes id (.become .sent) db db' := by
  obtain ⟨⟨db₁, rfq⟩, hrfq, h⟩ := andThen_eq_ok.mp h
  obtain ⟨db₂, henqueued, h⟩ := andThen_eq_ok.mp h
  cases h
  obtain ⟨accounts, rfl⟩ := enqueued_eq_ok henqueued
  obtain ⟨hquotations, -, ⟨old, -, rfl⟩, -⟩ := updateRfq_eq_ok (k := id) hrfq fun _ ↦ rfl
  exact makes_of_status hrfq (fun _ ↦ rfl) RfqStatus.noConfusion (by rw [hquotations]; rfl) rfl
    fun k _ ↦ by rw [hquotations]

/-- A status that is written outside of a transaction. -/
theorem updateRfq_makes {f : Rfq → Rfq} {rfq : Rfq} {status : RfqStatus}
    (h : updateRfq id f env db = .ok (db', rfq)) (hid : ∀ r, (f r).id = r.id)
    (hstatus : ∀ r, (f r).status = status) (hne : status ≠ .accepted) :
    Makes id (.become status) db db' := by
  obtain ⟨hquotations, -, ⟨old, -, rfl⟩, -⟩ := updateRfq_eq_ok (k := id) h hid
  refine makes_of_status h hid hne ?_ rfl fun k _ ↦ by rw [hquotations]
  rw [hquotations]
  simp only [RfqMove.apply, hstatus, rfqView]

theorem Makes.of_same {m : RfqMove} {db₁ : MarketDb} (h : Makes id m db db₁)
    (hsame : SameMarket db₁ db') : Makes id m db db' := by
  refine ⟨h.enabled, hsame.view.trans h.moved, fun k hk ↦ hsame.view.trans (h.others k hk), ?_⟩
  obtain ⟨accounts, rfl⟩ := hsame
  exact h.rows

theorem clarification_makes {rfq : Rfq} {userId recipientId message : String}
    {r : Option Rfq × List RfqClarification}
    (h : clarification rfq userId recipientId message env db = .ok (db', r)) :
    if userId = rfq.vendorId ∧ (rfq.status = .sent ∨ rfq.status = .viewed) then
      Makes rfq.id (.become .clarificationRequested) db db'
    else SameRfqs db db' := by
  obtain ⟨t, -, h⟩ := andThen_eq_ok.mp h
  obtain ⟨db₁, hmoved, h⟩ := andThen_eq_ok.mp h
  obtain ⟨db₂, henqueued, h⟩ := andThen_eq_ok.mp h
  cases h
  unfold requested at hmoved
  split_ifs at hmoved ⊢
  · obtain ⟨⟨db₃, updated⟩, hupdate, hmoved⟩ := andThen_eq_ok.mp hmoved
    cases hmoved
    have hmakes := updateRfq_makes hupdate (fun _ ↦ rfl) (fun _ ↦ rfl) RfqStatus.noConfusion
    have hmakes' : Makes rfq.id (.become .clarificationRequested) db db₁ :=
      ⟨hmakes.enabled, hmakes.moved, hmakes.others, hmakes.rows⟩
    exact hmakes'.of_same (enqueued_eq_ok henqueued)
  · cases hmoved
    obtain ⟨accounts, rfl⟩ := enqueued_eq_ok henqueued
    exact ⟨rfl, rfl⟩

theorem rejection_makes {vendorId : String} {reason : Option String}
    {r : Rfq × List RfqClarification}
    (h : RfqService.rejection vendorId id reason env db = .ok (db', r)) :
    Makes id (.become .rejected) db db' := by
  obtain ⟨⟨db₁, rfq⟩, hupdate, h⟩ := andThen_eq_ok.mp h
  obtain ⟨db₂, henqueued, h⟩ := andThen_eq_ok.mp h
  cases h
  exact (updateRfq_makes hupdate (fun _ ↦ rfl) (fun _ ↦ rfl) RfqStatus.noConfusion).of_same
    (enqueued_eq_ok henqueued)

/-- An RFQ that is closed together with its pending quotations. -/
theorem makes_close {f : Rfq → Rfq} {g : Quotation → Quotation} {rfq : Rfq} {db₁ db₂ : MarketDb}
    {status : RfqStatus} {unanswered : QuotationStatus}
    (hupdate : updateRfq id f env db = .ok (db₁, rfq)) (hid : ∀ r, (f r).id = r.id)
    (hstatus : ∀ r, (f r).status = status) (hpending : updatePending id g env db₁ = .ok db₂)
    (hg : ∀ q, (g q).id = q.id ∧ (g q).rfqId = q.rfqId ∧ (g q).version = q.version ∧
      (g q).status = unanswered)
    (hne : status ≠ .accepted ∧ unanswered ≠ .pending ∧ unanswered ≠ .accepted)
    (hsame : SameMarket db₂ db') : Makes id (.close status unanswered) db db' := by
  obtain ⟨hquotations, -, ⟨old, -, rfl⟩, -⟩ := updateRfq_eq_ok (k := id) hupdate hid
  have hsettled := fun k ↦ updatePending_eq_ok (k := k) hpending hg
  obtain ⟨t, rfl⟩ := (hsettled id).1
  obtain ⟨accounts, rfl⟩ := hsame
  refine makes_of_status hupdate hid hne ?_ rfl fun k hk ↦ ?_
  · have hview := (hsettled id).2
    rw [if_pos rfl, hquotations] at hview
    simp only [RfqMove.apply, hstatus, rfqView]
    rw [← hview]
  · have hview := (hsettled k).2
    rw [if_neg hk, hquotations] at hview
    exact hview

theorem cancellation_makes {sponsorId : String} {reason : Option String}
    {r : Rfq × List RfqClarification}
    (h : cancellation sponsorId id reason env db = .ok (db', r)) :
    Makes id (.close .cancelled .rejected) db db' := by
  obtain ⟨⟨db₁, rfq⟩, hupdate, h⟩ := andThen_eq_ok.mp h
  obtain ⟨db₂, hpending, h⟩ := andThen_eq_ok.mp h
  obtain ⟨db₃, henqueued, h⟩ := andThen_eq_ok.mp h
  cases h
  exact makes_close hupdate (fun _ ↦ rfl) (fun _ ↦ rfl) hpending (fun _ ↦ ⟨rfl, rfl, rfl, rfl⟩)
    (by decide) (enqueued_eq_ok henqueued)

theorem expiry_makes {rfq : Rfq} {a : Unit} (h : expiry rfq env db = .ok (db', a)) :
    Makes rfq.id (.close .expired .expired) db db' := by
  obtain ⟨⟨db₁, updated⟩, hupdate, h⟩ := andThen_eq_ok.mp h
  obtain ⟨db₂, hpending, h⟩ := andThen_eq_ok.mp h
  obtain ⟨db₃, henqueued, h⟩ := andThen_eq_ok.mp h
  cases h
  exact makes_close hupdate (fun _ ↦ rfl) (fun _ ↦ rfl) hpending (fun _ ↦ ⟨rfl, rfl, rfl, rfl⟩)
    (by decide) (enqueued_eq_ok henqueued)

theorem maxVersion_view : maxVersion id db.quotations = (rfqView id db).maxVersion := by
  rw [maxVersion, RfqView.maxVersion, rfqView, quotationsOf, List.map_map]
  rfl

theorem quotationsOf_create {q : Quotation} {t t' : Table Quotation} (h : t.create q = .ok t') :
    quotationsOf k t' = quotationsOf k t ++ if k = q.rfqId then [q.view] else [] := by
  rw [quotationsOf, Table.create_eq_ok.mp h, List.filter_append, List.map_append, quotationsOf]
  congr 1
  by_cases hk : k = q.rfqId
  · simp [hk]
  · simp [hk, Ne.symm hk]

theorem newQuotation_eq_ok {vendorId : String} {dto : CreateQuotationDto}
    {calculation : Calculation} {validUntil : Time} {version : ℕ} {t : Table Quotation}
    {q : Quotation} (h : newQuotation vendorId dto calculation validUntil version env t = .ok q) :
    q.rfqId = dto.rfqId ∧ q.version = version ∧ q.status = .pending := by
  obtain ⟨subtotal, -, h⟩ := andThen_eq_ok.mp h
  obtain ⟨tax, -, h⟩ := andThen_eq_ok.mp h
  obtain ⟨discount, -, h⟩ := andThen_eq_ok.mp h
  obtain ⟨total, -, h⟩ := andThen_eq_ok.mp h
  obtain ⟨items, -, h⟩ := andThen_eq_ok.mp h
  cases h
  exact ⟨rfl, rfl, rfl⟩

theorem quoting_makes {vendorId : String} {rfq : Rfq} {dto : CreateQuotationDto}
    {calculation : Calculation} {validUntil : Time} {q : Quotation}
    (h : quoting vendorId rfq dto calculation validUntil env db = .ok (db', q)) :
    Makes dto.rfqId (.quote q.id) db db' := by
  obtain ⟨db₁, hsuperseded, h⟩ := andThen_eq_ok.mp h
  obtain ⟨created, hnew, h⟩ := andThen_eq_ok.mp h
  obtain ⟨t, hcreate, h⟩ := andThen_eq_ok.mp h
  obtain ⟨⟨db₂, updated⟩, hupdate, h⟩ := andThen_eq_ok.mp h
  obtain ⟨db₃, henqueued, h⟩ := andThen_eq_ok.mp h
  cases h
  obtain ⟨accounts, rfl⟩ := enqueued_eq_ok henqueued
  obtain ⟨hrfqId, hversion, hstatus⟩ := newQuotation_eq_ok hnew
  have hcreate := ofRefusal_eq_ok.mp hcreate
  rw [maxVersion_view] at hsuperseded hversion
  unfold supersedePending at hsuperseded
  -- the pending quotations of this RFQ are superseded, and nothing else happens before the new one
  have hsettled : ∀ k, quotationsOf k db₁.quotations =
      if k = dto.rfqId ∧ 0 < (rfqView dto.rfqId db).maxVersion then
        (quotationsOf k db.quotations).map (QuotationView.settle .superseded)
      else quotationsOf k db.quotations := by
    intro k
    split_ifs at hsuperseded with hpos
    · rw [(updatePending_eq_ok (k := k) hsuperseded fun _ ↦ ⟨rfl, rfl, rfl, rfl⟩).2]
      by_cases hk : k = dto.rfqId
      · rw [if_pos hk, if_pos ⟨hk, by omega⟩]
      · rw [if_neg hk, if_neg fun h ↦ hk h.1]
    · cases hsuperseded
      rw [if_neg fun h ↦ hpos (by omega)]
  have hrfqs : db₁.rfqs = db.rfqs := by
    split_ifs at hsuperseded with hpos
    · obtain ⟨t, rfl⟩ := (updatePending_eq_ok (k := dto.rfqId) hsuperseded
        fun _ ↦ ⟨rfl, rfl, rfl, rfl⟩).1
      rfl
    · cases hsuperseded
      rfl
  obtain ⟨hquotations, -, ⟨old, -, hupdated⟩, -⟩ :=
    updateRfq_eq_ok (k := dto.rfqId) hupdate fun _ ↦ rfl
  have hwritten := fun k ↦ (updateRfq_eq_ok (k := k) hupdate fun _ ↦ rfl).2.2.2
  dsimp only at hquotations hwritten
  have hquoted : updated.status = .quoted := by rw [hupdated]
  have hids : (quotationsOf dto.rfqId db₁.quotations).map QuotationView.id =
      (quotationsOf dto.rfqId db.quotations).map QuotationView.id := by
    rw [hsettled]
    split_ifs
    · exact map_ids fun _ ↦ settle_id
    · rfl
  refine ⟨fun v hv he ↦ ?_, ?_, fun k hk ↦ ?_, fun k hk ↦ ?_⟩
  · -- the new id is one that the table does not have
    have hmem : v.id ∈ (quotationsOf dto.rfqId db₁.quotations).map QuotationView.id := by
      rw [hids]
      exact List.mem_map_of_mem hv
    obtain ⟨w, hw, hwid⟩ := List.mem_map.mp hmem
    obtain ⟨r, hr, rfl⟩ := List.mem_map.mp hw
    have hclash : clash r q = true := clash_of_id (hwid.trans he)
    rw [Table.create_refused (List.mem_filter.mp hr).1 hclash] at hcreate
    cases hcreate
  · show (⟨rfqStatus dto.rfqId db₂.rfqs, quotationsOf dto.rfqId db₂.quotations⟩ : RfqView) = _
    rw [(hwritten dto.rfqId).1, if_pos rfl, hquoted, hquotations, quotationsOf_create hcreate, hrfqId, if_pos rfl,
      hsettled]
    simp only [true_and, RfqMove.apply, rfqView, Quotation.view, hversion, hstatus]
    rfl
  · show (⟨rfqStatus k db₂.rfqs, quotationsOf k db₂.quotations⟩ : RfqView) = _
    rw [(hwritten k).1, if_neg hk, hquotations, quotationsOf_create hcreate, hrfqId, if_neg hk,
      List.append_nil, hsettled, if_neg fun h ↦ hk h.1, hrfqs, rfqView]
  · rw [← hrfqs]
    exact (hwritten k).2 hk

theorem quotationWithRfq_eq {quotationId : String} {quotation : Quotation} {rfq : Rfq}
    (h : quotationWithRfq quotationId db = some (quotation, rfq)) :
    db.quotations.get? quotationId = some quotation ∧ db.rfqs.get? quotation.rfqId = some rfq := by
  obtain ⟨q, hq, h⟩ := Option.bind_eq_some_iff.mp h
  obtain ⟨r, hr, h⟩ := Option.bind_eq_some_iff.mp h
  cases h
  exact ⟨hq, hr⟩

/-- A quotation belongs to one RFQ. -/
theorem quotation_rfqId {quotationId : String} {quotation : Quotation}
    (h : db.quotations.get? quotationId = some quotation) {v : QuotationView}
    (hv : v ∈ (rfqView k db).quotations) (hid : v.id = quotationId) : k = quotation.rfqId := by
  obtain ⟨q, hq, rfl⟩ := List.mem_map.mp hv
  obtain ⟨hmem, hk⟩ := List.mem_filter.mp hq
  obtain ⟨hquotation, hquotationId⟩ := Table.get?_eq_some.mp h
  rw [← db.quotations.eq_of_id hmem hquotation (hid.trans hquotationId.symm)]
  exact (beq_iff_eq.mp hk).symm

/-- A view does not have quotations of another RFQ. -/
theorem map_others {quotationId : String} {quotation : Quotation}
    {f g : QuotationView → QuotationView}
    (h : db.quotations.get? quotationId = some quotation) (hk : k ≠ quotation.rfqId) :
    ((quotationsOf k db.quotations).map fun q ↦ if q.id = quotationId then f q else g q) =
      (quotationsOf k db.quotations).map g :=
  List.map_congr_left fun _ hv ↦ if_neg fun hid ↦ hk (quotation_rfqId h hv hid)

theorem acceptance_makes {sponsorId quotationId : String} {q : Quotation}
    (h : QuotationService.acceptance sponsorId quotationId env db = .ok (db', q)) :
    ∃ quotation rfq, quotationWithRfq quotationId db = some (quotation, rfq) ∧
      rfq.sponsorId = sponsorId ∧ quotation.status = .pending ∧ env.now < quotation.validUntil ∧
      Makes quotation.rfqId (.accept quotationId) db db' := by
  unfold QuotationService.acceptance at h
  split at h
  · cases h
  · next quotation rfq hfound =>
    split_ifs at h with hsponsor hpending hvalid
    · cases h
    · cases h
    · cases h
    obtain ⟨rfqs, hrfqs, h⟩ := andThen_eq_ok.mp h
    split_ifs at h with hopen
    · cases h
    obtain ⟨⟨db₁, updated⟩, hupdate, h⟩ := andThen_eq_ok.mp h
    obtain ⟨quotations, hothers, h⟩ := andThen_eq_ok.mp h
    obtain ⟨db₂, henqueued, h⟩ := andThen_eq_ok.mp h
    cases h
    obtain ⟨accounts, rfl⟩ := enqueued_eq_ok henqueued
    refine ⟨quotation, rfq, hfound, not_not.mp hsponsor, not_not.mp hpending, not_le.mp hvalid, ?_⟩
    obtain ⟨hquotation, hrfq⟩ := quotationWithRfq_eq hfound
    have hget := Table.get?_updateMany (ofRefusal_eq_ok.mp hrfqs) fun _ ↦ rfl
    have haccepted := fun k ↦ updateQuotation_eq_ok (k := k) hupdate
      (fun q ↦ { q with status := .accepted }) (fun _ ↦ rfl) fun _ ↦ rfl
    obtain ⟨t, rfl⟩ := (haccepted quotation.rfqId).1
    have hrows := Table.store_eq_ok.mp (ofRefusal_eq_ok.mp hothers)
    have hsuperseded : ∀ k, quotationsOf k quotations = (quotationsOf k t).map fun q ↦
        if q.id = quotationId then q
        else if k = quotation.rfqId then q.settle .superseded else q := by
      intro k
      refine quotationsOf_map (fun q ↦ ?_) (fun q _ hk ↦ ?_) hrows
      · split_ifs <;> rfl
      · by_cases hid : q.id = quotationId <;> by_cases hrfqId : k = quotation.rfqId <;>
          by_cases hstatus : q.status = .pending <;>
          simp [hk, hid, hrfqId, hstatus, Quotation.view, QuotationView.settle, superseded]
    have hview : ∀ k, quotationsOf k quotations = (quotationsOf k db.quotations).map fun q ↦
        if q.id = quotationId then { q with status := .accepted }
        else if k = quotation.rfqId then q.settle .superseded else q := by
      intro k
      rw [hsuperseded, (haccepted k).2, List.map_map]
      refine List.map_congr_left fun q _ ↦ ?_
      simp only [Function.comp_apply]
      by_cases hid : q.id = quotationId <;> simp [hid]
    obtain ⟨hmem, hid⟩ := Table.get?_eq_some.mp hquotation
    have hrow : ∀ k, k ≠ quotation.rfqId → rfqs.get? k = db.rfqs.get? k := by
      intro k hk
      rw [hget]
      cases hr : db.rfqs.get? k with
      | none => rfl
      | some r =>
        rw [Option.map_some, if_neg]
        simp [show r.id = k from (Table.get?_eq_some.mp hr).2, hk]
    refine ⟨⟨?_, quotation.view, ?_, hid, not_not.mp hpending⟩, ?_, fun k hk ↦ ?_, hrow⟩
    · -- an RFQ was counted, and there is only one with this id
      intro haccepted
      refine hopen (List.countP_eq_zero.mpr fun r hr hr' ↦ ?_)
      obtain ⟨hrid, hrstatus⟩ := Bool.and_eq_true_iff.mp hr'
      have hr : db.rfqs.get? quotation.rfqId = some r := Table.get?_eq_some.mpr ⟨hr, beq_iff_eq.mp hrid⟩
      have hstatus : rfqStatus quotation.rfqId db.rfqs = some r.status := by rw [rfqStatus, hr]; rfl
      have hrstatus' := Option.some.inj (hstatus.symm.trans haccepted)
      simp [hrstatus'] at hrstatus
    · exact List.mem_map_of_mem (List.mem_filter.mpr ⟨hmem, beq_self_eq_true _⟩)
    · have hstatus : rfqStatus quotation.rfqId rfqs = some .accepted := by
        have hrfqId : rfq.id = quotation.rfqId := (Table.get?_eq_some.mp hrfq).2
        rw [rfqStatus, hget, hrfq]
        by_cases ha : rfq.status = .accepted <;> simp [ha, hrfqId]
      show (⟨rfqStatus quotation.rfqId rfqs, quotationsOf quotation.rfqId quotations⟩ : RfqView) = _
      rw [hstatus, hview, RfqMove.apply, rfqView]
      simp only [if_true]
    · show (⟨rfqStatus k rfqs, quotationsOf k quotations⟩ : RfqView) = _
      rw [hview, map_others hquotation hk, rfqView]
      simp only [if_neg hk, List.map_id']
      rw [rfqStatus, hrow k hk, rfqStatus]

theorem quotation_rejection_makes {sponsorId quotationId : String} {quotation q : Quotation}
    {reason : Option String}
    (h : QuotationService.rejection sponsorId quotationId quotation reason env db = .ok (db', q)) :
    ∃ found, db.quotations.get? quotationId = some found ∧
      Makes found.rfqId (.reject quotationId) db db' := by
  obtain ⟨⟨db₁, updated⟩, hupdate, h⟩ := andThen_eq_ok.mp h
  obtain ⟨db₂, henqueued, h⟩ := andThen_eq_ok.mp h
  cases h
  have hrejected := fun k ↦ updateQuotation_eq_ok (k := k) hupdate
    (fun q ↦ { q with status := .rejected }) (fun _ ↦ rfl) fun _ ↦ rfl
  obtain ⟨t, ht, -⟩ := andThen_eq_ok.mp hupdate
  obtain ⟨⟨found, hfound, hid⟩, -⟩ := Table.update_eq_ok.mp (ofRefusal_eq_ok.mp ht)
  have hget := Table.get?_eq_some.mpr ⟨hfound, hid⟩
  obtain ⟨t', rfl⟩ := (hrejected found.rfqId).1
  have hmakes : Makes found.rfqId (.reject quotationId) db { db with quotations := t' } := by
    refine ⟨trivial, congrArg (RfqView.mk _) (hrejected found.rfqId).2, fun k hk ↦ ?_, fun k _ ↦ rfl⟩
    refine congrArg (RfqView.mk _) ((hrejected k).2.trans ?_)
    rw [map_others hget hk, List.map_id']
  exact ⟨found, hget, hmakes.of_same (enqueued_eq_ok henqueued)⟩

end Transactions

end Innovents.Marketplace
