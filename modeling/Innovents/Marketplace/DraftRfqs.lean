import Innovents.Lib.TwoRuns
import Innovents.Marketplace.RfqCalls

namespace Innovents.Marketplace

open Innovents.Lib Innovents.Auth RfqService QuotationService
open Innovents.Payments (Time)

/-- What a vendor calls. -/
inductive VendorOp
  | getMyRfqs (query : RfqQueryDto)
  | getRfqById (rfqId : String) (client : Client)
  | requestClarification (rfqId message : String) (client : Client)
  | rejectRfq (rfqId : String) (reason : Option String) (client : Client)
  | createQuotation (dto : CreateQuotationDto) (client : Client)
  | getQuotationsForRfq (rfqId : String) (page limit : ℤ)

inductive VendorReply
  | rfqs (page : PaginatedRfqsDto)
  | rfq (details : RfqDetailsResponseDto)
  | quotation (details : QuotationDetailsResponseDto)
  | quotations (page : PaginatedQuotationsDto)

def VendorOp.runs (vendorId : String) : VendorOp → MarketCall VendorReply
  | getMyRfqs query => do
    let page ← RfqService.getMyRfqs vendorId query
    return .rfqs page
  | getRfqById rfqId client => do
    let details ← RfqService.getRfqById vendorId rfqId client
    return .rfq details
  | requestClarification rfqId message client => do
    let details ← RfqService.requestClarification vendorId rfqId message client
    return .rfq details
  | rejectRfq rfqId reason client => do
    let details ← RfqService.rejectRfq vendorId rfqId reason client
    return .rfq details
  | createQuotation dto client => do
    let details ← QuotationService.createQuotation vendorId dto client
    return .quotation details
  | getQuotationsForRfq rfqId page limit => do
    let quotations ← QuotationService.getQuotationsForRfq vendorId rfqId page limit
    return .quotations quotations

/-- A draft that is addressed to the vendor. -/
def draftFor (vendorId : String) (rfq : Rfq) : Bool :=
  rfq.vendorId == vendorId && rfq.status == .draft

/-- The databases have the same content apart from drafts that are addressed to the vendor. -/
structure SameButDrafts (vendorId : String) (db db' : MarketDb) : Prop where
  others : db' = { db with rfqs := db'.rfqs }
  rfqs : db'.rfqs.rows.filter (!draftFor vendorId ·) = db.rfqs.rows.filter (!draftFor vendorId ·)

/-- The RFQ with this id, if there is one, is no draft that is addressed to the vendor. -/
def NoDraft (vendorId rfqId : String) (db : MarketDb) : Prop :=
  ∀ rfq ∈ db.rfqs.get? rfqId, draftFor vendorId rfq = false

/-- A call that is not about drafts: a listing of RFQs with another status, or a call about another
RFQ. -/
def VendorOp.NotOfDrafts (vendorId : String) : VendorOp → MarketDb → Prop
  | getMyRfqs query, _ => ∃ status, query.status = some status ∧ status ≠ .draft
  | getRfqById rfqId _, db | requestClarification rfqId _ _, db | rejectRfq rfqId _ _, db
  | getQuotationsForRfq rfqId _ _, db => NoDraft vendorId rfqId db
  | createQuotation dto _, db => NoDraft vendorId dto.rfqId db

/-- What becomes of a draft: it runs out of time when it is read too late, or the vendor rejects
it. -/
def VendorOp.Ends (vendorId : String) (rfq : Rfq) (inputs : List AuthEnv) (db' : MarketDb) :
    VendorOp → Prop
  | getRfqById rfqId _ => rfqId = rfq.id ∧ (∃ env ∈ inputs, rfq.expiresAt ≤ env.now) ∧
    rfqStatus rfq.id db'.rfqs = some .expired
  | rejectRfq rfqId _ _ => rfqId = rfq.id ∧ rfq.vendorId = vendorId ∧
    rfqStatus rfq.id db'.rfqs = some .rejected
  | _ => False

section Twins

/-- The databases differ in drafts only, and not in the RFQ of the call. -/
structure Blind (vendorId rfqId : String) (db db' : MarketDb) : Prop extends
    SameButDrafts vendorId db db' where
  left : NoDraft vendorId rfqId db
  right : NoDraft vendorId rfqId db'

variable {vendorId rfqId : String} {db db' : MarketDb}

theorem Blind.get? (h : Blind vendorId rfqId db db') :
    db'.rfqs.get? rfqId = db.rfqs.get? rfqId := by
  have hmem : ∀ r, draftFor vendorId r = false → (r ∈ db'.rfqs.rows ↔ r ∈ db.rfqs.rows) := by
    intro r hr
    have hfilter : r ∈ db'.rfqs.rows.filter (!draftFor vendorId ·) ↔
        r ∈ db.rfqs.rows.filter (!draftFor vendorId ·) := by rw [h.rfqs]
    simpa [hr] using hfilter
  refine Option.ext fun r ↦ ⟨fun hr ↦ ?_, fun hr ↦ ?_⟩
  · have hdraft := h.right r hr
    rw [Table.get?_eq_some] at hr ⊢
    exact ⟨(hmem r hdraft).mp hr.1, hr.2⟩
  · have hdraft := h.left r hr
    rw [Table.get?_eq_some] at hr ⊢
    exact ⟨(hmem r hdraft).mpr hr.1, hr.2⟩

theorem SameButDrafts.accounts (h : SameButDrafts vendorId db db') (accounts : AuthDb) :
    SameButDrafts vendorId { db with accounts } { db' with accounts } :=
  ⟨congrArg (fun db : MarketDb ↦ { db with accounts }) h.others, h.rfqs⟩

theorem Blind.accounts (h : Blind vendorId rfqId db db') (accounts : AuthDb) :
    Blind vendorId rfqId { db with accounts } { db' with accounts } :=
  ⟨h.toSameButDrafts.accounts accounts, h.left, h.right⟩

theorem Blind.clarifications (h : Blind vendorId rfqId db db')
    (rfqClarifications : Table RfqClarification) :
    Blind vendorId rfqId { db with rfqClarifications } { db' with rfqClarifications } :=
  ⟨⟨congrArg (fun db : MarketDb ↦ { db with rfqClarifications }) h.others, h.rfqs⟩, h.left, h.right⟩

theorem Blind.quotations (h : Blind vendorId rfqId db db') (quotations : Table Quotation) :
    Blind vendorId rfqId { db with quotations } { db' with quotations } :=
  ⟨⟨congrArg (fun db : MarketDb ↦ { db with quotations }) h.others, h.rfqs⟩, h.left, h.right⟩

theorem Blind.same_clarifications (h : Blind vendorId rfqId db db') :
    db'.rfqClarifications = db.rfqClarifications := by rw [h.others]

theorem Blind.same_quotations (h : Blind vendorId rfqId db db') :
    db'.quotations = db.quotations := by rw [h.others]

/-- Rewriting a shown RFQ so that it is shown again. -/
theorem filter_updateRows {rows : List Rfq} {g : Rfq → Rfq} {p : Rfq → Bool}
    (hp : ∀ r ∈ rows, r.id = rfqId → p r = true) (hg : ∀ r, p (g r) = true) :
    (Table.updateRows rfqId g rows).filter p = Table.updateRows rfqId g (rows.filter p) := by
  rw [Table.updateRows, List.filter_map, Table.updateRows]
  congr 1
  refine List.filter_congr fun r hr ↦ ?_
  rw [Function.comp_apply]
  split_ifs with hid
  · rw [hg, hp r hr hid]
  · rfl

/-- Rewriting an RFQ that is there. -/
theorem updateRfq_succeeds {f : Rfq → Rfq} (env : AuthEnv) {old : Rfq}
    (hold : db.rfqs.get? rfqId = some old) (hid : ∀ r, (f r).id = r.id) :
    ∃ t, updateRfq rfqId f env db = .ok ({ db with rfqs := t }, { f old with updatedAt := env.now }) ∧
      t.rows = Table.updateRows rfqId (fun r ↦ { f r with updatedAt := env.now }) db.rfqs.rows ∧
      t.get? rfqId = some { f old with updatedAt := env.now } := by
  obtain ⟨hmem, hkey⟩ := Table.get?_eq_some.mp hold
  obtain ⟨t, ht⟩ := Table.update_succeeds (t := db.rfqs) (f := fun r ↦ { f r with updatedAt := env.now })
    ⟨old, hmem, hkey⟩ hid (by simp [Row.uniques])
  have hget := Table.get?_update ht hid rfqId
  rw [if_pos rfl, hold, Option.map_some] at hget
  refine ⟨t, ?_, (Table.update_eq_ok.mp ht).2, hget⟩
  simp only [updateRfq, ht, ofRefusal, bind, Except.bind, hget, pure, Except.pure]

/-- Rewriting the RFQ of the call in both databases. -/
theorem Blind.updateRfq {f : Rfq → Rfq} {env : AuthEnv} (h : Blind vendorId rfqId db db')
    (hid : ∀ r, (f r).id = r.id) (hstatus : ∀ r, (f r).status ≠ .draft) :
    Alike (fun p q ↦ Blind vendorId rfqId p.1 q.1 ∧ p.2 = q.2) (updateRfq rfqId f env db)
      (updateRfq rfqId f env db') := by
  have hget := h.get?
  cases hold : db.rfqs.get? rfqId with
  | none =>
    rw [hold] at hget
    simp [Marketplace.updateRfq, Table.update, Table.has, hold, hget, ofRefusal, Alike, Bind.bind,
      Except.bind]
  | some old =>
    rw [hold] at hget
    obtain ⟨t, hupdate, hrows, hnew⟩ := updateRfq_succeeds env hold hid
    obtain ⟨t', hupdate', hrows', hnew'⟩ := updateRfq_succeeds env hget hid
    rw [hupdate, hupdate']
    have hshown : ∀ r, (!draftFor vendorId { f r with updatedAt := env.now }) = true := by
      intro r
      simp [draftFor, hstatus]
    have hrow : ∀ {db : MarketDb}, NoDraft vendorId rfqId db → ∀ r ∈ db.rfqs.rows, r.id = rfqId →
        (!draftFor vendorId r) = true := by
      intro db hdb r hr hrid
      rw [hdb r (Table.get?_eq_some.mpr ⟨hr, hrid⟩)]
      rfl
    have hleft : ∀ {db : MarketDb}, db.rfqs.get? rfqId = some { f old with updatedAt := env.now } →
        NoDraft vendorId rfqId db := by
      intro db hdb r hr
      rw [Option.mem_def.mp hr, Option.some.injEq] at hdb
      rw [hdb]
      exact (Bool.not_eq_true' _).mp (hshown old)
    refine ⟨⟨⟨?_, ?_⟩, hleft hnew, hleft hnew'⟩, rfl⟩
    · exact congrArg (fun db : MarketDb ↦ { db with rfqs := t' }) h.others
    · show t'.rows.filter _ = t.rows.filter _
      rw [hrows, hrows', filter_updateRows (hrow h.left) hshown, filter_updateRows (hrow h.right) hshown,
        h.rfqs]

end Twins

section Rules

variable {α : Type} {S : MarketDb → MarketDb → Prop} {name : String}

/-- Both calls do the same, and return the same. -/
abbrev Twins (S : MarketDb → MarketDb → Prop) (c d : MarketCall α) : Prop :=
  Call.Twin (fun _ ↦ False) Eq S Eq c d

theorem alike_refl {χ : Type} (x : Except χ α) : Alike Eq x x := by
  cases x <;> exact rfl

theorem twins_returned {r : Except AuthError α} : Twins S (.returned r) (.returned r) := alike_refl r

theorem twins_finds {f : AuthEnv → MarketDb → α} (h : ∀ env s s', S s s' → f env s' = f env s) :
    Twins S (finds name f) (finds name f) := by
  refine Call.twin_ask fun env env' henv s s' hs ↦ ?_
  subst henv
  rw [h env s s' hs]
  exact alike_refl _

theorem twins_stores {f : AuthEnv → MarketDb → Except AuthError (MarketDb × α)}
    (h : ∀ env s s', S s s' → Alike (fun p q ↦ S p.1 q.1 ∧ p.2 = q.2) (f env s) (f env s')) :
    Twins S (stores name f) (stores name f) := by
  refine Call.twin_perform fun env env' henv s s' hs ↦ ?_
  subst henv
  exact alike_elim (h env s s' hs)

/-- The relation is about other tables than those of the accounts. -/
structure OfMarket (S : MarketDb → MarketDb → Prop) : Prop where
  same : ∀ s s', S s s' → s'.accounts = s.accounts
  accounts : ∀ s s', S s s' → ∀ accounts, S { s with accounts } { s' with accounts }

theorem twins_log (hS : OfMarket S) {params : CreateAuditLogParams} {client : Client} :
    Twins S (log params client) (log params client) := by
  refine ⟨rfl, fun _ env env' henv s s' hs ↦ ⟨?_, rfl⟩⟩
  subst henv
  dsimp only
  rw [hS.same s s' hs]
  exact hS.accounts s s' hs _

theorem alike_enqueued (hS : OfMarket S) {params : CreateOutboxEventParams} {env : AuthEnv}
    {s s' : MarketDb} (hs : S s s') : Alike S (enqueued params env s) (enqueued params env s') := by
  unfold enqueued
  rw [hS.same s s' hs]
  exact alike_bind fun accounts ↦ hS.accounts s s' hs accounts

theorem twins_enqueue (hS : OfMarket S) {params : CreateOutboxEventParams} :
    Twins S (enqueue params) (enqueue params) :=
  twins_stores fun _ _ _ hs ↦ alike_andThen (alike_enqueued hS hs) fun _ _ h ↦ ⟨h, rfl⟩

theorem assertActiveUser_twins (hS : OfMarket S) {userId : String} {requiredRole : Option String} :
    Twins S (assertActiveUser userId requiredRole) (assertActiveUser userId requiredRole) := by
  refine Call.twin_bind (twins_finds fun env s s' hs ↦ by rw [hS.same s s' hs]) fun user _ huser ↦ ?_
  subst huser
  cases user with
  | none => exact twins_returned
  | some user =>
    dsimp only
    split_ifs
    · exact twins_returned
    · cases requiredRole.filter (· ∉ user.userRoles) <;> exact twins_returned

variable {vendorId rfqId : String}

theorem sameButDrafts_ofMarket : OfMarket (SameButDrafts vendorId) :=
  ⟨fun s s' hs ↦ by rw [hs.others], fun _ _ hs accounts ↦ hs.accounts accounts⟩

theorem blind_ofMarket : OfMarket (Blind vendorId rfqId) :=
  ⟨fun s s' hs ↦ by rw [hs.others], fun _ _ hs accounts ↦ hs.accounts accounts⟩

theorem findRfq_twins : Call.Twin (fun _ ↦ False) Eq (Blind vendorId rfqId)
    (fun p q ↦ p = q ∧ ∀ rfq ∈ p.1, rfq.id = rfqId) (findRfq rfqId) (findRfq rfqId) := by
  refine Call.twin_ask fun env env' henv s s' hs ↦ ?_
  subst henv
  exact alike_elim ⟨Prod.ext hs.get?.symm rfl, fun rfq hrfq ↦ (Table.get?_eq_some.mp hrfq).2⟩

end Rules

section Calls

variable {vendorId rfqId : String} {client : Client} {α : Type}

/-- A call that checks the account and then reads the RFQ. -/
theorem read_twins {role : Option String} {f : Option Rfq × Time → MarketCall α}
    (hnone : ∀ now, Twins (Blind vendorId rfqId) (f (none, now)) (f (none, now)))
    (h : ∀ rfq now, rfq.id = rfqId → Twins (Blind vendorId rfqId) (f (some rfq, now)) (f (some rfq, now))) :
    Twins (Blind vendorId rfqId) ((assertActiveUser vendorId role).bind fun _ ↦ (findRfq rfqId).bind f)
      ((assertActiveUser vendorId role).bind fun _ ↦ (findRfq rfqId).bind f) := by
  refine Call.twin_bind (assertActiveUser_twins blind_ofMarket) fun _ _ _ ↦ ?_
  refine Call.twin_bind findRfq_twins fun ⟨rfq, now⟩ _ ⟨hsame, hid⟩ ↦ ?_
  subst hsame
  cases rfq with
  | none => exact hnone now
  | some rfq => exact h rfq now (hid rfq rfl)

theorem setRfq_twins {f : Time → Rfq → Rfq} (hid : ∀ now r, (f now r).id = r.id)
    (hstatus : ∀ now r, (f now r).status ≠ .draft) :
    Twins (Blind vendorId rfqId) (setRfq rfqId f) (setRfq rfqId f) := by
  refine twins_stores fun env s s' hs ↦ ?_
  exact alike_andThen (hs.updateRfq (hid env.now) (hstatus env.now)) fun _ _ h ↦ ⟨h.1, rfl⟩

theorem getRfqById_twins : Twins (Blind vendorId rfqId) (getRfqById vendorId rfqId client)
    (getRfqById vendorId rfqId client) := by
  refine Call.twin_bind (assertActiveUser_twins blind_ofMarket) fun _ _ _ ↦ ?_
  refine Call.twin_bind (twins_finds fun env s s' hs ↦ ?_) fun ⟨rfq, clarifications, now⟩ _ hsame ↦ ?_
  · rw [hs.get?, clarificationsByAge, clarificationsOf, hs.same_clarifications]
    rfl
  subst hsame
  cases rfq with
  | none => exact twins_returned
  | some rfq =>
    dsimp only
    split_ifs
    · exact twins_returned
    · refine Call.twin_bind (setRfq_twins (fun _ _ ↦ rfl) fun _ _ ↦ RfqStatus.noConfusion) fun _ _ _ ↦ ?_
      exact Call.twin_bind (twins_enqueue blind_ofMarket) fun _ _ _ ↦ twins_returned
    · refine Call.twin_bind (setRfq_twins (fun _ _ ↦ rfl) fun _ _ ↦ RfqStatus.noConfusion)
        fun viewedAt _ hsame ↦ ?_
      subst hsame
      refine Call.twin_bind (twins_enqueue blind_ofMarket) fun _ _ _ ↦ ?_
      exact Call.twin_bind (twins_log blind_ofMarket) fun _ _ _ ↦ twins_returned
    · exact twins_returned

theorem rejectRfq_twins {reason : Option String} : Twins (Blind vendorId rfqId)
    (rejectRfq vendorId rfqId reason client) (rejectRfq vendorId rfqId reason client) := by
  refine read_twins (fun _ ↦ twins_returned) fun rfq now hid ↦ ?_
  dsimp only
  split_ifs
  · exact twins_returned
  · exact twins_returned
  refine Call.twin_bind (twins_stores fun env s s' hs ↦ ?_) fun ⟨updated, clarifications⟩ _ hsame ↦ ?_
  · refine alike_andThen (hs.updateRfq (fun _ ↦ rfl) fun _ ↦ RfqStatus.noConfusion) fun p q ⟨h, heq⟩ ↦ ?_
    obtain ⟨db₁, res⟩ := p
    obtain ⟨db₂, res'⟩ := q
    dsimp only at h heq
    subst heq
    refine alike_andThen (alike_enqueued blind_ofMarket h) fun db₁ db₂ h ↦ ⟨h, ?_⟩
    show (res, clarificationsOf rfqId db₁) = (res, clarificationsOf rfqId db₂)
    rw [clarificationsOf, clarificationsOf, h.same_clarifications]
  · subst hsame
    exact Call.twin_bind (twins_log blind_ofMarket) fun _ _ _ ↦ twins_returned

theorem requested_alike {rfq : Rfq} {env : AuthEnv} {s s' : MarketDb}
    (hs : Blind vendorId rfq.id s s') :
    Alike (Blind vendorId rfq.id) (requested rfq vendorId env s) (requested rfq vendorId env s') := by
  unfold requested
  split_ifs
  · exact alike_andThen (hs.updateRfq (fun _ ↦ rfl) fun _ ↦ RfqStatus.noConfusion) fun _ _ h ↦ h.1
  · exact hs

theorem requestClarification_twins {message : String} : Twins (Blind vendorId rfqId)
    (requestClarification vendorId rfqId message client)
    (requestClarification vendorId rfqId message client) := by
  unfold requestClarification
  refine read_twins (fun _ ↦ twins_returned) fun rfq now hid ↦ ?_
  dsimp only
  generalize (if vendorId = rfq.vendorId then rfq.sponsorId else rfq.vendorId) = recipientId
  subst hid
  split_ifs
  · exact twins_returned
  · exact twins_returned
  · exact twins_returned
  refine Call.twin_bind (twins_stores fun env s s' hs ↦ ?_) fun ⟨updated, clarifications⟩ _ hsame ↦ ?_
  · unfold clarification
    rw [hs.same_clarifications]
    refine alike_bind fun t ↦ ?_
    refine alike_andThen (requested_alike (hs.clarifications t)) fun db₁ db₂ h ↦ ?_
    refine alike_andThen (alike_enqueued blind_ofMarket h) fun db₁ db₂ h ↦ ⟨h, ?_⟩
    show (db₁.rfqs.get? rfq.id, clarificationsByAge rfq.id db₁) =
      (db₂.rfqs.get? rfq.id, clarificationsByAge rfq.id db₂)
    rw [h.get?, clarificationsByAge, clarificationsByAge, clarificationsOf, clarificationsOf,
      h.same_clarifications]
  · subst hsame
    refine Call.twin_bind (twins_log blind_ofMarket) fun _ _ _ ↦ ?_
    cases updated <;> exact twins_returned

theorem updatePending_alike {f : Quotation → Quotation} {id : String} {env : AuthEnv}
    {s s' : MarketDb} (hs : Blind vendorId rfqId s s') :
    Alike (Blind vendorId rfqId) (updatePending id f env s) (updatePending id f env s') := by
  unfold updatePending
  rw [hs.same_quotations]
  exact alike_bind fun t ↦ hs.quotations t

theorem supersedePending_alike {nextVersion : ℕ} {id : String} {env : AuthEnv} {s s' : MarketDb}
    (hs : Blind vendorId rfqId s s') : Alike (Blind vendorId rfqId)
      (supersedePending id nextVersion env s) (supersedePending id nextVersion env s') := by
  unfold supersedePending
  split_ifs
  · exact updatePending_alike hs
  · exact hs

theorem createQuotation_twins {dto : CreateQuotationDto} : Twins (Blind vendorId dto.rfqId)
    (createQuotation vendorId dto client) (createQuotation vendorId dto client) := by
  refine read_twins (fun _ ↦ twins_returned) fun rfq now hid ↦ ?_
  dsimp only
  split_ifs
  · exact twins_returned
  · exact twins_returned
  · split <;> exact twins_returned
  · split
    · exact twins_returned
    refine Call.twin_bind twins_returned fun calculation _ hsame ↦ ?_
    subst hsame
    refine Call.twin_bind (twins_stores fun env s s' hs ↦ ?_) fun created _ hsame ↦ ?_
    · unfold quoting
      rw [hs.same_quotations]
      refine alike_andThen (supersedePending_alike hs) fun db₁ db₂ h ↦ ?_
      rw [h.same_quotations]
      refine alike_bind fun q ↦ alike_bind fun t ↦ ?_
      refine alike_andThen ((h.quotations t).updateRfq (fun _ ↦ rfl) fun _ ↦ RfqStatus.noConfusion)
        fun p q ⟨h, _⟩ ↦ ?_
      exact alike_andThen (alike_enqueued blind_ofMarket h) fun db₁ db₂ h ↦ ⟨h, rfl⟩
    · subst hsame
      exact Call.twin_bind (twins_log blind_ofMarket) fun _ _ _ ↦ twins_returned
  · exact twins_returned

theorem getQuotationsForRfq_twins {page limit : ℤ} : Twins (Blind vendorId rfqId)
    (getQuotationsForRfq vendorId rfqId page limit) (getQuotationsForRfq vendorId rfqId page limit) := by
  unfold getQuotationsForRfq
  refine read_twins (fun _ ↦ twins_returned) fun rfq now hid ↦ ?_
  dsimp only
  split_ifs
  · exact twins_returned
  · refine Call.twin_bind (twins_finds fun env s s' hs ↦ by rw [hs.same_quotations]) fun rows _ hsame ↦ ?_
    subst hsame
    refine Call.twin_bind (twins_finds fun env s s' hs ↦ by rw [hs.same_quotations]) fun total _ hsame ↦ ?_
    subst hsame
    exact twins_returned

/-- A listing of other RFQs than drafts. -/
theorem getMyRfqs_twins {query : RfqQueryDto} {status : RfqStatus} (hquery : query.status = some status)
    (hstatus : status ≠ .draft) :
    Twins (SameButDrafts vendorId) (getMyRfqs vendorId query) (getMyRfqs vendorId query) := by
  have hrows : ∀ s s', SameButDrafts vendorId s s' →
      s'.rfqs.rows.filter (myRfqs vendorId query) = s.rfqs.rows.filter (myRfqs vendorId query) := by
    intro s s' hs
    have hlisted : ∀ rfq, myRfqs vendorId query rfq =
        (!draftFor vendorId rfq && myRfqs vendorId query rfq) := by
      intro rfq
      by_cases hdraft : rfq.status = .draft
      · simp [myRfqs, hquery, hdraft, Ne.symm hstatus]
      · simp [draftFor, hdraft]
    have hfilter : ∀ rows : List Rfq, rows.filter (myRfqs vendorId query) =
        (rows.filter (!draftFor vendorId ·)).filter (myRfqs vendorId query) := by
      intro rows
      rw [List.filter_filter]
      exact List.filter_congr fun rfq _ ↦ (hlisted rfq).trans (Bool.and_comm _ _)
    rw [hfilter, hfilter s.rfqs.rows, hs.rfqs]
  refine Call.twin_bind (assertActiveUser_twins sameButDrafts_ofMarket) fun _ _ _ ↦ ?_
  refine Call.twin_bind (twins_finds fun env s s' hs ↦ by rw [hrows s s' hs]) fun ⟨rfqs, now⟩ _ hsame ↦ ?_
  subst hsame
  refine Call.twin_bind (twins_finds fun env s s' hs ↦ ?_) fun total _ hsame ↦ ?_
  · rw [List.countP_eq_length_filter, List.countP_eq_length_filter, hrows s s' hs]
  · subst hsame
    exact twins_returned

end Calls

section Fates

variable {vendorId rfqId k : String} {rfq : Rfq} {db : MarketDb} {inputs : List AuthEnv}
  {α : Type} {client : Client}

/-- The draft is still there. -/
def Stays (k : String) (rfq : Rfq) (db : MarketDb) : Prop := db.rfqs.get? k = some rfq

theorem stays_same (db' : MarketDb) (h : Stays k rfq db) (hsame : SameRfqs db db') :
    Stays k rfq db' := by
  rw [Stays, hsame.1]
  exact h

/-- What the operations on one RFQ leave of a draft, when nobody disturbs them. -/
theorem stays_steps {op : RfqOp} {history : MarketHistory} {label : String} {env : AuthEnv}
    {start db' : MarketDb} (hs : Steps op history label env db db')
    (hleads : history.Leads start db) (h : Stays k rfq db) (hdraft : rfq.status = .draft)
    (hop : ∀ m, Does history env db op k m → ∃ met, ReadAs history k met ∧ ¬met .draft) :
    Stays k rfq db' := by
  rcases hs with hsame | ⟨-, id, m, hdoes, hmakes⟩
  · exact stays_same db' h hsame
  · by_cases hk : k = id
    · subst hk
      obtain ⟨met, ⟨db₀, found, hlast, hfound, hmet⟩, hnot⟩ := hop m hdoes
      rw [← hleads.last hlast, h, Option.some.injEq] at hfound
      rw [← hfound, hdraft] at hmet
      exact absurd hmet hnot
    · rw [Stays, hmakes.rows k hk]
      exact h

/-- A call that makes moves which are not for drafts. -/
theorem stays_of_traces {op : RfqOp} {c : MarketCall α} {g : α → VendorReply} {db' : MarketDb}
    {r : Except AuthError VendorReply} (hc : c.Traces (Steps op) (fun _ _ ↦ True) [])
    (hr : (c.bind fun a ↦ .returned (.ok (g a))).Ran (· ∈ inputs) db r db') (h : Stays k rfq db)
    (hdraft : rfq.status = .draft)
    (hop : ∀ history env db m, Does history env db op k m → ∃ met, ReadAs history k met ∧ ¬met .draft) :
    Stays k rfq db' := by
  have hbind : (c.bind fun a ↦ .returned (.ok (g a))).Traces (Steps op) (fun _ _ ↦ True) [] :=
    Call.traces_bind (hc.mono fun _ _ _ ↦ trivial)
  have hstart : History.Leads ([] : MarketHistory) db db := rfl
  exact hbind.ran hr hstart h fun history label env a b hleads _ hs ha ↦
    stays_steps hs hleads ha hdraft (hop history env a)

/-- A call that only reads. -/
theorem stays_of_same {c : MarketCall α} {g : α → VendorReply} {db' : MarketDb}
    {r : Except AuthError VendorReply} (hc : c.Each fun _ s s' ↦ s' = s)
    (hr : (c.bind fun a ↦ .returned (.ok (g a))).Ran (· ∈ inputs) db r db') (h : Stays k rfq db) :
    Stays k rfq db' :=
  (Call.each_bind (f := fun a ↦ .returned (.ok (g a))) hc fun _ ↦ trivial).ran
    (fun _ _ _ hs heq ↦ heq ▸ hs) hr h

theorem wp_reads {c : MarketCall α} (hc : c.Each fun _ s s' ↦ s' = s) :
    c.wp Undisturbed (fun _ env ↦ env ∈ inputs) (fun _ db' ↦ db' = db) db :=
  Call.wp_invariant (Q := fun s ↦ s = db) hc (fun _ _ _ ha hb ↦ hb.trans ha)
    (fun _ _ ha hb ↦ hb.trans ha) rfl

/-- What a call does after its move. -/
theorem wp_tail {c : MarketCall α} {F : MarketDb → Prop} (hc : c.Each fun _ ↦ SameRfqs)
    (hF : ∀ s s', F s → SameRfqs s s' → F s') (h : F db) :
    c.wp Undisturbed (fun _ env ↦ env ∈ inputs) (fun _ db' ↦ F db') db :=
  Call.wp_invariant hc (fun _ ↦ hF) (fun _ _ ha hb ↦ hb ▸ ha) h

/-- The vendor's draft has this status now, and the vendor has met the condition for it. -/
def StaysOrEnded (k : String) (rfq : Rfq) (status : RfqStatus) (met : Prop) (db : MarketDb) : Prop :=
  Stays k rfq db ∨ met ∧ rfqStatus k db.rfqs = some status

theorem ended_same {status : RfqStatus} {met : Prop} (s s' : MarketDb) (h : StaysOrEnded k rfq status met s)
    (hsame : SameRfqs s s') : StaysOrEnded k rfq status met s' := by
  rcases h with hstays | ⟨hmet, hstatus⟩
  · exact .inl (stays_same s' hstays hsame)
  · rw [← hsame.1] at hstatus
    exact .inr ⟨hmet, hstatus⟩

/-- Rewriting an RFQ ends it if it is the draft. -/
theorem ended_update {f : Rfq → Rfq} {env : AuthEnv} {updated : Rfq} {status : RfqStatus}
    {met : Prop} {db' : MarketDb} (h : Stays k rfq db)
    (hupdate : updateRfq rfqId f env db = .ok (db', updated)) (hid : ∀ r, (f r).id = r.id)
    (hstatus : ∀ r, (f r).status = status) (hmet : rfqId = k → met) :
    StaysOrEnded k rfq status met db' := by
  obtain ⟨-, -, ⟨old, -, rfl⟩, hwritten, hrows⟩ := updateRfq_eq_ok (k := k) hupdate hid
  by_cases hk : k = rfqId
  · rw [if_pos hk] at hwritten
    exact .inr ⟨hmet hk.symm, by rw [hwritten, ← hstatus old]⟩
  · exact .inl ((hrows hk).trans h)

theorem getRfqById_ends (h : Stays k rfq db) (hdraft : rfq.status = .draft) :
    (getRfqById vendorId rfqId client).wp Undisturbed (fun _ env ↦ env ∈ inputs)
      (fun _ ↦ StaysOrEnded k rfq .expired (rfqId = k ∧ ∃ env ∈ inputs, rfq.expiresAt ≤ env.now)) db := by
  refine Call.wpg_bind (Call.wpg_mono (wp_reads (assertActiveUser_reads fun _ ↦ rfl)) fun r s hs ↦ ?_)
  subst hs
  cases r with
  | error x => exact .inl h
  | ok _ =>
  refine Call.wpg_bind (wp_finds (fun _ ↦ .inl h) fun env henv ↦ ?_)
  dsimp only
  cases hfound : s.rfqs.get? rfqId with
  | none => exact .inl h
  | some found =>
    have hsame : rfqId = k → found = rfq := by
      intro hk
      rw [hk, h, Option.some.injEq] at hfound
      exact hfound.symm
    dsimp only
    split_ifs with _ hexpired hviewed
    · exact .inl h
    · refine Call.wpg_bind (wp_stores (fun _ ↦ .inl h) fun env' db' a _ hs ↦ ?_)
      obtain ⟨⟨db₁, updated⟩, hupdate, hs⟩ := andThen_eq_ok.mp hs
      cases hs
      refine wp_tail (Call.each_bind enqueue_same fun _ ↦ trivial) ended_same ?_
      refine ended_update h hupdate (fun _ ↦ rfl) (fun _ ↦ rfl) fun hk ↦ ⟨hk, env, henv, ?_⟩
      rw [← hsame hk]
      exact hexpired.1
    · refine Call.wpg_bind (wp_stores (fun _ ↦ .inl h) fun env' db' a _ hs ↦ ?_)
      obtain ⟨⟨db₁, updated⟩, hupdate, hs⟩ := andThen_eq_ok.mp hs
      cases hs
      refine wp_tail (Call.each_bind enqueue_same fun _ ↦ Call.each_bind log_same fun _ ↦ trivial)
        ended_same (.inl ?_)
      -- an RFQ that is shown for the first time is no draft
      refine ((updateRfq_eq_ok (k := k) hupdate fun _ ↦ rfl).2.2.2.2 fun hk ↦ ?_).trans h
      have hstatus := hviewed.2
      rw [hsame hk.symm, hdraft] at hstatus
      cases hstatus
    · exact .inl h

theorem rejectRfq_ends {reason : Option String} (h : Stays k rfq db) :
    (rejectRfq vendorId rfqId reason client).wp Undisturbed (fun _ env ↦ env ∈ inputs)
      (fun _ ↦ StaysOrEnded k rfq .rejected (rfqId = k ∧ rfq.vendorId = vendorId)) db := by
  refine Call.wpg_bind (Call.wpg_mono (wp_reads (assertActiveUser_reads fun _ ↦ rfl)) fun r s hs ↦ ?_)
  subst hs
  cases r with
  | error x => exact .inl h
  | ok _ =>
  refine Call.wpg_bind (wp_finds (fun _ ↦ .inl h) fun env _ ↦ ?_)
  dsimp only
  cases hfound : s.rfqs.get? rfqId with
  | none => exact .inl h
  | some found =>
    dsimp only
    split_ifs with hvendor
    · exact .inl h
    · exact .inl h
    refine Call.wpg_bind (wp_stores (fun _ ↦ .inl h) fun env' db' a _ hs ↦ ?_)
    obtain ⟨⟨db₁, updated⟩, hupdate, hs⟩ := andThen_eq_ok.mp hs
    obtain ⟨db₂, henqueued, hs⟩ := andThen_eq_ok.mp hs
    cases hs
    refine wp_tail (Call.each_bind log_same fun _ ↦ trivial) ended_same ?_
    refine ended_same db₁ _ (ended_update h hupdate (fun _ ↦ rfl) (fun _ ↦ rfl) fun hk ↦ ⟨hk, ?_⟩)
      (.of_same (enqueued_eq_ok henqueued))
    rw [hk, h, Option.some.injEq] at hfound
    rw [hfound]
    exact not_not.mp hvendor

theorem getMyRfqs_same {query : RfqQueryDto} :
    (getMyRfqs vendorId query).Each fun _ s s' ↦ s' = s := by
  refine Call.each_bind (assertActiveUser_reads fun _ ↦ rfl) fun _ ↦ ?_
  exact Call.each_bind (each_finds fun _ ↦ rfl) fun _ ↦
    Call.each_bind (each_finds fun _ ↦ rfl) fun _ ↦ trivial

theorem getQuotationsForRfq_same {page limit : ℤ} :
    (getQuotationsForRfq vendorId rfqId page limit).Each fun _ s s' ↦ s' = s := by
  refine Call.each_bind (assertActiveUser_reads fun _ ↦ rfl) fun _ ↦
    Call.each_bind (each_finds fun _ ↦ rfl) fun ⟨rfq, now⟩ ↦ ?_
  cases rfq with
  | none => trivial
  | some rfq =>
    dsimp only
    split_ifs
    · trivial
    · exact Call.each_bind (each_finds fun _ ↦ rfl) fun _ ↦
        Call.each_bind (each_finds fun _ ↦ rfl) fun _ ↦ trivial

/-- A draft stays, or it ends as the call says. -/
theorem fate_of_ended {op : VendorOp} {db' : MarketDb} {r : Except AuthError VendorReply}
    {c : MarketCall α} {g : α → VendorReply} {status : RfqStatus} {met : Prop}
    (hc : c.wp Undisturbed (fun _ env ↦ env ∈ inputs) (fun _ ↦ StaysOrEnded rfq.id rfq status met) db)
    (hr : (c.bind fun a ↦ .returned (.ok (g a))).Ran (· ∈ inputs) db r db')
    (hends : met → rfqStatus rfq.id db'.rfqs = some status → op.Ends vendorId rfq inputs db') :
    Stays rfq.id rfq db' ∨ op.Ends vendorId rfq inputs db' := by
  have hbind : (c.bind fun a ↦ .returned (.ok (g a))).wp Undisturbed (fun _ env ↦ env ∈ inputs)
      (fun _ ↦ StaysOrEnded rfq.id rfq status met) db := by
    refine Call.wpg_bind (Call.wpg_mono hc fun r s hs ↦ ?_)
    cases r <;> exact hs
  exact (Call.wpg_ran hbind (fun _ ↦ rfl) (fun _ _ henv ↦ henv) hr).imp_right fun hended ↦
    hends hended.1 hended.2

/-- What a vendor's call leaves of a draft. -/
theorem fate_of_ran {op : VendorOp} {db' : MarketDb} {r : Except AuthError VendorReply}
    (hr : (op.runs vendorId).Ran (· ∈ inputs) db r db') (h : Stays rfq.id rfq db)
    (hdraft : rfq.status = .draft) : Stays rfq.id rfq db' ∨ op.Ends vendorId rfq inputs db' := by
  cases op with
  | getRfqById rfqId client =>
    exact fate_of_ended (getRfqById_ends h hdraft) hr fun hmet hstatus ↦ ⟨hmet.1, hmet.2, hstatus⟩
  | rejectRfq rfqId reason client =>
    exact fate_of_ended (rejectRfq_ends h) hr fun hmet hstatus ↦ ⟨hmet.1, hmet.2, hstatus⟩
  | getMyRfqs query => exact .inl (stays_of_same getMyRfqs_same hr h)
  | getQuotationsForRfq rfqId page limit => exact .inl (stays_of_same getQuotationsForRfq_same hr h)
  | requestClarification rfqId message client =>
    refine .inl (stays_of_traces requestClarification_traces hr h hdraft fun _ _ _ _ hdoes ↦ ?_)
    cases hdoes with
    | clarify hread => exact ⟨_, hread, by decide⟩
  | createQuotation dto client =>
    refine .inl (stays_of_traces createQuotation_traces hr h hdraft fun _ _ _ _ hdoes ↦ ?_)
    generalize rfq.id = k at hdoes ⊢
    cases hdoes with
    | quote hread => exact ⟨_, hread, by decide⟩

end Fates

section Claim

variable {vendorId : String} {op : VendorOp} {db db' : MarketDb} {inputs : List AuthEnv}
  {r : Except AuthError VendorReply} {after : MarketDb}

theorem avoids_nothing {α : Type} (c : MarketCall α) :
    Call.Avoids (fun _ ↦ False) inputs db c := by
  induction inputs generalizing db c with
  | nil => cases c <;> trivial
  | cons env inputs ih =>
    cases c with
    | returned r => trivial
    | request label effect next => exact ⟨not_false, ih _⟩

theorem outcome_of_twins {S : MarketDb → MarketDb → Prop} {α : Type} {c : MarketCall α}
    {g : α → VendorReply} (h : Twins S c c) (hS : S db db')
    (hr : (c.bind fun a ↦ .returned (.ok (g a))).outcome inputs db = some (r, after)) :
    ∃ after', (c.bind fun a ↦ .returned (.ok (g a))).outcome inputs db' = some (r, after') ∧
      S after after' := by
  have hbind : Twins S (c.bind fun a ↦ .returned (.ok (g a)))
      (c.bind fun a ↦ .returned (.ok (g a))) := by
    refine Call.twin_bind h fun a _ hsame ↦ ?_
    subst hsame
    exact twins_returned
  obtain ⟨q, after', hq, hafter, halike⟩ :=
    hbind.outcome (List.forall₂_same.mpr fun _ _ ↦ rfl) hS (avoids_nothing _) hr
  have hsame : r = q := by
    cases r <;> cases q <;> simp_all [Alike]
  exact ⟨after', hsame ▸ hq, hafter⟩

/-- What two databases answer that differ in drafts only. -/
theorem outcome_alike (h : SameButDrafts vendorId db db') (hop : op.NotOfDrafts vendorId db)
    (hop' : op.NotOfDrafts vendorId db')
    (hr : (op.runs vendorId).outcome inputs db = some (r, after)) :
    ∃ after', (op.runs vendorId).outcome inputs db' = some (r, after') := by
  have hforget : ∀ {S : MarketDb → MarketDb → Prop}, (∃ after', (op.runs vendorId).outcome inputs db' =
      some (r, after') ∧ S after after') →
        ∃ after', (op.runs vendorId).outcome inputs db' = some (r, after') :=
    fun ⟨after', hr', _⟩ ↦ ⟨after', hr'⟩
  cases op with
  | getMyRfqs query =>
    obtain ⟨status, hquery, hstatus⟩ := hop
    exact hforget (outcome_of_twins (getMyRfqs_twins hquery hstatus) h hr)
  | getRfqById rfqId client => exact hforget (outcome_of_twins getRfqById_twins ⟨h, hop, hop'⟩ hr)
  | requestClarification rfqId message client =>
    exact hforget (outcome_of_twins requestClarification_twins ⟨h, hop, hop'⟩ hr)
  | rejectRfq rfqId reason client =>
    exact hforget (outcome_of_twins rejectRfq_twins ⟨h, hop, hop'⟩ hr)
  | createQuotation dto client =>
    exact hforget (outcome_of_twins createQuotation_twins ⟨h, hop, hop'⟩ hr)
  | getQuotationsForRfq rfqId page limit =>
    exact hforget (outcome_of_twins getQuotationsForRfq_twins ⟨h, hop, hop'⟩ hr)

/-- A vendor's call that is not about drafts tells nothing about them, and a draft only ends when
the vendor reads it after its time or rejects it. -/
theorem drafts_aside (vendorId : String) (op : VendorOp) :
    (∀ db db' inputs r after, SameButDrafts vendorId db db' → op.NotOfDrafts vendorId db →
      op.NotOfDrafts vendorId db' → (op.runs vendorId).outcome inputs db = some (r, after) →
        ∃ after', (op.runs vendorId).outcome inputs db' = some (r, after')) ∧
      ∀ db inputs r after, (op.runs vendorId).outcome inputs db = some (r, after) →
        ∀ rfq ∈ db.rfqs.rows, rfq.status = .draft →
          rfq ∈ after.rfqs.rows ∨ op.Ends vendorId rfq inputs after := by
  refine ⟨fun db db' inputs r after h hop hop' hr ↦ outcome_alike h hop hop' hr,
    fun db inputs r after hr rfq hrfq hdraft ↦ ?_⟩
  have hran := Call.ran_of_outcome (fun _ henv ↦ henv) hr
  have hstays : Stays rfq.id rfq db := Table.get?_eq_some.mpr ⟨hrfq, rfl⟩
  exact (fate_of_ran hran hstays hdraft).imp_left fun h ↦ (Table.get?_eq_some.mp h).1

end Claim

section Sample

/-- The sponsor has not sent the RFQ yet. -/
def draftDb : MarketDb :=
  { marketDb with
    rfqs := .singleton { sampleRfq with
      status := .draft
      sentAt := none } }

def noRfqDb : MarketDb := { marketDb with rfqs := .empty }

/-- Everything, in the default order. -/
def wholeList : RfqQueryDto := ⟨none, none, none, none, none, none, none, none⟩

def statementInputs : List AuthEnv := (List.range 4).map fun i ↦ sampleEnv 1 (toString i)

/-- How many RFQs the vendor finds. -/
def totalFor (db : MarketDb) : Option ℕ :=
  match ((VendorOp.getMyRfqs wholeList).runs "vendor-1").outcome statementInputs db with
  | some (.ok (.rfqs page), _) => some page.total
  | _ => none

/-- The vendor's list shows a draft, and the vendor can reject it. -/
theorem draft_shown : SameButDrafts "vendor-1" noRfqDb draftDb ∧ totalFor noRfqDb = some 0 ∧
    totalFor draftDb = some 1 ∧ rfqStatus "rfq-1" draftDb.rfqs = some .draft ∧
    (((VendorOp.rejectRfq "rfq-1" none nobody).runs "vendor-1").outcome statementInputs draftDb).map
      (fun q ↦ rfqStatus "rfq-1" q.2.rfqs) = some (some .rejected) :=
  ⟨⟨rfl, rfl⟩, by decide +kernel, by decide +kernel, by decide +kernel, by decide +kernel⟩

end Sample

end Innovents.Marketplace
