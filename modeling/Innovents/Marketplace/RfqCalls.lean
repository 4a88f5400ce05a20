import Innovents.Marketplace.RfqMoves

namespace Innovents.Marketplace

open Innovents.Lib Innovents.Auth RfqService QuotationService RfqExpirationService

inductive RfqOp
  | sendRfq (sponsorId rfqId : String) (client : Client)
  | getRfqById (userId rfqId : String) (client : Client)
  | requestClarification (userId rfqId message : String) (client : Client)
  | cancelRfq (sponsorId rfqId : String) (reason : Option String) (client : Client)
  | rejectRfq (vendorId rfqId : String) (reason : Option String) (client : Client)
  | createQuotation (vendorId : String) (dto : CreateQuotationDto) (client : Client)
  | acceptQuotation (sponsorId quotationId : String) (client : Client)
  | rejectQuotation (sponsorId quotationId : String) (reason : Option String) (client : Client)
  | expireRfq (rfqId : String)
  | sweepExpiredRfqs

/-- What a call answers does not matter here. -/
def RfqOp.runs : RfqOp → MarketCall Unit
  | sendRfq sponsorId rfqId client => do
    let _ ← RfqService.sendRfq sponsorId rfqId client
  | getRfqById userId rfqId client => do
    let _ ← RfqService.getRfqById userId rfqId client
  | requestClarification userId rfqId message client => do
    let _ ← RfqService.requestClarification userId rfqId message client
  | cancelRfq sponsorId rfqId reason client => do
    let _ ← RfqService.cancelRfq sponsorId rfqId reason client
  | rejectRfq vendorId rfqId reason client => do
    let _ ← RfqService.rejectRfq vendorId rfqId reason client
  | createQuotation vendorId dto client => do
    let _ ← QuotationService.createQuotation vendorId dto client
  | acceptQuotation sponsorId quotationId client => do
    let _ ← QuotationService.acceptQuotation sponsorId quotationId client
  | rejectQuotation sponsorId quotationId reason client => do
    let _ ← QuotationService.rejectQuotation sponsorId quotationId reason client
  | expireRfq rfqId => do
    let _ ← RfqExpirationService.expireRfq rfqId
  | sweepExpiredRfqs => do
    let _ ← RfqExpirationService.sweepExpiredRfqs

/-- The latest request of the call has read the RFQ with such a status. -/
def ReadAs (history : MarketHistory) (id : String) (met : RfqStatus → Prop) : Prop :=
  ∃ db rfq, history.last = some db ∧ db.rfqs.get? id = some rfq ∧ met rfq.status

/-- The moves of a call, with what it knows when it makes them. -/
inductive Does (history : MarketHistory) (env : AuthEnv) (db : MarketDb) :
    RfqOp → String → RfqMove → Prop
  | send {sponsorId rfqId client} : ReadAs history rfqId (· = .draft) →
      Does history env db (.sendRfq sponsorId rfqId client) rfqId (.become .sent)
  | runOut {userId rfqId client} : ReadAs history rfqId (·.canExpire) →
      Does history env db (.getRfqById userId rfqId client) rfqId (.become .expired)
  | view {userId rfqId client} : ReadAs history rfqId (· = .sent) →
      Does history env db (.getRfqById userId rfqId client) rfqId (.become .viewed)
  | clarify {userId rfqId message client} :
      ReadAs history rfqId (fun status ↦ status = .sent ∨ status = .viewed) →
      Does history env db (.requestClarification userId rfqId message client) rfqId
        (.become .clarificationRequested)
  | cancel {sponsorId rfqId reason client} : ReadAs history rfqId (¬·.terminal) →
      Does history env db (.cancelRfq sponsorId rfqId reason client) rfqId
        (.close .cancelled .rejected)
  | rejectRfq {vendorId rfqId reason client} : ReadAs history rfqId (¬·.terminal) →
      Does history env db (.rejectRfq vendorId rfqId reason client) rfqId (.become .rejected)
  | quote {vendorId dto client id} : ReadAs history dto.rfqId (eligible ·) →
      Does history env db (.createQuotation vendorId dto client) dto.rfqId (.quote id)
  | accept {sponsorId quotationId client quotation rfq db₀} :
      history = [("user.findFirst", db₀, db₀)] →
      quotationWithRfq quotationId db = some (quotation, rfq) → rfq.sponsorId = sponsorId →
      quotation.status = .pending → env.now < quotation.validUntil →
      Does history env db (.acceptQuotation sponsorId quotationId client) quotation.rfqId
        (.accept quotationId)
  | reject {sponsorId quotationId reason client quotation found db₀} :
      history.last = some db₀ → db₀.quotations.get? quotationId = some quotation →
      quotation.status = .pending → db.quotations.get? quotationId = some found →
      Does history env db (.rejectQuotation sponsorId quotationId reason client) found.rfqId
        (.reject quotationId)
  | expire {rfqId} : ReadAs history rfqId (·.canExpire) →
      Does history env db (.expireRfq rfqId) rfqId (.close .expired .expired)
  | sweep {rfqId} : ReadAs history rfqId (·.canExpire) →
      Does history env db .sweepExpiredRfqs rfqId (.close .expired .expired)

/-- The requests that move an RFQ. -/
def moving : List String := ["$transaction", "rfq.update"]

/-- A request of a call leaves everything alone, or it makes a move of one RFQ. -/
def Steps (op : RfqOp) (history : MarketHistory) (label : String) (env : AuthEnv)
    (db db' : MarketDb) : Prop :=
  SameRfqs db db' ∨ label ∈ moving ∧
    ∃ id m, Does history env db op id m ∧ Makes id m db db'

section Parts

variable {α : Type} {op : RfqOp} {history : MarketHistory} {name : String} {client : Client}
  {params : CreateOutboxEventParams}

theorem steps_self {label : String} {env : AuthEnv} {db : MarketDb} :
    Steps op history label env db db := .inl ⟨rfl, rfl⟩

/-- The rest of a call that has made its move. -/
theorem tail_traces {c : MarketCall α} (h : c.Each fun _ ↦ SameRfqs) :
    c.Traces (Steps op) (fun _ _ ↦ True) history :=
  Call.traces_each h fun _ _ _ _ _ hsame ↦ .inl hsame

theorem log_same {params : CreateAuditLogParams} : (log params client).Each fun _ ↦ SameRfqs :=
  each_log fun _ _ ↦ ⟨rfl, rfl⟩

theorem enqueue_same : (enqueue params).Each fun _ ↦ SameRfqs := by
  refine each_stores (fun _ ↦ ⟨rfl, rfl⟩) fun env db db' a h ↦ ?_
  obtain ⟨db₁, henqueued, h⟩ := andThen_eq_ok.mp h
  cases h
  exact .of_same (enqueued_eq_ok henqueued)

theorem addCleanupJob_same {job : AuthEnv → CleanupJob} :
    (addCleanupJob job).Each fun _ ↦ SameRfqs := by
  refine each_stores (fun _ ↦ ⟨rfl, rfl⟩) fun env db db' a h ↦ ?_
  cases h
  split_ifs <;> exact ⟨rfl, rfl⟩

theorem assertActiveUser_traces {userId : String} {requiredRole : Option String} :
    (assertActiveUser userId requiredRole).Traces (Steps op)
      (fun history' _ ↦ ∃ db, history' = history ++ [("user.findFirst", db, db)]) history := by
  refine Call.traces_bind (traces_finds (fun _ _ ↦ steps_self) fun env db ↦ ?_)
  cases (db.accounts.users.get? userId).filter (·.deletedAt.isNone) with
  | none => trivial
  | some user =>
    dsimp only
    split_ifs
    · trivial
    · cases requiredRole.filter (· ∉ user.userRoles) with
      | none => exact ⟨db, rfl⟩
      | some role => trivial

theorem findRfq_traces {rfqId : String} :
    (findRfq rfqId).Traces (Steps op)
      (fun history' a ↦ ∃ db, history'.last = some db ∧ a.1 = db.rfqs.get? rfqId) history :=
  traces_finds (fun _ _ ↦ steps_self) fun _ db ↦ ⟨db, History.last_concat, rfl⟩

end Parts

section Calls

variable {α : Type} {op : RfqOp} {history : MarketHistory} {client : Client} {rfqId : String}
  {userId : String} {role reason : Option String}

/-- A call that checks the account and then reads the RFQ. -/
theorem read_traces {f : Option Rfq × Innovents.Payments.Time → MarketCall α}
    (hnone : ∀ now history, (f (none, now)).Traces (Steps op) (fun _ _ ↦ True) history)
    (h : ∀ rfq now history db, history.last = some db → db.rfqs.get? rfqId = some rfq →
      (f (some rfq, now)).Traces (Steps op) (fun _ _ ↦ True) history) :
    ((assertActiveUser userId role).bind fun _ ↦ (findRfq rfqId).bind f).Traces (Steps op)
      (fun _ _ ↦ True) history := by
  refine Call.traces_bind (assertActiveUser_traces.mono fun history _ _ ↦ ?_)
  refine Call.traces_bind (findRfq_traces.mono fun history ⟨rfq, now⟩ ⟨db, hlast, hrfq⟩ ↦ ?_)
  cases rfq with
  | none => exact hnone now history
  | some rfq => exact h rfq now history db hlast hrfq.symm

/-- The transaction of a call, and what comes after it. -/
theorem move_traces {f : AuthEnv → MarketDb → Except AuthError (MarketDb × α)} {β : Type}
    {g : α → MarketCall β} {name : String} (hname : name ∈ moving)
    (h : ∀ env db db' a, f env db = .ok (db', a) →
      SameRfqs db db' ∨ ∃ id m, Does history env db op id m ∧ Makes id m db db')
    (hg : ∀ a, (g a).Each fun _ ↦ SameRfqs) :
    ((stores name f).bind g).Traces (Steps op) (fun _ _ ↦ True) history := by
  refine Call.traces_bind (traces_stores (fun _ _ ↦ steps_self) fun env db db' a hs ↦ ⟨?_, ?_⟩)
  · exact (h env db db' a hs).imp_right fun hmove ↦ ⟨hname, hmove⟩
  · exact tail_traces (hg a)

theorem sendRfq_traces : (sendRfq userId rfqId client).Traces
    (Steps (.sendRfq userId rfqId client)) (fun _ _ ↦ True) [] := by
  refine read_traces (fun _ _ ↦ trivial) fun rfq now history db hlast hrfq ↦ ?_
  dsimp only
  split_ifs with _ hdraft
  · trivial
  · trivial
  · trivial
  refine move_traces (by decide) (fun env db₁ db₂ a hs ↦ .inr ⟨_, _, .send ?_, sending_makes hs⟩)
    fun a ↦ Call.each_bind addCleanupJob_same fun _ ↦ Call.each_bind log_same fun _ ↦ trivial
  exact ⟨db, rfq, hlast, hrfq, not_not.mp hdraft⟩

theorem setRfq_traces {f : Innovents.Payments.Time → Rfq → Rfq} {status : RfqStatus}
    {g : Innovents.Payments.Time → MarketCall α} (hid : ∀ now r, (f now r).id = r.id)
    (hstatus : ∀ now r, (f now r).status = status) (hne : status ≠ .accepted)
    (hdoes : ∀ env db, Does history env db op rfqId (.become status))
    (hg : ∀ a, (g a).Each fun _ ↦ SameRfqs) :
    ((setRfq rfqId f).bind g).Traces (Steps op) (fun _ _ ↦ True) history := by
  refine move_traces (by decide) (fun env db db' a hs ↦ .inr ⟨_, _, hdoes env db, ?_⟩) hg
  obtain ⟨⟨db₁, rfq⟩, hupdate, hs⟩ := andThen_eq_ok.mp hs
  cases hs
  exact updateRfq_makes hupdate (hid env.now) (hstatus env.now) hne

theorem getRfqById_traces : (getRfqById userId rfqId client).Traces
    (Steps (.getRfqById userId rfqId client)) (fun _ _ ↦ True) [] := by
  refine Call.traces_bind (assertActiveUser_traces.mono fun history _ _ ↦ ?_)
  refine Call.traces_bind (traces_finds (fun _ _ ↦ steps_self) fun env db ↦ ?_)
  cases hrfq : db.rfqs.get? rfqId with
  | none => trivial
  | some rfq =>
    dsimp only
    split_ifs with _ hexpired hviewed
    · trivial
    · refine setRfq_traces (fun _ _ ↦ rfl) (fun _ _ ↦ rfl) RfqStatus.noConfusion (fun _ _ ↦ .runOut ?_)
        fun _ ↦ Call.each_bind enqueue_same fun _ ↦ trivial
      exact ⟨db, rfq, History.last_concat, hrfq, hexpired.2⟩
    · refine setRfq_traces (fun _ _ ↦ rfl) (fun _ _ ↦ rfl) RfqStatus.noConfusion (fun _ _ ↦ .view ?_)
        fun _ ↦ Call.each_bind enqueue_same fun _ ↦ Call.each_bind log_same fun _ ↦ trivial
      exact ⟨db, rfq, History.last_concat, hrfq, hviewed.2⟩
    · trivial

theorem requestClarification_traces {message : String} :
    (requestClarification userId rfqId message client).Traces
      (Steps (.requestClarification userId rfqId message client)) (fun _ _ ↦ True) [] := by
  unfold requestClarification
  refine read_traces (fun _ _ ↦ trivial) fun rfq now history db hlast hrfq ↦ ?_
  dsimp only
  generalize (if userId = rfq.vendorId then rfq.sponsorId else rfq.vendorId) = recipientId
  split_ifs
  · trivial
  · trivial
  · trivial
  refine move_traces (by decide) (fun env db₁ db₂ a hs ↦ ?_) fun a ↦
    Call.each_bind log_same fun _ ↦ ?_
  · have hid : rfq.id = rfqId := (Table.get?_eq_some.mp hrfq).2
    have hmakes := clarification_makes hs
    rw [hid] at hmakes
    split_ifs at hmakes with hmoved
    · exact .inr ⟨_, _, .clarify ⟨db, rfq, hlast, hrfq, hmoved.2⟩, hmakes⟩
    · exact .inl hmakes
  · obtain ⟨updated, clarifications⟩ := a
    cases updated <;> trivial

theorem cancelRfq_traces : (cancelRfq userId rfqId reason client).Traces
    (Steps (.cancelRfq userId rfqId reason client)) (fun _ _ ↦ True) [] := by
  refine read_traces (fun _ _ ↦ trivial) fun rfq now history db hlast hrfq ↦ ?_
  dsimp only
  split_ifs with _ hterminal
  · trivial
  · trivial
  refine move_traces (by decide) (fun env db₁ db₂ a hs ↦ .inr ⟨_, _, .cancel ?_, cancellation_makes hs⟩)
    fun a ↦ Call.each_bind log_same fun _ ↦ trivial
  exact ⟨db, rfq, hlast, hrfq, hterminal⟩

theorem rejectRfq_traces : (rejectRfq userId rfqId reason client).Traces
    (Steps (.rejectRfq userId rfqId reason client)) (fun _ _ ↦ True) [] := by
  refine read_traces (fun _ _ ↦ trivial) fun rfq now history db hlast hrfq ↦ ?_
  dsimp only
  split_ifs with _ hterminal
  · trivial
  · trivial
  refine move_traces (by decide) (fun env db₁ db₂ a hs ↦ .inr ⟨_, _, .rejectRfq ?_, rejection_makes hs⟩)
    fun a ↦ Call.each_bind log_same fun _ ↦ trivial
  exact ⟨db, rfq, hlast, hrfq, hterminal⟩

theorem createQuotation_traces {dto : CreateQuotationDto} :
    (createQuotation userId dto client).Traces (Steps (.createQuotation userId dto client))
      (fun _ _ ↦ True) [] := by
  refine read_traces (fun _ _ ↦ trivial) fun rfq now history db hlast hrfq ↦ ?_
  dsimp only
  split_ifs with _ heligible
  · trivial
  · trivial
  · split <;> trivial
  · split
    · trivial
    · cases calculate dto with
      | error x => trivial
      | ok calculation =>
        refine move_traces (by decide) (fun env db₁ db₂ a hs ↦ .inr ⟨_, _, .quote ?_, quoting_makes hs⟩)
          fun a ↦ Call.each_bind log_same fun _ ↦ trivial
        exact ⟨db, rfq, hlast, hrfq, heligible⟩
  · trivial

theorem acceptQuotation_traces {quotationId : String} :
    (acceptQuotation userId quotationId client).Traces
      (Steps (.acceptQuotation userId quotationId client)) (fun _ _ ↦ True) [] := by
  refine Call.traces_bind (assertActiveUser_traces.mono fun history _ ⟨db, hhistory⟩ ↦ ?_)
  refine move_traces (by decide) (fun env db₁ db₂ a hs ↦ .inr ?_) fun a ↦
    Call.each_bind log_same fun _ ↦ trivial
  obtain ⟨quotation, rfq, hfound, hsponsor, hpending, hvalid, hmakes⟩ := acceptance_makes hs
  exact ⟨_, _, .accept hhistory hfound hsponsor hpending hvalid, hmakes⟩

theorem rejectQuotation_traces {quotationId : String} :
    (rejectQuotation userId quotationId reason client).Traces
      (Steps (.rejectQuotation userId quotationId reason client)) (fun _ _ ↦ True) [] := by
  refine Call.traces_bind (assertActiveUser_traces.mono fun history _ _ ↦ ?_)
  refine Call.traces_bind (traces_finds (fun _ _ ↦ steps_self) fun env db ↦ ?_)
  cases hfound : quotationWithRfq quotationId db with
  | none => trivial
  | some found =>
    obtain ⟨quotation, rfq⟩ := found
    dsimp only
    split_ifs with _ hpending
    · trivial
    · trivial
    refine move_traces (by decide) (fun env db₁ db₂ a hs ↦ .inr ?_) fun a ↦
      Call.each_bind log_same fun _ ↦ trivial
    obtain ⟨current, hcurrent, hmakes⟩ := quotation_rejection_makes hs
    exact ⟨_, _, .reject History.last_concat (quotationWithRfq_eq hfound).1 (not_not.mp hpending)
      hcurrent, hmakes⟩

/-- Expiring one RFQ, on its own or as part of a sweep. -/
theorem expireRfq_steps {post : MarketHistory → Bool → Prop}
    (hdoes : ∀ history env db, ReadAs history rfqId (·.canExpire) →
      Does history env db op rfqId (.close .expired .expired)) (hpost : ∀ history a, post history a) :
    (expireRfq rfqId).Traces (Steps op) post history := by
  suffices htraces : (expireRfq rfqId).Traces (Steps op) (fun _ _ ↦ True) history from
    htraces.mono fun history a _ ↦ hpost history a
  refine Call.traces_bind (findRfq_traces.mono fun history ⟨rfq, now⟩ ⟨db, hlast, hrfq⟩ ↦ ?_)
  cases rfq with
  | none => trivial
  | some rfq =>
    dsimp only
    split_ifs with hexpires
    · refine move_traces (by decide) (fun env db₁ db₂ a hs ↦ .inr ⟨_, _, ?_, expiry_makes hs⟩)
        fun a ↦ trivial
      have hid : rfq.id = rfqId := (Table.get?_eq_some.mp hrfq.symm).2
      rw [hid]
      exact hdoes history env db₁ ⟨db, rfq, hlast, hrfq.symm, hexpires⟩
    · trivial

theorem expireAll_traces {ids : List String} :
    (expireAll ids).Traces (Steps .sweepExpiredRfqs) (fun _ _ ↦ True) history := by
  induction ids generalizing history with
  | nil => trivial
  | cons id rest ih =>
    refine Call.traces_bind (Call.traces_attempt
      (expireRfq_steps (fun _ _ _ ↦ .sweep) fun history a ↦ ?_) fun history x ↦ ?_)
    · exact Call.traces_bind (ih.mono fun _ _ _ ↦ trivial)
    · exact Call.traces_bind (ih.mono fun _ _ _ ↦ trivial)

/-- What each call does. -/
theorem runs_traces : op.runs.Traces (Steps op) (fun _ _ ↦ True) [] := by
  cases op with
  | sendRfq => exact Call.traces_bind (sendRfq_traces.mono fun _ _ _ ↦ trivial)
  | getRfqById => exact Call.traces_bind (getRfqById_traces.mono fun _ _ _ ↦ trivial)
  | requestClarification =>
    exact Call.traces_bind (requestClarification_traces.mono fun _ _ _ ↦ trivial)
  | cancelRfq => exact Call.traces_bind (cancelRfq_traces.mono fun _ _ _ ↦ trivial)
  | rejectRfq => exact Call.traces_bind (rejectRfq_traces.mono fun _ _ _ ↦ trivial)
  | createQuotation => exact Call.traces_bind (createQuotation_traces.mono fun _ _ _ ↦ trivial)
  | acceptQuotation => exact Call.traces_bind (acceptQuotation_traces.mono fun _ _ _ ↦ trivial)
  | rejectQuotation => exact Call.traces_bind (rejectQuotation_traces.mono fun _ _ _ ↦ trivial)
  | expireRfq =>
    exact Call.traces_bind (expireRfq_steps (fun _ _ _ ↦ .expire) fun _ _ ↦ trivial)
  | sweepExpiredRfqs =>
    refine Call.traces_bind ?_
    refine Call.traces_bind (traces_finds (fun _ _ ↦ steps_self) fun env db ↦ ?_)
    exact expireAll_traces.mono fun _ _ _ ↦ trivial

end Calls

section Runs

abbrev RfqTask := Task RfqOp String AuthEnv MarketDb AuthError Unit

/-- Calls side by side. -/
def rfqCalls : Machine MarketDb RfqTask AuthEnv := tasks RfqOp.runs

/-- No call has begun, and the RFQ has no quotations. -/
def Unquoted (k : String) (p : Pool MarketDb RfqTask) : Prop :=
  p.threads = [] ∧ ∀ q ∈ p.shared.quotations.rows, q.rfqId ≠ k

theorem Unquoted.quotations {k : String} {p : Pool MarketDb RfqTask} (h : Unquoted k p) :
    quotationsOf k p.shared.quotations = [] := by
  rw [quotationsOf, List.map_eq_nil_iff, List.filter_eq_nil_iff]
  exact fun q hq hk ↦ h.2 q hq (beq_iff_eq.mp hk)

end Runs

section Sample

def sampleSponsor : User :=
  { attendee with
    id := "sponsor-1"
    email := "sponsor@example.com"
    userRoles := ["SPONSOR"] }

def sampleVendor : User :=
  { attendee with
    id := "vendor-1"
    email := "vendor@example.com"
    userRoles := ["VENDOR"] }

def sampleRfq : Rfq where
  id := "rfq-1"
  sponsorId := "sponsor-1"
  vendorId := "vendor-1"
  eventId := none
  title := "Catering"
  description := "Lunch for 200 guests"
  requirements := none
  status := .sent
  expiresAt := 100
  sentAt := some 0
  viewedAt := none
  cancelledAt := none
  acceptedAt := none
  rejectedAt := none
  cancellationReason := none
  rejectionReason := none
  createdAt := 0
  updatedAt := 0
  items := []

/-- The sponsor has sent an RFQ to the vendor. -/
def marketDb : MarketDb :=
  { MarketDb.empty with
    accounts := { AuthDb.empty with
      users := ((Table.singleton sampleSponsor).create sampleVendor).toOption.getD .empty }
    rfqs := .singleton sampleRfq }

def sampleQuotation : CreateQuotationDto where
  rfqId := "rfq-1"
  items := [⟨none, "Lunch", 200, 10, none⟩]
  tax := none
  discount := none
  currency := none
  validUntil := some 90
  notes := none

end Sample

end Innovents.Marketplace
