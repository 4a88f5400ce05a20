import Innovents.Marketplace.QuotationVersions

namespace Innovents.Marketplace

open Innovents.Lib Innovents.Auth QuotationService

section Machine

variable {v : RfqView} {m : RfqMove}

/-- Quotations that await an answer belong to an RFQ that is quoted or rejected. -/
def Answerable (v : RfqView) : Prop :=
  ∀ q ∈ v.quotations, q.status = .pending → v.status = some .quoted ∨ v.status = some .rejected

/-- The RFQ is not in one of its last statuses. -/
def RfqView.Active (v : RfqView) : Prop := ∃ status, v.status = some status ∧ ¬status.terminal

/-- Only open RFQs move, and those that are quoted do not go back. -/
def RfqMove.Orderly : RfqMove → RfqView → Prop
  | become status, v => v.Active ∧ (v.status = some .quoted → status = .rejected)
  | quote _, v => v.Active
  | accept _, v => v.status ≠ some .rejected
  | reject _, _ => True
  | close _ _, v => v.Active

theorem RfqView.Active.not_terminal (h : v.Active) {status : RfqStatus}
    (hstatus : v.status = some status) : ¬status.terminal := by
  obtain ⟨status', hstatus', hopen⟩ := h
  rw [hstatus', Option.some.injEq] at hstatus
  rw [← hstatus]
  exact hopen

theorem Answerable.apply (h : Answerable v) (hm : m.Enabled v) (ho : m.Orderly v) :
    Answerable (m.apply v) := by
  cases m with
  | become status =>
    intro q hq hpending
    rcases h q hq hpending with hquoted | hrejected
    · right
      exact congrArg some (ho.2 hquoted)
    · exact absurd (by decide) (ho.1.not_terminal hrejected)
  | quote id => exact fun _ _ _ ↦ .inl rfl
  | accept id =>
    intro q hq hpending
    obtain ⟨r, -, rfl⟩ := List.mem_map.mp hq
    split_ifs at hpending
    exact absurd hpending (settle_not_pending (by decide))
  | reject id =>
    intro q hq hpending
    obtain ⟨r, hr, rfl⟩ := List.mem_map.mp hq
    split_ifs at hpending
    exact h r hr hpending
  | close status unanswered =>
    intro q hq hpending
    obtain ⟨r, -, rfl⟩ := List.mem_map.mp hq
    exact absurd hpending (settle_not_pending hm.2.1)

/-- An RFQ in one of its last statuses stays there. -/
theorem Answerable.stays (h : Answerable v) (hm : m.Enabled v) (ho : m.Orderly v)
    {status : RfqStatus} (hstatus : v.status = some status) (hterminal : status.terminal = true) :
    (m.apply v).status = some status := by
  cases m with
  | become status' => exact absurd hterminal (ho.1.not_terminal hstatus)
  | quote id => exact absurd hterminal (RfqView.Active.not_terminal ho hstatus)
  | close status' unanswered => exact absurd hterminal (RfqView.Active.not_terminal ho hstatus)
  | reject id => exact hstatus
  | accept id =>
    -- the quotation is pending, so the RFQ is quoted
    obtain ⟨-, q, hq, -, hpending⟩ := hm
    rcases h q hq hpending with hquoted | hrejected
    · rw [hstatus, Option.some.injEq] at hquoted
      rw [hquoted] at hterminal
      cases hterminal
    · exact absurd hrejected ho

end Machine

section Claim

/-- A call, and what its statements may meet. -/
structure RfqCall where
  op : RfqOp
  inputs : Set AuthEnv

/-- Calls are carried out one after another. -/
def RfqCall.Step (db : MarketDb) (c : RfqCall) (db' : MarketDb) : Prop :=
  ∃ r, Call.Ran (· ∈ c.inputs) c.op.runs db r db'

/-- The sponsor does not accept a quotation that still awaits an answer although the vendor has
rejected the RFQ. -/
def AcceptsOpen (k : String) (db : MarketDb) (c : RfqCall) : Prop :=
  ∀ sponsorId quotationId client quotation rfq, c.op = .acceptQuotation sponsorId quotationId client →
    quotationWithRfq quotationId db = some (quotation, rfq) → quotation.rfqId = k →
      rfq.sponsorId = sponsorId → quotation.status = .pending → rfq.status = .rejected →
        ∀ env ∈ c.inputs, quotation.validUntil ≤ env.now

end Claim

section Steps

variable {k : String} {db db' a : MarketDb} {c : RfqCall} {history : MarketHistory} {env : AuthEnv}
  {m : RfqMove}

theorem ReadAs.current {start : MarketDb} {met : RfqStatus → Prop} (h : ReadAs history k met)
    (hleads : history.Leads start a) : ∃ status, (rfqView k a).status = some status ∧ met status := by
  obtain ⟨db, rfq, hlast, hget, hmet⟩ := h
  rw [← hleads.last hlast] at hget
  exact ⟨rfq.status, by rw [rfqView, rfqStatus, hget, Option.map_some], hmet⟩

theorem active_of_read {met : RfqStatus → Prop}
    (h : ∃ status, (rfqView k a).status = some status ∧ met status)
    (hmet : ∀ status, met status → ¬status.terminal) : (rfqView k a).Active := by
  obtain ⟨status, hstatus, hread⟩ := h
  exact ⟨status, hstatus, hmet status hread⟩

theorem become_orderly {met : RfqStatus → Prop} {next : RfqStatus}
    (h : ∃ status, (rfqView k a).status = some status ∧ met status)
    (hmet : ∀ status, met status → ¬status.terminal)
    (hnext : ∀ status, met status → status = .quoted → next = .rejected) :
    (RfqMove.become next).Orderly (rfqView k a) := by
  refine ⟨active_of_read h hmet, fun hquoted ↦ ?_⟩
  obtain ⟨status, hstatus, hread⟩ := h
  rw [hstatus, Option.some.injEq] at hquoted
  exact hnext status hread hquoted

theorem not_terminal_of_canExpire (status : RfqStatus) (h : status.canExpire = true) :
    ¬status.terminal := by
  cases status <;> first | decide | cases h

theorem not_terminal_of_eligible (status : RfqStatus) (h : eligible status = true) :
    ¬status.terminal := by
  cases status <;> first | decide | cases h

/-- A call that nobody disturbs makes its moves in order. -/
theorem orderly_of_leads (hdoes : Does history env a c.op k m) (hleads : history.Leads db a)
    (henv : env ∈ c.inputs) (hok : AcceptsOpen k db c) : m.Orderly (rfqView k a) := by
  obtain ⟨op, inputs⟩ := c
  dsimp only at hdoes henv
  cases hdoes with
  | send hread | view hread =>
    exact become_orderly (hread.current hleads) (by rintro _ rfl; decide)
      (by rintro _ rfl h; cases h)
  | runOut hread =>
    refine become_orderly (hread.current hleads) not_terminal_of_canExpire fun status h hquoted ↦ ?_
    rw [hquoted] at h
    cases h
  | clarify hread =>
    refine become_orderly (hread.current hleads) ?_ ?_
    · rintro _ (rfl | rfl) <;> decide
    · rintro _ (rfl | rfl) h <;> cases h
  | rejectRfq hread => exact become_orderly (hread.current hleads) (fun _ h ↦ h) fun _ _ _ ↦ rfl
  | cancel hread => exact active_of_read (hread.current hleads) fun _ h ↦ h
  | quote hread => exact active_of_read (hread.current hleads) not_terminal_of_eligible
  | expire hread | sweep hread =>
    exact active_of_read (hread.current hleads) not_terminal_of_canExpire
  | reject => trivial
  | accept hhistory hfound hsponsor hpending hvalid =>
    subst hhistory
    obtain ⟨rfl, rfl⟩ := hleads
    intro hrejected
    obtain ⟨-, hrfq⟩ := quotationWithRfq_eq hfound
    rw [rfqView, rfqStatus, hrfq, Option.map_some, Option.some.injEq] at hrejected
    have hexpired := hok _ _ _ _ _ rfl hfound rfl hsponsor hpending hrejected env henv
    exact absurd hvalid (not_lt.mpr hexpired)

/-- What a complete call keeps. -/
theorem answerable_step (hs : RfqCall.Step db c db') (hok : AcceptsOpen k db c)
    (h : Answerable (rfqView k db)) : Answerable (rfqView k db') ∧
      ∀ status : RfqStatus, (rfqView k db).status = some status → status.terminal = true →
        (rfqView k db').status = some status := by
  obtain ⟨r, hr⟩ := hs
  have hstart : History.Leads ([] : MarketHistory) db db := rfl
  refine runs_traces.ran (J := fun a ↦ Answerable (rfqView k a) ∧
    ∀ status : RfqStatus, (rfqView k db).status = some status → status.terminal = true →
      (rfqView k a).status = some status) hr hstart ⟨h, fun _ hstatus _ ↦ hstatus⟩ ?_
  intro history label env a b hleads henv hsteps ⟨ha, hkept⟩
  rcases hsteps with hsame | ⟨-, id, m, hdoes, hmakes⟩
  · rw [hsame.view]
    exact ⟨ha, hkept⟩
  · by_cases hk : k = id
    · subst hk
      have horderly := orderly_of_leads hdoes hleads henv hok
      rw [hmakes.moved]
      refine ⟨ha.apply hmakes.enabled horderly, fun status hstatus hterminal ↦ ?_⟩
      exact ha.stays hmakes.enabled horderly (hkept status hstatus hterminal) hterminal
    · rw [hmakes.others k hk]
      exact ⟨ha, hkept⟩

end Steps

section Runs

variable {k : String} {db db' : MarketDb}

/-- The RFQ has no quotations. -/
def NotQuoted (k : String) (db : MarketDb) : Prop := ∀ q ∈ db.quotations.rows, q.rfqId ≠ k

theorem answerable_reach (h : Reach RfqCall.Step (AcceptsOpen k) (NotQuoted k) db) :
    Answerable (rfqView k db) := by
  refine h.invariant (I := fun db ↦ Answerable (rfqView k db)) ?_ ?_
  · intro db hdb q hq
    obtain ⟨r, hr, -⟩ := List.mem_map.mp hq
    obtain ⟨hmem, hk⟩ := List.mem_filter.mp hr
    exact absurd (beq_iff_eq.mp hk) (hdb r hmem)
  · intro db c db' ha hok hs
    exact (answerable_step hs hok ha).1

/-- When the sponsor accepts no quotation of an RFQ that the vendor has rejected, an RFQ that is
accepted, rejected, cancelled or expired stays so. -/
theorem terminal_rfqs_stay (k : String) {db db' : MarketDb}
    (h : Reach RfqCall.Step (AcceptsOpen k) (NotQuoted k) db)
    (h' : Reach RfqCall.Step (AcceptsOpen k) (fun u ↦ u = db) db') {status : RfqStatus}
    (hstatus : rfqStatus k db.rfqs = some status) (hterminal : status.terminal = true) :
    rfqStatus k db'.rfqs = some status := by
  have hkept := h'.invariant (I := fun u ↦ Answerable (rfqView k u) ∧
    (rfqView k u).status = some status) ?_ ?_
  · exact hkept.2
  · rintro u rfl
    exact ⟨answerable_reach h, hstatus⟩
  · intro u c u' ⟨ha, hu⟩ hok hs
    obtain ⟨ha', hkept⟩ := answerable_step hs hok ha
    exact ⟨ha', hkept status hu hterminal⟩

end Runs

section Sample

def callAt (now : Innovents.Payments.Time) (op : RfqOp) : RfqCall :=
  ⟨op, fun env ↦ env.now = now⟩

/-- Enough statements for one call. -/
def statementsAt (now : Innovents.Payments.Time) : List AuthEnv :=
  (List.range 4).map fun i ↦ sampleEnv now s!"{now}-{i}"

/-- Where the calls of a list end, each at its own time. -/
def afterCalls : List (Innovents.Payments.Time × RfqOp) → MarketDb → Option MarketDb
  | [], db => some db
  | (now, op) :: rest, db => (Call.finish (statementsAt now) db op.runs).bind (afterCalls rest)

theorem reach_afterCalls {ok : MarketDb → RfqCall → Prop} {init : MarketDb → Prop}
    {calls : List (Innovents.Payments.Time × RfqOp)} {db db' : MarketDb}
    (hok : ∀ db, ∀ c ∈ calls, ok db (callAt c.1 c.2)) (h : Reach RfqCall.Step ok init db)
    (hafter : afterCalls calls db = some db') : Reach RfqCall.Step ok init db' := by
  induction calls generalizing db with
  | nil =>
    cases hafter
    exact h
  | cons c rest ih =>
    obtain ⟨now, op⟩ := c
    obtain ⟨db₁, hfinish, hafter⟩ := Option.bind_eq_some_iff.mp hafter
    have hnow : ∀ env ∈ statementsAt now, env ∈ (callAt now op).inputs := by
      intro env henv
      obtain ⟨i, -, rfl⟩ := List.mem_map.mp henv
      rfl
    exact ih (fun db c hc ↦ hok db c (List.mem_cons_of_mem _ hc))
      (.next h (hok db _ List.mem_cons_self) (Call.ran_of_finish hnow hfinish)) hafter

/-- The statuses of the RFQ after the first calls, and after all of them. -/
def statusesAfter (calls rest : List (Innovents.Payments.Time × RfqOp)) :
    Option (Option RfqStatus × Option RfqStatus) :=
  (afterCalls calls marketDb).bind fun db ↦ (afterCalls rest db).map fun db' ↦
    (rfqStatus "rfq-1" db.rfqs, rfqStatus "rfq-1" db'.rfqs)

theorem reach_statuses (ok : MarketDb → RfqCall → Prop)
    {calls rest : List (Innovents.Payments.Time × RfqOp)} {before after : Option RfqStatus}
    (hok : ∀ db, ∀ c ∈ calls ++ rest, ok db (callAt c.1 c.2))
    (h : statusesAfter calls rest = some (before, after)) :
    ∃ db db', Reach RfqCall.Step ok (NotQuoted "rfq-1") db ∧
      Reach RfqCall.Step ok (fun u ↦ u = db) db' ∧ rfqStatus "rfq-1" db.rfqs = before ∧
      rfqStatus "rfq-1" db'.rfqs = after := by
  obtain ⟨db, hdb, h⟩ := Option.bind_eq_some_iff.mp h
  obtain ⟨db', hdb', h⟩ := Option.map_eq_some_iff.mp h
  cases h
  have hstart : NotQuoted "rfq-1" marketDb := by simp [NotQuoted, marketDb, MarketDb.empty]
  refine ⟨db, db', reach_afterCalls (fun u c hc ↦ hok u c ?_) (.start hstart) hdb,
    reach_afterCalls (fun u c hc ↦ hok u c ?_) (.start rfl) hdb', rfl, rfl⟩
  · exact List.mem_append_left _ hc
  · exact List.mem_append_right _ hc

/-- The vendor quotes and rejects the RFQ, which the sponsor then cannot cancel. -/
theorem stays_rejected : ∃ db db' : MarketDb, rfqStatus "rfq-1" db.rfqs = some .rejected ∧
    Reach RfqCall.Step (AcceptsOpen "rfq-1") (fun u ↦ u = db) db' ∧
    rfqStatus "rfq-1" db'.rfqs = some .rejected := by
  have hrun : statusesAfter [(1, .createQuotation "vendor-1" sampleQuotation nobody),
      (2, .rejectRfq "vendor-1" "rfq-1" none nobody)]
      [(3, .cancelRfq "sponsor-1" "rfq-1" none nobody)] =
        some (some .rejected, some .rejected) := by
    decide +kernel
  obtain ⟨db, db', h, h', hbefore, -⟩ := reach_statuses (AcceptsOpen "rfq-1") (by
    intro u c hc sponsorId quotationId client quotation rfq hop
    simp only [List.cons_append, List.nil_append, List.mem_cons, List.not_mem_nil, or_false] at hc
    rcases hc with rfl | rfl | rfl <;> cases hop) hrun
  exact ⟨db, db', hbefore, h', terminal_rfqs_stay "rfq-1" h h' hbefore rfl⟩

/-- The sponsor accepts the quotation of an RFQ that the vendor has rejected. -/
theorem rejected_then_accepted : ∃ db db' : MarketDb,
    Reach RfqCall.Step (fun _ _ ↦ True) (NotQuoted "rfq-1") db ∧
      Reach RfqCall.Step (fun _ _ ↦ True) (fun u ↦ u = db) db' ∧
      rfqStatus "rfq-1" db.rfqs = some .rejected ∧ rfqStatus "rfq-1" db'.rfqs = some .accepted := by
  have hrun : statusesAfter [(1, .createQuotation "vendor-1" sampleQuotation nobody),
      (2, .rejectRfq "vendor-1" "rfq-1" none nobody)]
      [(3, .acceptQuotation "sponsor-1" "id-1-2" nobody)] =
        some (some .rejected, some .accepted) := by
    decide +kernel
  exact reach_statuses (fun _ _ ↦ True) (fun _ _ _ ↦ trivial) hrun

end Sample

end Innovents.Marketplace
