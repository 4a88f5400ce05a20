import Innovents.Marketplace.QuotationVersions

namespace Innovents.Marketplace

open Innovents.Lib Innovents.Auth

/-- The RFQ that a call is about, where it is given. -/
def RfqOp.rfqId? : RfqOp → Option String
  | sendRfq _ rfqId _ | getRfqById _ rfqId _ | requestClarification _ rfqId _ _
  | cancelRfq _ rfqId _ _ | rejectRfq _ rfqId _ _ | expireRfq rfqId => some rfqId
  | createQuotation _ dto _ => some dto.rfqId
  | acceptQuotation _ _ _ | rejectQuotation _ _ _ _ | sweepExpiredRfqs => none

section Claim

variable (k : String)

/-- What a call writes over has not been accepted since its latest statement has read it. Only
acceptances are not restricted. -/
def Timely : RfqOp → MarketHistory → String → MarketDb → Prop
  | .acceptQuotation .., _, _, _ => True
  | .rejectQuotation _ quotationId _ _, history, label, db => label ∈ moving →
    (rfqView k db).Accepted quotationId →
      ∀ db₀ ∈ history.last, (rfqView k db₀).Accepted quotationId
  | op, history, label, db => label ∈ moving → op.rfqId?.all (· == k) →
    rfqStatus k db.rfqs = some .accepted →
      ∀ db₀ ∈ history.last, rfqStatus k db₀.rfqs = some .accepted

/-- No call has begun, and the RFQ has neither been quoted nor accepted. -/
def Unaccepted (p : Pool MarketDb RfqTask) : Prop :=
  Unquoted k p ∧ rfqStatus k p.shared.rfqs ≠ some .accepted

end Claim

section Steps

variable {k : String} {op : RfqOp} {history : MarketHistory} {label : String} {env : AuthEnv}
  {db db' : MarketDb} {m : RfqMove}

theorem ReadAs.open_ {met : RfqStatus → Prop} (h : ReadAs history k met) (hmet : ¬met .accepted)
    (hread : rfqStatus k db.rfqs = some .accepted →
      ∀ db₀ ∈ history.last, rfqStatus k db₀.rfqs = some .accepted) :
    rfqStatus k db.rfqs ≠ some .accepted := by
  intro haccepted
  obtain ⟨db₀, rfq, hlast, hget, hstatus⟩ := h
  have hread := hread haccepted db₀ hlast
  rw [rfqStatus, hget, Option.map_some, Option.some.injEq] at hread
  rw [hread] at hstatus
  exact hmet hstatus

/-- A move that meets the condition leaves what is accepted alone. -/
theorem harmless_of_timely (hdoes : Does history env db op k m) (hlabel : label ∈ moving)
    (hok : Timely k op history label db) : m.Harmless (rfqView k db) := by
  cases hdoes with
  | send hread | runOut hread | view hread | clarify hread | cancel hread | rejectRfq hread
  | quote hread | expire hread | sweep hread =>
    exact hread.open_ (by decide) (hok hlabel (by simp [RfqOp.rfqId?]))
  | accept => trivial
  | reject hlast hget hpending hfound =>
    intro v hv hid haccepted
    obtain ⟨w, hw, hwid, hwaccepted⟩ := hok hlabel ⟨v, hv, hid, haccepted⟩ _ hlast
    obtain ⟨r, hr, rfl⟩ := List.mem_map.mp hw
    have hstatus : r.status = .accepted := hwaccepted
    have hfound := Table.get?_eq_some.mpr ⟨(List.mem_filter.mp hr).1, hwid⟩
    rw [Option.some.inj (hfound.symm.trans hget), hpending] at hstatus
    cases hstatus

/-- What a step keeps that meets the condition. -/
theorem Agreed.steps (hs : Steps op history label env db db') (h : Agreed (rfqView k db))
    (hok : Timely k op history label db) : Agreed (rfqView k db') ∧
      ∀ id, (rfqView k db).Accepted id → (rfqView k db').Accepted id := by
  rcases hs with hsame | ⟨hlabel, id, m, hdoes, hmakes⟩
  · rw [hsame.view]
    exact ⟨h, fun _ h ↦ h⟩
  · by_cases hk : k = id
    · subst hk
      have hharmless := harmless_of_timely hdoes hlabel hok
      rw [hmakes.moved]
      exact ⟨h.apply hmakes.enabled hharmless, fun _ ↦ h.stays hmakes.enabled hharmless⟩
    · rw [hmakes.others k hk]
      exact ⟨h, fun _ h ↦ h⟩

end Steps

section Runs

variable {k : String} {p q : Pool MarketDb RfqTask}

abbrev TimelyCalls (k : String) (p : Pool MarketDb RfqTask) : Prop :=
  Heedful (fun db ↦ Agreed (rfqView k db)) (Timely k)
    (fun _ _ db db' ↦ ∀ id, (rfqView k db).Accepted id → (rfqView k db').Accepted id)
    (fun _ _ _ ↦ True) p

theorem runs_timely (op : RfqOp) : op.runs.Heeds (fun db ↦ Agreed (rfqView k db)) (Timely k op)
    (fun _ db db' ↦ ∀ id, (rfqView k db).Accepted id → (rfqView k db').Accepted id)
    (fun _ _ ↦ True) [] :=
  runs_traces.heeds fun _ _ _ _ _ hs hagreed hok ↦ hagreed.steps hs hok

theorem timely_reach (h : Reach rfqCalls.Step (Heeding (Timely k)) (Unaccepted k) p) :
    TimelyCalls k p := by
  refine (heedful_reach (I := fun _ ↦ True) runs_timely (fun p hp ↦ ⟨⟨?_, ?_⟩, trivial⟩)
    (fun _ _ _ _ _ _ ↦ trivial) h).1
  · rw [rfqView, hp.1.quotations]
    exact .of_none List.nodup_nil hp.2 fun _ h ↦ absurd h List.not_mem_nil
  · simp [hp.1.1]

/-- From there on, accepted quotations stay accepted. -/
theorem accepted_stays (hp : TimelyCalls k p)
    (h : Reach rfqCalls.Step (Heeding (Timely k)) (fun u ↦ u = p) q) {id : String}
    (ha : (rfqView k p.shared).Accepted id) : (rfqView k q.shared).Accepted id := by
  refine (heedful_reach (I := fun q ↦ (rfqView k q.shared).Accepted id) runs_timely ?_ ?_ h).2
  · rintro u rfl
    exact ⟨hp, ha⟩
  · intro u v _ _ hI hm
    cases hm with
    | spawned op hshared hthreads =>
      rw [hshared]
      exact hI
    | ran i t t' label hi _ hG => exact hG id hI

theorem accepted_iff {db : MarketDb} {id : String} : (rfqView k db).Accepted id ↔
    ∃ q ∈ quotationRows k db, q.id = id ∧ q.status = .accepted := by
  constructor
  · rintro ⟨v, hv, hid, haccepted⟩
    obtain ⟨q, hq, rfl⟩ := List.mem_map.mp hv
    exact ⟨q, hq, hid, haccepted⟩
  · rintro ⟨q, hq, hid, haccepted⟩
    exact ⟨q.view, List.mem_map_of_mem hq, hid, haccepted⟩

/-- When no call writes over what has been accepted since it read it, at most one quotation of an
RFQ is ever accepted, and the RFQ is accepted just when one of them is. -/
theorem single_acceptance (k : String) {p : Pool MarketDb RfqTask}
    (h : Reach rfqCalls.Step (Heeding (Timely k)) (Unaccepted k) p) :
    (quotationRows k p.shared).countP (fun q ↦ q.status == .accepted) ≤ 1 ∧
      (rfqStatus k p.shared.rfqs = some .accepted ↔
        ∃ q ∈ quotationRows k p.shared, q.status = .accepted) ∧
      ∀ q, Reach rfqCalls.Step (Heeding (Timely k)) (fun u ↦ u = p) q →
        ∀ a ∈ quotationRows k p.shared, a.status = .accepted →
          ∀ b ∈ quotationRows k q.shared, b.status = .accepted → b.id = a.id := by
  have hp := timely_reach h
  have hcount : (quotationRows k p.shared).countP (fun q ↦ q.status == .accepted) =
      if rfqStatus k p.shared.rfqs = some .accepted then 1 else 0 := by
    have hviews := hp.shared.accepted
    rw [rfqView, quotationsOf, List.countP_map] at hviews
    exact hviews
  refine ⟨?_, ⟨fun haccepted ↦ ?_, ?_⟩, fun q hq a ha haccepted b hb hb' ↦ ?_⟩
  · rw [hcount]
    split_ifs <;> omega
  · rw [if_pos haccepted] at hcount
    obtain ⟨q, hq, hstatus⟩ := List.countP_pos_iff.mp (hcount ▸ Nat.one_pos)
    exact ⟨q, hq, beq_iff_eq.mp hstatus⟩
  · rintro ⟨q, hq, haccepted⟩
    exact hp.shared.status_eq (accepted_iff.mpr ⟨q, hq, rfl, haccepted⟩)
  · -- the first one is still accepted, and only one is
    have hlater := timely_reach (h.trans hq)
    have hstays := accepted_stays hp hq (accepted_iff.mpr ⟨a, ha, rfl, haccepted⟩)
    exact hlater.shared.accepted_unique hstays (accepted_iff.mpr ⟨b, hb, rfl, hb'⟩)

end Runs

section Sample

theorem marketDb_unaccepted : Unaccepted "rfq-1" ⟨marketDb, []⟩ :=
  ⟨⟨rfl, by simp [marketDb, MarketDb.empty]⟩, by decide +kernel⟩

/-- Acceptances run freely, other calls while the RFQ is not accepted. -/
def writesOpen (p : Pool MarketDb RfqTask) (i : ℕ) (_ : AuthEnv) : Bool :=
  p.threads[i]?.all fun t ↦
    match t.op with
    | .acceptQuotation .. => true
    | .createQuotation .. => rfqStatus "rfq-1" p.shared.rfqs != some .accepted
    | _ => false

theorem writesOpen_sound {p : Pool MarketDb RfqTask} {i : ℕ} {env : AuthEnv}
    (h : writesOpen p i env = true) : Heeding (Timely "rfq-1") p (.run i env) := by
  intro t label hi hlabel
  rw [writesOpen, hi, Option.all_some] at h
  obtain ⟨op, history, call⟩ := t
  cases op with
  | acceptQuotation => trivial
  | createQuotation vendorId dto client =>
    intro _ _ haccepted
    dsimp only at h
    rw [haccepted, bne_self_eq_false] at h
    cases h
  | sendRfq | getRfqById | requestClarification | cancelRfq | rejectRfq | rejectQuotation | expireRfq
  | sweepExpiredRfqs => cases h

/-- The vendor quotes, and the sponsor accepts. -/
theorem quoted_then_accepted : ∃ p : Pool MarketDb RfqTask,
    (quotationRows "rfq-1" p.shared).map Quotation.status = [.accepted] ∧
      (quotationRows "rfq-1" p.shared).countP (fun q ↦ q.status == .accepted) ≤ 1 := by
  have hrun : (rfqCalls.play writesOpen
      ((List.range 4).map (fun n ↦ (0, sampleEnv 1 s!"a{n}")) ++
        (List.range 3).map (fun n ↦ (1, sampleEnv 2 s!"b{n}")))
      ⟨marketDb, ([.createQuotation "vendor-1" sampleQuotation nobody,
        .acceptQuotation "sponsor-1" "id-a2" nobody] : List RfqOp).map
          fun op ↦ ⟨op, [], op.runs⟩⟩).any
        (fun p ↦ (quotationRows "rfq-1" p.shared).map Quotation.status == [.accepted]) = true := by
    decide +kernel
  obtain ⟨p, hp, htest⟩ := (Option.any_eq_true ..).mp hrun
  have hreach := reach_tasks (fun _ _ _ h ↦ writesOpen_sound h) marketDb_unaccepted hp
  exact ⟨p, beq_iff_eq.mp htest, (single_acceptance "rfq-1" hreach).1⟩

/-- The vendor revises the quotation while the sponsor accepts it, which reopens the RFQ, and then
the sponsor accepts the revised one too. -/
theorem both_accepted : ∃ p : Pool MarketDb RfqTask,
    Reach rfqCalls.Step (Heeding fun _ _ _ _ ↦ True) (Unaccepted "rfq-1") p ∧
      p.threads.all (·.call.label?.isNone) = true ∧
      (quotationRows "rfq-1" p.shared).countP (fun q ↦ q.status == .accepted) = 2 := by
  have hrun : (rfqCalls.play (fun _ _ _ ↦ true)
      ((List.range 4).map (fun n ↦ (0, sampleEnv 1 s!"a{n}")) ++
        (List.range 2).map (fun n ↦ (1, sampleEnv 2 s!"b{n}")) ++
        (List.range 3).map (fun n ↦ (2, sampleEnv 3 s!"c{n}")) ++
        (List.range 2).map (fun n ↦ (1, sampleEnv 4 s!"d{n}")) ++
        (List.range 3).map (fun n ↦ (3, sampleEnv 5 s!"e{n}")))
      ⟨marketDb, ([.createQuotation "vendor-1" sampleQuotation nobody,
        .createQuotation "vendor-1" sampleQuotation nobody,
        .acceptQuotation "sponsor-1" "id-a2" nobody,
        .acceptQuotation "sponsor-1" "id-d0" nobody] : List RfqOp).map
          fun op ↦ ⟨op, [], op.runs⟩⟩).any
        (fun p ↦ p.threads.all (·.call.label?.isNone) &&
          (quotationRows "rfq-1" p.shared).countP (fun q ↦ q.status == .accepted) == 2) = true := by
    decide +kernel
  obtain ⟨p, hp, htest⟩ := (Option.any_eq_true ..).mp hrun
  obtain ⟨hdone, hcount⟩ := Bool.and_eq_true_iff.mp htest
  exact ⟨p, reach_tasks (fun _ _ _ _ _ _ _ _ ↦ trivial) marketDb_unaccepted hp, hdone,
    beq_iff_eq.mp hcount⟩

end Sample

end Innovents.Marketplace
