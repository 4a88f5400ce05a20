import Innovents.Marketplace.RfqCalls

namespace Innovents.Marketplace

open Innovents.Lib Innovents.Auth

/-- The quotations of an RFQ, in the order of their creation. -/
def quotationRows (k : String) (db : MarketDb) : List Quotation :=
  db.quotations.rows.filter (·.rfqId == k)

section Claim

variable {k : String} {p : Pool MarketDb RfqTask}

theorem Versioned.steps {op : RfqOp} {history : MarketHistory} {label : String} {env : AuthEnv}
    {db db' : MarketDb} (hs : Steps op history label env db db') (h : Versioned (rfqView k db)) :
    Versioned (rfqView k db') := by
  rcases hs with hsame | ⟨-, id, m, -, hmakes⟩
  · rw [hsame.view]
    exact h
  · by_cases hk : k = id
    · rw [hk, hmakes.moved]
      rw [hk] at h
      exact h.apply hmakes.enabled
    · rw [hmakes.others k hk]
      exact h

theorem versioned_reach (h : Reach rfqCalls.Step (fun _ _ ↦ True) (Unquoted k) p) :
    Versioned (rfqView k p.shared) := by
  have hreach : Reach rfqCalls.Step (Heeding fun _ _ _ _ ↦ True) (Unquoted k) p :=
    h.mono fun p m _ ↦ by cases m <;> simp [Heeding]
  have hprogram (op : RfqOp) : op.runs.Heeds (fun db ↦ Versioned (rfqView k db))
      (fun _ _ _ ↦ True) (fun _ _ _ ↦ True) (fun _ _ ↦ True) [] :=
    runs_traces.heeds fun _ _ _ _ _ hs hversioned _ ↦ ⟨hversioned.steps hs, trivial⟩
  refine (heedful_reach (I := fun _ ↦ True) hprogram (fun p hp ↦ ⟨⟨?_, by simp [hp.1]⟩, trivial⟩)
    (fun _ _ _ _ _ _ ↦ trivial) hreach).1.shared
  rw [rfqView, hp.quotations]
  exact ⟨rfl, fun _ h ↦ absurd h List.not_mem_nil⟩

/-- The versions of the quotations of an RFQ are the numbers from 1 on. At most one quotation is
pending, and no other one has a higher version. -/
theorem quotations_versioned (k : String) {p : Pool MarketDb RfqTask}
    (h : Reach rfqCalls.Step (fun _ _ ↦ True) (Unquoted k) p) :
    (quotationRows k p.shared).map Quotation.version =
        List.range' 1 (quotationRows k p.shared).length ∧
      (quotationRows k p.shared).countP (fun q ↦ q.status == .pending) ≤ 1 ∧
      ∀ q ∈ quotationRows k p.shared, q.status = .pending →
        ∀ r ∈ quotationRows k p.shared, r.version ≤ q.version := by
  have hversioned := versioned_reach h
  have hversions : (quotationRows k p.shared).map Quotation.version =
      List.range' 1 (quotationRows k p.shared).length := by
    have hviews := hversioned.versions
    rw [rfqView, quotationsOf, List.map_map, List.length_map] at hviews
    exact hviews
  refine ⟨hversions, ?_, fun q hq hpending r hr ↦ ?_⟩
  · have hone := hversioned.one_pending
    rw [rfqView, quotationsOf, List.countP_map] at hone
    exact hone
  · have hlast := hversioned.pending q.view (List.mem_map_of_mem hq) hpending
    rw [rfqView, quotationsOf, List.length_map] at hlast
    have hr : r.version ∈ List.range' 1 (quotationRows k p.shared).length :=
      hversions ▸ List.mem_map_of_mem hr
    have hle := (List.mem_range'_1.mp hr).2
    have hq : q.version = (quotationRows k p.shared).length := hlast
    omega

end Claim

/-- The vendor quotes twice, and the sponsor accepts the second quotation. -/
theorem versions_in_turn : ∃ p : Pool MarketDb RfqTask,
    (quotationRows "rfq-1" p.shared).map Quotation.status = [.superseded, .accepted] ∧
      (quotationRows "rfq-1" p.shared).map Quotation.version =
        List.range' 1 (quotationRows "rfq-1" p.shared).length := by
  have hrun : (rfqCalls.play (fun _ _ _ ↦ true)
      ((List.range 4).map (fun n ↦ (0, sampleEnv 1 s!"a{n}")) ++
        (List.range 4).map (fun n ↦ (1, sampleEnv 2 s!"b{n}")) ++
        (List.range 3).map (fun n ↦ (2, sampleEnv 3 s!"c{n}")))
      ⟨marketDb, ([.createQuotation "vendor-1" sampleQuotation nobody,
        .createQuotation "vendor-1" sampleQuotation nobody,
        .acceptQuotation "sponsor-1" "id-b2" nobody] : List RfqOp).map
          fun op ↦ ⟨op, [], op.runs⟩⟩).any
        (fun p ↦ (quotationRows "rfq-1" p.shared).map Quotation.status ==
          [.superseded, .accepted]) = true := by
    decide +kernel
  obtain ⟨p, hp, htest⟩ := (Option.any_eq_true ..).mp hrun
  have hreach : Reach rfqCalls.Step (Heeding fun _ _ _ _ ↦ True) (Unquoted "rfq-1") p :=
    reach_tasks (fun _ _ _ _ _ _ _ _ ↦ trivial) ⟨rfl, by simp [marketDb, MarketDb.empty]⟩ hp
  exact ⟨p, beq_iff_eq.mp htest,
    (quotations_versioned "rfq-1" (hreach.mono fun _ _ _ ↦ trivial)).1⟩

end Innovents.Marketplace
