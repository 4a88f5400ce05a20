import Innovents.Lib.Requests
import Innovents.Marketplace.RfqCalls
import Mathlib.Logic.Relation

namespace Innovents.Marketplace

open Innovents.Lib Innovents.Auth
open Innovents.Payments (Time)

namespace RfqExpirationService

/-- The RFQ is listed by a sweep at the moment `now`. -/
def due (now : Time) (rfq : Rfq) : Bool := rfq.expiresAt ≤ now && rfq.status.canExpire

/-- Nothing is left open of an RFQ whose time is over. -/
structure Expired (now : Time) (db : MarketDb) : Prop where
  rfqs : ∀ rfq ∈ db.rfqs.rows, rfq.expiresAt ≤ now → rfq.status.terminal = true
  quotations : ∀ q ∈ db.quotations.rows, q.status = .pending →
    ∀ rfq ∈ db.rfqs.get? q.rfqId, now < rfq.expiresAt

/-- No RFQ whose time is over has been quoted, and those with a pending quotation can expire. -/
structure Expirable (now : Time) (db : MarketDb) : Prop where
  rfqs : ∀ rfq ∈ db.rfqs.rows, rfq.expiresAt ≤ now → rfq.status ≠ .quoted
  quotations : ∀ q ∈ db.quotations.rows, q.status = .pending →
    ∀ rfq ∈ db.rfqs.get? q.rfqId, rfq.expiresAt ≤ now → rfq.status.canExpire = true

/-- A statement at the moment `now` that does not fail. -/
def Untroubled (now : Time) (env : AuthEnv) : Prop :=
  env.now = now ∧ env.fault = none ∧ ∀ taken, env.newId taken ∉ taken

/-- A sweep without errors that returns `n`. -/
def Sweep (now : Time) (n : ℕ) (db db' : MarketDb) : Prop :=
  Call.Ran (Untroubled now) sweepExpiredRfqs db (.ok n) db'

/-- Sweeps one after another. -/
def Sweeps (now : Time) : MarketDb → MarketDb → Prop :=
  Relation.ReflTransGen fun db db' ↦ ∃ n, Sweep now n db db'

/-- Once a sweep returns 0, nothing is left open. -/
def SweepsComplete (now : Time) (db : MarketDb) : Prop :=
  ∀ db₁ db₂, Sweeps now db db₁ → Sweep now 0 db₁ db₂ → Expired now db₂

section Steps

variable {now : Time} {rfqId : String} {rfq : Rfq} {env : AuthEnv} {db db' : MarketDb}

def expired (env : AuthEnv) (r : Rfq) : Rfq :=
  { r with
    status := .expired
    updatedAt := env.now }

/-- What the transaction does to the rows. -/
theorem expiry_eq_ok {u : Unit} (h : expiry rfq env db = .ok (db', u)) :
    db.rfqs.update rfq.id (expired env) = .ok db'.rfqs ∧
      db'.quotations.rows = db.quotations.rows.map fun q ↦
        if q.rfqId == rfq.id && q.status == .pending then
          { q with
            status := .expired
            updatedAt := env.now }
        else q := by
  obtain ⟨⟨db₁, updated⟩, hupdate, h⟩ := andThen_eq_ok.mp h
  obtain ⟨db₂, hpending, h⟩ := andThen_eq_ok.mp h
  obtain ⟨db₃, henqueued, h⟩ := andThen_eq_ok.mp h
  cases h
  obtain ⟨accounts, rfl⟩ := enqueued_eq_ok henqueued
  obtain ⟨hquotations, ⟨t, rfl, ht⟩, -⟩ := updateRfq_eq_ok (k := "") hupdate fun _ ↦ rfl
  obtain ⟨t', ht', h⟩ := andThen_eq_ok.mp hpending
  cases h
  refine ⟨ht, ?_⟩
  exact Table.store_eq_ok.mp (ofRefusal_eq_ok.mp ht')

theorem expiry_rfq {u : Unit} (h : expiry rfq env db = .ok (db', u)) (k : String) :
    db'.rfqs.get? k = if k = rfq.id then (db.rfqs.get? rfq.id).map (expired env)
      else db.rfqs.get? k :=
  Table.get?_update (expiry_eq_ok h).1 (fun _ ↦ rfl) k

/-- A pending quotation is one that was there before, of another RFQ. -/
theorem expiry_pending {u : Unit} (h : expiry rfq env db = .ok (db', u)) {q : Quotation}
    (hq : q.status = .pending) :
    q ∈ db'.quotations.rows ↔ q ∈ db.quotations.rows ∧ q.rfqId ≠ rfq.id := by
  rw [(expiry_eq_ok h).2, List.mem_map]
  constructor
  · rintro ⟨old, hold, hnew⟩
    split_ifs at hnew with hof
    · rw [← hnew] at hq
      cases hq
    · subst hnew
      exact ⟨hold, fun he ↦ hof (by simp [he, hq])⟩
  · rintro ⟨hmem, hne⟩
    exact ⟨q, hmem, if_neg (by simp [hne])⟩

/-- An RFQ that expires makes no difference to what can expire. -/
theorem expiry_expirable {u : Unit} (h : expiry rfq env db = .ok (db', u))
    (hget : db.rfqs.get? rfq.id = some rfq) (hcan : rfq.status.canExpire = true) :
    Expirable now db' ↔ Expirable now db := by
  have hself : ∀ r, db'.rfqs.get? rfq.id = some r → r.status = .expired := by
    intro r hr
    rw [expiry_rfq h, if_pos rfl, hget] at hr
    cases hr
    rfl
  have hother : ∀ k, k ≠ rfq.id → db'.rfqs.get? k = db.rfqs.get? k := by
    intro k hk
    rw [expiry_rfq h, if_neg hk]
  constructor
  · intro hdb
    refine ⟨fun r hr hpast ↦ ?_, fun q hq hpending r hr hpast ↦ ?_⟩
    · by_cases hid : r.id = rfq.id
      · rw [db.rfqs.eq_of_id hr (Table.get?_eq_some.mp hget).1 hid]
        intro hquoted
        rw [hquoted] at hcan
        exact absurd hcan (by decide)
      · have hr : db.rfqs.get? r.id = some r := Table.get?_eq_some.mpr ⟨hr, rfl⟩
        rw [← hother _ hid] at hr
        exact hdb.rfqs r (Table.get?_eq_some.mp hr).1 hpast
    · by_cases hid : q.rfqId = rfq.id
      · rw [hid, hget] at hr
        cases hr
        exact hcan
      · rw [← hother _ hid] at hr
        exact hdb.quotations q ((expiry_pending h hpending).mpr ⟨hq, hid⟩) hpending r hr hpast
  · intro hdb
    refine ⟨fun r hr hpast ↦ ?_, fun q hq hpending r hr hpast ↦ ?_⟩
    · have hr : db'.rfqs.get? r.id = some r := Table.get?_eq_some.mpr ⟨hr, rfl⟩
      by_cases hid : r.id = rfq.id
      · rw [hself r (by rw [← hid]; exact hr)]
        decide
      · rw [hother _ hid] at hr
        exact hdb.rfqs r (Table.get?_eq_some.mp hr).1 hpast
    · obtain ⟨hq, hid⟩ := (expiry_pending h hpending).mp hq
      rw [hother _ hid] at hr
      exact hdb.quotations q hq hpending r hr hpast

/-- The number of RFQs that are due. -/
def dueCount (now : Time) (db : MarketDb) : ℕ := db.rfqs.rows.countP (due now)

variable (now) in
/-- An RFQ that expires is due no more. -/
theorem expiry_dueCount {u : Unit} (h : expiry rfq env db = .ok (db', u))
    (hget : db.rfqs.get? rfq.id = some rfq) :
    dueCount now db' + (due now rfq).toNat = dueCount now db := by
  obtain ⟨-, hrows⟩ := Table.update_eq_ok.mp (expiry_eq_ok h).1
  have hcount := Table.countP_update_row (f := expired env) (p := due now) hget
  have hnever : due now (expired env rfq) = false := by
    simp [due, expired, RfqStatus.canExpire]
  rw [← hrows, hnever] at hcount
  exact hcount

theorem updateRfq_succeeds {f : Rfq → Rfq} (hget : db.rfqs.get? rfqId = some rfq)
    (hid : ∀ r, (f r).id = r.id) : ∃ db' r, updateRfq rfqId f env db = .ok (db', r) := by
  obtain ⟨hmem, hkey⟩ := Table.get?_eq_some.mp hget
  obtain ⟨t, ht⟩ := Table.update_succeeds (f := fun r ↦ { f r with updatedAt := env.now })
    ⟨rfq, hmem, hkey⟩ (fun r ↦ hid r) nofun
  have hnew := Table.get?_update ht (fun r ↦ hid r) rfqId
  rw [if_pos rfl, hget, Option.map_some] at hnew
  refine ⟨{ db with rfqs := t }, { f rfq with updatedAt := env.now }, ?_⟩
  simp only [updateRfq, ht, ofRefusal, bind, Except.bind, hnew, pure, Except.pure]

theorem updatePending_succeeds {f : Quotation → Quotation} (hf : ∀ q, (f q).id = q.id ∧
    (f q).rfqId = q.rfqId ∧ (f q).version = q.version) :
    ∃ db', updatePending rfqId f env db = .ok db' := by
  obtain ⟨t, ht⟩ := Table.updateMany_succeeds (t := db.quotations)
    (p := fun q ↦ q.rfqId == rfqId && q.status == .pending)
    (f := fun q ↦ { f q with updatedAt := env.now }) (fun q ↦ (hf q).1) fun u hu q ↦ by
      rw [List.mem_singleton.mp hu]
      simp only [(hf q).2.1, (hf q).2.2]
  exact ⟨{ db with quotations := t }, andThen_eq_ok.mpr ⟨t, ofRefusal_eq_ok.mpr ht, rfl⟩⟩

theorem expiry_succeeds (hfresh : ∀ taken, env.newId taken ∉ taken)
    (hget : db.rfqs.get? rfq.id = some rfq) : ∃ db', expiry rfq env db = .ok (db', ()) := by
  cases h : expiry rfq env db with
  | ok q => exact ⟨q.1, rfl⟩
  | error x =>
    rcases andThen_eq_error.mp h with hupdate | ⟨⟨db₁, updated⟩, -, h⟩
    · obtain ⟨db₁, r, hok⟩ : ∃ db₁ r, updateRfq rfq.id (fun r ↦ { r with status := .expired }) env db =
          .ok (db₁, r) := updateRfq_succeeds hget fun _ ↦ rfl
      rw [hok] at hupdate
      cases hupdate
    rcases andThen_eq_error.mp h with hpending | ⟨db₂, -, h⟩
    · obtain ⟨db₂, hok⟩ : ∃ db₂, updatePending rfq.id (fun q ↦ { q with status := .expired }) env db₁ =
          .ok db₂ := updatePending_succeeds fun _ ↦ ⟨rfl, rfl, rfl⟩
      rw [hok] at hpending
      cases hpending
    rcases andThen_eq_error.mp h with henqueue | ⟨db₃, -, h⟩
    · obtain ⟨accounts, haccounts⟩ := OutboxService.written_succeeds hfresh
      rw [enqueued, haccounts] at henqueue
      cases henqueue
    · cases h

end Steps

section Runs

variable {now : Time} {rfqId : String} {ok : AuthEnv → Prop} {db db' : MarketDb}

/-- How a call for an RFQ ends: there is nothing to expire, a request has failed, or the RFQ has
expired. -/
inductive Outcome (ok : AuthEnv → Prop) (rfqId : String) (db : MarketDb) :
    Except AuthError Bool → MarketDb → Prop
  | skipped : (∀ rfq ∈ db.rfqs.get? rfqId, rfq.status.canExpire = false) →
      Outcome ok rfqId db (.ok false) db
  | failed {env : AuthEnv} {x : AuthError} : ok env → (env.fault ≠ none ∨
      ∃ rfq, db.rfqs.get? rfqId = some rfq ∧ ∃ y, expiry rfq env db = .error y) →
        Outcome ok rfqId db (.error x) db
  | expired {rfq : Rfq} {env : AuthEnv} {db' : MarketDb} : db.rfqs.get? rfqId = some rfq →
      rfq.status.canExpire = true → expiry rfq env db = .ok (db', ()) →
        Outcome ok rfqId db (.ok true) db'

theorem expireRfq_ran {r : Except AuthError Bool} (h : Call.Ran ok (expireRfq rfqId) db r db') :
    Outcome ok rfqId db r db' := by
  unfold expireRfq at h
  rcases Call.ran_bind.mp h with ⟨x, hfind, rfl⟩ | ⟨⟨found, moment⟩, db₁, hfind, hrest⟩
  · obtain ⟨env, henv, hx, rfl⟩ := Call.ran_ask.mp hfind
    refine .failed henv (.inl fun hfault ↦ ?_)
    rw [hfault] at hx
    cases hx
  obtain ⟨env, -, -, hfound, rfl⟩ := ran_finds_ok.mp hfind
  obtain ⟨hget, -⟩ := Prod.mk.inj hfound
  cases found with
  | none =>
    obtain ⟨rfl, rfl⟩ := Call.ran_returned.mp hrest
    refine .skipped fun rfq hrfq ↦ ?_
    rw [hget] at hrfq
    cases hrfq
  | some rfq =>
    dsimp only at hrest
    split_ifs at hrest with hcan
    · rcases Call.ran_bind.mp hrest with ⟨x, hstore, rfl⟩ | ⟨u, db₂, hstore, hreturned⟩
      · have hsame := Call.ran_perform_error hstore
        obtain ⟨env₁, henv₁, hx, -⟩ := Call.ran_perform.mp hstore
        subst hsame
        refine .failed henv₁ (Classical.or_iff_not_imp_left.mpr fun hfault ↦ ⟨rfq, hget, ?_⟩)
        rw [not_not.mp hfault, Option.elim_none] at hx
        cases hexpiry : expiry rfq env₁ db' with
        | ok q =>
          rw [hexpiry] at hx
          cases hx
        | error y => exact ⟨y, rfl⟩
      · obtain ⟨env₁, henv₁, -, hexpiry⟩ := ran_stores_ok.mp hstore
        obtain ⟨rfl, rfl⟩ := Call.ran_returned.mp hreturned
        exact .expired hget hcan hexpiry
    · obtain ⟨rfl, rfl⟩ := Call.ran_returned.mp hrest
      refine .skipped fun rfq' hrfq' ↦ ?_
      cases hget.symm.trans hrfq'
      exact Bool.eq_false_iff.mpr hcan

/-- What can expire stays the same, and no more is due than before. -/
structure Settles (now : Time) (db db' : MarketDb) : Prop where
  expirable : Expirable now db' ↔ Expirable now db
  dueCount_le : dueCount now db' ≤ dueCount now db

theorem Settles.refl (db : MarketDb) : Settles now db db := ⟨Iff.rfl, le_rfl⟩

theorem Settles.trans {db₁ db₂ db₃ : MarketDb} (h : Settles now db₁ db₂) (h' : Settles now db₂ db₃) :
    Settles now db₁ db₃ :=
  ⟨h'.expirable.trans h.expirable, h'.dueCount_le.trans h.dueCount_le⟩

theorem expiry_settles {rfq : Rfq} {env : AuthEnv} {u : Unit}
    (h : expiry rfq env db = .ok (db', u)) (hget : db.rfqs.get? rfqId = some rfq)
    (hcan : rfq.status.canExpire = true) : Settles now db db' := by
  have hid : rfq.id = rfqId := (Table.get?_eq_some.mp hget).2
  rw [← hid] at hget
  have hcount := expiry_dueCount now h hget
  exact ⟨expiry_expirable h hget hcan, by omega⟩

variable (now) in
theorem expireRfq_settles {r : Except AuthError Bool}
    (h : Call.Ran ok (expireRfq rfqId) db r db') : Settles now db db' := by
  cases expireRfq_ran h with
  | skipped => exact .refl _
  | failed => exact .refl _
  | expired hget hcan hexpiry => exact expiry_settles hexpiry hget hcan

variable (now) in
theorem expireAll_settles {ids : List String} {r : Except AuthError ℕ}
    (h : Call.Ran ok (expireAll ids) db r db') : (∃ n, r = .ok n) ∧ Settles now db db' := by
  induction ids generalizing db r with
  | nil =>
    obtain ⟨rfl, rfl⟩ := Call.ran_returned.mp h
    exact ⟨⟨0, rfl⟩, .refl _⟩
  | cons id rest ih =>
    rcases Call.ran_bind.mp h with ⟨x, hfirst, -⟩ | ⟨success, db₁, hfirst, hrest⟩
    · obtain ⟨r₁, -, hr₁⟩ := Call.ran_attempt.mp hfirst
      cases hr₁
    obtain ⟨r₁, hexpire, hr₁⟩ := Call.ran_attempt.mp hfirst
    have hsettles := expireRfq_settles now hexpire
    rcases Call.ran_bind.mp hrest with ⟨x, hcount, -⟩ | ⟨count, db₂, hcount, hreturned⟩
    · obtain ⟨⟨n, hn⟩, -⟩ := ih hcount
      cases hn
    · obtain ⟨rfl, rfl⟩ := Call.ran_returned.mp hreturned
      exact ⟨⟨_, rfl⟩, hsettles.trans (ih hcount).2⟩

/-- Undisturbed, an RFQ that is due expires. -/
theorem expireRfq_untroubled {rfq : Rfq} {r : Except AuthError Bool}
    (hget : db.rfqs.get? rfqId = some rfq) (hdue : due now rfq = true)
    (h : Call.Ran (Untroubled now) (expireRfq rfqId) db r db') :
    r = .ok true ∧ dueCount now db' < dueCount now db := by
  have hid : rfq.id = rfqId := (Table.get?_eq_some.mp hget).2
  cases expireRfq_ran h with
  | skipped hnone =>
    rw [due, hnone rfq hget, Bool.and_false] at hdue
    cases hdue
  | failed henv hfailed =>
    obtain ⟨-, hfault, hfresh⟩ := henv
    rcases hfailed with hfault' | ⟨rfq', hget', y, hy⟩
    · exact absurd hfault hfault'
    · cases hget.symm.trans hget'
      subst hid
      obtain ⟨db₁, hok⟩ := expiry_succeeds hfresh hget
      rw [hok] at hy
      cases hy
  | expired hget' hcan hexpiry =>
    cases hget.symm.trans hget'
    subst hid
    have hcount := expiry_dueCount now hexpiry hget
    rw [hdue] at hcount
    exact ⟨rfl, by simp only [Bool.toNat_true] at hcount; omega⟩

/-- Undisturbed, the first RFQ of the list expires. -/
theorem expireAll_untroubled {ids : List String} {rfq : Rfq} {n : ℕ}
    (hget : db.rfqs.get? rfqId = some rfq) (hdue : due now rfq = true)
    (h : Call.Ran (Untroubled now) (expireAll (rfqId :: ids)) db (.ok n) db') :
    n ≠ 0 ∧ dueCount now db' < dueCount now db := by
  obtain ⟨success, db₁, hfirst, hrest⟩ := Call.ran_bind_ok.mp h
  obtain ⟨r₁, hexpire, hr₁⟩ := Call.ran_attempt.mp hfirst
  obtain ⟨rfl, hless⟩ := expireRfq_untroubled hget hdue hexpire
  cases hr₁
  obtain ⟨count, db₂, hcount, hreturned⟩ := Call.ran_bind_ok.mp hrest
  obtain ⟨hn, rfl⟩ := Call.ran_returned_ok.mp hreturned
  obtain ⟨-, hsettles⟩ := expireAll_settles now hcount
  cases hn
  exact ⟨Nat.succ_ne_zero _, hsettles.dueCount_le.trans_lt hless⟩

/-- The RFQs that a sweep lists. -/
def listed (now : Time) (db : MarketDb) : List Rfq := (db.rfqs.rows.filter (due now)).take 100

theorem listed_nil : listed now db = [] ↔ dueCount now db = 0 := by
  rw [listed, List.take_eq_nil_iff, dueCount, List.countP_eq_length_filter,
    List.length_eq_zero_iff]
  simp

/-- A sweep settles, and it returns 0 only where nothing is due. -/
theorem sweep_settles {n : ℕ} (h : Sweep now n db db') :
    Settles now db db' ∧ (n = 0 → db' = db ∧ dueCount now db = 0) ∧
      (n ≠ 0 → dueCount now db' < dueCount now db) := by
  obtain ⟨rfqs, db₁, hfind, hexpire⟩ := Call.ran_bind_ok.mp h
  obtain ⟨env, ⟨rfl, -⟩, -, hrfqs, rfl⟩ := ran_finds_ok.mp hfind
  obtain ⟨-, hsettles⟩ := expireAll_settles env.now hexpire
  have hlisted : listed env.now db₁ = rfqs := hrfqs
  cases rfqs with
  | nil =>
    obtain ⟨hn, rfl⟩ := Call.ran_returned_ok.mp hexpire
    cases hn
    exact ⟨hsettles, fun _ ↦ ⟨rfl, listed_nil.mp hlisted⟩, fun hne ↦ absurd rfl hne⟩
  | cons rfq rest =>
    have hmem : rfq ∈ listed env.now db₁ := hlisted ▸ List.mem_cons_self
    obtain ⟨hrow, hdue⟩ := List.mem_filter.mp (List.mem_of_mem_take hmem)
    have hget : db₁.rfqs.get? rfq.id = some rfq := Table.get?_eq_some.mpr ⟨hrow, rfl⟩
    obtain ⟨hne, hless⟩ := expireAll_untroubled hget hdue hexpire
    exact ⟨hsettles, fun hzero ↦ absurd hzero hne, fun _ ↦ hless⟩

theorem exists_sweep (now : Time) (db : MarketDb) : ∃ n db', Sweep now n db db' := by
  obtain ⟨env, henv⟩ := exists_fresh now
  have henv : Untroubled now env := henv
  obtain ⟨r, db', hran⟩ : ∃ r db', Call.Ran (Untroubled now) sweepExpiredRfqs db r db' :=
    Call.exists_ran henv _ _
  rcases Call.ran_bind.mp hran with ⟨x, hfind, rfl⟩ | ⟨rfqs, db₁, hfind, hexpire⟩
  · obtain ⟨env, ⟨-, hfault, -⟩, hx, -⟩ := Call.ran_ask.mp hfind
    rw [hfault] at hx
    cases hx
  · obtain ⟨⟨n, rfl⟩, -⟩ := expireAll_settles now hexpire
    exact ⟨n, db', hran⟩

/-- After enough sweeps one returns 0. -/
theorem sweeps_end (now : Time) (db : MarketDb) :
    ∃ db₁ db₂, Sweeps now db db₁ ∧ Sweep now 0 db₁ db₂ := by
  induction hcount : dueCount now db using Nat.strong_induction_on generalizing db with
  | _ count ih =>
    obtain ⟨n, db', hsweep⟩ := exists_sweep now db
    by_cases hn : n = 0
    · subst hn
      exact ⟨db, db', .refl, hsweep⟩
    · have hless := (sweep_settles hsweep).2.2 hn
      obtain ⟨db₁, db₂, hsweeps, hlast⟩ := ih _ (hcount ▸ hless) db' rfl
      exact ⟨db₁, db₂, .head ⟨n, hsweep⟩ hsweeps, hlast⟩

theorem sweeps_settle (h : Sweeps now db db') : Settles now db db' := by
  induction h with
  | refl => exact .refl _
  | tail _ hsweep ih =>
    obtain ⟨n, hsweep⟩ := hsweep
    exact ih.trans (sweep_settles hsweep).1

/-- Where nothing is due any more, nothing is left open just if all of it could expire. -/
theorem expired_iff (hcount : dueCount now db = 0) : Expired now db ↔ Expirable now db := by
  have hnone : ∀ rfq ∈ db.rfqs.rows, rfq.expiresAt ≤ now → rfq.status.canExpire = false := by
    intro rfq hrfq hpast
    have hdue := List.countP_eq_zero.mp hcount rfq hrfq
    simpa [due, hpast] using hdue
  constructor
  · intro h
    refine ⟨fun rfq hrfq hpast hquoted ↦ ?_, fun q hq hpending rfq hrfq hpast ↦ ?_⟩
    · have hterminal := h.rfqs rfq hrfq hpast
      rw [hquoted] at hterminal
      exact absurd hterminal (by decide)
    · exact absurd (h.quotations q hq hpending rfq hrfq) (not_lt.mpr hpast)
  · intro h
    refine ⟨fun rfq hrfq hpast ↦ ?_, fun q hq hpending rfq hrfq ↦ ?_⟩
    · have hquoted := h.rfqs rfq hrfq hpast
      have hcan := hnone rfq hrfq hpast
      revert hquoted hcan
      cases rfq.status <;> decide
    · by_contra hpast
      have hcan := h.quotations q hq hpending rfq hrfq (not_lt.mp hpast)
      rw [hnone rfq (Table.get?_eq_some.mp hrfq).1 (not_lt.mp hpast)] at hcan
      cases hcan

/-- There are enough sweeps, and they leave nothing open just where no RFQ whose time is over is
quoted and each that has a pending quotation can expire. -/
theorem sweeps_complete : (∃ db₁ db₂, Sweeps now db db₁ ∧ Sweep now 0 db₁ db₂) ∧
    (SweepsComplete now db ↔ Expirable now db) := by
  refine ⟨sweeps_end now db, fun h ↦ ?_, fun h db₁ db₂ hsweeps hlast ↦ ?_⟩
  · obtain ⟨db₁, db₂, hsweeps, hlast⟩ := sweeps_end now db
    obtain ⟨rfl, hcount⟩ := (sweep_settles hlast).2.1 rfl
    have hexpired := h _ _ hsweeps hlast
    exact (sweeps_settle hsweeps).expirable.mp ((expired_iff hcount).mp hexpired)
  · obtain ⟨rfl, hcount⟩ := (sweep_settles hlast).2.1 rfl
    exact (expired_iff hcount).mpr ((sweeps_settle hsweeps).expirable.mpr h)

end Runs

section Sample

/-- The vendor has quoted, and the sponsor has not answered in time. -/
def quotedDb : MarketDb := { marketDb with rfqs := .singleton { sampleRfq with status := .quoted } }

theorem quoted_rfq_stays : ¬SweepsComplete 100 quotedDb := by
  intro h
  exact (sweeps_complete.2.mp h).rfqs _ List.mem_cons_self le_rfl rfl

end Sample

end RfqExpirationService

end Innovents.Marketplace
