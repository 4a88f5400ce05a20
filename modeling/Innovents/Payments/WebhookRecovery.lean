import Innovents.Payments.WebhookEffects
import Innovents.Payments.WebhookDelivery

namespace Innovents.Payments

open Innovents.Lib

namespace StripeWebhookService

variable {event : PaymentWebhookEvent} {h : WebhookHandler} {env env₁ env₂ : Env}
  {db db₁ : Db} {t : Table StripeWebhookEvent} {a : Table AuditLog} {k : ℕ}

/-- The row of the event is there and marked processed. -/
def Finished (event : PaymentWebhookEvent) (db : Db) : Prop :=
  ∃ row, findWebhookEvent event.id db = some row ∧ row.processingStatus = .processed

/-- The row of the event is there and not marked processed. -/
def Waiting (event : PaymentWebhookEvent) (db : Db) : Prop :=
  ∃ row, findWebhookEvent event.id db = some row ∧ row.processingStatus ≠ .processed

section Rows

theorem find_mark {f : StripeWebhookEvent → StripeWebhookEvent} {row : StripeWebhookEvent}
    (hf : findWebhookEvent event.id db = some row) (hid : ∀ e, (f e).id = e.id)
    (hprovider : ∀ e, (f e).provider = e.provider)
    (hevent : ∀ e, (f e).providerEventId = e.providerEventId) :
    ∃ t, modify stripeWebhookEventTable row.id f db = .ok (db.withLogs t db.auditLogs) ∧
      findWebhookEvent event.id (db.withLogs t db.auditLogs) = some (f row) := by
  obtain ⟨hm, _⟩ := Table.find?_mem hf
  obtain ⟨t, ht⟩ := Table.update_succeeds ⟨row, hm, rfl⟩ hid (by simpa [Row.uniques] using hevent)
  obtain ⟨hfound, hrows⟩ := Table.update_eq_ok.mp ht
  refine ⟨t, (modify_eq_ok _).mpr ⟨t, ⟨hfound, hrows⟩, rfl⟩, ?_⟩
  simp only [findWebhookEvent, Table.find?, Db.withLogs, hrows] at hf ⊢
  rw [Table.find?_updateRows f fun e ↦ by rw [hprovider, hevent], hf, Option.map_some,
    if_pos (show Row.id row = Row.id row from rfl)]

theorem find_create (hf : findWebhookEvent event.id db = none)
    (hid : ∀ e ∈ db.stripeWebhookEvents.rows, e.id ≠ env.eventRowId)
    (hevent : ∀ e ∈ db.stripeWebhookEvents.rows, e.providerEventId ≠ event.id) :
    ∃ t row, createWebhookEvent env event db = .ok (db.withLogs t db.auditLogs) ∧
      findWebhookEvent event.id (db.withLogs t db.auditLogs) = some row ∧
      row.processingStatus = .pending ∧ row.id = env.eventRowId := by
  let row : StripeWebhookEvent :=
    ⟨env.eventRowId, "stripe", event.id, event.type, .pending, none, none, event.toJson⟩
  obtain ⟨t, ht⟩ : ∃ t : Table StripeWebhookEvent,
      t.rows = db.stripeWebhookEvents.rows ++ [row] := by
    refine Table.exists_create.mpr fun e he ↦ clash_eq_false (hid e he) fun u hu k hk hkr ↦ ?_
    simp only [Row.uniques, List.mem_singleton] at hu
    subst hu
    exact hevent e he (Option.some.inj (hk.trans hkr.symm))
  refine ⟨t, row, (insert_eq_ok _).mpr ⟨t, ht, rfl⟩, ?_, rfl, rfl⟩
  simp only [findWebhookEvent, Table.find?, Db.withLogs, ht, List.find?_append] at hf ⊢
  rw [hf]
  simp [row]

/-- A row that waits can be marked failed, and waits on. -/
theorem failDelivery_waits {row : StripeWebhookEvent} (err : Err)
    (hf : findWebhookEvent event.id db = some row) :
    ∃ t, failDelivery err row.id db = (.error err, db.withLogs t db.auditLogs) ∧
      Waiting event (db.withLogs t db.auditLogs) := by
  obtain ⟨t, hmark, hfind⟩ := find_mark (f := asFailed err) hf (fun _ ↦ rfl) (fun _ ↦ rfl) fun _ ↦ rfl
  refine ⟨t, ?_, _, hfind, by simp [asFailed]⟩
  simp only [failDelivery, markFailed, hmark]

theorem markProcessed_finishes {row : StripeWebhookEvent} (env : Env)
    (hf : findWebhookEvent event.id db = some row) :
    ∃ t, markProcessed env row.id db = .ok (db.withLogs t db.auditLogs) ∧
      Finished event (db.withLogs t db.auditLogs) := by
  obtain ⟨t, hmark, hfind⟩ :=
    find_mark (f := asProcessed env) hf (fun _ ↦ rfl) (fun _ ↦ rfl) fun _ ↦ rfl
  exact ⟨t, hmark, _, hfind, rfl⟩

theorem log_withLogs (env : Env) (db : Db) (entry : CreateAuditLogParams) :
    ∃ a, AuditService.log env entry db = db.withLogs db.stripeWebhookEvents a :=
  AuditService.log_frame env entry db

end Rows

section Redelivery

/-- Once the row is there, a delivery goes through its handler or fails. -/
theorem processRecord_cases (hh : handlerFor event.type = some h) {row : StripeWebhookEvent}
    (hf : findWebhookEvent event.id db = some row) :
    (∃ commit db₁ e t a, h.reads (eventObject event) db = .ok commit ∧
      commit env db = .ok (db₁, e) ∧
      processRecord env event row.id db = (.ok ⟨true, false⟩, db₁.withLogs t a) ∧
      Finished event (db₁.withLogs t a)) ∨
    (¬h.Runs env (eventObject event) db ∧
      ∃ err t, processRecord env event row.id db = (.error err, db.withLogs t db.auditLogs)) := by
  have hrun : dispatchWebhookEvent env event db = h.run (eventObject event) env db := by
    simp only [dispatchWebhookEvent, dispatchTarget, hh, Option.map_some]
  simp only [processRecord, hrun, WebhookHandler.run]
  cases hr : h.reads (eventObject event) db with
  | error err =>
    obtain ⟨t, ht, _⟩ := failDelivery_waits err hf
    refine .inr ⟨?_, err, t, ht⟩
    rintro ⟨c, hc, _⟩
    rw [hr] at hc
    cases hc
  | ok commit =>
    cases hc : commit env db with
    | error err =>
      obtain ⟨t, ht, _⟩ := failDelivery_waits err hf
      refine .inr ⟨?_, err, t, ?_⟩
      · rintro ⟨c, hc', _, _, hrun'⟩
        rw [hr, Except.ok.injEq] at hc'
        rw [← hc', hc] at hrun'
        cases hrun'
      · simp only [bind, Except.bind, hc, ht]
    | ok r =>
      obtain ⟨db₁, e⟩ := r
      have hevents := (plans_of_reads hr).stripeWebhookEvents hc
      obtain ⟨b, hb⟩ : ∃ b, e.elim db₁ (AuditService.log env · db₁) =
          db₁.withLogs db₁.stripeWebhookEvents b := by
        cases e with
        | none => exact ⟨db₁.auditLogs, rfl⟩
        | some entry => exact log_withLogs env db₁ entry
      have hf' : findWebhookEvent event.id (db₁.withLogs db₁.stripeWebhookEvents b) = some row := by
        simpa only [findWebhookEvent, Db.withLogs, hevents] using hf
      obtain ⟨t, hmark, hfin⟩ := markProcessed_finishes env hf'
      refine .inl ⟨commit, db₁, e, t, b, rfl, hc, ?_, hfin⟩
      simp only [bind, Except.bind, hc, hb, pure, Except.pure, hmark]
      rfl

/-- The row of the event can be created, if it is not there yet. -/
def Recordable (env : Env) (event : PaymentWebhookEvent) (db : Db) : Prop :=
  findWebhookEvent event.id db = none ∧
    (∀ e ∈ db.stripeWebhookEvents.rows, e.id ≠ env.eventRowId) ∧
    ∀ e ∈ db.stripeWebhookEvents.rows, e.providerEventId ≠ event.id

/-- A delivery of an event that is not finished runs its handler once. -/
theorem handleVerified_cases (env : Env) (hh : handlerFor event.type = some h)
    (hopen : Waiting event db ∨ Recordable env event db) :
    ∃ t₀, (∃ commit db₁ e t a, h.reads (eventObject event) db = .ok commit ∧
      commit env (db.withLogs t₀ db.auditLogs) = .ok (db₁, e) ∧
      handleVerified env event db = (.ok ⟨true, false⟩, db₁.withLogs t a) ∧
      Finished event (db₁.withLogs t a)) ∨
    (¬h.Runs env (eventObject event) (db.withLogs t₀ db.auditLogs) ∧
      ∃ err t, handleVerified env event db = (.error err, db.withLogs t db.auditLogs)) := by
  rcases hopen with ⟨row, hf, hstatus⟩ | ⟨hnone, hid, hevent⟩
  · refine ⟨db.stripeWebhookEvents, ?_⟩
    have he : handleVerified env event db = processRecord env event row.id db := by
      simp only [handleVerified, hf, hstatus, if_false]
    rw [he]
    exact processRecord_cases hh hf
  · obtain ⟨t₀, row, hcreate, hf, _, hrow⟩ := find_create hnone hid hevent
    have he : handleVerified env event db =
        processRecord env event row.id (db.withLogs t₀ db.auditLogs) := by
      simp only [handleVerified, hnone, hcreate, hrow]
    rw [he]
    refine ⟨t₀, ?_⟩
    rcases processRecord_cases hh hf with ⟨c, db₁, e, t, b, hr, hrest⟩ | hfail
    · exact .inl ⟨c, db₁, e, t, b, by rwa [reads_withLogs] at hr, hrest⟩
    · exact .inr hfail

end Redelivery

section Crash

/-- The database that a delivery leaves behind when it crashes after `k` statements. -/
def crashed (event : PaymentWebhookEvent) (env : Env) (k : ℕ) (db : Db) : Db :=
  ((deliveries event).solo (List.replicate k env) db (.received event)).1

/-- Where a crashed delivery can stand: before its transaction, which is its
`c`-th statement, or after it, and then before or after the mark. -/
def Broken (h : WebhookHandler) (event : PaymentWebhookEvent) (env : Env) (db : Db) (c k : ℕ)
    (db' : Db) : Prop :=
  ((¬h.Runs env (eventObject event) db ∨ k < c) ∧
    ∃ t, db' = db.withLogs t db.auditLogs ∧ Waiting event db') ∨
  ∃ commit db₁ e t a, h.reads (eventObject event) db = .ok commit ∧
    commit env db = .ok (db₁, e) ∧ db' = db₁.withLogs t a ∧ c ≤ k ∧
    if k < c + (if e.isSome then 2 else 1) then Waiting event db' else Finished event db'

theorem crash_failing (k : ℕ) (env : Env) (err : Err) {row : StripeWebhookEvent}
    (hf : findWebhookEvent event.id db = some row) (hstatus : row.processingStatus ≠ .processed) :
    ∃ t, ((deliveries event).solo (List.replicate k env) db (.failing event row.id err)).1 =
      db.withLogs t db.auditLogs ∧ Waiting event (db.withLogs t db.auditLogs) := by
  cases k with
  | zero => exact ⟨db.stripeWebhookEvents, rfl, row, hf, hstatus⟩
  | succ k =>
    obtain ⟨t, ht, hwait⟩ := failDelivery_waits err hf
    refine ⟨t, ?_, hwait⟩
    rw [solo_failing, ht]

theorem crash_handled (k : ℕ) (env : Env) {row : StripeWebhookEvent}
    (hf : findWebhookEvent event.id db = some row) (hstatus : row.processingStatus ≠ .processed) :
    ∃ t, ((deliveries event).solo (List.replicate k env) db (.handled event row.id)).1 =
      db.withLogs t db.auditLogs ∧
      if k = 0 then Waiting event (db.withLogs t db.auditLogs)
      else Finished event (db.withLogs t db.auditLogs) := by
  cases k with
  | zero => exact ⟨db.stripeWebhookEvents, rfl, row, hf, hstatus⟩
  | succ k =>
    obtain ⟨t, hmark, hfin⟩ := markProcessed_finishes env hf
    refine ⟨t, ?_, hfin⟩
    rw [List.replicate_succ, Machine.solo]
    simp only [deliveries, Delivery.step, hmark]
    rw [Machine.solo_returned _ fun _ ↦ rfl]

theorem crash_recorded (hh : handlerFor event.type = some h) {row : StripeWebhookEvent}
    (hf : findWebhookEvent event.id db = some row) (hstatus : row.processingStatus ≠ .processed) :
    Broken h event env db 2 k
      ((deliveries event).solo (List.replicate k env) db (.recorded event row.id)).1 := by
  have hreads : dispatchReads event db = h.reads (eventObject event) db := by
    simp only [dispatchReads, dispatchTarget, hh, Option.map_some]
  have hself : Waiting event db := ⟨row, hf, hstatus⟩
  cases k with
  | zero => exact .inl ⟨.inr (by omega), db.stripeWebhookEvents, rfl, hself⟩
  | succ k =>
    rw [List.replicate_succ, Machine.solo]
    simp only [deliveries, Delivery.step, hreads]
    cases hr : h.reads (eventObject event) db with
    | error err =>
      obtain ⟨t, ht, hwait⟩ := crash_failing k env err hf hstatus
      refine .inl ⟨.inl ?_, t, ht, ht ▸ hwait⟩
      rintro ⟨c, hc, _⟩
      rw [hr] at hc
      cases hc
    | ok commit =>
      cases k with
      | zero => exact .inl ⟨.inr (by omega), db.stripeWebhookEvents, rfl, hself⟩
      | succ k =>
        rw [List.replicate_succ]
        simp only [Machine.solo]
        cases hc : commit env db with
        | error err =>
          obtain ⟨t, ht, hwait⟩ := crash_failing k env err hf hstatus
          refine .inl ⟨.inl ?_, t, ht, ht ▸ hwait⟩
          rintro ⟨c, hc', _, _, hrun⟩
          rw [hr, Except.ok.injEq] at hc'
          rw [← hc', hc] at hrun
          cases hrun
        | ok r =>
          obtain ⟨db₁, e⟩ := r
          have hevents := (plans_of_reads hr).stripeWebhookEvents hc
          have hf₁ : findWebhookEvent event.id db₁ = some row := by
            simpa only [findWebhookEvent, hevents] using hf
          refine .inr ⟨commit, db₁, e, ?_⟩
          cases e with
          | none =>
            obtain ⟨t, ht, hrow⟩ := crash_handled k env hf₁ hstatus
            refine ⟨t, db₁.auditLogs, hr, hc, ht, by omega, ?_⟩
            cases k with
            | zero => exact ht ▸ hrow
            | succ k => exact ht ▸ hrow
          | some entry =>
            cases k with
            | zero => exact ⟨db₁.stripeWebhookEvents, db₁.auditLogs, hr, hc, rfl, by omega, row, hf₁,
                hstatus⟩
            | succ k =>
              obtain ⟨b, hb⟩ := log_withLogs env db₁ entry
              have hf₂ : findWebhookEvent event.id (db₁.withLogs db₁.stripeWebhookEvents b) =
                some row := hf₁
              obtain ⟨t, ht, hrow⟩ := crash_handled k env hf₂ hstatus
              rw [List.replicate_succ]
              simp only [Machine.solo, hb]
              refine ⟨t, b, hr, hc, ht, by omega, ?_⟩
              cases k with
              | zero => exact ht ▸ hrow
              | succ k => exact ht ▸ hrow

/-- The handler's transaction is this statement of a delivery. -/
def commitPoint (event : PaymentWebhookEvent) (db : Db) : ℕ :=
  if (findWebhookEvent event.id db).isSome then 3 else 4

/-- The mark is the next statement, or the one after the audit entry. -/
def markPoint (event : PaymentWebhookEvent) (db : Db) (h : WebhookHandler) : ℕ :=
  commitPoint event db + if h = .checkoutSessionCompleted then 2 else 1

theorem Broken.next {c : ℕ} (hb : Broken h event env db c k db₁) :
    Broken h event env db (c + 1) (k + 1) db₁ := by
  rcases hb with ⟨hc, hrest⟩ | ⟨commit, db₂, e, t, a, hr, hrun, hdb, hck, hrow⟩
  · exact .inl ⟨hc.imp_right fun hlt ↦ by omega, hrest⟩
  · refine .inr ⟨commit, db₂, e, t, a, hr, hrun, hdb, by omega, ?_⟩
    have hiff : k + 1 < c + 1 + (if e.isSome then 2 else 1) ↔
        k < c + (if e.isSome then 2 else 1) := by omega
    simpa only [hiff] using hrow

/-- A crash leaves the database as it was, or its delivery stands at a statement
from the recorded row on. -/
theorem crashed_cases (env : Env) (k : ℕ) (hh : handlerFor event.type = some h)
    (hopen : Waiting event db ∨ Recordable env event db) :
    (k < commitPoint event db ∧ crashed event env k db = db) ∨
      ∃ t₀, Broken h event env (db.withLogs t₀ db.auditLogs) (commitPoint event db) k
        (crashed event env k db) := by
  rcases hopen with ⟨row, hf, hstatus⟩ | ⟨hnone, hid, hevent⟩
  · have hpoint : commitPoint event db = 3 := by simp [commitPoint, hf]
    rw [hpoint]
    cases k with
    | zero => exact .inl ⟨by omega, rfl⟩
    | succ k =>
      refine .inr ⟨db.stripeWebhookEvents, ?_⟩
      have hstep : crashed event env (k + 1) db =
          ((deliveries event).solo (List.replicate k env) db (.recorded event row.id)).1 := by
        unfold crashed
        rw [List.replicate_succ, Machine.solo]
        simp only [deliveries, Delivery.step, hf, hstatus, if_false]
      rw [hstep]
      exact (crash_recorded hh hf hstatus).next
  · have hpoint : commitPoint event db = 4 := by simp [commitPoint, hnone]
    rw [hpoint]
    obtain ⟨t₀, row, hcreate, hf, hstatus, hrow⟩ := find_create hnone hid hevent
    obtain _ | _ | k := k
    · exact .inl ⟨by omega, rfl⟩
    · refine .inl ⟨by omega, ?_⟩
      simp only [crashed, zero_add, List.replicate_one, Machine.solo, deliveries, Delivery.step, hnone]
    · refine .inr ⟨t₀, ?_⟩
      have hstep : crashed event env (k + 2) db =
          ((deliveries event).solo (List.replicate k env) (db.withLogs t₀ db.auditLogs)
            (.recorded event row.id)).1 := by
        unfold crashed
        rw [List.replicate_succ, List.replicate_succ, Machine.solo]
        simp only [deliveries, Delivery.step, hnone, Machine.solo, hcreate, hrow]
      rw [hstep]
      exact (crash_recorded hh hf (by simp [hstatus])).next.next

/-- All keys generated for a delivery are new. -/
structure NewKeys (env : Env) (db : Db) : Prop extends env.Fresh db where
  event : ∀ e ∈ db.stripeWebhookEvents.rows, e.id ≠ env.eventRowId

theorem fresh_withLogs (hfresh : env.Fresh db) : env.Fresh (db.withLogs t a) :=
  ⟨hfresh.payment, hfresh.subscription, hfresh.sponsorship, hfresh.outbox, hfresh.outbox_ne⟩

theorem runs_withLogs (hfresh : env.Fresh db) {object : JsValue} :
    h.Runs env object (db.withLogs t a) ↔ h.Accepts env object db :=
  (runs_iff_accepts h (fresh_withLogs hfresh)).trans (accepts_withLogs h)

/-- The event can be recorded under its id, and its handler accepts its object. -/
def Accepted (h : WebhookHandler) (env : Env) (event : PaymentWebhookEvent) (db : Db) : Prop :=
  (∀ e ∈ db.stripeWebhookEvents.rows, e.providerEventId = event.id → e.provider = "stripe") ∧
    h.Accepts env (eventObject event) db

/-- A delivery with the surroundings `env₁` crashes after `k` statements, and a
later one with `env₂` leaves what it would have left without the first. -/
structure Recovers (event : PaymentWebhookEvent) (env₁ env₂ : Env) (k : ℕ) (db : Db) : Prop where
  completes : ∃ reply, (handleVerified env₂ event (crashed event env₁ k db)).1 = .ok reply
  processed : Finished event (handleVerified env₂ event (crashed event env₁ k db)).2
  same : effects (env₁.keys ++ env₂.keys) (handleVerified env₂ event (crashed event env₁ k db)).2 =
    effects (env₁.keys ++ env₂.keys) (handleVerified env₂ event db).2

theorem handleVerified_finished (env : Env) (hfin : Finished event db) :
    handleVerified env event db = (.ok ⟨true, true⟩, db) := by
  obtain ⟨row, hf, hstatus⟩ := hfin
  simp only [handleVerified, hf, hstatus, if_true]

theorem crashed_finished (hfin : Finished event db) : crashed event env k db = db := by
  obtain ⟨row, hf, hstatus⟩ := hfin
  cases k with
  | zero => rfl
  | succ k =>
    unfold crashed
    rw [List.replicate_succ, Machine.solo]
    simp only [deliveries, Delivery.step, hf, hstatus, if_true]
    rw [Machine.solo_returned _ fun _ ↦ rfl]

/-- A row of another provider with the id of the event blocks every delivery. -/
theorem handleVerified_blocked (env : Env) (k : ℕ) {e : StripeWebhookEvent}
    (hnone : findWebhookEvent event.id db = none) (he : e ∈ db.stripeWebhookEvents.rows)
    (hid : e.providerEventId = event.id) :
    (∃ err, (handleVerified env event db).1 = .error err) ∧ crashed event env k db = db := by
  obtain ⟨err, herr⟩ : ∃ err, createWebhookEvent env event db = .error err := by
    cases hc : createWebhookEvent env event db with
    | error err => exact ⟨err, rfl⟩
    | ok db' => exact absurd hid (create_absent hc e he)
  refine ⟨⟨err, by simp only [handleVerified, hnone, herr]⟩, ?_⟩
  obtain _ | _ | k := k
  · rfl
  · simp only [crashed, zero_add, List.replicate_one, Machine.solo, deliveries, Delivery.step, hnone]
  · unfold crashed
    rw [List.replicate_succ, List.replicate_succ, Machine.solo]
    simp only [deliveries, Delivery.step, hnone, Machine.solo, herr]
    rw [Machine.solo_returned _ fun _ ↦ rfl]

theorem open_of_not_finished (hnew : NewKeys env db) (hfin : ¬Finished event db)
    (hstripe : ∀ e ∈ db.stripeWebhookEvents.rows, e.providerEventId = event.id →
      e.provider = "stripe") : Waiting event db ∨ Recordable env event db := by
  cases hf : findWebhookEvent event.id db with
  | some row => exact .inl ⟨row, hf, fun hs ↦ hfin ⟨row, hf, hs⟩⟩
  | none =>
    refine .inr ⟨hf, hnew.event, fun e he hid ↦ ?_⟩
    have hne := Table.find?_eq_none.mp hf e he
    simp [hid, hstripe e he hid] at hne

end Crash

section Recovery

variable (hh : handlerFor event.type = some h) (hopen : Waiting event db ∨ Recordable env event db)
  (hfresh : env.Fresh db)

include hh hopen hfresh

theorem handleVerified_accepted (ha : h.Accepts env (eventObject event) db) :
    ∃ t₀ commit db₁ e t a, h.reads (eventObject event) db = .ok commit ∧
      commit env (db.withLogs t₀ db.auditLogs) = .ok (db₁, e) ∧
      handleVerified env event db = (.ok ⟨true, false⟩, db₁.withLogs t a) ∧
      Finished event (db₁.withLogs t a) := by
  obtain ⟨t₀, ⟨commit, db₁, e, t, b, hrest⟩ | ⟨hn, _⟩⟩ := handleVerified_cases env hh hopen
  · exact ⟨t₀, commit, db₁, e, t, b, hrest⟩
  · exact absurd ((runs_withLogs hfresh).mpr ha) hn

theorem handleVerified_refused (ha : ¬h.Accepts env (eventObject event) db) :
    ∃ err t, handleVerified env event db = (.error err, db.withLogs t db.auditLogs) := by
  obtain ⟨t₀, ⟨commit, db₁, e, t, b, hr, hrun, _⟩ | ⟨_, herr⟩⟩ := handleVerified_cases env hh hopen
  · exact absurd ((runs_withLogs hfresh).mp
      ⟨commit, by rw [reads_withLogs]; exact hr, db₁, e, hrun⟩) ha
  · exact herr

end Recovery

section Cases

variable (hh : handlerFor event.type = some h)
  (hopen : Waiting event db ∨ Recordable env₂ event db) (hfresh : env₂.Fresh db)

include hh hopen hfresh

/-- Nothing was committed before the crash: the redelivery is the first delivery. -/
theorem recovers_uncommitted (hdb : crashed event env₁ k db = db.withLogs t db.auditLogs)
    (hopen' : Waiting event (db.withLogs t db.auditLogs) ∨
      Recordable env₂ event (db.withLogs t db.auditLogs)) :
    Recovers event env₁ env₂ k db ↔ h.Accepts env₂ (eventObject event) db := by
  have hfresh' : env₂.Fresh (db.withLogs t db.auditLogs) := fresh_withLogs hfresh
  constructor
  · intro hr
    by_contra ha
    obtain ⟨err, t', hred⟩ := handleVerified_refused hh hopen' hfresh'
      (fun h' ↦ ha ((accepts_withLogs h).mp h'))
    obtain ⟨reply, hok⟩ := hr.completes
    rw [hdb, hred] at hok
    cases hok
  · intro ha
    obtain ⟨t₁, commit, db₁, e₁, t₂, a₂, hreads, hrun, hred, hfin⟩ :=
      handleVerified_accepted hh hopen' hfresh' ((accepts_withLogs h).mpr ha)
    obtain ⟨t₃, commit', db₂, e₂, t₄, a₄, hreads', hrun', hbase, _⟩ :=
      handleVerified_accepted hh hopen hfresh ha
    rw [reads_withLogs] at hreads
    cases hreads.symm.trans hreads'
    refine ⟨⟨_, by rw [hdb, hred]⟩, by rw [hdb, hred]; exact hfin, ?_⟩
    rw [hdb, hred, hbase, effects_withLogs, effects_withLogs]
    have hrun₁ : commit env₂ ((db.withLogs t₃ db.auditLogs).withLogs t₁ db.auditLogs) =
      .ok (db₁, e₁) := hrun
    exact effects_congr (List.subset_append_right _ _) (List.subset_append_right _ _)
      (plans_of_reads hreads') hrun₁ hrun'

/-- The transaction was committed before the crash and the redelivery adds
nothing to it. -/
theorem recovers_committed {commit : Commit} {e : Option CreateAuditLogParams}
    {t₁ : Table StripeWebhookEvent}
    (hreads : h.reads (eventObject event) db = .ok commit)
    (hrun : commit env₁ (db.withLogs t₁ db.auditLogs) = .ok (db₁, e))
    (hcompletes : ∃ reply,
      (handleVerified env₂ event (crashed event env₁ k db)).1 = .ok reply)
    (hprocessed : Finished event (handleVerified env₂ event (crashed event env₁ k db)).2)
    (hsame : effects (env₁.keys ++ env₂.keys)
        (handleVerified env₂ event (crashed event env₁ k db)).2 =
      effects (env₁.keys ++ env₂.keys) db₁)
    (hdiff : ¬h.Accepts env₂ (eventObject event) db →
      effects (env₁.keys ++ env₂.keys) db₁ ≠ effects (env₁.keys ++ env₂.keys) db) :
    Recovers event env₁ env₂ k db ↔ h.Accepts env₂ (eventObject event) db := by
  constructor
  · intro hr
    by_contra ha
    obtain ⟨err, t', hbase⟩ := handleVerified_refused hh hopen hfresh ha
    refine hdiff ha ?_
    rw [← hsame, hr.same, hbase, effects_withLogs]
  · intro ha
    obtain ⟨t₃, commit', db₂, e₂, t₄, a₄, hreads', hrun', hbase, _⟩ :=
      handleVerified_accepted hh hopen hfresh ha
    cases hreads.symm.trans hreads'
    refine ⟨hcompletes, hprocessed, ?_⟩
    rw [hsame, hbase, effects_withLogs]
    have hrun₁ : commit env₁ ((db.withLogs t₃ db.auditLogs).withLogs t₁ db.auditLogs) =
      .ok (db₁, e) := hrun
    exact effects_congr (List.subset_append_left _ _) (List.subset_append_right _ _)
      (plans_of_reads hreads') hrun₁ hrun'

end Cases

theorem effects_ne_of_outbox {keys : List String}
    (hlen : db₁.outboxEvents.rows.length ≠ db.outboxEvents.rows.length) :
    effects keys db₁ ≠ effects keys db := by
  intro he
  have ho := congrArg (fun x ↦ x.outbox.length) he
  simp only [effects, List.length_map] at ho
  exact hlen ho

theorem effects_ne_of_sponsorships {keys : List String}
    (hlen : db₁.communitySponsorships.rows.length ≠ db.communitySponsorships.rows.length) :
    effects keys db₁ ≠ effects keys db := by
  intro he
  have ho := congrArg (fun x ↦ x.sponsorships.length) he
  simp only [effects, List.length_map] at ho
  exact hlen ho

/-- A crash between the transaction and the mark cannot be made good when the
handler does not run again. -/
theorem not_recovers (hh : handlerFor event.type = some h)
    (hopen : Waiting event db ∨ Recordable env₂ event db)
    {commit : Commit} {e : Option CreateAuditLogParams} {t₁ : Table StripeWebhookEvent}
    (hagain : ¬h.RunsAgain (eventObject event) db)
    (hreads : h.reads (eventObject event) db = .ok commit)
    (hrun : commit env₁ (db.withLogs t₁ db.auditLogs) = .ok (db₁, e))
    (hdb : crashed event env₁ k db = db₁.withLogs t a)
    (hwait : Waiting event (db₁.withLogs t a)) : ¬Recovers event env₁ env₂ k db := by
  intro hr
  obtain ⟨hlen, hagain₁, _⟩ := runs_once hagain hreads hrun
  obtain ⟨t₂, ⟨commit', db₂, e₂, t₃, a₃, hreads', hrun', hred, _⟩ | ⟨_, err, t₃, hred⟩⟩ :=
    handleVerified_cases env₂ hh (.inl hwait)
  · rw [reads_withLogs] at hreads'
    obtain ⟨hlen₂, _⟩ := runs_once hagain₁ hreads' hrun'
    have hsame := hr.same
    rw [hdb, hred, effects_withLogs] at hsame
    obtain ⟨t₄, ⟨commit'', db₃, e₃, t₅, a₅, hreads'', hrun'', hbase, _⟩ | ⟨_, err, t₅, hbase⟩⟩ :=
      handleVerified_cases env₂ hh hopen
    · obtain ⟨hlen₃, _⟩ := runs_once hagain hreads'' hrun''
      rw [hbase, effects_withLogs] at hsame
      exact effects_ne_of_outbox (by omega) hsame
    · rw [hbase, effects_withLogs] at hsame
      exact effects_ne_of_outbox (by omega) hsame
  · obtain ⟨reply, hok⟩ := hr.completes
    rw [hdb, hred] at hok
    cases hok

/-- A redelivery makes good a crash exactly when the event was processed before,
or its handler accepts it and the crash does not fall between the transaction of
a handler that does not run again and the mark. -/
theorem redelivery_recovers (hh : handlerFor event.type = some h) (hnew₁ : NewKeys env₁ db)
    (hnew₂ : NewKeys env₂ db) (k : ℕ) :
    Recovers event env₁ env₂ k db ↔
      Finished event db ∨ (Accepted h env₂ event db ∧
        (h.RunsAgain (eventObject event) db ∨
          ¬(Accepted h env₁ event db ∧ commitPoint event db ≤ k ∧ k < markPoint event db h))) := by
  by_cases hfin : Finished event db
  · refine iff_of_true ?_ (.inl hfin)
    have hred : handleVerified env₂ event (crashed event env₁ k db) = (.ok ⟨true, true⟩, db) := by
      rw [crashed_finished hfin, handleVerified_finished env₂ hfin]
    exact ⟨⟨_, by rw [hred]⟩, by rw [hred]; exact hfin,
      by rw [hred, handleVerified_finished env₂ hfin]⟩
  simp only [hfin, false_or]
  by_cases hstripe : ∀ e ∈ db.stripeWebhookEvents.rows, e.providerEventId = event.id →
      e.provider = "stripe"
  swap
  · refine iff_of_false (fun hr ↦ ?_) fun hr ↦ hstripe hr.1.1
    obtain ⟨e, he⟩ := not_forall.mp hstripe
    simp only [Classical.not_imp] at he
    have hnone : findWebhookEvent event.id db = none := by
      cases hf : findWebhookEvent event.id db with
      | none => rfl
      | some row =>
        obtain ⟨hm, hk⟩ := Table.find?_mem hf
        simp only [Bool.and_eq_true, beq_iff_eq] at hk
        have heq : row = e := db.stripeWebhookEvents.eq_of_unique
          (u := fun e : StripeWebhookEvent ↦ some e.providerEventId) (by simp [Row.uniques]) hm
          he.1 (by rw [hk.2]) (by rw [he.2.1])
        exact absurd (heq ▸ hk.1) he.2.2
    obtain ⟨reply, hok⟩ := hr.completes
    obtain ⟨_, hdb⟩ := handleVerified_blocked env₁ k hnone he.1 he.2.1
    obtain ⟨⟨err, herr⟩, _⟩ := handleVerified_blocked env₂ k hnone he.1 he.2.1
    rw [hdb, herr] at hok
    cases hok
  have hopen₁ := open_of_not_finished hnew₁ hfin hstripe
  have hopen₂ := open_of_not_finished hnew₂ hfin hstripe
  have hacc (env : Env) : Accepted h env event db ↔ h.Accepts env (eventObject event) db :=
    and_iff_right hstripe
  rw [hacc, hacc]
  rcases crashed_cases env₁ k hh hopen₁ with ⟨hk, hdb⟩ |
    ⟨t₁, ⟨hc, t, hdb, hwait⟩ | ⟨commit, db₁, e, t, b, hreads, hrun, hdb, hck, hrow⟩⟩
  · rw [recovers_uncommitted (t := db.stripeWebhookEvents) hh hopen₂ hnew₂.toFresh hdb hopen₂]
    exact (and_iff_left (.inr fun hn ↦ by omega)).symm
  · rw [recovers_uncommitted (t := t) hh hopen₂ hnew₂.toFresh hdb (.inl (hdb ▸ hwait))]
    refine (and_iff_left (.inr fun hn ↦ ?_)).symm
    rcases hc with hc | hc
    · exact hc ((runs_withLogs hnew₁.toFresh).mpr hn.1)
    · omega
  · rw [reads_withLogs] at hreads
    have ha₁ : h.Accepts env₁ (eventObject event) db := (runs_withLogs hnew₁.toFresh).mp
      ⟨commit, by rw [reads_withLogs]; exact hreads, db₁, e, hrun⟩
    rw [hdb] at hrow
    by_cases hagain : h.RunsAgain (eventObject event) db
    · rw [and_iff_left (.inl hagain)]
      have hdiff (ha : ¬h.Accepts env₂ (eventObject event) db) :
          effects (env₁.keys ++ env₂.keys) db₁ ≠ effects (env₁.keys ++ env₂.keys) db :=
        effects_ne_of_sponsorships (by
          rw [accepts_or_activated hnew₁.toFresh hagain hreads hrun ha]; omega)
      obtain ⟨reply, db₂, hred, hfin₂, hsame⟩ : ∃ reply db₂,
          handleVerified env₂ event (db₁.withLogs t b) = (.ok reply, db₂) ∧ Finished event db₂ ∧
            effects (env₁.keys ++ env₂.keys) db₂ = effects (env₁.keys ++ env₂.keys) db₁ := by
        by_cases hmark : k < commitPoint event db + (if e.isSome then 2 else 1)
        · rw [if_pos hmark] at hrow
          obtain ⟨t₂, hred⟩ := handleVerified_cases env₂ hh (.inl hrow)
          obtain ⟨commit', hreads', db₂, e₂, hrun', hsame⟩ := runs_again hagain hreads hrun t₂ b env₂
            (env₁.keys ++ env₂.keys)
          rcases hred with ⟨commit'', db₃, e₃, t₃, a₃, hreads'', hrun'', hred, hfin₃⟩ | ⟨hn, _⟩
          · rw [reads_withLogs] at hreads' hreads''
            cases hreads'.symm.trans hreads''
            cases hrun'.symm.trans hrun''
            exact ⟨_, _, hred, hfin₃, hsame⟩
          · exact absurd ⟨commit', hreads', db₂, e₂, hrun'⟩ hn
        · rw [if_neg hmark] at hrow
          exact ⟨_, _, handleVerified_finished env₂ hrow, hrow, rfl⟩
      exact recovers_committed hh hopen₂ hnew₂.toFresh hreads hrun ⟨reply, by rw [hdb, hred]⟩
        (by rw [hdb, hred]; exact hfin₂) (by rw [hdb, hred]; exact hsame) hdiff
    · obtain ⟨hlen, _, hlog⟩ := runs_once hagain hreads hrun
      have hpoint : markPoint event db h = commitPoint event db + if e.isSome then 2 else 1 := by
        simp only [markPoint, ← hlog]
      rw [hpoint]
      by_cases hmark : k < commitPoint event db + (if e.isSome then 2 else 1)
      · rw [if_pos hmark] at hrow
        refine iff_of_false (not_recovers hh hopen₂ hagain hreads hrun hdb hrow) ?_
        rintro ⟨_, hor⟩
        rcases hor with hor | hor
        · exact hagain hor
        · exact hor ⟨ha₁, hck, hmark⟩
      · rw [if_neg hmark] at hrow
        rw [and_iff_left (.inr fun hn ↦ hmark hn.2.2)]
        have hred := handleVerified_finished env₂ hrow
        exact recovers_committed hh hopen₂ hnew₂.toFresh hreads hrun ⟨_, by rw [hdb, hred]⟩
          (by rw [hdb, hred]; exact hrow) (by rw [hdb, hred]; rfl)
          fun _ ↦ effects_ne_of_outbox (by omega)

theorem newKeys_of_empty (hp : db.payments.rows = []) (hc : db.communitySponsorships.rows = [])
    (ho : db.outboxEvents.rows = []) (he : db.stripeWebhookEvents.rows = [])
    (hs : ∀ s ∈ db.subscriptions.rows, s.id ≠ env.subscriptionId)
    (hne : env.outboxId ≠ env.outboxId₂) : NewKeys env db :=
  ⟨⟨by simp [hp], hs, by simp [hc], by simp [ho], hne⟩, by simp [he]⟩

/-- A renewal that crashes before its transaction is made good. -/
theorem renewal_recovers :
    Recovers renewal (.offline 0 "a" "b") (.offline 1 "c" "d") 2 subscribedDb := by
  have hkeys (now : Time) {k k₂ : String} (hk : "subscription-1" ≠ k) (hne : k ≠ k₂) :
      NewKeys (.offline now k k₂) subscribedDb :=
    newKeys_of_empty rfl rfl rfl rfl
      (by simpa [subscribedDb, Table.singleton, subscribed, Env.offline] using hk) hne
  have hterms : (invoiceTerms (eventObject renewal) subscribed).toOption.isSome = true := by
    decide +kernel
  have haccepts : Accepted .invoicePaid (.offline 1 "c" "d") renewal subscribedDb := by
    refine ⟨by simp [subscribedDb, Db.empty], fun _ ↦ ⟨some (subscribed, monthlyPlan), rfl, ?_⟩⟩
    rintro existing planConfig ⟨rfl, rfl⟩
    refine ⟨?_, by decide⟩
    cases hi : invoiceTerms (eventObject renewal) subscribed with
    | ok terms => exact ⟨terms, rfl⟩
    | error err => simp [hi, Except.toOption] at hterms
  exact (redelivery_recovers (show _ = some .invoicePaid by decide) (hkeys 0 (by decide) (by decide))
    (hkeys 1 (by decide) (by decide)) 2).mpr (.inr ⟨haccepts, .inr fun hn ↦ by
      have hpoint : commitPoint renewal subscribedDb = 4 := by decide
      have hle := hn.2.1
      omega⟩)

/-- One user and the plan it is about to subscribe to. -/
def subscribingDb : Db :=
  { Db.empty with
    users := .singleton ⟨"user-1", "user@example.com", .active, none, ["SPONSOR"]⟩
    subscriptionPlanConfigs := .singleton monthlyPlan }

def subscriptionCheckout : PaymentWebhookEvent :=
  ⟨"evt_1", "checkout.session.completed",
    .obj [("id", .str "cs_1"), ("mode", .str "subscription"), ("subscription", .str "sub_1"),
      ("metadata", .obj [("userId", .str "user-1"), ("plan", .str "SPONSOR_MONTHLY")])]⟩

/-- A subscription checkout that crashes right after its transaction fails on
every redelivery. -/
theorem subscription_checkout_not_recovered :
    (handleVerified (.offline 1 "c" "d") subscriptionCheckout subscribingDb).1.toOption =
      some ⟨true, false⟩ ∧
    NewKeys (.offline 0 "a" "b") subscribingDb ∧ NewKeys (.offline 1 "c" "d") subscribingDb ∧
    ¬Recovers subscriptionCheckout (.offline 0 "a" "b") (.offline 1 "c" "d") 4 subscribingDb := by
  have hfails : (handleVerified (.offline 1 "c" "d") subscriptionCheckout
      (crashed subscriptionCheckout (.offline 0 "a" "b") 4 subscribingDb)).1.toOption = none := by
    decide +kernel
  refine ⟨by decide +kernel, newKeys_of_empty rfl rfl rfl rfl (by simp [subscribingDb, Db.empty])
    (by decide), newKeys_of_empty rfl rfl rfl rfl (by simp [subscribingDb, Db.empty])
    (by decide), fun hr ↦ ?_⟩
  obtain ⟨reply, hok⟩ := hr.completes
  rw [hok] at hfails
  cases hfails

end StripeWebhookService

end Innovents.Payments
