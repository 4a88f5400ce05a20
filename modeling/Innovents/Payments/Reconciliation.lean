import Innovents.Payments.Calls

namespace Innovents.Payments

open Innovents.Lib

structure ReconcileQueryDto where
  olderThanMinutes : Option ℤ
  dryRun : Option Bool

structure ReconciliationReportDto where
  scannedCount : ℕ
  reconciledSucceededCount : ℕ
  reconciledFailedCount : ℕ
  unresolvedCount : ℕ
  errors : List (String × Err)

namespace PaymentReconciliationService

inductive Outcome
  | succeeded | failed | unresolved
  deriving DecidableEq, Repr

def markSucceeded (env : Env) (session : RetrievedSession) (p : Payment) : Payment :=
  { p with
    status := .succeeded
    paidAt := some env.now
    stripePaymentIntentId := given session.paymentIntentId }

def markFailed (env : Env) (p : Payment) : Payment :=
  { p with
    status := .failed
    failedAt := some env.now }

/-- Write the outcome to the payment, unless nothing is to be written. -/
def conclude (dryRun : Bool) (payment : Payment) (status : PaymentStatus)
    (f : Env → Payment → Payment) : Service Unit :=
  if dryRun then pure ()
  else .perform (.updatePayment payment.id status) fun env db ↦ do
    let db ← modify paymentTable payment.id (f env) db
    return (db, ())

def reconcilePayment (dryRun : Bool) (payment : Payment) (sessionId : String) : Service Outcome := do
  let session ← query "provider.retrieveCheckoutSession" fun env _ ↦
    env.provider.retrieveCheckoutSession sessionId
  match session with
  | none => return .unresolved
  | some session =>
    if session.paymentStatus = "paid" then do
      conclude dryRun payment .succeeded fun env ↦ markSucceeded env session
      return .succeeded
    else if session.status = "expired" then do
      conclude dryRun payment .failed markFailed
      return .failed
    else return .unresolved

def count (payment : Payment) (outcome : Except Err Outcome) (report : ReconciliationReportDto) :
    ReconciliationReportDto :=
  match outcome with
  | .ok .succeeded =>
    { report with reconciledSucceededCount := report.reconciledSucceededCount + 1 }
  | .ok .failed => { report with reconciledFailedCount := report.reconciledFailedCount + 1 }
  | .ok .unresolved => { report with unresolvedCount := report.unresolvedCount + 1 }
  | .error err =>
    { report with
      errors := report.errors ++ [(payment.id, err)]
      unresolvedCount := report.unresolvedCount + 1 }

/-- The `for` loop over the stale payments. -/
def reconcileAll (dryRun : Bool) :
    List Payment → ReconciliationReportDto → Service ReconciliationReportDto
  | [], report => pure report
  | payment :: payments, report =>
    match given payment.stripeCheckoutSessionId with
    | none => reconcileAll dryRun payments (count payment (.ok .unresolved) report)
    | some sessionId => do
      let outcome ← (reconcilePayment dryRun payment sessionId).attempt
      reconcileAll dryRun payments (count payment outcome report)

def stalePayments (cutoffDate : Time) (db : Db) : List Payment :=
  db.payments.rows.filter fun p ↦ p.status == .pending && p.createdAt ≤ cutoffDate

def reconcileStalePendingPayments (dto : ReconcileQueryDto) : Service ReconciliationReportDto := do
  let olderThanMinutes := (dto.olderThanMinutes.filter (· ≠ 0)).getD 15
  let dryRun := dto.dryRun.getD false
  let payments ← query "payment.findMany" fun env db ↦
    .ok (stalePayments (env.now - olderThanMinutes * 60 * 1000) db)
  reconcileAll dryRun payments
    { scannedCount := payments.length
      reconciledSucceededCount := 0
      reconciledFailedCount := 0
      unresolvedCount := 0
      errors := [] }

variable {db db' : Db}

/-- What a request of a reconciliation run writes: the outcome for one payment. -/
inductive ReconcileWrite : Request → Db → Db → Prop
  | nothing {l : Request} {db : Db} : ReconcileWrite l db db
  | succeeded {env : Env} {session : RetrievedSession} {id : String} {db : Db} {t : Table Payment} :
      t.rows = Table.updateRows id (markSucceeded env session) db.payments.rows →
      ReconcileWrite (.updatePayment id .succeeded) db { db with payments := t }
  | failed {env : Env} {id : String} {db : Db} {t : Table Payment} :
      t.rows = Table.updateRows id (markFailed env) db.payments.rows →
      ReconcileWrite (.updatePayment id .failed) db { db with payments := t }

theorem reconcilePayment_writes (dryRun : Bool) (payment : Payment) (sessionId : String) :
    (reconcilePayment dryRun payment sessionId).Each ReconcileWrite := by
  have hupdate {status : PaymentStatus} {f : Env → Payment → Payment}
      (hf : ∀ env db t, t.rows = Table.updateRows payment.id (f env) db.payments.rows →
        ReconcileWrite (.updatePayment payment.id status) db { db with payments := t }) :
      (conclude dryRun payment status f).Each ReconcileWrite := by
    unfold conclude
    split_ifs
    · trivial
    · refine Call.each_perform (fun _ ↦ .nothing) fun env db db' _ h ↦ ?_
      simp only [bind_eq_ok, modify_eq_ok, pure_eq_ok, Prod.mk.injEq] at h
      obtain ⟨_, ⟨t, ⟨_, ht⟩, rfl⟩, rfl, _⟩ := h
      exact hf env db t ht
  unfold reconcilePayment
  refine Call.each_bind (each_query fun _ _ ↦ .nothing) fun session ↦ ?_
  cases session with
  | none => trivial
  | some session =>
    dsimp only
    split_ifs
    · exact Call.each_bind (hupdate fun env db t ht ↦ .succeeded ht) fun _ ↦ trivial
    · exact Call.each_bind (hupdate fun env db t ht ↦ .failed ht) fun _ ↦ trivial
    · trivial

theorem reconcileAll_writes (dryRun : Bool) (payments : List Payment)
    (report : ReconciliationReportDto) :
    (reconcileAll dryRun payments report).Each ReconcileWrite := by
  induction payments generalizing report with
  | nil => trivial
  | cons payment payments ih =>
    unfold reconcileAll
    split
    · exact ih _
    · exact Call.each_bind (Call.each_attempt (reconcilePayment_writes dryRun payment _))
        fun outcome ↦ ih _

theorem reconcile_writes (dto : ReconcileQueryDto) :
    (reconcileStalePendingPayments dto).Each ReconcileWrite :=
  Call.each_bind (each_query fun _ _ ↦ .nothing) fun payments ↦ reconcileAll_writes _ payments _

section Alone

variable {ok : Env → Prop} {J : Db → Prop}

/-- What a run that nobody interrupts writes, it writes to payments that are pending. -/
def KeptByReconcile (J : Db → Prop) : Prop :=
  ∀ (db : Db) (env : Env) (payment : Payment) (f : Payment → Payment) (t : Table Payment), J db →
    payment ∈ db.payments.rows → payment.status = .pending →
    (∃ session, f = markSucceeded env session) ∨ f = markFailed env →
    t.rows = Table.updateRows payment.id f db.payments.rows → J { db with payments := t }

/-- The payments still to be worked on are as they were read. -/
def Waiting (payments : List Payment) (db : Db) : Prop :=
  (payments.Pairwise fun p q ↦ p.id ≠ q.id) ∧
    ∀ p ∈ payments, p ∈ db.payments.rows ∧ p.status = .pending

theorem conclude_ran (hJ : KeptByReconcile J) {dryRun : Bool} {payment : Payment}
    {payments : List Payment} {status : PaymentStatus} {f : Env → Payment → Payment}
    (hf : ∀ env, (∃ session, f env = markSucceeded env session) ∨ f env = markFailed env)
    {r : Except Err Unit} (h : (conclude dryRun payment status f).Ran ok db r db') (hdb : J db)
    (hw : Waiting (payment :: payments) db) : J db' ∧ Waiting payments db' := by
  obtain ⟨hpair, hpending⟩ := hw
  rw [List.pairwise_cons] at hpair
  have hrest : Waiting payments db := ⟨hpair.2, fun p hp ↦ hpending p (by simp [hp])⟩
  unfold conclude at h
  split_ifs at h
  · rw [(Call.ran_returned.mp h).2]
    exact ⟨hdb, hrest⟩
  · obtain ⟨env, _, _, rfl⟩ := Call.ran_perform.mp h
    cases hm : modify paymentTable payment.id (f env) db with
    | error err => exact ⟨hdb, hrest⟩
    | ok db₁ =>
      obtain ⟨t, ⟨_, ht⟩, rfl⟩ := (modify_eq_ok _).mp hm
      obtain ⟨hmem, hp⟩ := hpending payment (by simp)
      refine ⟨hJ db env payment (f env) t hdb hmem hp (hf env) ht, hpair.2, fun p hp ↦ ?_⟩
      have hne : p.id ≠ payment.id := (hpair.1 p hp).symm
      obtain ⟨hpm, hps⟩ := hpending p (by simp [hp])
      refine ⟨?_, hps⟩
      show p ∈ t.rows
      rw [ht]
      exact Table.mem_updateRows.mpr (.inr ⟨hpm, hne⟩)

theorem reconcilePayment_ran (hJ : KeptByReconcile J) {dryRun : Bool} {payment : Payment}
    {payments : List Payment} {sessionId : String} {r : Except Err Outcome}
    (h : (reconcilePayment dryRun payment sessionId).Ran ok db r db') (hdb : J db)
    (hw : Waiting (payment :: payments) db) : J db' ∧ Waiting payments db' := by
  have hrest : Waiting payments db :=
    ⟨(List.pairwise_cons.mp hw.1).2, fun p hp ↦ hw.2 p (by simp [hp])⟩
  have hconclude {status : PaymentStatus} {outcome : Outcome} {f : Env → Payment → Payment}
      (hf : ∀ env, (∃ session, f env = markSucceeded env session) ∨ f env = markFailed env)
      (h : ((conclude dryRun payment status f).bind fun _ ↦ .returned (.ok outcome)).Ran ok db r db') :
      J db' ∧ Waiting payments db' := by
    rcases Call.ran_bind.mp h with ⟨x, h, _⟩ | ⟨_, db₁, h, hret⟩
    · exact conclude_ran hJ hf h hdb hw
    · rw [(Call.ran_returned.mp hret).2]
      exact conclude_ran hJ hf h hdb hw
  unfold reconcilePayment at h
  rcases Call.ran_bind.mp h with ⟨x, h, _⟩ | ⟨session, db₁, h, hcont⟩
  · obtain ⟨_, _, _, rfl⟩ := Call.ran_ask.mp h
    exact ⟨hdb, hrest⟩
  · obtain ⟨_, _, _, rfl⟩ := Call.ran_ask.mp h
    cases session with
    | none =>
      rw [(Call.ran_returned.mp hcont).2]
      exact ⟨hdb, hrest⟩
    | some session =>
      dsimp only at hcont
      split_ifs at hcont
      · exact hconclude (fun env ↦ .inl ⟨session, rfl⟩) hcont
      · exact hconclude (fun env ↦ .inr rfl) hcont
      · rw [(Call.ran_returned.mp hcont).2]
        exact ⟨hdb, hrest⟩

theorem reconcileAll_ran (hJ : KeptByReconcile J) {dryRun : Bool} {payments : List Payment}
    {report : ReconciliationReportDto} {r : Except Err ReconciliationReportDto}
    (h : (reconcileAll dryRun payments report).Ran ok db r db') (hdb : J db)
    (hw : Waiting payments db) : J db' := by
  induction payments generalizing report db with
  | nil =>
    rw [(Call.ran_returned.mp h).2]
    exact hdb
  | cons payment payments ih =>
    have hrest : Waiting payments db :=
      ⟨(List.pairwise_cons.mp hw.1).2, fun p hp ↦ hw.2 p (by simp [hp])⟩
    unfold reconcileAll at h
    split at h
    · exact ih h hdb hrest
    · rcases Call.ran_bind.mp h with ⟨x, h, _⟩ | ⟨outcome, db₁, h, hcont⟩
      · obtain ⟨r', hr, hx⟩ := Call.ran_attempt.mp h
        cases hx
      · obtain ⟨r', hr, _⟩ := Call.ran_attempt.mp h
        obtain ⟨hdb₁, hw₁⟩ := reconcilePayment_ran hJ hr hdb hw
        exact ih hcont hdb₁ hw₁

theorem reconcile_ran (hJ : KeptByReconcile J) {dto : ReconcileQueryDto}
    {r : Except Err ReconciliationReportDto}
    (h : (reconcileStalePendingPayments dto).Ran ok db r db') (hdb : J db) : J db' := by
  unfold reconcileStalePendingPayments at h
  rcases Call.ran_bind.mp h with ⟨x, h, _⟩ | ⟨payments, db₁, h, hcont⟩
  · obtain ⟨_, _, _, rfl⟩ := Call.ran_ask.mp h
    exact hdb
  · obtain ⟨env, _, hr, rfl⟩ := Call.ran_ask.mp h
    cases hr
    refine reconcileAll_ran hJ hcont hdb ⟨?_, fun p hp ↦ ?_⟩
    · refine (db₁.payments.apart.filter _).imp fun {p q} hclash he ↦ ?_
      rw [clash_of_id (by exact he)] at hclash
      cases hclash
    · simp only [stalePayments, List.mem_filter, Bool.and_eq_true, beq_iff_eq] at hp
      exact ⟨hp.1, hp.2.1⟩

end Alone

end PaymentReconciliationService

end Innovents.Payments
