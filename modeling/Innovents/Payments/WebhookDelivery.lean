import Innovents.Payments.WebhookWrites

namespace Innovents.Payments

open Innovents.Lib

namespace StripeWebhookService

/-- The deliveries of one event, each on its way through `handleWebhook`. -/
def deliveries (event : PaymentWebhookEvent) : Machine Db Delivery Env where
  start t := t = .received event
  step env db t := t.step env db
  world _ _ := False

section Solo

variable {event e : PaymentWebhookEvent} {env : Env} {recordId : String} {db db' : Db} {n : ℕ}

theorem dispatchWebhookEvent_eq :
    dispatchWebhookEvent env event db = (do
      let commit ← dispatchReads event db
      let (db', entry) ← commit env db
      return entry.elim db' (AuditService.log env · db')) := by
  unfold dispatchWebhookEvent dispatchReads
  cases dispatchTarget event with
  | some target => rfl
  | none => rfl

theorem solo_failing {err : Err} :
    (deliveries e).solo (List.replicate (n + 1) env) db (.failing event recordId err) =
      ((failDelivery err recordId db).2, .returned (failDelivery err recordId db).1) := by
  simp only [List.replicate_succ, Machine.solo, deliveries, Delivery.step, failDelivery]
  cases markFailed err recordId db with
  | ok db' => exact Machine.solo_returned _ (fun _ ↦ rfl) _
  | error err' => exact Machine.solo_returned _ (fun _ ↦ rfl) _

/-- A delivery after its handler: mark the record, or fail. -/
theorem solo_handled :
    (deliveries e).solo (List.replicate (n + 2) env) db (.handled event recordId) =
      match markProcessed env recordId db with
      | .ok db' => (db', .returned (.ok ⟨true, false⟩))
      | .error err => ((failDelivery err recordId db).2,
          .returned (failDelivery err recordId db).1) := by
  rw [List.replicate_succ, Machine.solo]
  simp only [deliveries, Delivery.step]
  cases markProcessed env recordId db with
  | ok db' => exact Machine.solo_returned _ (fun _ ↦ rfl) _
  | error err => exact solo_failing

theorem solo_recorded :
    (deliveries e).solo (List.replicate (n + 5) env) db (.recorded event recordId) =
      ((processRecord env event recordId db).2,
        .returned (processRecord env event recordId db).1) := by
  rw [List.replicate_succ, Machine.solo]
  simp only [deliveries, Delivery.step, processRecord, dispatchWebhookEvent_eq]
  cases dispatchReads event db with
  | error err => exact solo_failing
  | ok commit =>
    rw [List.replicate_succ]
    simp only [Machine.solo, bind, Except.bind]
    cases commit env db with
    | error err => exact solo_failing
    | ok r =>
      obtain ⟨db', entry | entry⟩ := r
      · refine solo_handled.trans ?_
        simp only [pure, Except.pure, Option.elim_none]
        cases markProcessed env recordId db' with
        | ok db'' => rfl
        | error err => rfl
      · simp only [List.replicate_succ, Machine.solo]
        refine solo_handled.trans ?_
        simp only [pure, Except.pure, Option.elim_some]
        cases markProcessed env recordId (AuditService.log env entry db') with
        | ok db'' => rfl
        | error err => rfl

/-- A delivery that runs alone does what `handleWebhook` does in one piece. -/
theorem solo_delivery :
    (deliveries event).solo (List.replicate 7 env) db (.received event) =
      ((handleVerified env event db).2, .returned (handleVerified env event db).1) := by
  rw [List.replicate_succ, Machine.solo]
  simp only [deliveries, Delivery.step, handleVerified]
  cases findWebhookEvent event.id db with
  | some existing =>
    dsimp only
    split_ifs
    · exact Machine.solo_returned _ (fun _ ↦ rfl) _
    · exact solo_recorded
  | none =>
    rw [List.replicate_succ]
    simp only [Machine.solo]
    cases createWebhookEvent env event db with
    | error err => exact Machine.solo_returned _ (fun _ ↦ rfl) _
    | ok db' => exact solo_recorded

end Solo

/-- Between reading the event row and its last write a delivery works on the row. -/
def Delivery.works : Delivery → Bool
  | recorded .. | planned .. | logging .. | handled .. | failing .. => true
  | received _ | unrecorded _ | returned _ => false

def Delivery.committed : Delivery → Bool
  | logging .. | handled .. => true
  | _ => false

theorem Delivery.works_of_committed {t : Delivery} (h : t.committed = true) : t.works = true := by
  cases t <;> simp_all [committed, works]

/-- No delivery reads the row of the event unfinished while another works on it. -/
def ReadsAlone (p : Pool Db Delivery) : Move Delivery Env → Prop
  | .run i _ => ∀ event row, p.threads[i]? = some (.received event) →
      findWebhookEvent event.id p.shared = some row → row.processingStatus ≠ .processed →
      ∀ t ∈ p.threads, t.works = false
  | _ => True

def paymentsOfInvoice (invoiceId : String) (db : Db) : ℕ :=
  db.payments.rows.countP fun p ↦ p.stripeInvoiceId == some invoiceId

def renewals (db : Db) : ℕ :=
  db.outboxEvents.rows.countP fun e ↦ e.eventType == "SUBSCRIPTION_RENEWED"

/-- The row of the event with this key is in the table. -/
def Recorded (event : PaymentWebhookEvent) (recordId : String) (db : Db) : Prop :=
  ∃ row ∈ db.stripeWebhookEvents.rows, row.id = recordId ∧ row.providerEventId = event.id

def Settled (event : PaymentWebhookEvent) (db : Db) : Prop :=
  ∃ row ∈ db.stripeWebhookEvents.rows,
    row.providerEventId = event.id ∧ row.processingStatus = .processed

/-- What a delivery knows at the statement it has reached. -/
def Delivery.Sound (event : PaymentWebhookEvent) (db : Db) : Delivery → Prop
  | received e | unrecorded e => e = event
  | recorded e recordId | logging e recordId _ | handled e recordId | failing e recordId _ =>
    e = event ∧ Recorded event recordId db
  | planned e recordId commit =>
    e = event ∧ Recorded event recordId db ∧ ∃ db₀, dispatchReads event db₀ = .ok commit
  | returned _ => True

section Rows

variable {event : PaymentWebhookEvent} {env : Env} {recordId : String} {db db' : Db}

theorem mark_rows {f : StripeWebhookEvent → StripeWebhookEvent}
    (h : modify stripeWebhookEventTable recordId f db = .ok db') :
    ∃ t, db' = { db with stripeWebhookEvents := t } ∧
      t.rows = Table.updateRows recordId f db.stripeWebhookEvents.rows := by
  obtain ⟨t, ⟨_, ht⟩, rfl⟩ := (modify_eq_ok _).mp h
  exact ⟨t, rfl, ht⟩

theorem create_rows (h : createWebhookEvent env event db = .ok db') :
    ∃ t row, db' = { db with stripeWebhookEvents := t } ∧
      t.rows = db.stripeWebhookEvents.rows ++ [row] ∧ row.id = env.eventRowId ∧
      row.providerEventId = event.id ∧ row.provider = "stripe" ∧
      row.processingStatus = .pending := by
  obtain ⟨t, ht, rfl⟩ := (insert_eq_ok _).mp h
  exact ⟨t, _, rfl, ht, rfl, rfl, rfl, rfl⟩

/-- Outside its transaction a delivery writes only events and audit logs. -/
theorem Delivery.Next.frame {d d' : Delivery} (h : d.Next env db db' d') :
    (∃ t a, db' = { db with
      stripeWebhookEvents := t
      auditLogs := a }) ∨
    ∃ event recordId commit entry, d = .planned event recordId commit ∧
      commit env db = .ok (db', entry) := by
  have hkept : ∃ t a, db = { db with
      stripeWebhookEvents := t
      auditLogs := a } := ⟨_, _, rfl⟩
  have hmark {recordId : String} {f : StripeWebhookEvent → StripeWebhookEvent}
      (hm : modify stripeWebhookEventTable recordId f db = .ok db') :
      ∃ t a, db' = { db with
        stripeWebhookEvents := t
        auditLogs := a } := by
    obtain ⟨t, rfl, _⟩ := mark_rows hm
    exact ⟨t, db.auditLogs, rfl⟩
  cases h with
  | skip | resume | miss | refuse | plan | unread | unfinished | lost | abort => exact .inl hkept
  | record hcreate =>
    obtain ⟨t, _, rfl, _⟩ := create_rows hcreate
    exact .inl ⟨t, db.auditLogs, rfl⟩
  | commit hrun | announce hrun => exact .inr ⟨_, _, _, _, rfl, hrun⟩
  | @log _ _ entry =>
    obtain ⟨a, ha⟩ := AuditService.log_frame env entry db
    exact .inl ⟨db.stripeWebhookEvents, a, ha⟩
  | finish hm => exact .inl (hmark hm)
  | fail hm => exact .inl (hmark hm)

/-- The row of an event is created once. -/
theorem create_absent (h : createWebhookEvent env event db = .ok db') :
    ∀ row ∈ db.stripeWebhookEvents.rows, row.providerEventId ≠ event.id := by
  obtain ⟨t, row, rfl, ht, _, hevent, _⟩ := create_rows h
  intro r hr he
  have hmem : r ∈ t.rows := by rw [ht]; exact List.mem_append_left _ hr
  have hnew : row ∈ t.rows := by rw [ht]; simp
  have heq : r = row := t.eq_of_unique (u := fun e : StripeWebhookEvent ↦ some e.providerEventId)
    (by simp [Row.uniques]) hmem hnew rfl (by rw [hevent, he])
  have hp := t.apart
  rw [ht, List.pairwise_append] at hp
  have hc := hp.2.2 r hr row (by simp)
  rw [heq, clash_of_id rfl] at hc
  cases hc

theorem Recorded.mark {f : StripeWebhookEvent → StripeWebhookEvent} {k : String}
    (hr : Recorded event recordId db) {t : Table StripeWebhookEvent}
    (ht : t.rows = Table.updateRows k f db.stripeWebhookEvents.rows)
    (hid : ∀ e, (f e).id = e.id) (hevent : ∀ e, (f e).providerEventId = e.providerEventId) :
    Recorded event recordId { db with stripeWebhookEvents := t } := by
  obtain ⟨row, hrow, rfl, he⟩ := hr
  by_cases hk : row.id = k
  · exact ⟨f row, by rw [ht]; exact Table.mem_updateRows.mpr (.inl ⟨row, hrow, hk, rfl⟩),
      hid row, by rw [hevent, he]⟩
  · exact ⟨row, by rw [ht]; exact Table.mem_updateRows.mpr (.inr ⟨hrow, hk⟩), rfl, he⟩

/-- Marking the row of an event processed settles it. -/
theorem settled_of_mark (hr : Recorded event recordId db)
    (h : markProcessed env recordId db = .ok db') : Settled event db' := by
  obtain ⟨t, rfl, ht⟩ := mark_rows h
  obtain ⟨row, hrow, hid, he⟩ := hr
  exact ⟨asProcessed env row, ht ▸ Table.mem_updateRows.mpr (.inl ⟨row, hrow, hid, rfl⟩), he, rfl⟩

/-- A row that is there can be marked. -/
theorem mark_succeeds {f : StripeWebhookEvent → StripeWebhookEvent}
    (hr : Recorded event recordId db) (hid : ∀ e, (f e).id = e.id)
    (hevent : ∀ e, (f e).providerEventId = e.providerEventId) :
    ∃ db', modify stripeWebhookEventTable recordId f db = .ok db' := by
  obtain ⟨row, hrow, hrid, _⟩ := hr
  obtain ⟨t, ht⟩ := Table.update_succeeds (t := db.stripeWebhookEvents) ⟨row, hrow, hrid⟩ hid
    (by simpa [Row.uniques] using hevent)
  exact ⟨{ db with stripeWebhookEvents := t }, (modify_eq_ok _).mpr
    ⟨t, Table.update_eq_ok.mp ht, rfl⟩⟩

/-- A paid invoice adds at most one payment and one announcement. -/
theorem invoice_commit (htype : event.type = "invoice.paid") {db₀ : Db} {commit : Commit}
    (hr : dispatchReads event db₀ = .ok commit) {entry : Option CreateAuditLogParams}
    (hc : commit env db = .ok (db', entry)) (invoiceId : String) :
    db'.stripeWebhookEvents = db.stripeWebhookEvents ∧
      paymentsOfInvoice invoiceId db' ≤ paymentsOfInvoice invoiceId db + 1 ∧
      renewals db' ≤ renewals db + 1 := by
  have hp : Plans (eventObject event) db₀ .invoicePaid commit := by
    apply plans_of_reads
    simpa only [dispatchReads, dispatchTarget, htype, handlerFor, Option.map_some] using hr
  refine ⟨hp.stripeWebhookEvents hc, ?_⟩
  cases hp with
  | nothing =>
    rw [(noCommit_eq_ok.mp hc).1]
    exact ⟨Nat.le_succ _, Nat.le_succ _⟩
  | invoice =>
    obtain ⟨_, terms, _, h⟩ := recordInvoice_eq_ok.mp hc
    simp only [paymentsOfInvoice, renewals, h.payments, h.outbox, List.countP_append,
      List.countP_singleton]
    constructor <;> split_ifs <;> omega

end Rows

section Once

variable (event : PaymentWebhookEvent) (invoiceId : String) (n : ℕ)

/-- Nothing of the event has reached the database. -/
def Untouched (db : Db) : Prop := paymentsOfInvoice invoiceId db = 0 ∧ renewals db = n

/-- The event has reached the database at most once. -/
def AtMostOnce (db : Db) : Prop := paymentsOfInvoice invoiceId db ≤ 1 ∧ renewals db ≤ n + 1

/-- One delivery at a time works on the event, and until its transaction the
database is untouched. -/
structure InTurn (p : Pool Db Delivery) : Prop where
  alone : ∀ (i j : ℕ) (t u : Delivery), p.threads[i]? = some t → p.threads[j]? = some u →
    t.works = true → u.works = true → i = j
  sound : ∀ (i : ℕ) (t : Delivery), p.threads[i]? = some t → t.Sound event p.shared
  fresh : ∀ (i : ℕ) (t : Delivery), p.threads[i]? = some t → t.works = true → t.committed = false →
    Untouched invoiceId n p.shared
  settled : Untouched invoiceId n p.shared ∨ Settled event p.shared ∨
    ∃ (i : ℕ) (t : Delivery), p.threads[i]? = some t ∧ t.committed = true
  bounded : AtMostOnce invoiceId n p.shared

variable {event invoiceId n} {p : Pool Db Delivery} {i : ℕ} {t t' : Delivery} {db' : Db}

/-- A step of one delivery keeps the turn if it keeps what the others know, and
if the delivery takes up work only while nobody else works. -/
theorem InTurn.set (h : InTurn event invoiceId n p) (ht : p.threads[i]? = some t)
    (hwork : t'.works = true → t.works = true ∨ ∀ u ∈ p.threads, u.works = false)
    (hsound : t'.Sound event db') (hothers : ∀ u : Delivery, u.Sound event p.shared → u.Sound event db')
    (hfresh : t'.works = true → t'.committed = false → Untouched invoiceId n db')
    (hkeep : t.works = true ∨ (Untouched invoiceId n p.shared → Untouched invoiceId n db'))
    (hsettled : Untouched invoiceId n db' ∨ Settled event db' ∨ t'.committed = true ∨
      t.committed = false ∧ ∃ (j : ℕ) (u : Delivery), p.threads[j]? = some u ∧ u.committed = true)
    (hbounded : AtMostOnce invoiceId n db') :
    InTurn event invoiceId n ⟨db', p.threads.set i t'⟩ := by
  have hi : i < p.threads.length := (List.getElem?_eq_some_iff.mp ht).1
  have hself : (p.threads.set i t')[i]? = some t' := by rw [List.getElem?_set_self hi]
  refine ⟨?_, ?_, ?_, ?_, hbounded⟩
  · intro j k u v hj hk hu hv
    rcases getElem?_set_cases hj with ⟨rfl, rfl⟩ | ⟨_, hj'⟩ <;>
      rcases getElem?_set_cases hk with ⟨rfl, rfl⟩ | ⟨_, hk'⟩
    · rfl
    · rcases hwork hu with hw | hw
      · exact h.alone _ _ _ _ ht hk' hw hv
      · simp [hw v (List.mem_of_getElem? hk')] at hv
    · rcases hwork hv with hw | hw
      · exact h.alone _ _ _ _ hj' ht hu hw
      · simp [hw u (List.mem_of_getElem? hj')] at hu
    · exact h.alone _ _ _ _ hj' hk' hu hv
  · intro j u hj
    rcases getElem?_set_cases hj with ⟨rfl, rfl⟩ | ⟨_, hj⟩
    · exact hsound
    · exact hothers u (h.sound j u hj)
  · intro j u hj hu hc
    rcases getElem?_set_cases hj with ⟨rfl, rfl⟩ | ⟨hji, hj⟩
    · exact hfresh hu hc
    · rcases hkeep with hw | hk
      · exact absurd (h.alone _ _ _ _ hj ht hu hw) hji
      · exact hk (h.fresh j u hj hu hc)
  · rcases hsettled with hs | hs | hs | ⟨htc, j, u, hj, hu⟩
    · exact .inl hs
    · exact .inr (.inl hs)
    · exact .inr (.inr ⟨i, t', hself, hs⟩)
    · refine .inr (.inr ⟨j, u, ?_, hu⟩)
      have hne : i ≠ j := by
        rintro rfl
        rw [ht, Option.some.injEq] at hj
        simp [hj, hu] at htc
      rw [List.getElem?_set_ne hne]
      exact hj

theorem Delivery.Sound.of_events {u : Delivery} {db : Db} (hu : u.Sound event db)
    (he : ∀ recordId, Recorded event recordId db → Recorded event recordId db') :
    u.Sound event db' := by
  cases u with
  | received | unrecorded | returned => exact hu
  | recorded | logging | handled | failing => exact ⟨hu.1, he _ hu.2⟩
  | planned => exact ⟨hu.1, he _ hu.2.1, hu.2.2⟩

theorem not_settled_of_find {db : Db} {row : StripeWebhookEvent}
    (h : findWebhookEvent event.id db = some row) (hp : row.processingStatus ≠ .processed) :
    ¬Settled event db := by
  rintro ⟨r, hr, he, hs⟩
  obtain ⟨hm, hk⟩ := Table.find?_mem h
  simp only [Bool.and_eq_true, beq_iff_eq] at hk
  have heq : row = r := db.stripeWebhookEvents.eq_of_unique
    (u := fun e : StripeWebhookEvent ↦ some e.providerEventId) (by simp [Row.uniques]) hm hr
    (by rw [hk.2]) (by rw [he])
  exact hp (heq ▸ hs)

/-- A delivery that works leaves nobody else to have committed. -/
theorem InTurn.untouched (h : InTurn event invoiceId n p) (hsettled : ¬Settled event p.shared)
    (hnone : ∀ u ∈ p.threads, u.committed = false) : Untouched invoiceId n p.shared := by
  rcases h.settled with hs | hs | ⟨j, u, hj, hu⟩
  · exact hs
  · exact absurd hs hsettled
  · simp [hnone u (List.mem_of_getElem? hj)] at hu

theorem InTurn.idle (h : InTurn event invoiceId n p) (ht : p.threads[i]? = some t)
    (hc : t.committed = false) (hw : t'.works = false) (hsound : t'.Sound event p.shared) :
    InTurn event invoiceId n ⟨p.shared, p.threads.set i t'⟩ := by
  refine h.set ht (by simp [hw]) hsound (fun _ hu ↦ hu) (by simp [hw]) (.inr id) ?_ h.bounded
  rcases h.settled with hs | hs | hs
  · exact .inl hs
  · exact .inr (.inl hs)
  · exact .inr (.inr (.inr ⟨hc, hs⟩))

/-- Before its transaction a delivery finds the database untouched and leaves it so. -/
theorem InTurn.prepare (h : InTurn event invoiceId n p) (ht : p.threads[i]? = some t)
    (hw : t.works = true) (hc : t.committed = false) (hsound : t'.Sound event p.shared) :
    InTurn event invoiceId n ⟨p.shared, p.threads.set i t'⟩ := by
  have hfresh := h.fresh i t ht hw hc
  exact h.set ht (fun _ ↦ .inl hw) hsound (fun _ hu ↦ hu) (fun _ _ ↦ hfresh) (.inl hw)
    (.inl hfresh) h.bounded

theorem InTurn.commit (htype : event.type = "invoice.paid") (h : InTurn event invoiceId n p)
    {e : PaymentWebhookEvent} {recordId : String} {c : Commit}
    (ht : p.threads[i]? = some (.planned e recordId c)) {env : Env}
    {entry : Option CreateAuditLogParams} (hrun : c env p.shared = .ok (db', entry))
    (hc : t'.committed = true) (hsound : Recorded event recordId db' → t'.Sound event db') :
    InTurn event invoiceId n ⟨db', p.threads.set i t'⟩ := by
  obtain ⟨hzero, hn⟩ := h.fresh i _ ht rfl rfl
  obtain ⟨rfl, hrec, db₀, hreads⟩ := h.sound i _ ht
  obtain ⟨hevents, hpaid, hrenewed⟩ := invoice_commit htype hreads hrun invoiceId
  have hkeep (k : String) (hk : Recorded e k p.shared) : Recorded e k db' := by
    simpa only [Recorded, hevents] using hk
  refine h.set ht (fun _ ↦ .inl rfl) (hsound (hkeep _ hrec)) (fun u hu ↦ hu.of_events hkeep)
    (fun _ hc' ↦ ?_) (.inl rfl) (.inr (.inr (.inl hc))) ⟨by omega, by omega⟩
  simp [hc] at hc'

theorem InTurn.step (htype : event.type = "invoice.paid") (h : InTurn event invoiceId n p)
    {env : Env} (hok : ReadsAlone p (.run i env)) (ht : p.threads[i]? = some t)
    (hn : Delivery.Next env p.shared t db' t') :
    InTurn event invoiceId n ⟨db', p.threads.set i t'⟩ := by
  have hsound := h.sound i t ht
  cases hn with
  | skip | refuse => exact h.idle ht rfl rfl trivial
  | miss => exact h.idle ht rfl rfl hsound
  | @resume e row hf hp =>
    have hidle := hok e row ht hf hp
    have he : e = event := hsound
    subst he
    have hu := h.untouched (not_settled_of_find hf hp) fun u hm ↦ by
      by_contra hc
      have hw := Delivery.works_of_committed (by simpa using hc)
      simp [hidle u hm] at hw
    obtain ⟨hm, hk⟩ := Table.find?_mem hf
    simp only [Bool.and_eq_true, beq_iff_eq] at hk
    exact h.set ht (fun _ ↦ .inr hidle) ⟨rfl, row, hm, rfl, hk.2⟩ (fun _ hu ↦ hu) (fun _ _ ↦ hu)
      (.inr id) (.inl hu) h.bounded
  | @record e _ hcreate =>
    have he : e = event := hsound
    subst he
    have habsent := create_absent hcreate
    have hidle : ∀ u ∈ p.threads, u.works = false := by
      intro u hm
      obtain ⟨j, hj⟩ := List.getElem?_of_mem hm
      have hs := h.sound j u hj
      by_contra hw
      have hrec : ∃ k, Recorded e k p.shared := by
        cases u with
        | received | unrecorded | returned => simp [Delivery.works] at hw
        | recorded | logging | handled | failing => exact ⟨_, hs.2⟩
        | planned => exact ⟨_, hs.2.1⟩
      obtain ⟨k, row, hrow, _, hevent⟩ := hrec
      exact habsent row hrow hevent
    have hu := h.untouched (fun ⟨row, hrow, hevent, _⟩ ↦ habsent row hrow hevent) fun u hm ↦ by
      by_contra hc
      have hw := Delivery.works_of_committed (by simpa using hc)
      simp [hidle u hm] at hw
    obtain ⟨t, row, rfl, hrows, hid, hevent, _⟩ := create_rows hcreate
    refine h.set ht (fun _ ↦ .inr hidle) ⟨rfl, row, by simp [hrows], hid, hevent⟩
      (fun u hu ↦ hu.of_events ?_) (fun _ _ ↦ hu) (.inr id) (.inl hu) h.bounded
    rintro k ⟨r, hr, hrk⟩
    exact ⟨r, by simp [hrows, hr], hrk⟩
  | plan hr => exact h.prepare ht rfl rfl ⟨hsound.1, hsound.2, p.shared, hsound.1 ▸ hr⟩
  | unread => exact h.prepare ht rfl rfl hsound
  | abort => exact h.prepare ht rfl rfl ⟨hsound.1, hsound.2.1⟩
  | commit hrun => exact h.commit htype ht hrun rfl fun hr ↦ ⟨hsound.1, hr⟩
  | announce hrun => exact h.commit htype ht hrun rfl fun hr ↦ ⟨hsound.1, hr⟩
  | @log _ _ entry =>
    obtain ⟨logs, hlog⟩ := AuditService.log_frame env entry p.shared
    rw [hlog]
    exact h.set ht (fun _ ↦ .inl rfl) hsound (fun _ hu ↦ hu.of_events fun _ hr ↦ hr)
      (by simp [Delivery.committed]) (.inl rfl) (.inr (.inr (.inl rfl))) h.bounded
  | finish hmark =>
    have hs := settled_of_mark hsound.2 hmark
    obtain ⟨t, rfl, hrows⟩ := mark_rows hmark
    exact h.set ht (by simp [Delivery.works]) trivial
      (fun _ hu ↦ hu.of_events fun _ hr ↦ hr.mark hrows (fun _ ↦ rfl) fun _ ↦ rfl)
      (by simp [Delivery.works]) (.inl rfl) (.inr (.inl hs)) h.bounded
  | unfinished hmark =>
    obtain ⟨db₁, hdb₁⟩ := mark_succeeds (f := asProcessed env) hsound.2 (fun _ ↦ rfl) fun _ ↦ rfl
    rw [markProcessed, hdb₁] at hmark
    cases hmark
  | fail hmark =>
    have hu := h.fresh i _ ht rfl rfl
    obtain ⟨t, rfl, hrows⟩ := mark_rows hmark
    exact h.set ht (by simp [Delivery.works]) trivial
      (fun _ hu ↦ hu.of_events fun _ hr ↦ hr.mark hrows (fun _ ↦ rfl) fun _ ↦ rfl)
      (by simp [Delivery.works]) (.inl rfl) (.inl hu) h.bounded
  | lost => exact h.idle ht rfl rfl trivial

theorem InTurn.spawn (h : InTurn event invoiceId n p) :
    InTurn event invoiceId n ⟨p.shared, p.threads ++ [.received event]⟩ := by
  refine ⟨fun j k u v hj hk hu hv ↦ ?_, fun j u hj ↦ ?_, fun j u hj hu hc ↦ ?_, ?_, h.bounded⟩
  · rcases getElem?_append_singleton_cases hj with ⟨_, rfl⟩ | hj
    · cases hu
    rcases getElem?_append_singleton_cases hk with ⟨_, rfl⟩ | hk
    · cases hv
    exact h.alone j k u v hj hk hu hv
  · rcases getElem?_append_singleton_cases hj with ⟨_, rfl⟩ | hj
    · rfl
    · exact h.sound j u hj
  · rcases getElem?_append_singleton_cases hj with ⟨_, rfl⟩ | hj
    · cases hu
    · exact h.fresh j u hj hu hc
  · rcases h.settled with hs | hs | ⟨j, u, hj, hu⟩
    · exact .inl hs
    · exact .inr (.inl hs)
    · refine .inr (.inr ⟨j, u, ?_, hu⟩)
      rw [List.getElem?_append_left (List.getElem?_eq_some_iff.mp hj).1, hj]

end Once

/-- However the deliveries of a paid invoice interleave, if none of them reads
the event row unfinished while another works on it, the invoice is recorded and
announced at most once. -/
theorem invoice_paid_once {event : PaymentWebhookEvent} (htype : event.type = "invoice.paid")
    {db₀ : Db} {invoiceId : String}
    (hinvoice : paymentsOfInvoice invoiceId db₀ = 0) {p : Pool Db Delivery}
    (h : Reach (deliveries event).Step ReadsAlone (fun q ↦ q = ⟨db₀, []⟩) p) :
    paymentsOfInvoice invoiceId p.shared ≤ 1 ∧ renewals p.shared ≤ renewals db₀ + 1 := by
  have hturn : InTurn event invoiceId (renewals db₀) p := by
    refine h.invariant ?_ ?_
    · rintro q rfl
      exact ⟨by simp, by simp, by simp, .inl ⟨hinvoice, rfl⟩, by simp [hinvoice],
        Nat.le_succ _⟩
    · rintro q a r hq hok hs
      cases hs with
      | spawn ht =>
        rw [show _ = Delivery.received event from ht]
        exact hq.spawn
      | run ht hstep => exact hq.step htype hok ht (Delivery.next_of_step hstep)
      | world hw => exact hw.elim
  exact hturn.bounded

def monthlyPrice : Money := ⟨10000, Money.fits_hundred⟩

def monthlyPlan : SubscriptionPlanConfig :=
  ⟨"config-1", .sponsorMonthly, "Sponsor Monthly", "SPONSOR", none, monthlyPrice, "SAR", .month,
    true⟩

def subscribed : Subscription where
  id := "subscription-1"
  userId := "user-1"
  sponsorProfileId := none
  vendorProfileId := none
  planConfigId := "config-1"
  plan := .sponsorMonthly
  status := .active
  amount := monthlyPrice
  currency := "SAR"
  interval := .month
  stripeCustomerId := "cus_1"
  stripeSubscriptionId := "sub_1"
  currentPeriodStart := none
  currentPeriodEnd := none
  cancelAtPeriodEnd := false
  canceledAt := none

/-- One user with one subscription. -/
def subscribedDb : Db :=
  { Db.empty with
    users := .singleton ⟨"user-1", "user@example.com", .active, none, ["SPONSOR"]⟩
    subscriptionPlanConfigs := .singleton monthlyPlan
    subscriptions := .singleton subscribed }

def renewal : PaymentWebhookEvent :=
  ⟨"evt_1", "invoice.paid",
    .obj [("id", .str "in_1"), ("subscription", .str "sub_1"), ("amount_paid", .num 10000)]⟩

/-- One delivery of a renewal, from the first statement to the last. -/
theorem renewal_paid_once : ∃ p : Pool Db Delivery,
    paymentsOfInvoice "in_1" p.shared = 1 ∧
      paymentsOfInvoice "in_1" p.shared ≤ 1 ∧ renewals p.shared ≤ renewals subscribedDb + 1 := by
  have hstart : Reach (deliveries renewal).Step ReadsAlone (fun q ↦ q = ⟨subscribedDb, []⟩)
      ⟨subscribedDb, [.received renewal]⟩ :=
    .next (a := .spawn (.received renewal)) (.start rfl) trivial (.spawn rfl)
  have hrun : ((deliveries renewal).play (fun r _ _ ↦ r.threads.length == 1)
      (List.replicate 5 (0, Env.offline 0 "a" "b")) ⟨subscribedDb, [.received renewal]⟩).any
        (fun p ↦ paymentsOfInvoice "in_1" p.shared == 1) = true := by decide +kernel
  obtain ⟨p, hp, hone⟩ := (Option.any_eq_true ..).mp hrun
  have hreach := Machine.reach_play (fun r i e hr event row hi _ _ t ht ↦ ?_) hstart hp
  · exact ⟨p, by simpa using hone, invoice_paid_once rfl (by decide) hreach⟩
  · obtain ⟨u, hu⟩ := List.length_eq_one_iff.mp (beq_iff_eq.mp hr)
    rw [hu] at hi ht
    have hevent := List.mem_singleton.mp (List.mem_of_getElem? hi)
    rw [List.mem_singleton.mp ht, ← hevent]
    rfl

/-- Two deliveries of a renewal record it twice when the second reads the event
row before the first has marked it. -/
theorem renewal_paid_twice : ∃ p : Pool Db Delivery,
    Reach (deliveries renewal).Step (fun _ _ ↦ True) (fun q ↦ q = ⟨subscribedDb, []⟩) p ∧
      findWebhookEvent renewal.id subscribedDb = none ∧
      paymentsOfInvoice "in_1" subscribedDb = 0 ∧
      paymentsOfInvoice "in_1" p.shared = 2 ∧ renewals p.shared = renewals subscribedDb + 2 := by
  have hspawn : ∀ t ∈ [Delivery.received renewal, .received renewal],
      (deliveries renewal).start t := by simp [deliveries]
  have hinit : Reach (deliveries renewal).Step (fun _ _ ↦ True) (fun q ↦ q = ⟨subscribedDb, []⟩)
      ⟨subscribedDb, []⟩ := .start rfl
  have hstart := Machine.reach_spawnAll (fun _ _ _ ↦ trivial) hspawn hinit
  have hrun : ((deliveries renewal).play (fun _ _ _ ↦ true)
      [(0, .offline 0 "a" "b"), (0, .offline 0 "a" "b"), (1, .offline 0 "c" "d"),
        (0, .offline 0 "a" "b"), (0, .offline 0 "a" "b"), (1, .offline 0 "c" "d"),
        (1, .offline 0 "c" "d"), (0, .offline 0 "a" "b"), (1, .offline 0 "c" "d")]
      ⟨subscribedDb, [.received renewal, .received renewal]⟩).any
        (fun p ↦ paymentsOfInvoice "in_1" p.shared == 2 && renewals p.shared == 2) = true := by
    decide +kernel
  obtain ⟨p, hp, htwo⟩ := (Option.any_eq_true ..).mp hrun
  simp only [Bool.and_eq_true, beq_iff_eq] at htwo
  exact ⟨p, Machine.reach_play (fun _ _ _ _ ↦ trivial) hstart hp, rfl, rfl, htwo.1, htwo.2⟩

end StripeWebhookService

end Innovents.Payments
