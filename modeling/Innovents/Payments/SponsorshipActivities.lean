import Innovents.Payments.PaymentRuns
import Innovents.Payments.WebhookDelivery
import Innovents.Communities.SponsorshipExpiration

namespace Innovents.Payments

open Innovents.Lib PaymentsService PaymentReconciliationService StripeWebhookService
open Innovents.Communities.CommunitySponsorshipExpirationService

/-- A call that works on sponsorships and their payments, as far as it has come. -/
inductive Activity
  | checkout (c : Service CheckoutSessionResponseDto)
  | delivery (d : Delivery)
  | reconciliation (c : Service ReconciliationReportDto)
  | refund (c : Service Payment)
  | sweep (c : Service ℕ)

/-- The database and the clock. -/
structure World where
  db : Db
  clock : Time

namespace Activity

inductive Starts : Activity → Prop
  | checkout (userId : String) (dto : CreateCommunitySponsorshipCheckoutDto) :
      Starts (.checkout (createCommunitySponsorshipCheckout userId dto))
  | delivery (event : PaymentWebhookEvent) : Starts (.delivery (.received event))
  | reconciliation (dto : ReconcileQueryDto) :
      Starts (.reconciliation (reconcileStalePendingPayments dto))
  | refund (paymentId adminUserId : String) (dto : AdminRefundDto) :
      Starts (.refund (refundPayment paymentId adminUserId dto))
  | sweep : Starts (.sweep sweepExpiredSponsorships)

def step (env : Env) (db : Db) : Activity → Option (Db × Activity)
  | checkout c => (c.step env db).map fun (db, c) ↦ (db, checkout c)
  | delivery d => (d.step env db).map fun (db, d) ↦ (db, delivery d)
  | reconciliation c => (c.step env db).map fun (db, c) ↦ (db, reconciliation c)
  | refund c => (c.step env db).map fun (db, c) ↦ (db, refund c)
  | sweep c => (c.step env db).map fun (db, c) ↦ (db, sweep c)

end Activity

/-- Any number of activities side by side, while time passes. -/
def activities : Machine World Activity Env where
  start := Activity.Starts
  step env w t := (t.step { env with now := w.clock } w.db).map fun (db, t) ↦ (⟨db, w.clock⟩, t)
  world w w' := w'.db = w.db ∧ w.clock ≤ w'.clock

namespace StripeWebhookService

/-- The community that the session of an event sponsors with its payment. -/
def sponsoredCommunity (event : PaymentWebhookEvent) (payment : Payment) : Except Err String :=
  textArg (((((eventObject event).get "metadata").or (.obj [])).get "communityId").or
    (payment.metadataField PaymentMetadata.communityId))

/-- What the transaction of an event writes to payments, sponsorships and communities. -/
inductive CommitWrite (env : Env) (event : PaymentWebhookEvent) (db db' : Db) : Prop
  | recorded {added : List Payment} : (∀ p ∈ added, p.purpose = .subscription) →
      db'.payments.rows = db.payments.rows ++ added →
      db'.communitySponsorships = db.communitySponsorships → db'.communities = db.communities →
      CommitWrite env event db db'
  | activated {payment : Payment} {terms : ActivationTerms} :
      activatedPayment event db = some payment → payment ∈ db.payments.rows →
      activationTerms env (eventObject event) payment db = .ok terms →
      Activated env (eventObject event) payment terms db db' → CommitWrite env event db db'
  | refunded {id : String} {refundAmount : Money} :
      db'.payments.rows = Table.updateRows id (markRefunded env refundAmount) db.payments.rows →
      db'.communitySponsorships = db.communitySponsorships → db'.communities = db.communities →
      CommitWrite env event db db'

/-- The transaction that a delivery is about to run has been planned for its event. -/
def Delivery.Planned : Delivery → Prop
  | planned event _ commit => ∃ db₀, dispatchReads event db₀ = .ok commit
  | _ => True

variable {env : Env} {db db' : Db}

theorem sponsoredCommunity_of_terms {event : PaymentWebhookEvent} {payment : Payment}
    {terms : ActivationTerms} (h : activationTerms env (eventObject event) payment db = .ok terms) :
    sponsoredCommunity event payment = .ok terms.parties.communityId := by
  simp only [activationTerms, bind_eq_ok, pure_eq_ok] at h
  obtain ⟨_, _, _, _, parties, hparties, _, _, rfl⟩ := h
  simp only [sponsorshipParties, bind_eq_ok, pure_eq_ok] at hparties
  obtain ⟨_, hcommunity, _, _, _, _, _, _, _, _, rfl⟩ := hparties
  exact hcommunity

theorem commit_writes {event : PaymentWebhookEvent} {commit : Commit} {db₀ : Db}
    {entry : Option CreateAuditLogParams} (hr : dispatchReads event db₀ = .ok commit)
    (hc : commit env db = .ok (db', entry)) : CommitWrite env event db db' := by
  have hquiet (hp : db'.payments = db.payments)
      (hs : db'.communitySponsorships = db.communitySponsorships)
      (hcom : db'.communities = db.communities) : CommitWrite env event db db' := by
    have hrows : db'.payments.rows = db.payments.rows ++ [] := by rw [hp, List.append_nil]
    exact .recorded (by simp) hrows hs hcom
  simp only [dispatchReads, dispatchTarget] at hr
  cases hh : handlerFor event.type with
  | none =>
    rw [hh] at hr
    cases hr
    obtain ⟨rfl, _⟩ := noCommit_eq_ok.mp hc
    exact hquiet rfl rfl rfl
  | some h =>
    rw [hh] at hr
    cases (plans_of_reads hr).written hc with
    | nothing he =>
      subst he
      exact hquiet rfl rfl rfl
    | activation hpays hpayment hs hterms hact =>
      refine .activated ?_ (sessionPayment_mem hpayment) hterms hact
      rw [activatedPayment, if_pos ⟨hh, hpays⟩, hpayment]
      simp [Except.toOption, Option.filter, hs]
    | subscription _ _ _ hsub =>
      refine .recorded (fun p hp ↦ ?_) hsub.payments hsub.sponsorships (by rw [hsub.frame])
      rw [List.mem_singleton.mp hp]
      rfl
    | change _ hframe =>
      rw [hframe] at hquiet ⊢
      exact hquiet rfl rfl rfl
    | invoice _ _ hinv =>
      refine .recorded (fun p hp ↦ ?_) hinv.payments hinv.sponsorships (by rw [hinv.frame])
      rw [List.mem_singleton.mp hp]
      rfl
    | refund _ _ _ href =>
      exact .refunded href.payments href.sponsorships (by rw [href.frame])

/-- An uninterrupted delivery writes what the transaction of its event writes, and
otherwise only events and audit logs. -/
theorem handleVerified_commits (env : Env) (event : PaymentWebhookEvent) (db : Db) :
    ∃ t₀ db₁ t a, (handleVerified env event db).2 = db₁.withLogs t a ∧
      CommitWrite env event (db.withLogs t₀ db.auditLogs) db₁ := by
  have hdelivered := handleVerified_delivered env event db
  generalize (handleVerified env event db).1 = r at hdelivered
  generalize (handleVerified env event db).2 = db' at hdelivered ⊢
  cases hdelivered with
  | @unhandled t _ =>
    have hrows : db.payments.rows = db.payments.rows ++ [] := by rw [List.append_nil]
    exact ⟨db.stripeWebhookEvents, db, t, db.auditLogs, rfl, .recorded (by simp) hrows rfl rfl⟩
  | @handled h commit db₁ e t₀ t a hh hr hc =>
    have hread : dispatchReads event db = .ok commit := by
      simp only [dispatchReads, dispatchTarget, hh, Option.map_some]
      exact hr
    exact ⟨t₀, db₁, t, a, rfl, commit_writes hread hc⟩

end StripeWebhookService

namespace Activity

/-- What the next move of an activity writes. -/
inductive Writes (env : Env) (db db' : Db) : Activity → Prop
  | checkout {c : Service CheckoutSessionResponseDto} : CheckoutWrite db db' →
      Writes env db db' (.checkout c)
  | aside {d : Delivery} : db'.payments = db.payments →
      db'.communitySponsorships = db.communitySponsorships → db'.communities = db.communities →
      Writes env db db' (.delivery d)
  | commit {event : PaymentWebhookEvent} {recordId : String} {commit : Commit} :
      CommitWrite env event db db' → Writes env db db' (.delivery (.planned event recordId commit))
  | reconciliation {c : Service ReconciliationReportDto} {l : Request} : c.label? = some l →
      ReconcileWrite l db db' → Writes env db db' (.reconciliation c)
  | refund {c : Service Payment} : RefundWrite db db' → Writes env db db' (.refund c)
  | sweep {c : Service ℕ} {now : Time} : SweepWrite now db db' → Writes env db db' (.sweep c)

/-- Every request an activity has still to make writes what its operation may write. -/
def Sound : Activity → Prop
  | checkout c => c.Each fun _ ↦ CheckoutWrite
  | delivery d => d.Planned
  | reconciliation c => c.Each ReconcileWrite
  | refund c => c.Each fun _ ↦ RefundWrite
  | sweep c => c.Each fun _ db db' ↦ ∃ now, SweepWrite now db db'

theorem Starts.sound {t : Activity} (h : Starts t) : t.Sound := by
  cases h with
  | checkout userId dto => exact checkout_writes userId dto
  | delivery event => trivial
  | reconciliation dto => exact reconcile_writes dto
  | refund paymentId adminUserId dto => exact refund_writes paymentId adminUserId dto
  | sweep => exact sweep_writes

variable {env : Env} {db db' : Db}

theorem delivery_step {d d' : Delivery} (h : d.Planned) (hs : d.Next env db db' d') :
    Writes env db db' (.delivery d) ∧ d'.Planned := by
  have hmark {recordId : String} {f : StripeWebhookEvent → StripeWebhookEvent}
      (hm : modify stripeWebhookEventTable recordId f db = .ok db') :
      Writes env db db' (.delivery d) := by
    obtain ⟨t, rfl, _⟩ := mark_rows hm
    exact .aside rfl rfl rfl
  cases hs with
  | skip | resume | miss | refuse | unread | unfinished | lost | abort =>
    exact ⟨.aside rfl rfl rfl, trivial⟩
  | plan hr => exact ⟨.aside rfl rfl rfl, _, hr⟩
  | record hcreate =>
    obtain ⟨t, _, rfl, _⟩ := create_rows hcreate
    exact ⟨.aside rfl rfl rfl, trivial⟩
  | commit hrun | announce hrun =>
    obtain ⟨db₀, hr⟩ := h
    exact ⟨.commit (commit_writes hr hrun), trivial⟩
  | @log _ _ entry =>
    obtain ⟨logs, hlog⟩ := AuditService.log_frame env entry db
    rw [hlog]
    exact ⟨.aside rfl rfl rfl, trivial⟩
  | finish hm => exact ⟨hmark hm, trivial⟩
  | fail hm => exact ⟨hmark hm, trivial⟩

theorem step_writes {t t' : Activity} (h : t.Sound) (hs : t.step env db = some (db', t')) :
    Writes env db db' t ∧ t'.Sound := by
  cases t with
  | checkout c =>
    obtain ⟨q, hq, he⟩ := Option.map_eq_some_iff.mp hs
    cases he
    obtain ⟨⟨_, _, hw⟩, hrest⟩ := Call.Each.step h hq
    exact ⟨.checkout hw, hrest⟩
  | delivery d =>
    obtain ⟨q, hq, he⟩ := Option.map_eq_some_iff.mp hs
    cases he
    exact delivery_step h (Delivery.next_of_step hq)
  | reconciliation c =>
    obtain ⟨q, hq, he⟩ := Option.map_eq_some_iff.mp hs
    cases he
    obtain ⟨⟨_, hl, hw⟩, hrest⟩ := Call.Each.step h hq
    exact ⟨.reconciliation hl hw, hrest⟩
  | refund c =>
    obtain ⟨q, hq, he⟩ := Option.map_eq_some_iff.mp hs
    cases he
    obtain ⟨⟨_, _, hw⟩, hrest⟩ := Call.Each.step h hq
    exact ⟨.refund hw, hrest⟩
  | sweep c =>
    obtain ⟨q, hq, he⟩ := Option.map_eq_some_iff.mp hs
    cases he
    obtain ⟨⟨_, _, _, hw⟩, hrest⟩ := Call.Each.step h hq
    exact ⟨.sweep hw, hrest⟩

/-- What every move keeps, holds in every state that is reached. -/
theorem invariant {J : World → Prop} {ok : Pool World Activity → Move Activity Env → Prop}
    {init : Pool World Activity → Prop} (hinit : ∀ p, init p → p.threads = [] ∧ J p.shared)
    (hwrite : ∀ p i env t db', J p.shared → p.threads[i]? = some t → ok p (.run i env) →
      Writes { env with now := p.shared.clock } p.shared.db db' t → J ⟨db', p.shared.clock⟩)
    (htime : ∀ w clock, J w → w.clock ≤ clock → J ⟨w.db, clock⟩) {p : Pool World Activity}
    (h : Reach activities.Step ok init p) : J p.shared := by
  refine (Machine.outline (J := J) (A := fun _ ↦ Sound) (fun p hp ↦ ?_) (fun _ _ _ ↦ Starts.sound)
    (fun p i env t w' t' hJ hA hi hok hs ↦ ?_) (fun w w' hJ hw ↦ ?_) h).1
  · obtain ⟨hnone, hJ⟩ := hinit p hp
    exact ⟨hJ, by simp [hnone]⟩
  · obtain ⟨⟨db', t''⟩, hq, he⟩ := Option.map_eq_some_iff.mp hs
    cases he
    obtain ⟨hw, hsound⟩ := step_writes hA hq
    exact ⟨hwrite p i env t db' hJ hi hok hw, hsound, fun _ hu ↦ hu⟩
  · obtain ⟨db', clock⟩ := w'
    obtain ⟨rfl, hle⟩ := hw
    exact ⟨htime w clock hJ hle, fun _ hu ↦ hu⟩

section Phases

variable {ok : Pool World Activity → Move Activity Env → Prop} {init : Pool World Activity → Prop}

/-- Moves in phases, each at a moment of its own. -/
def phases (check : Pool World Activity → ℕ → Env → Bool) :
    List (Time × List (ℕ × Env)) → Pool World Activity → Option (Pool World Activity)
  | [], p => some p
  | (clock, moves) :: rest, p =>
    if p.shared.clock ≤ clock then
      (activities.play check moves ⟨⟨p.shared.db, clock⟩, p.threads⟩).bind (phases check rest)
    else none

theorem reach_phases {check : Pool World Activity → ℕ → Env → Bool}
    {plan : List (Time × List (ℕ × Env))} {p q : Pool World Activity}
    (hok : ∀ r i e, check r i e = true → ok r (.run i e)) (hworld : ∀ r, ok r .world)
    (h : Reach activities.Step ok init p) (hp : phases check plan p = some q) :
    Reach activities.Step ok init q := by
  induction plan generalizing p with
  | nil =>
    cases hp
    exact h
  | cons phase plan ih =>
    obtain ⟨clock, moves⟩ := phase
    simp only [phases] at hp
    split_ifs at hp with hle
    obtain ⟨r, hr, hrest⟩ := Option.bind_eq_some_iff.mp hp
    have hlater : Reach activities.Step ok init ⟨⟨p.shared.db, clock⟩, p.threads⟩ :=
      .next h (hworld p) (.world ⟨rfl, hle⟩)
    exact ih (Machine.reach_play hok hlater hr) hrest

end Phases

end Activity

end Innovents.Payments
