import Innovents.Payments.PaymentsWrites
import Innovents.Payments.RefundArithmetic
import Innovents.Payments.Reconciliation
import Innovents.Payments.WebhookEffects

namespace Innovents.Payments

open Innovents.Lib JsNumber

namespace StripeWebhookService

/-- The payment that the event activates, if it does. -/
def activatedPayment (event : PaymentWebhookEvent) (db : Db) : Option Payment :=
  if handlerFor event.type = some .checkoutSessionCompleted ∧
      paysSponsorship (eventObject event) = true then
    (sessionPayment (eventObject event) db).toOption.join.filter (·.status ≠ .succeeded)
  else none

/-- The payment that the event records as refunded, if it does. -/
def refundedPayment (event : PaymentWebhookEvent) (db : Db) : Option Payment :=
  if handlerFor event.type = some .chargeRefunded then
    (chargedPayment (eventObject event) db).toOption.join.filter (·.status ≠ .refunded)
  else none

/-- What the delivery of an event writes to payments, sponsorships and communities. -/
inductive WebhookWrite (env : Env) (event : PaymentWebhookEvent) (db db' : Db) : Prop
  | recorded {added : List Payment} :
      (∀ p ∈ added, p.status = .succeeded ∧ p.refundAmount = none ∧ p.purpose = .subscription) →
      db'.payments.rows = db.payments.rows ++ added →
      db'.communitySponsorships = db.communitySponsorships → db'.communities = db.communities →
      WebhookWrite env event db db'
  | activated {payment : Payment} {terms : ActivationTerms} :
      activatedPayment event db = some payment → payment ∈ db.payments.rows →
      activationTerms env (eventObject event) payment db = .ok terms →
      db'.payments.rows =
        Table.updateRows payment.id (markPaid env (eventObject event)) db.payments.rows →
      db'.communitySponsorships.rows = db.communitySponsorships.rows ++ [terms.row env payment] →
      db'.communities.rows = Table.updateRows terms.communityKey
        (markSponsored terms.memberCapacity) db.communities.rows →
      WebhookWrite env event db db'
  | refunded {payment : Payment} {refundAmount : Money} :
      refundedPayment event db = some payment → payment ∈ db.payments.rows →
      refundAmount.cents = roundHalfAway
        (100 * shortest (amountOf ((eventObject event).get "amount_refunded") payment.amount)) →
      db'.payments.rows =
        Table.updateRows payment.id (markRefunded env refundAmount) db.payments.rows →
      db'.communitySponsorships = db.communitySponsorships → db'.communities = db.communities →
      WebhookWrite env event db db'

theorem sessionPayment_mem {session : JsValue} {db : Db} {payment : Payment}
    (h : sessionPayment session db = .ok (some payment)) : payment ∈ db.payments.rows := by
  simp only [sessionPayment, bind_eq_ok] at h
  obtain ⟨named | payment', hn, h⟩ := h
  · simp only [openedPayment] at h
    split_ifs at h
    · simp only [bind_eq_ok, pure_eq_ok] at h
      obtain ⟨_, _, hf⟩ := h
      exact (Table.find?_mem hf).1
    · cases h
  · cases h
    simp only [namedPayment] at hn
    split_ifs at hn
    · simp only [bind_eq_ok, pure_eq_ok] at hn
      obtain ⟨_, _, _, _, hg⟩ := hn
      exact (Table.get?_eq_some.mp hg).1
    · cases hn

theorem webhook_writes (env : Env) (event : PaymentWebhookEvent) (db : Db) :
    WebhookWrite env event db (handleVerified env event db).2 := by
  have hdelivered := handleVerified_delivered env event db
  generalize (handleVerified env event db).1 = r at hdelivered
  generalize (handleVerified env event db).2 = db' at hdelivered ⊢
  have hquiet {d : Db} (hp : d.payments = db.payments)
      (hs : d.communitySponsorships = db.communitySponsorships)
      (hc : d.communities = db.communities) : WebhookWrite env event db d := by
    have hrows : d.payments.rows = db.payments.rows ++ [] := by rw [hp, List.append_nil]
    exact .recorded (by simp) hrows hs hc
  cases hdelivered with
  | unhandled => exact hquiet rfl rfl rfl
  | @handled h commit db₁ e t₀ t a hh hr hc =>
    generalize hdb : db.withLogs t₀ db.auditLogs = db₀ at hc
    have hw := (plans_of_reads hr).written hc
    cases hw with
    | nothing he =>
      subst he hdb
      exact hquiet rfl rfl rfl
    | activation hpays hpayment hs hterms hact =>
      subst hdb
      have hpayment' : sessionPayment (eventObject event) db = .ok (some _) := hpayment
      refine .activated ?_ (sessionPayment_mem hpayment') hterms hact.payments hact.sponsorships
        hact.communities
      rw [activatedPayment, if_pos ⟨hh, hpays⟩, hpayment']
      simp [Except.toOption, Option.filter, hs]
    | subscription _ _ _ hsub =>
      subst hdb
      refine .recorded ?_ hsub.payments hsub.sponsorships (by rw [hsub.frame]; rfl)
      intro p hp
      rw [List.mem_singleton.mp hp]
      exact ⟨rfl, rfl, rfl⟩
    | change _ hframe =>
      subst hdb
      rw [hframe]
      exact hquiet rfl rfl rfl
    | invoice _ _ hinv =>
      subst hdb
      refine .recorded ?_ hinv.payments hinv.sponsorships (by rw [hinv.frame]; rfl)
      intro p hp
      rw [List.mem_singleton.mp hp]
      exact ⟨rfl, rfl, rfl⟩
    | refund hcharged hs hcents href =>
      subst hdb
      refine .refunded ?_ (chargedPayment_eq_some hcharged).1 hcents href.payments
        href.sponsorships (by rw [href.frame]; rfl)
      rw [refundedPayment, if_pos hh, hcharged]
      simp [Except.toOption, Option.filter, hs]

end StripeWebhookService

/-- The operations that write payments, each of them run on its own. -/
inductive PaymentOp
  | checkout (userId : String) (dto : CreateCommunitySponsorshipCheckoutDto)
  | webhook (event : PaymentWebhookEvent)
  | refund (paymentId adminUserId : String) (dto : AdminRefundDto)
  | reconcile (dto : ReconcileQueryDto)

namespace PaymentOp

open PaymentsService PaymentReconciliationService StripeWebhookService

/-- The operation runs from `db` to `db'` with inputs that meet `ok`. -/
inductive Runs (ok : Env → Prop) : PaymentOp → Db → Db → Prop
  | checkout {userId : String} {dto : CreateCommunitySponsorshipCheckoutDto} {db db' : Db}
      {r : Except Err CheckoutSessionResponseDto} :
      (createCommunitySponsorshipCheckout userId dto).Ran ok db r db' →
      Runs ok (.checkout userId dto) db db'
  | webhook {event : PaymentWebhookEvent} {env : Env} {db : Db} : ok env →
      Runs ok (.webhook event) db (handleVerified env event db).2
  | refund {paymentId adminUserId : String} {dto : AdminRefundDto} {db db' : Db}
      {r : Except Err Payment} : (refundPayment paymentId adminUserId dto).Ran ok db r db' →
      Runs ok (.refund paymentId adminUserId dto) db db'
  | reconcile {dto : ReconcileQueryDto} {db db' : Db} {r : Except Err ReconciliationReportDto} :
      (reconcileStalePendingPayments dto).Ran ok db r db' → Runs ok (.reconcile dto) db db'

/-- The operation with the given inputs, one for each of its requests. -/
def perform (envs : List Env) (db : Db) : PaymentOp → Option Db
  | checkout userId dto => (createCommunitySponsorshipCheckout userId dto).finish envs db
  | webhook event => envs.head?.map fun env ↦ (handleVerified env event db).2
  | refund paymentId adminUserId dto => (refundPayment paymentId adminUserId dto).finish envs db
  | reconcile dto => (reconcileStalePendingPayments dto).finish envs db

theorem runs_of_perform {ok : Env → Prop} {envs : List Env} {db db' : Db} {op : PaymentOp}
    (hok : ∀ env ∈ envs, ok env) (h : op.perform envs db = some db') : op.Runs ok db db' := by
  cases op with
  | checkout userId dto =>
    obtain ⟨r, hr⟩ := Call.ran_of_finish hok h
    exact .checkout hr
  | webhook event =>
    simp only [perform, Option.map_eq_some_iff] at h
    obtain ⟨env, henv, rfl⟩ := h
    exact .webhook (hok env (List.mem_of_head? henv))
  | refund paymentId adminUserId dto =>
    obtain ⟨r, hr⟩ := Call.ran_of_finish hok h
    exact .refund hr
  | reconcile dto =>
    obtain ⟨r, hr⟩ := Call.ran_of_finish hok h
    exact .reconcile hr

section Plays

variable (ok : Db → PaymentOp → Prop) [∀ db op, Decidable (ok db op)]

/-- The database after the operations, one after another, if each meets `ok`. -/
def performAll : List (PaymentOp × List Env) → Db → Option Db
  | [], db => some db
  | (op, envs) :: ops, db =>
    if ok db op then (op.perform envs db).bind (performAll ops) else none

/-- One operation after another. -/
abbrev Next (db : Db) (op : PaymentOp) (db' : Db) : Prop := op.Runs (fun _ ↦ True) db db'

variable {ok}

theorem reach_performAll {init : Db → Prop} {ops : List (PaymentOp × List Env)} {db db' : Db}
    (h : Reach Next ok init db) (hp : performAll ok ops db = some db') :
    Reach Next ok init db' := by
  induction ops generalizing db with
  | nil =>
    cases hp
    exact h
  | cons op ops ih =>
    obtain ⟨op, envs⟩ := op
    simp only [performAll] at hp
    split_ifs at hp with hok
    obtain ⟨db₁, h₁, hrest⟩ := Option.bind_eq_some_iff.mp hp
    exact ih (.next h hok (runs_of_perform (fun _ _ ↦ trivial) h₁)) hrest

end Plays

end PaymentOp

section Sample

/-- One sponsor, one community and one plan at 100.00 for 30 days and 500 members. -/
def sponsoringDb : Db :=
  { Db.empty with
    users := .singleton ⟨"user-1", "sponsor@example.com", .active, none, ["SPONSOR"]⟩
    sponsorProfiles := .singleton ⟨"profile-1", "user-1", "Acme", none, some "cus_1"⟩
    communities := .singleton
      { id := "community-1"
        eventId := "event-1"
        createdById := "user-1"
        name := "Builders"
        bio := ""
        description := ""
        category := "Technology"
        type := .free
        visibility := .isPublic
        status := .active
        coverImageUrl := none
        language := none
        memberCapacity := 20
        memberCount := 1
        isSponsored := false
        isPinned := false
        deletedAt := none }
    communitySponsorshipPlans := .singleton
      ⟨"plan-1", "Standard", none, ⟨10000, Money.fits_hundred⟩, "SAR", 500, 30, true, 0⟩ }

/-- The completed session of a checkout for the sample community. -/
def sponsorshipSession (eventId sessionId paymentId intent : String) : PaymentWebhookEvent :=
  ⟨eventId, "checkout.session.completed",
    .obj [("id", .str sessionId), ("mode", .str "payment"), ("payment_intent", .str intent),
      ("metadata", .obj [("paymentId", .str paymentId),
        ("paymentPurpose", .str "COMMUNITY_SPONSORSHIP"), ("communityId", .str "community-1"),
        ("planId", .str "plan-1"), ("userId", .str "user-1"),
        ("sponsorProfileId", .str "profile-1")])]⟩

def chargeRefunded (eventId intent : String) (minorUnits : ℚ) : PaymentWebhookEvent :=
  ⟨eventId, "charge.refunded",
    .obj [("payment_intent", .str intent), ("amount_refunded", .num minorUnits)]⟩

def sponsoringDto : CreateCommunitySponsorshipCheckoutDto := ⟨"community-1", none, none, none⟩

/-- The keys of the sample payments. -/
def key₁ : String := "00000000-0000-4000-8000-000000000001"

def key₂ : String := "00000000-0000-4000-8000-000000000002"

/-- The sponsor opens a checkout and pays it. -/
def sponsorshipPaid : List (PaymentOp × List Env) :=
  [(.checkout "user-1" sponsoringDto, List.replicate 10 (.online 0 "cs_1" key₁ "a")),
    (.webhook (sponsorshipSession "evt_1" "cs_1" key₁ "pi_1"), [.online 1 "" "b" "c"])]

end Sample

end Innovents.Payments
