import Innovents.Payments.WebhookService

namespace Innovents.Payments

open Innovents.Lib JsNumber

namespace StripeWebhookService

variable {env : Env} {db db' : Db} {entry : Option CreateAuditLogParams}

theorem noCommit_eq_ok : noCommit env db = .ok (db', entry) ↔ db' = db ∧ entry = none := by
  simp only [noCommit, Except.ok.injEq, Prod.mk.injEq]
  exact ⟨fun h ↦ ⟨h.1.symm, h.2.symm⟩, fun h ↦ ⟨h.1.symm, h.2.symm⟩⟩

/-- What an activation takes from its session, the payment and the plans. -/
structure ActivationTerms where
  memberCapacity : ℤ
  endsAt : Time
  parties : SponsorshipParties
  communityKey : String

def activationTerms (env : Env) (session : JsValue) (payment : Payment) (db : Db) :
    Except Err ActivationTerms := do
  let metadata := (session.get "metadata").or (.obj [])
  let planKey ← textArg
    ((metadata.get "planId").or (payment.metadataField PaymentMetadata.planId))
  let plan := db.communitySponsorshipPlans.get? planKey
  let endsAt ← date (env.now + (planTerms plan).2 * 24 * 60 * 60 * 1000)
  let parties ← sponsorshipParties session payment plan
  let communityKey ← textArg (metadata.get "communityId")
  return { memberCapacity := (planTerms plan).1, endsAt, parties, communityKey }

def ActivationTerms.row (terms : ActivationTerms) (env : Env) (payment : Payment) :
    CommunitySponsorship :=
  sponsorshipRow env payment terms.parties terms.memberCapacity terms.endsAt

def paidNotice (env : Env) (session : JsValue) (payment : Payment) : OutboxEvent :=
  ⟨env.outboxId, "COMMUNITY_SPONSORSHIP_PAID", "COMMUNITY_SPONSORSHIP", env.sponsorshipId,
    .obj [("userId", .str payment.userId),
      ("communityId", ((session.get "metadata").or (.obj [])).get "communityId"),
      ("amount", .num payment.amount.toNumber), ("currency", .str payment.currency),
      ("sponsorshipId", .str env.sponsorshipId)], .pending, 0, none, env.now,
      none, none⟩

def activatedNotice (env : Env) (session : JsValue) (payment : Payment) (terms : ActivationTerms) :
    OutboxEvent :=
  ⟨env.outboxId₂, "COMMUNITY_SPONSORSHIP_ACTIVATED", "COMMUNITY_SPONSORSHIP", env.sponsorshipId,
    .obj [("userId", .str payment.userId),
      ("communityId", ((session.get "metadata").or (.obj [])).get "communityId"),
      ("memberCapacity", .num terms.memberCapacity), ("endsAt", .date terms.endsAt),
      ("sponsorshipId", .str env.sponsorshipId)], .pending, 0, none, env.now,
      none, none⟩

/-- The state an activation leaves behind. -/
structure Activated (env : Env) (session : JsValue) (payment : Payment) (terms : ActivationTerms)
    (db db' : Db) : Prop where
  payment_found : ∃ p ∈ db.payments.rows, p.id = payment.id
  refers : (terms.row env payment).refersIn db = true
  community_found : ∃ c ∈ db.communities.rows, c.id = terms.communityKey
  payments : db'.payments.rows =
    Table.updateRows payment.id (markPaid env session) db.payments.rows
  sponsorships : db'.communitySponsorships.rows =
    db.communitySponsorships.rows ++ [terms.row env payment]
  communities : db'.communities.rows =
    Table.updateRows terms.communityKey (markSponsored terms.memberCapacity) db.communities.rows
  outbox : db'.outboxEvents.rows =
    db.outboxEvents.rows ++
    [paidNotice env session payment, activatedNotice env session payment terms]
  frame : db' = { db with
    payments := db'.payments
    communitySponsorships := db'.communitySponsorships
    communities := db'.communities
    outboxEvents := db'.outboxEvents }

theorem Activated.subscriptions {session : JsValue} {payment : Payment} {terms : ActivationTerms}
    (h : Activated env session payment terms db db') : db'.subscriptions = db.subscriptions := by
  rw [h.frame]

theorem has_updateRows {ρ : Type} [Row ρ] {t t' : Table ρ} {id : String} {f : ρ → ρ}
    (h : t'.rows = Table.updateRows id f t.rows) (hid : ∀ r, Row.id (f r) = Row.id r)
    (k : String) : t'.has k = t.has k := by
  rw [Bool.eq_iff_iff, Table.has_iff, Table.has_iff, h]
  simp only [Table.mem_updateRows]
  constructor
  · rintro ⟨r, ⟨a, ha, _, rfl⟩ | ⟨hr, _⟩, rfl⟩
    · exact ⟨a, ha, (hid a).symm⟩
    · exact ⟨r, hr, rfl⟩
  · rintro ⟨r, hr, rfl⟩
    by_cases hk : Row.id r = id
    · exact ⟨f r, .inl ⟨r, hr, hk, rfl⟩, hid r⟩
    · exact ⟨r, .inr ⟨hr, hk⟩, rfl⟩

theorem activateSponsorship_eq_ok {session : JsValue} {payment : Payment} :
    (∃ entry, activateSponsorship env session payment db = .ok (db', entry)) ↔
      ∃ terms, activationTerms env session payment db = .ok terms ∧
        Activated env session payment terms db db' := by
  simp only [activateSponsorship, activationTerms, bind_eq_ok, pure_eq_ok, modify_eq_ok,
    createCommunitySponsorship_eq_ok, enqueue_eq_ok, Prod.mk.injEq]
  constructor
  · rintro ⟨entry, planKey, hplan, _, ⟨ps, ⟨hp, hps⟩, rfl⟩, endsAt, hends, parties, hparties, _,
      ⟨hrefers, cs, hcs, rfl⟩, key, hkey, _, ⟨ms, ⟨hc, hms⟩, rfl⟩, _, ⟨os₁, hos₁, rfl⟩, _,
      ⟨os₂, hos₂, rfl⟩, rfl, rfl⟩
    refine ⟨_, ⟨planKey, hplan, endsAt, hends, parties, hparties, key, hkey, rfl⟩, ?_⟩
    have hhas (k : String) : ps.has k = db.payments.has k :=
      has_updateRows hps (fun _ ↦ rfl) k
    exact {
      payment_found := hp
      refers := by
        simpa only [CommunitySponsorship.refersIn, ActivationTerms.row, paymentTable, hhas,
          sponsorshipRow, Option.all_some] using hrefers
      community_found := hc
      payments := hps
      sponsorships := hcs
      communities := hms
      outbox := by
        rw [hos₂]
        simp only [communityTable, hos₁, paymentTable, List.append_assoc]
        rfl
      frame := rfl }
  · rintro ⟨_, ⟨planKey, hplan, endsAt, hends, parties, hparties, key, hkey, rfl⟩, h⟩
    have hhas (k : String) : db'.payments.has k = db.payments.has k :=
      has_updateRows h.payments (fun _ ↦ rfl) k
    have hpre : (db.outboxEvents.rows ++ [paidNotice env session payment]).Pairwise
        fun a b ↦ clash a b = false := by
      refine List.Pairwise.sublist ?_ db'.outboxEvents.apart
      rw [h.outbox]
      exact List.Sublist.append_left (by simp) _
    refine ⟨_, planKey, hplan, _, ⟨db'.payments, ⟨h.payment_found, h.payments⟩, rfl⟩, endsAt, hends,
      parties, hparties, _, ⟨?_, db'.communitySponsorships, h.sponsorships, rfl⟩, key, hkey, _,
      ⟨db'.communities, ⟨h.community_found, h.communities⟩, rfl⟩, _, ⟨⟨_, hpre⟩, rfl, rfl⟩, _,
      ⟨db'.outboxEvents, ?_, rfl⟩, h.frame.symm, rfl⟩
    · simpa only [CommunitySponsorship.refersIn, ActivationTerms.row, paymentTable, hhas,
        sponsorshipRow, Option.all_some] using h.refers
    · rw [h.outbox, List.append_assoc]
      rfl

/-- What a subscription checkout takes from its session and the plans. -/
structure SubscriptionTerms where
  subscriber : Subscriber
  planConfig : SubscriptionPlanConfig
  stripeCustomerId : String
  currentPeriodEnd : Time
  checkoutSessionId : Option String

def subscriptionTerms (env : Env) (session : JsValue) (db : Db) : Except Err SubscriptionTerms := do
  let metadata := (session.get "metadata").or (.obj [])
  let planKey ← textArg (metadata.get "plan")
  let plan ← found (planOfKey planKey) .validation
  let planConfig ← found (db.subscriptionPlanConfigs.find? fun c ↦ c.plan == plan) .validation
  let userId ← textArg (metadata.get "userId")
  let profileId ← optionalTextArg (metadata.get "profileId")
  let stripeSubscriptionId ← textArg (session.get "subscription")
  let currentPeriodEnd ← date (env.now + periodDays planConfig.interval * 86400000)
  let stripeCustomerId ← textArg ((session.get "customer").or (.str ""))
  let checkoutSessionId ← optionalTextArg ((session.get "id").or .null)
  return {
    subscriber := { userId, profileId, stripeSubscriptionId }
    planConfig, stripeCustomerId, currentPeriodEnd, checkoutSessionId }

def SubscriptionTerms.row (terms : SubscriptionTerms) (env : Env) : Subscription :=
  subscriptionRow env terms.subscriber terms.planConfig terms.stripeCustomerId
    terms.currentPeriodEnd

def SubscriptionTerms.paymentRow (terms : SubscriptionTerms) (env : Env) (session : JsValue)
    (subscriptionId : String) : Payment :=
  sessionPaymentRow env session terms.subscriber terms.planConfig subscriptionId
    terms.checkoutSessionId

def subscribedNotice (env : Env) (terms : SubscriptionTerms) (subscriptionId : String) :
    OutboxEvent :=
  ⟨env.outboxId, "SUBSCRIPTION_ACTIVATED", "SUBSCRIPTION", subscriptionId,
    .obj [("userId", .str terms.subscriber.userId), ("subscriptionId", .str subscriptionId),
      ("planName", .str terms.planConfig.name),
      ("amount", .num terms.planConfig.price.toNumber),
      ("currency", .str terms.planConfig.currency)], .pending, 0, none, env.now,
      none, none⟩

/-- The subscriptions after an upsert that returns the subscription with this id. -/
def Upserted (env : Env) (terms : SubscriptionTerms) (subscriptionId : String)
    (db : Db) (subscriptions : Table Subscription) : Prop :=
  (∃ s ∈ db.subscriptions.rows,
    s.stripeSubscriptionId = terms.subscriber.stripeSubscriptionId ∧ s.id = subscriptionId ∧
      subscriptions.rows =
        Table.updateRows s.id (renew env terms.currentPeriodEnd) db.subscriptions.rows) ∨
  ((∀ s ∈ db.subscriptions.rows,
    s.stripeSubscriptionId ≠ terms.subscriber.stripeSubscriptionId) ∧
      env.subscriptionId = subscriptionId ∧ (terms.row env).refersIn db = true ∧
      subscriptions.rows = db.subscriptions.rows ++ [terms.row env])

/-- The state a subscription checkout leaves behind. -/
structure Subscribed (env : Env) (session : JsValue) (terms : SubscriptionTerms)
    (subscriptionId : String) (db db' : Db) : Prop where
  upserted : Upserted env terms subscriptionId db db'.subscriptions
  refers : (terms.paymentRow env session subscriptionId).refersIn
    { db with subscriptions := db'.subscriptions } = true
  payments : db'.payments.rows =
    db.payments.rows ++ [terms.paymentRow env session subscriptionId]
  outbox : db'.outboxEvents.rows =
    db.outboxEvents.rows ++ [subscribedNotice env terms subscriptionId]
  frame : db' = { db with
    subscriptions := db'.subscriptions
    payments := db'.payments
    outboxEvents := db'.outboxEvents }

theorem Subscribed.sponsorships {session : JsValue} {terms : SubscriptionTerms} {id : String}
    (h : Subscribed env session terms id db db') :
    db'.communitySponsorships = db.communitySponsorships := by
  rw [h.frame]

theorem upsertSubscription_eq_ok {session : JsValue} {subscriber : Subscriber}
    {planConfig : SubscriptionPlanConfig} {id : String} :
    upsertSubscription env session subscriber planConfig db = .ok (id, db') ↔
      ∃ currentPeriodEnd stripeCustomerId ss,
        date (env.now + periodDays planConfig.interval * 86400000) = .ok currentPeriodEnd ∧
        textArg ((session.get "customer").or (.str "")) = .ok stripeCustomerId ∧
        Upserted env ⟨subscriber, planConfig, stripeCustomerId, currentPeriodEnd, none⟩ id db ss ∧
        { db with subscriptions := ss } = db' := by
  simp only [upsertSubscription, bind_eq_ok, Upserted]
  cases hf : db.subscriptions.find? fun s ↦
      s.stripeSubscriptionId == subscriber.stripeSubscriptionId with
  | some s =>
    obtain ⟨hs, hkey⟩ := Table.find?_mem hf
    rw [beq_iff_eq] at hkey
    simp only [bind_eq_ok, pure_eq_ok, modify_eq_ok, Prod.mk.injEq]
    constructor
    · rintro ⟨endsAt, hd, customer, hc, _, ⟨ss, ⟨_, hss⟩, rfl⟩, rfl, rfl⟩
      exact ⟨endsAt, customer, ss, hd, hc, .inl ⟨s, hs, hkey, rfl, hss⟩, rfl⟩
    · rintro ⟨endsAt, customer, ss, hd, hc, ⟨s', hs', hkey', rfl, hss⟩ | ⟨hnone, _⟩, hframe⟩
      · have he : s' = s := db.subscriptions.eq_of_unique (u := fun s ↦ some s.stripeSubscriptionId)
          (by simp [Row.uniques]) hs' hs rfl (by rw [hkey, hkey'])
        subst he
        exact ⟨endsAt, hd, customer, hc, _, ⟨ss, ⟨⟨s', hs', rfl⟩, hss⟩, rfl⟩, rfl, hframe⟩
      · exact absurd hkey (hnone s hs)
  | none =>
    have hnone := Table.find?_eq_none.mp hf
    simp only [beq_eq_false_iff_ne] at hnone
    simp only [bind_eq_ok, pure_eq_ok, createSubscription_eq_ok, Prod.mk.injEq]
    constructor
    · rintro ⟨endsAt, hd, customer, hc, _, ⟨hrefers, ss, hss, rfl⟩, rfl, rfl⟩
      exact ⟨endsAt, customer, ss, hd, hc, .inr ⟨hnone, rfl, hrefers, hss⟩, rfl⟩
    · rintro ⟨endsAt, customer, ss, hd, hc, ⟨s', hs', hkey', _⟩ | ⟨_, rfl, hrefers, hss⟩, hframe⟩
      · exact absurd hkey' (hnone s' hs')
      · exact ⟨endsAt, hd, customer, hc, _, ⟨hrefers, ss, hss, rfl⟩, rfl, hframe⟩

theorem activateSubscription_eq_ok {session : JsValue} :
    (∃ entry, activateSubscription session env db = .ok (db', entry)) ↔
      ∃ terms id, subscriptionTerms env session db = .ok terms ∧
        Subscribed env session terms id db db' := by
  simp only [activateSubscription, subscriptionTerms, bind_eq_ok, pure_eq_ok, found_eq_ok,
    createPayment_eq_ok, enqueue_eq_ok, Prod.mk.injEq, Prod.exists, upsertSubscription_eq_ok]
  constructor
  · rintro ⟨entry, planKey, hkey, plan, hplan, config, hconfig, userId, huser, profileId, hprofile,
      subId, hsub, id, _, ⟨endsAt, customer, ss, hends, hcustomer, hupsert, rfl⟩, sessionId, hsession,
      _, ⟨hrefers, ps, hps, rfl⟩, _, ⟨os, hos, rfl⟩, rfl, rfl⟩
    refine ⟨_, id, ⟨planKey, hkey, plan, hplan, config, hconfig, userId, huser, profileId, hprofile,
      subId, hsub, endsAt, hends, customer, hcustomer, sessionId, hsession, rfl⟩, ?_⟩
    exact ⟨hupsert, hrefers, hps, hos, rfl⟩
  · rintro ⟨_, id, ⟨planKey, hkey, plan, hplan, config, hconfig, userId, huser, profileId, hprofile,
      subId, hsub, endsAt, hends, customer, hcustomer, sessionId, hsession, rfl⟩, h⟩
    exact ⟨_, planKey, hkey, plan, hplan, config, hconfig, userId, huser, profileId, hprofile,
      subId, hsub, id, _, ⟨endsAt, customer, _, hends, hcustomer, h.upserted, rfl⟩, sessionId, hsession,
      _, ⟨h.refers, db'.payments, h.payments, rfl⟩, _, ⟨db'.outboxEvents, h.outbox, rfl⟩,
      h.frame.symm, rfl⟩

/-- What an invoice says about the payment it records. -/
structure InvoiceTerms where
  amount : Money
  currency : String
  stripeInvoiceId : Option String
  periodEnd : Option Time

def invoiceTerms (invoice : JsValue) (existing : Subscription) : Except Err InvoiceTerms := do
  let amount ← Money.ofDecimal (shortest (amountOf (invoice.get "amount_paid") existing.amount))
  let currency ← currencyOf (invoice.get "currency") existing.currency
  let stripeInvoiceId ← optionalTextArg ((invoice.get "id").or .null)
  let periodEnd ← periodBound
    (((((invoice.get "lines").get "data").item 0).get "period").get "end")
  return { amount, currency, stripeInvoiceId, periodEnd }

def InvoiceTerms.row (terms : InvoiceTerms) (env : Env) (existing : Subscription) : Payment :=
  invoicePaymentRow env existing terms.amount terms.currency terms.stripeInvoiceId

/-- The subscription rows after an invoice. -/
def InvoiceTerms.extendRows (terms : InvoiceTerms) (id : String) (rows : List Subscription) :
    List Subscription :=
  terms.periodEnd.elim rows fun periodEnd ↦ Table.updateRows id (extend periodEnd) rows

def renewedNotice (env : Env) (invoice : JsValue) (existing : Subscription)
    (planConfig : SubscriptionPlanConfig) : OutboxEvent :=
  ⟨env.outboxId, "SUBSCRIPTION_RENEWED", "SUBSCRIPTION", existing.id,
    .obj [("userId", .str existing.userId), ("subscriptionId", .str existing.id),
      ("planName", .str planConfig.name),
      ("amount", .num (amountOf (invoice.get "amount_paid") existing.amount)),
      ("currency", .str existing.currency)], .pending, 0, none, env.now,
      none, none⟩

/-- The state a paid invoice leaves behind. -/
structure Invoiced (env : Env) (invoice : JsValue) (existing : Subscription)
    (planConfig : SubscriptionPlanConfig) (terms : InvoiceTerms) (db db' : Db) : Prop where
  refers : (terms.row env existing).refersIn db = true
  payments : db'.payments.rows = db.payments.rows ++ [terms.row env existing]
  subscriptions : db'.subscriptions.rows = terms.extendRows existing.id db.subscriptions.rows
  outbox : db'.outboxEvents.rows =
    db.outboxEvents.rows ++ [renewedNotice env invoice existing planConfig]
  frame : db' = { db with
    subscriptions := db'.subscriptions
    payments := db'.payments
    outboxEvents := db'.outboxEvents }

theorem Invoiced.sponsorships {invoice : JsValue} {existing : Subscription}
    {planConfig : SubscriptionPlanConfig} {terms : InvoiceTerms}
    (h : Invoiced env invoice existing planConfig terms db db') :
    db'.communitySponsorships = db.communitySponsorships := by
  rw [h.frame]

theorem extendSubscription_eq_ok {id : String} (terms : InvoiceTerms)
    (hid : db.subscriptions.has id = true) :
    extendSubscription id terms.periodEnd db = .ok db' ↔
      ∃ ss : Table Subscription, ss.rows = terms.extendRows id db.subscriptions.rows ∧
        { db with subscriptions := ss } = db' := by
  cases he : terms.periodEnd with
  | none =>
    simp only [extendSubscription, InvoiceTerms.extendRows, he, Option.elim_none, Except.ok.injEq]
    constructor
    · rintro rfl
      exact ⟨db.subscriptions, rfl, rfl⟩
    · rintro ⟨ss, hss, rfl⟩
      rw [Table.ext hss]
  | some periodEnd =>
    have hrow := Table.has_iff.mp hid
    simp only [extendSubscription, InvoiceTerms.extendRows, he, Option.elim_some, modify_eq_ok,
      subscriptionTable]
    simp only [hrow, true_and]

theorem recordInvoice_eq_ok {invoice : JsValue} {existing : Subscription}
    {planConfig : SubscriptionPlanConfig} :
    recordInvoice invoice existing planConfig env db = .ok (db', entry) ↔
      entry = none ∧ ∃ terms, invoiceTerms invoice existing = .ok terms ∧
        Invoiced env invoice existing planConfig terms db db' := by
  simp only [recordInvoice, invoiceTerms, bind_eq_ok, pure_eq_ok, createPayment_eq_ok,
    enqueue_eq_ok, Prod.mk.injEq]
  constructor
  · rintro ⟨amount, hamount, currency, hcurrency, id, hid, _, ⟨hrefers, ps, hps, rfl⟩, periodEnd,
      hend, db₁, hextend, _, ⟨os, hos, rfl⟩, rfl, rfl⟩
    have hhas : ({ db with payments := ps } : Db).subscriptions.has existing.id = true := by
      simp only [Payment.refersIn, invoicePaymentRow, Bool.and_eq_true, Option.all_some] at hrefers
      exact hrefers.2
    obtain ⟨ss, hss, rfl⟩ :=
      (extendSubscription_eq_ok ⟨amount, currency, id, periodEnd⟩ hhas).mp hextend
    exact ⟨rfl, _, ⟨amount, hamount, currency, hcurrency, id, hid, periodEnd, hend, rfl⟩,
      ⟨hrefers, hps, hss, hos, rfl⟩⟩
  · rintro ⟨rfl, _, ⟨amount, hamount, currency, hcurrency, id, hid, periodEnd, hend, rfl⟩, h⟩
    have hhas : ({ db with payments := db'.payments } : Db).subscriptions.has existing.id =
        true := by
      have hr := h.refers
      simp only [Payment.refersIn, InvoiceTerms.row, invoicePaymentRow, Bool.and_eq_true,
        Option.all_some] at hr
      exact hr.2
    exact ⟨amount, hamount, currency, hcurrency, id, hid, _, ⟨h.refers, _, h.payments, rfl⟩,
      periodEnd, hend, _,
      (extendSubscription_eq_ok ⟨amount, currency, id, periodEnd⟩ hhas).mpr ⟨_, h.subscriptions, rfl⟩, _, ⟨_, h.outbox, rfl⟩, h.frame.symm, rfl⟩

def cancelledNotice (env : Env) (existing : Subscription) (planConfig : SubscriptionPlanConfig) :
    OutboxEvent :=
  ⟨env.outboxId, "SUBSCRIPTION_CANCELLED", "SUBSCRIPTION", existing.id,
    .obj [("userId", .str existing.userId), ("subscriptionId", .str existing.id),
      ("planName", .str planConfig.name)], .pending, 0, none, env.now,
      none, none⟩

def lapsedNotice (env : Env) (existing : Subscription) (planConfig : SubscriptionPlanConfig) :
    OutboxEvent :=
  ⟨env.outboxId, "SUBSCRIPTION_PAYMENT_FAILED", "SUBSCRIPTION", existing.id,
    .obj [("userId", .str existing.userId), ("subscriptionId", .str existing.id),
      ("planName", .str (if planConfig.name = "" then planText existing.plan
        else planConfig.name))], .pending, 0, none, env.now,
      none, none⟩

/-- The state after a change `f` of one subscription and its announcement. -/
structure Changed (f : Subscription → Subscription) (notice : OutboxEvent) (id : String)
    (db db' : Db) : Prop where
  found : ∃ s ∈ db.subscriptions.rows, s.id = id
  subscriptions : db'.subscriptions.rows = Table.updateRows id f db.subscriptions.rows
  outbox : db'.outboxEvents.rows = db.outboxEvents.rows ++ [notice]
  frame : db' = { db with
    subscriptions := db'.subscriptions
    outboxEvents := db'.outboxEvents }

theorem Changed.payments {f : Subscription → Subscription} {notice : OutboxEvent} {id : String}
    (h : Changed f notice id db db') : db'.payments = db.payments := by
  rw [h.frame]

theorem Changed.sponsorships {f : Subscription → Subscription} {notice : OutboxEvent} {id : String}
    (h : Changed f notice id db db') : db'.communitySponsorships = db.communitySponsorships := by
  rw [h.frame]

theorem cancelSubscription_eq_ok {existing : Subscription} {planConfig : SubscriptionPlanConfig} :
    cancelSubscription existing planConfig env db = .ok (db', entry) ↔
      entry = none ∧
        Changed (cancel env) (cancelledNotice env existing planConfig) existing.id db db' := by
  simp only [cancelSubscription, bind_eq_ok, pure_eq_ok, modify_eq_ok, enqueue_eq_ok,
    Prod.mk.injEq]
  constructor
  · rintro ⟨_, ⟨ss, ⟨hs, hss⟩, rfl⟩, _, ⟨os, hos, rfl⟩, rfl, rfl⟩
    exact ⟨rfl, hs, hss, hos, rfl⟩
  · rintro ⟨rfl, h⟩
    exact ⟨_, ⟨_, ⟨h.found, h.subscriptions⟩, rfl⟩, _, ⟨_, h.outbox, rfl⟩, h.frame.symm, rfl⟩

theorem markPastDue_eq_ok {existing : Subscription} {planConfig : SubscriptionPlanConfig} :
    markPastDue existing planConfig env db = .ok (db', entry) ↔
      entry = none ∧ Changed lapse (lapsedNotice env existing planConfig) existing.id db db' := by
  simp only [markPastDue, bind_eq_ok, pure_eq_ok, modify_eq_ok, enqueue_eq_ok, Prod.mk.injEq]
  constructor
  · rintro ⟨_, ⟨ss, ⟨hs, hss⟩, rfl⟩, _, ⟨os, hos, rfl⟩, rfl, rfl⟩
    exact ⟨rfl, hs, hss, hos, rfl⟩
  · rintro ⟨rfl, h⟩
    exact ⟨_, ⟨_, ⟨h.found, h.subscriptions⟩, rfl⟩, _, ⟨_, h.outbox, rfl⟩, h.frame.symm, rfl⟩

theorem updateSubscription_eq_ok {stripeSub : JsValue} {existing : Subscription} :
    updateSubscription stripeSub existing env db = .ok (db', entry) ↔
      entry = none ∧ ∃ change, subscriptionChange stripeSub = .ok change ∧
        (∃ s ∈ db.subscriptions.rows, s.id = existing.id) ∧
        db'.subscriptions.rows =
          Table.updateRows existing.id change.apply db.subscriptions.rows ∧
        db' = { db with subscriptions := db'.subscriptions } := by
  simp only [updateSubscription, bind_eq_ok, pure_eq_ok, modify_eq_ok, Prod.mk.injEq]
  constructor
  · rintro ⟨change, hchange, _, ⟨ss, ⟨hs, hss⟩, rfl⟩, rfl, rfl⟩
    exact ⟨rfl, change, hchange, hs, hss, rfl⟩
  · rintro ⟨rfl, change, hchange, hs, hss, hframe⟩
    exact ⟨change, hchange, _, ⟨db'.subscriptions, ⟨hs, hss⟩, rfl⟩, hframe.symm, rfl⟩

def refundedNotice (env : Env) (charge : JsValue) (existing : Payment) : OutboxEvent :=
  ⟨env.outboxId, "PAYMENT_REFUNDED", "PAYMENT", existing.id,
    .obj [("userId", .str existing.userId), ("paymentId", .str existing.id),
      ("amount", .num (amountOf (charge.get "amount_refunded") existing.amount)),
      ("currency", .str existing.currency)], .pending, 0, none, env.now,
      none, none⟩

/-- The state a refunded charge leaves behind. -/
structure Refunded (env : Env) (charge : JsValue) (existing : Payment) (refundAmount : Money)
    (db db' : Db) : Prop where
  found : ∃ p ∈ db.payments.rows, p.id = existing.id
  payments : db'.payments.rows =
    Table.updateRows existing.id (markRefunded env refundAmount) db.payments.rows
  outbox : db'.outboxEvents.rows =
    db.outboxEvents.rows ++ [refundedNotice env charge existing]
  frame : db' = { db with
    payments := db'.payments
    outboxEvents := db'.outboxEvents }

theorem Refunded.subscriptions {charge : JsValue} {existing : Payment} {refundAmount : Money}
    (h : Refunded env charge existing refundAmount db db') : db'.subscriptions = db.subscriptions := by
  rw [h.frame]

theorem Refunded.sponsorships {charge : JsValue} {existing : Payment} {refundAmount : Money}
    (h : Refunded env charge existing refundAmount db db') :
    db'.communitySponsorships = db.communitySponsorships := by
  rw [h.frame]

theorem recordRefund_eq_ok {charge : JsValue} {existing : Payment} :
    recordRefund charge existing env db = .ok (db', entry) ↔
      entry = none ∧ ∃ refundAmount : Money,
        refundAmount.cents = roundHalfAway
          (100 * shortest (amountOf (charge.get "amount_refunded") existing.amount)) ∧
        Refunded env charge existing refundAmount db db' := by
  simp only [recordRefund, bind_eq_ok, pure_eq_ok, modify_eq_ok, enqueue_eq_ok,
    Money.ofDecimal_eq_ok, Prod.mk.injEq]
  constructor
  · rintro ⟨amount, hamount, _, ⟨ps, ⟨hp, hps⟩, rfl⟩, _, ⟨os, hos, rfl⟩, rfl, rfl⟩
    exact ⟨rfl, amount, hamount, hp, hps, hos, rfl⟩
  · rintro ⟨rfl, amount, hamount, h⟩
    exact ⟨amount, hamount, _, ⟨_, ⟨h.found, h.payments⟩, rfl⟩, _, ⟨_, h.outbox, rfl⟩,
      h.frame.symm, rfl⟩

/-- The transactions that the reads of a handler can lead to. -/
inductive Plans (object : JsValue) (db : Db) : WebhookHandler → Commit → Prop
  | nothing (h : WebhookHandler) : Plans object db h noCommit
  | sponsorship : paysSponsorship object = true →
      Plans object db .checkoutSessionCompleted (activateCommunitySponsorshipFromSession object)
  | subscription : paysSponsorship object = false → paysSubscription object = true →
      Plans object db .checkoutSessionCompleted (activateSubscriptionFromSession object)
  | update {existing : Subscription} :
      subscriptionOf (object.get "id") db = .ok (some existing) →
      Plans object db .subscriptionUpdated (updateSubscription object existing)
  | cancel {existing : Subscription} {planConfig : SubscriptionPlanConfig} :
      subscriptionWithPlan (object.get "id") db = .ok (some (existing, planConfig)) →
      Plans object db .subscriptionDeleted (cancelSubscription existing planConfig)
  | invoice {existing : Subscription} {planConfig : SubscriptionPlanConfig} :
      (object.get "subscription").truthy = true →
      subscriptionWithPlan (object.get "subscription") db = .ok (some (existing, planConfig)) →
      Plans object db .invoicePaid (recordInvoice object existing planConfig)
  | lapse {existing : Subscription} {planConfig : SubscriptionPlanConfig} :
      (object.get "subscription").truthy = true →
      subscriptionWithPlan (object.get "subscription") db = .ok (some (existing, planConfig)) →
      Plans object db .invoicePaymentFailed (markPastDue existing planConfig)
  | refund {existing : Payment} : (object.get "payment_intent").truthy = true →
      chargedPayment object db = .ok (some existing) →
      existing.status ≠ .refunded →
      Plans object db .chargeRefunded (recordRefund object existing)

theorem plans_of_reads {h : WebhookHandler} {object : JsValue} {commit : Commit}
    (hr : h.reads object db = .ok commit) : Plans object db h commit := by
  cases h with
  | checkoutSessionCompleted =>
    simp only [WebhookHandler.reads, handleCheckoutSessionCompleted] at hr
    split_ifs at hr with h₁ h₂
    · cases hr; exact .sponsorship h₁
    · cases hr; exact .subscription (by simpa using h₁) h₂
    · cases hr; exact .nothing _
  | subscriptionUpdated =>
    simp only [WebhookHandler.reads, handleSubscriptionUpdated, bind_eq_ok] at hr
    obtain ⟨existing | _, he, hr⟩ := hr
    · cases hr; exact .nothing _
    · cases hr; exact .update he
  | subscriptionDeleted =>
    simp only [WebhookHandler.reads, handleSubscriptionDeleted, bind_eq_ok] at hr
    obtain ⟨existing | _, he, hr⟩ := hr
    · cases hr; exact .nothing _
    · cases hr; exact .cancel he
  | invoicePaid =>
    simp only [WebhookHandler.reads, handleInvoicePaid] at hr
    split_ifs at hr with hpays
    · simp only [bind_eq_ok] at hr
      obtain ⟨existing | _, he, hr⟩ := hr
      · cases hr; exact .nothing _
      · cases hr; exact .invoice hpays he
    · cases hr; exact .nothing _
  | invoicePaymentFailed =>
    simp only [WebhookHandler.reads, handleInvoicePaymentFailed] at hr
    split_ifs at hr with hpays
    · simp only [bind_eq_ok] at hr
      obtain ⟨existing | _, he, hr⟩ := hr
      · cases hr; exact .nothing _
      · cases hr; exact .lapse hpays he
    · cases hr; exact .nothing _
  | chargeRefunded =>
    simp only [WebhookHandler.reads, handleChargeRefunded] at hr
    split_ifs at hr with hpays
    · simp only [bind_eq_ok] at hr
      obtain ⟨existing | _, he, hr⟩ := hr
      · cases hr; exact .nothing _
      · dsimp only at hr
        split_ifs at hr with hs
        · cases hr; exact .nothing _
        · cases hr; exact .refund hpays he hs
    · cases hr; exact .nothing _

/-- No handler writes to the table of received events. -/
theorem Plans.stripeWebhookEvents {h : WebhookHandler} {object : JsValue} {db₀ : Db}
    {commit : Commit} (hp : Plans object db₀ h commit) (hc : commit env db = .ok (db', entry)) :
    db'.stripeWebhookEvents = db.stripeWebhookEvents := by
  cases hp with
  | nothing => rw [(noCommit_eq_ok.mp hc).1]
  | sponsorship =>
    simp only [activateCommunitySponsorshipFromSession, bind_eq_ok] at hc
    obtain ⟨payment | _, _, hc⟩ := hc
    · rw [(noCommit_eq_ok.mp hc).1]
    · dsimp only at hc
      split_ifs at hc
      · rw [(noCommit_eq_ok.mp hc).1]
      · obtain ⟨_, _, h⟩ := activateSponsorship_eq_ok.mp ⟨entry, hc⟩
        rw [h.frame]
  | subscription =>
    simp only [activateSubscriptionFromSession] at hc
    split_ifs at hc
    · obtain ⟨_, _, _, h⟩ := activateSubscription_eq_ok.mp ⟨entry, hc⟩
      rw [h.frame]
    · rw [(noCommit_eq_ok.mp hc).1]
  | update =>
    obtain ⟨_, _, _, _, _, hframe⟩ := updateSubscription_eq_ok.mp hc
    rw [hframe]
  | cancel => rw [(cancelSubscription_eq_ok.mp hc).2.frame]
  | invoice =>
    obtain ⟨_, _, _, h⟩ := recordInvoice_eq_ok.mp hc
    rw [h.frame]
  | lapse => rw [(markPastDue_eq_ok.mp hc).2.frame]
  | refund =>
    obtain ⟨_, _, _, h⟩ := recordRefund_eq_ok.mp hc
    rw [h.frame]

/-- What the transaction that a handler planned in `db₀` does to the tables. -/
inductive Written (env : Env) (object : JsValue) (db₀ db db' : Db) : WebhookHandler → Prop
  | nothing {h : WebhookHandler} : db' = db → Written env object db₀ db db' h
  | activation {payment : Payment} {terms : ActivationTerms} : paysSponsorship object = true →
      sessionPayment object db = .ok (some payment) → payment.status ≠ .succeeded →
      activationTerms env object payment db = .ok terms →
      Activated env object payment terms db db' →
      Written env object db₀ db db' .checkoutSessionCompleted
  | subscription {terms : SubscriptionTerms} {id : String} : paysSubscription object = true →
      isComplete object = true → subscriptionTerms env object db = .ok terms →
      Subscribed env object terms id db db' →
      Written env object db₀ db db' .checkoutSessionCompleted
  | change {h : WebhookHandler} :
      h = .subscriptionUpdated ∨ h = .subscriptionDeleted ∨ h = .invoicePaymentFailed →
      db' = { db with
        subscriptions := db'.subscriptions
        outboxEvents := db'.outboxEvents } → Written env object db₀ db db' h
  | invoice {existing : Subscription} {planConfig : SubscriptionPlanConfig} {terms : InvoiceTerms} :
      subscriptionOf (object.get "subscription") db₀ = .ok (some existing) →
      invoiceTerms object existing = .ok terms →
      Invoiced env object existing planConfig terms db db' →
      Written env object db₀ db db' .invoicePaid
  | refund {existing : Payment} {refundAmount : Money} :
      chargedPayment object db₀ = .ok (some existing) → existing.status ≠ .refunded →
      refundAmount.cents =
        roundHalfAway (100 * shortest (amountOf (object.get "amount_refunded") existing.amount)) →
      Refunded env object existing refundAmount db db' →
      Written env object db₀ db db' .chargeRefunded

theorem Plans.written {h : WebhookHandler} {object : JsValue} {db₀ : Db} {commit : Commit}
    (hp : Plans object db₀ h commit) (hc : commit env db = .ok (db', entry)) :
    Written env object db₀ db db' h := by
  cases hp with
  | nothing => exact .nothing (noCommit_eq_ok.mp hc).1
  | sponsorship hpays =>
    simp only [activateCommunitySponsorshipFromSession, bind_eq_ok] at hc
    obtain ⟨payment | _, hpayment, hc⟩ := hc
    · exact .nothing (noCommit_eq_ok.mp hc).1
    · dsimp only at hc
      split_ifs at hc with hs
      · exact .nothing (noCommit_eq_ok.mp hc).1
      · obtain ⟨terms, hterms, h⟩ := activateSponsorship_eq_ok.mp ⟨entry, hc⟩
        exact .activation hpays hpayment hs hterms h
  | subscription _ hpays =>
    simp only [activateSubscriptionFromSession] at hc
    split_ifs at hc with hcomplete
    · obtain ⟨terms, id, hterms, h⟩ := activateSubscription_eq_ok.mp ⟨entry, hc⟩
      exact .subscription hpays hcomplete hterms h
    · exact .nothing (noCommit_eq_ok.mp hc).1
  | update =>
    obtain ⟨_, _, _, _, _, hframe⟩ := updateSubscription_eq_ok.mp hc
    refine .change (by simp) ?_
    rw [hframe]
  | cancel => exact .change (by simp) (cancelSubscription_eq_ok.mp hc).2.frame
  | invoice _ hexisting =>
    obtain ⟨_, terms, hterms, h⟩ := recordInvoice_eq_ok.mp hc
    simp only [subscriptionWithPlan, bind_eq_ok] at hexisting
    obtain ⟨existing | _, he, hexisting⟩ := hexisting
    · cases hexisting
    · simp only [bind_eq_ok, pure_eq_ok, Option.some.injEq, Prod.mk.injEq] at hexisting
      obtain ⟨_, _, rfl, rfl⟩ := hexisting
      exact .invoice he hterms h
  | lapse => exact .change (by simp) (markPastDue_eq_ok.mp hc).2.frame
  | refund _ hexisting hs =>
    obtain ⟨_, refundAmount, hcents, h⟩ := recordRefund_eq_ok.mp hc
    exact .refund hexisting hs hcents h

end StripeWebhookService

end Innovents.Payments
