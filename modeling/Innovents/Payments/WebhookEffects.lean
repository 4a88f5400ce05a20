import Innovents.Payments.WebhookAcceptance

namespace Innovents.Payments

open Innovents.Lib JsNumber

/-- The keys under which a call can create rows. -/
def Env.keys (env : Env) : List String :=
  [env.paymentId, env.subscriptionId, env.sponsorshipId, env.outboxId, env.outboxId₂]

def blank (keys : List String) (k : String) : String := if k ∈ keys then "" else k

theorem blank_of_mem {keys : List String} {k : String} (h : k ∈ keys) : blank keys k = "" :=
  if_pos h

def blankTime (t : Option Time) : Option Time := t.map fun _ ↦ 0

def blankValue (keys : List String) : JsValue → JsValue
  | .str s => .str (blank keys s)
  | .date _ => .date 0
  | v => v

def blankPayload (keys : List String) : JsValue → JsValue
  | .obj fields => .obj (fields.map fun f ↦ (f.1, blankValue keys f.2))
  | v => v

def Payment.blank (keys : List String) (p : Payment) : Payment :=
  { p with
    id := Payments.blank keys p.id
    subscriptionId := p.subscriptionId.map (Payments.blank keys)
    paidAt := blankTime p.paidAt
    failedAt := blankTime p.failedAt
    refundedAt := blankTime p.refundedAt
    createdAt := 0 }

def Subscription.blank (keys : List String) (s : Subscription) : Subscription :=
  { s with
    id := Payments.blank keys s.id
    currentPeriodStart := blankTime s.currentPeriodStart
    currentPeriodEnd := blankTime s.currentPeriodEnd
    canceledAt := blankTime s.canceledAt }

def CommunitySponsorship.blank (keys : List String) (s : CommunitySponsorship) :
    CommunitySponsorship :=
  { s with
    id := Payments.blank keys s.id
    startsAt := blankTime s.startsAt
    endsAt := blankTime s.endsAt }

def OutboxEvent.blank (keys : List String) (o : OutboxEvent) : OutboxEvent :=
  { o with
    id := Payments.blank keys o.id
    aggregateId := Payments.blank keys o.aggregateId
    payload := blankPayload keys o.payload
    createdAt := 0 }

/-- The rows that webhooks work on, up to the given keys and all timestamps. -/
structure Effects where
  payments : List Payment
  subscriptions : List Subscription
  sponsorships : List CommunitySponsorship
  outbox : List OutboxEvent

def effects (keys : List String) (db : Db) : Effects where
  payments := db.payments.rows.map (Payment.blank keys)
  subscriptions := db.subscriptions.rows.map (Subscription.blank keys)
  sponsorships := db.communitySponsorships.rows.map (CommunitySponsorship.blank keys)
  outbox := db.outboxEvents.rows.map (OutboxEvent.blank keys)

/-- The same tables with other received events and audit logs. -/
def Db.withLogs (db : Db) (t : Table StripeWebhookEvent) (a : Table AuditLog) : Db :=
  { db with stripeWebhookEvents := t, auditLogs := a }

theorem effects_withLogs {keys : List String} {db : Db} {t : Table StripeWebhookEvent}
    {a : Table AuditLog} : effects keys (db.withLogs t a) = effects keys db := rfl

theorem effects_ext {keys : List String} {db₁ db₂ : Db}
    (hp : db₁.payments.rows.map (Payment.blank keys) = db₂.payments.rows.map (Payment.blank keys))
    (hs : db₁.subscriptions.rows.map (Subscription.blank keys) =
      db₂.subscriptions.rows.map (Subscription.blank keys))
    (hc : db₁.communitySponsorships.rows.map (CommunitySponsorship.blank keys) =
      db₂.communitySponsorships.rows.map (CommunitySponsorship.blank keys))
    (ho : db₁.outboxEvents.rows.map (OutboxEvent.blank keys) =
      db₂.outboxEvents.rows.map (OutboxEvent.blank keys)) : effects keys db₁ = effects keys db₂ := by
  simp only [effects, hp, hs, hc, ho]

namespace StripeWebhookService

variable {env env₁ env₂ : Env} {db db₁ db₂ : Db} {t : Table StripeWebhookEvent}
  {a : Table AuditLog} {object : JsValue}

theorem reads_withLogs (h : WebhookHandler) :
    h.reads object (db.withLogs t a) = h.reads object db := by
  cases h <;> rfl

theorem activationFits_withLogs {payment : Payment} {terms : ActivationTerms} :
    ActivationFits object payment terms (db.withLogs t a) ↔
      ActivationFits object payment terms db :=
  ⟨fun h ↦ ⟨h.refers, h.community_found, h.intent_free, h.unsponsored, h.session_free⟩,
    fun h ↦ ⟨h.refers, h.community_found, h.intent_free, h.unsponsored, h.session_free⟩⟩

theorem subscriptionFits_withLogs {terms : SubscriptionTerms} :
    SubscriptionFits object terms (db.withLogs t a) ↔ SubscriptionFits object terms db :=
  ⟨fun h ↦ ⟨h.refers, h.intent_free, h.session_free⟩,
    fun h ↦ ⟨h.refers, h.intent_free, h.session_free⟩⟩

/-- What a handler accepts does not depend on the logs. -/
theorem accepts_withLogs (h : WebhookHandler) :
    h.Accepts env object (db.withLogs t a) ↔ h.Accepts env object db := by
  cases h with
  | checkoutSessionCompleted =>
    simp only [WebhookHandler.Accepts, activationFits_withLogs, subscriptionFits_withLogs]
    exact Iff.rfl
  | _ => exact Iff.rfl

section Congruence

variable {keys : List String}

theorem activationTerms_congr {payment : Payment} {terms₁ terms₂ : ActivationTerms}
    (h₁ : activationTerms env₁ object payment db = .ok terms₁)
    (h₂ : activationTerms env₂ object payment db = .ok terms₂) :
    terms₁.memberCapacity = terms₂.memberCapacity ∧ terms₁.parties = terms₂.parties ∧
      terms₁.communityKey = terms₂.communityKey := by
  simp only [activationTerms, bind_eq_ok, pure_eq_ok] at h₁ h₂
  obtain ⟨planKey, hplan, _, _, parties, hparties, key, hkey, rfl⟩ := h₁
  obtain ⟨planKey', hplan', _, _, parties', hparties', key', hkey', rfl⟩ := h₂
  rw [hplan, Except.ok.injEq] at hplan'
  subst hplan'
  rw [hparties, Except.ok.injEq] at hparties'
  rw [hkey, Except.ok.injEq] at hkey'
  exact ⟨rfl, hparties', hkey'⟩

theorem subscriptionTerms_congr {terms₁ terms₂ : SubscriptionTerms}
    (h₁ : subscriptionTerms env₁ object db = .ok terms₁)
    (h₂ : subscriptionTerms env₂ object db = .ok terms₂) :
    ∃ endsAt, terms₂ = { terms₁ with currentPeriodEnd := endsAt } := by
  simp only [subscriptionTerms, bind_eq_ok, pure_eq_ok, found_eq_ok] at h₁ h₂
  obtain ⟨planKey, hkey, plan, hplan, config, hconfig, userId, huser, profileId, hprofile, subId,
    hsub, endsAt, _, customer, hcustomer, sessionId, hsession, rfl⟩ := h₁
  obtain ⟨_, hkey', _, hplan', _, hconfig', _, huser', _, hprofile', _, hsub', endsAt', _, _,
    hcustomer', _, hsession', rfl⟩ := h₂
  cases hkey.symm.trans hkey'
  cases hplan.symm.trans hplan'
  cases hconfig.symm.trans hconfig'
  cases huser.symm.trans huser'
  cases hprofile.symm.trans hprofile'
  cases hsub.symm.trans hsub'
  cases hcustomer.symm.trans hcustomer'
  cases hsession.symm.trans hsession'
  exact ⟨endsAt', rfl⟩

theorem upserted_congr {terms : SubscriptionTerms} {endsAt : Time} {id₁ id₂ : String}
    {ss₁ ss₂ : Table Subscription} (hk₁ : env₁.subscriptionId ∈ keys)
    (hk₂ : env₂.subscriptionId ∈ keys) (h₁ : Upserted env₁ terms id₁ db ss₁)
    (h₂ : Upserted env₂ { terms with currentPeriodEnd := endsAt } id₂ db ss₂) :
    blank keys id₁ = blank keys id₂ ∧
      ss₁.rows.map (Subscription.blank keys) = ss₂.rows.map (Subscription.blank keys) := by
  rcases h₁ with ⟨s₁, hs₁, hkey₁, rfl, hrows₁⟩ | ⟨hnone₁, rfl, _, hrows₁⟩ <;>
    rcases h₂ with ⟨s₂, hs₂, hkey₂, rfl, hrows₂⟩ | ⟨hnone₂, rfl, _, hrows₂⟩
  · have he : s₁ = s₂ := db.subscriptions.eq_of_unique
      (u := fun s : Subscription ↦ some s.stripeSubscriptionId) (by simp [Row.uniques]) hs₁ hs₂
      (by rw [hkey₁]) (by rw [hkey₂])
    subst he
    refine ⟨rfl, ?_⟩
    rw [hrows₁, hrows₂]
    exact Table.map_updateRows_congr fun _ ↦ rfl
  · exact absurd hkey₁ (hnone₂ s₁ hs₁)
  · exact absurd hkey₂ (hnone₁ s₂ hs₂)
  · refine ⟨by rw [blank_of_mem hk₁, blank_of_mem hk₂], ?_⟩
    rw [hrows₁, hrows₂, List.map_append, List.map_append]
    simp [Subscription.blank, SubscriptionTerms.row, subscriptionRow, blank_of_mem hk₁,
      blank_of_mem hk₂, blankTime]

theorem activated_congr {payment : Payment} {terms₁ terms₂ : ActivationTerms}
    (hk₁ : env₁.keys ⊆ keys) (hk₂ : env₂.keys ⊆ keys)
    (h₁ : Activated env₁ object payment terms₁ (db.withLogs t a) db₁)
    (h₂ : Activated env₂ object payment terms₂ db db₂)
    (hterms₁ : activationTerms env₁ object payment db = .ok terms₁)
    (hterms₂ : activationTerms env₂ object payment db = .ok terms₂) : effects keys db₁ = effects keys db₂ := by
  simp only [Env.keys, List.cons_subset, List.nil_subset, and_true] at hk₁ hk₂
  obtain ⟨_, _, hc₁, ho₁, hq₁⟩ := hk₁
  obtain ⟨_, _, hc₂, ho₂, hq₂⟩ := hk₂
  obtain ⟨hcap, hparties, _⟩ := activationTerms_congr hterms₁ hterms₂
  refine effects_ext ?_ (by rw [h₁.subscriptions, h₂.subscriptions]; rfl) ?_ ?_
  · rw [h₁.payments, h₂.payments]
    exact Table.map_updateRows_congr fun _ ↦ rfl
  · rw [h₁.sponsorships, h₂.sponsorships]
    simp [Db.withLogs, ActivationTerms.row, sponsorshipRow, CommunitySponsorship.blank, hcap,
      hparties, blankTime, blank_of_mem hc₁, blank_of_mem hc₂]
  · rw [h₁.outbox, h₂.outbox]
    simp [Db.withLogs, paidNotice, activatedNotice, OutboxEvent.blank, blankPayload, blankValue,
      hcap, blank_of_mem hc₁, blank_of_mem hc₂, blank_of_mem ho₁, blank_of_mem ho₂,
      blank_of_mem hq₁, blank_of_mem hq₂]

theorem subscribed_congr {terms₁ terms₂ : SubscriptionTerms} {id₁ id₂ : String}
    (hk₁ : env₁.keys ⊆ keys) (hk₂ : env₂.keys ⊆ keys)
    (h₁ : Subscribed env₁ object terms₁ id₁ (db.withLogs t a) db₁)
    (h₂ : Subscribed env₂ object terms₂ id₂ db db₂)
    (hterms₁ : subscriptionTerms env₁ object db = .ok terms₁)
    (hterms₂ : subscriptionTerms env₂ object db = .ok terms₂) : effects keys db₁ = effects keys db₂ := by
  simp only [Env.keys, List.cons_subset, List.nil_subset, and_true] at hk₁ hk₂
  obtain ⟨hp₁, hs₁, _, ho₁, _⟩ := hk₁
  obtain ⟨hp₂, hs₂, _, ho₂, _⟩ := hk₂
  obtain ⟨endsAt, rfl⟩ := subscriptionTerms_congr hterms₁ hterms₂
  obtain ⟨hid, hrows⟩ := upserted_congr hs₁ hs₂ h₁.upserted h₂.upserted
  refine effects_ext ?_ hrows (by rw [h₁.sponsorships, h₂.sponsorships]; rfl) ?_
  · rw [h₁.payments, h₂.payments]
    simp [Db.withLogs, SubscriptionTerms.paymentRow, sessionPaymentRow, Payment.blank, blankTime,
      hid, blank_of_mem hp₁, blank_of_mem hp₂]
  · rw [h₁.outbox, h₂.outbox]
    simp [Db.withLogs, subscribedNotice, OutboxEvent.blank, blankPayload, blankValue, hid,
      blank_of_mem ho₁, blank_of_mem ho₂]

theorem changed_congr {f₁ f₂ : Subscription → Subscription} {notice₁ notice₂ : OutboxEvent}
    {id : String} (hf : ∀ s, (f₁ s).blank keys = (f₂ s).blank keys)
    (hnotice : notice₁.blank keys = notice₂.blank keys)
    (h₁ : Changed f₁ notice₁ id (db.withLogs t a) db₁) (h₂ : Changed f₂ notice₂ id db db₂) :
    effects keys db₁ = effects keys db₂ := by
  refine effects_ext (by rw [h₁.payments, h₂.payments]; rfl) ?_
    (by rw [h₁.sponsorships, h₂.sponsorships]; rfl) ?_
  · rw [h₁.subscriptions, h₂.subscriptions]
    exact Table.map_updateRows_congr hf
  · rw [h₁.outbox, h₂.outbox, List.map_append, List.map_append]
    simp [Db.withLogs, hnotice]

theorem invoiced_congr {existing : Subscription} {planConfig : SubscriptionPlanConfig}
    {terms : InvoiceTerms} (hk₁ : env₁.keys ⊆ keys) (hk₂ : env₂.keys ⊆ keys)
    (h₁ : Invoiced env₁ object existing planConfig terms (db.withLogs t a) db₁)
    (h₂ : Invoiced env₂ object existing planConfig terms db db₂) :
    effects keys db₁ = effects keys db₂ := by
  simp only [Env.keys, List.cons_subset, List.nil_subset, and_true] at hk₁ hk₂
  obtain ⟨hp₁, _, _, ho₁, _⟩ := hk₁
  obtain ⟨hp₂, _, _, ho₂, _⟩ := hk₂
  refine effects_ext ?_ (by rw [h₁.subscriptions, h₂.subscriptions]; rfl)
    (by rw [h₁.sponsorships, h₂.sponsorships]; rfl) ?_
  · rw [h₁.payments, h₂.payments]
    simp [Db.withLogs, InvoiceTerms.row, invoicePaymentRow, Payment.blank, blankTime,
      blank_of_mem hp₁, blank_of_mem hp₂]
  · rw [h₁.outbox, h₂.outbox]
    simp [Db.withLogs, renewedNotice, OutboxEvent.blank, blank_of_mem ho₁, blank_of_mem ho₂]

theorem refunded_congr {existing : Payment} {refundAmount : Money}
    (hk₁ : env₁.keys ⊆ keys) (hk₂ : env₂.keys ⊆ keys)
    (h₁ : Refunded env₁ object existing refundAmount (db.withLogs t a) db₁)
    (h₂ : Refunded env₂ object existing refundAmount db db₂) :
    effects keys db₁ = effects keys db₂ := by
  simp only [Env.keys, List.cons_subset, List.nil_subset, and_true] at hk₁ hk₂
  obtain ⟨_, _, _, ho₁, _⟩ := hk₁
  obtain ⟨_, _, _, ho₂, _⟩ := hk₂
  refine effects_ext ?_ (by rw [h₁.subscriptions, h₂.subscriptions]; rfl)
    (by rw [h₁.sponsorships, h₂.sponsorships]; rfl) ?_
  · rw [h₁.payments, h₂.payments]
    exact Table.map_updateRows_congr fun _ ↦ rfl
  · rw [h₁.outbox, h₂.outbox]
    simp [Db.withLogs, refundedNotice, OutboxEvent.blank, blank_of_mem ho₁, blank_of_mem ho₂]

theorem noCommit_congr {e₁ e₂ : Option CreateAuditLogParams}
    (h₁ : noCommit env₁ (db.withLogs t a) = .ok (db₁, e₁))
    (h₂ : noCommit env₂ db = .ok (db₂, e₂)) : effects keys db₁ = effects keys db₂ := by
  rw [(noCommit_eq_ok.mp h₁).1, (noCommit_eq_ok.mp h₂).1, effects_withLogs]

/-- A transaction has the same effects whatever the clock, the generated keys and
the logs. -/
theorem effects_congr {h : WebhookHandler} {db₀ : Db} {commit : Commit}
    (hk₁ : env₁.keys ⊆ keys) (hk₂ : env₂.keys ⊆ keys) (hp : Plans object db₀ h commit)
    {e₁ e₂ : Option CreateAuditLogParams}
    (h₁ : commit env₁ (db.withLogs t a) = .ok (db₁, e₁)) (h₂ : commit env₂ db = .ok (db₂, e₂)) :
    effects keys db₁ = effects keys db₂ := by
  have hout₁ : env₁.outboxId ∈ keys := hk₁ (by simp [Env.keys])
  have hout₂ : env₂.outboxId ∈ keys := hk₂ (by simp [Env.keys])
  cases hp with
  | nothing => exact noCommit_congr h₁ h₂
  | sponsorship =>
    simp only [activateCommunitySponsorshipFromSession, bind_eq_ok] at h₁ h₂
    obtain ⟨found, hf, h₁⟩ := h₁
    obtain ⟨found', hf', h₂⟩ := h₂
    have he : found = found' := Except.ok.inj (hf.symm.trans hf')
    subst he
    cases found with
    | none => exact noCommit_congr h₁ h₂
    | some payment =>
      dsimp only at h₁ h₂
      split_ifs at h₁ h₂ with hstatus
      · exact noCommit_congr h₁ h₂
      · obtain ⟨terms₁, hterms₁, ha₁⟩ := activateSponsorship_eq_ok.mp ⟨e₁, h₁⟩
        obtain ⟨terms₂, hterms₂, ha₂⟩ := activateSponsorship_eq_ok.mp ⟨e₂, h₂⟩
        exact activated_congr hk₁ hk₂ ha₁ ha₂ hterms₁ hterms₂
  | subscription =>
    simp only [activateSubscriptionFromSession] at h₁ h₂
    split_ifs at h₁ h₂ with hcomplete
    · obtain ⟨terms₁, id₁, hterms₁, hs₁⟩ := activateSubscription_eq_ok.mp ⟨e₁, h₁⟩
      obtain ⟨terms₂, id₂, hterms₂, hs₂⟩ := activateSubscription_eq_ok.mp ⟨e₂, h₂⟩
      exact subscribed_congr hk₁ hk₂ hs₁ hs₂ hterms₁ hterms₂
    · exact noCommit_congr h₁ h₂
  | update =>
    obtain ⟨_, change, hchange, _, hrows₁, hframe₁⟩ := updateSubscription_eq_ok.mp h₁
    obtain ⟨_, change', hchange', _, hrows₂, hframe₂⟩ := updateSubscription_eq_ok.mp h₂
    cases hchange.symm.trans hchange'
    exact effects_ext (by rw [hframe₁, hframe₂]; rfl) (by rw [hrows₁, hrows₂]; rfl)
      (by rw [hframe₁, hframe₂]; rfl) (by rw [hframe₁, hframe₂]; rfl)
  | cancel =>
    refine changed_congr ?_ ?_ (cancelSubscription_eq_ok.mp h₁).2
      (cancelSubscription_eq_ok.mp h₂).2
    · exact fun _ ↦ rfl
    · simp [cancelledNotice, OutboxEvent.blank, blank_of_mem hout₁, blank_of_mem hout₂]
  | invoice =>
    obtain ⟨_, terms, hterms, hi₁⟩ := recordInvoice_eq_ok.mp h₁
    obtain ⟨_, terms', hterms', hi₂⟩ := recordInvoice_eq_ok.mp h₂
    cases hterms.symm.trans hterms'
    exact invoiced_congr hk₁ hk₂ hi₁ hi₂
  | lapse =>
    refine changed_congr ?_ ?_ (markPastDue_eq_ok.mp h₁).2 (markPastDue_eq_ok.mp h₂).2
    · exact fun _ ↦ rfl
    · simp [lapsedNotice, OutboxEvent.blank, blank_of_mem hout₁, blank_of_mem hout₂]
  | refund =>
    obtain ⟨_, amount, hamount, hr₁⟩ := recordRefund_eq_ok.mp h₁
    obtain ⟨_, amount', hamount', hr₂⟩ := recordRefund_eq_ok.mp h₂
    have he : amount = amount' := Money.ext (hamount.trans hamount'.symm)
    subst he
    exact refunded_congr hk₁ hk₂ hr₁ hr₂

end Congruence

section Again

/-- Whether a second run of a handler adds nothing to the first: the handler
skips what it finds done, or writes the same values, or has nothing to do. -/
def WebhookHandler.RunsAgain (object : JsValue) (db : Db) : WebhookHandler → Prop
  | checkoutSessionCompleted => paysSponsorship object = true ∨
    paysSubscription object = false ∨ isComplete object = false
  | subscriptionUpdated | chargeRefunded => True
  | subscriptionDeleted => ∀ s ∈ db.subscriptions.rows,
    (object.get "id").asStr? ≠ some s.stripeSubscriptionId
  | invoicePaid | invoicePaymentFailed => (object.get "subscription").truthy = true →
    ∀ s ∈ db.subscriptions.rows, (object.get "subscription").asStr? ≠ some s.stripeSubscriptionId

/-- After its activation a session still finds its payment, now paid. -/
theorem sessionPayment_paid {env : Env} {payment : Payment}
    (h : sessionPayment object db = .ok (some payment))
    (hrows : db₁.payments.rows =
      Table.updateRows payment.id (markPaid env object) db.payments.rows) :
    sessionPayment object db₁ = .ok (some (markPaid env object payment)) := by
  have hget (id : String) : db₁.payments.get? id =
      (db.payments.get? id).map fun r ↦
        if Row.id r = payment.id then markPaid env object r else r := by
    simp only [Table.get?, Table.find?, hrows]
    exact Table.find?_updateRows _ fun _ ↦ rfl
  have hsession (k : String) :
      (db₁.payments.find? fun p ↦ p.stripeCheckoutSessionId == some k) =
        (db.payments.find? fun p ↦ p.stripeCheckoutSessionId == some k).map fun r ↦
          if Row.id r = payment.id then markPaid env object r else r := by
    simp only [Table.find?, hrows]
    exact Table.find?_updateRows _ fun _ ↦ rfl
  have hself : (if Row.id payment = payment.id then markPaid env object payment else payment) =
      markPaid env object payment := if_pos rfl
  simp only [sessionPayment, bind_eq_ok] at h ⊢
  obtain ⟨named, hnamed, h⟩ := h
  refine ⟨named.map fun r ↦ if Row.id r = payment.id then markPaid env object r else r, ?_, ?_⟩
  · unfold namedPayment at hnamed ⊢
    dsimp only at hnamed ⊢
    split_ifs at hnamed ⊢ with hid
    · simp only [bind_eq_ok, pure_eq_ok, require_eq_ok] at hnamed ⊢
      obtain ⟨id, hk, u, huuid, rfl⟩ := hnamed
      exact ⟨id, hk, u, huuid, hget id⟩
    · cases hnamed
      rfl
  · cases named with
    | some p =>
      simp only [pure_eq_ok, Option.some.injEq, Option.map_some] at h ⊢
      rw [h, hself]
    | none =>
      simp only [Option.map_none, openedPayment] at h ⊢
      split_ifs at h ⊢ with hid
      · simp only [bind_eq_ok, pure_eq_ok] at h ⊢
        obtain ⟨k, hk, hf⟩ := h
        exact ⟨k, hk, by rw [hsession, hf, Option.map_some, hself]⟩
      · cases h

/-- After a change of a subscription it is still found, changed. -/
theorem subscriptionOf_kept {v : JsValue} {s : Subscription} {f : Subscription → Subscription}
    (hkey : ∀ s, (f s).stripeSubscriptionId = s.stripeSubscriptionId)
    (h : subscriptionOf v db = .ok (some s))
    (hrows : db₁.subscriptions.rows = Table.updateRows s.id f db.subscriptions.rows) :
    subscriptionOf v db₁ = .ok (some (f s)) := by
  simp only [subscriptionOf, bind_eq_ok, pure_eq_ok] at h ⊢
  obtain ⟨k, hk, hf⟩ := h
  refine ⟨k, hk, ?_⟩
  simp only [Table.find?, hrows] at hf ⊢
  rw [Table.find?_updateRows f fun s ↦ by rw [hkey], hf, Option.map_some,
    if_pos (show Row.id s = s.id from rfl)]

/-- After a refund of a charge its payment is still found, refunded. -/
theorem chargedPayment_kept {p : Payment} {env : Env} {refundAmount : Money}
    (h : chargedPayment object db = .ok (some p))
    (hrows : db₁.payments.rows =
      Table.updateRows p.id (markRefunded env refundAmount) db.payments.rows) :
    chargedPayment object db₁ = .ok (some (markRefunded env refundAmount p)) := by
  simp only [chargedPayment, bind_eq_ok, pure_eq_ok] at h ⊢
  obtain ⟨k, hk, hf⟩ := h
  refine ⟨k, hk, ?_⟩
  simp only [Table.find?, hrows] at hf ⊢
  rw [Table.find?_updateRows (markRefunded env refundAmount) fun _ ↦ rfl, hf, Option.map_some,
    if_pos (show Row.id p = p.id from rfl)]

theorem subscriptionChange_twice (change : SubscriptionChange) (s : Subscription) :
    change.apply (change.apply s) = change.apply s := by
  have hor {β : Type} (x y : Option β) : x.or (x.or y) = x.or y := by cases x <;> rfl
  simp only [SubscriptionChange.apply, hor]

/-- A handler whose transaction has been made goes through again, to the same effects. -/
theorem runs_again {h : WebhookHandler} {commit : Commit} {e : Option CreateAuditLogParams}
    (hagain : h.RunsAgain object db) (hreads : h.reads object db = .ok commit)
    (hrun : commit env₁ (db.withLogs t a) = .ok (db₁, e)) (t' : Table StripeWebhookEvent)
    (a' : Table AuditLog) (env₂ : Env) (keys : List String) :
    ∃ commit', h.reads object (db₁.withLogs t' a') = .ok commit' ∧
      ∃ db₂ e₂, commit' env₂ (db₁.withLogs t' a') = .ok (db₂, e₂) ∧
        effects keys db₂ = effects keys db₁ := by
  have hnothing (c : Commit) (hc : c = noCommit) (hsame : db₁ = db.withLogs t a)
      (hr : h.reads object db = .ok c) :
      ∃ commit', h.reads object (db₁.withLogs t' a') = .ok commit' ∧
        ∃ db₂ e₂, commit' env₂ (db₁.withLogs t' a') = .ok (db₂, e₂) ∧
          effects keys db₂ = effects keys db₁ := by
    subst hc hsame
    refine ⟨noCommit, ?_, _, none, rfl, rfl⟩
    rw [reads_withLogs, reads_withLogs, hr]
  cases plans_of_reads hreads with
  | nothing => exact hnothing _ rfl (noCommit_eq_ok.mp hrun).1 hreads
  | sponsorship hpays =>
    refine ⟨_, by rw [reads_withLogs]; exact hreads, ?_⟩
    simp only [activateCommunitySponsorshipFromSession, bind_eq_ok] at hrun ⊢
    obtain ⟨found, hf, hrun⟩ := hrun
    cases found with
    | none =>
      rw [(noCommit_eq_ok.mp hrun).1]
      exact ⟨(db.withLogs t a).withLogs t' a', none, ⟨none, hf, rfl⟩, rfl⟩
    | some payment =>
      dsimp only at hrun
      split_ifs at hrun with hstatus
      · rw [(noCommit_eq_ok.mp hrun).1]
        exact ⟨(db.withLogs t a).withLogs t' a', none,
          ⟨some payment, hf, by simp only [hstatus, if_true]; rfl⟩, rfl⟩
      · obtain ⟨terms, _, hact⟩ := activateSponsorship_eq_ok.mp ⟨e, hrun⟩
        have hf' : sessionPayment object (db₁.withLogs t' a') =
            .ok (some (markPaid env₁ object payment)) := sessionPayment_paid hf hact.payments
        exact ⟨db₁.withLogs t' a', none, ⟨_, hf', by simp only [markPaid, if_true]; rfl⟩, rfl⟩
  | subscription hnot hsub =>
    have hincomplete : isComplete object = false := by
      simpa [WebhookHandler.RunsAgain, hnot, hsub] using hagain
    refine ⟨_, by rw [reads_withLogs]; exact hreads, ?_⟩
    simp only [activateSubscriptionFromSession, hincomplete, Bool.false_eq_true, if_false] at hrun ⊢
    rw [(noCommit_eq_ok.mp hrun).1]
    exact ⟨(db.withLogs t a).withLogs t' a', none, rfl, rfl⟩
  | @update existing hf =>
    obtain ⟨_, change, hchange, ⟨s, hs, hid⟩, hrows, _⟩ := updateSubscription_eq_ok.mp hrun
    have hf' : subscriptionOf (object.get "id") (db₁.withLogs t' a') =
        .ok (some (change.apply existing)) := subscriptionOf_kept (fun _ ↦ rfl) hf hrows
    have htwice : db₁.subscriptions.rows =
        Table.updateRows existing.id change.apply db₁.subscriptions.rows := by
      rw [hrows, Table.updateRows_twice (f := change.apply) (fun _ ↦ rfl)
        (subscriptionChange_twice change)]
    refine ⟨updateSubscription object (change.apply existing), ?_, db₁.withLogs t' a', none,
      updateSubscription_eq_ok.mpr ⟨rfl, change, hchange, ?_, htwice, rfl⟩, rfl⟩
    · simp only [WebhookHandler.reads, handleSubscriptionUpdated, bind_eq_ok]
      exact ⟨_, hf', rfl⟩
    · have hm : change.apply s ∈ db₁.subscriptions.rows := by
        rw [hrows]
        exact Table.mem_updateRows.mpr (.inl ⟨s, hs, hid, rfl⟩)
      exact ⟨change.apply s, hm, hid⟩
  | cancel hf =>
    obtain ⟨hm, hk⟩ := subscriptionOf_eq_some (subscriptionWithPlan_eq_some.mp hf).1
    exact absurd (textArg_eq_ok.mp hk) (hagain _ hm)
  | invoice hpays hf =>
    obtain ⟨hm, hk⟩ := subscriptionOf_eq_some (subscriptionWithPlan_eq_some.mp hf).1
    exact absurd (textArg_eq_ok.mp hk) (hagain hpays _ hm)
  | lapse hpays hf =>
    obtain ⟨hm, hk⟩ := subscriptionOf_eq_some (subscriptionWithPlan_eq_some.mp hf).1
    exact absurd (textArg_eq_ok.mp hk) (hagain hpays _ hm)
  | refund hpays hf =>
    obtain ⟨_, amount, _, hrefunded⟩ := recordRefund_eq_ok.mp hrun
    have hf' : chargedPayment object (db₁.withLogs t' a') =
        .ok (some (markRefunded env₁ amount _)) := chargedPayment_kept hf hrefunded.payments
    refine ⟨noCommit, ?_, db₁.withLogs t' a', none, rfl, rfl⟩
    simp only [WebhookHandler.reads, handleChargeRefunded, hpays, if_true, bind_eq_ok]
    exact ⟨_, hf', rfl⟩

theorem activateSubscription_logs {e : Option CreateAuditLogParams}
    (h : activateSubscription object env db = .ok (db₁, e)) : e.isSome = true := by
  simp only [activateSubscription, bind_eq_ok, pure_eq_ok, Prod.mk.injEq, Prod.exists] at h
  obtain ⟨_, _, _, _, _, _, _, _, _, _, _, _, _, _, _, _, _, _, _, _, _, _, rfl⟩ := h
  rfl

/-- A subscription that was found before a change of it is found after it. -/
theorem found_after_change {v : JsValue} {existing : Subscription}
    {f : Subscription → Subscription} {rows : List Subscription}
    (hkey : ∀ s, (f s).stripeSubscriptionId = s.stripeSubscriptionId)
    (hf : subscriptionOf v db = .ok (some existing))
    (hrows : rows = db.subscriptions.rows ∨
      rows = Table.updateRows existing.id f db.subscriptions.rows) :
    ∃ s ∈ rows, v.asStr? = some s.stripeSubscriptionId := by
  obtain ⟨hm, hk⟩ := subscriptionOf_eq_some hf
  rcases hrows with rfl | rfl
  · exact ⟨existing, hm, textArg_eq_ok.mp hk⟩
  · refine ⟨f existing, Table.mem_updateRows.mpr (.inl ⟨existing, hm, rfl, rfl⟩), ?_⟩
    rw [textArg_eq_ok.mp hk, hkey]

/-- Every run of a handler that does not run again adds an announcement, and
leaves it no more able to run again. -/
theorem runs_once {h : WebhookHandler} {commit : Commit} {e : Option CreateAuditLogParams}
    (hagain : ¬h.RunsAgain object db) (hreads : h.reads object db = .ok commit)
    (hrun : commit env (db.withLogs t a) = .ok (db₁, e)) :
    db₁.outboxEvents.rows.length = db.outboxEvents.rows.length + 1 ∧
      ¬h.RunsAgain object db₁ ∧ (e.isSome = true ↔ h = .checkoutSessionCompleted) := by
  cases h with
  | checkoutSessionCompleted =>
    obtain ⟨hnot, hsub, hcomplete⟩ : paysSponsorship object = false ∧
        paysSubscription object = true ∧ isComplete object = true := by
      simpa [WebhookHandler.RunsAgain] using hagain
    simp only [WebhookHandler.reads, handleCheckoutSessionCompleted, hnot, hsub,
      Bool.false_eq_true, if_false, if_true, Except.ok.injEq] at hreads
    subst hreads
    simp only [activateSubscriptionFromSession, hcomplete, if_true] at hrun
    obtain ⟨terms, id, _, hs⟩ := activateSubscription_eq_ok.mp ⟨e, hrun⟩
    exact ⟨by simp [hs.outbox, Db.withLogs], hagain, iff_of_true (activateSubscription_logs hrun) rfl⟩
  | subscriptionUpdated | chargeRefunded => exact absurd trivial hagain
  | subscriptionDeleted =>
    simp only [WebhookHandler.reads, handleSubscriptionDeleted, bind_eq_ok] at hreads
    obtain ⟨found | ⟨existing, planConfig⟩, hf, hreads⟩ := hreads
    · exact absurd (subscriptionOf_eq_none (subscriptionWithPlan_eq_none.mp hf)) hagain
    · cases hreads
      obtain ⟨rfl, hc⟩ := cancelSubscription_eq_ok.mp hrun
      obtain ⟨s, hs, hk⟩ := found_after_change (f := cancel env) (fun _ ↦ rfl)
        (subscriptionWithPlan_eq_some.mp hf).1 (.inr hc.subscriptions)
      exact ⟨by simp [hc.outbox, Db.withLogs], fun hn ↦ hn s hs hk, by simp⟩
  | invoicePaid =>
    simp only [WebhookHandler.RunsAgain, Classical.not_imp] at hagain
    simp only [WebhookHandler.reads, handleInvoicePaid, hagain.1, if_true, bind_eq_ok] at hreads
    obtain ⟨found | ⟨existing, planConfig⟩, hf, hreads⟩ := hreads
    · exact absurd (subscriptionOf_eq_none (subscriptionWithPlan_eq_none.mp hf)) hagain.2
    · cases hreads
      obtain ⟨rfl, terms, _, hi⟩ := recordInvoice_eq_ok.mp hrun
      have hrows := hi.subscriptions
      unfold InvoiceTerms.extendRows at hrows
      obtain ⟨s, hs, hk⟩ : ∃ s ∈ db₁.subscriptions.rows,
          (object.get "subscription").asStr? = some s.stripeSubscriptionId := by
        cases hend : terms.periodEnd with
        | none =>
          rw [hend, Option.elim_none] at hrows
          exact found_after_change (f := lapse) (fun _ ↦ rfl)
            (subscriptionWithPlan_eq_some.mp hf).1 (.inl hrows)
        | some periodEnd =>
          rw [hend, Option.elim_some] at hrows
          exact found_after_change (f := extend periodEnd) (fun _ ↦ rfl)
            (subscriptionWithPlan_eq_some.mp hf).1 (.inr hrows)
      exact ⟨by simp [hi.outbox, Db.withLogs], fun hn ↦ hn hagain.1 s hs hk, by simp⟩
  | invoicePaymentFailed =>
    simp only [WebhookHandler.RunsAgain, Classical.not_imp] at hagain
    simp only [WebhookHandler.reads, handleInvoicePaymentFailed, hagain.1, if_true,
      bind_eq_ok] at hreads
    obtain ⟨found | ⟨existing, planConfig⟩, hf, hreads⟩ := hreads
    · exact absurd (subscriptionOf_eq_none (subscriptionWithPlan_eq_none.mp hf)) hagain.2
    · cases hreads
      obtain ⟨rfl, hc⟩ := markPastDue_eq_ok.mp hrun
      obtain ⟨s, hs, hk⟩ := found_after_change (f := lapse) (fun _ ↦ rfl)
        (subscriptionWithPlan_eq_some.mp hf).1 (.inr hc.subscriptions)
      exact ⟨by simp [hc.outbox, Db.withLogs], fun hn ↦ hn hagain.1 s hs hk, by simp⟩

/-- What runs again is accepted whatever the clock, except that a sponsorship may
end beyond the last date; then its activation shows. -/
theorem accepts_or_activated {h : WebhookHandler} {commit : Commit}
    {e : Option CreateAuditLogParams} (hfresh : env₁.Fresh db) (hagain : h.RunsAgain object db)
    (hreads : h.reads object db = .ok commit)
    (hrun : commit env₁ (db.withLogs t a) = .ok (db₁, e)) (hnot : ¬h.Accepts env₂ object db) :
    db₁.communitySponsorships.rows.length = db.communitySponsorships.rows.length + 1 := by
  have haccepts : h.Accepts env₁ object db :=
    (accepts_withLogs h).mp ((runs_iff_accepts h ?_).mp
      ⟨commit, by rw [reads_withLogs]; exact hreads, db₁, e, hrun⟩)
  · cases h with
    | checkoutSessionCompleted =>
      simp only [WebhookHandler.Accepts] at hnot haccepts
      split_ifs at hnot haccepts with hpays
      · simp only [WebhookHandler.reads, handleCheckoutSessionCompleted, hpays, if_true,
          Except.ok.injEq] at hreads
        subst hreads
        simp only [activateCommunitySponsorshipFromSession, bind_eq_ok] at hrun
        obtain ⟨found, hf, hrun⟩ := hrun
        cases found with
        | none => exact absurd ⟨none, hf, by simp⟩ hnot
        | some payment =>
          dsimp only at hrun
          split_ifs at hrun with hstatus
          · refine absurd ⟨some payment, hf, ?_⟩ hnot
            rintro _ h hne
            cases h
            exact absurd hstatus hne
          · obtain ⟨terms, _, hact⟩ := activateSponsorship_eq_ok.mp ⟨e, hrun⟩
            simp [hact.sponsorships, Db.withLogs]
      · refine absurd (fun hsub hcomplete ↦ ?_) hnot
        simp [WebhookHandler.RunsAgain, hpays, hsub, hcomplete] at hagain
    | _ => exact absurd haccepts hnot
  · exact ⟨hfresh.payment, hfresh.subscription, hfresh.sponsorship, hfresh.outbox,
      hfresh.outbox_ne⟩

end Again

section Delivered

variable {event : PaymentWebhookEvent} {db₀ : Db}

theorem failDelivery_error (err : Err) (recordId : String) (db : Db) :
    ∃ err' t, failDelivery err recordId db = (.error err', db.withLogs t db.auditLogs) := by
  unfold failDelivery markFailed
  split
  · next db' h =>
    obtain ⟨t, _, ht⟩ := (modify_eq_ok _).mp h
    exact ⟨err, t, by rw [← ht]; rfl⟩
  · exact ⟨_, db.stripeWebhookEvents, rfl⟩

/-- What a delivery does to the tables: nothing but to the event row, or what the
transaction of the event's handler does. -/
inductive DeliveredTo (env : Env) (event : PaymentWebhookEvent) (db : Db) :
    Except Err WebhookReply → Db → Prop
  | unhandled {r : Except Err WebhookReply} {t : Table StripeWebhookEvent} :
      (handlerFor event.type ≠ none → r ≠ .ok ⟨true, false⟩) →
      DeliveredTo env event db r (db.withLogs t db.auditLogs)
  | handled {r : Except Err WebhookReply} {h : WebhookHandler} {commit : Commit} {db₁ : Db}
      {e : Option CreateAuditLogParams} {t₀ t : Table StripeWebhookEvent} {a : Table AuditLog} :
      handlerFor event.type = some h → h.reads (eventObject event) db = .ok commit →
      commit env (db.withLogs t₀ db.auditLogs) = .ok (db₁, e) →
      DeliveredTo env event db r (db₁.withLogs t a)

theorem processRecord_delivered (env : Env) (recordId : String) {t₀ : Table StripeWebhookEvent}
    (hdb : db = db₀.withLogs t₀ db₀.auditLogs) :
    DeliveredTo env event db₀ (processRecord env event recordId db).1
      (processRecord env event recordId db).2 := by
  have hfail (err : Err) : DeliveredTo env event db₀ (failDelivery err recordId db).1
      (failDelivery err recordId db).2 := by
    obtain ⟨err', t, h⟩ := failDelivery_error err recordId db
    rw [h, hdb]
    exact .unhandled fun _ he ↦ by cases he
  unfold processRecord
  cases hd : dispatchWebhookEvent env event db with
  | error err => exact hfail err
  | ok db' =>
    cases hh : handlerFor event.type with
    | none =>
      simp only [dispatchWebhookEvent, dispatchTarget, hh, Option.map_none, Except.ok.injEq] at hd
      subst hd
      dsimp only
      cases hm : markProcessed env recordId db with
      | error err => exact hfail err
      | ok db'' =>
        obtain ⟨t, _, ht⟩ := (modify_eq_ok _).mp hm
        rw [← ht, hdb]
        exact .unhandled (t := t) fun hn ↦ absurd hh hn
    | some h =>
      simp only [dispatchWebhookEvent, dispatchTarget, hh, Option.map_some, WebhookHandler.run,
        bind_eq_ok, pure_eq_ok, Prod.exists] at hd
      obtain ⟨commit, hr, db₁, e, hc, hlog⟩ := hd
      obtain ⟨a, ha⟩ : ∃ a, db' = db₁.withLogs db₁.stripeWebhookEvents a := by
        rw [← hlog]
        cases e with
        | none => exact ⟨db₁.auditLogs, rfl⟩
        | some entry => exact AuditService.log_frame env entry db₁
      rw [hdb] at hc hr
      rw [reads_withLogs] at hr
      dsimp only
      cases hm : markProcessed env recordId db' with
      | error err =>
        obtain ⟨err', t, hf⟩ := failDelivery_error err recordId db'
        dsimp only
        rw [hf, ha]
        show DeliveredTo env event db₀ _ (db₁.withLogs t a)
        exact .handled hh hr hc
      | ok db'' =>
        obtain ⟨t, _, ht⟩ := (modify_eq_ok _).mp hm
        rw [← ht, ha]
        show DeliveredTo env event db₀ _ (db₁.withLogs t a)
        exact .handled hh hr hc

theorem handleVerified_delivered (env : Env) (event : PaymentWebhookEvent) (db : Db) :
    DeliveredTo env event db (handleVerified env event db).1 (handleVerified env event db).2 := by
  have hnone {r : Except Err WebhookReply} (hr : r ≠ .ok ⟨true, false⟩) :
      DeliveredTo env event db r db :=
    .unhandled (t := db.stripeWebhookEvents) fun _ ↦ hr
  unfold handleVerified
  split
  · split_ifs
    · exact hnone (by simp)
    · exact processRecord_delivered env _ rfl
  · split
    · exact hnone (by simp)
    · next db' hcreate =>
      obtain ⟨t, _, ht⟩ := (insert_eq_ok _).mp hcreate
      exact processRecord_delivered env _ ht.symm

end Delivered

end StripeWebhookService

end Innovents.Payments
