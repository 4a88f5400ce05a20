import Innovents.Payments.WebhookWrites

namespace Innovents.Payments

open Innovents.Lib JsNumber

/-- The keys generated for a transaction are new to the tables. -/
structure Env.Fresh (env : Env) (db : Db) : Prop where
  payment : ∀ p ∈ db.payments.rows, p.id ≠ env.paymentId
  subscription : ∀ s ∈ db.subscriptions.rows, s.id ≠ env.subscriptionId
  sponsorship : ∀ s ∈ db.communitySponsorships.rows, s.id ≠ env.sponsorshipId
  outbox : ∀ o ∈ db.outboxEvents.rows, o.id ≠ env.outboxId ∧ o.id ≠ env.outboxId₂
  outbox_ne : env.outboxId ≠ env.outboxId₂

theorem exists_outbox {t : Table OutboxEvent} {notice : OutboxEvent}
    (h : ∀ o ∈ t.rows, o.id ≠ notice.id) :
    ∃ t' : Table OutboxEvent, t'.rows = t.rows ++ [notice] :=
  Table.exists_create.mpr fun o ho ↦ clash_eq_false (h o ho) (by simp [Row.uniques])

namespace StripeWebhookService

variable {env : Env} {db : Db}

def SponsorshipParties.refersIn (parties : SponsorshipParties) (payment : Payment) (db : Db) :
    Bool :=
  db.communities.has parties.communityId && db.sponsorProfiles.has parties.sponsorId &&
    db.users.has parties.userId && db.communitySponsorshipPlans.has parties.planId &&
    db.payments.has payment.id

/-- What the constraints ask of an activation. -/
structure ActivationFits (session : JsValue) (payment : Payment) (terms : ActivationTerms)
    (db : Db) : Prop where
  refers : terms.parties.refersIn payment db = true
  community_found : ∃ c ∈ db.communities.rows, c.id = terms.communityKey
  intent_free : ∀ intent, (session.get "payment_intent").asStr? = some intent →
    ∀ p ∈ db.payments.rows, p.stripePaymentIntentId = some intent → p.id = payment.id
  unsponsored : ∀ s ∈ db.communitySponsorships.rows, s.paymentId ≠ some payment.id
  session_free : ∀ id, terms.parties.checkoutSessionId = some id →
    ∀ s ∈ db.communitySponsorships.rows, s.stripeCheckoutSessionId ≠ some id

theorem exists_paid (env : Env) {session : JsValue} {id : String} :
    (∃ ps : Table Payment, ps.rows = Table.updateRows id (markPaid env session) db.payments.rows) ↔
      ((∃ p ∈ db.payments.rows, p.id = id) →
        ∀ intent, (session.get "payment_intent").asStr? = some intent →
          ∀ p ∈ db.payments.rows, p.stripePaymentIntentId = some intent → p.id = id) := by
  rw [Table.exists_update (markPaid env session) fun _ ↦ rfl]
  constructor
  · rintro h ⟨a, ha, haid⟩ intent hintent b hb hbi
    by_contra hne
    have hc := h a ha haid b hb hne
    have hclash : clash (markPaid env session a) b = true :=
      clash_of_unique (u := (·.stripePaymentIntentId)) (by simp [Row.uniques]) hintent hbi
    simp [hclash] at hc
  · intro h a ha haid b hb hbid
    have hab : a.id ≠ b.id := fun he ↦ hbid (he.symm.trans haid)
    refine clash_eq_false hab fun u hu k hk hkb ↦ ?_
    simp only [Row.uniques, List.mem_cons, List.not_mem_nil, or_false] at hu
    rcases hu with rfl | rfl
    · exact hbid (h ⟨a, ha, haid⟩ k hk b hb hkb)
    · have hself := db.payments.eq_of_unique (u := (·.stripeCheckoutSessionId))
        (by simp [Row.uniques]) ha hb hk hkb
      exact hab (by rw [hself])

theorem exists_activated {session : JsValue} {payment : Payment} {terms : ActivationTerms}
    (hfresh : env.Fresh db) :
    (∃ db', Activated env session payment terms db db') ↔
      ActivationFits session payment terms db := by
  constructor
  · rintro ⟨db', h⟩
    have hsponsored : ∀ s ∈ db.communitySponsorships.rows, clash s (terms.row env payment) = false :=
      Table.exists_create.mp ⟨_, h.sponsorships⟩
    refine ⟨?_, h.community_found, (exists_paid env).mp ⟨_, h.payments⟩ h.payment_found, ?_, ?_⟩
    · exact h.refers
    · intro s hs hp
      have hc := hsponsored s hs
      rw [clash_of_unique (u := fun s : CommunitySponsorship ↦ s.paymentId) (by simp [Row.uniques])
        hp rfl] at hc
      cases hc
    · intro id hid s hs hp
      have hc := hsponsored s hs
      rw [clash_of_unique (u := fun s : CommunitySponsorship ↦ s.stripeCheckoutSessionId)
        (by simp [Row.uniques]) hp hid] at hc
      cases hc
  · intro h
    have hpayment : ∃ p ∈ db.payments.rows, p.id = payment.id := by
      have hr := h.refers
      simp only [SponsorshipParties.refersIn, Bool.and_eq_true] at hr
      exact Table.has_iff.mp hr.2
    obtain ⟨ps, hps⟩ := (exists_paid env).mpr fun _ ↦ h.intent_free
    obtain ⟨cs, hcs⟩ : ∃ cs : Table CommunitySponsorship,
        cs.rows = db.communitySponsorships.rows ++ [terms.row env payment] := by
      refine Table.exists_create.mpr fun s hs ↦
        clash_eq_false (hfresh.sponsorship s hs) fun u hu k hk hkr ↦ ?_
      simp only [Row.uniques, List.mem_cons, List.not_mem_nil, or_false] at hu
      rcases hu with rfl | rfl
      · exact h.unsponsored s hs (hk.trans hkr.symm)
      · exact h.session_free k hkr s hs hk
    obtain ⟨ms, hms⟩ : ∃ ms : Table Community, ms.rows =
        Table.updateRows terms.communityKey (markSponsored terms.memberCapacity)
          db.communities.rows :=
      (Table.exists_update (markSponsored _) fun _ ↦ rfl).mpr fun a _ haid b _ hbid ↦
        clash_eq_false (fun he ↦ hbid (he ▸ haid)) (by simp [Row.uniques])
    obtain ⟨os₁, hos₁⟩ := exists_outbox fun o ho ↦
      show o.id ≠ (paidNotice env session payment).id from (hfresh.outbox o ho).1
    have hfree : ∀ o ∈ os₁.rows, o.id ≠ (activatedNotice env session payment terms).id := by
      intro o ho
      rw [hos₁, List.mem_append, List.mem_singleton] at ho
      rcases ho with ho | rfl
      · exact (hfresh.outbox o ho).2
      · exact hfresh.outbox_ne
    obtain ⟨os, hos⟩ := exists_outbox hfree
    refine ⟨{ db with
      payments := ps
      communitySponsorships := cs
      communities := ms
      outboxEvents := os }, hpayment, h.refers, h.community_found, hps, hcs, hms, ?_, rfl⟩
    rw [hos, hos₁, List.append_assoc]
    rfl

def Subscriber.refersIn (subscriber : Subscriber) (plan : SubscriptionPlan) (db : Db) : Bool :=
  db.users.has subscriber.userId &&
    if isSponsorPlan plan then subscriber.profileId.all db.sponsorProfiles.has
    else subscriber.profileId.all db.vendorProfiles.has

/-- What the constraints ask of a subscription checkout. -/
structure SubscriptionFits (session : JsValue) (terms : SubscriptionTerms) (db : Db) : Prop where
  refers : terms.subscriber.refersIn terms.planConfig.plan db = true
  intent_free : ∀ intent, (session.get "payment_intent").asStr? = some intent →
    ∀ p ∈ db.payments.rows, p.stripePaymentIntentId ≠ some intent
  session_free : ∀ id, terms.checkoutSessionId = some id →
    ∀ p ∈ db.payments.rows, p.stripeCheckoutSessionId ≠ some id

theorem subscriber_refersIn {session : JsValue} {terms : SubscriptionTerms} {id : String}
    {ss : Table Subscription} (hid : ss.has id = true) :
    (terms.paymentRow env session id).refersIn { db with subscriptions := ss } =
      terms.subscriber.refersIn terms.planConfig.plan db := by
  simp only [Payment.refersIn, SubscriptionTerms.paymentRow, sessionPaymentRow, Subscriber.refersIn,
    Option.all_some, hid, Bool.and_true, Bool.and_assoc]
  cases isSponsorPlan terms.planConfig.plan <;> simp

theorem row_refersIn {terms : SubscriptionTerms}
    (hconfig : db.subscriptionPlanConfigs.has terms.planConfig.id = true) :
    (terms.row env).refersIn db = terms.subscriber.refersIn terms.planConfig.plan db := by
  simp only [Subscription.refersIn, SubscriptionTerms.row, subscriptionRow, Subscriber.refersIn,
    hconfig, Bool.and_true, Bool.and_assoc]
  cases isSponsorPlan terms.planConfig.plan <;> simp

theorem Upserted.has {terms : SubscriptionTerms} {id : String} {ss : Table Subscription}
    (h : Upserted env terms id db ss) : ss.has id = true := by
  rw [Table.has_iff]
  rcases h with ⟨s, hs, _, rfl, hrows⟩ | ⟨_, rfl, _, hrows⟩
  · exact ⟨renew env terms.currentPeriodEnd s, by
      rw [hrows]; exact Table.mem_updateRows.mpr (.inl ⟨s, hs, rfl, rfl⟩), rfl⟩
  · exact ⟨terms.row env, by rw [hrows]; simp, rfl⟩

theorem exists_upserted {terms : SubscriptionTerms} (hfresh : env.Fresh db)
    (hconfig : db.subscriptionPlanConfigs.has terms.planConfig.id = true)
    (hrefers : terms.subscriber.refersIn terms.planConfig.plan db = true) :
    ∃ id ss, Upserted env terms id db ss := by
  by_cases hs : ∃ s ∈ db.subscriptions.rows,
      s.stripeSubscriptionId = terms.subscriber.stripeSubscriptionId
  · obtain ⟨s, hs, hkey⟩ := hs
    obtain ⟨ss, hss⟩ : ∃ ss : Table Subscription, ss.rows =
        Table.updateRows s.id (renew env terms.currentPeriodEnd) db.subscriptions.rows := by
      refine (Table.exists_update (renew env _) fun _ ↦ rfl).mpr fun a ha haid b hb hbid ↦ ?_
      exact db.subscriptions.apart.forall ha hb fun he ↦ hbid (he ▸ haid)
    exact ⟨s.id, ss, .inl ⟨s, hs, hkey, rfl, hss⟩⟩
  · have hnone : ∀ s ∈ db.subscriptions.rows,
        s.stripeSubscriptionId ≠ terms.subscriber.stripeSubscriptionId :=
      fun s hm he ↦ hs ⟨s, hm, he⟩
    obtain ⟨ss, hss⟩ : ∃ ss : Table Subscription,
        ss.rows = db.subscriptions.rows ++ [terms.row env] := by
      refine Table.exists_create.mpr fun s hm ↦
        clash_eq_false (hfresh.subscription s hm) fun u hu k hk hkr ↦ ?_
      simp only [Row.uniques, List.mem_singleton] at hu
      subst hu
      exact hnone s hm (Option.some.inj (hk.trans hkr.symm))
    exact ⟨env.subscriptionId, ss, .inr ⟨hnone, rfl, (row_refersIn hconfig).trans hrefers, hss⟩⟩

theorem exists_subscribed {session : JsValue} {terms : SubscriptionTerms} (hfresh : env.Fresh db)
    (hconfig : db.subscriptionPlanConfigs.has terms.planConfig.id = true) :
    (∃ id db', Subscribed env session terms id db db') ↔ SubscriptionFits session terms db := by
  constructor
  · rintro ⟨id, db', h⟩
    have hpaid : ∀ p ∈ db.payments.rows, clash p (terms.paymentRow env session id) = false :=
      Table.exists_create.mp ⟨_, h.payments⟩
    refine ⟨(subscriber_refersIn h.upserted.has).symm.trans h.refers, ?_, ?_⟩
    · intro intent hintent p hp hpi
      have hc := hpaid p hp
      rw [clash_of_unique (u := fun p : Payment ↦ p.stripePaymentIntentId) (by simp [Row.uniques])
        hpi hintent] at hc
      cases hc
    · intro sessionId hid p hp hpi
      have hc := hpaid p hp
      rw [clash_of_unique (u := fun p : Payment ↦ p.stripeCheckoutSessionId)
        (by simp [Row.uniques]) hpi hid] at hc
      cases hc
  · intro h
    obtain ⟨id, ss, hupsert⟩ := exists_upserted hfresh hconfig h.refers
    obtain ⟨ps, hps⟩ : ∃ ps : Table Payment,
        ps.rows = db.payments.rows ++ [terms.paymentRow env session id] := by
      refine Table.exists_create.mpr fun p hp ↦
        clash_eq_false (hfresh.payment p hp) fun u hu k hk hkr ↦ ?_
      simp only [Row.uniques, List.mem_cons, List.not_mem_nil, or_false] at hu
      rcases hu with rfl | rfl
      · exact h.intent_free k hkr p hp hk
      · exact h.session_free k hkr p hp hk
    obtain ⟨os, hos⟩ := exists_outbox fun o ho ↦
      show o.id ≠ (subscribedNotice env terms id).id from (hfresh.outbox o ho).1
    exact ⟨id, { db with subscriptions := ss, payments := ps, outboxEvents := os }, hupsert,
      (subscriber_refersIn hupsert.has).trans h.refers, hps, hos, rfl⟩

/-- The user and the profiles of a subscription exist. -/
def ownerRefersIn (s : Subscription) (db : Db) : Bool :=
  db.users.has s.userId && s.sponsorProfileId.all db.sponsorProfiles.has &&
    s.vendorProfileId.all db.vendorProfiles.has

theorem exists_changed {f : Subscription → Subscription} {notice : OutboxEvent} {id : String}
    (hid : ∀ s, (f s).id = s.id)
    (hkey : ∀ s, (f s).stripeSubscriptionId = s.stripeSubscriptionId)
    (hfound : ∃ s ∈ db.subscriptions.rows, s.id = id)
    (hnotice : ∀ o ∈ db.outboxEvents.rows, o.id ≠ notice.id) :
    ∃ db', Changed f notice id db db' := by
  obtain ⟨ss, hss⟩ := Table.update_succeeds hfound hid (by simpa [Row.uniques] using hkey)
  obtain ⟨os, hos⟩ := exists_outbox hnotice
  exact ⟨{ db with subscriptions := ss, outboxEvents := os }, hfound,
    (Table.update_eq_ok.mp hss).2, hos, rfl⟩

theorem exists_invoiced {invoice : JsValue} {existing : Subscription}
    {planConfig : SubscriptionPlanConfig} {terms : InvoiceTerms} (hfresh : env.Fresh db)
    (hexisting : existing ∈ db.subscriptions.rows) :
    (∃ db', Invoiced env invoice existing planConfig terms db db') ↔
      ownerRefersIn existing db = true := by
  have hhas : db.subscriptions.has existing.id = true := Table.has_iff.mpr ⟨_, hexisting, rfl⟩
  have hrefers : (terms.row env existing).refersIn db = ownerRefersIn existing db := by
    simp only [Payment.refersIn, InvoiceTerms.row, invoicePaymentRow, Option.all_some, hhas,
      Bool.and_true, ownerRefersIn]
  constructor
  · rintro ⟨db', h⟩
    exact hrefers ▸ h.refers
  · intro h
    obtain ⟨ps, hps⟩ : ∃ ps : Table Payment,
        ps.rows = db.payments.rows ++ [terms.row env existing] :=
      Table.exists_create.mpr fun p hp ↦ clash_eq_false (hfresh.payment p hp)
        (by simp [Row.uniques, InvoiceTerms.row, invoicePaymentRow])
    obtain ⟨ss, hss⟩ : ∃ ss : Table Subscription,
        ss.rows = terms.extendRows existing.id db.subscriptions.rows := by
      unfold InvoiceTerms.extendRows
      cases terms.periodEnd with
      | none => exact ⟨db.subscriptions, rfl⟩
      | some periodEnd =>
        obtain ⟨ss, hss⟩ := Table.update_succeeds (f := extend periodEnd) ⟨_, hexisting, rfl⟩
          (fun _ ↦ rfl) (by simp [Row.uniques, extend])
        exact ⟨ss, (Table.update_eq_ok.mp hss).2⟩
    obtain ⟨os, hos⟩ := exists_outbox fun o ho ↦
      show o.id ≠ (renewedNotice env invoice existing planConfig).id from (hfresh.outbox o ho).1
    exact ⟨{ db with payments := ps, subscriptions := ss, outboxEvents := os },
      hrefers.trans h, hps, hss, hos, rfl⟩

theorem exists_refunded {charge : JsValue} {existing : Payment} {refundAmount : Money}
    (hfresh : env.Fresh db) (hexisting : existing ∈ db.payments.rows) :
    ∃ db', Refunded env charge existing refundAmount db db' := by
  obtain ⟨ps, hps⟩ := Table.update_succeeds (f := markRefunded env refundAmount)
    ⟨_, hexisting, rfl⟩ (fun _ ↦ rfl) (by simp [Row.uniques, markRefunded])
  obtain ⟨os, hos⟩ := exists_outbox fun o ho ↦
    show o.id ≠ (refundedNotice env charge existing).id from (hfresh.outbox o ho).1
  exact ⟨{ db with payments := ps, outboxEvents := os }, ⟨_, hexisting, rfl⟩,
    (Table.update_eq_ok.mp hps).2, hos, rfl⟩

theorem subscriptionOf_eq_some {v : JsValue} {s : Subscription}
    (h : subscriptionOf v db = .ok (some s)) :
    s ∈ db.subscriptions.rows ∧ textArg v = .ok s.stripeSubscriptionId := by
  simp only [subscriptionOf, bind_eq_ok, pure_eq_ok] at h
  obtain ⟨id, hid, hf⟩ := h
  obtain ⟨hm, hk⟩ := Table.find?_mem hf
  exact ⟨hm, by rw [hid, beq_iff_eq.mp hk]⟩

theorem textArg_eq_ok {v : JsValue} {k : String} : textArg v = .ok k ↔ v.asStr? = some k := by
  simp [textArg]

theorem subscriptionOf_eq_none {v : JsValue} (h : subscriptionOf v db = .ok none) :
    ∀ s ∈ db.subscriptions.rows, v.asStr? ≠ some s.stripeSubscriptionId := by
  simp only [subscriptionOf, bind_eq_ok, pure_eq_ok] at h
  obtain ⟨id, hid, hf⟩ := h
  intro s hs he
  have hne := Table.find?_eq_none.mp hf s hs
  rw [textArg_eq_ok.mp hid, Option.some.injEq] at he
  simp [he] at hne

theorem subscriptionWithPlan_eq_some {v : JsValue} {s : Subscription}
    {planConfig : SubscriptionPlanConfig} :
    subscriptionWithPlan v db = .ok (some (s, planConfig)) ↔
      subscriptionOf v db = .ok (some s) ∧
        db.subscriptionPlanConfigs.get? s.planConfigId = some planConfig := by
  simp only [subscriptionWithPlan, bind_eq_ok]
  constructor
  · rintro ⟨existing | _, he, h⟩
    · cases h
    · simp only [bind_eq_ok, found_eq_ok, pure_eq_ok, Option.some.injEq, Prod.mk.injEq] at h
      obtain ⟨_, hc, rfl, rfl⟩ := h
      exact ⟨he, hc⟩
  · rintro ⟨he, hc⟩
    exact ⟨_, he, by simp [hc]⟩

theorem subscriptionWithPlan_eq_none {v : JsValue} :
    subscriptionWithPlan v db = .ok none ↔ subscriptionOf v db = .ok none := by
  simp only [subscriptionWithPlan, bind_eq_ok]
  constructor
  · rintro ⟨existing | _, he, h⟩
    · exact he
    · simp at h
  · exact fun h ↦ ⟨_, h, rfl⟩

theorem chargedPayment_eq_some {charge : JsValue} {p : Payment}
    (h : chargedPayment charge db = .ok (some p)) :
    p ∈ db.payments.rows ∧ ∃ intent, textArg (charge.get "payment_intent") = .ok intent ∧
      p.stripePaymentIntentId = some intent := by
  simp only [chargedPayment, bind_eq_ok, pure_eq_ok] at h
  obtain ⟨intent, hi, hf⟩ := h
  obtain ⟨hm, hk⟩ := Table.find?_mem hf
  exact ⟨hm, intent, hi, beq_iff_eq.mp hk⟩

theorem subscriptionTerms_config {session : JsValue} {terms : SubscriptionTerms}
    (h : subscriptionTerms env session db = .ok terms) :
    db.subscriptionPlanConfigs.has terms.planConfig.id = true := by
  simp only [subscriptionTerms, bind_eq_ok, pure_eq_ok, found_eq_ok] at h
  obtain ⟨_, _, _, _, config, hconfig, _, _, _, _, _, _, _, _, _, _, _, _, rfl⟩ := h
  exact Table.has_iff.mpr ⟨config, (Table.find?_mem hconfig).1, rfl⟩

/-- What an event must bring along, and find in the database, for its handler
to go through. -/
def WebhookHandler.Accepts (env : Env) (object : JsValue) (db : Db) : WebhookHandler → Prop
  | checkoutSessionCompleted =>
    if paysSponsorship object then
      ∃ found, sessionPayment object db = .ok found ∧
        ∀ payment, found = some payment → payment.status ≠ .succeeded →
          ∃ terms, activationTerms env object payment db = .ok terms ∧
            ActivationFits object payment terms db
    else paysSubscription object = true → isComplete object = true →
      ∃ terms, subscriptionTerms env object db = .ok terms ∧ SubscriptionFits object terms db
  | subscriptionUpdated =>
    ∃ found, subscriptionOf (object.get "id") db = .ok found ∧
      ∀ existing, found = some existing → ∃ change, subscriptionChange object = .ok change
  | subscriptionDeleted => ∃ found, subscriptionWithPlan (object.get "id") db = .ok found
  | invoicePaid => (object.get "subscription").truthy = true →
    ∃ found, subscriptionWithPlan (object.get "subscription") db = .ok found ∧
      ∀ existing planConfig, found = some (existing, planConfig) →
        (∃ terms, invoiceTerms object existing = .ok terms) ∧ ownerRefersIn existing db = true
  | invoicePaymentFailed => (object.get "subscription").truthy = true →
    ∃ found, subscriptionWithPlan (object.get "subscription") db = .ok found
  | chargeRefunded => (object.get "payment_intent").truthy = true →
    ∃ found, chargedPayment object db = .ok found ∧
      ∀ payment, found = some payment → payment.status ≠ .refunded →
        ∃ refundAmount, Money.ofDecimal
          (shortest (amountOf (object.get "amount_refunded") payment.amount)) = .ok refundAmount

/-- The reads and the transaction of a handler go through. -/
def WebhookHandler.Runs (h : WebhookHandler) (env : Env) (object : JsValue) (db : Db) : Prop :=
  ∃ commit, h.reads object db = .ok commit ∧ ∃ db' entry, commit env db = .ok (db', entry)

theorem runs_checkout (hfresh : env.Fresh db) {object : JsValue} :
    WebhookHandler.checkoutSessionCompleted.Runs env object db ↔
      WebhookHandler.checkoutSessionCompleted.Accepts env object db := by
  simp only [WebhookHandler.Runs, WebhookHandler.reads, handleCheckoutSessionCompleted,
    WebhookHandler.Accepts]
  split_ifs with hpays hsub
  · simp only [Except.ok.injEq, exists_eq_left', activateCommunitySponsorshipFromSession,
      bind_eq_ok]
    constructor
    · rintro ⟨db', entry, found, hfound, h⟩
      refine ⟨found, hfound, ?_⟩
      rintro payment rfl hstatus
      simp only [hstatus, if_false] at h
      obtain ⟨terms, hterms, hact⟩ := activateSponsorship_eq_ok.mp ⟨entry, h⟩
      exact ⟨terms, hterms, (exists_activated hfresh).mp ⟨db', hact⟩⟩
    · rintro ⟨found | payment, hfound, h⟩
      · exact ⟨db, none, none, hfound, rfl⟩
      · by_cases hstatus : payment.status = .succeeded
        · exact ⟨db, none, some payment, hfound, by simp [hstatus, noCommit]⟩
        · obtain ⟨terms, hterms, hfits⟩ := h payment rfl hstatus
          obtain ⟨db', hact⟩ := (exists_activated hfresh).mpr hfits
          obtain ⟨entry, hrun⟩ := activateSponsorship_eq_ok.mpr ⟨terms, hterms, hact⟩
          exact ⟨db', entry, some payment, hfound, by simpa only [hstatus, if_false] using hrun⟩
  · simp only [Except.ok.injEq, exists_eq_left', activateSubscriptionFromSession]
    split_ifs with hcomplete
    · constructor
      · rintro ⟨db', entry, h⟩ _ _
        obtain ⟨terms, id, hterms, hsubscribed⟩ := activateSubscription_eq_ok.mp ⟨entry, h⟩
        exact ⟨terms, hterms,
          (exists_subscribed hfresh (subscriptionTerms_config hterms)).mp ⟨id, db', hsubscribed⟩⟩
      · intro h
        obtain ⟨terms, hterms, hfits⟩ := h hsub hcomplete
        obtain ⟨id, db', hsubscribed⟩ :=
          (exists_subscribed hfresh (subscriptionTerms_config hterms)).mpr hfits
        obtain ⟨entry, hrun⟩ := activateSubscription_eq_ok.mpr ⟨terms, id, hterms, hsubscribed⟩
        exact ⟨db', entry, hrun⟩
    · simp [noCommit, hcomplete]
  · simp [noCommit, hsub]

theorem runs_subscription (hfresh : env.Fresh db) {object : JsValue} {h : WebhookHandler}
    (hh : h = .subscriptionUpdated ∨ h = .subscriptionDeleted) :
    h.Runs env object db ↔ h.Accepts env object db := by
  rcases hh with rfl | rfl
  · simp only [WebhookHandler.Runs, WebhookHandler.reads, handleSubscriptionUpdated, bind_eq_ok,
      WebhookHandler.Accepts]
    constructor
    · rintro ⟨commit, ⟨found, hfound, hcommit⟩, db', entry, hrun⟩
      refine ⟨found, hfound, ?_⟩
      rintro existing rfl
      cases hcommit
      obtain ⟨_, change, hchange, _⟩ := updateSubscription_eq_ok.mp hrun
      exact ⟨change, hchange⟩
    · rintro ⟨found | existing, hfound, h⟩
      · exact ⟨noCommit, ⟨none, hfound, rfl⟩, db, none, rfl⟩
      · obtain ⟨change, hchange⟩ := h existing rfl
        obtain ⟨hm, _⟩ := subscriptionOf_eq_some hfound
        obtain ⟨ss, hss⟩ := Table.update_succeeds (f := change.apply) ⟨existing, hm, rfl⟩
          (fun _ ↦ rfl) (by simp [Row.uniques, SubscriptionChange.apply])
        exact ⟨_, ⟨some existing, hfound, rfl⟩, { db with subscriptions := ss }, none,
          updateSubscription_eq_ok.mpr ⟨rfl, change, hchange, ⟨existing, hm, rfl⟩,
            (Table.update_eq_ok.mp hss).2, rfl⟩⟩
  · simp only [WebhookHandler.Runs, WebhookHandler.reads, handleSubscriptionDeleted, bind_eq_ok,
      WebhookHandler.Accepts]
    constructor
    · rintro ⟨commit, ⟨found, hfound, _⟩, _⟩
      exact ⟨found, hfound⟩
    · rintro ⟨found | ⟨existing, planConfig⟩, hfound⟩
      · exact ⟨noCommit, ⟨none, hfound, rfl⟩, db, none, rfl⟩
      · obtain ⟨hm, _⟩ := subscriptionOf_eq_some (subscriptionWithPlan_eq_some.mp hfound).1
        obtain ⟨db', hchanged⟩ := exists_changed (f := cancel env) (fun _ ↦ rfl) (fun _ ↦ rfl)
          ⟨existing, hm, rfl⟩ fun o ho ↦
            show o.id ≠ (cancelledNotice env existing planConfig).id from (hfresh.outbox o ho).1
        exact ⟨_, ⟨_, hfound, rfl⟩, db', none, cancelSubscription_eq_ok.mpr ⟨rfl, hchanged⟩⟩

theorem runs_invoice (hfresh : env.Fresh db) {object : JsValue} {h : WebhookHandler}
    (hh : h = .invoicePaid ∨ h = .invoicePaymentFailed) :
    h.Runs env object db ↔ h.Accepts env object db := by
  rcases hh with rfl | rfl
  · simp only [WebhookHandler.Runs, WebhookHandler.reads, handleInvoicePaid, WebhookHandler.Accepts]
    split_ifs with htruthy
    · simp only [bind_eq_ok, htruthy, true_imp_iff]
      constructor
      · rintro ⟨commit, ⟨found, hfound, hcommit⟩, db', entry, hrun⟩
        refine ⟨found, hfound, ?_⟩
        rintro existing planConfig rfl
        cases hcommit
        obtain ⟨hm, _⟩ := subscriptionOf_eq_some (subscriptionWithPlan_eq_some.mp hfound).1
        obtain ⟨_, terms, hterms, hinvoiced⟩ := recordInvoice_eq_ok.mp hrun
        exact ⟨⟨terms, hterms⟩, (exists_invoiced hfresh hm).mp ⟨db', hinvoiced⟩⟩
      · rintro ⟨found | ⟨existing, planConfig⟩, hfound, h⟩
        · exact ⟨noCommit, ⟨none, hfound, rfl⟩, db, none, rfl⟩
        · obtain ⟨⟨terms, hterms⟩, howner⟩ := h existing planConfig rfl
          obtain ⟨hm, _⟩ := subscriptionOf_eq_some (subscriptionWithPlan_eq_some.mp hfound).1
          obtain ⟨db', hinvoiced⟩ := (exists_invoiced hfresh hm).mpr howner
          exact ⟨_, ⟨_, hfound, rfl⟩, db', none,
            recordInvoice_eq_ok.mpr ⟨rfl, terms, hterms, hinvoiced⟩⟩
    · simp [noCommit, htruthy]
  · simp only [WebhookHandler.Runs, WebhookHandler.reads, handleInvoicePaymentFailed,
      WebhookHandler.Accepts]
    split_ifs with htruthy
    · simp only [bind_eq_ok, htruthy, true_imp_iff]
      constructor
      · rintro ⟨commit, ⟨found, hfound, _⟩, _⟩
        exact ⟨found, hfound⟩
      · rintro ⟨found | ⟨existing, planConfig⟩, hfound⟩
        · exact ⟨noCommit, ⟨none, hfound, rfl⟩, db, none, rfl⟩
        · obtain ⟨hm, _⟩ := subscriptionOf_eq_some (subscriptionWithPlan_eq_some.mp hfound).1
          obtain ⟨db', hchanged⟩ := exists_changed (f := lapse) (fun _ ↦ rfl) (fun _ ↦ rfl)
            ⟨existing, hm, rfl⟩ fun o ho ↦
              show o.id ≠ (lapsedNotice env existing planConfig).id from (hfresh.outbox o ho).1
          exact ⟨_, ⟨_, hfound, rfl⟩, db', none, markPastDue_eq_ok.mpr ⟨rfl, hchanged⟩⟩
    · simp [noCommit, htruthy]

theorem runs_refund (hfresh : env.Fresh db) {object : JsValue} :
    WebhookHandler.chargeRefunded.Runs env object db ↔
      WebhookHandler.chargeRefunded.Accepts env object db := by
  simp only [WebhookHandler.Runs, WebhookHandler.reads, handleChargeRefunded,
    WebhookHandler.Accepts]
  split_ifs with htruthy
  · simp only [bind_eq_ok, htruthy, true_imp_iff]
    constructor
    · rintro ⟨commit, ⟨found, hfound, hcommit⟩, db', entry, hrun⟩
      refine ⟨found, hfound, ?_⟩
      rintro payment rfl hstatus
      simp only [hstatus, if_false] at hcommit
      cases hcommit
      obtain ⟨_, amount, hamount, _⟩ := recordRefund_eq_ok.mp hrun
      exact ⟨amount, Money.ofDecimal_eq_ok.mpr hamount⟩
    · rintro ⟨found | payment, hfound, h⟩
      · exact ⟨noCommit, ⟨none, hfound, rfl⟩, db, none, rfl⟩
      · by_cases hstatus : payment.status = .refunded
        · exact ⟨noCommit, ⟨_, hfound, by simp [hstatus]⟩, db, none, rfl⟩
        · obtain ⟨amount, hamount⟩ := h payment rfl hstatus
          obtain ⟨hm, _⟩ := chargedPayment_eq_some hfound
          obtain ⟨db', hrefunded⟩ := exists_refunded hfresh hm
          exact ⟨_, ⟨_, hfound, by simp only [hstatus, if_false]; rfl⟩, db', none,
            recordRefund_eq_ok.mpr ⟨rfl, amount, Money.ofDecimal_eq_ok.mp hamount, hrefunded⟩⟩
  · simp [noCommit, htruthy]

/-- A handler goes through exactly when it accepts its object. -/
theorem runs_iff_accepts (h : WebhookHandler) (hfresh : env.Fresh db) {object : JsValue} :
    h.Runs env object db ↔ h.Accepts env object db := by
  cases h with
  | checkoutSessionCompleted => exact runs_checkout hfresh
  | subscriptionUpdated => exact runs_subscription hfresh (.inl rfl)
  | subscriptionDeleted => exact runs_subscription hfresh (.inr rfl)
  | invoicePaid => exact runs_invoice hfresh (.inl rfl)
  | invoicePaymentFailed => exact runs_invoice hfresh (.inr rfl)
  | chargeRefunded => exact runs_refund hfresh

end StripeWebhookService

end Innovents.Payments
