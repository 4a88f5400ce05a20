import Innovents.Payments.SubscriptionRevenue

namespace Innovents.Payments

open Innovents.Lib

namespace StripeWebhookService

/-- The status that the transaction of an event gives to the subscription with the
Stripe id `sid`, if it gives one. -/
def WebhookHandler.givenStatus (sid : String) (object : JsValue) :
    WebhookHandler → Option SubscriptionStatus
  | checkoutSessionCompleted =>
    if !paysSponsorship object && paysSubscription object && isComplete object &&
        (object.get "subscription").isStr sid then some .active
    else none
  | subscriptionUpdated =>
    if (object.get "id").isStr sid then (targetStatus (object.get "status")).toOption else none
  | subscriptionDeleted => if (object.get "id").isStr sid then some .cancelled else none
  | invoicePaid =>
    -- only an invoice line that ends at a number of seconds moves the subscription
    if (object.get "subscription").truthy && (object.get "subscription").isStr sid &&
        (((((object.get "lines").get "data").item 0).get "period").get "end").asNum?.isSome then
      some .active
    else none
  | invoicePaymentFailed =>
    if (object.get "subscription").truthy && (object.get "subscription").isStr sid then
      some .pastDue
    else none
  | chargeRefunded => none

/-- The event has been processed before, or it gives the subscription no other status. -/
def LeavesCancelled (sid : String) (event : PaymentWebhookEvent) (db : Db) : Prop :=
  Finished event db ∨ ∀ h, handlerFor event.type = some h →
    ∀ status, h.givenStatus sid (eventObject event) = some status → status = .cancelled

def HasStatus (sid : String) (status : SubscriptionStatus) (db : Db) : Prop :=
  ∃ s ∈ db.subscriptions.rows, s.stripeSubscriptionId = sid ∧ s.status = status

instance {sid : String} {status : SubscriptionStatus} {db : Db} :
    Decidable (HasStatus sid status db) :=
  inferInstanceAs (Decidable (∃ s ∈ db.subscriptions.rows, _))

/-- The deletion of the subscription, which has a row, has just been handled. -/
def JustDeleted (sid : String) (db : Db) : Prop :=
  ∃ env event before, event.type = "customer.subscription.deleted" ∧
    (eventObject event).get "id" = .str sid ∧
    (∃ status, HasStatus sid status before) ∧
    handleVerified env event before = (.ok ⟨true, false⟩, db)

variable {sid : String} {object : JsValue} {env : Env} {db₀ db db' : Db} {commit : Commit}
  {entry : Option CreateAuditLogParams} {s existing : Subscription} {status : SubscriptionStatus}

section Rows

/-- A row after a change of the row `existing`. -/
theorem status_changed {f : Subscription → Subscription} (hm : existing ∈ db.subscriptions.rows)
    (hs : s ∈ db.subscriptions.rows) (hsid : s.stripeSubscriptionId = sid)
    (hrows : db'.subscriptions.rows = Table.updateRows existing.id f db.subscriptions.rows)
    (hkey : ∀ r, (f r).stripeSubscriptionId = r.stripeSubscriptionId) :
    HasStatus sid (if existing.stripeSubscriptionId = sid then (f s).status else s.status) db' := by
  have hid : existing.id = s.id ↔ existing.stripeSubscriptionId = sid := by
    constructor
    · intro he
      rw [db.subscriptions.eq_of_id hm hs he, hsid]
    · intro he
      rw [db.subscriptions.eq_of_unique (u := fun s ↦ some s.stripeSubscriptionId)
        (by simp [Row.uniques]) hm hs rfl (by rw [he, hsid])]
  split_ifs with he
  · refine ⟨f s, ?_, (hkey s).trans hsid, rfl⟩
    rw [hrows]
    exact Table.mem_updateRows.mpr (.inl ⟨s, hs, (hid.mpr he).symm, rfl⟩)
  · refine ⟨s, ?_, hsid, rfl⟩
    rw [hrows]
    exact Table.mem_updateRows.mpr (.inr ⟨hs, fun h ↦ he (hid.mp h.symm)⟩)

theorem isStr_of_asStr? {v : JsValue} {k : String} (h : v.asStr? = some k) :
    v.isStr sid = true ↔ k = sid := by
  cases v with
  | str t =>
    cases h
    exact beq_iff_eq
  | _ => cases h

theorem asStr?_of_isStr {v : JsValue} (h : v.isStr sid = true) : v.asStr? = some sid := by
  cases v with
  | str t => rw [beq_iff_eq.mp h]; rfl
  | _ => cases h

/-- A read that finds no row is not about the row that is there. -/
theorem isStr_eq_false {v : JsValue} (h : subscriptionOf v db = .ok none)
    (hs : s ∈ db.subscriptions.rows) (hsid : s.stripeSubscriptionId = sid) :
    v.isStr sid = false := by
  rw [← Bool.not_eq_true]
  intro hv
  exact subscriptionOf_eq_none h s hs (by rw [hsid, asStr?_of_isStr hv])

theorem hasStatus_kept (hs : s ∈ db.subscriptions.rows) (hsid : s.stripeSubscriptionId = sid)
    (h : db'.subscriptions = db.subscriptions) : HasStatus sid s.status db' :=
  ⟨s, h ▸ hs, hsid, rfl⟩

theorem upserted_status {terms : SubscriptionTerms} {id : String}
    (h : Upserted env terms id db db'.subscriptions) (hs : s ∈ db.subscriptions.rows)
    (hsid : s.stripeSubscriptionId = sid) :
    HasStatus sid (if terms.subscriber.stripeSubscriptionId = sid then .active else s.status)
      db' := by
  rcases h with ⟨existing, hm, hkey, _, hrows⟩ | ⟨hnone, _, _, hrows⟩
  · rw [← hkey]
    exact status_changed hm hs hsid hrows fun _ ↦ rfl
  · have hne : terms.subscriber.stripeSubscriptionId ≠ sid := by
      intro he
      exact hnone s hs (by rw [hsid, he])
    rw [if_neg hne]
    refine ⟨s, ?_, hsid, rfl⟩
    rw [hrows]
    exact List.mem_append_left _ hs

theorem sponsorship_subscriptions
    (hc : activateCommunitySponsorshipFromSession object env db = .ok (db', entry)) :
    db'.subscriptions = db.subscriptions := by
  simp only [activateCommunitySponsorshipFromSession, bind_eq_ok] at hc
  obtain ⟨payment | _, _, hc⟩ := hc
  · rw [(noCommit_eq_ok.mp hc).1]
  · dsimp only at hc
    split_ifs at hc
    · rw [(noCommit_eq_ok.mp hc).1]
    · obtain ⟨_, _, h⟩ := activateSponsorship_eq_ok.mp ⟨entry, hc⟩
      exact h.subscriptions

theorem checkout_status (hr : handleCheckoutSessionCompleted object db₀ = .ok commit)
    (hc : commit env db = .ok (db', entry)) (hs : s ∈ db.subscriptions.rows)
    (hsid : s.stripeSubscriptionId = sid) :
    HasStatus sid
      ((WebhookHandler.checkoutSessionCompleted.givenStatus sid object).getD s.status) db' := by
  simp only [handleCheckoutSessionCompleted] at hr
  split_ifs at hr with hsponsorship hsubscription
  · cases hr
    have hkept := sponsorship_subscriptions hc
    simpa [WebhookHandler.givenStatus, hsponsorship] using hasStatus_kept hs hsid hkept
  · cases hr
    simp only [activateSubscriptionFromSession] at hc
    split_ifs at hc with hcomplete
    · obtain ⟨terms, id, hterms, h⟩ := activateSubscription_eq_ok.mp ⟨entry, hc⟩
      have hkey : (object.get "subscription").asStr? =
          some terms.subscriber.stripeSubscriptionId := by
        simp only [subscriptionTerms, bind_eq_ok, pure_eq_ok] at hterms
        obtain ⟨_, _, _, _, _, _, _, _, _, _, _, hkey, _, _, _, _, _, _, rfl⟩ := hterms
        exact textArg_eq_ok.mp hkey
      have hstatus := upserted_status h.upserted hs hsid
      simp only [WebhookHandler.givenStatus, hsponsorship, hsubscription, hcomplete,
        Bool.not_false, Bool.true_and, isStr_of_asStr? hkey]
      split_ifs at hstatus ⊢
      · exact hstatus
      · exact hstatus
    · rw [(noCommit_eq_ok.mp hc).1]
      simpa [WebhookHandler.givenStatus, hcomplete] using hasStatus_kept hs hsid rfl
  · cases hr
    rw [(noCommit_eq_ok.mp hc).1]
    simpa [WebhookHandler.givenStatus, hsubscription] using hasStatus_kept hs hsid rfl

theorem updated_status (hr : handleSubscriptionUpdated object db₀ = .ok commit)
    (hsame : db₀.subscriptions = db.subscriptions)
    (hc : commit env db = .ok (db', entry)) (hs : s ∈ db.subscriptions.rows)
    (hsid : s.stripeSubscriptionId = sid) :
    HasStatus sid ((WebhookHandler.subscriptionUpdated.givenStatus sid object).getD s.status)
      db' := by
  simp only [handleSubscriptionUpdated, bind_eq_ok] at hr
  obtain ⟨none | existing, he, hr⟩ := hr
  · cases hr
    rw [(noCommit_eq_ok.mp hc).1]
    have hother := isStr_eq_false he (hsame ▸ hs) hsid
    simpa [WebhookHandler.givenStatus, hother] using hasStatus_kept hs hsid rfl
  · cases hr
    obtain ⟨hm, hkey⟩ := subscriptionOf_eq_some he
    obtain ⟨_, change, hchange, _, hrows, _⟩ := updateSubscription_eq_ok.mp hc
    have hstatus := status_changed (hsame ▸ hm) hs hsid hrows fun _ ↦ rfl
    simp only [subscriptionChange, bind_eq_ok, pure_eq_ok] at hchange
    obtain ⟨status, htarget, _, _, _, _, _, _, rfl⟩ := hchange
    simp only [WebhookHandler.givenStatus, isStr_of_asStr? (textArg_eq_ok.mp hkey), htarget]
    split_ifs at hstatus ⊢
    · exact hstatus
    · exact hstatus

theorem deleted_status (hr : handleSubscriptionDeleted object db₀ = .ok commit)
    (hsame : db₀.subscriptions = db.subscriptions)
    (hc : commit env db = .ok (db', entry)) (hs : s ∈ db.subscriptions.rows)
    (hsid : s.stripeSubscriptionId = sid) :
    HasStatus sid ((WebhookHandler.subscriptionDeleted.givenStatus sid object).getD s.status)
      db' := by
  simp only [handleSubscriptionDeleted, bind_eq_ok] at hr
  obtain ⟨none | ⟨existing, planConfig⟩, he, hr⟩ := hr
  · cases hr
    rw [(noCommit_eq_ok.mp hc).1]
    have hother := isStr_eq_false (subscriptionWithPlan_eq_none.mp he) (hsame ▸ hs) hsid
    simpa [WebhookHandler.givenStatus, hother] using hasStatus_kept hs hsid rfl
  · cases hr
    obtain ⟨hm, hkey⟩ := subscriptionOf_eq_some (subscriptionWithPlan_eq_some.mp he).1
    obtain ⟨_, hchanged⟩ := cancelSubscription_eq_ok.mp hc
    have hstatus := status_changed (hsame ▸ hm) hs hsid hchanged.subscriptions fun _ ↦ rfl
    simp only [WebhookHandler.givenStatus, isStr_of_asStr? (textArg_eq_ok.mp hkey)]
    split_ifs at hstatus ⊢
    · exact hstatus
    · exact hstatus

theorem invoicePaid_status (hr : handleInvoicePaid object db₀ = .ok commit)
    (hsame : db₀.subscriptions = db.subscriptions)
    (hc : commit env db = .ok (db', entry)) (hs : s ∈ db.subscriptions.rows)
    (hsid : s.stripeSubscriptionId = sid) :
    HasStatus sid ((WebhookHandler.invoicePaid.givenStatus sid object).getD s.status) db' := by
  simp only [handleInvoicePaid] at hr
  split_ifs at hr with hpays
  · simp only [bind_eq_ok] at hr
    obtain ⟨none | ⟨existing, planConfig⟩, he, hr⟩ := hr
    · cases hr
      rw [(noCommit_eq_ok.mp hc).1]
      have hother := isStr_eq_false (subscriptionWithPlan_eq_none.mp he) (hsame ▸ hs) hsid
      simpa [WebhookHandler.givenStatus, hother] using hasStatus_kept hs hsid rfl
    · cases hr
      obtain ⟨hm, hkey⟩ := subscriptionOf_eq_some (subscriptionWithPlan_eq_some.mp he).1
      obtain ⟨_, terms, hterms, hinvoiced⟩ := recordInvoice_eq_ok.mp hc
      have hrows := hinvoiced.subscriptions
      simp only [invoiceTerms, bind_eq_ok, pure_eq_ok] at hterms
      obtain ⟨_, _, _, _, _, _, periodEnd, hend, rfl⟩ := hterms
      simp only [WebhookHandler.givenStatus, hpays, Bool.true_and, Bool.and_eq_true,
        isStr_of_asStr? (textArg_eq_ok.mp hkey)]
      unfold periodBound at hend
      split at hend
      · next seconds hseconds =>
        obtain ⟨ends, _, rfl⟩ := map_eq_ok.mp hend
        have hstatus := status_changed (hsame ▸ hm) hs hsid hrows fun _ ↦ rfl
        simp only [hseconds, Option.isSome_some, and_true]
        split_ifs at hstatus ⊢
        · exact hstatus
        · exact hstatus
      · next hno =>
        cases hend
        simp only [hno, Option.isSome_none, Bool.false_eq_true, and_false, if_false,
          Option.getD_none]
        exact hasStatus_kept hs hsid (Table.ext hrows)
  · cases hr
    rw [(noCommit_eq_ok.mp hc).1]
    simpa [WebhookHandler.givenStatus, hpays] using hasStatus_kept hs hsid rfl

theorem paymentFailed_status (hr : handleInvoicePaymentFailed object db₀ = .ok commit)
    (hsame : db₀.subscriptions = db.subscriptions)
    (hc : commit env db = .ok (db', entry)) (hs : s ∈ db.subscriptions.rows)
    (hsid : s.stripeSubscriptionId = sid) :
    HasStatus sid ((WebhookHandler.invoicePaymentFailed.givenStatus sid object).getD s.status)
      db' := by
  simp only [handleInvoicePaymentFailed] at hr
  split_ifs at hr with hpays
  · simp only [bind_eq_ok] at hr
    obtain ⟨none | ⟨existing, planConfig⟩, he, hr⟩ := hr
    · cases hr
      rw [(noCommit_eq_ok.mp hc).1]
      have hother := isStr_eq_false (subscriptionWithPlan_eq_none.mp he) (hsame ▸ hs) hsid
      simpa [WebhookHandler.givenStatus, hother] using hasStatus_kept hs hsid rfl
    · cases hr
      obtain ⟨hm, hkey⟩ := subscriptionOf_eq_some (subscriptionWithPlan_eq_some.mp he).1
      obtain ⟨_, hchanged⟩ := markPastDue_eq_ok.mp hc
      have hstatus := status_changed (hsame ▸ hm) hs hsid hchanged.subscriptions fun _ ↦ rfl
      simp only [WebhookHandler.givenStatus, hpays, Bool.true_and,
        isStr_of_asStr? (textArg_eq_ok.mp hkey)]
      split_ifs at hstatus ⊢
      · exact hstatus
      · exact hstatus
  · cases hr
    rw [(noCommit_eq_ok.mp hc).1]
    simpa [WebhookHandler.givenStatus, hpays] using hasStatus_kept hs hsid rfl

theorem refund_subscriptions (hr : handleChargeRefunded object db₀ = .ok commit)
    (hc : commit env db = .ok (db', entry)) : db'.subscriptions = db.subscriptions := by
  have hreads : WebhookHandler.chargeRefunded.reads object db₀ = .ok commit := hr
  cases plans_of_reads hreads with
  | nothing => rw [(noCommit_eq_ok.mp hc).1]
  | refund =>
    obtain ⟨_, _, _, h⟩ := recordRefund_eq_ok.mp hc
    exact h.subscriptions

/-- The row of the subscription after the transaction of an event. -/
theorem status_after {h : WebhookHandler} (hr : h.reads object db₀ = .ok commit)
    (hsame : db₀.subscriptions = db.subscriptions) (hc : commit env db = .ok (db', entry))
    (hstatus : HasStatus sid status db) :
    HasStatus sid ((h.givenStatus sid object).getD status) db' := by
  obtain ⟨s, hs, hsid, rfl⟩ := hstatus
  cases h with
  | checkoutSessionCompleted =>
    have hread : handleCheckoutSessionCompleted object db₀ = .ok commit := hr
    exact checkout_status hread hc hs hsid
  | subscriptionUpdated => exact updated_status hr hsame hc hs hsid
  | subscriptionDeleted => exact deleted_status hr hsame hc hs hsid
  | invoicePaid => exact invoicePaid_status hr hsame hc hs hsid
  | invoicePaymentFailed => exact paymentFailed_status hr hsame hc hs hsid
  | chargeRefunded => exact hasStatus_kept hs hsid (refund_subscriptions hr hc)

end Rows

theorem hasStatus_unique {status₁ status₂ : SubscriptionStatus} (h₁ : HasStatus sid status₁ db)
    (h₂ : HasStatus sid status₂ db) : status₁ = status₂ := by
  obtain ⟨s₁, hs₁, hsid₁, rfl⟩ := h₁
  obtain ⟨s₂, hs₂, hsid₂, rfl⟩ := h₂
  rw [db.subscriptions.eq_of_unique (u := fun s ↦ some s.stripeSubscriptionId)
    (by simp [Row.uniques]) hs₁ hs₂ rfl (by rw [hsid₁, hsid₂])]

section Runs

variable {event : PaymentWebhookEvent}

/-- A status is written only by the transaction of an event that has not been processed. -/
theorem handled_status (env : Env) (event : PaymentWebhookEvent) (hstatus : HasStatus sid status db) :
    HasStatus sid status (handleVerified env event db).2 ∨ ¬Finished event db ∧
      ∃ h, handlerFor event.type = some h ∧
        HasStatus sid ((h.givenStatus sid (eventObject event)).getD status)
          (handleVerified env event db).2 := by
  by_cases hfin : Finished event db
  · rw [handleVerified_finished env hfin]
    exact .inl hstatus
  · have hdelivered := handleVerified_delivered env event db
    generalize (handleVerified env event db).1 = r at hdelivered
    generalize (handleVerified env event db).2 = db' at hdelivered ⊢
    cases hdelivered with
    | unhandled => exact .inl hstatus
    | @handled h _ _ _ t₀ _ _ hh hr hc =>
      have hbefore : HasStatus sid status (db.withLogs t₀ db.auditLogs) := hstatus
      have hafter := status_after hr (by rfl) hc hbefore
      exact .inr ⟨hfin, h, hh, hafter⟩

theorem processed_status {h : WebhookHandler} (hstatus : HasStatus sid status db)
    (hh : handlerFor event.type = some h)
    (hd : handleVerified env event db = (.ok ⟨true, false⟩, db')) :
    HasStatus sid ((h.givenStatus sid (eventObject event)).getD status) db' := by
  obtain ⟨commit, db₁, e, t₀, t, a, hr, hc, rfl⟩ := processed_by hh hd
  have hbefore : HasStatus sid status (db.withLogs t₀ db.auditLogs) := hstatus
  have hafter := status_after hr (by rfl) hc hbefore
  exact hafter

theorem cancelled_kept (env : Env) (hcancelled : HasStatus sid .cancelled db)
    (hquiet : LeavesCancelled sid event db) :
    HasStatus sid .cancelled (handleVerified env event db).2 := by
  rcases handled_status env event hcancelled with hkept | ⟨hfresh, h, hh, hgiven⟩
  · exact hkept
  · cases hg : h.givenStatus sid (eventObject event) with
    | none => simpa only [hg, Option.getD_none] using hgiven
    | some status =>
      rw [hg, Option.getD_some, hquiet.resolve_left hfresh h hh status hg] at hgiven
      exact hgiven

/-- An event that is processed leaves the row cancelled exactly if it gives no other status. -/
theorem cancelled_iff (hcancelled : HasStatus sid .cancelled db)
    (hd : handleVerified env event db = (.ok ⟨true, false⟩, db')) :
    HasStatus sid .cancelled db' ↔ ∀ h, handlerFor event.type = some h →
      ∀ status, h.givenStatus sid (eventObject event) = some status → status = .cancelled := by
  constructor
  · intro hafter h hh status hgiven
    have hwritten := processed_status hcancelled hh hd
    rw [hgiven, Option.getD_some] at hwritten
    exact hasStatus_unique hwritten hafter
  · intro hquiet
    have hkept := cancelled_kept env hcancelled (.inr hquiet)
    rwa [hd] at hkept

/-- Stripe events handled one after another, in any order and any number of times. -/
def Handles (db : Db) (delivered : Env × PaymentWebhookEvent) (db' : Db) : Prop :=
  (handleVerified delivered.1 delivered.2 db).2 = db'

theorem justDeleted_cancelled (h : JustDeleted sid db) : HasStatus sid .cancelled db := by
  obtain ⟨env, event, before, htype, hid, ⟨status, hstatus⟩, hd⟩ := h
  have hh : handlerFor event.type = some .subscriptionDeleted := by rw [htype]; rfl
  have hafter := processed_status hstatus hh hd
  simpa [WebhookHandler.givenStatus, hid] using hafter

/-- A subscription that has been deleted stays cancelled, however the events of Stripe
follow, if every one of them either has been processed before or gives it no other
status. -/
theorem cancelled_stays (h : Reach Handles (fun db d ↦ LeavesCancelled sid d.2 db)
    (JustDeleted sid) db) : HasStatus sid .cancelled db := by
  apply h.invariant
  · exact fun _ ↦ justDeleted_cancelled
  · intro db₁ delivered db₂ hcancelled hok hs
    subst hs
    exact cancelled_kept delivered.1 hcancelled hok

/-- The subscription is deleted at Stripe. -/
def deletion : PaymentWebhookEvent :=
  ⟨"evt_1", "customer.subscription.deleted", .obj [("id", .str "sub_1")]⟩

/-- The payment of its last invoice, which ends at the second 100. -/
def lastInvoice : PaymentWebhookEvent :=
  ⟨"evt_2", "invoice.paid", .obj [("id", .str "in_1"), ("subscription", .str "sub_1"),
    ("amount_paid", .num 10000),
    ("lines", .obj [("data", .arr [.obj [("period", .obj [("end", .num 100)])]])])]⟩

/-- A late report that the subscription is canceled. -/
def lateUpdate : PaymentWebhookEvent :=
  ⟨"evt_3", "customer.subscription.updated",
    .obj [("id", .str "sub_1"), ("status", .str "canceled")]⟩

def deletedDb : Db := (handleVerified (.offline 0 "a" "b") deletion subscribedDb).2

theorem deletedDb_justDeleted : JustDeleted "sub_1" deletedDb := by
  refine ⟨.offline 0 "a" "b", deletion, subscribedDb, rfl, rfl, ⟨.active, subscribed, ?_, rfl, rfl⟩,
    Prod.ext ?_ rfl⟩
  · exact List.mem_singleton_self _
  · decide +kernel

theorem deletion_leaves_cancelled (db : Db) : LeavesCancelled "sub_1" deletion db := by
  refine .inr fun h hh status hgiven ↦ ?_
  cases hh
  cases hgiven
  rfl

theorem lateUpdate_leaves_cancelled (db : Db) : LeavesCancelled "sub_1" lateUpdate db := by
  refine .inr fun h hh status hgiven ↦ ?_
  cases hh
  cases hgiven
  rfl

/-- The deletion is followed by the late report and delivered once more. -/
theorem deletion_stays_cancelled :
    ∃ db, db.stripeWebhookEvents.rows.length = 2 ∧ HasStatus "sub_1" .cancelled db := by
  have hstart : Reach Handles (fun db d ↦ LeavesCancelled "sub_1" d.2 db) (JustDeleted "sub_1")
      deletedDb := .start deletedDb_justDeleted
  have hreported := hstart.next (a := (.offline 0 "c" "d", lateUpdate))
    (lateUpdate_leaves_cancelled _) rfl
  have hagain := hreported.next (a := (.offline 0 "e" "f", deletion))
    (deletion_leaves_cancelled _) rfl
  exact ⟨_, by decide +kernel, cancelled_stays hagain⟩

/-- The last invoice is paid after the deletion: the subscription is active again. -/
theorem deletion_undone : ∃ db, Reach Handles (fun _ _ ↦ True) (JustDeleted "sub_1") db ∧
    HasStatus "sub_1" .active db ∧ ¬HasStatus "sub_1" .cancelled db := by
  have hstart : Reach Handles (fun _ _ ↦ True) (JustDeleted "sub_1") deletedDb :=
    .start deletedDb_justDeleted
  have hpaid := hstart.next (a := (.offline 0 "c" "d", lastInvoice)) trivial rfl
  exact ⟨_, hpaid, by decide +kernel, by decide +kernel⟩

end Runs

end StripeWebhookService

end Innovents.Payments
