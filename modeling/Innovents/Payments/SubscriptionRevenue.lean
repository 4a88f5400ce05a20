import Innovents.Payments.WebhookRecovery

namespace Innovents.Payments

open Innovents.Lib JsNumber

namespace StripeWebhookService

/-- A paid invoice and the event that announces it. -/
structure Invoice where
  event : PaymentWebhookEvent
  id : String
  minorUnits : ℤ

/-- The invoice is one of the Stripe subscription `subscription`. -/
structure Invoice.PaysFor (subscription : String) (invoice : Invoice) : Prop where
  type : invoice.event.type = "invoice.paid"
  subscription : (eventObject invoice.event).get "subscription" = .str subscription
  id : (eventObject invoice.event).get "id" = .str invoice.id
  id_ne : invoice.id ≠ ""
  amount : (eventObject invoice.event).get "amount_paid" = .num invoice.minorUnits

/-- The event completes the session `sessionId`, which opens the Stripe
subscription `subscription`. -/
structure OpensSubscription (subscription sessionId : String) (event : PaymentWebhookEvent) :
    Prop where
  type : event.type = "checkout.session.completed"
  mode : (eventObject event).get "mode" = .str "subscription"
  complete : isComplete (eventObject event) = true
  subscription : (eventObject event).get "subscription" = .str subscription
  id : (eventObject event).get "id" = .str sessionId
  id_ne : sessionId ≠ ""

/-- Every event is delivered once and processed. -/
inductive Processed : List PaymentWebhookEvent → Db → Db → Prop
  | nil {db : Db} : Processed [] db db
  | cons {event : PaymentWebhookEvent} {events : List PaymentWebhookEvent} {env : Env}
      {db db₁ db₂ : Db} : handleVerified env event db = (.ok ⟨true, false⟩, db₁) →
      Processed events db₁ db₂ → Processed (event :: events) db db₂

variable {subscription sessionId subscriptionId : String} {env : Env} {db db' db₁ : Db}
  {checkout event : PaymentWebhookEvent} {invoice first : Invoice} {invoices : List Invoice}
  {events : List PaymentWebhookEvent}

theorem Processed.append {events₁ events₂ : List PaymentWebhookEvent}
    (h : Processed (events₁ ++ events₂) db db') :
    ∃ db₁, Processed events₁ db db₁ ∧ Processed events₂ db₁ db' := by
  induction events₁ generalizing db with
  | nil => exact ⟨db, .nil, h⟩
  | cons event events₁ ih =>
    cases h with
    | cons hd hrest =>
      obtain ⟨db₁, h₁, h₂⟩ := ih hrest
      exact ⟨db₁, .cons hd h₁, h₂⟩

/-- The database after the events, if each of them is processed. -/
def processAll : List (PaymentWebhookEvent × Env) → Db → Option Db
  | [], db => some db
  | (event, env) :: events, db =>
    if (handleVerified env event db).1.toOption = some ⟨true, false⟩ then
      processAll events (handleVerified env event db).2
    else none

theorem processed_of_processAll {events : List (PaymentWebhookEvent × Env)}
    (h : processAll events db = some db') : Processed (events.map Prod.fst) db db' := by
  induction events generalizing db with
  | nil =>
    cases h
    exact .nil
  | cons e events ih =>
    obtain ⟨event, env⟩ := e
    simp only [processAll] at h
    split_ifs at h with hr
    have hreply : (handleVerified env event db).1 = .ok ⟨true, false⟩ := by
      cases hv : (handleVerified env event db).1 with
      | ok reply =>
        rw [hv] at hr
        rw [Option.some.inj hr]
      | error err =>
        rw [hv] at hr
        cases hr
    exact .cons (Prod.ext hreply rfl) (ih h)

/-- An event with a handler was processed by it. -/
theorem processed_by {h : WebhookHandler} (hh : handlerFor event.type = some h)
    (hd : handleVerified env event db = (.ok ⟨true, false⟩, db')) :
    ∃ commit db₁ e t₀ t a, h.reads (eventObject event) db = .ok commit ∧
      commit env (db.withLogs t₀ db.auditLogs) = .ok (db₁, e) ∧ db' = db₁.withLogs t a := by
  have hdelivered := handleVerified_delivered env event db
  rw [hd] at hdelivered
  dsimp only at hdelivered
  generalize hr : (Except.ok ⟨true, false⟩ : Except Err WebhookReply) = r at hdelivered
  cases hdelivered with
  | unhandled hn =>
    subst hr
    exact absurd rfl (hn (by simp [hh]))
  | handled hh' hreads hc =>
    rw [hh, Option.some.injEq] at hh'
    subst hh'
    exact ⟨_, _, _, _, _, _, hreads, hc, rfl⟩

section Steps

/-- No row of the Stripe subscription yet. -/
def Unsubscribed (subscription : String) (db : Db) : Prop :=
  ∀ s ∈ db.subscriptions.rows, s.stripeSubscriptionId ≠ subscription

def SubscribedAs (subscriptionId subscription : String) (db : Db) : Prop :=
  ∃ s ∈ db.subscriptions.rows, s.id = subscriptionId ∧ s.stripeSubscriptionId = subscription

theorem subscription_ne (hc : OpensSubscription subscription sessionId checkout) :
    subscription ≠ "" := by
  have h := hc.complete
  simp only [isComplete, hc.subscription, Bool.and_eq_true] at h
  exact (JsValue.truthy_str_iff _).mp h.2

theorem invoice_reads (hi : invoice.PaysFor subscription) (hne : subscription ≠ "")
    {commit : Commit} (hr : handleInvoicePaid (eventObject invoice.event) db = .ok commit) :
    (Unsubscribed subscription db ∧ commit = noCommit) ∨
      ∃ existing planConfig, existing ∈ db.subscriptions.rows ∧
        existing.stripeSubscriptionId = subscription ∧
        commit = recordInvoice (eventObject invoice.event) existing planConfig := by
  simp only [handleInvoicePaid, hi.subscription, (JsValue.truthy_str_iff _).mpr hne, if_true,
    bind_eq_ok] at hr
  obtain ⟨existing | ⟨existing, planConfig⟩, hex, hr⟩ := hr
  · cases hr
    refine .inl ⟨fun s hs he ↦ ?_, rfl⟩
    exact subscriptionOf_eq_none (subscriptionWithPlan_eq_none.mp hex) s hs (by rw [he]; rfl)
  · cases hr
    obtain ⟨hm, hkey⟩ := subscriptionOf_eq_some (subscriptionWithPlan_eq_some.mp hex).1
    rw [textArg_eq_ok, JsValue.asStr?_str, Option.some.injEq] at hkey
    exact .inr ⟨existing, planConfig, hm, hkey.symm, rfl⟩

/-- The invoice is ignored while its subscription is not there. -/
theorem invoice_ignored (hi : invoice.PaysFor subscription) (hne : subscription ≠ "")
    (hu : Unsubscribed subscription db)
    (hd : handleVerified env invoice.event db = (.ok ⟨true, false⟩, db')) :
    ∃ t a, db' = db.withLogs t a := by
  have hh : handlerFor invoice.event.type = some .invoicePaid := by rw [hi.type]; rfl
  obtain ⟨commit, db₁, e, t₀, t, a, hr, hc, rfl⟩ := processed_by hh hd
  rcases invoice_reads hi hne hr with ⟨_, rfl⟩ | ⟨existing, _, hm, hkey, _⟩
  · rw [(noCommit_eq_ok.mp hc).1]
    exact ⟨t, a, rfl⟩
  · exact absurd hkey (hu existing hm)

/-- The payment row records the invoice for the subscription `subscriptionId`. -/
structure RecordsInvoice (subscriptionId : String) (invoice : Invoice) (p : Payment) : Prop where
  status : p.status = .succeeded
  subscriptionId : p.subscriptionId = some subscriptionId
  invoiceId : p.stripeInvoiceId = some invoice.id
  sessionId : p.stripeCheckoutSessionId = none
  amount : p.amount.cents = invoice.minorUnits

theorem invoiceTerms_recorded (hi : invoice.PaysFor subscription) {existing : Subscription}
    {terms : InvoiceTerms} (ht : invoiceTerms (eventObject invoice.event) existing = .ok terms) :
    RecordsInvoice existing.id invoice (terms.row env existing) := by
  simp only [invoiceTerms, bind_eq_ok, pure_eq_ok, Money.ofDecimal_eq_ok, hi.amount, hi.id] at ht
  obtain ⟨amount, hamount, currency, _, id, hid, _, _, rfl⟩ := ht
  have hne : (JsValue.str invoice.id).truthy = true := (JsValue.truthy_str_iff _).mpr hi.id_ne
  rw [JsValue.or_of_truthy _ hne] at hid
  simp only [optionalTextArg, JsValue.isNullish, Bool.false_eq_true, if_false, map_eq_ok,
    textArg_eq_ok, JsValue.asStr?_str, Option.some.injEq] at hid
  obtain ⟨_, rfl, rfl⟩ := hid
  exact ⟨rfl, rfl, rfl, rfl, hundredths_eq hamount amount.fits⟩

/-- Once the subscription is there, the invoice adds its payment. -/
theorem invoice_recorded (hi : invoice.PaysFor subscription) (hne : subscription ≠ "")
    (hs : SubscribedAs subscriptionId subscription db)
    (hd : handleVerified env invoice.event db = (.ok ⟨true, false⟩, db')) :
    SubscribedAs subscriptionId subscription db' ∧
      ∃ p, RecordsInvoice subscriptionId invoice p ∧
        db'.payments.rows = db.payments.rows ++ [p] := by
  obtain ⟨s, hsm, hsid, hskey⟩ := hs
  have hh : handlerFor invoice.event.type = some .invoicePaid := by rw [hi.type]; rfl
  obtain ⟨commit, db₁, e, t₀, t, a, hr, hc, rfl⟩ := processed_by hh hd
  rcases invoice_reads hi hne hr with ⟨hu, _⟩ | ⟨existing, planConfig, hm, hkey, rfl⟩
  · exact absurd hskey (hu s hsm)
  · obtain ⟨_, terms, hterms, h⟩ := recordInvoice_eq_ok.mp hc
    have hsame : existing = s :=
      db.subscriptions.eq_of_unique (u := fun s ↦ some s.stripeSubscriptionId)
        (by simp [Row.uniques]) hm hsm rfl (by rw [hkey, hskey])
    subst hsame
    refine ⟨?_, _, hsid ▸ invoiceTerms_recorded hi hterms, h.payments⟩
    show ∃ s ∈ db₁.subscriptions.rows, _
    rw [h.subscriptions]
    cases hend : terms.periodEnd with
    | none =>
      refine ⟨existing, ?_, hsid, hskey⟩
      simp only [InvoiceTerms.extendRows, hend, Option.elim_none]
      exact hm
    | some periodEnd =>
      refine ⟨extend periodEnd existing, ?_, hsid, hskey⟩
      simp only [InvoiceTerms.extendRows, hend, Option.elim_some]
      exact Table.mem_updateRows.mpr (.inl ⟨existing, hm, rfl, rfl⟩)

theorem planOfKey_eq_some {key : String} {plan : SubscriptionPlan}
    (h : planOfKey key = some plan) : key = planText plan := by
  unfold planOfKey at h
  split at h
  all_goals cases h
  all_goals rfl

/-- The payment row records the session of the subscription `subscriptionId`. -/
structure RecordsSession (subscriptionId sessionId : String) (minorUnits : ℤ) (p : Payment) :
    Prop where
  status : p.status = .succeeded
  subscriptionId : p.subscriptionId = some subscriptionId
  invoiceId : p.stripeInvoiceId = none
  sessionId : p.stripeCheckoutSessionId = some sessionId
  amount : p.amount.cents = minorUnits

/-- The plans that the session can name cost `minorUnits`. -/
def PricedAt (minorUnits : ℤ) (checkout : PaymentWebhookEvent) (db : Db) : Prop :=
  ∀ c ∈ db.subscriptionPlanConfigs.rows,
    (((eventObject checkout).get "metadata").or (.obj [])).get "plan" = .str (planText c.plan) →
      c.price.cents = minorUnits

theorem checkout_recorded (hc : OpensSubscription subscription sessionId checkout)
    (hu : Unsubscribed subscription db) {minorUnits : ℤ} (hprice : PricedAt minorUnits checkout db)
    (hd : handleVerified env checkout db = (.ok ⟨true, false⟩, db')) :
    ∃ subscriptionId, db.subscriptions.has subscriptionId = false ∧
      SubscribedAs subscriptionId subscription db' ∧
      ∃ p, RecordsSession subscriptionId sessionId minorUnits p ∧
        db'.payments.rows = db.payments.rows ++ [p] := by
  have hh : handlerFor checkout.type = some .checkoutSessionCompleted := by rw [hc.type]; rfl
  obtain ⟨commit, db₁, e, t₀, t, a, hr, hcommit, rfl⟩ := processed_by hh hd
  have hpays : paysSponsorship (eventObject checkout) = false := by
    simp [paysSponsorship, hc.mode]
  have hsub : paysSubscription (eventObject checkout) = true := by
    simp [paysSubscription, hc.mode]
  simp only [WebhookHandler.reads, handleCheckoutSessionCompleted, hpays, hsub, Bool.false_eq_true,
    if_false, if_true, Except.ok.injEq] at hr
  subst hr
  simp only [activateSubscriptionFromSession, hc.complete, if_true] at hcommit
  obtain ⟨terms, id, hterms, h⟩ := activateSubscription_eq_ok.mp ⟨e, hcommit⟩
  simp only [subscriptionTerms, bind_eq_ok, pure_eq_ok, found_eq_ok, hc.subscription, hc.id]
    at hterms
  obtain ⟨key, hkey, plan, hplan, config, hconfig, _, _, _, _, stripeId, hstripe, _, _, _, _,
    session, hsession, rfl⟩ := hterms
  rw [textArg_eq_ok, JsValue.asStr?_str, Option.some.injEq] at hstripe
  subst hstripe
  have hne : (JsValue.str sessionId).truthy = true := (JsValue.truthy_str_iff _).mpr hc.id_ne
  rw [JsValue.or_of_truthy _ hne] at hsession
  simp only [optionalTextArg, JsValue.isNullish, Bool.false_eq_true, if_false, map_eq_ok,
    textArg_eq_ok, JsValue.asStr?_str, Option.some.injEq] at hsession
  obtain ⟨_, rfl, rfl⟩ := hsession
  obtain ⟨hcm, hcplan⟩ := Table.find?_mem hconfig
  rw [beq_iff_eq] at hcplan
  rcases h.upserted with ⟨s, hs, hskey, _⟩ | ⟨_, rfl, _, hss⟩
  · exact absurd hskey (hu s hs)
  · refine ⟨env.subscriptionId, ?_, ?_, _, ⟨rfl, rfl, rfl, rfl, ?_⟩, h.payments⟩
    · rw [← Bool.not_eq_true, Table.has_iff]
      intro hex
      obtain ⟨s, hs, hsid⟩ := hex
      have hclash := Table.exists_create.mp ⟨_, hss⟩ s hs
      rw [clash_of_id (by exact hsid)] at hclash
      cases hclash
    · exact ⟨_, by rw [Db.withLogs, hss]; exact List.mem_append_right _ (List.mem_singleton_self _),
        rfl, rfl⟩
    · refine hprice config hcm ?_
      rw [hcplan, ← planOfKey_eq_some hplan]
      cases hv : (((eventObject checkout).get "metadata").or (.obj [])).get "plan" with
      | str s =>
        rw [hv, textArg_eq_ok, JsValue.asStr?_str, Option.some.injEq] at hkey
        rw [hkey]
      | _ =>
        rw [hv, textArg_eq_ok] at hkey
        cases hkey

end Steps

section Runs

theorem invoices_ignored (hi : ∀ i ∈ invoices, i.PaysFor subscription) (hne : subscription ≠ "")
    (hu : Unsubscribed subscription db)
    (hrun : Processed (invoices.map Invoice.event) db db') : ∃ t a, db' = db.withLogs t a := by
  induction invoices generalizing db with
  | nil =>
    cases hrun
    exact ⟨db'.stripeWebhookEvents, db'.auditLogs, rfl⟩
  | cons invoice invoices ih =>
    cases hrun with
    | cons hd hrest =>
      obtain ⟨t₁, a₁, rfl⟩ := invoice_ignored (hi invoice (by simp)) hne hu hd
      have hi' : ∀ i ∈ invoices, i.PaysFor subscription := fun i hm ↦ hi i (by simp [hm])
      have hu' : Unsubscribed subscription (db.withLogs t₁ a₁) := hu
      obtain ⟨t, a, rfl⟩ := ih hi' hu' hrest
      exact ⟨t, a, rfl⟩

theorem invoices_recorded (hi : ∀ i ∈ invoices, i.PaysFor subscription) (hne : subscription ≠ "")
    (hs : SubscribedAs subscriptionId subscription db)
    (hrun : Processed (invoices.map Invoice.event) db db') :
    SubscribedAs subscriptionId subscription db' ∧
      ∃ rows, List.Forall₂ (RecordsInvoice subscriptionId) invoices rows ∧
        db'.payments.rows = db.payments.rows ++ rows := by
  induction invoices generalizing db with
  | nil =>
    cases hrun
    exact ⟨hs, [], .nil, (List.append_nil _).symm⟩
  | cons invoice invoices ih =>
    cases hrun with
    | cons hd hrest =>
      obtain ⟨hs₁, p, hp, hrows₁⟩ := invoice_recorded (hi invoice (by simp)) hne hs hd
      obtain ⟨hs', rows, hrec, hrows⟩ := ih (fun i hm ↦ hi i (by simp [hm])) hs₁ hrest
      refine ⟨hs', p :: rows, .cons hp hrec, ?_⟩
      rw [hrows, hrows₁, List.append_assoc, List.singleton_append]

end Runs

/-- The payments received for the Stripe subscription `subscription`. -/
def subscriptionPayments (subscription : String) (db : Db) : List Payment :=
  db.payments.rows.filter fun p ↦ p.status == .succeeded &&
    (db.subscriptions.find? fun s ↦ s.stripeSubscriptionId == subscription).any fun s ↦
      p.subscriptionId == some s.id

/-- The row records the money of the invoice: under the id of the invoice or, for
the first invoice, under the id of the checkout session. -/
def records (sessionId : String) (first invoice : Invoice) (p : Payment) : Bool :=
  p.stripeInvoiceId == some invoice.id ||
    (invoice.id == first.id && p.stripeCheckoutSessionId == some sessionId)

/-- Every invoice is recorded once, and the payments sum up to the invoices. -/
structure CountedOnce (subscription sessionId : String) (first : Invoice) (renewals : List Invoice)
    (db : Db) : Prop where
  each : ∀ invoice ∈ first :: renewals,
    (subscriptionPayments subscription db).countP (records sessionId first invoice) = 1
  total : ((subscriptionPayments subscription db).map fun p ↦ p.amount.cents).sum =
    ((first :: renewals).map Invoice.minorUnits).sum

section Counting

theorem subscriptionPayments_eq (hs : SubscribedAs subscriptionId subscription db) :
    subscriptionPayments subscription db = db.payments.rows.filter fun p ↦
      p.status == .succeeded && p.subscriptionId == some subscriptionId := by
  obtain ⟨s, hm, hsid, hkey⟩ := hs
  have hf : (db.subscriptions.find? fun s ↦ s.stripeSubscriptionId == subscription) = some s := by
    cases hf : db.subscriptions.find? fun s ↦ s.stripeSubscriptionId == subscription with
    | none =>
      have hn := Table.find?_eq_none.mp hf s hm
      simp [hkey] at hn
    | some s' =>
      obtain ⟨hm', hkey'⟩ := Table.find?_mem hf
      rw [beq_iff_eq] at hkey'
      rw [db.subscriptions.eq_of_unique (u := fun s ↦ some s.stripeSubscriptionId)
        (by simp [Row.uniques]) hm' hm rfl (by rw [hkey, hkey'])]
  simp only [subscriptionPayments, hf, Option.any_some, hsid]

theorem countP_recorded {rows : List Payment}
    (hrec : List.Forall₂ (RecordsInvoice subscriptionId) invoices rows) :
    rows.countP (records sessionId first invoice) =
      (invoices.map Invoice.id).count invoice.id := by
  induction hrec with
  | nil => rfl
  | cons hp _ ih =>
    simp only [List.countP_cons, ih, List.map_cons, List.count_cons, records, hp.invoiceId,
      hp.sessionId]
    simp

theorem sum_recorded {rows : List Payment}
    (hrec : List.Forall₂ (RecordsInvoice subscriptionId) invoices rows) :
    (rows.map fun p ↦ p.amount.cents).sum = (invoices.map Invoice.minorUnits).sum := by
  induction hrec with
  | nil => rfl
  | cons hp _ ih => simp only [List.map_cons, List.sum_cons, ih, hp.amount]

theorem filter_recorded {rows : List Payment}
    (hrec : List.Forall₂ (RecordsInvoice subscriptionId) invoices rows) :
    (rows.filter fun p ↦ p.status == .succeeded && p.subscriptionId == some subscriptionId) =
      rows := by
  induction hrec with
  | nil => rfl
  | cons hp _ ih => rw [List.filter_cons_of_pos (by simp [hp.status, hp.subscriptionId]), ih]

end Counting

/-- An event of the subscription: its checkout, or one of its paid invoices. -/
inductive Occurrence
  | checkoutCompleted
  | invoicePaid (invoice : Invoice)

def Occurrence.toEvent (checkout : PaymentWebhookEvent) : Occurrence → PaymentWebhookEvent
  | checkoutCompleted => checkout
  | invoicePaid invoice => invoice.event

section Orders

variable {renewals : List Invoice} {order : List Occurrence}

/-- Every order has some invoices before the checkout and the others after it. -/
theorem order_split (h : order.Perm (.checkoutCompleted :: invoices.map .invoicePaid)) :
    ∃ before after : List Invoice, (before ++ after).Perm invoices ∧
      order = before.map .invoicePaid ++ .checkoutCompleted :: after.map .invoicePaid := by
  have hm : Occurrence.checkoutCompleted ∈ order := h.mem_iff.mpr List.mem_cons_self
  obtain ⟨l₁, l₂, rfl⟩ := List.append_of_mem hm
  have hrest : (l₁ ++ l₂).Perm (invoices.map .invoicePaid) :=
    ((List.perm_middle.symm.trans h).cons_inv)
  let invoice? : Occurrence → Option Invoice
    | .checkoutCompleted => none
    | .invoicePaid invoice => some invoice
  have hback (l : List Occurrence) (hl : ∀ o ∈ l, ∃ i, o = .invoicePaid i) :
      (l.filterMap invoice?).map .invoicePaid = l := by
    induction l with
    | nil => rfl
    | cons o l ih =>
      obtain ⟨i, rfl⟩ := hl o (by simp)
      have hrec := ih fun o ho ↦ hl o (by simp [ho])
      simp only [List.filterMap_cons, invoice?, List.map_cons, hrec]
  have hall : ∀ o ∈ l₁ ++ l₂, ∃ i, o = .invoicePaid i := by
    intro o ho
    obtain ⟨i, _, rfl⟩ := List.mem_map.mp (hrest.mem_iff.mp ho)
    exact ⟨i, rfl⟩
  refine ⟨l₁.filterMap invoice?, l₂.filterMap invoice?, ?_, ?_⟩
  · rw [← List.filterMap_append]
    have hid : (invoices.map Occurrence.invoicePaid).filterMap invoice? = invoices := by
      rw [List.filterMap_map]
      exact List.filterMap_some
    rw [← hid]
    exact hrest.filterMap invoice?
  · rw [hback l₁ fun o ho ↦ hall o (List.mem_append_left _ ho),
      hback l₂ fun o ho ↦ hall o (List.mem_append_right _ ho)]

theorem order_split_unique {before after : List Invoice} :
    (∃ rest, before.map Occurrence.invoicePaid ++
        .checkoutCompleted :: after.map Occurrence.invoicePaid =
      .invoicePaid first :: .checkoutCompleted :: rest) ↔ before = [first] := by
  constructor
  · intro h
    obtain ⟨rest, h⟩ := h
    cases before with
    | nil => simp at h
    | cons i before =>
      simp only [List.map_cons, List.cons_append, List.cons.injEq, Occurrence.invoicePaid.injEq] at h
      obtain ⟨rfl, h⟩ := h
      cases before with
      | nil => rfl
      | cons j before => simp at h
  · intro h
    rw [h]
    exact ⟨_, rfl⟩

/-- The payments of the subscription after the events, in an order with some
invoices before the checkout and the others after it. -/
theorem payments_of_order {before after : List Invoice}
    (hc : OpensSubscription subscription sessionId checkout)
    (hb : ∀ i ∈ before, i.PaysFor subscription) (ha : ∀ i ∈ after, i.PaysFor subscription)
    (hprice : PricedAt first.minorUnits checkout db) (hu : Unsubscribed subscription db)
    (hfk : ∀ p ∈ db.payments.rows, p.subscriptionId.all db.subscriptions.has = true)
    (hrun : Processed
      (before.map Invoice.event ++ checkout :: after.map Invoice.event) db db') :
    ∃ subscriptionId p rows, RecordsSession subscriptionId sessionId first.minorUnits p ∧
      List.Forall₂ (RecordsInvoice subscriptionId) after rows ∧
      subscriptionPayments subscription db' = p :: rows := by
  have hne := subscription_ne hc
  obtain ⟨db₁, hrun₁, hrun₂⟩ := hrun.append
  obtain ⟨t, a, rfl⟩ := invoices_ignored hb hne hu hrun₁
  cases hrun₂ with
  | cons hd hrun₃ =>
    have hu' : Unsubscribed subscription (db.withLogs t a) := hu
    have hprice' : PricedAt first.minorUnits checkout (db.withLogs t a) := hprice
    obtain ⟨id, hid, hs, p, hp, hrows₁⟩ := checkout_recorded hc hu' hprice' hd
    obtain ⟨hs', rows, hrec, hrows⟩ := invoices_recorded ha hne hs hrun₃
    refine ⟨id, p, rows, hp, hrec, ?_⟩
    have hold : (db.payments.rows.filter fun p ↦
        p.status == .succeeded && p.subscriptionId == some id) = [] := by
      rw [List.filter_eq_nil_iff]
      intro q hq hsel
      simp only [Bool.and_eq_true, beq_iff_eq] at hsel
      have hall := hfk q hq
      rw [hsel.2, Option.all_some] at hall
      exact absurd hall (Bool.eq_false_iff.mp hid)
    rw [subscriptionPayments_eq hs', hrows, hrows₁, List.filter_append, List.filter_append,
      filter_recorded hrec]
    simp only [Db.withLogs, hold, List.nil_append]
    rw [List.filter_cons_of_pos (by simp [hp.status, hp.subscriptionId])]
    rfl

theorem countedOnce_iff {before after : List Invoice} {p : Payment} {rows : List Payment}
    (hids : ((first :: renewals).map Invoice.id).Nodup)
    (hperm : (before ++ after).Perm (first :: renewals))
    (hp : RecordsSession subscriptionId sessionId first.minorUnits p)
    (hrec : List.Forall₂ (RecordsInvoice subscriptionId) after rows)
    (hpayments : subscriptionPayments subscription db = p :: rows) :
    CountedOnce subscription sessionId first renewals db ↔ before = [first] := by
  have hcount (i : Invoice) : (subscriptionPayments subscription db).countP
      (records sessionId first i) =
        (after.map Invoice.id).count i.id + if i.id = first.id then 1 else 0 := by
    rw [hpayments, List.countP_cons, countP_recorded hrec, records, hp.invoiceId, hp.sessionId]
    simp
  have hnodup : ((before ++ after).map Invoice.id).Nodup :=
    (hperm.map Invoice.id).nodup_iff.mpr hids
  rw [List.map_append, List.nodup_append] at hnodup
  obtain ⟨hnb, hna, hdisj⟩ := hnodup
  rw [List.map_cons, List.nodup_cons] at hids
  constructor
  · intro h
    have hfirst : first ∉ after := by
      intro hm
      have h₁ := h.each first (by simp)
      rw [hcount, if_pos rfl, Nat.add_eq_right, List.count_eq_zero] at h₁
      exact h₁ (List.mem_map_of_mem hm)
    have honly : ∀ i ∈ before, i = first := by
      intro i hi
      rcases List.mem_cons.mp (hperm.mem_iff.mp (List.mem_append_left _ hi)) with rfl | hr
      · rfl
      · exfalso
        have hne : i.id ≠ first.id := fun he ↦ hids.1 (he ▸ List.mem_map_of_mem hr)
        have h₁ := h.each i (List.mem_cons_of_mem _ hr)
        rw [hcount, if_neg hne, Nat.add_zero] at h₁
        have hmem : i.id ∈ after.map Invoice.id := List.count_pos_iff.mp (by omega)
        exact hdisj i.id (List.mem_map_of_mem hi) i.id hmem rfl
    have hmem : first ∈ before := by
      rcases List.mem_append.mp (hperm.mem_iff.mpr List.mem_cons_self) with hm | hm
      · exact hm
      · exact absurd hm hfirst
    cases before with
    | nil => simp at hmem
    | cons i before =>
      rw [honly i (by simp)] at hnb ⊢
      cases before with
      | nil => rfl
      | cons j before =>
        rw [honly j (by simp)] at hnb
        simp at hnb
  · intro hb
    subst hb
    rw [List.singleton_append] at hperm
    have hafter : after.Perm renewals := hperm.cons_inv
    have hids' := hafter.map Invoice.id
    refine ⟨fun i hi ↦ ?_, ?_⟩
    · rw [hcount, hids'.count_eq]
      rcases List.mem_cons.mp hi with rfl | hr
      · rw [if_pos rfl, List.count_eq_zero.mpr hids.1]
      · have hne : i.id ≠ first.id := fun he ↦ hids.1 (he ▸ List.mem_map_of_mem hr)
        rw [if_neg hne, Nat.add_zero]
        exact List.count_eq_one_of_mem hids.2 (List.mem_map_of_mem hr)
    · rw [hpayments, List.map_cons, List.sum_cons, sum_recorded hrec, hp.amount, List.map_cons,
        List.sum_cons, (hafter.map Invoice.minorUnits).sum_eq]

/-- The money of a subscription is counted once exactly when the first invoice is
processed first, and the checkout right after it: the checkout records the first
invoice as well, and an invoice before the checkout is ignored. -/
theorem revenue_counted_once (hc : OpensSubscription subscription sessionId checkout)
    (hi : ∀ i ∈ first :: renewals, i.PaysFor subscription)
    (hids : ((first :: renewals).map Invoice.id).Nodup)
    (hprice : PricedAt first.minorUnits checkout db) (hu : Unsubscribed subscription db)
    (hfk : ∀ p ∈ db.payments.rows, p.subscriptionId.all db.subscriptions.has = true)
    (horder : order.Perm (.checkoutCompleted :: (first :: renewals).map .invoicePaid))
    (hrun : Processed (order.map (Occurrence.toEvent checkout)) db db') :
    CountedOnce subscription sessionId first renewals db' ↔
      ∃ rest, order = .invoicePaid first :: .checkoutCompleted :: rest := by
  obtain ⟨before, after, hperm, rfl⟩ := order_split horder
  have hevents : (before.map Occurrence.invoicePaid ++
      .checkoutCompleted :: after.map Occurrence.invoicePaid).map (Occurrence.toEvent checkout) =
        before.map Invoice.event ++ checkout :: after.map Invoice.event := by
    rw [List.map_append, List.map_cons, List.map_map, List.map_map]
    rfl
  rw [hevents] at hrun
  have hb : ∀ i ∈ before, i.PaysFor subscription :=
    fun i hm ↦ hi i (hperm.mem_iff.mp (List.mem_append_left _ hm))
  have ha : ∀ i ∈ after, i.PaysFor subscription :=
    fun i hm ↦ hi i (hperm.mem_iff.mp (List.mem_append_right _ hm))
  obtain ⟨id, p, rows, hp, hrec, hpayments⟩ := payments_of_order hc hb ha hprice hu hfk hrun
  rw [countedOnce_iff hids hperm hp hrec hpayments, order_split_unique]

def invoiceEvent (eventId invoiceId : String) : PaymentWebhookEvent :=
  ⟨eventId, "invoice.paid",
    .obj [("id", .str invoiceId), ("subscription", .str "sub_1"), ("amount_paid", .num 10000)]⟩

/-- The first two invoices of the subscription that `subscriptionCheckout` opens. -/
def firstInvoice : Invoice := ⟨invoiceEvent "evt_2" "in_1", "in_1", 10000⟩

def secondInvoice : Invoice := ⟨invoiceEvent "evt_3" "in_2", "in_2", 10000⟩

/-- First invoice, checkout, second invoice: two payments for two invoices. -/
theorem monthly_counted_once : ∃ db', Processed
    [firstInvoice.event, subscriptionCheckout, secondInvoice.event] subscribingDb db' ∧
      CountedOnce "sub_1" "cs_1" firstInvoice [secondInvoice] db' := by
  have hrun : ((processAll [(firstInvoice.event, .offline 0 "a" "b"),
      (subscriptionCheckout, .offline 1 "c" "d"), (secondInvoice.event, .offline 2 "e" "f")]
      subscribingDb).isSome) = true := by decide +kernel
  obtain ⟨db', hdb'⟩ := Option.isSome_iff_exists.mp hrun
  have hprocessed := processed_of_processAll hdb'
  refine ⟨db', hprocessed, ?_⟩
  have hc : OpensSubscription "sub_1" "cs_1" subscriptionCheckout :=
    ⟨rfl, rfl, by decide, rfl, rfl, by decide⟩
  have hi : ∀ i ∈ [firstInvoice, secondInvoice], i.PaysFor "sub_1" := by
    intro i hm
    simp only [List.mem_cons, List.not_mem_nil, or_false] at hm
    rcases hm with rfl | rfl
    · exact ⟨rfl, rfl, rfl, by decide, rfl⟩
    · exact ⟨rfl, rfl, rfl, by decide, rfl⟩
  have hprice : PricedAt firstInvoice.minorUnits subscriptionCheckout subscribingDb := by
    intro c hcm _
    rw [List.mem_singleton.mp hcm]
    rfl
  have hu : Unsubscribed "sub_1" subscribingDb := fun s hs ↦ by cases hs
  have horder : [Occurrence.invoicePaid firstInvoice, .checkoutCompleted,
      .invoicePaid secondInvoice].Perm
        (.checkoutCompleted :: [firstInvoice, secondInvoice].map .invoicePaid) :=
    List.Perm.swap _ _ _
  exact (revenue_counted_once hc hi (by decide) hprice hu (fun p hp ↦ by cases hp) horder
    hprocessed).mpr ⟨_, rfl⟩

/-- The checkout and then the first invoice: two payments for one invoice. -/
theorem first_invoice_counted_twice : ∃ db',
    OpensSubscription "sub_1" "cs_1" subscriptionCheckout ∧ firstInvoice.PaysFor "sub_1" ∧
      PricedAt firstInvoice.minorUnits subscriptionCheckout subscribingDb ∧
      Processed [subscriptionCheckout, firstInvoice.event] subscribingDb db' ∧
      ¬CountedOnce "sub_1" "cs_1" firstInvoice [] db' := by
  have hrun : ((processAll [(subscriptionCheckout, .offline 0 "a" "b"),
      (firstInvoice.event, .offline 1 "c" "d")] subscribingDb).any fun db ↦
        ((subscriptionPayments "sub_1" db).map fun p ↦ p.amount.cents).sum == 20000) = true := by
    decide +kernel
  obtain ⟨db', hdb', hsum⟩ := (Option.any_eq_true ..).mp hrun
  refine ⟨db', ⟨rfl, rfl, by decide, rfl, rfl, by decide⟩, ⟨rfl, rfl, rfl, by decide, rfl⟩, ?_,
    processed_of_processAll hdb', fun h ↦ ?_⟩
  · intro c hcm _
    rw [List.mem_singleton.mp hcm]
    rfl
  · have htotal := h.total
    rw [beq_iff_eq.mp hsum] at htotal
    simp [firstInvoice] at htotal

end Orders

end StripeWebhookService

end Innovents.Payments
