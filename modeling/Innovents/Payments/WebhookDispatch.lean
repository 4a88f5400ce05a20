import Innovents.Payments.WebhookService

namespace Innovents.Payments

open Innovents.Lib

namespace StripeWebhookService

/-- Two records with the same fields. -/
def SameRecord (v o : JsValue) : Prop :=
  ∃ fs gs, v = .obj fs ∧ o = .obj gs ∧ ∀ k, fs.lookup k = gs.lookup k

/-- A payload that verifies and is then processed as its object `o`: the handler
of its type is called with a record of the fields of `o`, and the database
changes as that handler applied to `o` changes it. -/
def ProcessedAs (p : StripePaymentProvider) (now : Time) (payload signature : String)
    (o : JsValue) : Prop :=
  ∃ event, p.verifyWebhookSignature now payload signature = .ok event ∧
    ∀ h, handlerFor event.type = some h →
      (∃ v, dispatchTarget event = some (h, v) ∧ SameRecord v o) ∧
        ∀ env db, dispatchWebhookEvent env event db = h.run o env db

section Live

variable {p : StripePaymentProvider} {secret payload signature id type kind : String}
  {fields : List (String × JsValue)} {now : Time}

theorem verify_live (hlive : p.liveSecret = some secret) {o : JsValue}
    (hevent : p.constructEvent payload signature secret = .ok ⟨id, type, o⟩) :
    p.verifyWebhookSignature now payload signature = .ok ⟨id, type, o⟩ := by
  simp only [StripePaymentProvider.verifyWebhookSignature, hlive, hevent]

/-- The dispatcher opens the object once more and finds its type name. -/
theorem eventObject_live (hkind : fields.lookup "object" = some (.str kind)) (hne : kind ≠ "") :
    eventObject ⟨id, type, .obj fields⟩ = .str kind := by
  have hget : (JsValue.obj fields).get "object" = .str kind := by simp [JsValue.get, hkind]
  unfold eventObject
  rw [hget]
  exact JsValue.or_of_truthy _ ((JsValue.truthy_str_iff kind).mpr hne)

/-- A handler called with a text finds none of the fields it looks for: it fails
or plans nothing. -/
theorem reads_str (h : WebhookHandler) (s : String) (db : Db) :
    h.reads (.str s) db = .error .validation ∨ h.reads (.str s) db = .ok noCommit := by
  cases h with
  | checkoutSessionCompleted =>
    exact .inr (by simp [WebhookHandler.reads, handleCheckoutSessionCompleted, paysSponsorship,
      paysSubscription, JsValue.or, JsValue.get])
  | subscriptionUpdated => exact .inl rfl
  | subscriptionDeleted => exact .inl rfl
  | invoicePaid => exact .inr rfl
  | invoicePaymentFailed => exact .inr rfl
  | chargeRefunded => exact .inr rfl

/-- No live event whose object names its type ever changes the database. -/
theorem dispatch_live_unchanged (hkind : fields.lookup "object" = some (.str kind))
    (hne : kind ≠ "") {env : Env} {db db' : Db}
    (h : dispatchWebhookEvent env ⟨id, type, .obj fields⟩ db = .ok db') : db' = db := by
  unfold dispatchWebhookEvent dispatchTarget at h
  rw [eventObject_live hkind hne] at h
  cases hh : handlerFor type with
  | none =>
    simp only [hh, Option.map_none, Except.ok.injEq] at h
    exact h.symm
  | some handler =>
    simp only [hh, Option.map_some, WebhookHandler.run] at h
    rcases reads_str handler kind db with hr | hr
    · simp [hr, bind, Except.bind] at h
    · simp only [hr, noCommit, bind_eq_ok, pure_eq_ok, Except.ok.injEq, exists_eq_left',
        Option.elim_none] at h
      exact h.symm

theorem not_processed_of_handler (hlive : p.liveSecret = some secret)
    (hevent : p.constructEvent payload signature secret = .ok ⟨id, type, .obj fields⟩)
    (hkind : fields.lookup "object" = some (.str kind)) (hne : kind ≠ "") {h : WebhookHandler}
    (hh : handlerFor type = some h) : ¬ProcessedAs p now payload signature (.obj fields) := by
  rintro ⟨event, hv, hp⟩
  rw [verify_live hlive hevent, Except.ok.injEq] at hv
  subst hv
  obtain ⟨⟨v, htarget, fs, gs, hv, _, _⟩, _⟩ := hp h hh
  simp only [dispatchTarget, hh, eventObject_live hkind hne, Option.map_some, Option.some.injEq,
    Prod.mk.injEq, true_and] at htarget
  rw [← htarget] at hv
  cases hv

/-- A verified live event is processed as its object exactly when the dispatcher
has no handler for it. -/
theorem live_event_processed_as_object (hlive : p.liveSecret = some secret)
    (hevent : p.constructEvent payload signature secret = .ok ⟨id, type, .obj fields⟩)
    (hkind : fields.lookup "object" = some (.str kind)) (hne : kind ≠ "") :
    ProcessedAs p now payload signature (.obj fields) ↔ handlerFor type = none := by
  constructor
  · intro hp
    cases hh : handlerFor type with
    | none => rfl
    | some h => exact absurd hp (not_processed_of_handler hlive hevent hkind hne hh)
  · intro hh
    refine ⟨_, verify_live hlive hevent, fun h hs ↦ ?_⟩
    simp only [hh, reduceCtorEq] at hs

end Live

/-- A provider that runs live and knows one signed event. -/
def liveProvider (event : StripeEvent) : StripePaymentProvider where
  stripe := true
  webhookSecret := some "whsec_live"
  constructEvent payload signature secret :=
    if payload = "{}" ∧ signature = "t=1,v1=5257" ∧ secret = "whsec_live" then .ok event
    else .error "No signatures found matching the expected signature for payload"
  jsonParse _ := none

theorem live_customer_created_processed_as_object :
    ProcessedAs (liveProvider ⟨"evt_1", "customer.created", .obj [("object", .str "customer")]⟩)
      0 "{}" "t=1,v1=5257" (.obj [("object", .str "customer")]) :=
  (live_event_processed_as_object (show _ = some "whsec_live" by decide) rfl rfl
    (show "customer" ≠ "" by decide)).mpr (by decide)

def paidSession : List (String × JsValue) :=
  [("object", .str "checkout.session"), ("id", .str "cs_1"), ("mode", .str "payment"),
    ("metadata", .obj [("paymentPurpose", .str "COMMUNITY_SPONSORSHIP")])]

/-- A completed checkout session that verifies live is not processed as itself. -/
theorem live_checkout_session_not_processed :
    ¬ProcessedAs (liveProvider ⟨"evt_1", "checkout.session.completed", .obj paidSession⟩)
      0 "{}" "t=1,v1=5257" (.obj paidSession) :=
  not_processed_of_handler (show _ = some "whsec_live" by decide) rfl rfl
    (show "checkout.session" ≠ "" by decide) (show _ = some .checkoutSessionCompleted by decide)

end StripeWebhookService

end Innovents.Payments
