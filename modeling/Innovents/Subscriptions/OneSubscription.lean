import Innovents.Payments.CancelledSubscriptions
import Innovents.Subscriptions.SubscriptionsService

namespace Innovents.Subscriptions

open Innovents.Lib Innovents.Payments SubscriptionsService StripeWebhookService

/-- How many live subscriptions a user has for a plan. -/
def liveSubscriptions (userId : String) (plan : SubscriptionPlan) (db : Db) : ℕ :=
  db.subscriptions.rows.countP fun s ↦ s.userId == userId && s.plan == plan && isLive s

/-- Every user has at most one live subscription for each plan. -/
def OneSubscription (db : Db) : Prop :=
  ∀ userId plan, liveSubscriptions userId plan db ≤ 1

/-- A checkout request or the webhook of a completed checkout, as far as it has come. -/
inductive Purchase
  | checkout (c : Service SubscriptionCheckoutResponseDto)
  | delivery (d : Delivery)

namespace Purchase

inductive Starts : Purchase → Prop
  | checkout (userId : String) (dto : CreateSubscriptionCheckoutDto) :
      Starts (.checkout (createCheckout userId dto))
  | delivery (event : PaymentWebhookEvent) : event.type = "checkout.session.completed" →
      Starts (.delivery (.received event))

def step (env : Env) (db : Db) : Purchase → Option (Db × Purchase)
  | checkout c => (c.step env db).map fun (db, c) ↦ (db, checkout c)
  | delivery d => (d.step env db).map fun (db, d) ↦ (db, delivery d)

end Purchase

/-- Any number of checkout requests and completing webhooks side by side. -/
def purchases : Machine Db Purchase Env where
  start := Purchase.Starts
  step env db t := t.step env db
  world _ _ := False

/-- The Stripe id, the user and the plan of the subscription that a completed session
creates or renews. -/
def subscribedTo (event : PaymentWebhookEvent) (db : Db) :
    Option (String × String × SubscriptionPlan) :=
  let session := eventObject event
  let metadata := (session.get "metadata").or (.obj [])
  if !paysSponsorship session && paysSubscription session && isComplete session then do
    let sid ← (session.get "subscription").asStr?
    match db.subscriptions.find? fun s ↦ s.stripeSubscriptionId == sid with
    | some s => return (sid, s.userId, s.plan)
    | none =>
      let userId ← (metadata.get "userId").asStr?
      let plan ← (metadata.get "plan").asStr?.bind planOfKey
      return (sid, userId, plan)
  else none

/-- A session is completed only while its user has no other live subscription for its plan. -/
def SubscribesAlone (p : Pool Db Purchase) : Move Purchase Env → Prop
  | .run i _ => ∀ event recordId commit,
      p.threads[i]? = some (.delivery (.planned event recordId commit)) →
      ∀ sid userId plan, subscribedTo event p.shared = some (sid, userId, plan) →
        ∀ s ∈ p.shared.subscriptions.rows, s.userId = userId → s.plan = plan → isLive s = true →
          s.stripeSubscriptionId = sid
  | _ => True

section Steps

variable {env : Env} {db db' : Db} {event : PaymentWebhookEvent} {terms : SubscriptionTerms}
  {id : String}

/-- The rows of one user and plan that are live all have one Stripe id. -/
theorem live_le_one {userId sid : String} {plan : SubscriptionPlan}
    (h : ∀ s ∈ db.subscriptions.rows, s.userId = userId → s.plan = plan → isLive s = true →
      s.stripeSubscriptionId = sid) : liveSubscriptions userId plan db ≤ 1 := by
  have hmem : (fun s : Subscription ↦ some s.stripeSubscriptionId) ∈
      (Row.uniques : List (Subscription → Option String)) := by simp [Row.uniques]
  refine le_trans ?_ (db.subscriptions.countP_unique_le hmem sid)
  apply List.countP_mono_left
  intro s hs hlive
  simp only [Bool.and_eq_true, beq_iff_eq] at hlive
  rw [h s hs hlive.1.1 hlive.1.2 hlive.2, beq_self_eq_true]

theorem liveSubscriptions_renewed {f : Subscription → Subscription} {existing : Subscription}
    (hm : existing ∈ db.subscriptions.rows)
    (hrows : db'.subscriptions.rows = Table.updateRows existing.id f db.subscriptions.rows)
    (huser : ∀ s, (f s).userId = s.userId) (hplan : ∀ s, (f s).plan = s.plan) {userId : String}
    {plan : SubscriptionPlan} (hne : ¬(existing.userId = userId ∧ existing.plan = plan)) :
    liveSubscriptions userId plan db' = liveSubscriptions userId plan db := by
  unfold liveSubscriptions
  rw [hrows]
  apply Table.countP_updateRows
  intro s hs hid
  have hsame : s = existing := db.subscriptions.eq_of_id hs hm hid
  have hother : (existing.userId == userId && existing.plan == plan) = false := by
    rw [← Bool.not_eq_true, Bool.and_eq_true, beq_iff_eq, beq_iff_eq]
    exact hne
  rw [huser, hplan, hsame, hother, Bool.false_and, Bool.false_and]

/-- What the terms of a completed session are about. -/
theorem subscribedTo_eq (hplan : paysSponsorship (eventObject event) = false)
    (hpays : paysSubscription (eventObject event) = true)
    (hcomplete : isComplete (eventObject event) = true)
    (hterms : subscriptionTerms env (eventObject event) db = .ok terms) :
    subscribedTo event db = some (terms.subscriber.stripeSubscriptionId,
      match db.subscriptions.find? fun s ↦
          s.stripeSubscriptionId == terms.subscriber.stripeSubscriptionId with
      | some s => (s.userId, s.plan)
      | none => (terms.subscriber.userId, terms.planConfig.plan)) := by
  simp only [subscriptionTerms, bind_eq_ok, pure_eq_ok, found_eq_ok] at hterms
  obtain ⟨planKey, hkey, plan, hof, planConfig, hconfig, userId, huser, _, _, sid, hsid, _, _, _, _,
    _, _, rfl⟩ := hterms
  have hsame : planConfig.plan = plan := beq_iff_eq.mp (Table.find?_mem hconfig).2
  rw [textArg_eq_ok] at hkey huser hsid
  simp only [subscribedTo, hplan, hpays, hcomplete, Bool.not_false, Bool.true_and, if_true, hsid,
    hkey, huser, Option.bind_some, hof, hsame, Option.bind_eq_bind, Option.pure_def]
  cases db.subscriptions.find? fun s ↦ s.stripeSubscriptionId == sid with
  | some s => rfl
  | none => rfl

/-- A completed session while its user has no other live subscription for its plan. -/
theorem subscribed_alone (h : OneSubscription db)
    (hplan : paysSponsorship (eventObject event) = false)
    (hpays : paysSubscription (eventObject event) = true)
    (hcomplete : isComplete (eventObject event) = true)
    (hterms : subscriptionTerms env (eventObject event) db = .ok terms)
    (hsub : Upserted env terms id db db'.subscriptions)
    (halone : ∀ sid userId plan, subscribedTo event db = some (sid, userId, plan) →
      ∀ s ∈ db.subscriptions.rows, s.userId = userId → s.plan = plan → isLive s = true →
        s.stripeSubscriptionId = sid) : OneSubscription db' := by
  have hto := subscribedTo_eq hplan hpays hcomplete hterms
  rcases hsub with ⟨existing, hm, hkey, _, hrows⟩ | ⟨hnone, _, _, hrows⟩
  · have hfind : (db.subscriptions.find? fun s ↦
        s.stripeSubscriptionId == terms.subscriber.stripeSubscriptionId) = some existing := by
      cases hf : db.subscriptions.find? fun s ↦
          s.stripeSubscriptionId == terms.subscriber.stripeSubscriptionId with
      | none =>
        have habsent := Table.find?_eq_none.mp hf existing hm
        simp [hkey] at habsent
      | some s =>
        obtain ⟨hs, hskey⟩ := Table.find?_mem hf
        rw [db.subscriptions.eq_of_unique (u := fun s ↦ some s.stripeSubscriptionId)
          (by simp [Row.uniques]) hs hm rfl (by rw [hkey, beq_iff_eq.mp hskey])]
    rw [hfind] at hto
    intro userId plan
    by_cases hsame : existing.userId = userId ∧ existing.plan = plan
    · obtain ⟨rfl, rfl⟩ := hsame
      refine live_le_one fun s hs huser hplan hlive ↦
        (?_ : s.stripeSubscriptionId = terms.subscriber.stripeSubscriptionId)
      rw [hrows] at hs
      rcases Table.mem_updateRows.mp hs with ⟨r, hr, hrid, rfl⟩ | ⟨hr, _⟩
      · rw [db.subscriptions.eq_of_id hr hm hrid]
        exact hkey
      · exact halone _ _ _ hto s hr huser hplan hlive
    · rw [liveSubscriptions_renewed hm hrows (fun _ ↦ rfl) (fun _ ↦ rfl) hsame]
      exact h userId plan
  · have hfind : (db.subscriptions.find? fun s ↦
        s.stripeSubscriptionId == terms.subscriber.stripeSubscriptionId) = none := by
      rw [Table.find?_eq_none]
      intro s hs
      exact beq_eq_false_iff_ne.mpr (hnone s hs)
    rw [hfind] at hto
    intro userId plan
    by_cases hsame : terms.subscriber.userId = userId ∧ terms.planConfig.plan = plan
    · obtain ⟨rfl, rfl⟩ := hsame
      refine live_le_one fun s hs huser hplan hlive ↦
        (?_ : s.stripeSubscriptionId = terms.subscriber.stripeSubscriptionId)
      rw [hrows] at hs
      rcases List.mem_append.mp hs with hr | hr
      · exact halone _ _ _ hto s hr huser hplan hlive
      · rw [List.mem_singleton.mp hr]
        rfl
    · have hother : ((terms.row env).userId == userId && (terms.row env).plan == plan) = false := by
        rw [← Bool.not_eq_true, Bool.and_eq_true, beq_iff_eq, beq_iff_eq]
        exact hsame
      unfold liveSubscriptions
      rw [hrows, List.countP_append, List.countP_singleton, hother]
      exact h userId plan

/-- A delivery of a completed session; its transaction, once planned, is that of the session. -/
def Completing : Delivery → Prop
  | .received e | .unrecorded e | .recorded e _ | .logging e _ _ | .handled e _ | .failing e _ _ =>
    e.type = "checkout.session.completed"
  | .planned e _ commit => e.type = "checkout.session.completed" ∧
    ∃ db₀, handleCheckoutSessionCompleted (eventObject e) db₀ = .ok commit
  | .returned _ => True

theorem completing_next {d d' : Delivery} (h : Completing d) (hs : d.Next env db db' d') :
    Completing d' := by
  cases hs with
  | skip | refuse | finish | fail | lost => trivial
  | @plan event _ _ hr =>
    have htype : event.type = "checkout.session.completed" := h
    simp only [dispatchReads, dispatchTarget, htype, handlerFor, Option.map_some] at hr
    exact ⟨h, db, hr⟩
  | commit | announce | abort => exact h.1
  | resume | miss | record | unread | log | unfinished => exact h

theorem completing_writes {recordId : String} {commit : Commit}
    {entry : Option CreateAuditLogParams} (h : OneSubscription db)
    (hplanned : Completing (.planned event recordId commit))
    (hc : commit env db = .ok (db', entry))
    (halone : ∀ sid userId plan, subscribedTo event db = some (sid, userId, plan) →
      ∀ s ∈ db.subscriptions.rows, s.userId = userId → s.plan = plan → isLive s = true →
        s.stripeSubscriptionId = sid) : OneSubscription db' := by
  have hkept (hs : db'.subscriptions = db.subscriptions) : OneSubscription db' := by
    intro userId plan
    rw [liveSubscriptions, hs]
    exact h userId plan
  obtain ⟨_, db₀, hr⟩ := hplanned
  simp only [handleCheckoutSessionCompleted] at hr
  split_ifs at hr with hsponsorship hpays
  · cases hr
    exact hkept (sponsorship_subscriptions hc)
  · cases hr
    simp only [activateSubscriptionFromSession] at hc
    split_ifs at hc with hcomplete
    · obtain ⟨terms, id, hterms, hsub⟩ := activateSubscription_eq_ok.mp ⟨entry, hc⟩
      have hnot : paysSponsorship (eventObject event) = false := by simpa using hsponsorship
      exact subscribed_alone h hnot hpays hcomplete hterms hsub.upserted halone
    · exact hkept (by rw [(noCommit_eq_ok.mp hc).1])
  · cases hr
    exact hkept (by rw [(noCommit_eq_ok.mp hc).1])

/-- What is known of a purchase at the statement it has reached. -/
def Purchase.Sound : Purchase → Prop
  | .checkout c => c.Each fun _ db db' ↦ db'.subscriptions = db.subscriptions
  | .delivery d => Completing d

theorem Purchase.Starts.sound {t : Purchase} (h : t.Starts) : t.Sound := by
  cases h with
  | checkout userId dto => exact createCheckout_writes userId dto
  | delivery event htype => exact htype

end Steps

/-- However checkout requests and the webhooks of completed checkouts interleave, if no
session is completed while its user has another live subscription for its plan, no user
ever has two live subscriptions for one plan. -/
theorem one_subscription {p : Pool Db Purchase}
    (h : Reach purchases.Step SubscribesAlone
      (fun q ↦ q.threads = [] ∧ OneSubscription q.shared) p) : OneSubscription p.shared := by
  refine (Machine.outline (J := OneSubscription) (A := fun _ ↦ Purchase.Sound) (fun q hq ↦ ?_)
    (fun _ _ _ ↦ Purchase.Starts.sound) (fun q i env t db' t' hJ hA hi hok hs ↦ ?_)
    (fun w w' _ (hw : purchases.world w w') ↦ False.elim hw) h).1
  · obtain ⟨hnone, hJ⟩ := hq
    exact ⟨hJ, by simp [hnone]⟩
  · have hkept (hsame : db'.subscriptions = q.shared.subscriptions) : OneSubscription db' := by
      intro userId plan
      rw [liveSubscriptions, hsame]
      exact hJ userId plan
    cases t with
    | checkout c =>
      obtain ⟨r, hr, he⟩ := Option.map_eq_some_iff.mp hs
      cases he
      obtain ⟨⟨_, _, hsame⟩, hrest⟩ := Call.Each.step hA hr
      exact ⟨hkept hsame, hrest, fun _ hu ↦ hu⟩
    | delivery d =>
      obtain ⟨r, hr, he⟩ := Option.map_eq_some_iff.mp hs
      cases he
      have hnext := Delivery.next_of_step hr
      refine ⟨?_, completing_next hA hnext, fun _ hu ↦ hu⟩
      rcases hnext.frame with ⟨t, a, hframe⟩ | ⟨event, recordId, commit, entry, rfl, hc⟩
      · exact hkept (by rw [hframe])
      · have hplanned : Completing (.planned event recordId commit) := hA
        exact completing_writes hJ hplanned hc (hok event recordId commit hi)

section Sample

/-- One sponsor, and plans by the month and by the year. -/
def subscribingDb : Db :=
  { Db.empty with
    users := .singleton ⟨"user-1", "sponsor@example.com", .active, none, ["SPONSOR"]⟩
    sponsorProfiles := .singleton ⟨"profile-1", "user-1", "Acme", none, some "cus_1"⟩
    subscriptionPlanConfigs := ⟨[monthlyPlan, ⟨"config-2", .sponsorAnnual, "Sponsor Annual",
      "SPONSOR", none, monthlyPrice, "SAR", .year, true⟩], by decide⟩ }

/-- The completed session of a checkout of the sample sponsor. -/
def subscriptionSession (eventId sessionId sid : String) (plan : SubscriptionPlan) :
    PaymentWebhookEvent :=
  ⟨eventId, "checkout.session.completed",
    .obj [("id", .str sessionId), ("mode", .str "subscription"), ("subscription", .str sid),
      ("customer", .str "cus_1"),
      ("metadata", .obj [("userId", .str "user-1"), ("profileId", .str "profile-1"),
        ("plan", .str (planText plan)), ("purpose", .str "SUBSCRIPTION")])]⟩

/-- Two checkouts for the plans, and the webhooks of their sessions. -/
def twoPurchases (plan₁ plan₂ : SubscriptionPlan) : List Purchase :=
  [.checkout (createCheckout "user-1" ⟨plan₁, none, none⟩),
    .checkout (createCheckout "user-1" ⟨plan₂, none, none⟩),
    .delivery (.received (subscriptionSession "evt_1" "cs_1" "sub_1" plan₁)),
    .delivery (.received (subscriptionSession "evt_2" "cs_2" "sub_2" plan₂))]

theorem starts_twoPurchases (plan₁ plan₂ : SubscriptionPlan) :
    ∀ t ∈ twoPurchases plan₁ plan₂, purchases.start t := by
  intro t ht
  simp only [twoPurchases, List.mem_cons, List.not_mem_nil, or_false] at ht
  rcases ht with rfl | rfl | rfl | rfl
  · exact .checkout _ _
  · exact .checkout _ _
  · exact .delivery _ rfl
  · exact .delivery _ rfl

/-- Both sessions are opened, then both are completed. -/
def openThenComplete : List (ℕ × Env) :=
  List.replicate 5 (0, .online 0 "cs_1" "a" "b") ++ List.replicate 5 (1, .online 0 "cs_2" "c" "d") ++
    List.replicate 6 (2, .online 0 "" "e" "f") ++ List.replicate 6 (3, .online 0 "" "g" "h")

def subscribesAlone (p : Pool Db Purchase) (i : ℕ) (_ : Env) : Bool :=
  match p.threads[i]? with
  | some (.delivery (.planned event _ _)) =>
    (subscribedTo event p.shared).all fun (sid, userId, plan) ↦
      p.shared.subscriptions.rows.all fun s ↦
        !(s.userId == userId && s.plan == plan && isLive s) || s.stripeSubscriptionId == sid
  | _ => true

theorem subscribesAlone_ok (p : Pool Db Purchase) (i : ℕ) (env : Env)
    (h : subscribesAlone p i env = true) : SubscribesAlone p (.run i env) := by
  intro event recordId commit hi sid userId plan hto s hs huser hplan hlive
  simp only [subscribesAlone, hi, hto, Option.all_some, List.all_eq_true] at h
  have hs' := h s hs
  simpa [huser, hplan, hlive] using hs'

/-- Two checkouts for two plans. -/
theorem subscribed_to_both : ∃ p : Pool Db Purchase,
    p.shared.subscriptions.rows.length = 2 ∧ OneSubscription p.shared := by
  have hinit : Reach purchases.Step SubscribesAlone
      (fun q ↦ q.threads = [] ∧ OneSubscription q.shared) ⟨subscribingDb, []⟩ :=
    .start ⟨rfl, fun _ _ ↦ Nat.zero_le 1⟩
  have hstart := Machine.reach_spawnAll (fun _ _ _ ↦ trivial)
    (starts_twoPurchases .sponsorMonthly .sponsorAnnual) hinit
  have hrun : (purchases.play subscribesAlone openThenComplete
      ⟨subscribingDb, twoPurchases .sponsorMonthly .sponsorAnnual⟩).any (fun p ↦
        p.shared.subscriptions.rows.length == 2) = true := by
    decide +kernel
  obtain ⟨p, hp, htwo⟩ := (Option.any_eq_true ..).mp hrun
  have hreach := Machine.reach_play subscribesAlone_ok hstart hp
  exact ⟨p, beq_iff_eq.mp htwo, one_subscription hreach⟩

/-- Both sessions for one plan are opened before either is completed: the user has two live
subscriptions for the plan. -/
theorem subscribed_twice : ∃ p : Pool Db Purchase,
    Reach purchases.Step (fun _ _ ↦ True) (fun q ↦ q = ⟨subscribingDb, []⟩) p ∧
      liveSubscriptions "user-1" .sponsorMonthly p.shared = 2 := by
  have hinit : Reach purchases.Step (fun _ _ ↦ True) (fun q ↦ q = ⟨subscribingDb, []⟩)
      ⟨subscribingDb, []⟩ := .start rfl
  have hstart := Machine.reach_spawnAll (fun _ _ _ ↦ trivial)
    (starts_twoPurchases .sponsorMonthly .sponsorMonthly) hinit
  have hrun : (purchases.play (fun _ _ _ ↦ true) openThenComplete
      ⟨subscribingDb, twoPurchases .sponsorMonthly .sponsorMonthly⟩).any (fun p ↦
        liveSubscriptions "user-1" .sponsorMonthly p.shared == 2) = true := by
    decide +kernel
  obtain ⟨p, hp, htwo⟩ := (Option.any_eq_true ..).mp hrun
  exact ⟨p, Machine.reach_play (fun _ _ _ _ ↦ trivial) hstart hp, beq_iff_eq.mp htwo⟩

end Sample

end Innovents.Subscriptions
