import Innovents.Payments.PaymentsService

namespace Innovents.Payments

open Innovents.Lib JsNumber

namespace PaymentsService

variable {env : Env} {db db' : Db}

/-- What a statement of a checkout writes. -/
inductive CheckoutWrite (db db' : Db) : Prop
  | elsewhere : db' = { db with
      sponsorProfiles := db'.sponsorProfiles
      auditLogs := db'.auditLogs } → CheckoutWrite db db'
  | opened {p : Payment} : p.status = .pending → p.refundAmount = none →
      db'.payments.rows = db.payments.rows ++ [p] → db' = { db with payments := db'.payments } →
      CheckoutWrite db db'
  | session {id sessionId : String} :
      db'.payments.rows = Table.updateRows id (withSession sessionId) db.payments.rows →
      db' = { db with payments := db'.payments } → CheckoutWrite db db'

theorem CheckoutWrite.refl (_ : Request) (db : Db) : CheckoutWrite db db := .elsewhere rfl

theorem customerOf_writes (user : User) (sponsorProfile : SponsorProfile) :
    (customerOf user sponsorProfile).Each fun _ ↦ CheckoutWrite := by
  unfold customerOf
  split
  · trivial
  · refine Call.each_bind (each_query .refl) fun id ↦ ?_
    refine Call.each_bind (each_execute .refl fun env db db' _ h ↦ ?_) fun _ ↦ trivial
    simp only [bind_eq_ok, modify_eq_ok, pure_eq_ok, Prod.mk.injEq] at h
    obtain ⟨_, ⟨t, _, rfl⟩, rfl, _⟩ := h
    exact .elsewhere rfl

theorem checkout_writes (userId : String) (dto : CreateCommunitySponsorshipCheckoutDto) :
    (createCommunitySponsorshipCheckout userId dto).Each fun _ ↦ CheckoutWrite := by
  unfold createCommunitySponsorshipCheckout
  refine Call.each_bind (each_query .refl) fun ⟨user, sponsorProfile⟩ ↦ ?_
  refine Call.each_bind (each_query .refl) fun community ↦ ?_
  refine Call.each_bind (each_query .refl) fun _ ↦ ?_
  refine Call.each_bind (each_query .refl) fun plan ↦ ?_
  refine Call.each_bind (customerOf_writes user sponsorProfile) fun stripeCustomerId ↦ ?_
  refine Call.each_bind (each_execute .refl fun env db db' _ h ↦ ?_) fun payment ↦ ?_
  · simp only [bind_eq_ok, createPayment_eq_ok, pure_eq_ok, Prod.mk.injEq] at h
    obtain ⟨_, ⟨_, t, ht, rfl⟩, rfl, _⟩ := h
    exact .opened rfl rfl ht rfl
  refine Call.each_bind (each_query .refl) fun session ↦ ?_
  refine Call.each_bind (each_execute .refl fun env db db' _ h ↦ ?_) fun _ ↦ ?_
  · simp only [bind_eq_ok, modify_eq_ok, pure_eq_ok, Prod.mk.injEq] at h
    obtain ⟨_, ⟨t, ⟨_, ht⟩, rfl⟩, rfl, _⟩ := h
    exact .session ht rfl
  refine Call.each_bind (each_logAudit fun _ _ _ ↦ .elsewhere rfl) fun _ ↦ trivial

section Refund

variable {payment : Payment} {sponsorship : Option CommunitySponsorship} {targetRefund : ℚ}
  {reason : Option String} {refundAmount : Money}

def refundNotice (env : Env) (payment : Payment) (targetRefund : ℚ) (reason : Option String) :
    OutboxEvent :=
  ⟨env.outboxId, "PAYMENT_REFUNDED", "PAYMENT", payment.id,
    .obj (refundNoticePayload payment targetRefund reason), .pending, 0, none, env.now,
      none, none⟩

/-- The state that the transaction of an admin refund leaves behind. -/
structure AdminRefunded (env : Env) (payment : Payment)
    (sponsorship : Option CommunitySponsorship) (targetRefund : ℚ) (reason : Option String)
    (refundAmount : Money) (db db' : Db) : Prop where
  found : ∃ p ∈ db.payments.rows, p.id = payment.id
  payments : db'.payments.rows = Table.updateRows payment.id
    (settleRefund env (isFullRefund payment targetRefund) refundAmount reason) db.payments.rows
  ended : ∀ s, isFullRefund payment targetRefund = true → sponsorship = some s →
    Ended .cancelled env.now s db { db with
      communitySponsorships := db'.communitySponsorships
      communities := db'.communities }
  kept : isFullRefund payment targetRefund = false ∨ sponsorship = none →
    db'.communitySponsorships = db.communitySponsorships ∧ db'.communities = db.communities
  outbox : db'.outboxEvents.rows =
    db.outboxEvents.rows ++ [refundNotice env payment targetRefund reason]
  frame : db' = { db with
    payments := db'.payments
    communitySponsorships := db'.communitySponsorships
    communities := db'.communities
    outboxEvents := db'.outboxEvents }

theorem endRefunded_eq_ok {full : Bool} :
    endRefunded env full sponsorship db = .ok db' ↔
    (∀ s, full = true → sponsorship = some s → Ended .cancelled env.now s db db') ∧
      (full = false ∨ sponsorship = none → db' = db) := by
  cases full with
  | false => simp [endRefunded, eq_comm]
  | true =>
    cases sponsorship with
    | none => simp [endRefunded, eq_comm]
    | some s => simp [endRefunded, endSponsorship_eq_ok]

theorem Ended.of_payments {s : CommunitySponsorship} {ps : Table Payment} {now : Time}
    {status : CommunitySponsorshipStatus} {db₁ : Db} :
    Ended status now s { db with payments := ps } db₁ ↔
      Ended status now s db { db with
        communitySponsorships := db₁.communitySponsorships
        communities := db₁.communities } ∧
      db₁ = { db with
        payments := ps
        communitySponsorships := db₁.communitySponsorships
        communities := db₁.communities } :=
  ⟨fun h ↦ ⟨⟨h.found, h.sponsorships, h.communities, rfl⟩, h.frame⟩,
    fun h ↦ ⟨h.1.found, h.1.sponsorships, h.1.communities, h.2⟩⟩

theorem recordRefund_eq_ok :
    (∃ updated, recordRefund env payment sponsorship targetRefund reason db = .ok (db', updated)) ↔
      ∃ refundAmount : Money,
        refundAmount.cents = roundHalfAway (100 * newTotalRefunded payment targetRefund) ∧
        AdminRefunded env payment sponsorship targetRefund reason refundAmount db db' := by
  simp only [recordRefund, bind_eq_ok, Money.ofDecimal_eq_ok, modify_eq_ok, found_eq_ok,
    endRefunded_eq_ok, enqueue_eq_ok, pure_eq_ok, Prod.mk.injEq]
  constructor
  · intro h
    obtain ⟨updated, refundAmount, hcents, _, ⟨ps, ⟨hfound, hps⟩, rfl⟩, _, _, db₁, ⟨hend, hkept⟩, _,
      ⟨os, hos, rfl⟩, rfl, _⟩ := h
    refine ⟨refundAmount, hcents, ?_⟩
    have hframe : db₁ = { db with
        payments := ps
        communitySponsorships := db₁.communitySponsorships
        communities := db₁.communities } := by
      cases hfull : isFullRefund payment targetRefund with
      | false => rw [hkept (.inl hfull)]; rfl
      | true =>
        cases hs : sponsorship with
        | none => rw [hkept (.inr hs)]; rfl
        | some s => exact (Ended.of_payments.mp (hend s hfull hs)).2
    refine ⟨hfound, ?_, fun s hfull hs ↦ (Ended.of_payments.mp (hend s hfull hs)).1, fun hk ↦ ?_,
      ?_, ?_⟩
    · rw [hframe]
      exact hps
    · rw [hkept hk]
      exact ⟨rfl, rfl⟩
    · rw [hos, hframe]
      rfl
    · rw [hframe]
  · intro h
    obtain ⟨refundAmount, hcents, h⟩ := h
    obtain ⟨p, hp, hpid⟩ := h.found
    have hget : ∃ updated, db'.payments.get? payment.id = some updated := by
      refine ⟨settleRefund env (isFullRefund payment targetRefund) refundAmount reason p,
        Table.get?_eq_some.mpr ⟨?_, hpid⟩⟩
      rw [h.payments]
      exact Table.mem_updateRows.mpr (.inl ⟨p, hp, hpid, rfl⟩)
    obtain ⟨updated, hupdated⟩ := hget
    let db₁ : Db := { db with
      payments := db'.payments
      communitySponsorships := db'.communitySponsorships
      communities := db'.communities }
    refine ⟨updated, refundAmount, hcents, _, ⟨db'.payments, ⟨h.found, h.payments⟩, rfl⟩, updated,
      hupdated, db₁, ⟨fun s hfull hs ↦ Ended.of_payments.mpr ⟨h.ended s hfull hs, rfl⟩,
        fun hk ↦ ?_⟩, _, ⟨db'.outboxEvents, h.outbox, rfl⟩, h.frame.symm, rfl⟩
    simp only [db₁, h.kept hk, paymentTable]

/-- A refund ends a sponsorship, or leaves sponsorships and communities as they are. -/
theorem AdminRefunded.ended_or_kept
    (h : AdminRefunded env payment sponsorship targetRefund reason refundAmount db db') :
    (∃ s, isFullRefund payment targetRefund = true ∧ sponsorship = some s ∧
      Ended .cancelled env.now s db { db with
        communitySponsorships := db'.communitySponsorships
        communities := db'.communities }) ∨
    db'.communitySponsorships = db.communitySponsorships ∧ db'.communities = db.communities := by
  cases hfull : isFullRefund payment targetRefund with
  | false => exact .inr (h.kept (.inl hfull))
  | true =>
    cases hs : sponsorship with
    | none => exact .inr (h.kept (.inr hs))
    | some s => exact .inl ⟨s, rfl, rfl, h.ended s hfull hs⟩

end Refund

/-- The sponsorship that a payment is linked to. -/
def sponsorshipOf (payment : Payment) (db : Db) : Option CommunitySponsorship :=
  db.communitySponsorships.find? fun s ↦ s.paymentId == some payment.id

theorem sponsorshipOf_eq_some {payment : Payment} {s : CommunitySponsorship} :
    sponsorshipOf payment db = some s ↔
      s ∈ db.communitySponsorships.rows ∧ s.paymentId = some payment.id := by
  constructor
  · intro h
    obtain ⟨hm, hp⟩ := Table.find?_mem h
    exact ⟨hm, beq_iff_eq.mp hp⟩
  · intro h
    obtain ⟨hm, hp⟩ := h
    cases hf : sponsorshipOf payment db with
    | none =>
      have hn := Table.find?_eq_none.mp hf s hm
      simp [hp] at hn
    | some s' =>
      obtain ⟨hm', hp'⟩ := Table.find?_mem hf
      rw [db.communitySponsorships.eq_of_unique (u := fun s ↦ s.paymentId) (by simp [Row.uniques])
        hm' hm (beq_iff_eq.mp hp') hp]

/-- An admin refund that runs on its own: it changes nothing, or it goes through
with the payment and the sponsorship as they are. -/
inductive Refunds (ok : Env → Prop) (paymentId : String) (dto : AdminRefundDto) (db db' : Db) : Prop
  | nothing : db' = db → Refunds ok paymentId dto db db'
  | recorded {env : Env} {payment : Payment} {targetRefund : ℚ} {refundAmount : Money} {db₁ : Db}
      {t : Table AuditLog} : ok env → payment ∈ db.payments.rows → payment.id = paymentId →
      refundTarget payment dto = .ok targetRefund →
      refundAmount.cents = roundHalfAway (100 * newTotalRefunded payment targetRefund) →
      AdminRefunded env payment (sponsorshipOf payment db) targetRefund dto.reason refundAmount
        db db₁ →
      db' = { db₁ with auditLogs := t } → Refunds ok paymentId dto db db'

/-- What a statement of an admin refund writes. -/
inductive RefundWrite (db db' : Db) : Prop
  | logged : db' = { db with auditLogs := db'.auditLogs } → RefundWrite db db'
  | recorded {env : Env} {payment : Payment} {sponsorship : Option CommunitySponsorship}
      {targetRefund : ℚ} {reason : Option String} {refundAmount : Money} :
      AdminRefunded env payment sponsorship targetRefund reason refundAmount db db' →
      RefundWrite db db'

theorem RefundWrite.refl (_ : Request) (db : Db) : RefundWrite db db := .logged rfl

theorem settle_writes (payment : Payment) (sponsorship : Option CommunitySponsorship)
    (targetRefund : ℚ) (adminUserId : String) (reason : Option String) :
    (settle payment sponsorship targetRefund adminUserId reason).Each fun _ ↦ RefundWrite := by
  unfold settle
  refine Call.each_bind (each_execute .refl fun env db db' updated h ↦ ?_) fun updated ↦ ?_
  · obtain ⟨refundAmount, _, hrefunded⟩ := recordRefund_eq_ok.mp ⟨updated, h⟩
    exact .recorded hrefunded
  · exact Call.each_bind (each_logAudit fun _ _ _ ↦ .logged rfl) fun _ ↦ trivial

theorem refund_writes (paymentId adminUserId : String) (dto : AdminRefundDto) :
    (refundPayment paymentId adminUserId dto).Each fun _ ↦ RefundWrite := by
  unfold refundPayment
  refine Call.each_bind (Call.each_ask fun _ ↦ .logged rfl) fun ⟨payment, sponsorship⟩ ↦ ?_
  refine Call.each_bind trivial fun targetRefund ↦ ?_
  unfold giveBack
  split
  · exact Call.each_bind (Call.each_ask fun _ ↦ .logged rfl) fun _ ↦ settle_writes _ _ _ _ _
  · exact settle_writes _ _ _ _ _

section Run

variable {ok : Env → Prop} {paymentId adminUserId : String} {dto : AdminRefundDto}
  {r : Except Err Payment}

theorem settle_ran {payment : Payment} {sponsorship : Option CommunitySponsorship}
    {targetRefund : ℚ} {reason : Option String}
    (h : (settle payment sponsorship targetRefund adminUserId reason).Ran ok db r db') :
    db' = db ∨ ∃ env refundAmount db₁ t, ok env ∧
      refundAmount.cents = roundHalfAway (100 * newTotalRefunded payment targetRefund) ∧
      AdminRefunded env payment sponsorship targetRefund reason refundAmount db db₁ ∧
      db' = { db₁ with auditLogs := t } := by
  unfold settle at h
  rw [Call.bind_eq, Call.ran_bind] at h
  rcases h with ⟨x, h, _⟩ | ⟨updated, db₁, h, hlog⟩
  · obtain ⟨env, _, hr, rfl⟩ := Call.ran_perform.mp h
    cases hrec : recordRefund env payment sponsorship targetRefund reason db with
    | ok q => rw [hrec] at hr; cases hr
    | error err => exact .inl rfl
  · obtain ⟨env, hok, hr, rfl⟩ := Call.ran_perform.mp h
    cases hrec : recordRefund env payment sponsorship targetRefund reason db with
    | error err => rw [hrec] at hr; cases hr
    | ok q =>
      obtain ⟨db₁, p⟩ := q
      obtain ⟨refundAmount, hcents, hrefunded⟩ := recordRefund_eq_ok.mp ⟨p, hrec⟩
      refine .inr ⟨env, refundAmount, db₁, db'.auditLogs, hok, hcents, hrefunded, ?_⟩
      simp only [hrec, Call.written] at hlog
      rw [Call.bind_eq, Call.ran_bind] at hlog
      rcases hlog with ⟨x, hlog, _⟩ | ⟨_, db₂, hlog, hret⟩
      · obtain ⟨t, rfl⟩ := logAudit_ran hlog
        rfl
      · obtain ⟨t, rfl⟩ := logAudit_ran hlog
        rw [(Call.ran_returned.mp hret).2]

theorem refundPayment_ran (h : (refundPayment paymentId adminUserId dto).Ran ok db r db') :
    Refunds ok paymentId dto db db' := by
  unfold refundPayment at h
  rw [Call.bind_eq, Call.ran_bind] at h
  rcases h with ⟨x, h, _⟩ | ⟨⟨payment, sponsorship⟩, db₀, h, hrest⟩
  · obtain ⟨_, _, _, rfl⟩ := Call.ran_ask.mp h
    exact .nothing rfl
  · obtain ⟨_, _, hr, rfl⟩ := Call.ran_ask.mp h
    have hread := hr.symm
    simp only [bind_eq_ok, found_eq_ok, pure_eq_ok, Prod.mk.injEq] at hread
    obtain ⟨p, hp, rfl, rfl⟩ := hread
    obtain ⟨hm, hid⟩ := Table.get?_eq_some.mp hp
    dsimp only at hrest
    rw [Call.bind_eq, Call.ran_bind] at hrest
    rcases hrest with ⟨x, h, _⟩ | ⟨targetRefund, db₁, h, hrest⟩
    · exact .nothing (Call.ran_returned.mp h).2
    · obtain ⟨htarget, hdb⟩ := Call.ran_returned.mp h
      rw [hdb] at hrest
      have hsettled : ∀ d, (settle p (sponsorshipOf p db₀) targetRefund adminUserId dto.reason).Ran
          ok d r db' → d = db₀ → Refunds ok paymentId dto db₀ db' := by
        intro d hran hd
        subst hd
        rcases settle_ran hran with rfl | ⟨env, refundAmount, db₁, t, hok, hcents, hrefunded, rfl⟩
        · exact .nothing rfl
        · exact .recorded hok hm hid htarget.symm hcents hrefunded rfl
      unfold giveBack at hrest
      split at hrest
      · rw [Call.bind_eq, Call.ran_bind] at hrest
        rcases hrest with ⟨x, h, _⟩ | ⟨_, db₁, h, hrest⟩
        · obtain ⟨_, _, _, rfl⟩ := Call.ran_ask.mp h
          exact .nothing rfl
        · obtain ⟨_, _, _, rfl⟩ := Call.ran_ask.mp h
          exact hsettled _ hrest rfl
      · exact hsettled _ hrest rfl

end Run

end PaymentsService

end Innovents.Payments
