import Innovents.Payments.PaymentRuns

namespace Innovents.Payments

open Innovents.Lib JsNumber

/-- What the request makes the provider refund of a charge. -/
def Request.refundsAt (paymentIntentId : String) (env : Env) : Request → ℤ
  | .refundCharge intent minorUnits reason =>
    match env.provider.refundPayment intent minorUnits reason with
    | .ok () => if intent = paymentIntentId then minorUnits else 0
    | .error _ => 0
  | _ => 0

/-- The database, and what the provider has refunded of the charge so far. -/
structure Books where
  db : Db
  refunded : ℤ

namespace PaymentsService

/-- Any number of admin refunds of one payment, side by side. -/
def refunds (paymentId paymentIntentId : String) : Machine Books (Service Payment) Env where
  start t := ∃ adminUserId dto, t = refundPayment paymentId adminUserId dto
  step env s t := (t.step env s.db).map fun (db, t') ↦
    (⟨db, s.refunded + t.label?.elim 0 (Request.refundsAt paymentIntentId env)⟩, t')
  world _ _ := False

/-- The call was accepted and has not recorded its refund yet. -/
def underWay (t : Service Payment) : Bool :=
  match t.label? with
  | some (.refundCharge _ _ _) => true
  | some (.named name) => name == "$transaction"
  | _ => false

/-- The requested amounts stay away from half cents, and a call reads the payment
only when no other call is under way. The key of a new outbox row is new. -/
def TakesTurns (paymentId : String) (p : Pool Books (Service Payment)) :
    Move (Service Payment) Env → Prop
  | .spawn t => ∃ adminUserId dto, t = refundPayment paymentId adminUserId dto ∧
      ∀ amount ∈ dto.amount, AwayFromHalfCent amount
  | .run i env => (∀ o ∈ p.shared.db.outboxEvents.rows, o.id ≠ env.outboxId) ∧
      ∀ t ∈ p.threads[i]?, t.label? = some (.findPayment paymentId) →
        ∀ u ∈ p.threads, underWay u = false
  | .world => True

/-- The payment was charged to the intent, and no more than its amount is refunded. -/
structure Charged (paymentId paymentIntentId : String) (s : Books) : Prop where
  charged : ∀ p ∈ s.db.payments.rows, p.id = paymentId →
    p.stripePaymentIntentId = some paymentIntentId ∧ p.RefundBounded
  communities : ∀ r ∈ s.db.communitySponsorships.rows,
    ∃ c ∈ s.db.communities.rows, c.id = r.communityId

/-- The row of the payment says what the provider has refunded. -/
def Agrees (paymentId : String) (s : Books) : Prop :=
  ∀ p ∈ s.db.payments.rows, p.id = paymentId → p.refundedCents = s.refunded

/-- The payment and the refund of a call that was accepted. -/
structure Accepted (paymentId : String) (s : Books) (payment : Payment)
    (sponsorship : Option CommunitySponsorship) (targetRefund : ℚ) : Prop where
  mem : payment ∈ s.db.payments.rows
  named : payment.id = paymentId
  linked : sponsorship = sponsorshipOf payment s.db
  positive : 0 < targetRefund
  within : targetRefund ≤ maxRefundable payment
  away : AwayFromHalfCent targetRefund

/-- Where a call stands, and what it relies on. -/
inductive Stage (paymentId : String) (s : Books) : Service Payment → Prop
  | requested {adminUserId : String} {dto : AdminRefundDto} :
      (∀ amount ∈ dto.amount, AwayFromHalfCent amount) →
      Stage paymentId s (refundPayment paymentId adminUserId dto)
  | charging {payment : Payment} {sponsorship : Option CommunitySponsorship} {targetRefund : ℚ}
      {adminUserId : String} {reason : Option String} :
      Accepted paymentId s payment sponsorship targetRefund →
      s.refunded = payment.refundedCents →
      Stage paymentId s (giveBack payment sponsorship targetRefund adminUserId reason)
  | settling {payment : Payment} {sponsorship : Option CommunitySponsorship} {targetRefund : ℚ}
      {adminUserId : String} {reason : Option String} :
      Accepted paymentId s payment sponsorship targetRefund →
      s.refunded = newTotalCents payment targetRefund →
      Stage paymentId s (settle payment sponsorship targetRefund adminUserId reason)
  | logging {entry : CreateAuditLogParams} {updated : Payment} :
      Stage paymentId s ((logAudit entry).bind fun _ ↦ .returned (.ok updated))
  | returned {r : Except Err Payment} : Stage paymentId s (.returned r)

section Steps

variable {paymentId paymentIntentId : String} {s s' : Books} {payment : Payment}
  {sponsorship : Option CommunitySponsorship} {targetRefund : ℚ} {adminUserId : String}
  {reason : Option String} {env : Env}

/-- Whole cents are away from half cents. -/
theorem away_of_cents (cents : ℤ) : AwayFromHalfCent (cents / 100) := by
  intro n
  rw [show (100 : ℚ) * (cents / 100) = cents by ring, lt_abs]
  rcases le_or_gt cents n with hle | hlt
  · have hle' : (cents : ℚ) ≤ n := by exact_mod_cast hle
    right
    linarith
  · have hlt' : (n : ℚ) + 1 ≤ cents := by exact_mod_cast hlt
    left
    linarith

theorem giveBack_charged {intent : String} (h : payment.stripePaymentIntentId = some intent)
    (hne : intent ≠ "") :
    giveBack payment sponsorship targetRefund adminUserId reason =
      (Call.ask (.refundCharge intent (mathRound (fl (targetRefund * 100))) reason) fun env _ ↦
        env.provider.refundPayment intent (mathRound (fl (targetRefund * 100))) reason).bind
          fun _ ↦ settle payment sponsorship targetRefund adminUserId reason := by
  have hg : given payment.stripePaymentIntentId = some intent := by
    rw [h, given, Option.filter_some, if_pos (by simpa using hne)]
  unfold giveBack
  split
  · next i hi =>
    rw [hg] at hi
    cases hi
    rfl
  · next hn =>
    rw [hg] at hn
    cases hn

theorem exists_outbox {db : Db} {o : OutboxEvent} (h : ∀ a ∈ db.outboxEvents.rows, a.id ≠ o.id) :
    ∃ t : Table OutboxEvent, t.rows = db.outboxEvents.rows ++ [o] :=
  Table.exists_create.mpr fun a ha ↦ clash_eq_false (h a ha) (by simp [Row.uniques])

/-- With a new outbox key nothing keeps the transaction of a refund from going through. -/
theorem exists_adminRefunded {db : Db} {refundAmount : Money} (hmem : payment ∈ db.payments.rows)
    (hs : sponsorship = sponsorshipOf payment db)
    (hc : ∀ r ∈ db.communitySponsorships.rows, ∃ c ∈ db.communities.rows, c.id = r.communityId)
    (hnew : ∀ o ∈ db.outboxEvents.rows, o.id ≠ env.outboxId) :
    ∃ db', AdminRefunded env payment sponsorship targetRefund reason refundAmount db db' := by
  have hfound : ∃ p ∈ db.payments.rows, p.id = payment.id := ⟨payment, hmem, rfl⟩
  obtain ⟨ps, hps⟩ := Table.update_succeeds hfound
    (f := settleRefund env (isFullRefund payment targetRefund) refundAmount reason)
    (fun _ ↦ rfl) (by simp [Row.uniques, settleRefund])
  have hrows := (Table.update_eq_ok.mp hps).2
  obtain ⟨os, hos⟩ := exists_outbox (o := refundNotice env payment targetRefund reason) hnew
  by_cases hend : isFullRefund payment targetRefund = true ∧ sponsorship.isSome = true
  · obtain ⟨hfull, hsome⟩ := hend
    obtain ⟨r, hr⟩ := Option.isSome_iff_exists.mp hsome
    obtain ⟨hrm, _⟩ := sponsorshipOf_eq_some.mp (hs.symm.trans hr)
    obtain ⟨db₁, hended⟩ :=
      show ∃ db₁, Ended .cancelled env.now r db db₁ from exists_ended ⟨r, hrm, rfl⟩ (hc r hrm)
    refine ⟨{ db₁ with payments := ps, outboxEvents := os }, hfound, hrows, ?_, ?_, hos, ?_⟩
    · intro s' _ hs'
      rw [hr] at hs'
      cases hs'
      exact ⟨hended.found, hended.sponsorships, hended.communities, rfl⟩
    · intro hk
      rcases hk with hk | hk
      · simp [hfull] at hk
      · simp [hr] at hk
    · rw [hended.frame]
  · refine ⟨{ db with payments := ps, outboxEvents := os }, hfound, hrows, ?_, ?_, hos, rfl⟩
    · intro s' hfull hs'
      exact absurd ⟨hfull, by simp [hs']⟩ hend
    · exact fun _ ↦ ⟨rfl, rfl⟩

theorem refunds_step {t t' : Service Payment}
    (h : (refunds paymentId paymentIntentId).step env s t = some (s', t')) :
    t.step env s.db = some (s'.db, t') ∧
      s'.refunded = s.refunded + t.label?.elim 0 (Request.refundsAt paymentIntentId env) := by
  obtain ⟨q, hq, he⟩ := Option.map_eq_some_iff.mp h
  cases he
  exact ⟨hq, rfl⟩

/-- A call that is not under way does not rely on the books. -/
theorem Stage.of_idle {t : Service Payment} (hcharged : Charged paymentId paymentIntentId s)
    (hne : paymentIntentId ≠ "") (ht : underWay t = false) (h : Stage paymentId s t) :
    Stage paymentId s' t := by
  cases h with
  | requested haway => exact .requested haway
  | charging hacc =>
    obtain ⟨hp, _⟩ := hcharged.charged _ hacc.mem hacc.named
    rw [giveBack_charged hp hne] at ht
    cases ht
  | settling => cases ht
  | logging => exact .logging
  | returned => exact .returned

theorem Stage.of_logs {t : Service Payment} {logs : Table AuditLog} (h : Stage paymentId s t) :
    Stage paymentId ⟨{ s.db with auditLogs := logs }, s.refunded⟩ t := by
  cases h with
  | requested haway => exact .requested haway
  | charging hacc hr => exact .charging ⟨hacc.1, hacc.2, hacc.3, hacc.4, hacc.5, hacc.6⟩ hr
  | settling hacc hr => exact .settling ⟨hacc.1, hacc.2, hacc.3, hacc.4, hacc.5, hacc.6⟩ hr
  | logging => exact .logging
  | returned => exact .returned

/-- The first read: the call is refused, or goes on with the payment as it is. -/
theorem request_step {dto : AdminRefundDto} {t' : Service Payment} {db' : Db}
    (hidle : Agrees paymentId s) (haway : ∀ amount ∈ dto.amount, AwayFromHalfCent amount)
    (hcharged : Charged paymentId paymentIntentId s)
    (h : (refundPayment paymentId adminUserId dto).step env s.db = some (db', t')) :
    db' = s.db ∧ Stage paymentId s t' := by
  unfold refundPayment at h
  cases hget : s.db.payments.get? paymentId with
  | none =>
    simp only [Call.bind_eq, Call.ask, Call.bind, Call.step, hget] at h
    cases h
    exact ⟨rfl, .returned⟩
  | some payment =>
    obtain ⟨hm, hid⟩ := Table.get?_eq_some.mp hget
    simp only [Call.bind_eq, Call.ask, Call.bind, Call.step, hget] at h
    cases htarget : refundTarget payment dto with
    | error x =>
      cases h
      refine ⟨rfl, ?_⟩
      simp only [found, bind, Except.bind, pure, Except.pure, Call.bind, htarget]
      exact .returned
    | ok targetRefund =>
      cases h
      refine ⟨rfl, ?_⟩
      simp only [found, bind, Except.bind, pure, Except.pure, Call.bind, htarget]
      obtain ⟨_, hamount, hpos, hmax⟩ := refundTarget_eq_ok.mp htarget
      have htaway : AwayFromHalfCent targetRefund := by
        rw [hamount]
        cases ha : dto.amount with
        | some amount => exact haway amount ha
        | none => exact maxRefundable_away (hcharged.charged payment hm hid).2
      exact .charging ⟨hm, hid, rfl, hpos, hmax, htaway⟩ (hidle payment hm hid).symm

/-- The provider refunds what the row will say, or nothing. -/
theorem charge_step {t' : Service Payment} {db' : Db}
    (hne : paymentIntentId ≠ "") (hcharged : Charged paymentId paymentIntentId s)
    (hacc : Accepted paymentId s payment sponsorship targetRefund)
    (hrefunded : s.refunded = payment.refundedCents)
    (h : (giveBack payment sponsorship targetRefund adminUserId reason).step env s.db =
      some (db', t')) :
    let refunded := s.refunded +
      (giveBack payment sponsorship targetRefund adminUserId reason).label?.elim 0
        (Request.refundsAt paymentIntentId env)
    db' = s.db ∧ (refunded = s.refunded ∧ (∃ x, t' = .returned (.error x)) ∨
      refunded = newTotalCents payment targetRefund ∧
        t' = settle payment sponsorship targetRefund adminUserId reason) := by
  obtain ⟨hp, hbounded⟩ := hcharged.charged payment hacc.mem hacc.named
  rw [giveBack_charged hp hne] at h ⊢
  cases h
  refine ⟨rfl, ?_⟩
  simp only [Call.ask, Call.bind, Call.label?, Option.elim_some, Request.refundsAt]
  cases env.provider.refundPayment paymentIntentId (mathRound (fl (targetRefund * 100))) reason with
  | error x => exact .inl ⟨add_zero _, x, rfl⟩
  | ok u =>
    refine .inr ⟨?_, rfl⟩
    simp only [if_true]
    rw [minorUnits_eq hbounded hacc.positive hacc.within hacc.away, hrefunded]
    ring

theorem newTotal_fits (hp : payment.RefundBounded) (hpos : 0 < targetRefund)
    (hmax : targetRefund ≤ maxRefundable payment) : |newTotalCents payment targetRefund| < 10 ^ 12 := by
  have hn := hp.nonneg
  have hge := refundedCents_le_newTotal hp hpos hmax
  have hle := newTotalCents_le hp hpos hmax
  have hfits := (abs_lt.mp payment.amount.fits).2
  rw [abs_of_nonneg (hn.trans hge)]
  omega

/-- A refund leaves every sponsorship with its community. -/
theorem communities_of_refunded {refundAmount : Money} {db db' : Db}
    (h : AdminRefunded env payment sponsorship targetRefund reason refundAmount db db')
    (hc : ∀ r ∈ db.communitySponsorships.rows, ∃ c ∈ db.communities.rows, c.id = r.communityId) :
    ∀ r ∈ db'.communitySponsorships.rows, ∃ c ∈ db'.communities.rows, c.id = r.communityId := by
  rcases h.ended_or_kept with ⟨r₀, _, _, hended⟩ | ⟨hs, hcs⟩
  · have hkept : ∀ k, (∃ c ∈ db.communities.rows, c.id = k) →
        ∃ c ∈ db'.communities.rows, c.id = k := by
      intro k hk
      obtain ⟨c, hcm, rfl⟩ := hk
      have hrows := hended.communities
      split_ifs at hrows
      · exact ⟨c, by rw [show db'.communities.rows = db.communities.rows from hrows]; exact hcm, rfl⟩
      · have hrows' : db'.communities.rows =
            Table.updateRows r₀.communityId resetCommunity db.communities.rows := hrows.2
        rw [hrows']
        by_cases he : Row.id c = r₀.communityId
        · exact ⟨resetCommunity c, Table.mem_updateRows.mpr (.inl ⟨c, hcm, he, rfl⟩), rfl⟩
        · exact ⟨c, Table.mem_updateRows.mpr (.inr ⟨hcm, he⟩), rfl⟩
    intro r hr
    have hrows : db'.communitySponsorships.rows = Table.updateRows r₀.id
        (·.withStatus .cancelled) db.communitySponsorships.rows := hended.sponsorships
    rw [hrows, Table.mem_updateRows] at hr
    rcases hr with ⟨a, ha, _, rfl⟩ | ⟨hr, _⟩
    · exact hkept _ (hc a ha)
    · exact hkept _ (hc r hr)
  · rw [hs, hcs]
    exact hc

/-- The transaction goes through, and the row says what the provider has refunded. -/
theorem settle_step {t' : Service Payment} {db' : Db}
    (hcharged : Charged paymentId paymentIntentId s)
    (hacc : Accepted paymentId s payment sponsorship targetRefund)
    (hrefunded : s.refunded = newTotalCents payment targetRefund)
    (hnew : ∀ o ∈ s.db.outboxEvents.rows, o.id ≠ env.outboxId)
    (h : (settle payment sponsorship targetRefund adminUserId reason).step env s.db =
      some (db', t')) :
    Charged paymentId paymentIntentId ⟨db', s.refunded⟩ ∧ Agrees paymentId ⟨db', s.refunded⟩ ∧
      ∃ entry updated, t' = (logAudit entry).bind fun _ ↦ .returned (.ok updated) := by
  obtain ⟨hintent, hbounded⟩ := hcharged.charged payment hacc.mem hacc.named
  have hfits := newTotal_fits hbounded hacc.positive hacc.within
  obtain ⟨db₁, hrefund⟩ : ∃ db₁,
      AdminRefunded env payment sponsorship targetRefund reason ⟨_, hfits⟩ s.db db₁ :=
    exists_adminRefunded hacc.mem hacc.linked hcharged.communities hnew
  obtain ⟨updated, hrec⟩ := recordRefund_eq_ok.mpr ⟨_, rfl, hrefund⟩
  simp only [settle, execute, Call.bind_eq, Call.perform, Call.bind, Call.step, hrec] at h
  cases h
  have hrow : ∀ p ∈ db₁.payments.rows, p.id = paymentId →
      p = settleRefund env (isFullRefund payment targetRefund) ⟨_, hfits⟩ reason payment := by
    intro p hp hid
    rw [hrefund.payments, Table.mem_updateRows] at hp
    rcases hp with ⟨a, ha, haid, rfl⟩ | ⟨_, hne⟩
    · rw [s.db.payments.eq_of_id ha hacc.mem haid]
    · exact absurd (hid.trans hacc.named.symm) hne
  refine ⟨⟨fun p hp hid ↦ ?_, communities_of_refunded hrefund hcharged.communities⟩,
    fun p hp hid ↦ ?_, _, updated, rfl⟩
  · rw [hrow p hp hid]
    exact ⟨hintent, hbounded.nonneg.trans (refundedCents_le_newTotal hbounded hacc.positive
      hacc.within), newTotalCents_le hbounded hacc.positive hacc.within⟩
  · rw [hrow p hp hid, hrefunded]
    rfl

theorem log_step {entry : CreateAuditLogParams} {updated : Payment} {t' : Service Payment}
    {db' : Db} (h : Call.step env s.db
      ((logAudit entry).bind fun _ ↦ (.returned (.ok updated) : Service Payment)) =
        some (db', t')) :
    (∃ logs, db' = { s.db with auditLogs := logs }) ∧ t' = .returned (.ok updated) := by
  cases h
  exact ⟨AuditService.log_frame env entry s.db, rfl⟩

theorem Charged.of_logs {logs : Table AuditLog} {n : ℤ}
    (h : Charged paymentId paymentIntentId s) :
    Charged paymentId paymentIntentId ⟨{ s.db with auditLogs := logs }, n⟩ :=
  ⟨h.charged, h.communities⟩

/-- One move of a call while no other is under way. -/
theorem turn_step {t t' : Service Payment} (hne : paymentIntentId ≠ "")
    (hcharged : Charged paymentId paymentIntentId s) (hstage : Stage paymentId s t)
    (hnew : ∀ o ∈ s.db.outboxEvents.rows, o.id ≠ env.outboxId)
    (h : (refunds paymentId paymentIntentId).step env s t = some (s', t'))
    (hidle : underWay t = false → Agrees paymentId s) :
    Charged paymentId paymentIntentId s' ∧ Stage paymentId s' t' ∧
      (underWay t' = false → Agrees paymentId s') := by
  obtain ⟨hstep, hrefunds⟩ := refunds_step h
  obtain ⟨db', n⟩ := s'
  dsimp only at hstep hrefunds
  cases hstage with
  | requested haway =>
    rw [show n = s.refunded from hrefunds.trans (add_zero _)]
    obtain ⟨rfl, hstage'⟩ := request_step (hidle rfl) haway hcharged hstep
    exact ⟨hcharged, hstage', fun _ ↦ hidle rfl⟩
  | charging hacc hr =>
    obtain ⟨rfl, ⟨he, x, rfl⟩ | ⟨he, rfl⟩⟩ := charge_step hne hcharged hacc hr hstep
    · rw [show n = s.refunded from hrefunds.trans he]
      refine ⟨hcharged, .returned, fun _ p hp hid ↦ ?_⟩
      rw [s.db.payments.eq_of_id hp hacc.mem (hid.trans hacc.named.symm), hr]
    · refine ⟨⟨hcharged.charged, hcharged.communities⟩, ?_, fun hu ↦ by cases hu⟩
      exact .settling ⟨hacc.1, hacc.2, hacc.3, hacc.4, hacc.5, hacc.6⟩ (hrefunds.trans he)
  | settling hacc hr =>
    rw [show n = s.refunded from hrefunds.trans (add_zero _)]
    obtain ⟨hcharged', hagrees, entry, updated, rfl⟩ := settle_step hcharged hacc hr hnew hstep
    exact ⟨hcharged', .logging, fun _ ↦ hagrees⟩
  | logging =>
    rw [show n = s.refunded from hrefunds.trans (add_zero _)]
    obtain ⟨⟨logs, rfl⟩, rfl⟩ := log_step hstep
    exact ⟨hcharged.of_logs, .returned, fun _ ↦ hidle rfl⟩
  | returned => cases hstep

/-- One move of a call that is not under way, next to one that is. -/
theorem beside_step {t t' : Service Payment}
    (hcharged : Charged paymentId paymentIntentId s) (hstage : Stage paymentId s t)
    (ht : underWay t = false) (hread : t.label? ≠ some (.findPayment paymentId))
    (hne : paymentIntentId ≠ "")
    (h : (refunds paymentId paymentIntentId).step env s t = some (s', t')) :
    underWay t' = false ∧ Charged paymentId paymentIntentId s' ∧ Stage paymentId s' t' ∧
      ∀ u, Stage paymentId s u → Stage paymentId s' u := by
  obtain ⟨hstep, hrefunds⟩ := refunds_step h
  obtain ⟨db', n⟩ := s'
  dsimp only at hstep hrefunds
  cases hstage with
  | requested => exact absurd rfl hread
  | charging hacc =>
    obtain ⟨hp, _⟩ := hcharged.charged _ hacc.mem hacc.named
    rw [giveBack_charged hp hne] at ht
    cases ht
  | settling => cases ht
  | logging =>
    rw [show n = s.refunded from hrefunds.trans (add_zero _)]
    obtain ⟨⟨logs, rfl⟩, rfl⟩ := log_step hstep
    exact ⟨rfl, hcharged.of_logs, .returned, fun u hu ↦ hu.of_logs⟩
  | returned => cases hstep

end Steps

/-- However the refunds of a payment interleave, if they take turns, the row agrees
with the provider as soon as no call is under way, and no more than the amount is
refunded. -/
theorem ledger_agrees {paymentId paymentIntentId : String} (hne : paymentIntentId ≠ "")
    {p : Pool Books (Service Payment)}
    (h : Reach (refunds paymentId paymentIntentId).Step (TakesTurns paymentId) (fun q ↦
      q.threads = [] ∧ Charged paymentId paymentIntentId q.shared ∧ Agrees paymentId q.shared) p)
    (hreturned : ∀ t ∈ p.threads, ∃ r, t = .returned r) :
    ∀ payment ∈ p.shared.db.payments.rows, payment.id = paymentId →
      payment.refundedCents = p.shared.refunded ∧ p.shared.refunded ≤ payment.amount.cents := by
  have hturns := Machine.turns (J := Charged paymentId paymentIntentId) (A := Stage paymentId)
    underWay (Agrees paymentId) (fun _ hq ↦ hq) ?_ ?_ ?_ (fun _ _ hw ↦ hw) h
  · have hagrees := hturns.idle fun t ht ↦ by
      obtain ⟨r, rfl⟩ := hreturned t ht
      rfl
    intro payment hm hid
    have he := hagrees payment hm hid
    exact ⟨he, he ▸ (hturns.shared.charged payment hm hid).2.le_amount⟩
  · intro q t hok _
    obtain ⟨adminUserId, dto, rfl, haway⟩ := hok
    exact ⟨rfl, .requested haway⟩
  · intro q i env t s' t' hcharged hstage _ hok hstep hidle
    obtain ⟨h₁, h₂, h₃⟩ := turn_step hne hcharged hstage hok.1 hstep hidle
    exact ⟨h₁, h₂, h₃, fun u hu hs ↦ hs.of_idle hcharged hne hu⟩
  · intro q i env t s' t' hcharged hstage hi hok hstep ht hu
    refine beside_step hcharged hstage ht (fun hread ↦ ?_) hne hstep
    obtain ⟨u, hm, hbusy⟩ := hu
    simp [hok.2 t hi hread u hm] at hbusy

/-- A sponsorship payment of 100.00, and the sponsorship. -/
def paidDb : Db :=
  { sponsoringDb with
    payments := .singleton
      { id := key₁
        userId := "user-1"
        sponsorProfileId := some "profile-1"
        vendorProfileId := none
        subscriptionId := none
        amount := ⟨10000, Money.fits_hundred⟩
        currency := "SAR"
        status := .succeeded
        purpose := .communitySponsorship
        stripePaymentIntentId := some "pi_1"
        stripeCheckoutSessionId := some "cs_1"
        stripeInvoiceId := none
        metadata := none
        paidAt := some 1
        failedAt := none
        refundedAt := none
        refundAmount := none
        refundReason := none
        createdAt := 0 }
    communitySponsorships := .singleton
      { id := "sponsorship-1"
        communityId := "community-1"
        sponsorId := "profile-1"
        userId := "user-1"
        planId := "plan-1"
        paymentId := some key₁
        status := .active
        amount := ⟨10000, Money.fits_hundred⟩
        currency := "SAR"
        sponsoredCapacity := 500
        startsAt := some 1
        endsAt := some (1 + 30 * 86400000)
        stripeCheckoutSessionId := some "cs_1" } }

theorem charged_paidDb : Charged key₁ "pi_1" ⟨paidDb, 0⟩ ∧ Agrees key₁ ⟨paidDb, 0⟩ := by
  refine ⟨⟨fun p hp _ ↦ ?_, fun r hr ↦ ?_⟩, fun p hp _ ↦ ?_⟩
  · rw [List.mem_singleton.mp hp]
    exact ⟨rfl, by decide, by decide⟩
  · rw [List.mem_singleton.mp hr]
    exact ⟨_, List.mem_singleton.mpr rfl, rfl⟩
  · rw [List.mem_singleton.mp hp]
    rfl

/-- 40.00 are refunded, and then the rest. -/
theorem refunded_in_turn : ∃ p : Pool Books (Service Payment), p.shared.refunded = 10000 ∧
    ∀ payment ∈ p.shared.db.payments.rows, payment.id = key₁ →
      payment.refundedCents = p.shared.refunded ∧ p.shared.refunded ≤ payment.amount.cents := by
  let calls := [refundPayment key₁ "user-1" ⟨some 40, none⟩,
    refundPayment key₁ "user-1" ⟨none, none⟩]
  have haway : ∀ p, ∀ t ∈ calls, TakesTurns key₁ p (.spawn t) := by
    intro p t ht
    rcases List.mem_cons.mp ht with rfl | ht
    · refine ⟨_, _, rfl, fun amount ha ↦ ?_⟩
      cases ha
      rw [show (40 : ℚ) = (4000 : ℤ) / 100 by norm_num]
      exact away_of_cents 4000
    · rw [List.mem_singleton.mp ht]
      exact ⟨_, _, rfl, fun amount ha ↦ by cases ha⟩
  have hspawn : ∀ t ∈ calls, (refunds key₁ "pi_1").start t := by
    intro t ht
    obtain ⟨adminUserId, dto, he, _⟩ := haway ⟨⟨paidDb, 0⟩, []⟩ t ht
    exact ⟨adminUserId, dto, he⟩
  have hinit : Reach (refunds key₁ "pi_1").Step (TakesTurns key₁) (fun q ↦
      q.threads = [] ∧ Charged key₁ "pi_1" q.shared ∧ Agrees key₁ q.shared)
      ⟨⟨paidDb, 0⟩, []⟩ := .start ⟨rfl, charged_paidDb⟩
  have hstart := Machine.reach_spawnAll haway hspawn hinit
  have hrun : ((refunds key₁ "pi_1").play
      (fun r i e ↦ r.shared.db.outboxEvents.rows.all (·.id != e.outboxId) &&
        r.threads[i]?.all fun t ↦
          t.label? != some (.findPayment key₁) || r.threads.all fun u ↦ !underWay u)
      (["a", "b", "c", "d"].map (fun k ↦ (0, .online 2 "" k k)) ++
        ["e", "f", "g", "h"].map fun k ↦ (1, .online 3 "" k k))
      ⟨⟨paidDb, 0⟩, calls⟩).any (fun p ↦ p.threads.all (·.label?.isNone) &&
        p.shared.refunded == 10000) = true := by
    decide +kernel
  obtain ⟨p, hp, hend⟩ := (Option.any_eq_true ..).mp hrun
  simp only [Bool.and_eq_true, beq_iff_eq, List.all_eq_true, Option.isNone_iff_eq_none] at hend
  have hreach := Machine.reach_play (fun r i e hr ↦ ?_) hstart hp
  · exact ⟨p, hend.2, ledger_agrees (by decide) hreach fun t ht ↦
      Call.exists_returned (hend.1 t ht)⟩
  · simp only [Bool.and_eq_true, List.all_eq_true, bne_iff_ne, Option.all_eq_true, Bool.or_eq_true,
      Bool.not_eq_true'] at hr
    refine ⟨hr.1, fun t ht hread u hu ↦ ?_⟩
    rcases hr.2 t ht with hne | hall
    · exact absurd hread hne
    · exact hall u hu

/-- Two refunds of 40.00 that read the payment before either is recorded. -/
theorem refunded_twice_recorded_once : ∃ p : Pool Books (Service Payment),
    Reach (refunds key₁ "pi_1").Step (fun _ _ ↦ True) (fun q ↦ q = ⟨⟨paidDb, 0⟩, []⟩) p ∧
      (∀ t ∈ p.threads, ∃ r, t = .returned r) ∧ p.shared.refunded = 8000 ∧
      p.shared.db.payments.rows.map (fun payment ↦ (payment.id, payment.refundedCents)) =
        [(key₁, 4000)] := by
  have hinit : Reach (refunds key₁ "pi_1").Step (fun _ _ ↦ True)
      (fun q ↦ q = ⟨⟨paidDb, 0⟩, []⟩) ⟨⟨paidDb, 0⟩, []⟩ := .start rfl
  have hspawn : ∀ t ∈ List.replicate 2 (refundPayment key₁ "user-1" ⟨some 40, none⟩),
      (refunds key₁ "pi_1").start t := fun t ht ↦ ⟨"user-1", _, List.eq_of_mem_replicate ht⟩
  have hstart := Machine.reach_spawnAll (fun _ _ _ ↦ trivial) hspawn hinit
  have hrun : ((refunds key₁ "pi_1").play (fun _ _ _ ↦ true)
      ([(0, .online 2 "" "a" "b"), (1, .online 2 "" "a" "b")] ++
        List.replicate 3 (0, .online 2 "" "a" "b") ++ List.replicate 3 (1, .online 3 "" "c" "d"))
      ⟨⟨paidDb, 0⟩, List.replicate 2 (refundPayment key₁ "user-1" ⟨some 40, none⟩)⟩).any
        (fun p ↦ p.threads.all (·.label?.isNone) && p.shared.refunded == 8000 &&
          p.shared.db.payments.rows.map (fun payment ↦ (payment.id, payment.refundedCents)) ==
            [(key₁, 4000)]) = true := by
    decide +kernel
  obtain ⟨p, hp, hend⟩ := (Option.any_eq_true ..).mp hrun
  simp only [Bool.and_eq_true, beq_iff_eq, List.all_eq_true, Option.isNone_iff_eq_none] at hend
  exact ⟨p, Machine.reach_play (fun _ _ _ _ ↦ trivial) hstart hp,
    fun t ht ↦ Call.exists_returned (hend.1.1 t ht), hend.1.2, hend.2⟩

end PaymentsService

end Innovents.Payments
