import Innovents.Marketplace.CouponsService
import Innovents.Marketplace.Statements

namespace Innovents.Marketplace

open Innovents.Lib Innovents.Auth CouponsService

inductive CouponOp
  | createCoupon (providerId : String) (dto : CreateCouponDto) (client : Client)
  | updateCoupon (providerId couponId : String) (dto : UpdateCouponDto) (client : Client)
  | redeemCoupon (attendeeId : String) (dto : RedeemCouponDto) (client : Client)

/-- A call ends with a redemption, with another reply, or with what it has thrown. -/
abbrev CouponReply := Except AuthError (Option CouponRedemptionResponseDto)

abbrev CouponTask := Task CouponOp String AuthEnv MarketDb AuthError CouponReply

def CouponOp.runs (text : CodeText) : CouponOp → MarketCall CouponReply
  | createCoupon providerId dto client => Call.attempt do
    let _ ← CouponsService.createCoupon text providerId dto client
    return none
  | updateCoupon providerId couponId dto client => Call.attempt do
    let _ ← CouponsService.updateCoupon providerId couponId dto client
    return none
  | redeemCoupon attendeeId dto client => Call.attempt do
    let r ← CouponsService.redeemCoupon text attendeeId dto client
    return some r

def couponCalls (text : CodeText) : Machine MarketDb CouponTask AuthEnv := tasks (CouponOp.runs text)

/-- What a request may do to coupons and redemptions. -/
inductive CouponWrites (db db' : MarketDb) : Prop
  | same : SameMarket db db' → CouponWrites db db'
  | created (c : Coupon) : db.coupons.create c = .ok db'.coupons → c.redemptionCount = 0 →
      db'.couponRedemptions = db.couponRedemptions → CouponWrites db db'
  | updated (couponId : String) (f : Coupon → Coupon) : db.coupons.update couponId f = .ok db'.coupons →
      (∀ c, (f c).id = c.id ∧ (f c).normalizedCode = c.normalizedCode ∧
        (f c).redemptionCount = c.redemptionCount) →
      db'.couponRedemptions = db.couponRedemptions → CouponWrites db db'
  | redeemed (r : CouponRedemption) (c : Coupon) : db.coupons.get? r.couponId = some c →
      (∀ m ∈ c.maxRedemptions, c.redemptionCount < m) →
      (∀ id, db'.coupons.get? id = (db.coupons.get? id).map fun c ↦
        if id = r.couponId then { c with redemptionCount := c.redemptionCount + 1 } else c) →
      db.couponRedemptions.create r = .ok db'.couponRedemptions → CouponWrites db db'

section Transactions

variable {text : CodeText} {env : AuthEnv} {db db' : MarketDb}

theorem couponCreate_writes {providerId : String} {dto : CreateCouponDto} {event : Event} {c : Coupon}
    (h : couponCreate text providerId dto event env db = .ok (db', c)) : CouponWrites db db' := by
  obtain ⟨discountValue, -, h⟩ := andThen_eq_ok.mp h
  obtain ⟨coupons, hcreate, h⟩ := andThen_eq_ok.mp h
  cases h
  exact .created _ (ofRefusal_eq_ok.mp hcreate) rfl rfl

theorem couponUpdate_writes {couponId : String} {dto : UpdateCouponDto} {event : Event} {c : Coupon}
    (h : couponUpdate couponId dto event env db = .ok (db', c)) : CouponWrites db db' := by
  obtain ⟨discountValue, -, h⟩ := andThen_eq_ok.mp h
  obtain ⟨isActive, -, h⟩ := andThen_eq_ok.mp h
  obtain ⟨coupons, hupdate, h⟩ := andThen_eq_ok.mp h
  split at h
  · cases h
    exact .updated couponId _ (ofRefusal_eq_ok.mp hupdate) (fun _ ↦ ⟨rfl, rfl, rfl⟩) rfl
  · cases h

theorem redeemable_id {couponId : String} {now : Payments.Time} {c : Coupon}
    (h : redeemable couponId now c = true) : c.id = couponId := by
  simp only [redeemable, Bool.and_eq_true, beq_iff_eq] at h
  exact h.1.1.1.1.1

theorem redeemable_limit {couponId : String} {now : Payments.Time} {c : Coupon}
    (h : redeemable couponId now c = true) : ∀ m ∈ c.maxRedemptions, c.redemptionCount < m := by
  intro m hm
  simp only [redeemable, Bool.and_eq_true] at h
  have hleft := h.1.2
  rw [Option.mem_def.mp hm, Option.all_some, decide_eq_true_eq] at hleft
  exact hleft

/-- A redemption that commits: the attendee has not redeemed the coupon, which is counted up while
it may be, and the new row shows who redeemed what. -/
structure Redeemed (attendeeId couponId : String) (key : Option String) (db db' : MarketDb)
    (r : CouponRedemption) : Prop where
  fresh : redemptionOf couponId attendeeId db = none
  attendee : r.attendeeId = attendeeId
  coupon : r.couponId = couponId
  key : r.idempotencyKey = key
  created : db.couponRedemptions.create r = .ok db'.couponRedemptions
  found : ∃ c, db.coupons.get? couponId = some c ∧ ∀ m ∈ c.maxRedemptions, c.redemptionCount < m
  counted : ∀ id, db'.coupons.get? id = (db.coupons.get? id).map fun c ↦
    if id = couponId then { c with redemptionCount := c.redemptionCount + 1 } else c

theorem redemption_eq_ok {attendeeId : String} {dto : RedeemCouponDto} {coupon : CouponResponseDto}
    {discount : Option ℚ} {r : CouponRedemption} {c : Coupon}
    (h : redemption attendeeId dto coupon discount env db = .ok (db', r, c)) :
    Redeemed attendeeId coupon.id dto.suppliedKey db db' r := by
  unfold redemption at h
  split_ifs at h with hfresh hfound
  · cases h
  · cases h
  · obtain ⟨coupons, hcoupons, h⟩ := andThen_eq_ok.mp h
    obtain ⟨discountAmount, -, h⟩ := andThen_eq_ok.mp h
    obtain ⟨couponRedemptions, hcreate, h⟩ := andThen_eq_ok.mp h
    split at h
    · cases h
    · obtain ⟨db₁, henqueued, h⟩ := andThen_eq_ok.mp h
      cases h
      obtain ⟨accounts, rfl⟩ := enqueued_eq_ok henqueued
      obtain ⟨⟨found, hget, hredeemable⟩, hcounted⟩ := Table.get?_updateMany_found
        (ofRefusal_eq_ok.mp hcoupons) (fun _ ↦ rfl) (fun _ ↦ redeemable_id) hfound
      exact
        { fresh := Option.not_isSome_iff_eq_none.mp hfresh
          attendee := rfl
          coupon := rfl
          key := rfl
          created := ofRefusal_eq_ok.mp hcreate
          found := ⟨found, hget, redeemable_limit hredeemable⟩
          counted := hcounted }

theorem Redeemed.writes {attendeeId couponId : String} {key : Option String} {r : CouponRedemption}
    (h : Redeemed attendeeId couponId key db db' r) : CouponWrites db db' := by
  obtain ⟨c, hget, hlimit⟩ := h.found
  have hcounted := h.counted
  rw [← h.coupon] at hget hcounted
  exact .redeemed r c hget hlimit hcounted h.created

end Transactions

section Calls

variable {text : CodeText}

theorem CouponWrites.refl (db : MarketDb) : CouponWrites db db := .same (.refl db)

theorem log_couponWrites {params : CreateAuditLogParams} {client : Client} :
    (log params client).Each fun _ ↦ CouponWrites := each_log fun _ accounts ↦ .same ⟨accounts, rfl⟩

theorem finds_couponWrites {name : String} {α : Type} {f : AuthEnv → MarketDb → α} :
    (finds name f).Each fun _ ↦ CouponWrites := each_finds CouponWrites.refl

theorem assertActiveProvider_writes {userId : String} :
    (assertActiveProvider userId).Each fun _ ↦ CouponWrites := by
  refine Call.each_bind finds_couponWrites fun user ↦ ?_
  cases user with
  | none => trivial
  | some user =>
    dsimp only
    split_ifs <;> trivial

theorem validateCoupon_writes {dto : ValidateCouponDto} {attendeeId : Option String} :
    (validateCoupon text dto attendeeId).Each fun _ ↦ CouponWrites := by
  refine Call.each_bind finds_couponWrites fun ⟨found, now⟩ ↦ ?_
  rcases found with _ | ⟨coupon, provider, event⟩
  · trivial
  · dsimp only
    split_ifs
    any_goals trivial
    cases attendeeId.filter (· ≠ "") with
    | none => trivial
    | some attendeeId =>
      refine Call.each_bind finds_couponWrites fun existing ↦ ?_
      split_ifs <;> trivial

theorem redeemNew_writes {attendeeId : String} {dto : RedeemCouponDto} {client : Client} :
    (redeemNew text attendeeId dto client).Each fun _ ↦ CouponWrites := by
  refine Call.each_bind validateCoupon_writes fun validation ↦ ?_
  cases validation.coupon.filter fun _ ↦ validation.valid with
  | none => trivial
  | some coupon =>
    refine Call.each_bind (each_stores CouponWrites.refl fun env db db' a h ↦ ?_) fun _ ↦
      Call.each_bind log_couponWrites fun _ ↦ trivial
    exact (redemption_eq_ok h).writes

/-- What the requests of every call do. -/
theorem runs_couponWrites (op : CouponOp) : (op.runs text).Each fun _ ↦ CouponWrites := by
  cases op with
  | createCoupon providerId dto client =>
    refine Call.each_attempt (Call.each_bind ?_ fun _ ↦ trivial)
    refine Call.each_bind assertActiveProvider_writes fun _ ↦
      Call.each_bind finds_couponWrites fun ⟨event, now⟩ ↦ ?_
    cases event with
    | none => trivial
    | some event =>
      dsimp only
      split_ifs
      · trivial
      · refine Call.each_bind finds_couponWrites fun existing ↦ ?_
        split_ifs
        · trivial
        · exact Call.each_bind (each_stores CouponWrites.refl fun _ _ _ _ ↦ couponCreate_writes)
            fun _ ↦ Call.each_bind log_couponWrites fun _ ↦ trivial
  | updateCoupon providerId couponId dto client =>
    refine Call.each_attempt (Call.each_bind ?_ fun _ ↦ trivial)
    refine Call.each_bind assertActiveProvider_writes fun _ ↦
      Call.each_bind finds_couponWrites fun found ↦ ?_
    rcases found with _ | ⟨coupon, event⟩
    · trivial
    · dsimp only
      split_ifs
      · trivial
      · exact Call.each_bind (each_stores CouponWrites.refl fun _ _ _ _ ↦ couponUpdate_writes)
          fun _ ↦ Call.each_bind log_couponWrites fun _ ↦ trivial
  | redeemCoupon attendeeId dto client =>
    refine Call.each_attempt (Call.each_bind ?_ fun _ ↦ trivial)
    unfold CouponsService.redeemCoupon
    cases dto.suppliedKey with
    | none => exact redeemNew_writes
    | some key =>
      refine Call.each_bind finds_couponWrites fun existing ↦ ?_
      rcases existing with _ | ⟨r, coupon⟩
      · exact redeemNew_writes
      · trivial

end Calls

section Counting

variable {text : CodeText} {k : String} {db db' : MarketDb} {p : Pool MarketDb CouponTask}

def redemptionRows (k : String) (db : MarketDb) : List CouponRedemption :=
  db.couponRedemptions.rows.filter (·.couponId == k)

/-- The counter of the coupon; a coupon that is not there has none. -/
def redemptionCount (k : String) (db : MarketDb) : ℤ :=
  (db.coupons.get? k).elim 0 Coupon.redemptionCount

/-- A request either leaves the counter and the redemptions of the coupon as they are or adds one
to both, and then the coupon is within its limit. -/
inductive CouponStep (k : String) (db db' : MarketDb) : Prop
  | same : redemptionCount k db' = redemptionCount k db → redemptionRows k db' = redemptionRows k db →
      CouponStep k db db'
  | redeemed (r : CouponRedemption) : redemptionCount k db' = redemptionCount k db + 1 →
      redemptionRows k db' = redemptionRows k db ++ [r] →
      (∀ c ∈ db'.coupons.get? k, ∀ m ∈ c.maxRedemptions, c.redemptionCount ≤ m) → CouponStep k db db'

theorem redemptionCount_update {couponId : String} {f : Coupon → Coupon}
    (h : db.coupons.update couponId f = .ok db'.coupons)
    (hf : ∀ c, (f c).id = c.id ∧ (f c).redemptionCount = c.redemptionCount) :
    redemptionCount k db' = redemptionCount k db := by
  rw [redemptionCount, Table.get?_update h fun c ↦ (hf c).1]
  split_ifs with hk
  · rw [hk, redemptionCount]
    cases db.coupons.get? couponId with
    | none => rfl
    | some c => exact (hf c).2
  · rfl

theorem CouponWrites.step (h : CouponWrites db db') : CouponStep k db db' := by
  cases h with
  | same h =>
    obtain ⟨accounts, rfl⟩ := h
    exact .same rfl rfl
  | created c hcreate hzero hrows =>
    refine .same ?_ (by rw [redemptionRows, hrows, redemptionRows])
    rw [redemptionCount, redemptionCount]
    cases hget : db.coupons.get? k with
    | some old => rw [(Table.get?_create_taken hget hcreate).2]
    | none =>
      rw [Table.get?_create hcreate, hget]
      split_ifs
      · exact hzero
      · rfl
  | updated couponId f hupdate hf hrows =>
    exact .same (redemptionCount_update hupdate fun c ↦ ⟨(hf c).1, (hf c).2.2⟩)
      (by rw [redemptionRows, hrows, redemptionRows])
  | redeemed r c hget hlimit hcounted hcreate =>
    have hrows : redemptionRows k db' =
        redemptionRows k db ++ [r].filter fun r ↦ r.couponId == k := by
      rw [redemptionRows, Table.create_eq_ok.mp hcreate, List.filter_append, redemptionRows]
    by_cases hk : r.couponId = k
    · subst hk
      have hget' := hcounted r.couponId
      rw [hget, Option.map_some, if_pos rfl] at hget'
      refine .redeemed r ?_ (by rw [hrows, List.filter_singleton, beq_self_eq_true, cond_true]) ?_
      · rw [redemptionCount, hget', redemptionCount, hget]
        rfl
      · intro c' hc' m hm
        rw [hget'] at hc'
        cases hc'
        have hleft := hlimit m hm
        show c.redemptionCount + 1 ≤ m
        omega
    · refine .same ?_ (by simp [hrows, hk])
      have hget' : db'.coupons.get? k = db.coupons.get? k :=
        (hcounted k).trans (by simp [Ne.symm hk])
      rw [redemptionCount, hget', redemptionCount]

def RedemptionsCounted (k : String) (db : MarketDb) : Prop :=
  redemptionCount k db = (redemptionRows k db).length

theorem CouponStep.counted (h : CouponStep k db db') (hcounted : RedemptionsCounted k db) :
    RedemptionsCounted k db' := by
  cases h with
  | same hcount hrows => rw [RedemptionsCounted, hcount, hrows, hcounted]
  | redeemed r hcount hrows _ =>
    rw [RedemptionsCounted, hcount, hrows, hcounted, List.length_append, List.length_singleton]
    push_cast
    rfl

/-- No attendee has two redemptions of one coupon. -/
theorem one_redemption (k attendeeId : String) (db : MarketDb) :
    (redemptionRows k db).countP (fun r ↦ r.attendeeId == attendeeId) ≤ 1 := by
  have hunique : (fun r : CouponRedemption ↦ some (r.couponId ++ ":" ++ r.attendeeId)) ∈
      Row.uniques := List.mem_cons_of_mem _ List.mem_cons_self
  refine le_trans ?_ (db.couponRedemptions.countP_unique_le hunique (k ++ ":" ++ attendeeId))
  rw [redemptionRows, List.countP_filter]
  refine List.countP_mono_left fun r _ hr ↦ ?_
  rw [Bool.and_eq_true, beq_iff_eq, beq_iff_eq] at hr
  rw [hr.1, hr.2, beq_self_eq_true]

theorem runs_couponSteps (op : CouponOp) : (op.runs text).Heeds (RedemptionsCounted k)
    (fun _ _ _ ↦ True) (fun _ ↦ CouponStep k) (fun _ _ ↦ True) [] :=
  Call.heeds_each ((runs_couponWrites op).mono fun _ _ _ ↦ CouponWrites.step)
    (fun _ _ _ hcounted h ↦ h.counted hcounted) fun _ _ _ _ h ↦ h

def RedeemableAtFirst (k : String) (p : Pool MarketDb CouponTask) : Prop :=
  p.threads = [] ∧ RedemptionsCounted k p.shared

/-- The counter of a coupon is the number of its redemptions, at most one of each attendee, and
whenever one of them is added the counter is at most the limit. -/
theorem redemptions_counted (text : CodeText) (k : String)
    (h : Reach (couponCalls text).Step (fun _ _ ↦ True) (RedeemableAtFirst k) p) :
    (∀ c ∈ p.shared.coupons.get? k, c.redemptionCount = (redemptionRows k p.shared).length) ∧
      (∀ attendeeId,
        (redemptionRows k p.shared).countP (fun r ↦ r.attendeeId == attendeeId) ≤ 1) ∧
      ∀ m q, (couponCalls text).Step p m q →
        redemptionRows k q.shared = redemptionRows k p.shared ∨
          ∃ r, redemptionRows k q.shared = redemptionRows k p.shared ++ [r] ∧
            ∀ c ∈ q.shared.coupons.get? k, ∀ n ∈ c.maxRedemptions, c.redemptionCount ≤ n := by
  have hany : ∀ (p : Pool MarketDb CouponTask) m, Heeding (fun _ _ _ _ ↦ True) p m :=
    fun p m ↦ by cases m <;> simp [Heeding]
  have hp := (heedful_reach (I := fun _ ↦ True) runs_couponSteps
    (fun p hp ↦ ⟨⟨hp.2, by simp [hp.1]⟩, trivial⟩) (fun _ _ _ _ _ _ ↦ trivial)
    (h.mono fun p m _ ↦ hany p m)).1
  refine ⟨fun c hc ↦ ?_, fun attendeeId ↦ one_redemption k attendeeId p.shared, fun m q hs ↦ ?_⟩
  · have hcounted := hp.shared
    rw [RedemptionsCounted, redemptionCount, Option.mem_def.mp hc] at hcounted
    exact hcounted
  · obtain ⟨-, hmoved⟩ := hp.step runs_couponSteps (hany p m) hs
    cases hmoved with
    | spawned op hshared => exact .inl (by rw [hshared])
    | ran i t t' label _ _ hG =>
      cases hG with
      | same _ hrows => exact .inl hrows
      | redeemed r _ hrows hlimit => exact .inr ⟨r, hrows, hlimit⟩

end Counting

section Sample

def sampleText : CodeText where
  trim := id
  toUpperCase code := String.ofList (code.toList.map Char.toUpper)

def sampleCoupon : Coupon where
  id := "coupon-1"
  providerId := "provider-1"
  eventId := "event-1"
  serviceId := none
  code := "SUMMIT20"
  normalizedCode := "SUMMIT20"
  description := none
  discountType := .percentage
  discountValue := ⟨2000, by norm_num⟩
  maxRedemptions := some 1
  redemptionCount := 0
  startsAt := none
  expiresAt := 90
  isActive := true
  createdAt := 0
  updatedAt := 0
  deletedAt := none

/-- The provider offers a coupon at the event, for one redemption. -/
def couponDb : MarketDb := { eventDb with coupons := .singleton sampleCoupon }

theorem couponDb_counted : RedeemableAtFirst "coupon-1" ⟨couponDb, []⟩ := ⟨rfl, rfl⟩

def sampleRedemption (key : String) : RedeemCouponDto where
  code := "summit20"
  eventId := "event-1"
  serviceId := none
  idempotencyKey := some key

/-- Two attendees find the coupon valid before either of them redeems it. -/
theorem last_redemption : ∃ p : Pool MarketDb CouponTask,
    (redemptionRows "coupon-1" p.shared).map CouponRedemption.attendeeId = ["user-1"] ∧
      ∀ c ∈ p.shared.coupons.get? "coupon-1",
        c.redemptionCount = (redemptionRows "coupon-1" p.shared).length := by
  have hrun : ((couponCalls sampleText).play (fun _ _ _ ↦ true)
      ((List.range 3).map (fun n ↦ (0, sampleEnv 1 s!"a{n}")) ++
        (List.range 3).map (fun n ↦ (1, sampleEnv 2 s!"b{n}")) ++
        (List.range 2).map (fun n ↦ (0, sampleEnv 3 s!"c{n}")) ++ [(1, sampleEnv 4 "d")])
      ⟨couponDb, ([.redeemCoupon "user-1" (sampleRedemption "key-1") nobody,
        .redeemCoupon "user-2" (sampleRedemption "key-2") nobody] : List CouponOp).map
          fun op ↦ ⟨op, [], op.runs sampleText⟩⟩).any
        (fun p ↦ p.threads.all (·.call.label?.isNone) &&
          (redemptionRows "coupon-1" p.shared).map CouponRedemption.attendeeId == ["user-1"]) =
            true := by
    decide +kernel
  obtain ⟨p, hp, htest⟩ := (Option.any_eq_true ..).mp hrun
  have hreach : Reach (couponCalls sampleText).Step (Heeding fun _ _ _ _ ↦ True)
      (RedeemableAtFirst "coupon-1") p :=
    reach_tasks (fun _ _ _ _ _ _ _ _ ↦ trivial) couponDb_counted hp
  exact ⟨p, beq_iff_eq.mp (Bool.and_eq_true_iff.mp htest).2,
    (redemptions_counted sampleText "coupon-1" (hreach.mono fun _ _ _ ↦ trivial)).1⟩

end Sample

end Innovents.Marketplace
