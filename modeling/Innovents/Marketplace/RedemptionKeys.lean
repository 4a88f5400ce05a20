import Innovents.Marketplace.CouponRedemptions

namespace Innovents.Marketplace

open Innovents.Lib Innovents.Auth CouponsService

/-- The attendee has made the redemption, of a coupon with this code. -/
def BelongsTo (text : CodeText) (attendeeId code : String) (db : MarketDb) (r : CouponRedemption) :
    Prop :=
  r.attendeeId = attendeeId ∧
    ∃ c ∈ db.coupons.get? r.couponId, c.normalizedCode = text.normalized code

/-- A key that is taken when a call looks it up is taken by a redemption that the call asks for,
and no such redemption is made between the lookup and the transaction of the call. -/
def KeyRespected (text : CodeText) : CouponOp → MarketHistory → String → MarketDb → Prop
  | .redeemCoupon attendeeId dto _, history, label, db => label ≠ "COUPON_REDEEMED" →
    ∀ key ∈ dto.suppliedKey, ∀ r ∈ db.couponRedemptions.rows, r.idempotencyKey = some key →
      (BelongsTo text attendeeId dto.code db r ↔ history = [])
  | _, _, _, _ => True

/-- Redemptions and the codes of coupons do not change. -/
structure SameRedemptions (db db' : MarketDb) : Prop where
  rows : ∀ r ∈ db.couponRedemptions.rows, r ∈ db'.couponRedemptions.rows
  codes : ∀ id, ∀ c ∈ db.coupons.get? id,
    ∃ c' ∈ db'.coupons.get? id, c'.normalizedCode = c.normalizedCode

section Kept

variable {text : CodeText} {attendeeId code : String} {r : CouponRedemption}
  {db db₁ db₂ db₃ db' : MarketDb}

theorem SameRedemptions.refl (db : MarketDb) : SameRedemptions db db :=
  ⟨fun _ h ↦ h, fun _ c hc ↦ ⟨c, hc, rfl⟩⟩

theorem SameRedemptions.trans (h : SameRedemptions db₁ db₂) (h' : SameRedemptions db₂ db₃) :
    SameRedemptions db₁ db₃ := by
  refine ⟨fun r hr ↦ h'.rows r (h.rows r hr), fun id c hc ↦ ?_⟩
  obtain ⟨c', hc', hcode⟩ := h.codes id c hc
  obtain ⟨c'', hc'', hcode'⟩ := h'.codes id c' hc'
  exact ⟨c'', hc'', hcode'.trans hcode⟩

theorem BelongsTo.kept (h : BelongsTo text attendeeId code db r) (hsame : SameRedemptions db db') :
    BelongsTo text attendeeId code db' r := by
  obtain ⟨hattendee, c, hc, hcode⟩ := h
  obtain ⟨c', hc', hsame⟩ := hsame.codes r.couponId c hc
  exact ⟨hattendee, c', hc', hsame.trans hcode⟩

theorem CouponWrites.kept (h : CouponWrites db db') : SameRedemptions db db' := by
  cases h with
  | same h =>
    obtain ⟨accounts, rfl⟩ := h
    exact ⟨fun _ hr ↦ hr, fun _ c hc ↦ ⟨c, hc, rfl⟩⟩
  | created c hcreate _ hrows =>
    exact ⟨fun r hr ↦ hrows ▸ hr, fun id old hold ↦
      ⟨old, (Table.get?_create_taken hold hcreate).2, rfl⟩⟩
  | updated couponId f hupdate hf hrows =>
    refine ⟨fun r hr ↦ hrows ▸ hr, fun id c hc ↦ ?_⟩
    rw [Table.get?_update hupdate fun c ↦ (hf c).1]
    split_ifs with hk
    · rw [hk, Option.mem_def] at hc
      exact ⟨f c, by rw [hc, Option.map_some, Option.mem_some_iff], (hf c).2.1⟩
    · exact ⟨c, hc, rfl⟩
  | redeemed r c _ _ hcounted hcreate =>
    refine ⟨fun r hr ↦ ?_, fun id c hc ↦ ?_⟩
    · rw [Table.create_eq_ok.mp hcreate]
      exact List.mem_append_left _ hr
    · rw [hcounted, Option.mem_def.mp hc, Option.map_some]
      refine ⟨_, rfl, ?_⟩
      split_ifs <;> rfl

theorem runs_sameRedemptions (op : CouponOp) : (op.runs text).Each fun _ ↦ SameRedemptions :=
  (runs_couponWrites op).mono fun _ _ _ ↦ CouponWrites.kept

end Kept

section Replies

variable {text : CodeText} {attendeeId : String} {dto : RedeemCouponDto} {client : Client}
  {history : MarketHistory}

/-- No redemption that the call asks for has its key. -/
def Unredeemed (text : CodeText) (attendeeId : String) (dto : RedeemCouponDto) (db : MarketDb) :
    Prop :=
  ∀ key ∈ dto.suppliedKey, ∀ r ∈ db.couponRedemptions.rows, r.idempotencyKey = some key →
    ¬ BelongsTo text attendeeId dto.code db r

/-- The redemption that a call returns. -/
structure Returns (text : CodeText) (attendeeId : String) (dto : RedeemCouponDto) (db : MarketDb)
    (out : CouponRedemptionResponseDto) (r : CouponRedemption) : Prop where
  stored : r ∈ db.couponRedemptions.rows
  id : r.id = out.redemptionId
  coupon : r.couponId = out.couponId
  belongs : BelongsTo text attendeeId dto.code db r
  key : ∀ key ∈ dto.suppliedKey, r.idempotencyKey = some key

/-- What a call that has ended knows. -/
def Ended (text : CodeText) (attendeeId : String) (dto : RedeemCouponDto) (history : MarketHistory) :
    Except AuthError CouponRedemptionResponseDto → Prop
  | .ok out => ∃ event ∈ history, ∃ r, Returns text attendeeId dto event.2.2 out r
  | .error x => (∃ message, x = .fault message) ∨
      ∃ db ∈ history.last, Unredeemed text attendeeId dto db

/-- The condition, and what every call keeps since the latest statement. -/
def RespectedSince (text : CodeText) (op : CouponOp) (history : MarketHistory) (label : String)
    (db : MarketDb) : Prop :=
  KeyRespected text op history label db ∧ ∀ db₀ ∈ history.last, SameRedemptions db₀ db

abbrev RedeemEnds (text : CodeText) (attendeeId : String) (dto : RedeemCouponDto) (client : Client)
    {α : Type} (c : MarketCall α) (history : MarketHistory)
    (post : MarketHistory → Except AuthError α → Prop) : Prop :=
  c.Ends (fun _ ↦ True) (RespectedSince text (.redeemCoupon attendeeId dto client))
    (fun _ _ _ ↦ True) post history

theorem unredeemed_of_respected {label : String} {db : MarketDb}
    (h : RespectedSince text (.redeemCoupon attendeeId dto client) history label db)
    (hlabel : label ≠ "COUPON_REDEEMED") (hhistory : ∀ key ∈ dto.suppliedKey, history ≠ []) :
    Unredeemed text attendeeId dto db := by
  intro key hkey r hr htaken hbelongs
  exact hhistory key hkey ((h.1 hlabel key hkey r hr htaken).mp hbelongs)

/-- A validation has found the coupon by its code, and nothing redeemed with the key. -/
def Validated (text : CodeText) (attendeeId : String) (dto : RedeemCouponDto)
    (history : MarketHistory) : Except AuthError CouponValidationResultDto → Prop
  | .ok validation => ∃ db ∈ history.last, Unredeemed text attendeeId dto db ∧
      ∀ coupon ∈ validation.coupon, ∃ c ∈ db.coupons.get? coupon.id,
        c.normalizedCode = text.normalized dto.code
  | .error x => ∃ message, x = .fault message

theorem couponByCode_eq {code : String} {db : MarketDb} {coupon : Coupon} {provider : User}
    {event : Event} (h : couponByCode code db = some (coupon, provider, event)) :
    db.coupons.get? coupon.id = some coupon ∧ coupon.normalizedCode = code := by
  obtain ⟨c, hc, h⟩ := Option.bind_eq_some_iff.mp h
  obtain ⟨u, -, h⟩ := Option.bind_eq_some_iff.mp h
  obtain ⟨e, -, h⟩ := Option.bind_eq_some_iff.mp h
  cases h
  obtain ⟨hmem, hp⟩ := Table.find?_mem hc
  rw [Bool.and_eq_true, beq_iff_eq] at hp
  exact ⟨Table.get?_eq_some.mpr ⟨hmem, rfl⟩, hp.1⟩

theorem invalid_coupon {p : CouponResponseDto → Prop} (message : String) :
    ∀ coupon ∈ (invalid message).coupon, p coupon := by
  intro coupon h
  cases h

theorem validateCoupon_ends (hhistory : ∀ key ∈ dto.suppliedKey, history ≠ []) :
    RedeemEnds text attendeeId dto client
      (validateCoupon text dto.toValidateCouponDto (some attendeeId)) history
      (Validated text attendeeId dto) := by
  refine Call.ends_bind (ends_finds (fun _ ↦ trivial) (fun message db ↦ ⟨message, rfl⟩)
    fun env db _ hok ↦ ?_)
  have hunredeemed := unredeemed_of_respected hok (by decide) hhistory
  have hinvalid : ∀ message, Validated text attendeeId dto
      (history ++ [("coupon.findFirst", db, db)]) (.ok (invalid message)) :=
    fun message ↦ ⟨db, History.last_concat, hunredeemed, invalid_coupon message⟩
  cases hfound : couponByCode (text.normalized dto.code) db with
  | none => exact hinvalid _
  | some found =>
    obtain ⟨coupon, provider, event⟩ := found
    obtain ⟨hcoupon, hcode⟩ := couponByCode_eq hfound
    dsimp only
    split_ifs
    · exact Call.ends_pure (hinvalid _)
    · exact Call.ends_pure (hinvalid _)
    · exact Call.ends_pure (hinvalid _)
    · exact Call.ends_pure (hinvalid _)
    · exact Call.ends_pure (hinvalid _)
    · exact Call.ends_pure (hinvalid _)
    · cases (some attendeeId).filter (· ≠ "") with
      | none =>
        refine Call.ends_pure ⟨db, History.last_concat, hunredeemed, fun dto' hdto' ↦ ?_⟩
        cases hdto'
        exact ⟨coupon, hcoupon, hcode⟩
      | some attendee =>
        dsimp only
        refine Call.ends_bind (ends_finds (fun _ ↦ trivial) (fun message db ↦ ⟨message, rfl⟩)
          fun env db' _ hok' ↦ ?_)
        have hunredeemed' := unredeemed_of_respected hok' (by decide) fun _ _ ↦ by simp
        dsimp only
        split_ifs
        · exact Call.ends_pure ⟨db', History.last_concat, hunredeemed', invalid_coupon _⟩
        · refine Call.ends_pure ⟨db', History.last_concat, hunredeemed', fun dto' hdto' ↦ ?_⟩
          cases hdto'
          -- the coupon still has the code under which it was found
          obtain ⟨c, hc, hsame⟩ := (hok'.2 db History.last_concat).codes coupon.id coupon hcoupon
          exact ⟨c, hc, hsame.trans hcode⟩
    · exact Call.ends_pure (hinvalid _)

theorem Redeemed.returns {couponId code : String} {db db' : MarketDb} {r : CouponRedemption}
    (h : Redeemed attendeeId couponId dto.suppliedKey db db' r)
    (hcoupon : ∃ c ∈ db.coupons.get? couponId, c.normalizedCode = text.normalized dto.code) :
    Returns text attendeeId dto db' (redemptionDto r code) r := by
  obtain ⟨c, hc, hcode⟩ := hcoupon
  refine
    { stored := by rw [Table.create_eq_ok.mp h.created]; exact List.mem_append_right _ (by simp)
      id := rfl
      coupon := rfl
      belongs := ⟨h.attendee, ?_⟩
      key := fun key hkey ↦ h.key.trans hkey }
  rw [h.coupon]
  have hget := h.counted couponId
  rw [Option.mem_def.mp hc, Option.map_some, if_pos rfl] at hget
  exact ⟨_, hget, hcode⟩

theorem redeemNew_ends (hhistory : ∀ key ∈ dto.suppliedKey, history ≠ []) :
    RedeemEnds text attendeeId dto client (redeemNew text attendeeId dto client) history
      (Ended text attendeeId dto) := by
  refine Call.ends_bind ((validateCoupon_ends hhistory).mono fun history' r hvalidated ↦ ?_)
  cases r with
  | error x => exact .inl hvalidated
  | ok validation =>
    obtain ⟨db, hlast, hunredeemed, hcoupon⟩ := hvalidated
    have hne : ∀ key ∈ dto.suppliedKey, history' ≠ [] := by
      rintro - - rfl
      cases hlast
    dsimp only
    cases hvalid : validation.coupon.filter fun _ ↦ validation.valid with
    | none => exact .inr ⟨db, hlast, hunredeemed⟩
    | some coupon =>
      obtain ⟨hmem, -⟩ := Option.filter_eq_some_iff.mp hvalid
      refine Call.ends_bind (ends_stores (fun _ ↦ trivial) (fun message _ ↦ .inl ⟨message, rfl⟩)
        (fun env db₁ x _ hok _ ↦ .inr ⟨db₁, History.last_concat,
          unredeemed_of_respected hok (by decide) hne⟩) fun env db₁ db₂ a _ hok hs ↦ ?_)
      obtain ⟨r, redeemed⟩ := a
      obtain ⟨c, hc, hcode⟩ := hcoupon coupon hmem
      obtain ⟨c', hc', hsame⟩ := (hok.2 db hlast).codes coupon.id c hc
      have hreturns : Returns text attendeeId dto db₂ (redemptionDto r redeemed.code) r :=
        (redemption_eq_ok hs).returns ⟨c', hc', hsame.trans hcode⟩
      refine ⟨trivial, trivial, fun _ _ _ _ ↦ ⟨trivial, trivial, ?_⟩⟩
      exact ⟨_, List.mem_append_left _ (List.mem_append_right _ (List.mem_singleton_self _)), r,
        hreturns⟩

theorem redemptionWithKey_eq {key : String} {db : MarketDb} {r : CouponRedemption} {c : Coupon}
    (h : redemptionWithKey key db = some (r, c)) :
    r ∈ db.couponRedemptions.rows ∧ r.idempotencyKey = some key := by
  obtain ⟨r', hr', h⟩ := Option.bind_eq_some_iff.mp h
  obtain ⟨c', -, h⟩ := Option.bind_eq_some_iff.mp h
  cases h
  obtain ⟨hmem, hkey⟩ := Table.find?_mem hr'
  exact ⟨hmem, beq_iff_eq.mp hkey⟩

theorem redeemCoupon_ends : RedeemEnds text attendeeId dto client
    (redeemCoupon text attendeeId dto client) [] (Ended text attendeeId dto) := by
  unfold CouponsService.redeemCoupon
  cases hkey : dto.suppliedKey with
  | none => exact redeemNew_ends (by simp [hkey])
  | some key =>
    refine Call.ends_bind (ends_finds (fun _ ↦ trivial) (fun message _ ↦ .inl ⟨message, rfl⟩)
      fun env db _ hok ↦ ?_)
    dsimp only
    cases hfound : redemptionWithKey key db with
    | none => exact redeemNew_ends fun _ _ ↦ by simp
    | some found =>
      obtain ⟨r, c⟩ := found
      obtain ⟨hr, htaken⟩ := redemptionWithKey_eq hfound
      -- the key is taken by a redemption that the call asks for
      have hbelongs := (hok.1 (by decide) key hkey r hr htaken).mpr rfl
      refine ⟨_, List.mem_singleton_self _, r, hr, rfl, rfl, hbelongs, fun key' hkey' ↦ ?_⟩
      rw [hkey] at hkey'
      cases hkey'
      exact htaken

end Replies

section Runs

variable {text : CodeText} {p q : Pool MarketDb CouponTask}

/-- What a call that has ended knows, if it was to redeem a coupon. -/
def Replied (text : CodeText) : CouponOp → MarketHistory → CouponReply → Prop
  | .redeemCoupon attendeeId dto _, history, .ok (some out) =>
    Ended text attendeeId dto history (.ok out)
  | .redeemCoupon _ _ _, _, .ok none => False
  | .redeemCoupon attendeeId dto _, history, .error x => Ended text attendeeId dto history (.error x)
  | _, _, _ => True

theorem runs_replied (op : CouponOp) : (op.runs text).Heeds (fun _ ↦ True) (RespectedSince text op)
    (fun _ _ _ ↦ True) (Replied text op) [] := by
  cases op with
  | createCoupon providerId dto client =>
    exact (Call.heeds_each (runs_couponWrites (.createCoupon providerId dto client))
      (fun _ _ _ _ _ ↦ trivial) fun _ _ _ _ _ ↦ trivial).mono fun _ _ _ ↦ trivial
  | updateCoupon providerId couponId dto client =>
    exact (Call.heeds_each (runs_couponWrites (.updateCoupon providerId couponId dto client))
      (fun _ _ _ _ _ ↦ trivial) fun _ _ _ _ _ ↦ trivial).mono fun _ _ _ ↦ trivial
  | redeemCoupon attendeeId dto client =>
    refine Call.ends_bind (redeemCoupon_ends.mono fun history r hended ↦ ?_)
    cases r with
    | ok out => exact hended
    | error x => exact hended

abbrev RepliedCalls (text : CodeText) (p : Pool MarketDb CouponTask) : Prop :=
  Heedful (fun _ ↦ True) (RespectedSince text) (fun _ _ _ _ ↦ True) (Replied text) p

theorem replied_reach
    (h : Reach (couponCalls text).Step (Heeding (KeyRespected text)) (fun p ↦ p.threads = []) p) :
    RepliedCalls text p ∧ Remembered SameRedemptions p := by
  obtain ⟨hreach, hremembered⟩ := h.remember SameRedemptions.refl (fun _ _ _ ↦ SameRedemptions.trans)
    runs_sameRedemptions fun _ hp ↦ hp
  refine ⟨(heedful_reach (I := fun _ ↦ True) runs_replied (fun p hp ↦ ⟨⟨trivial, ?_⟩, trivial⟩)
    (fun _ _ _ _ _ _ ↦ trivial) hreach).1, hremembered⟩
  simp [hp]

/-- The call was to redeem a coupon and has ended with this reply. -/
def Finished (attendeeId : String) (dto : RedeemCouponDto) (t : CouponTask) (reply : CouponReply) :
    Prop :=
  (∃ client, t.op = .redeemCoupon attendeeId dto client) ∧ t.call = .returned (.ok reply)

theorem RepliedCalls.ended {attendeeId : String} {dto : RedeemCouponDto} {t : CouponTask}
    {reply : CouponReply} (hp : RepliedCalls text p) (ht : t ∈ p.threads)
    (h : Finished attendeeId dto t reply) :
    (∃ out, reply = .ok (some out) ∧ Ended text attendeeId dto t.history (.ok out)) ∨
      ∃ x, reply = .error x ∧ Ended text attendeeId dto t.history (.error x) := by
  obtain ⟨⟨client, hop⟩, hcall⟩ := h
  have hreplied := hp.threads t ht
  rw [hop, hcall] at hreplied
  cases reply with
  | error x => exact .inr ⟨x, rfl, hreplied⟩
  | ok reply =>
    cases reply with
    | none => exact hreplied.elim
    | some out => exact .inl ⟨out, rfl, hreplied⟩

/-- The redemption that a call has returned is still there. -/
theorem RepliedCalls.returned {attendeeId : String} {dto : RedeemCouponDto} {t : CouponTask}
    {out : CouponRedemptionResponseDto} (hp : RepliedCalls text p)
    (hremembered : Remembered SameRedemptions p) (ht : t ∈ p.threads)
    (h : Finished attendeeId dto t (.ok (some out))) :
    ∃ r, Returns text attendeeId dto p.shared out r := by
  rcases hp.ended ht h with ⟨out', hout, hended⟩ | ⟨x, hx, -⟩
  · cases hout
    obtain ⟨event, hevent, r, hr⟩ := hended
    have hsame := hremembered.history t ht event hevent
    exact ⟨r,
      { hr with
        stored := hsame.rows r hr.stored
        belongs := hr.belongs.kept hsame }⟩
  · cases hx

/-- When a key that is looked up is free or taken by a redemption that the call asks for, and
nobody redeems with it in between, every redemption that is returned is the caller's, for the code
that was asked for, and after a success with a key the later ones return the same redemption. -/
theorem redemptions_idempotent (text : CodeText)
    (h : Reach (couponCalls text).Step (Heeding (KeyRespected text)) (fun p ↦ p.threads = []) p) :
    (∀ t ∈ p.threads, ∀ attendeeId dto out, Finished attendeeId dto t (.ok (some out)) →
      ∃ r ∈ p.shared.couponRedemptions.get? out.redemptionId, r.couponId = out.couponId ∧
        BelongsTo text attendeeId dto.code p.shared r) ∧
    ∀ t ∈ p.threads, ∀ attendeeId dto out key, Finished attendeeId dto t (.ok (some out)) →
      dto.suppliedKey = some key →
      ∀ q, Reach (couponCalls text).Step (Heeding (KeyRespected text)) (fun u ↦ u = p) q →
        ∀ (i : ℕ) t', q.threads[i]? = some t' → p.threads[i]? ≠ some t' →
          ∀ dto' reply, Finished attendeeId dto' t' reply → dto'.suppliedKey = some key →
            text.normalized dto'.code = text.normalized dto.code →
            (∃ out', reply = .ok (some out') ∧ out'.redemptionId = out.redemptionId) ∨
              ∃ message, reply = .error (.fault message) := by
  obtain ⟨hp, hremembered⟩ := replied_reach h
  constructor
  · intro t ht attendeeId dto out hfinished
    obtain ⟨r, hr⟩ := hp.returned hremembered ht hfinished
    exact ⟨r, Table.get?_eq_some.mpr ⟨hr.stored, hr.id⟩, hr.coupon, hr.belongs⟩
  · intro t ht attendeeId dto out key hfinished hkey q hq i t' hi hlater dto' reply hfinished' hkey'
      hcode
    obtain ⟨r, hr⟩ := hp.returned hremembered ht hfinished
    obtain ⟨hq', hremembered'⟩ := replied_reach (h.trans hq)
    obtain ⟨hsame, hthreads⟩ := hremembered.later SameRedemptions.refl
      (fun _ _ _ ↦ SameRedemptions.trans) runs_sameRedemptions hq
    have ht' := List.mem_of_getElem? hi
    rcases hq'.ended ht' hfinished' with ⟨out', rfl, -⟩ | ⟨x, rfl, hfault | ⟨db, hdb, hunredeemed⟩⟩
    · -- only one redemption has the key
      obtain ⟨r', hr'⟩ := hq'.returned hremembered' ht' hfinished'
      have hone : r' = r := q.shared.couponRedemptions.eq_of_unique List.mem_cons_self hr'.stored
        (hsame.rows r hr.stored) (hr'.key key hkey') (hr.key key hkey)
      exact .inl ⟨out', rfl, by rw [← hr'.id, hone, hr.id]⟩
    · obtain ⟨message, rfl⟩ := hfault
      exact .inr ⟨message, rfl⟩
    · -- the latest request of the call has found the redemption
      have hsince := (hthreads i t' hi).resolve_left hlater db hdb
      obtain ⟨hattendee, hcoupon⟩ := hr.belongs.kept hsince
      refine (hunredeemed key hkey' r (hsince.rows r hr.stored) (hr.key key hkey)
        ⟨hattendee, ?_⟩).elim
      rw [hcode]
      exact hcoupon

end Runs

section Sample

/-- Each redemption is of the attendee and the code that the call asks for just when it has made no
request. -/
def respectsKeys (p : Pool MarketDb CouponTask) (i : ℕ) (_ : AuthEnv) : Bool :=
  p.threads[i]?.all fun t ↦
    match t.op with
    | .redeemCoupon attendeeId dto _ => t.call.label? == some "COUPON_REDEEMED" ||
        p.shared.couponRedemptions.rows.all fun r ↦ t.history.isEmpty ==
          (r.attendeeId == attendeeId && (p.shared.coupons.get? r.couponId).any
            (·.normalizedCode == sampleText.normalized dto.code))
    | _ => true

theorem respectsKeys_sound {p : Pool MarketDb CouponTask} {i : ℕ} {env : AuthEnv}
    (h : respectsKeys p i env = true) : Heeding (KeyRespected sampleText) p (.run i env) := by
  intro t label hi hlabel
  rw [respectsKeys, hi, Option.all_some] at h
  obtain ⟨op, history, call⟩ := t
  cases op with
  | createCoupon => trivial
  | updateCoupon => trivial
  | redeemCoupon attendeeId dto client =>
    intro hlog key _ r hr _
    dsimp only at h hlabel
    rw [hlabel, Bool.or_eq_true, beq_iff_eq, Option.some.injEq, List.all_eq_true] at h
    have hr := h.resolve_left hlog r hr
    rw [beq_iff_eq, Bool.eq_iff_iff, List.isEmpty_iff, Bool.and_eq_true, beq_iff_eq,
      Option.any_eq_true] at hr
    simp only [beq_iff_eq] at hr
    exact hr.symm

/-- What a call has thrown or the id it has returned, with its attendee. -/
def outcome (t : CouponTask) : Option (String × Except AuthError String) :=
  match t.op, t.call with
  | .redeemCoupon attendeeId _ _, .returned (.ok (.ok (some out))) =>
    some (attendeeId, .ok out.redemptionId)
  | .redeemCoupon attendeeId _ _, .returned (.ok (.error x)) => some (attendeeId, .error x)
  | _, _ => none

theorem finished_of_outcome {t : CouponTask} {attendeeId : String} {r : Except AuthError String}
    (h : outcome t = some (attendeeId, r)) : ∃ dto reply, Finished attendeeId dto t reply ∧
      match r with
      | .ok id => ∃ out, reply = .ok (some out) ∧ out.redemptionId = id
      | .error x => reply = .error x := by
  unfold outcome at h
  split at h
  · next attendee dto client out hop hcall =>
    cases h
    exact ⟨dto, _, ⟨⟨client, hop⟩, hcall⟩, out, rfl, rfl⟩
  · next attendee dto client x hop hcall =>
    cases h
    exact ⟨dto, _, ⟨⟨client, hop⟩, hcall⟩, rfl⟩
  · cases h

/-- The attendee sends the request again. -/
theorem retried : ∃ p : Pool MarketDb CouponTask,
    p.threads.map outcome = [some ("user-1", .ok "id-a3"), some ("user-1", .ok "id-a3")] ∧
      ∀ t ∈ p.threads, ∀ attendeeId dto out, Finished attendeeId dto t (.ok (some out)) →
        ∃ r ∈ p.shared.couponRedemptions.get? out.redemptionId, r.couponId = out.couponId ∧
          BelongsTo sampleText attendeeId dto.code p.shared r := by
  have hrun : ((couponCalls sampleText).play respectsKeys
      ((List.range 5).map (fun n ↦ (0, sampleEnv 1 s!"a{n}")) ++ [(1, sampleEnv 2 "b")])
      ⟨couponDb, ([.redeemCoupon "user-1" (sampleRedemption "key-1") nobody,
        .redeemCoupon "user-1" (sampleRedemption "key-1") nobody] : List CouponOp).map
          fun op ↦ ⟨op, [], op.runs sampleText⟩⟩).any
        (fun p ↦ decide (p.threads.map outcome =
          [some ("user-1", .ok "id-a3"), some ("user-1", .ok "id-a3")])) = true := by
    decide +kernel
  obtain ⟨p, hp, htest⟩ := (Option.any_eq_true ..).mp hrun
  have hreach : Reach (couponCalls sampleText).Step (Heeding (KeyRespected sampleText))
      (fun p ↦ p.threads = []) p := reach_tasks (fun _ _ _ h ↦ respectsKeys_sound h) rfl hp
  exact ⟨p, of_decide_eq_true htest, (redemptions_idempotent sampleText hreach).1⟩

/-- A retry that has looked the key up before the first call is through is refused, and another
attendee gets the redemption of the first with the same key. -/
theorem key_shared : ∃ p : Pool MarketDb CouponTask,
    Reach (couponCalls sampleText).Step (Heeding fun _ _ _ _ ↦ True) (fun p ↦ p.threads = []) p ∧
      (∃ t ∈ p.threads, ∃ dto message,
        Finished "user-1" dto t (.error (.http .badRequest message))) ∧
      ∃ t ∈ p.threads, ∃ dto out, Finished "user-2" dto t (.ok (some out)) ∧
        ∀ r ∈ p.shared.couponRedemptions.get? out.redemptionId, r.attendeeId ≠ "user-2" := by
  have hrun : ((couponCalls sampleText).play (fun _ _ _ ↦ true)
      ([(1, sampleEnv 1 "retry")] ++ (List.range 5).map (fun n ↦ (0, sampleEnv 1 s!"a{n}")) ++
        [(1, sampleEnv 2 "b"), (2, sampleEnv 3 "c")])
      ⟨couponDb, ([.redeemCoupon "user-1" (sampleRedemption "key-1") nobody,
        .redeemCoupon "user-1" (sampleRedemption "key-1") nobody,
        .redeemCoupon "user-2" (sampleRedemption "key-1") nobody] : List CouponOp).map
          fun op ↦ ⟨op, [], op.runs sampleText⟩⟩).any
        (fun p ↦ decide (p.threads.map outcome = [some ("user-1", .ok "id-a3"),
          some ("user-1", .error (.http .badRequest "Coupon redemption limit reached")),
          some ("user-2", .ok "id-a3")]) &&
          (p.shared.couponRedemptions.get? "id-a3").all (·.attendeeId == "user-1")) = true := by
    decide +kernel
  obtain ⟨p, hp, htest⟩ := (Option.any_eq_true ..).mp hrun
  obtain ⟨htest, howner⟩ := Bool.and_eq_true_iff.mp htest
  have hends := of_decide_eq_true htest
  have hin {o : String × Except AuthError String} (ho : some o ∈ p.threads.map outcome) :
      ∃ t ∈ p.threads, outcome t = some o := List.mem_map.mp ho
  obtain ⟨t, ht, hrefused⟩ := hin (by rw [hends]; exact List.mem_cons_of_mem _ List.mem_cons_self)
  obtain ⟨dto, reply, hfinished, rfl⟩ := finished_of_outcome hrefused
  obtain ⟨t', ht', hgiven⟩ := hin (by
    rw [hends]
    exact List.mem_cons_of_mem _ (List.mem_cons_of_mem _ List.mem_cons_self))
  obtain ⟨dto', reply', hfinished', out, rfl, hid⟩ := finished_of_outcome hgiven
  refine ⟨p, reach_tasks (fun _ _ _ _ _ _ _ _ ↦ trivial) rfl hp, ⟨t, ht, dto, _, hfinished⟩, t', ht',
    dto', out, hfinished', fun r hr ↦ ?_⟩
  rw [hid] at hr
  rw [Option.mem_def.mp hr, Option.all_some, beq_iff_eq] at howner
  rw [howner]
  decide

end Sample

end Innovents.Marketplace
