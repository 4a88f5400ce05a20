import Innovents.Auth.Writes
import Innovents.Lib.SingleUse

namespace Innovents.Auth

open Innovents.Lib Innovents.Payments OAuthService

/-- A call that redeems a key on its way: whether it has found the value, and whether it has deleted
the key. -/
structure Redemption (α : Type) where
  found : Bool
  deleted : Bool
  call : AuthCall α

namespace Redemption

variable {α : Type}

def asks (t : Redemption α) : Bool := t.call.label? == some "redis.get"

/-- The command finds the value of the key. -/
def finds (key : String) (t : Redemption α) (env : AuthEnv) (db : AuthDb) : Bool :=
  t.asks && env.fault.isNone && env.redisConnected && (db.lookup key env.now).isSome

def deletes (t : Redemption α) (env : AuthEnv) : Bool :=
  t.call.label? == some "redis.del" && env.fault.isNone && env.redisConnected

def step (key : String) (env : AuthEnv) (db : AuthDb) (t : Redemption α) :
    Option (AuthDb × Redemption α) :=
  (t.call.step env db).map fun q ↦ (q.1,
    { found := t.found || t.finds key env db
      deleted := t.deleted || t.deletes env
      call := q.2 })

/-- The value is found, and its key is still to be deleted. -/
def pending (t : Redemption α) : Bool := t.found && !t.deleted

end Redemption

open Redemption

/-- Others store nothing under the key. -/
def OtherKeys (key : String) (db db' : AuthDb) : Prop :=
  ∀ e ∈ db'.redis, e.key = key → e ∈ db.redis

/-- Any number of calls that present the same key. -/
def redemptions {α : Type} (key : String) (begins : AuthCall α → Prop) :
    Machine AuthDb (Redemption α) AuthEnv where
  start t := ∃ call, begins call ∧ t = ⟨false, false, call⟩
  step := Redemption.step key
  world := OtherKeys key

/-- Whoever asks for the key finds those done that have found its value. -/
def InTurn {α : Type} (p : Pool AuthDb (Redemption α)) : Move (Redemption α) AuthEnv → Prop
  | .run i _ => ∀ t, p.threads[i]? = some t → t.asks = true →
    ∀ u ∈ p.threads, u.found = true → u.deleted = true
  | _ => True

def NoRedis (label : String) (db db' : AuthDb) : Prop :=
  label ≠ "redis.get" ∧ label ≠ "redis.del" ∧ db'.redis = db.redis

/-- The call refuses at once, or redeems the key and then uses Redis no more. -/
def Redeems {α : Type} (key : String) (call : AuthCall α) : Prop :=
  (∃ x, call = .returned (.error x)) ∨ ∃ message rest,
    call = (redeem key message).bind rest ∧ ∀ value, (rest value).Each NoRedis

/-- No value is stored under the key. -/
def Gone (key : String) (db : AuthDb) : Prop := ∀ e ∈ db.redis, e.key ≠ key

/-- How far a call that redeems a key has come. -/
inductive Redeeming {α : Type} (key : String) : Redemption α → Prop
  | asks (message : String) (rest : RedisValue → AuthCall α) :
      (∀ value, (rest value).Each NoRedis) →
      Redeeming key ⟨false, false, (redeem key message).bind rest⟩
  | deletes (rest : Unit → AuthCall α) : (rest ()).Each NoRedis →
      Redeeming key ⟨true, false, (RedisService.del key).bind rest⟩
  | ends (t : Redemption α) : t.found = true → t.call.Each NoRedis → Redeeming key t
  | fails (found deleted : Bool) (x : AuthError) :
      Redeeming key ⟨found, deleted, .returned (.error x)⟩

section Steps

variable {α : Type} {key : String} {db db' : AuthDb} {env : AuthEnv} {t t' : Redemption α}

theorem lookup_gone {now : Time} (h : Gone key db) : db.lookup key now = none := by
  rw [AuthDb.lookup, Option.map_eq_none_iff, List.find?_eq_none]
  intro e he hkey
  rw [Bool.and_eq_true, beq_iff_eq] at hkey
  exact h e he hkey.1

/-- What one command of such a call does. -/
inductive Redeemed (key : String) (db : AuthDb) (t : Redemption α) (db' : AuthDb)
    (t' : Redemption α) : Prop
  | idle : db'.redis = db.redis → t'.found = t.found → t'.deleted = t.deleted →
      Redeemed key db t db' t'
  | finds : t.asks = true → ¬Gone key db → db'.redis = db.redis → t.found = false →
      t'.found = true → t'.deleted = false → Redeemed key db t db' t'
  | deletes : Gone key db' → t.found = true → t'.found = true → t'.deleted = true →
      Redeemed key db t db' t'

/-- Asking for the key. -/
theorem get_step {message : String} {rest : RedisValue → AuthCall α} {call : AuthCall α}
    (hs : ((redeem key message).bind rest).step env db = some (db', call)) : db' = db ∧
      if env.fault.isNone && env.redisConnected && (db.lookup key env.now).isSome then
        ∃ value, call = (RedisService.del key).bind fun _ ↦ rest value
      else ∃ x, call = .returned (.error x) := by
  cases hfault : env.fault with
  | some message =>
    simp only [redeem, RedisService.get, finds, Call.ask, Call.bind_eq, Call.bind, Call.step, hfault,
      Option.elim_some, Option.some.injEq, Prod.mk.injEq] at hs
    exact ⟨hs.1.symm, _, hs.2.symm⟩
  | none =>
    simp only [redeem, RedisService.get, finds, Call.ask, Call.bind_eq, Call.bind, Call.step, hfault,
      Option.elim_none, Option.some.injEq, Prod.mk.injEq] at hs
    obtain ⟨rfl, rfl⟩ := hs
    refine ⟨rfl, ?_⟩
    cases hconnected : env.redisConnected with
    | false => exact ⟨_, rfl⟩
    | true =>
      simp only [if_true]
      cases hlookup : db.lookup key env.now with
      | none => exact ⟨_, rfl⟩
      | some value => exact ⟨value, Call.bind_assoc ..⟩

/-- Deleting the key. -/
theorem del_step {rest : Unit → AuthCall α} {call : AuthCall α}
    (hs : ((RedisService.del key).bind rest).step env db = some (db', call)) :
    (call = rest () ∨ ∃ x, call = .returned (.error x)) ∧
      if env.fault.isNone && env.redisConnected then Gone key db' else db' = db := by
  cases hfault : env.fault with
  | some message =>
    simp only [RedisService.del, RedisService.write, stores, Call.perform, Call.bind, Call.step,
      hfault, Option.elim_some, Call.written, Option.some.injEq, Prod.mk.injEq] at hs
    exact ⟨.inr ⟨_, hs.2.symm⟩, hs.1.symm⟩
  | none =>
    simp only [RedisService.del, RedisService.write, stores, Call.perform, Call.bind, Call.step,
      hfault, Option.elim_none, Call.written, Option.some.injEq, Prod.mk.injEq] at hs
    obtain ⟨rfl, rfl⟩ := hs
    refine ⟨.inl rfl, ?_⟩
    cases hconnected : env.redisConnected with
    | false => rfl
    | true =>
      intro e he
      have hkept := (List.mem_filter.mp he).2
      simpa using hkept

theorem Redeeming.step (h : Redeeming key t) (hs : t.step key env db = some (db', t')) :
    Redeemed key db t db' t' ∧ Redeeming key t' := by
  obtain ⟨⟨db₁, call⟩, hstep, hq⟩ := Option.map_eq_some_iff.mp hs
  cases hq
  cases h with
  | asks message rest hrest =>
    obtain ⟨rfl, hcall⟩ := get_step hstep
    have hfinds : (⟨false, false, (redeem key message).bind rest⟩ : Redemption α).finds key env db₁ =
        (env.fault.isNone && env.redisConnected && (db₁.lookup key env.now).isSome) := rfl
    have hdeletes : (⟨false, false, (redeem key message).bind rest⟩ : Redemption α).deletes env =
        false := rfl
    rw [hfinds, hdeletes]
    split_ifs at hcall with hfound
    · obtain ⟨value, rfl⟩ := hcall
      rw [hfound]
      refine ⟨.finds rfl (fun hgone ↦ ?_) rfl rfl rfl rfl, .deletes _ (hrest value)⟩
      simp [lookup_gone hgone] at hfound
    · obtain ⟨x, rfl⟩ := hcall
      rw [Bool.not_eq_true] at hfound
      rw [hfound]
      exact ⟨.idle rfl rfl rfl, .fails _ _ x⟩
  | deletes rest hrest =>
    obtain ⟨hcall, hdb⟩ := del_step hstep
    have hdeletes : (⟨true, false, (RedisService.del key).bind rest⟩ : Redemption α).deletes env =
        (env.fault.isNone && env.redisConnected) := rfl
    rw [hdeletes]
    refine ⟨?_, ?_⟩
    · split_ifs at hdb with havailable
      · rw [havailable]
        exact .deletes hdb rfl rfl rfl
      · rw [Bool.not_eq_true] at havailable
        rw [havailable, hdb]
        exact .idle rfl rfl rfl
    · rcases hcall with rfl | ⟨x, rfl⟩
      · exact .ends _ rfl hrest
      · exact .fails _ _ x
  | ends _ hfound heach =>
    obtain ⟨⟨label, hlabel, hget, hdel, hredis⟩, hrest⟩ := Call.Each.step heach hstep
    have hdeletes : t.deletes env = false := by simp [Redemption.deletes, hlabel, hdel]
    rw [hdeletes, hfound]
    exact ⟨.idle hredis hfound.symm (Bool.or_false _), .ends _ rfl hrest⟩
  | fails found deleted x => cases hstep

end Steps

section Runs

variable {α : Type} {key : String} {begins : AuthCall α → Prop} {p q : Pool AuthDb (Redemption α)}

structure RedeemedOnce (key : String) (p : Pool AuthDb (Redemption α)) : Prop where
  redeeming : ∀ t ∈ p.threads, Redeeming key t
  once : SingleUse found pending p.threads (Gone key p.shared)

theorem Redeems.redeeming {call : AuthCall α} (h : Redeems key call) :
    Redeeming key ⟨false, false, call⟩ := by
  rcases h with ⟨x, rfl⟩ | ⟨message, rest, rfl, hrest⟩
  · exact .fails _ _ x
  · exact .asks message rest hrest

theorem RedeemedOnce.step {a : Move (Redemption α) AuthEnv} (hp : RedeemedOnce key p)
    (hbegins : ∀ call, begins call → Redeems key call) (hok : InTurn p a)
    (hs : (redemptions key begins).Step p a q) : RedeemedOnce key q := by
  cases hs with
  | @spawn t ht =>
    obtain ⟨call, hcall, rfl⟩ := ht
    refine ⟨fun u hu ↦ ?_, hp.once.spawn rfl⟩
    rcases List.mem_append.mp hu with hm | hm
    · exact hp.redeeming u hm
    · rw [List.mem_singleton.mp hm]
      exact (hbegins call hcall).redeeming
  | @run i env t t' db' hi hstep =>
    obtain ⟨hredeemed, hnext⟩ := (hp.redeeming t (List.mem_of_getElem? hi)).step hstep
    refine ⟨fun u hu ↦ ?_, ?_⟩
    · rcases List.mem_or_eq_of_mem_set hu with hm | rfl
      · exact hp.redeeming u hm
      · exact hnext
    · cases hredeemed with
      | idle hredis hfound hdeleted =>
        have hsame := hp.once.same hi hfound (by rw [pending, pending, hfound, hdeleted])
        exact hsame.mono fun hgone ↦ by rw [Gone, hredis]; exact hgone
      | finds hasks hthere hredis hbefore hfound hdeleted =>
        refine (hp.once.claim hi hbefore (fun _ ↦ by simp [pending, hfound, hdeleted]) ?_
          fun _ hgone ↦ hthere hgone).mono fun hgone ↦ by rw [Gone, hredis]; exact hgone
        refine List.countP_eq_zero.mpr fun u hu hpending ↦ ?_
        rw [pending, Bool.and_eq_true, Bool.not_eq_true'] at hpending
        have hdone := hok t hi hasks u hu hpending.1
        rw [hpending.2] at hdone
        cases hdone
      | deletes hgone hbefore hfound hdeleted =>
        exact hp.once.use hi (hfound.trans hbefore.symm) (fun _ ↦ hgone)
          (fun hnot ↦ by rw [hbefore] at hnot; cases hnot) fun _ ↦ hgone
  | @world db' hw =>
    exact ⟨hp.redeeming, hp.once.mono fun hgone e he hkey ↦ hgone e (hw e he hkey) hkey⟩

theorem redeemed_once (hbegins : ∀ call, begins call → Redeems key call)
    (h : Reach (redemptions key begins).Step InTurn (fun p ↦ p.threads = []) p) :
    RedeemedOnce key p := by
  refine h.invariant (fun q hq ↦ ?_) fun _ _ _ hq hok hs ↦ hq.step hbegins hok hs
  exact ⟨by simp [hq], .of_none (by simp [hq])⟩

end Runs

section Calls

variable {α : Type} {rt : Runtime} {google : Google} {code state : String}

theorem noRedis_finds {name : String} {f : AuthEnv → AuthDb → α} (hget : name ≠ "redis.get")
    (hdel : name ≠ "redis.del") : (finds name f).Each NoRedis :=
  each_finds fun _ ↦ ⟨hget, hdel, rfl⟩

theorem noRedis_fetchProfile {codeVerifier : String} :
    (fetchProfile google code codeVerifier).Each NoRedis := by
  refine Call.each_bind (noRedis_finds (by decide) (by decide)) fun token ↦ ?_
  cases token with
  | none => trivial
  | some accessToken =>
    dsimp only
    split_ifs
    · trivial
    · refine Call.each_bind (noRedis_finds (by decide) (by decide)) fun profile ↦ ?_
      cases profile with
      | none => trivial
      | some profile =>
        dsimp only
        split_ifs <;> trivial

theorem handleGoogleCallback_redeems :
    Redeems (stateKey state) (handleGoogleCallback rt google code state) := by
  unfold handleGoogleCallback
  split_ifs
  · exact .inl ⟨_, rfl⟩
  · refine .inr ⟨_, _, rfl, fun value ↦ ?_⟩
    unfold continueCallback
    split
    · trivial
    · split_ifs
      · trivial
      · refine Call.each_bind noRedis_fetchProfile fun profile ↦ signIn_writes.mono fun label db db' h ↦ ?_
        exact ⟨h.1.1, h.1.2, h.2.redis⟩

theorem exchangeOAuthCode_redeems : Redeems (exchangeKey code) (exchangeOAuthCode code) := by
  unfold exchangeOAuthCode
  split_ifs
  · exact .inl ⟨_, rfl⟩
  · exact .inr ⟨_, _, rfl, fun _ ↦ trivial⟩

end Calls

/-- Callbacks from Google with one state. -/
def callbacks (rt : Runtime) (google : Google) (state : String) :
    Machine AuthDb (Redemption GoogleSession) AuthEnv :=
  redemptions (stateKey state) fun call ↦ ∃ code, call = handleGoogleCallback rt google code state

/-- Exchanges of one code. -/
def exchanges (code : String) : Machine AuthDb (Redemption GoogleSession) AuthEnv :=
  redemptions (exchangeKey code) fun call ↦ call = exchangeOAuthCode code

def returnsTokens (t : Redemption GoogleSession) : Bool :=
  match t.call with
  | .returned (.ok _) => true
  | _ => false

theorem Redeeming.found_of_returns {key : String} {t : Redemption GoogleSession}
    (h : Redeeming key t) (hr : returnsTokens t = true) : t.found = true := by
  cases h with
  | asks => cases hr
  | deletes => cases hr
  | ends _ hfound => exact hfound
  | fails => cases hr

/-- When each call finds those done that have found the value before, a state is accepted once and
an exchange code returns its tokens once. -/
theorem one_time_codes (rt : Runtime) (google : Google) (state code : String) :
    (∀ p, Reach (callbacks rt google state).Step InTurn (fun p ↦ p.threads = []) p →
      p.threads.countP found ≤ 1) ∧
    ∀ p, Reach (exchanges code).Step InTurn (fun p ↦ p.threads = []) p →
      p.threads.countP returnsTokens ≤ 1 := by
  refine ⟨fun p h ↦ ?_, fun p h ↦ ?_⟩
  · refine (redeemed_once (fun call hcall ↦ ?_) h).once.single
    obtain ⟨code, rfl⟩ := hcall
    exact handleGoogleCallback_redeems
  · have hp := redeemed_once (fun call hcall ↦ hcall ▸ exchangeOAuthCode_redeems) h
    refine le_trans ?_ hp.once.single
    exact List.countP_mono_left fun t ht hr ↦ (hp.redeeming t ht).found_of_returns hr

section Sample

def sampleSession : GoogleSession :=
  ⟨"user-1", "attendee@example.com",
    ⟨TokenService.sign sampleRuntime ⟨"user-1", "attendee@example.com", ["ATTENDEE"], [], "jti-1"⟩ 0,
      "refresh-1", "15m"⟩⟩

def exchangeDb : AuthDb :=
  { AuthDb.empty with
    redis := [⟨exchangeKey "code-1", .session sampleSession.userId sampleSession.email
      sampleSession.tokens, some 60000⟩] }

def twoExchanges : List (Redemption GoogleSession) :=
  List.replicate 2 ⟨false, false, exchangeOAuthCode "code-1"⟩

theorem reach_exchanges {ok : Pool AuthDb (Redemption GoogleSession) →
      Move (Redemption GoogleSession) AuthEnv → Prop}
    {check : Pool AuthDb (Redemption GoogleSession) → ℕ → AuthEnv → Bool}
    {moves : List (ℕ × AuthEnv)} {p : Pool AuthDb (Redemption GoogleSession)}
    (hspawn : ∀ p t, ok p (.spawn t)) (hrun : ∀ p i env, check p i env = true → ok p (.run i env))
    (h : (exchanges "code-1").play check moves ⟨exchangeDb, twoExchanges⟩ = some p) :
    Reach (exchanges "code-1").Step ok (fun p ↦ p.threads = []) p := by
  have hstarts : ∀ t ∈ twoExchanges, (exchanges "code-1").start t := by
    intro t ht
    rw [List.eq_of_mem_replicate ht]
    exact ⟨_, rfl, rfl⟩
  have hinit : Reach (exchanges "code-1").Step ok (fun p ↦ p.threads = []) ⟨exchangeDb, []⟩ :=
    .start rfl
  exact Machine.reach_play hrun (Machine.reach_spawnAll (fun p t _ ↦ hspawn p t) hstarts hinit) h

def inTurn (p : Pool AuthDb (Redemption GoogleSession)) (i : ℕ) (_ : AuthEnv) : Bool :=
  p.threads[i]?.all fun t ↦ !t.asks || p.threads.all fun u ↦ !u.found || u.deleted

theorem inTurn_sound {p : Pool AuthDb (Redemption GoogleSession)} {i : ℕ} {env : AuthEnv}
    (h : inTurn p i env = true) : InTurn p (.run i env) := by
  intro t hi hasks u hu hfound
  simp only [inTurn, hi, Option.all_some, hasks, Bool.not_true, Bool.false_or,
    List.all_eq_true] at h
  simpa [hfound] using h u hu

/-- The second of two exchanges comes after the first one. -/
theorem exchanged_in_turn : ∃ p : Pool AuthDb (Redemption GoogleSession),
    p.threads.any returnsTokens = true ∧ p.threads.countP returnsTokens ≤ 1 := by
  have hrun : ((exchanges "code-1").play inTurn
      [(0, sampleEnv 1 "2"), (0, sampleEnv 2 "3"), (1, sampleEnv 3 "4")]
      ⟨exchangeDb, twoExchanges⟩).any (fun p ↦ p.threads.any returnsTokens) = true := by
    decide +kernel
  obtain ⟨p, hp, htest⟩ := (Option.any_eq_true ..).mp hrun
  have hsound : ∀ p i env, inTurn p i env = true → InTurn p (.run i env) :=
    fun _ _ _ h ↦ inTurn_sound h
  have hreach := reach_exchanges (fun _ _ ↦ trivial) hsound hp
  exact ⟨p, htest, (one_time_codes sampleRuntime ⟨true, fun _ _ _ ↦ none, fun _ _ ↦ none⟩ ""
    "code-1").2 p hreach⟩

/-- Both exchanges read the value before either of them deletes the key. -/
theorem exchanged_twice : ∃ p : Pool AuthDb (Redemption GoogleSession),
    Reach (exchanges "code-1").Step (fun _ _ ↦ True) (fun p ↦ p.threads = []) p ∧
      p.threads.countP returnsTokens = 2 := by
  have hrun : ((exchanges "code-1").play (fun _ _ _ ↦ true)
      [(0, sampleEnv 1 "2"), (1, sampleEnv 1 "3"), (0, sampleEnv 2 "4"), (1, sampleEnv 2 "5")]
      ⟨exchangeDb, twoExchanges⟩).any (fun p ↦ p.threads.countP returnsTokens == 2) = true := by
    decide +kernel
  obtain ⟨p, hp, htest⟩ := (Option.any_eq_true ..).mp hrun
  exact ⟨p, reach_exchanges (fun _ _ ↦ trivial) (fun _ _ _ _ ↦ trivial) hp, beq_iff_eq.mp htest⟩

end Sample

end Innovents.Auth
