import Innovents.Auth.OneTimeCodes
import Innovents.Lib.Requests

namespace Innovents.Auth

open Innovents.Lib Innovents.Payments

namespace TokenService

open OAuthService

/-- The calls that use Redis. -/
inductive RedisCall
  | revokeAllUserSessions (userId : String)
  | revokeRefreshToken (rawRefreshToken : String)
  | handleGoogleCallback (code state : String)
  | createOAuthExchangeCode (data : GoogleSession)
  | exchangeOAuthCode (code : String)

/-- What a call answers does not matter here. -/
def RedisCall.run (rt : Runtime) (google : Google) : RedisCall → AuthCall Unit
  | revokeAllUserSessions userId => TokenService.revokeAllUserSessions rt userId
  | revokeRefreshToken rawRefreshToken => TokenService.revokeRefreshToken rt rawRefreshToken
  | handleGoogleCallback code state => do
    let _ ← OAuthService.handleGoogleCallback rt google code state
  | createOAuthExchangeCode data => do
    let _ ← OAuthService.createOAuthExchangeCode rt data
  | exchangeOAuthCode code => do
    let _ ← OAuthService.exchangeOAuthCode code

/-- The calls in any order, and a clock that does not go back. All others leave the blacklist as it
is. -/
def redisCalls (rt : Runtime) (google : Google) :
    Machine (Time × AuthDb) (AuthCall Unit) AuthEnv where
  start call := ∃ op : RedisCall, call = op.run rt google
  step env s call :=
    if s.1 ≤ env.now then (call.step env s.2).map fun q ↦ ((env.now, q.1), q.2) else none
  world s s' := s.1 ≤ s'.1 ∧
    ∀ jti, ∀ e ∈ s.2.redis, e.key = getAccessBlacklistKey jti → e ∈ s'.2.redis

/-- A duration of digits and one of four units, in seconds. -/
def durationOf (text : String) : Option ℕ :=
  let digits := text.toList.dropLast
  let amount := digits.foldl (fun n c ↦ 10 * n + (c.toNat - '0'.toNat)) 0
  if digits ≠ [] ∧ digits.all Char.isDigit then
    match text.toList.getLast? with
    | some 's' => some amount
    | some 'm' => some (amount * 60)
    | some 'h' => some (amount * 60 * 60)
    | some 'd' => some (amount * 24 * 60 * 60)
    | _ => none
  else none

/-- A duration of this form is signed as what it says, if it is accepted. -/
def SignsDurations (rt : Runtime) : Prop :=
  ∀ text seconds, durationOf (rt.trim text) = some seconds →
    rt.lifetime text = seconds ∨ rt.lifetime text = 0

/-- Redis answers, and nothing fails. -/
def Available (env : AuthEnv) : Prop := env.redisConnected = true ∧ env.fault = none

/-- Whatever else goes on, a token whose key is put on the blacklist before it expires is revoked
until it does. -/
def Outlives (rt : Runtime) (google : Google) : Prop :=
  ∀ payload issued jtis p₀ db clock p env r db', payload.jti ∈ jtis →
    Reach (redisCalls rt google).Step (fun _ _ ↦ True) (fun p ↦ p.threads = []) p₀ →
    Call.Ran (fun env ↦ Available env ∧ p₀.shared.1 ≤ env.now ∧ issued ≤ env.now ∧
        env.now < (sign rt payload issued).exp ∧ env.now ≤ clock)
      (blacklistAccessTokenJtis rt jtis) p₀.shared.2 (.ok ()) db →
    Reach (redisCalls rt google).Step (fun _ _ ↦ True) (fun p ↦ p = ⟨(clock, db), p₀.threads⟩) p →
    Available env → p.shared.1 ≤ env.now → env.now < (sign rt payload issued).exp →
    Call.Ran (fun env' ↦ env' = env) (isAccessTokenRevoked payload.jti) p.shared.2 r db' →
    r = .ok true

/-- The key is on the blacklist since `t` or later. -/
def Listed (rt : Runtime) (jti : String) (t : Time) (db : AuthDb) : Prop :=
  ∃ e ∈ db.redis, e.key = getAccessBlacklistKey jti ∧
    ∀ x ∈ e.expiresAt, t + getAccessTokenTtlSeconds rt * 1000 ≤ x

/-- What is on the blacklist stays there at least as long. -/
def Renews (rt : Runtime) (env : AuthEnv) (db db' : AuthDb) : Prop :=
  ∀ jti t, t ≤ env.now → Listed rt jti t db → Listed rt jti t db'

abbrev Renewing {α : Type} (rt : Runtime) (call : AuthCall α) : Prop :=
  ∀ history, call.Traces (fun _ _ env db db' ↦ Renews rt env db db') (fun _ _ ↦ True) history

section Durations

variable {rt : Runtime}

theorem ttl_eq : getAccessTokenTtlSeconds rt = (durationOf (rt.trim rt.accessExpiresIn)).getD 900 := by
  unfold getAccessTokenTtlSeconds durationOf
  dsimp only
  generalize (rt.trim rt.accessExpiresIn).toList.getLast? = unit
  split_ifs
  · split <;> first | rfl | (split <;> simp_all)
  · rfl

end Durations

section Keys

variable {rt : Runtime} {jti key : String} {db : AuthDb} {now t : Time}

theorem listed_lookup (h : Listed rt jti t db)
    (hnow : now < t + getAccessTokenTtlSeconds rt * 1000) :
    (db.lookup (getAccessBlacklistKey jti) now).isSome = true := by
  obtain ⟨e, he, hkey, hexpires⟩ := h
  rw [AuthDb.lookup, Option.isSome_map, List.find?_isSome]
  refine ⟨e, he, ?_⟩
  rw [hkey, beq_self_eq_true, Bool.true_and, Option.all_eq_true]
  exact fun x hx ↦ decide_eq_true (lt_of_lt_of_le hnow (hexpires x hx))

theorem head_key {start rest : String} {c : Char} (h : start.toList.head? = some c) :
    (start ++ rest).toList.head? = some c := by
  rw [String.toList_append, List.head?_append, h]
  rfl

/-- The keys of the sign-in with Google are no keys of the blacklist. -/
theorem blacklistKey_ne {start rest : String} (h : start.toList.head? = some 'o') :
    getAccessBlacklistKey jti ≠ start ++ rest := by
  intro he
  have hhead : ("auth:access:blacklist:" ++ jti).toList.head? = some 'a' := head_key (by decide)
  have he : "auth:access:blacklist:" ++ jti = start ++ rest := he
  rw [he, head_key h] at hhead
  exact absurd (Option.some.inj hhead) (by decide)

end Keys

section Calls

variable {rt : Runtime} {α β : Type} {jti key : String} {db db' : AuthDb} {env : AuthEnv}

theorem renews_same (h : db'.redis = db.redis) : Renews rt env db db' := fun _ _ _ hlisted ↦ by
  rwa [Listed, h]

theorem renewing_bind {c : AuthCall α} {f : α → AuthCall β} (hc : Renewing rt c)
    (hf : ∀ a, Renewing rt (f a)) : Renewing rt (c.bind f) := fun history ↦
  Call.traces_bind ((hc history).mono fun history a _ ↦ hf a history)

theorem renewing_each {c : AuthCall α} (hc : c.Each fun _ db db' ↦ db'.redis = db.redis) :
    Renewing rt c := fun _ ↦
  (Call.traces_each hc fun _ _ _ _ _ h ↦ renews_same h)

theorem renewing_attempt {c : AuthCall α} (hc : Renewing rt c) : Renewing rt c.attempt :=
  fun history ↦ Call.traces_attempt (hc history) fun _ _ ↦ trivial

theorem renewing_returned {x : Except AuthError α} : Renewing rt (.returned x) := fun _ ↦ by
  cases x <;> trivial

/-- A write to another key. -/
theorem renews_others {entries : List RedisEntry} (hkey : ∀ jti, getAccessBlacklistKey jti ≠ key)
    (h : ∀ e ∈ db.redis, e.key ≠ key → e ∈ entries) :
    Renews rt env db { db with redis := entries } := by
  rintro jti t - ⟨e, he, hjti, hexpires⟩
  exact ⟨e, h e he fun hother ↦ hkey jti (hjti.symm.trans hother), hjti, hexpires⟩

theorem renewing_write {name : String} {f : AuthEnv → List RedisEntry → List RedisEntry}
    (h : ∀ env db, Renews rt env db { db with redis := f env db.redis }) :
    Renewing rt (RedisService.write name f) := by
  refine fun history ↦ Call.traces_perform (fun _ _ ↦ renews_same rfl) fun env db db' a hwritten ↦ ⟨?_, trivial⟩
  cases hfault : env.fault with
  | some message =>
    rw [hfault] at hwritten
    cases hwritten
  | none =>
    rw [hfault, Option.elim_none] at hwritten
    dsimp only at hwritten
    split_ifs at hwritten
    · cases hwritten
      exact h env db
    · cases hwritten
      exact renews_same rfl

/-- A key is put on the blacklist, perhaps once more. -/
theorem blacklist_renews : Renewing rt
    (RedisService.set (getAccessBlacklistKey jti) (.text "1") (getAccessTokenTtlSeconds rt)) := by
  refine renewing_write fun env db jti' t ht ⟨e, he, hkey, hexpires⟩ ↦ ?_
  by_cases hsame : e.key = getAccessBlacklistKey jti
  · refine ⟨_, List.mem_cons_self, hsame.symm.trans hkey, fun x hx ↦ ?_⟩
    dsimp only at hx
    split_ifs at hx
    · cases hx
    · cases hx
      exact Int.add_le_add_right ht _
  · exact ⟨e, List.mem_cons_of_mem _ (List.mem_filter.mpr ⟨he, by simpa using hsame⟩), hkey, hexpires⟩

theorem renewing_set {value : RedisValue} {ttlSeconds : ℕ}
    (hkey : ∀ jti, getAccessBlacklistKey jti ≠ key) :
    Renewing rt (RedisService.set key value ttlSeconds) :=
  renewing_write fun _ _ ↦ renews_others hkey fun _ he hother ↦
    List.mem_cons_of_mem _ (List.mem_filter.mpr ⟨he, by simpa using hother⟩)

theorem renewing_del (hkey : ∀ jti, getAccessBlacklistKey jti ≠ key) :
    Renewing rt (RedisService.del key) :=
  renewing_write fun _ _ ↦ renews_others hkey fun _ he hother ↦
    List.mem_filter.mpr ⟨he, by simpa using hother⟩

theorem renewing_finds {name : String} {f : AuthEnv → AuthDb → α} :
    Renewing rt (finds name f) := renewing_each (each_finds fun _ ↦ rfl)

variable {google : Google}

theorem blacklistAccessTokenJtis_renews (jtis : List String) :
    Renewing rt (blacklistAccessTokenJtis rt jtis) := by
  induction jtis with
  | nil => exact renewing_returned
  | cons jti jtis ih =>
    refine renewing_bind (renewing_attempt blacklist_renews) fun first ↦ ?_
    exact renewing_bind ih fun _ ↦ renewing_returned

theorem revokeWhere_renews {p : RefreshToken → Bool} : Renewing rt (revokeWhere p) := by
  refine renewing_each (each_stores (fun _ ↦ rfl) fun env db db' a h ↦ ?_)
  obtain ⟨t, -, h⟩ := andThen_eq_ok.mp h
  cases h
  rfl

theorem redeem_renews {start rest message : String} (hstart : start.toList.head? = some 'o') :
    Renewing rt (redeem (start ++ rest) message) := by
  refine renewing_bind renewing_finds fun value ↦ ?_
  cases value with
  | none => exact renewing_returned
  | some value =>
    exact renewing_bind (renewing_del fun _ ↦ blacklistKey_ne hstart) fun _ ↦ renewing_returned

theorem continueCallback_renews {code : String} {storedState : RedisValue} :
    Renewing rt (continueCallback rt google code storedState) := by
  unfold continueCallback
  split
  · exact renewing_returned
  · split_ifs
    · exact renewing_returned
    · refine renewing_bind (renewing_each (noRedis_fetchProfile.mono fun _ _ _ h ↦ h.2.2)) fun _ ↦ ?_
      exact renewing_each (signIn_writes.mono fun _ _ _ h ↦ h.2.redis)

/-- No call shortens the stay of a key on the blacklist. -/
theorem run_renews (op : RedisCall) : Renewing rt (op.run rt google) := by
  cases op with
  | revokeAllUserSessions userId =>
    refine renewing_bind renewing_finds fun userTokens ↦ renewing_bind revokeWhere_renews fun _ ↦ ?_
    exact blacklistAccessTokenJtis_renews userTokens
  | revokeRefreshToken rawRefreshToken =>
    refine renewing_bind renewing_finds fun found ↦ ?_
    cases found with
    | none => exact renewing_returned
    | some stored =>
      refine renewing_bind renewing_finds fun familyTokens ↦
        renewing_bind revokeWhere_renews fun _ ↦ ?_
      exact blacklistAccessTokenJtis_renews familyTokens
  | handleGoogleCallback code state =>
    refine renewing_bind ?_ fun _ ↦ renewing_returned
    unfold OAuthService.handleGoogleCallback
    split_ifs
    · exact renewing_returned
    · refine renewing_bind ?_ fun storedState ↦ continueCallback_renews
      exact redeem_renews (by decide)
  | createOAuthExchangeCode data =>
    refine renewing_bind (renewing_bind renewing_finds fun exchangeCode ↦ ?_) fun _ ↦ renewing_returned
    refine renewing_bind (renewing_set fun jti ↦ ?_) fun _ ↦ renewing_returned
    exact blacklistKey_ne (by decide)
  | exchangeOAuthCode code =>
    refine renewing_bind ?_ fun _ ↦ renewing_returned
    unfold OAuthService.exchangeOAuthCode
    split_ifs
    · exact renewing_returned
    · refine renewing_bind ?_ fun stored ↦ renewing_returned
      exact redeem_renews (by decide)

end Calls

section Runs

variable {rt : Runtime} {google : Google} {jti : String} {issued clock : Time} {db db' : AuthDb}
  {p : Pool (Time × AuthDb) (AuthCall Unit)} {threads : List (AuthCall Unit)} {env : AuthEnv}

/-- What is left of a call that renews. -/
def Renewer (rt : Runtime) (call : AuthCall Unit) : Prop :=
  ∃ history, call.Traces (fun _ _ env db db' ↦ Renews rt env db db') (fun _ _ ↦ True) history

theorem Renewer.step {call call' : AuthCall Unit} (h : Renewer rt call)
    (hs : call.step env db = some (db', call')) : Renews rt env db db' ∧ Renewer rt call' := by
  obtain ⟨history, htraces⟩ := h
  cases call with
  | returned r => cases hs
  | request label effect next =>
    cases hs
    exact ⟨(htraces env db).1, _, (htraces env db).2⟩

theorem redisCalls_step {s s' : Time × AuthDb} {call call' : AuthCall Unit}
    (h : (redisCalls rt google).step env s call = some (s', call')) :
    s.1 ≤ env.now ∧ s'.1 = env.now ∧ call.step env s.2 = some (s'.2, call') := by
  dsimp only [redisCalls] at h
  split_ifs at h with hclock
  obtain ⟨q, hq, hs⟩ := Option.map_eq_some_iff.mp h
  cases hs
  exact ⟨hclock, rfl, hq⟩

theorem threads_renew (h : Reach (redisCalls rt google).Step (fun _ _ ↦ True)
    (fun p ↦ p.threads = []) p) : ∀ call ∈ p.threads, Renewer rt call := by
  refine (Machine.outline (J := fun _ ↦ True) (A := fun _ ↦ Renewer rt) ?_ ?_ ?_ ?_ h).2
  · intro p hp
    exact ⟨trivial, by simp [hp]⟩
  · rintro s call - ⟨op, rfl⟩
    exact ⟨[], run_renews op []⟩
  · intro p i env call s' call' _ hcall _ _ hs
    exact ⟨trivial, (hcall.step (redisCalls_step hs).2.2).2, fun _ hu ↦ hu⟩
  · exact fun _ _ _ _ ↦ ⟨trivial, fun _ hu ↦ hu⟩

/-- Whatever comes later, the key stays on the blacklist. -/
theorem stays_listed (h : Reach (redisCalls rt google).Step (fun _ _ ↦ True)
      (fun p ↦ p = ⟨(clock, db), threads⟩) p) (hthreads : ∀ call ∈ threads, Renewer rt call)
    (hclock : issued ≤ clock) (hlisted : Listed rt jti issued db) :
    Listed rt jti issued p.shared.2 := by
  refine (Machine.outline (J := fun s ↦ issued ≤ s.1 ∧ Listed rt jti issued s.2)
    (A := fun _ ↦ Renewer rt) ?_ ?_ ?_ ?_ h).1.2
  · rintro p rfl
    exact ⟨⟨hclock, hlisted⟩, hthreads⟩
  · rintro s call - ⟨op, rfl⟩
    exact ⟨[], run_renews op []⟩
  · intro p i env call s' call' hJ hcall _ _ hs
    obtain ⟨hnow, hs', hstep⟩ := redisCalls_step hs
    obtain ⟨hrenews, hcall'⟩ := hcall.step hstep
    refine ⟨⟨?_, hrenews jti issued (hJ.1.trans hnow) hJ.2⟩, hcall', fun _ hu ↦ hu⟩
    rw [hs']
    exact hJ.1.trans hnow
  · rintro s s' ⟨hissued, e, he, hkey, hexpires⟩ ⟨hclock, hkept⟩
    exact ⟨⟨hissued.trans hclock, e, hkept jti e he hkey, hkey, hexpires⟩, fun _ hu ↦ hu⟩

theorem set_lists {ok : AuthEnv → Prop} {r : Except AuthError Unit}
    (hok : ∀ env, ok env → Available env ∧ issued ≤ env.now)
    (h : Call.Ran ok (RedisService.set (getAccessBlacklistKey jti) (.text "1")
      (getAccessTokenTtlSeconds rt)) db r db') : Listed rt jti issued db' := by
  obtain ⟨env, henv, -, rfl⟩ := Call.ran_perform.mp h
  obtain ⟨⟨hconnected, hfault⟩, hnow⟩ := hok env henv
  rw [hfault, Option.elim_none]
  dsimp only
  rw [if_pos hconnected]
  refine ⟨_, List.mem_cons_self, rfl, fun x hx ↦ ?_⟩
  dsimp only at hx
  split_ifs at hx
  · cases hx
  · cases hx
    exact Int.add_le_add_right hnow _

/-- A key that is put on the blacklist is on it. -/
theorem blacklist_lists {jtis : List String} {ok : AuthEnv → Prop}
    (hok : ∀ env, ok env → Available env ∧ issued ≤ env.now)
    (h : Call.Ran ok (blacklistAccessTokenJtis rt jtis) db (.ok ()) db') (hjti : jti ∈ jtis) :
    Listed rt jti issued db' := by
  induction jtis generalizing db with
  | nil => cases hjti
  | cons first jtis ih =>
    obtain ⟨r, db₁, hset, hrest⟩ := Call.ran_bind_ok.mp h
    obtain ⟨_, db₂, hblacklist, hreturned⟩ := Call.ran_bind_ok.mp hrest
    obtain ⟨-, rfl⟩ := Call.ran_returned_ok.mp hreturned
    rcases List.mem_cons.mp hjti with rfl | hjti
    · obtain ⟨_, hset, -⟩ := Call.ran_attempt.mp hset
      have hlisted := set_lists hok hset
      refine (blacklistAccessTokenJtis_renews jtis []).ran hblacklist rfl hlisted ?_
      exact fun _ _ e _ _ _ he hrenews hs ↦ hrenews jti issued (hok e he).2 hs
    · exact ih hblacklist hjti

/-- The run takes place before `clock`. -/
theorem blacklist_clock {jtis : List String} {ok : AuthEnv → Prop} {r : Except AuthError Unit}
    (hjti : jti ∈ jtis) (h : Call.Ran ok (blacklistAccessTokenJtis rt jtis) db r db')
    (hok : ∀ env, ok env → issued ≤ clock) : issued ≤ clock := by
  cases jtis with
  | nil => cases hjti
  | cons first jtis =>
    obtain ⟨env, henv, -⟩ := Call.ran_request.mp h
    exact hok env henv

theorem revoked_iff {r : Except AuthError Bool} (hav : Available env)
    (h : Call.Ran (fun env' ↦ env' = env) (isAccessTokenRevoked jti) db r db') :
    r = .ok (db.lookup (getAccessBlacklistKey jti) env.now).isSome := by
  obtain ⟨_, rfl, rfl, rfl⟩ := Call.ran_ask.mp h
  rw [hav.2, Option.elim_none]
  dsimp only
  rw [hav.1, Bool.true_and]

theorem outlives_of_le (h : rt.lifetime rt.accessExpiresIn ≤ getAccessTokenTtlSeconds rt) :
    Outlives rt google := by
  intro payload issued jtis p₀ db clock p env r db' hjti hp₀ hblacklist hp hav hclock hexp hrun
  have hlisted : Listed rt payload.jti issued db :=
    blacklist_lists (fun _ henv ↦ ⟨henv.1, henv.2.2.1⟩) hblacklist hjti
  have hissued : issued ≤ clock := blacklist_clock hjti hblacklist fun _ henv ↦
    henv.2.2.1.trans henv.2.2.2.2
  have hkept := stays_listed hp (threads_renew hp₀) hissued hlisted
  rw [revoked_iff hav hrun, listed_lookup hkept]
  have hle : (rt.lifetime rt.accessExpiresIn : ℤ) ≤ getAccessTokenTtlSeconds rt := by
    exact_mod_cast h
  refine lt_of_lt_of_le hexp ?_
  show issued + _ * 1000 ≤ issued + _ * 1000
  linarith

/-- The fallback is too short for a longer lifetime. -/
theorem not_outlives (hnone : durationOf (rt.trim rt.accessExpiresIn) = none)
    (hlong : 900 < rt.lifetime rt.accessExpiresIn) : ¬Outlives rt google := by
  intro h
  have httl : getAccessTokenTtlSeconds rt = 900 := by rw [ttl_eq, hnone, Option.getD_none]
  let payload : JwtPayload := ⟨"user-1", "user@example.com", [], [], "jti-1"⟩
  let at' (now : Time) : AuthEnv := { (default : AuthEnv) with
    now
    fault := none
    redisConnected := true }
  let db : AuthDb := { AuthDb.empty with
    redis := [⟨getAccessBlacklistKey "jti-1", .text "1", some (0 + (900 : ℕ) * 1000)⟩] }
  have hlife : (900 : ℤ) < rt.lifetime rt.accessExpiresIn := by exact_mod_cast hlong
  have hblacklist : Call.Ran (fun env ↦ Available env ∧ 0 ≤ env.now ∧ 0 ≤ env.now ∧
      env.now < (sign rt payload 0).exp ∧ env.now ≤ 0)
      (blacklistAccessTokenJtis rt ["jti-1"]) AuthDb.empty (.ok ()) db := by
    refine .request (e := at' 0) ⟨⟨rfl, rfl⟩, le_rfl, le_rfl, ?_, le_rfl⟩ ?_
    · show (0 : ℤ) < 0 + _ * 1000
      linarith
    · rw [httl]
      exact .returned
  have hrun : Call.Ran (fun env' ↦ env' = at' 900000) (isAccessTokenRevoked "jti-1") db
      (.ok false) db := .request rfl .returned
  have hrevoked := h payload 0 ["jti-1"] ⟨(0, .empty), []⟩ db 0 ⟨(0, db), []⟩ (at' 900000) _ _
    List.mem_cons_self (.start rfl) hblacklist (.start rfl) ⟨rfl, rfl⟩ (by decide) ?_ hrun
  · cases hrevoked
  · show (900000 : ℤ) < 0 + _ * 1000
    linarith

/-- The blacklist outlives the tokens just where their lifetime has the form that the service reads,
or is no longer than the 15 minutes that it takes for all others. -/
theorem outlives_iff (hsigns : SignsDurations rt) (hpos : 0 < rt.lifetime rt.accessExpiresIn) :
    Outlives rt google ↔ (durationOf (rt.trim rt.accessExpiresIn)).isSome = true ∨
      rt.lifetime rt.accessExpiresIn ≤ 900 := by
  cases hduration : durationOf (rt.trim rt.accessExpiresIn) with
  | some seconds =>
    refine iff_of_true (outlives_of_le ?_) (.inl rfl)
    rw [ttl_eq, hduration, Option.getD_some]
    have hsigned := hsigns _ _ hduration
    omega
  | none =>
    by_cases hlong : 900 < rt.lifetime rt.accessExpiresIn
    · refine iff_of_false (not_outlives hduration hlong) ?_
      rintro (hsome | hle)
      · cases hsome
      · omega
    · refine iff_of_true (outlives_of_le ?_) (.inr (by omega))
      rw [ttl_eq, hduration, Option.getD_none]
      omega

end Runs

section Sample

/-- A service with this lifetime of its tokens. A week is a duration that is signed, too. -/
def runtimeWith (accessExpiresIn : String) : Runtime :=
  { sampleRuntime with
    accessExpiresIn
    lifetime text := (durationOf (sampleRuntime.trim text)).getD (if text = "1w" then 604800 else 0) }

def noGoogle : Google := ⟨false, fun _ _ _ ↦ none, fun _ _ ↦ none⟩

theorem runtimeWith_signs (accessExpiresIn : String) : SignsDurations (runtimeWith accessExpiresIn) := by
  intro text seconds h
  left
  show (durationOf (sampleRuntime.trim text)).getD _ = seconds
  rw [show durationOf (sampleRuntime.trim text) = some seconds from h, Option.getD_some]

theorem quarter_outlived : Outlives (runtimeWith "15m") noGoogle :=
  (outlives_iff (runtimeWith_signs "15m") (by decide +kernel)).mpr (.inl (by decide +kernel))

/-- Tokens that live for a week are signed, and the blacklist forgets them after 15 minutes. -/
theorem week_not_outlived : SignsDurations (runtimeWith "1w") ∧
    (runtimeWith "1w").lifetime (runtimeWith "1w").accessExpiresIn = 604800 ∧
    ¬Outlives (runtimeWith "1w") noGoogle :=
  ⟨runtimeWith_signs "1w", by decide +kernel, not_outlives (by decide +kernel) (by decide +kernel)⟩

end Sample

end TokenService

end Innovents.Auth
