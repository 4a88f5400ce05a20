import Innovents.Auth.OtpService
import Innovents.Auth.Statements

namespace Innovents.Auth

open Innovents.Lib Innovents.Payments OtpService

inductive OtpCall
  | createChallenge (identifier : String) (purpose : OtpPurpose) (userId : Option String)
  | verifyChallenge (identifier code : String) (purpose : OtpPurpose) (client : Client)

/-- A successful request of a code. -/
structure Creation where
  identifier : String
  purpose : OtpPurpose
  time : Time

/-- The tables and the clock after the calls so far, with the codes that they have created, the
last one first. -/
structure OtpRun where
  db : AuthDb
  clock : Time
  created : List Creation

def At (now : Time) (env : AuthEnv) : Prop := env.now = now

/-- A call takes place at one time, which is not before the calls so far. -/
inductive OtpStep (rt : Runtime) : OtpRun → OtpCall × Time → OtpRun → Prop
  | creates {s : OtpRun} {identifier : String} {purpose : OtpPurpose} {userId : Option String}
      {now : Time} {result : GeneratedOtpResult} {db : AuthDb} : s.clock ≤ now →
      Call.Ran (At now) (createChallenge rt identifier purpose userId) s.db (.ok result) db →
      OtpStep rt s (.createChallenge identifier purpose userId, now)
        ⟨db, now, ⟨rt.normalize identifier, purpose, now⟩ :: s.created⟩
  | refuses {s : OtpRun} {identifier : String} {purpose : OtpPurpose} {userId : Option String}
      {now : Time} {x : AuthError} {db : AuthDb} : s.clock ≤ now →
      Call.Ran (At now) (createChallenge rt identifier purpose userId) s.db (.error x) db →
      OtpStep rt s (.createChallenge identifier purpose userId, now) ⟨db, now, s.created⟩
  | verifies {s : OtpRun} {identifier code : String} {purpose : OtpPurpose} {client : Client}
      {now : Time} {r : Except AuthError Bool} {db : AuthDb} : s.clock ≤ now →
      Call.Ran (At now) (verifyChallenge rt identifier code purpose client) s.db r db →
      OtpStep rt s (.verifyChallenge identifier code purpose client, now) ⟨db, now, s.created⟩

/-- The verification uses the challenge up: the code is the right one, or too late, or one too
many. -/
def UsesUp (rt : Runtime) (code : String) (now : Time) (c : OtpChallenge) : Prop :=
  c.expiresAt < now ∨ c.maxAttempts ≤ c.attempts ∨ c.codeHash = rt.sha256 (rt.trim code)

/-- No challenge is used up before its cooldown is over. -/
def HeedsCooldown (rt : Runtime) (s : OtpRun) : OtpCall × Time → Prop
  | (.createChallenge _ _ _, _) => True
  | (.verifyChallenge identifier code purpose _, now) => ∀ c,
    latest (rt.normalize identifier) purpose s.db = some c → UsesUp rt code now c →
      c.resendAfter ≤ now

def Spaced (rt : Runtime) (later earlier : Creation) : Prop :=
  later.identifier = earlier.identifier → later.purpose = earlier.purpose →
    earlier.time + rt.otpCooldownSeconds * 1000 ≤ later.time

/-- There is an unconsumed challenge, and every one asks to wait until `time`. -/
structure Waits (identifier : String) (purpose : OtpPurpose) (time : Time) (t : Table OtpChallenge) :
    Prop where
  there : ∃ c ∈ t.rows, isActive identifier purpose c = true
  longEnough : ∀ c ∈ t.rows, isActive identifier purpose c = true → time ≤ c.resendAfter

/-- A code can be requested: no challenge asks to wait. -/
def Free (identifier : String) (purpose : OtpPurpose) (now : Time) (db : AuthDb) : Prop :=
  ∀ c, latest identifier purpose db = some c → c.resendAfter ≤ now

/-- What a request of a code leaves behind. -/
inductive Requested (rt : Runtime) (identifier : String) (purpose : OtpPurpose) (now : Time)
    (db : AuthDb) : Except AuthError GeneratedOtpResult → AuthDb → Prop
  | refused {x : AuthError} {db' : AuthDb} : db'.otpChallenges = db.otpChallenges →
      Requested rt identifier purpose now db (.error x) db'
  | cleared {x : AuthError} {db' : AuthDb} : Free identifier purpose now db →
      db.otpChallenges.updateMany (isActive identifier purpose) (consume now) =
        .ok db'.otpChallenges → Requested rt identifier purpose now db (.error x) db'
  | created {result : GeneratedOtpResult} {db' : AuthDb} {t : Table OtpChallenge} {c : OtpChallenge} :
      Free identifier purpose now db →
      db.otpChallenges.updateMany (isActive identifier purpose) (consume now) = .ok t →
      t.create c = .ok db'.otpChallenges → isActive identifier purpose c = true →
      c.resendAfter = now + rt.otpCooldownSeconds * 1000 →
      Requested rt identifier purpose now db (.ok result) db'

/-- What a verification leaves behind. -/
inductive Verified (rt : Runtime) (identifier code : String) (purpose : OtpPurpose) (now : Time)
    (db db' : AuthDb) : Prop
  | same : db'.otpChallenges = db.otpChallenges → Verified rt identifier code purpose now db db'
  | counts (c : OtpChallenge) : latest identifier purpose db = some c →
      db.otpChallenges.update c.id (fun c ↦ { c with attempts := c.attempts + 1 }) =
        .ok db'.otpChallenges → Verified rt identifier code purpose now db db'
  | usesUp (c : OtpChallenge) : latest identifier purpose db = some c → UsesUp rt code now c →
      db.otpChallenges.update c.id (consume now) = .ok db'.otpChallenges →
      Verified rt identifier code purpose now db db'

section Calls

variable {rt : Runtime} {identifier code : String} {purpose : OtpPurpose} {now : Time}
  {db db' : AuthDb} {client : Client}

/-- The others may do anything but write challenges. -/
def SameChallenges (db db' : AuthDb) : Prop := db'.otpChallenges = db.otpChallenges

theorem latest_congr (h : SameChallenges db db') :
    latest identifier purpose db' = latest identifier purpose db := by rw [latest, latest, h]

theorem createChallenge_requested {userId : Option String} :
    (createChallenge rt identifier purpose userId).wp SameChallenges (fun _ ↦ At now)
      (Requested rt (rt.normalize identifier) purpose now db) db := by
  refine Call.wpg_bind (wpg_finds (fun _ ↦ trivial) (fun db₁ _ h₁ ↦ .refused h₁)
    fun db₁ env h₁ henv ↦ ?_)
  rw [latest_congr h₁, henv]
  dsimp only
  cases hrecent : (latest (rt.normalize identifier) purpose db).filter (now < ·.resendAfter) with
  | some recent => exact .refused h₁
  | none =>
    have hfree : Free (rt.normalize identifier) purpose now db := by
      intro c hc
      have hnot := Option.filter_eq_none_iff.mp hrecent c hc
      simpa using hnot
    refine Call.wpg_bind (wpg_stores (fun _ ↦ trivial) (fun db₂ _ h₂ ↦ .refused (h₂.trans h₁))
      (fun db₂ _ _ h₂ _ ↦ .refused (h₂.trans h₁)) fun db₂ env₂ db₃ a h₂ henv₂ hx ↦ ⟨trivial, ?_⟩)
    obtain ⟨t, ht, hx⟩ := andThen_eq_ok.mp hx
    cases hx
    rw [h₂, h₁, henv₂, ofRefusal_eq_ok] at ht
    have hcleared {db₄ : AuthDb} {x : AuthError} (h₄ : SameChallenges { db₂ with otpChallenges := t } db₄) :
        Requested rt (rt.normalize identifier) purpose now db (.error x) db₄ :=
      .cleared hfree (by rw [h₄]; exact ht)
    refine Call.wpg_bind (wpg_stores (fun _ ↦ trivial) (fun db₄ _ h₄ ↦ hcleared h₄)
      (fun db₄ _ _ h₄ _ ↦ hcleared h₄) fun db₄ env₄ db₅ a h₄ henv₄ hx ↦ ⟨trivial, ?_⟩)
    obtain ⟨t', ht', hx⟩ := andThen_eq_ok.mp hx
    cases hx
    rw [h₄, ofRefusal_eq_ok] at ht'
    refine Call.wpg_bind (wpg_log (fun _ _ ↦ trivial) fun db₆ logs h₆ ↦ ?_)
    refine .created (t := t) hfree ht (by rw [h₆]; exact ht') (by simp [isActive, newChallenge]) ?_
    rw [newChallenge, henv₄]

theorem Verified.later {db'' : AuthDb} (h : Verified rt identifier code purpose now db db')
    (hs : SameChallenges db' db'') : Verified rt identifier code purpose now db db'' := by
  cases h with
  | same hsame => exact .same (hs.trans hsame)
  | counts c hc ht => exact .counts c hc (by rw [hs]; exact ht)
  | usesUp c hc hused ht => exact .usesUp c hc hused (by rw [hs]; exact ht)

theorem updateChallenge_verified {c : OtpChallenge} {f : AuthEnv → OtpChallenge → OtpChallenge}
    {next : AuthCall Bool} {db₀ : AuthDb} (h₀ : SameChallenges db db₀)
    (hnext : next.Each fun _ ↦ SameChallenges)
    (hf : ∀ env db₁, At now env → db.otpChallenges.update c.id (f env) = .ok db₁.otpChallenges →
      Verified rt identifier code purpose now db db₁) :
    ((updateChallenge c.id f).bind fun _ ↦ next).wp SameChallenges (fun _ ↦ At now)
      (fun _ ↦ Verified rt identifier code purpose now db) db₀ := by
  refine Call.wpg_bind (wpg_stores (fun _ ↦ trivial) (fun db₁ _ h₁ ↦ .same (h₁.trans h₀))
    (fun db₁ _ _ h₁ _ ↦ .same (h₁.trans h₀)) fun db₁ env db₂ a h₁ henv hx ↦ ⟨trivial, ?_⟩)
  obtain ⟨t, ht, hx⟩ := andThen_eq_ok.mp hx
  cases hx
  rw [h₁, h₀, ofRefusal_eq_ok] at ht
  exact Call.wp_keeps hnext (fun _ _ h h' ↦ h.later h') (hf env _ henv ht)

theorem verifyChallenge_verified :
    (verifyChallenge rt identifier code purpose client).wp SameChallenges (fun _ ↦ At now)
      (fun _ ↦ Verified rt (rt.normalize identifier) code purpose now db) db := by
  have hlog {params : CreateAuditLogParams} {next : AuthCall Bool}
      (hnext : next.Each fun _ ↦ SameChallenges) :
      ((AuditService.log params client).bind fun _ ↦ next).Each fun _ ↦ SameChallenges :=
    Call.each_bind (each_log fun _ _ ↦ rfl) fun _ ↦ hnext
  refine Call.wpg_bind (wpg_finds (fun _ ↦ trivial) (fun db₁ _ h₁ ↦ .same h₁)
    fun db₁ env h₁ henv ↦ ?_)
  rw [latest_congr h₁, henv]
  dsimp only
  cases hc : latest (rt.normalize identifier) purpose db with
  | none => exact .same h₁
  | some c =>
    dsimp only [checkChallenge]
    split_ifs with hexpired hlocked hwrong
    · exact updateChallenge_verified h₁ trivial fun env₁ db₂ henv₁ ht ↦
        .usesUp c hc (.inl hexpired) (henv₁ ▸ ht)
    · exact updateChallenge_verified h₁ (hlog trivial) fun env₁ db₂ henv₁ ht ↦
        .usesUp c hc (.inr (.inl hlocked)) (henv₁ ▸ ht)
    · exact updateChallenge_verified h₁ (hlog trivial) fun env₁ db₂ _ ht ↦ .counts c hc ht
    · exact updateChallenge_verified h₁ (hlog trivial) fun env₁ db₂ henv₁ ht ↦
        .usesUp c hc (.inr (.inr (not_not.mp hwrong))) (henv₁ ▸ ht)

end Calls

section Runs

variable {rt : Runtime} {identifier code : String} {purpose : OtpPurpose} {now time : Time}
  {db db' : AuthDb} {t t' : Table OtpChallenge} {r : Except AuthError GeneratedOtpResult}

theorem isActive_iff {c : OtpChallenge} : isActive identifier purpose c = true ↔
    c.identifier = identifier ∧ c.purpose = purpose ∧ c.consumedAt = none := by
  simp [isActive, and_assoc]

theorem Waits.map {g : OtpChallenge → OtpChallenge} (h : Waits identifier purpose time t)
    (hrows : t'.rows = t.rows.map g) (hg : ∀ c ∈ t.rows,
      isActive identifier purpose (g c) = isActive identifier purpose c ∧
        (g c).resendAfter = c.resendAfter) : Waits identifier purpose time t' := by
  obtain ⟨⟨c, hc, hactive⟩, hlong⟩ := h
  refine ⟨⟨g c, hrows ▸ List.mem_map_of_mem hc, by rw [(hg c hc).1, hactive]⟩, fun a ha hactive ↦ ?_⟩
  rw [hrows] at ha
  obtain ⟨b, hb, rfl⟩ := List.mem_map.mp ha
  rw [(hg b hb).2]
  exact hlong b hb (by rw [← (hg b hb).1, hactive])

/-- A challenge that asks to wait stands in the way of the next one. -/
theorem Waits.not_free (h : Waits identifier purpose time db.otpChallenges) (hnow : now < time) :
    ¬Free identifier purpose now db := by
  intro hfree
  obtain ⟨⟨c, hc, hactive⟩, hlong⟩ := h
  obtain ⟨recent, hrecent⟩ := exists_latest hc hactive
  obtain ⟨hmem, hactive⟩ := latest_mem hrecent
  have hwait := hlong recent hmem hactive
  exact absurd hnow (not_lt.mpr (hwait.trans (hfree recent hrecent)))

/-- Consuming the challenges of one key leaves those of another one as they are. -/
theorem Waits.consume {identifier' : String} {purpose' : OtpPurpose}
    (h : Waits identifier purpose time t) (hother : ¬(identifier' = identifier ∧ purpose' = purpose))
    (ht : t.updateMany (isActive identifier' purpose') (OtpService.consume now) = .ok t') :
    Waits identifier purpose time t' := by
  refine h.map (Table.store_eq_ok.mp ht) fun c _ ↦ ?_
  split_ifs with hactive
  · obtain ⟨rfl, rfl, -⟩ := isActive_iff.mp hactive
    have hnot : isActive identifier purpose c = false := by
      rw [← Bool.not_eq_true]
      intro h
      obtain ⟨rfl, rfl, -⟩ := isActive_iff.mp h
      exact hother ⟨rfl, rfl⟩
    exact ⟨by rw [hnot]; simp [isActive, OtpService.consume], rfl⟩
  · exact ⟨rfl, rfl⟩

theorem Requested.waits {identifier' : String} {purpose' : OtpPurpose}
    (h : Requested rt identifier' purpose' now db r db')
    (hw : Waits identifier purpose time db.otpChallenges) (hnow : now < time) :
    Waits identifier purpose time db'.otpChallenges := by
  have hother (hfree : Free identifier' purpose' now db) :
      ¬(identifier' = identifier ∧ purpose' = purpose) := by
    rintro ⟨rfl, rfl⟩
    exact hw.not_free hnow hfree
  cases h with
  | refused hsame => rwa [hsame]
  | cleared hfree ht => exact hw.consume (hother hfree) ht
  | @created _ _ t c hfree ht hcreate hactive _ =>
    have hrows := Table.create_eq_ok.mp hcreate
    obtain ⟨⟨a, ha, haactive⟩, hlong⟩ := hw.consume (hother hfree) ht
    refine ⟨⟨a, by rw [hrows]; exact List.mem_append_left _ ha, haactive⟩, fun b hb hbactive ↦ ?_⟩
    rw [hrows] at hb
    rcases List.mem_append.mp hb with hb | hb
    · exact hlong b hb hbactive
    · rw [List.mem_singleton.mp hb] at hbactive
      obtain ⟨rfl, rfl, -⟩ := isActive_iff.mp hactive
      obtain ⟨hidentifier, hpurpose, -⟩ := isActive_iff.mp hbactive
      exact absurd ⟨hidentifier, hpurpose⟩ (hother hfree)

theorem Verified.waits {identifier' : String} {purpose' : OtpPurpose}
    (h : Verified rt identifier' code purpose' now db db')
    (hheeds : ∀ c, latest identifier' purpose' db = some c → UsesUp rt code now c →
      c.resendAfter ≤ now)
    (hw : Waits identifier purpose time db.otpChallenges) (hnow : now < time) :
    Waits identifier purpose time db'.otpChallenges := by
  cases h with
  | same hsame => rwa [hsame]
  | counts c hc ht =>
    refine hw.map (Table.update_eq_ok.mp ht).2 fun a _ ↦ ?_
    split_ifs
    · exact ⟨rfl, rfl⟩
    · exact ⟨rfl, rfl⟩
  | usesUp c hc hused ht =>
    obtain ⟨hmem, hactive⟩ := latest_mem hc
    refine hw.map (Table.update_eq_ok.mp ht).2 fun a ha ↦ ?_
    split_ifs with hid
    · have heq := db.otpChallenges.eq_of_id ha hmem hid
      subst heq
      have hnot : isActive identifier purpose a = false := by
        rw [← Bool.not_eq_true]
        intro h
        exact absurd hnow (not_lt.mpr ((hw.longEnough a hmem h).trans (hheeds a hc hused)))
      exact ⟨by rw [hnot]; simp [isActive, OtpService.consume], rfl⟩
    · exact ⟨rfl, rfl⟩

/-- The new challenge is the only one that is not consumed. -/
theorem Requested.active {result : GeneratedOtpResult}
    (h : Requested rt identifier purpose now db (.ok result) db') :
    (∃ c ∈ db'.otpChallenges.rows, isActive identifier purpose c = true) ∧
      ∀ c ∈ db'.otpChallenges.rows, isActive identifier purpose c = true →
        c.resendAfter = now + rt.otpCooldownSeconds * 1000 := by
  cases h with
  | @created _ _ t c hfree ht hcreate hactive hlong =>
    have hrows := Table.create_eq_ok.mp hcreate
    refine ⟨⟨c, by simp [hrows], hactive⟩, fun a ha haactive ↦ ?_⟩
    rw [hrows] at ha
    rcases List.mem_append.mp ha with ha | ha
    · -- the challenges before it are consumed
      rw [Table.store_eq_ok.mp ht] at ha
      obtain ⟨b, -, rfl⟩ := List.mem_map.mp ha
      split_ifs at haactive with hb
      · simp [isActive, OtpService.consume] at haactive
      · exact absurd haactive hb
    · rw [List.mem_singleton.mp ha, hlong]

/-- A new challenge asks to wait until its cooldown is over. -/
theorem Requested.created_waits {result : GeneratedOtpResult}
    (h : Requested rt identifier purpose now db (.ok result) db') :
    Waits identifier purpose (now + rt.otpCooldownSeconds * 1000) db'.otpChallenges :=
  ⟨h.active.1, fun c hc hactive ↦ (h.active.2 c hc hactive).ge⟩

structure CooldownKept (rt : Runtime) (s : OtpRun) : Prop where
  spaced : s.created.Pairwise (Spaced rt)
  waits : ∀ e ∈ s.created, s.clock < e.time + rt.otpCooldownSeconds * 1000 →
    Waits e.identifier e.purpose (e.time + rt.otpCooldownSeconds * 1000) s.db.otpChallenges

theorem ran_requested {userId : Option String}
    (h : Call.Ran (At now) (createChallenge rt identifier purpose userId) db r db') :
    Requested rt (rt.normalize identifier) purpose now db r db' :=
  Call.wpg_ran createChallenge_requested (fun _ ↦ rfl) (fun _ _ h ↦ h) h

theorem CooldownKept.step {s s' : OtpRun} {a : OtpCall × Time} (h : CooldownKept rt s)
    (hheeds : HeedsCooldown rt s a) (hs : OtpStep rt s a s') : CooldownKept rt s' := by
  cases hs with
  | @creates identifier purpose userId now result db hclock hr =>
    have hrequested := ran_requested hr
    refine ⟨List.pairwise_cons.mpr ⟨fun e he hidentifier hpurpose ↦ ?_, h.spaced⟩, fun e he hnow ↦ ?_⟩
    · by_contra hearly
      have hnow := not_le.mp hearly
      have hwaits := h.waits e he (hclock.trans_lt hnow)
      have hfree : Free (rt.normalize identifier) purpose now s.db := by
        cases hrequested with
        | created hfree => exact hfree
      simp only at hidentifier hpurpose
      rw [← hidentifier, ← hpurpose] at hwaits
      exact hwaits.not_free hnow hfree
    · rcases List.mem_cons.mp he with rfl | he
      · exact hrequested.created_waits
      · exact hrequested.waits (h.waits e he (hclock.trans_lt hnow)) hnow
  | refuses hclock hr =>
    exact ⟨h.spaced, fun e he hnow ↦
      (ran_requested hr).waits (h.waits e he (hclock.trans_lt hnow)) hnow⟩
  | verifies hclock hr =>
    have hverified := Call.wpg_ran verifyChallenge_verified (fun _ ↦ rfl) (fun _ _ h ↦ h) hr
    exact ⟨h.spaced, fun e he hnow ↦
      hverified.waits hheeds (h.waits e he (hclock.trans_lt hnow)) hnow⟩

/-- As long as no verification uses a challenge up before its cooldown is over, the codes for one
identifier and purpose are a cooldown apart. -/
theorem otp_cooldown_kept {s : OtpRun}
    (h : Reach (OtpStep rt) (HeedsCooldown rt) (fun s ↦ s.created = []) s) :
    s.created.Pairwise (Spaced rt) := by
  have hkept : CooldownKept rt s := by
    refine h.invariant (fun s hs ↦ ?_) fun _ _ _ hs hheeds hstep ↦ hs.step hheeds hstep
    exact ⟨by simp [hs], by simp [hs]⟩
  exact hkept.spaced

end Runs

section Sample

def emptyRun : OtpRun := ⟨AuthDb.empty, 0, []⟩

/-- The call at a time, on the tables of the sample runs. -/
def callAt (s : OtpRun) (call : OtpCall) (now : Time) (tag : String) : Option OtpRun :=
  let envs := List.replicate 4 (sampleEnv now tag)
  match call with
  | .createChallenge identifier purpose userId =>
    match Call.outcome envs s.db (createChallenge sampleRuntime identifier purpose userId) with
    | some (.ok _, db) => some ⟨db, now, ⟨identifier, purpose, now⟩ :: s.created⟩
    | some (.error _, db) => some ⟨db, now, s.created⟩
    | none => none
  | .verifyChallenge identifier code purpose client =>
    match Call.outcome envs s.db (verifyChallenge sampleRuntime identifier code purpose client) with
    | some (_, db) => some ⟨db, now, s.created⟩
    | none => none

theorem otpStep_callAt {s s' : OtpRun} {call : OtpCall} {now : Time} {tag : String}
    (hclock : s.clock ≤ now) (h : callAt s call now tag = some s') :
    OtpStep sampleRuntime s (call, now) s' := by
  have henvs : ∀ env ∈ List.replicate 4 (sampleEnv now tag), At now env := by
    intro env henv
    rw [List.eq_of_mem_replicate henv]
    rfl
  cases call with
  | createChallenge identifier purpose userId =>
    simp only [callAt] at h
    split at h
    · next ho =>
      cases h
      exact .creates hclock (Call.ran_of_outcome henvs ho)
    · next ho =>
      cases h
      exact .refuses hclock (Call.ran_of_outcome henvs ho)
    · cases h
  | verifyChallenge identifier code purpose client =>
    simp only [callAt] at h
    split at h
    · next ho =>
      cases h
      exact .verifies hclock (Call.ran_of_outcome henvs ho)
    · cases h

def request : OtpCall := .createChallenge "attendee@example.com" .emailVerification none

def verification (code : String) : OtpCall :=
  .verifyChallenge "attendee@example.com" code .emailVerification nobody

/-- The calls one after another, each after the clock and past the check. -/
def callsAt (check : OtpRun → OtpCall × Time → Bool) :
    List (OtpCall × Time × String) → OtpRun → Option OtpRun
  | [], s => some s
  | (call, now, tag) :: calls, s =>
    if decide (s.clock ≤ now) && check s (call, now) then
      (callAt s call now tag).bind (callsAt check calls)
    else none

theorem reach_callsAt {ok : OtpRun → OtpCall × Time → Prop} {init : OtpRun → Prop}
    {check : OtpRun → OtpCall × Time → Bool} {calls : List (OtpCall × Time × String)}
    (hcheck : ∀ s a, check s a = true → ok s a) {s s' : OtpRun}
    (h : Reach (OtpStep sampleRuntime) ok init s) (hcalls : callsAt check calls s = some s') :
    Reach (OtpStep sampleRuntime) ok init s' := by
  induction calls generalizing s with
  | nil =>
    cases hcalls
    exact h
  | cons a calls ih =>
    obtain ⟨call, now, tag⟩ := a
    simp only [callsAt] at hcalls
    split_ifs at hcalls with hc
    rw [Bool.and_eq_true, decide_eq_true_eq] at hc
    obtain ⟨s₁, hs₁, hrest⟩ := Option.bind_eq_some_iff.mp hcalls
    exact ih (.next h (hcheck _ _ hc.2) (otpStep_callAt hc.1 hs₁)) hrest

def heeds (s : OtpRun) : OtpCall × Time → Bool
  | (.createChallenge _ _ _, _) => true
  | (.verifyChallenge identifier code purpose _, now) =>
    (latest identifier purpose s.db).all fun c ↦
      !(decide (c.expiresAt < now) || decide (c.maxAttempts ≤ c.attempts) ||
        c.codeHash == sampleSha256 code) || decide (c.resendAfter ≤ now)

theorem heeds_sound (s : OtpRun) (a : OtpCall × Time) (h : heeds s a = true) :
    HeedsCooldown sampleRuntime s a := by
  obtain ⟨call, now⟩ := a
  cases call with
  | createChallenge => trivial
  | verifyChallenge identifier code purpose client =>
    intro c hc hused
    simp only [heeds, show latest identifier purpose s.db = some c from hc, Option.all_some] at h
    rw [Bool.or_eq_true, decide_eq_true_eq] at h
    refine h.resolve_left fun hnot ↦ ?_
    simp only [Bool.not_eq_true', Bool.or_eq_false_iff, decide_eq_false_iff_not,
      beq_eq_false_iff_ne] at hnot
    rcases hused with hexpired | hlocked | hright
    · exact hnot.1.1 hexpired
    · exact hnot.1.2 hlocked
    · exact hnot.2 hright

/-- Two challenges were created, and pass this test. -/
def createdTwo (p : Creation → Creation → Bool) (s : OtpRun) : Bool :=
  match s.created with
  | [later, earlier] => p later earlier
  | _ => false

theorem createdTwo_eq_true {p : Creation → Creation → Bool} {s : OtpRun}
    (h : createdTwo p s = true) :
    ∃ later earlier, s.created = [later, earlier] ∧ p later earlier = true := by
  unfold createdTwo at h
  split at h
  · next later earlier hcreated => exact ⟨later, earlier, hcreated, h⟩
  · cases h

/-- A wrong code is tried; the next code is requested a minute after the first one. -/
theorem requested_in_turn : ∃ later earlier : Creation, later.identifier = earlier.identifier ∧
    later.purpose = earlier.purpose ∧ Spaced sampleRuntime later earlier := by
  have hrun : (callsAt heeds [(request, 0, "1"), (verification "000000", 1000, "2"),
      (request, 60000, "3")] emptyRun).any (createdTwo fun later earlier ↦
        later.identifier == earlier.identifier && later.purpose == earlier.purpose) = true := by
    decide +kernel
  obtain ⟨s, hs, htest⟩ := (Option.any_eq_true ..).mp hrun
  have hreach : Reach (OtpStep sampleRuntime) (HeedsCooldown sampleRuntime)
      (fun s ↦ s.created = []) s := reach_callsAt heeds_sound (.start rfl) hs
  have hspaced := otp_cooldown_kept hreach
  obtain ⟨later, earlier, hcreated, htwo⟩ := createdTwo_eq_true htest
  rw [hcreated] at hspaced
  rw [Bool.and_eq_true, beq_iff_eq, beq_iff_eq] at htwo
  exact ⟨later, earlier, htwo.1, htwo.2, List.rel_of_pairwise_cons hspaced (by simp)⟩

/-- The code is verified after a second, and the next one is requested a second later. -/
theorem requested_too_early : ∃ s : OtpRun,
    Reach (OtpStep sampleRuntime) (fun _ _ ↦ True) (fun s ↦ s.created = []) s ∧
      ¬s.created.Pairwise (Spaced sampleRuntime) := by
  have hrun : (callsAt (fun _ _ ↦ true) [(request, 0, "1"), (verification "123456", 1000, "2"),
      (request, 2000, "3")] emptyRun).any (createdTwo fun later earlier ↦
        later.identifier == earlier.identifier && later.purpose == earlier.purpose &&
          later.time == 2000 && earlier.time == 0) = true := by decide +kernel
  obtain ⟨s, hs, htest⟩ := (Option.any_eq_true ..).mp hrun
  refine ⟨s, reach_callsAt (fun _ _ _ ↦ trivial) (.start rfl) hs, fun hspaced ↦ ?_⟩
  obtain ⟨later, earlier, hcreated, htwo⟩ := createdTwo_eq_true htest
  rw [hcreated] at hspaced
  simp only [Bool.and_eq_true, beq_iff_eq] at htwo
  obtain ⟨⟨⟨hidentifier, hpurpose⟩, hlater⟩, hearlier⟩ := htwo
  have hapart := List.rel_of_pairwise_cons hspaced (by simp) hidentifier hpurpose
  rw [hlater, hearlier] at hapart
  exact absurd hapart (by decide)

end Sample

end Innovents.Auth
