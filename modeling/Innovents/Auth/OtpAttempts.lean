import Innovents.Auth.OtpService
import Innovents.Auth.Statements
import Innovents.Lib.SingleUse

namespace Innovents.Auth

open Innovents.Lib Innovents.Payments OtpService

/-- A verification on its way: the challenge that it has read, and when, and whether it has
written what came of it. -/
structure Verification where
  identifier : String
  code : String
  purpose : OtpPurpose
  found : Option (OtpChallenge × Time)
  settled : Bool
  call : AuthCall Bool

namespace Verification

variable (rt : Runtime)

def begun (identifier code : String) (purpose : OtpPurpose) (client : Client) : Verification :=
  ⟨identifier, code, purpose, none, false, verifyChallenge rt identifier code purpose client⟩

def asks (t : Verification) : Prop := t.call.label? = some "otpChallenge.findFirst"

instance (t : Verification) : Decidable t.asks := inferInstanceAs (Decidable (_ = _))

def reads (t : Verification) (env : AuthEnv) (db : AuthDb) : Option (OtpChallenge × Time) :=
  if t.asks ∧ env.fault = none then
    (latest (rt.normalize t.identifier) t.purpose db).map fun c ↦ (c, env.now)
  else t.found

def settles (t : Verification) (env : AuthEnv) : Bool :=
  t.settled || (t.call.label? == some "otpChallenge.update" && env.fault.isNone)

def step (env : AuthEnv) (db : AuthDb) (t : Verification) : Option (AuthDb × Verification) :=
  (t.call.step env db).map fun q ↦ (q.1,
    { t with
      found := t.reads rt env db
      settled := t.settles env
      call := q.2 })

/-- The code is compared with the hash of the challenge, and is the right or a wrong one. -/
def compares (right : Bool) (id : String) (t : Verification) : Bool :=
  t.found.any fun r ↦ r.1.id == id && !decide (r.1.expiresAt < r.2) &&
    decide (r.1.attempts < r.1.maxAttempts) &&
    (r.1.codeHash == rt.sha256 (rt.trim t.code)) == right

/-- The outcome of the comparison is not written yet. -/
def isOpen (right : Bool) (id : String) (t : Verification) : Bool :=
  t.compares rt right id && !t.settled

def isSuccess : AuthCall Bool → Bool
  | .returned (.ok true) => true
  | _ => false

/-- The call has accepted the code for the challenge. -/
def succeeds (id : String) (t : Verification) : Bool :=
  t.found.any (fun r ↦ r.1.id == id) && isSuccess t.call

end Verification

open Verification

/-- Others create and consume challenges; they count no attempts. -/
def OtherChallenges (db db' : AuthDb) : Prop :=
  ∀ c ∈ db.otpChallenges.rows, ∃ c' ∈ db'.otpChallenges.rows, c'.id = c.id ∧
    c'.attempts = c.attempts ∧ c'.maxAttempts = c.maxAttempts ∧
      (c.consumedAt.isSome = true → c'.consumedAt.isSome = true)

/-- Any number of verifications, of any codes for any identifiers. -/
def verifications (rt : Runtime) : Machine AuthDb Verification AuthEnv where
  start t := ∃ identifier code purpose client, t = begun rt identifier code purpose client
  step := Verification.step rt
  world := OtherChallenges

/-- Whoever reads a challenge finds all those done that have read it before. -/
def OneByOne (rt : Runtime) (p : Pool AuthDb Verification) : Move Verification AuthEnv → Prop
  | .run i _ => ∀ t c, p.threads[i]? = some t → t.asks →
    latest (rt.normalize t.identifier) t.purpose p.shared = some c →
      ∀ u ∈ p.threads, (u.found.any fun r ↦ r.1.id == c.id) = true → u.settled = true
  | _ => True

/-- What an update that follows a comparison does to the challenge. -/
structure Records (rt : Runtime) (t : Verification) (f : OtpChallenge → OtpChallenge) : Prop where
  id : ∀ c, (f c).id = c.id
  maxAttempts : ∀ c, (f c).maxAttempts = c.maxAttempts
  attempts : ∀ c, c.attempts ≤ (f c).attempts
  consumed : ∀ c, c.consumedAt.isSome = true → (f c).consumedAt.isSome = true
  wrong : ∀ id, t.compares rt false id = true → ∀ c, (f c).attempts = c.attempts + 1
  right : ∀ id, t.compares rt true id = true → ∀ c, (f c).consumedAt.isSome = true

def Quiet (label : String) (db db' : AuthDb) : Prop :=
  label ≠ "otpChallenge.findFirst" ∧ label ≠ "otpChallenge.update" ∧
    db'.otpChallenges = db.otpChallenges

/-- The call writes no challenge any more, and has compared the right code if it succeeds. -/
def Ends (rt : Runtime) (t : Verification) : Prop :=
  ∀ db, t.call.wpg (fun _ _ ↦ True) Quiet (fun _ _ ↦ True) (fun r _ ↦ r = .ok true →
    ∀ r₀, t.found = some r₀ → t.compares rt true r₀.1.id = true) db

/-- How far a verification has come. -/
inductive Checking (rt : Runtime) : Verification → Prop
  | asks (identifier code : String) (purpose : OtpPurpose) (client : Client) :
      Checking rt (begun rt identifier code purpose client)
  | updates (identifier code : String) (purpose : OtpPurpose) (client : Client) (c : OtpChallenge)
      (now : Time) : Checking rt ⟨identifier, code, purpose, some (c, now), false,
        checkChallenge c now (rt.sha256 (rt.trim code)) client⟩
  | ends (t : Verification) : Ends rt t → Checking rt t

/-- What one statement of a verification does. -/
inductive Progress (rt : Runtime) (db : AuthDb) (t : Verification) (db' : AuthDb)
    (t' : Verification) : Prop
  | idle : db'.otpChallenges = db.otpChallenges → t'.found = t.found → t'.settled = t.settled →
      Progress rt db t db' t'
  | reads (c : OtpChallenge) (now : Time) : t.asks →
      latest (rt.normalize t.identifier) t.purpose db = some c →
      db'.otpChallenges = db.otpChallenges → t.found = none → t'.found = some (c, now) →
      t'.settled = false → Progress rt db t db' t'
  | updates (c : OtpChallenge) (now : Time) (f : OtpChallenge → OtpChallenge) :
      t.found = some (c, now) → t.settled = false → Records rt t f →
      db'.otpChallenges = Call.written
        ((db.otpChallenges.update c.id f).map fun t ↦ (t, ())) db.otpChallenges →
      t'.found = t.found → t'.settled = true → Progress rt db t db' t'

section Steps

variable {rt : Runtime} {db db' : AuthDb} {t t' : Verification} {env : AuthEnv}

theorem updateChallenge_step {id : String} {f : AuthEnv → OtpChallenge → OtpChallenge}
    {next : Unit → AuthCall Bool} {call : AuthCall Bool}
    (h : ((updateChallenge id f).bind next).step env db = some (db', call)) :
    (call = next () ∨ ∃ x, call = .returned (.error x)) ∧
      if env.fault = none then
        db'.otpChallenges = Call.written
          ((db.otpChallenges.update id (f env)).map fun t ↦ (t, ())) db.otpChallenges
      else db' = db ∧ ∃ x, call = .returned (.error x) := by
  cases hfault : env.fault with
  | some message =>
    simp only [updateChallenge, stores, Call.perform, Call.bind, Call.step, hfault,
      Option.elim_some, Call.written, Option.some.injEq, Prod.mk.injEq] at h
    exact ⟨.inr ⟨_, h.2.symm⟩, h.1.symm, _, h.2.symm⟩
  | none =>
    simp only [updateChallenge, stores, Call.perform, Call.bind, Call.step, hfault,
      Option.elim_none] at h
    cases hupdate : db.otpChallenges.update id (f env) with
    | error x =>
      rw [hupdate] at h
      cases h
      exact ⟨.inr ⟨_, rfl⟩, rfl⟩
    | ok u =>
      rw [hupdate] at h
      cases h
      exact ⟨.inl rfl, rfl⟩

theorem ends_error {x : AuthError} (h : t.call = .returned (.error x)) : Ends rt t := by
  intro db
  rw [h]
  exact nofun

theorem ends_throws {status : HttpStatus} {message : String}
    (h : t.call = throws status message) : Ends rt t := ends_error h

/-- Behind the update there is an audit entry at most. -/
theorem ends_log {params : CreateAuditLogParams} {client : Client} {next : AuthCall Bool}
    (hcall : t.call = (AuditService.log params client).bind fun _ ↦ next)
    (hlabel : params.action ≠ "otpChallenge.findFirst" ∧ params.action ≠ "otpChallenge.update")
    (hnext : Ends rt { t with call := next }) : Ends rt t := by
  intro db
  rw [hcall]
  exact Call.wpg_bind (wpg_log (fun _ _ ↦ ⟨hlabel.1, hlabel.2, rfl⟩) fun db₁ logs _ ↦ hnext _)

theorem Ends.step {call : AuthCall Bool} (h : Ends rt t) (hs : t.call.step env db = some (db', call))
    (hfound : t'.found = t.found) (hcode : t'.code = t.code) (hcall : t'.call = call) :
    (∃ label, t.call.label? = some label ∧ Quiet label db db') ∧ Ends rt t' := by
  obtain ⟨hlabel, -⟩ := Call.wpg_step (h db) trivial (fun _ _ ↦ trivial) hs
  refine ⟨hlabel, fun db₁ ↦ ?_⟩
  obtain ⟨-, hrest⟩ := Call.wpg_step (h db) trivial (fun _ _ ↦ trivial) hs
  refine Call.wpg_mono (Call.wpg_stable (fun _ _ _ _ _ ↦ trivial) (fun _ _ _ hr _ ↦ hr)
    (hcall ▸ hrest) trivial) fun r _ hr hok r₀ hr₀ ↦ ?_
  have hright := hr hok r₀ (hfound ▸ hr₀)
  unfold compares at hright ⊢
  rw [hfound, hcode]
  exact hright

theorem Ends.progress (h : Ends rt t) (hs : t.step rt env db = some (db', t')) :
    Progress rt db t db' t' ∧ Checking rt t' := by
  obtain ⟨⟨db₁, call⟩, hcall, hq⟩ := Option.map_eq_some_iff.mp hs
  cases hq
  have hstep : (∃ label, t.call.label? = some label ∧ Quiet label db db₁) ∧
      Ends rt { t with call } := h.step hcall rfl rfl rfl
  obtain ⟨⟨label, hlabel, hfind, hupdate, hsame⟩, hends⟩ := hstep
  have hasks : ¬t.asks := by
    rw [asks, hlabel]
    exact fun he ↦ hfind (Option.some.inj he)
  have hsettles : t.settles env = t.settled := by simp [settles, hlabel, hupdate]
  have hreads : t.reads rt env db = t.found := if_neg fun he ↦ hasks he.1
  rw [hsettles, hreads]
  exact ⟨.idle hsame rfl rfl, .ends _ hends⟩

theorem updates_progress {c : OtpChallenge} {now : Time} {f : AuthEnv → OtpChallenge → OtpChallenge}
    {next : Unit → AuthCall Bool} (hfound : t.found = some (c, now)) (hsettled : t.settled = false)
    (hcall : t.call = (updateChallenge c.id f).bind next) (hrecords : ∀ env, Records rt t (f env))
    (hnext : Ends rt { t with call := next () }) (hs : t.step rt env db = some (db', t')) :
    Progress rt db t db' t' ∧ Checking rt t' := by
  obtain ⟨⟨db₁, call⟩, hstep, hq⟩ := Option.map_eq_some_iff.mp hs
  cases hq
  have hlabel : t.call.label? = some "otpChallenge.update" := by
    rw [hcall]
    rfl
  have hreads : t.reads rt env db = t.found := by
    refine if_neg fun he ↦ ?_
    rw [asks, hlabel] at he
    exact absurd (Option.some.inj he.1) (by decide)
  have hsettles : t.settles env = env.fault.isNone := by simp [settles, hsettled, hlabel]
  rw [hcall] at hstep
  obtain ⟨hrest, hwritten⟩ := updateChallenge_step hstep
  refine ⟨?_, ?_⟩
  · split_ifs at hwritten with hfault
    · exact .updates c now (f env) hfound hsettled (hrecords env) hwritten hreads
        (by rw [hsettles, hfault]; rfl)
    · obtain ⟨rfl, -⟩ := hwritten
      refine .idle rfl hreads ?_
      rw [hsettles, hsettled]
      simpa [Option.isSome_iff_ne_none] using hfault
  · refine .ends _ ?_
    rcases hrest with hrest | ⟨x, hrest⟩
    · intro db₂
      refine Call.wpg_mono (hrest ▸ hnext db₂) fun r _ hr hok r₀ hr₀ ↦ ?_
      have hright := hr hok r₀ (hreads ▸ hr₀)
      unfold compares at hright ⊢
      rw [hreads]
      exact hright
    · exact ends_error hrest

theorem compares_found {right : Bool} {id : String} {c : OtpChallenge} {now : Time}
    (h : t.found = some (c, now)) : t.compares rt right id = true ↔
      c.id = id ∧ now ≤ c.expiresAt ∧ c.attempts < c.maxAttempts ∧
        (c.codeHash == rt.sha256 (rt.trim t.code)) = right := by
  simp only [compares, h, Option.any_some, Bool.and_eq_true, beq_iff_eq, Bool.not_eq_true',
    decide_eq_false_iff_not, decide_eq_true_eq, not_lt, and_assoc]

/-- A challenge that is not compared is consumed. -/
theorem records_consume {now : Time} (h : ∀ id, t.compares rt false id = false) :
    Records rt t (consume now) where
  id _ := rfl
  maxAttempts _ := rfl
  attempts _ := le_rfl
  consumed _ _ := rfl
  wrong id hid := absurd hid (by simp [h id])
  right _ _ _ := rfl

/-- A challenge that is compared with a wrong code counts it. -/
theorem records_count (h : ∀ id, t.compares rt true id = false) :
    Records rt t fun c ↦ { c with attempts := c.attempts + 1 } where
  id _ := rfl
  maxAttempts _ := rfl
  attempts c := Nat.le_succ c.attempts
  consumed _ h := h
  wrong _ _ _ := rfl
  right id hid := absurd hid (by simp [h id])

theorem Checking.progress (h : Checking rt t) (hs : t.step rt env db = some (db', t')) :
    Progress rt db t db' t' ∧ Checking rt t' := by
  cases h with
  | ends _ hends => exact hends.progress hs
  | asks identifier code purpose client =>
    obtain ⟨⟨db₁, call⟩, hstep, hq⟩ := Option.map_eq_some_iff.mp hs
    cases hq
    have hasks : (begun rt identifier code purpose client).asks := rfl
    have hsettles : (begun rt identifier code purpose client).settles env = false := rfl
    rw [hsettles]
    cases hfault : env.fault with
    | some message =>
      simp only [begun, verifyChallenge, finds, Call.ask, Call.bind_eq, Call.bind, Call.step,
        hfault, Option.elim_some, Option.some.injEq, Prod.mk.injEq] at hstep
      obtain ⟨rfl, hcall⟩ := hstep
      have hreads : (begun rt identifier code purpose client).reads rt env db = none := by
        simp [reads, hfault, begun]
      rw [hreads]
      exact ⟨.idle rfl rfl rfl, .ends _ (ends_error hcall.symm)⟩
    | none =>
      simp only [begun, verifyChallenge, finds, Call.ask, Call.bind_eq, Call.bind, Call.step,
        hfault, Option.elim_none, Option.some.injEq, Prod.mk.injEq] at hstep
      obtain ⟨rfl, hcall⟩ := hstep
      have hreads : (begun rt identifier code purpose client).reads rt env db =
          (latest (rt.normalize identifier) purpose db).map fun c ↦ (c, env.now) :=
        if_pos ⟨hasks, hfault⟩
      rw [hreads]
      cases hlatest : latest (rt.normalize identifier) purpose db with
      | none =>
        rw [hlatest] at hcall
        exact ⟨.idle rfl rfl rfl, .ends _ (ends_throws hcall.symm)⟩
      | some c =>
        rw [hlatest] at hcall
        cases hcall
        exact ⟨.reads c env.now hasks hlatest rfl rfl rfl rfl, .updates _ _ _ _ _ _⟩
  | updates identifier code purpose client c now =>
    have hfound : ∀ right id, (Verification.mk identifier code purpose (some (c, now)) false
        (checkChallenge c now (rt.sha256 (rt.trim code)) client)).compares rt right id = true ↔ _ :=
      fun right id ↦ compares_found rfl
    by_cases hexpired : c.expiresAt < now
    · refine updates_progress rfl rfl (by simp only [checkChallenge, if_pos hexpired]; rfl)
        (fun env ↦ records_consume fun id ↦ ?_) (ends_throws rfl) hs
      rw [← Bool.not_eq_true, hfound]
      exact fun h ↦ absurd hexpired (not_lt.mpr h.2.1)
    · by_cases hlocked : c.attempts ≥ c.maxAttempts
      · refine updates_progress rfl rfl
          (by simp only [checkChallenge, if_neg hexpired, if_pos hlocked]; rfl)
          (fun env ↦ records_consume fun id ↦ ?_)
          (ends_log rfl ⟨by simp [challengeEntry], by simp [challengeEntry]⟩ (ends_throws rfl)) hs
        rw [← Bool.not_eq_true, hfound]
        omega
      · by_cases hwrong : c.codeHash ≠ rt.sha256 (rt.trim code)
        · refine updates_progress (f := fun _ c ↦ { c with attempts := c.attempts + 1 }) rfl rfl
            (by simp only [checkChallenge, if_neg hexpired, if_neg hlocked, if_pos hwrong]; rfl)
            (fun env ↦ records_count fun id ↦ ?_)
            (ends_log rfl ⟨by simp [challengeEntry], by simp [challengeEntry]⟩ (ends_throws rfl)) hs
          rw [← Bool.not_eq_true, hfound]
          exact fun h ↦ hwrong (beq_iff_eq.mp h.2.2.2)
        · have hright := not_not.mp hwrong
          refine updates_progress rfl rfl
            (by simp only [checkChallenge, if_neg hexpired, if_neg hlocked, if_neg hwrong]; rfl)
            (fun env ↦ records_consume fun id ↦ ?_)
            (ends_log rfl ⟨by simp [challengeEntry], by simp [challengeEntry]⟩ fun db₁ ↦ ?_) hs
          · rw [← Bool.not_eq_true, hfound]
            simp [hright]
          · intro _ r₀ hr₀
            cases hr₀
            exact (compares_found rfl).mpr
              ⟨rfl, not_lt.mp hexpired, not_le.mp hlocked, by simp [hright]⟩

theorem Checking.success (h : Checking rt t) {id : String} (hs : t.succeeds id = true) :
    t.compares rt true id = true := by
  simp only [Verification.succeeds, Bool.and_eq_true, Option.any_eq_true, beq_iff_eq] at hs
  obtain ⟨⟨r₀, hr₀, rfl⟩, hsuccess⟩ := hs
  cases h with
  | asks => cases hr₀
  | updates identifier code purpose client c now =>
    dsimp only [checkChallenge] at hsuccess
    split_ifs at hsuccess <;> cases hsuccess
  | ends _ hends =>
    obtain ⟨identifier, code, purpose, found, settled, call⟩ := t
    dsimp only at hsuccess hr₀
    unfold isSuccess at hsuccess
    split at hsuccess
    · exact hends .empty rfl r₀ hr₀
    · cases hsuccess

end Steps

/-- The comparisons with the hash of a challenge, and what is counted of them. -/
structure Counted (rt : Runtime) (ts : List Verification) (c : OtpChallenge) : Prop where
  guesses : ts.countP (compares rt false c.id) ≤ c.maxAttempts
  attempts : ts.countP (compares rt false c.id) ≤ c.attempts + ts.countP (isOpen rt false c.id)
  once : SingleUse (compares rt true c.id) (isOpen rt true c.id) ts (c.consumedAt.isSome = true)

structure Guarded (rt : Runtime) (p : Pool AuthDb Verification) : Prop where
  checking : ∀ t ∈ p.threads, Checking rt t
  there : ∀ t ∈ p.threads, ∀ r, t.found = some r → ∃ c ∈ p.shared.otpChallenges.rows, c.id = r.1.id
  counted : ∀ c ∈ p.shared.otpChallenges.rows, Counted rt p.threads c

section Runs

variable {rt : Runtime} {p q : Pool AuthDb Verification} {ts : List Verification} {t t' : Verification}
  {c c' : OtpChallenge} {i : ℕ}

theorem compares_of_not_found {right : Bool} {id : String}
    (h : ∀ r, t.found = some r → r.1.id ≠ id) : t.compares rt right id = false := by
  cases hfound : t.found with
  | none => simp [compares, hfound]
  | some r => simp [compares, hfound, h r hfound]

theorem Counted.later (h : Counted rt ts c) (hid : c'.id = c.id) (hmax : c'.maxAttempts = c.maxAttempts)
    (hattempts : c.attempts ≤ c'.attempts)
    (hconsumed : c.consumedAt.isSome = true → c'.consumedAt.isSome = true) : Counted rt ts c' := by
  obtain ⟨hguesses, hcounted, honce⟩ := h
  rw [← hid] at hguesses hcounted honce
  exact ⟨by omega, by omega, honce.mono hconsumed⟩

/-- A challenge that no call has read yet. -/
theorem counted_of_not_found (h : ∀ t ∈ ts, ∀ r, t.found = some r → r.1.id ≠ c.id) :
    Counted rt ts c := by
  have hnone (right : Bool) : ∀ t ∈ ts, t.compares rt right c.id = false :=
    fun t ht ↦ compares_of_not_found (h t ht)
  have hzero : ts.countP (compares rt false c.id) = 0 :=
    List.countP_eq_zero.mpr fun t ht ↦ by simp [hnone false t ht]
  exact ⟨by omega, by omega, .of_none (hnone true)⟩

/-- A thread that weighs the same as before. -/
theorem Counted.same (h : Counted rt ts c) (hi : ts[i]? = some t)
    (hcompares : ∀ right, t'.compares rt right c.id = t.compares rt right c.id)
    (hopen : ∀ right, t'.isOpen rt right c.id = t.isOpen rt right c.id) :
    Counted rt (ts.set i t') c := by
  obtain ⟨hguesses, hattempts, honce⟩ := h
  have hc := countP_set_add (compares rt false c.id) t' hi
  have ho := countP_set_add (isOpen rt false c.id) t' hi
  rw [hcompares] at hc
  rw [hopen] at ho
  exact ⟨by omega, by omega, honce.same hi (hcompares true) (hopen true)⟩

/-- The challenge is read while no comparison with it is open. -/
theorem Counted.read (h : Counted rt ts c) {now : Time} (hi : ts[i]? = some t) (hnone : t.found = none)
    (hfound : t'.found = some (c, now)) (hsettled : t'.settled = false) (hactive : c.consumedAt = none)
    (hclosed : ∀ right, ts.countP (isOpen rt right c.id) = 0) : Counted rt (ts.set i t') c := by
  have hbefore (right : Bool) : t.compares rt right c.id = false :=
    compares_of_not_found fun r hr ↦ by rw [hnone] at hr; cases hr
  have hafter (right : Bool) : t'.isOpen rt right c.id = t'.compares rt right c.id := by
    simp [isOpen, hsettled]
  have hc := countP_set_add (compares rt false c.id) t' hi
  have ho := countP_set_add (isOpen rt false c.id) t' hi
  have hbeforeOpen : t.isOpen rt false c.id = false := by rw [isOpen, hbefore, Bool.false_and]
  simp only [hbefore, hafter, hbeforeOpen, hclosed, Bool.false_eq_true, if_false, Nat.add_zero,
    Nat.zero_add] at hc ho
  have hcount := h.attempts
  have hguesses := h.guesses
  rw [hclosed] at hcount
  refine ⟨?_, by omega, h.once.claim hi (hbefore true) (fun hright ↦ (hafter true).trans hright)
    (hclosed true) fun _ hconsumed ↦ by rw [hactive] at hconsumed; cases hconsumed⟩
  split_ifs at hc with hwrong
  · have hlimit : c.attempts < c.maxAttempts := ((compares_found hfound).mp hwrong).2.2.1
    omega
  · omega

/-- The outcome of a comparison is written to the challenge. -/
theorem Counted.write (h : Counted rt ts c) {f : OtpChallenge → OtpChallenge} (hi : ts[i]? = some t)
    (hf : Records rt t f) (hsettled : t.settled = false)
    (hcompares : ∀ right, t'.compares rt right c.id = t.compares rt right c.id)
    (hclosed : t'.settled = true) : Counted rt (ts.set i t') (f c) := by
  have hc := countP_set_add (compares rt false c.id) t' hi
  have ho : (ts.set i t').countP (isOpen rt false c.id) +
      (if t.compares rt false c.id then 1 else 0) = ts.countP (isOpen rt false c.id) := by
    have hset := countP_set_add (isOpen rt false c.id) t' hi
    simpa only [isOpen, hsettled, hclosed, Bool.not_false, Bool.not_true, Bool.and_true,
      Bool.and_false, Bool.false_eq_true, if_false, Nat.add_zero] using hset
  rw [hcompares] at hc
  have hmax := hf.maxAttempts c
  have hle := hf.attempts c
  have hguesses := h.guesses
  have hattempts := h.attempts
  have hid := hf.id c
  refine ⟨by rw [hid]; omega, ?_, ?_⟩
  · rw [hid]
    split_ifs at ho with hwrong
    · rw [hf.wrong c.id hwrong]
      omega
    · omega
  · rw [hid]
    refine h.once.use hi (hcompares true) (fun hright ↦ hf.right c.id hright c) (fun hnot ↦ ?_)
      (hf.consumed c)
    rw [isOpen, isOpen, hcompares, hnot, Bool.false_and, Bool.false_and]

theorem Counted.spawn (h : Counted rt ts c) (hnone : t.found = none) :
    Counted rt (ts ++ [t]) c := by
  have hbefore (right : Bool) : t.compares rt right c.id = false :=
    compares_of_not_found fun r hr ↦ by rw [hnone] at hr; cases hr
  obtain ⟨hguesses, hattempts, honce⟩ := h
  refine ⟨?_, ?_, honce.spawn (hbefore true)⟩
  · simpa [List.countP_append, hbefore] using hguesses
  · simpa [List.countP_append, isOpen, hbefore] using hattempts

theorem step_code {env : AuthEnv} {db db' : AuthDb}
    (h : t.step rt env db = some (db', t')) : t'.code = t.code := by
  obtain ⟨q, -, hq⟩ := Option.map_eq_some_iff.mp h
  cases hq
  rfl

theorem compares_congr {right : Bool} {id : String} (hfound : t'.found = t.found)
    (hcode : t'.code = t.code) : t'.compares rt right id = t.compares rt right id := by
  rw [compares, compares, hfound, hcode]

theorem Guarded.run {env : AuthEnv} {db' : AuthDb} (hp : Guarded rt p)
    (hok : OneByOne rt p (.run i env)) (hi : p.threads[i]? = some t)
    (hs : t.step rt env p.shared = some (db', t')) : Guarded rt ⟨db', p.threads.set i t'⟩ := by
  have ht := List.mem_of_getElem? hi
  obtain ⟨hprogress, hchecking⟩ := (hp.checking t ht).progress hs
  have hcode := step_code hs
  have hthreads : ∀ u ∈ p.threads.set i t', Checking rt u := by
    intro u hu
    rcases List.mem_or_eq_of_mem_set hu with hm | rfl
    · exact hp.checking u hm
    · exact hchecking
  cases hprogress with
  | idle hsame hfound hsettled =>
    refine ⟨hthreads, fun u hu r hr ↦ ?_, fun c hc ↦ ?_⟩
    · rw [hsame]
      rcases List.mem_or_eq_of_mem_set hu with hm | rfl
      · exact hp.there u hm r hr
      · exact hp.there t ht r (hfound ▸ hr)
    · rw [hsame] at hc
      refine (hp.counted c hc).same hi (fun _ ↦ compares_congr hfound hcode) fun _ ↦ ?_
      rw [isOpen, isOpen, compares_congr hfound hcode, hsettled]
  | reads c now hasks hlatest hsame hnone hfound hsettled =>
    obtain ⟨hmem, hactive⟩ := latest_mem hlatest
    refine ⟨hthreads, fun u hu r hr ↦ ?_, fun c' hc' ↦ ?_⟩
    · rw [hsame]
      rcases List.mem_or_eq_of_mem_set hu with hm | rfl
      · exact hp.there u hm r hr
      · rw [hfound] at hr
        cases hr
        exact ⟨c, hmem, rfl⟩
    · rw [hsame] at hc'
      by_cases hid : c.id = c'.id
      · have heq := p.shared.otpChallenges.eq_of_id hmem hc' hid
        subst heq
        refine (hp.counted c hmem).read hi hnone hfound hsettled ?_ fun right ↦ ?_
        · simp only [isActive, Bool.and_eq_true, Option.isNone_iff_eq_none] at hactive
          exact hactive.2
        · -- whoever has read the challenge before is done with it
          refine List.countP_eq_zero.mpr fun u hu hopen ↦ ?_
          simp only [isOpen, compares, Bool.and_eq_true, Option.any_eq_true, Bool.not_eq_true',
            beq_iff_eq] at hopen
          obtain ⟨⟨r, hr, hrid⟩, hunsettled⟩ := hopen
          have hdone := hok t c hi hasks hlatest u hu
            ((Option.any_eq_true ..).mpr ⟨r, hr, by simp [hrid.1.1.1]⟩)
          rw [hunsettled] at hdone
          cases hdone
      · have hother : t'.found = some (c, now) → ∀ right, t'.compares rt right c'.id = false :=
          fun hfound right ↦ compares_of_not_found fun r hr ↦ by
            rw [hfound] at hr
            cases hr
            exact hid
        have hbefore (right : Bool) : t.compares rt right c'.id = false :=
          compares_of_not_found fun r hr ↦ by rw [hnone] at hr; cases hr
        refine (hp.counted c' hc').same hi (fun right ↦ ?_) fun right ↦ ?_
        · rw [hother hfound, hbefore]
        · rw [isOpen, isOpen, hother hfound, hbefore, Bool.false_and, Bool.false_and]
  | updates c now f hfound hsettled hrecords hwritten hfound' hsettled' =>
    obtain ⟨c₀, hc₀, hc₀id⟩ := hp.there t ht _ hfound
    obtain ⟨table, htable⟩ := Table.update_succeeds (t := p.shared.otpChallenges) (f := f)
      ⟨c₀, hc₀, hc₀id⟩ hrecords.id (fun u hu ↦ by cases hu)
    have hrows := (Table.update_eq_ok.mp htable).2
    rw [htable] at hwritten
    have hdb' : db'.otpChallenges = table := hwritten
    have hkept : ∀ a ∈ p.shared.otpChallenges.rows, ∃ b ∈ db'.otpChallenges.rows, b.id = a.id := by
      intro a ha
      rw [hdb', hrows]
      by_cases hid : a.id = c.id
      · exact ⟨f a, Table.mem_updateRows.mpr (.inl ⟨a, ha, hid, rfl⟩), hrecords.id a⟩
      · exact ⟨a, Table.mem_updateRows.mpr (.inr ⟨ha, hid⟩), rfl⟩
    refine ⟨hthreads, fun u hu r hr ↦ ?_, fun c' hc' ↦ ?_⟩
    · have hthere : ∃ a ∈ p.shared.otpChallenges.rows, a.id = r.1.id := by
        rcases List.mem_or_eq_of_mem_set hu with hm | rfl
        · exact hp.there u hm r hr
        · exact hp.there t ht r (hfound' ▸ hr)
      obtain ⟨a, ha, haid⟩ := hthere
      obtain ⟨b, hb, hbid⟩ := hkept a ha
      exact ⟨b, hb, hbid.trans haid⟩
    · rw [hdb', hrows, Table.mem_updateRows] at hc'
      rcases hc' with ⟨a, ha, -, rfl⟩ | ⟨hc', hid⟩
      · exact (hp.counted a ha).write hi hrecords hsettled (fun _ ↦ compares_congr hfound' hcode)
          hsettled'
      · have hbefore (right : Bool) : t.compares rt right c'.id = false :=
          compares_of_not_found fun r hr ↦ by
            rw [hfound] at hr
            cases hr
            exact Ne.symm hid
        refine (hp.counted c' hc').same hi (fun _ ↦ compares_congr hfound' hcode) fun right ↦ ?_
        rw [isOpen, isOpen, compares_congr hfound' hcode, hbefore, Bool.false_and, Bool.false_and]

theorem Guarded.step {a : Move Verification AuthEnv} (hp : Guarded rt p) (hok : OneByOne rt p a)
    (hs : (verifications rt).Step p a q) : Guarded rt q := by
  cases hs with
  | @spawn t ht =>
    obtain ⟨identifier, code, purpose, client, rfl⟩ := ht
    refine ⟨fun u hu ↦ ?_, fun u hu r hr ↦ ?_, fun c hc ↦ (hp.counted c hc).spawn rfl⟩
    · rcases List.mem_append.mp hu with hm | hm
      · exact hp.checking u hm
      · rw [List.mem_singleton.mp hm]
        exact .asks _ _ _ _
    · rcases List.mem_append.mp hu with hm | hm
      · exact hp.there u hm r hr
      · rw [List.mem_singleton.mp hm] at hr
        cases hr
  | @run i env t t' db' hi hstep => exact hp.run hok hi hstep
  | @world db' hw =>
    refine ⟨hp.checking, fun u hu r hr ↦ ?_, fun c' hc' ↦ ?_⟩
    · obtain ⟨a, ha, haid⟩ := hp.there u hu r hr
      obtain ⟨b, hb, hbid, -⟩ := hw a ha
      exact ⟨b, hb, hbid.trans haid⟩
    · by_cases hthere : ∃ c ∈ p.shared.otpChallenges.rows, c.id = c'.id
      · obtain ⟨c, hc, hid⟩ := hthere
        obtain ⟨b, hb, hbid, hattempts, hmax, hconsumed⟩ := hw c hc
        have heq := db'.otpChallenges.eq_of_id hb hc' (hbid.trans hid)
        subst heq
        exact (hp.counted c hc).later hbid hmax hattempts.ge hconsumed
      · refine counted_of_not_found fun u hu r hr hid ↦ hthere ?_
        obtain ⟨a, ha, haid⟩ := hp.there u hu r hr
        exact ⟨a, ha, haid.trans hid⟩

/-- When each verification finds those done that have read the challenge before, a challenge is
compared with `maxAttempts` wrong codes at most, and accepts a code once. -/
theorem otp_attempts_bounded (h : Reach (verifications rt).Step (OneByOne rt)
    (fun p ↦ p.threads = []) p) : ∀ c ∈ p.shared.otpChallenges.rows,
      p.threads.countP (compares rt false c.id) ≤ c.maxAttempts ∧
        p.threads.countP (succeeds c.id) ≤ 1 := by
  have hp : Guarded rt p := by
    refine h.invariant (fun q hq ↦ ?_) fun _ _ _ hq hok hs ↦ hq.step hok hs
    exact ⟨by simp [hq], by simp [hq], fun c _ ↦ counted_of_not_found (by simp [hq])⟩
  intro c hc
  refine ⟨(hp.counted c hc).guesses, le_trans ?_ (hp.counted c hc).once.single⟩
  exact List.countP_mono_left fun t ht hsuccess ↦ (hp.checking t ht).success hsuccess

end Runs

section Sample

def openChallenge : OtpChallenge where
  id := "challenge-1"
  userId := some "user-1"
  identifier := "attendee@example.com"
  purpose := .emailVerification
  codeHash := sampleSha256 "123456"
  expiresAt := 300000
  attempts := 0
  maxAttempts := 5
  consumedAt := none
  resendAfter := 60000
  createdAt := 0

def challengeDb : AuthDb :=
  { AuthDb.empty with
    users := .singleton attendee
    otpChallenges := .singleton openChallenge }

def guess (code : String) : Verification :=
  begun sampleRuntime "attendee@example.com" code .emailVerification nobody

def oneByOne (p : Pool AuthDb Verification) (i : ℕ) (_ : AuthEnv) : Bool :=
  p.threads[i]?.all fun t ↦ !decide t.asks || (latest t.identifier t.purpose p.shared).all fun c ↦
    p.threads.all fun u ↦ !(u.found.any fun r ↦ r.1.id == c.id) || u.settled

theorem oneByOne_sound {p : Pool AuthDb Verification} {i : ℕ} {env : AuthEnv}
    (h : oneByOne p i env = true) : OneByOne sampleRuntime p (.run i env) := by
  intro t c hi hasks hlatest u hu hfound
  simp only [oneByOne, hi, Option.all_some, hasks, decide_true, Bool.not_true, Bool.false_or] at h
  rw [show latest t.identifier t.purpose p.shared = some c from hlatest, Option.all_some,
    List.all_eq_true] at h
  simpa [hfound] using h u hu

theorem reach_guesses {ok : Pool AuthDb Verification → Move Verification AuthEnv → Prop}
    {check : Pool AuthDb Verification → ℕ → AuthEnv → Bool} {codes : List String}
    {moves : List (ℕ × AuthEnv)} {p : Pool AuthDb Verification}
    (hspawn : ∀ p t, ok p (.spawn t)) (hrun : ∀ p i env, check p i env = true → ok p (.run i env))
    (h : (verifications sampleRuntime).play check moves ⟨challengeDb, codes.map guess⟩ = some p) :
    Reach (verifications sampleRuntime).Step ok (fun p ↦ p.threads = []) p := by
  have hstarts : ∀ t ∈ codes.map guess, (verifications sampleRuntime).start t := by
    intro t ht
    obtain ⟨code, -, rfl⟩ := List.mem_map.mp ht
    exact ⟨_, _, _, _, rfl⟩
  have hinit : Reach (verifications sampleRuntime).Step ok (fun p ↦ p.threads = [])
      ⟨challengeDb, []⟩ := .start rfl
  exact Machine.reach_play hrun (Machine.reach_spawnAll (fun p t _ ↦ hspawn p t) hstarts hinit) h

/-- A wrong guess, and then the right one. -/
theorem guessed_in_turn : ∃ p : Pool AuthDb Verification, ∃ c ∈ p.shared.otpChallenges.rows,
    c.attempts = 1 ∧ c.consumedAt.isSome = true ∧
      p.threads.countP (compares sampleRuntime false c.id) ≤ c.maxAttempts ∧
        p.threads.countP (succeeds c.id) ≤ 1 := by
  have hrun : ((verifications sampleRuntime).play oneByOne
      [(0, sampleEnv 1 "2"), (0, sampleEnv 2 "3"), (1, sampleEnv 3 "4"), (1, sampleEnv 4 "5")]
      ⟨challengeDb, ["000000", "123456"].map guess⟩).any (fun p ↦
        p.shared.otpChallenges.rows.any fun c ↦ c.attempts == 1 && c.consumedAt.isSome) = true := by
    decide +kernel
  obtain ⟨p, hp, htest⟩ := (Option.any_eq_true ..).mp hrun
  obtain ⟨c, hc, htest⟩ := List.any_eq_true.mp htest
  rw [Bool.and_eq_true, beq_iff_eq] at htest
  have hsound : ∀ p i env, oneByOne p i env = true → OneByOne sampleRuntime p (.run i env) :=
    fun _ _ _ h ↦ oneByOne_sound h
  have hreach := reach_guesses (fun _ _ ↦ trivial) hsound hp
  exact ⟨p, c, hc, htest.1, htest.2, otp_attempts_bounded hreach c hc⟩

/-- Six wrong guesses and two right ones read the challenge before any of them writes. -/
theorem guessed_at_once : ∃ p : Pool AuthDb Verification,
    Reach (verifications sampleRuntime).Step (fun _ _ ↦ True) (fun p ↦ p.threads = []) p ∧
      ∃ c ∈ p.shared.otpChallenges.rows,
        c.maxAttempts < p.threads.countP (compares sampleRuntime false c.id) ∧
          p.threads.countP (succeeds c.id) = 2 := by
  have hrun : ((verifications sampleRuntime).play (fun _ _ _ ↦ true)
      ((List.range 8).map (fun i ↦ (i, sampleEnv 1 "2")) ++ [(6, sampleEnv 2 "3"),
        (6, sampleEnv 3 "4"), (7, sampleEnv 2 "5"), (7, sampleEnv 3 "6")])
      ⟨challengeDb, (List.replicate 6 "000000" ++ ["123456", "123456"]).map guess⟩).any (fun p ↦
        p.shared.otpChallenges.rows.any fun c ↦
          decide (c.maxAttempts < p.threads.countP (compares sampleRuntime false c.id)) &&
            p.threads.countP (succeeds c.id) == 2) = true := by
    decide +kernel
  obtain ⟨p, hp, htest⟩ := (Option.any_eq_true ..).mp hrun
  obtain ⟨c, hc, htest⟩ := List.any_eq_true.mp htest
  rw [Bool.and_eq_true, decide_eq_true_eq, beq_iff_eq] at htest
  exact ⟨p, reach_guesses (fun _ _ ↦ trivial) (fun _ _ _ _ ↦ trivial) hp, c, hc, htest⟩

end Sample

end Innovents.Auth
