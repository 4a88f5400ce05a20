import Innovents.Auth.AuthService
import Innovents.Auth.OtpCooldown

namespace Innovents.Auth

open Innovents.Lib Innovents.Payments OtpService AuthService

/-- The requests that anybody may send for an address. -/
inductive AddressRequest
  | passwordReset | emailVerification
  deriving DecidableEq

namespace AddressRequest

def purpose : AddressRequest → OtpPurpose
  | passwordReset => .passwordReset
  | emailVerification => .emailVerification

def call (rt : Runtime) (email : String) : AddressRequest → AuthCall Confirmation
  | passwordReset => requestPasswordReset rt email
  | emailVerification => requestOtp rt email .emailVerification

/-- The answer that does not tell whether there is an account. -/
def generic : AddressRequest → Confirmation
  | passwordReset => passwordResetResponse
  | emailVerification => requestOtpResponse

/-- The request asks for a code if the account exists. -/
def asksFor (u : User) : AddressRequest → Bool
  | passwordReset => true
  | emailVerification => u.emailVerifiedAt.isNone

end AddressRequest

open AddressRequest

/-- The database answers at this time, and new ids are new. -/
def Calm (now : Time) (env : AuthEnv) : Prop :=
  env.now = now ∧ env.fault = none ∧ ∀ taken, env.newId taken ∉ taken

/-- What the requests at these times are answered, one after another. -/
inductive Answers (rt : Runtime) (email : String) : AuthDb → List (AddressRequest × Time) →
    List (Except AuthError Confirmation) → Prop
  | nil {db : AuthDb} : Answers rt email db [] []
  | cons {db db' : AuthDb} {request : AddressRequest} {now : Time}
      {r : Except AuthError Confirmation} {rest : List (AddressRequest × Time)}
      {rs : List (Except AuthError Confirmation)} :
      Call.Ran (Calm now) (request.call rt email) db r db' → Answers rt email db' rest rs →
      Answers rt email db ((request, now) :: rest) (r :: rs)

/-- The key of the challenges of an address. -/
def challengeKey (rt : Runtime) (email : String) : String := rt.normalize (rt.normalize email)

/-- The requests that ask for a code come after the open challenge and a cooldown apart. -/
structure Patient (rt : Runtime) (email : String) (u : User) (db : AuthDb)
    (requests : List (AddressRequest × Time)) : Prop where
  first : ∀ a ∈ requests, a.1.asksFor u = true →
    Free (challengeKey rt email) a.1.purpose a.2 db
  apart : requests.Pairwise fun a b : AddressRequest × Time ↦ a.1.asksFor u = true → a.1 = b.1 →
    a.2 + rt.otpCooldownSeconds * 1000 ≤ b.2

section Calls

variable {rt : Runtime} {identifier email : String} {purpose : OtpPurpose} {now : Time}
  {db db' : AuthDb} {u : User}

/-- A code is refused during the cooldown only. -/
theorem createChallenge_calm {userId : Option String} :
    (createChallenge rt identifier purpose userId).wp Undisturbed (fun _ ↦ Calm now)
      (fun r db' ↦ db'.users = db.users ∧ (Free (rt.normalize identifier) purpose now db →
        ∃ result, r = .ok result)) db := by
  refine Call.wpg_bind (wpg_finds_calm (fun _ h ↦ h.2.1) (fun _ ↦ trivial) fun db₁ env h₁ henv ↦ ?_)
  cases h₁
  rw [henv.1]
  dsimp only
  cases hrecent : (latest (rt.normalize identifier) purpose db).filter (now < ·.resendAfter) with
  | some recent =>
    obtain ⟨hlatest, hwait⟩ := Option.filter_eq_some_iff.mp hrecent
    refine ⟨rfl, fun hfree ↦ ?_⟩
    exact absurd (of_decide_eq_true hwait) (not_lt.mpr (hfree recent hlatest))
  | none =>
    refine Call.wpg_bind (wpg_stores_calm (fun _ h ↦ h.2.1) fun db₂ env₂ h₂ _ ↦ ?_)
    cases h₂
    obtain ⟨t, ht⟩ := Table.updateMany_succeeds (t := db.otpChallenges)
      (p := isActive (rt.normalize identifier) purpose) (f := consume env₂.now) (fun _ ↦ rfl) nofun
    refine ⟨_, (), by rw [ht]; rfl, trivial, ?_⟩
    refine Call.wpg_bind (wpg_stores_calm (fun _ h ↦ h.2.1) fun db₃ env₃ h₃ henv₃ ↦ ?_)
    cases h₃
    obtain ⟨t', ht'⟩ := Table.create_succeeds (t := t)
      (r := newChallenge rt env₃ (rt.normalize identifier) purpose userId t) fun a ha ↦
        clash_eq_false (fun hid ↦ henv₃.2.2 _ (by
          rw [← show Row.id a = env₃.newId _ from hid]
          exact List.mem_map_of_mem ha)) nofun
    refine ⟨_, (env₃.otp, _), by rw [ht']; rfl, trivial, ?_⟩
    exact Call.wpg_bind (wpg_log (fun _ _ ↦ trivial) fun db₄ logs h₄ ↦ by
      cases h₄
      exact ⟨rfl, fun _ ↦ ⟨_, rfl⟩⟩)

/-- What becomes of a request for an account that exists. -/
inductive Answered (rt : Runtime) (email : String) (u : User) (now : Time) (request : AddressRequest)
    (db : AuthDb) : Except AuthError Confirmation → AuthDb → Prop
  | quiet : request.asksFor u = false → Answered rt email u now request db (.ok request.generic) db
  | refused {x : AuthError} {db' : AuthDb} : request.asksFor u = true →
      ¬Free (challengeKey rt email) request.purpose now db → db'.users = db.users →
      db'.otpChallenges = db.otpChallenges → Answered rt email u now request db (.error x) db'
  | sent {result : GeneratedOtpResult} {db' : AuthDb} : request.asksFor u = true →
      Free (challengeKey rt email) request.purpose now db → db'.users = db.users →
      Requested rt (challengeKey rt email) request.purpose now db (.ok result) db' →
      Answered rt email u now request db (.ok request.generic) db'

theorem Requested.later {r : Except AuthError GeneratedOtpResult} {db'' : AuthDb}
    (h : Requested rt identifier purpose now db r db') (hs : SameChallenges db' db'') :
    Requested rt identifier purpose now db r db'' := by
  cases h with
  | refused hsame => exact .refused (hs.trans hsame)
  | cleared hfree ht => exact .cleared hfree (by rw [hs]; exact ht)
  | created hfree ht hcreate hactive hlong =>
    exact .created hfree ht (by rw [hs]; exact hcreate) hactive hlong

/-- A code is created, and what follows does not fail. -/
theorem sends_answered (request : AddressRequest) {userId : Option String}
    {rest : GeneratedOtpResult → AuthCall Confirmation} (hasks : request.asksFor u = true)
    (hrest : ∀ result db₁, (rest result).wp Undisturbed (fun _ ↦ Calm now) (fun r db₂ ↦
      r = .ok request.generic ∧ db₂.users = db₁.users ∧ SameChallenges db₁ db₂) db₁) :
    ((createChallenge rt (rt.normalize email) request.purpose userId).bind rest).wp Undisturbed
      (fun _ ↦ Calm now) (Answered rt email u now request db) db := by
  have hrequested : (createChallenge rt (rt.normalize email) request.purpose userId).wp Undisturbed
      (fun _ ↦ Calm now) (Requested rt (challengeKey rt email) request.purpose now db) db :=
    Call.wpg_anti (fun _ _ h ↦ congrArg AuthDb.otpChallenges h) (fun _ _ h ↦ h.1)
      createChallenge_requested
  refine Call.wpg_bind (Call.wpg_mono (Call.wpg_and createChallenge_calm hrequested) ?_)
  rintro r db₁ ⟨⟨husers, hfree⟩, hr⟩
  cases hr with
  | refused hsame =>
    refine .refused hasks (fun h ↦ ?_) husers hsame
    obtain ⟨result, hresult⟩ := hfree h
    cases hresult
  | cleared h =>
    obtain ⟨result, hresult⟩ := hfree h
    cases hresult
  | @created result _ _ _ h ht hcreate hactive hlong =>
    have hcreated : Requested rt (challengeKey rt email) request.purpose now db (.ok result) db₁ :=
      .created h ht hcreate hactive hlong
    refine Call.wpg_mono (hrest _ db₁) ?_
    rintro r db₂ ⟨rfl, husers₂, hsame₂⟩
    exact .sent hasks h (husers₂.trans husers) (hcreated.later hsame₂)

theorem addEmailJob_calm {job : EmailJob} {response : Confirmation} :
    ((addEmailJob job).bind fun _ ↦ pure response).wp Undisturbed (fun _ ↦ Calm now) (fun r db' ↦
      r = .ok response ∧ db'.users = db.users ∧ SameChallenges db db') db := by
  refine Call.wpg_bind (wpg_stores_calm (fun _ h ↦ h.2.1) fun db₁ env h₁ _ ↦ ?_)
  cases h₁
  refine ⟨_, (), rfl, trivial, rfl, ?_⟩
  split_ifs
  · exact ⟨rfl, rfl⟩
  · exact ⟨rfl, rfl⟩

theorem enqueue_calm {params : CreateOutboxEventParams} {rest : AuthCall Confirmation}
    {response : Confirmation} (hrest : ∀ db₁, rest.wp Undisturbed (fun _ ↦ Calm now) (fun r db₂ ↦
      r = .ok response ∧ db₂.users = db₁.users ∧ SameChallenges db₁ db₂) db₁) :
    ((OutboxService.enqueue params).bind fun _ ↦ rest).wp Undisturbed (fun _ ↦ Calm now)
      (fun r db' ↦ r = .ok response ∧ db'.users = db.users ∧ SameChallenges db db') db := by
  refine Call.wpg_bind (wpg_stores_calm (fun _ h ↦ h.2.1) fun db₁ env h₁ henv ↦ ?_)
  cases h₁
  obtain ⟨t, ht⟩ := Table.create_succeeds (t := db.outboxEvents)
    (r := { id := env.idFor db.outboxEvents
            eventType := params.eventType
            aggregateType := params.aggregateType
            aggregateId := params.aggregateId
            payload := .obj params.payload
            status := .pending
            attempts := 0
            lastError := none
            createdAt := env.now
            processedAt := none
            processingStartedAt := none }) fun a ha ↦ clash_eq_false (fun hid ↦ henv.2.2 _ (by
      rw [← show Row.id a = env.newId _ from hid]
      exact List.mem_map_of_mem ha)) nofun
  refine ⟨{ db with outboxEvents := t }, (), ?_, trivial, ?_⟩
  · simp only [OutboxService.written, ht]
    rfl
  · exact Call.wpg_mono (hrest _) fun r db₂ h ↦ h

theorem call_answered {request : AddressRequest} (hu : db.account (rt.normalize email) = some u) :
    (request.call rt email).wp Undisturbed (fun _ ↦ Calm now) (Answered rt email u now request db)
      db := by
  cases request with
  | passwordReset =>
    refine Call.wpg_bind (wpg_finds_calm (fun _ h ↦ h.2.1) (fun _ ↦ trivial) fun db₁ env h₁ _ ↦ ?_)
    cases h₁
    rw [hu]
    exact sends_answered .passwordReset rfl fun result db₁ ↦
      enqueue_calm fun db₂ ↦ addEmailJob_calm
  | emailVerification =>
    refine Call.wpg_bind (wpg_finds_calm (fun _ h ↦ h.2.1) (fun _ ↦ trivial) fun db₁ env h₁ _ ↦ ?_)
    cases h₁
    rw [hu]
    dsimp only [Option.all_some]
    split_ifs with hverified
    · refine .quiet ?_
      simpa [asksFor, Option.isSome_iff_ne_none] using hverified.2
    · refine sends_answered .emailVerification ?_ fun result db₁ ↦ addEmailJob_calm
      simpa [asksFor] using hverified

/-- Without an account there is only one answer. -/
theorem call_unknown {request : AddressRequest} (hnone : db.account (rt.normalize email) = none) :
    (request.call rt email).wp Undisturbed (fun _ ↦ Calm now)
      (fun r db' ↦ r = .ok request.generic ∧ db' = db) db := by
  cases request with
  | passwordReset =>
    refine Call.wpg_bind (wpg_finds_calm (fun _ h ↦ h.2.1) (fun _ ↦ trivial) fun db₁ env h₁ _ ↦ ?_)
    cases h₁
    rw [hnone]
    exact ⟨rfl, rfl⟩
  | emailVerification =>
    refine Call.wpg_bind (wpg_finds_calm (fun _ h ↦ h.2.1) (fun _ ↦ trivial) fun db₁ env h₁ _ ↦ ?_)
    cases h₁
    rw [hnone]
    dsimp only
    rw [if_pos ⟨rfl, rfl⟩]
    exact ⟨rfl, rfl⟩

end Calls

section Keys

variable {rt : Runtime} {identifier : String} {purpose purpose' : OtpPurpose} {now time : Time}
  {db db' : AuthDb} {result : GeneratedOtpResult}

theorem filter_map_of_neither {α : Type} {q : α → Bool} {g : α → α} {l : List α}
    (h : ∀ a ∈ l, g a = a ∨ q a = false ∧ q (g a) = false) : (l.map g).filter q = l.filter q := by
  induction l with
  | nil => rfl
  | cons a l ih =>
    have ih := ih fun b hb ↦ h b (List.mem_cons_of_mem a hb)
    rcases h a List.mem_cons_self with hsame | ⟨hbefore, hafter⟩
    · rw [List.map_cons, hsame, List.filter_cons, List.filter_cons, ih]
    · rw [List.map_cons, List.filter_cons_of_neg (by simp [hafter]),
        List.filter_cons_of_neg (by simp [hbefore]), ih]

/-- A new code leaves the challenges for another purpose alone. -/
theorem Requested.latest_other (h : Requested rt identifier purpose now db (.ok result) db')
    (hne : purpose' ≠ purpose) :
    latest identifier purpose' db' = latest identifier purpose' db := by
  cases h with
  | @created _ _ t c hfree ht hcreate hactive hlong =>
    have hother : isActive identifier purpose' c = false := by
      rw [← Bool.not_eq_true]
      intro hc
      exact hne ((isActive_iff.mp hc).2.1.symm.trans (isActive_iff.mp hactive).2.1)
    rw [latest, latest, Table.create_eq_ok.mp hcreate, Table.store_eq_ok.mp ht, List.filter_append,
      List.filter_cons_of_neg (by simp [hother]), List.filter_nil, List.append_nil,
      filter_map_of_neither fun a _ ↦ ?_]
    split_ifs with ha
    · refine .inr ⟨?_, by simp [isActive, consume]⟩
      rw [← Bool.not_eq_true]
      intro ha'
      exact hne ((isActive_iff.mp ha').2.1.symm.trans (isActive_iff.mp ha).2.1)
    · exact .inl rfl

/-- After a new code the next one is free when the cooldown is over. -/
theorem Requested.free_iff (h : Requested rt identifier purpose now db (.ok result) db') :
    Free identifier purpose time db' ↔ now + rt.otpCooldownSeconds * 1000 ≤ time := by
  have hwaits := h.created_waits
  constructor
  · intro hfree
    by_contra hearly
    exact hwaits.not_free (not_le.mp hearly) hfree
  · intro hlate c hc
    obtain ⟨hmem, hactive⟩ := latest_mem hc
    rw [h.active.2 c hmem hactive]
    exact hlate

end Keys

section Runs

variable {rt : Runtime} {email : String} {u : User} {db db' : AuthDb} {request : AddressRequest}
  {now : Time} {rest requests : List (AddressRequest × Time)}
  {rs : List (Except AuthError Confirmation)}

theorem purpose_injective {a b : AddressRequest} (h : a.purpose = b.purpose) : a = b := by
  cases a <;> cases b <;> first | rfl | cases h

/-- A request that asks for no code does not count. -/
theorem patient_quiet (hasks : request.asksFor u = false) :
    Patient rt email u db ((request, now) :: rest) ↔ Patient rt email u db rest := by
  constructor
  · intro h
    exact ⟨fun a ha ↦ h.first a (List.mem_cons_of_mem _ ha), (List.pairwise_cons.mp h.apart).2⟩
  · intro h
    refine ⟨fun a ha hask ↦ ?_, List.pairwise_cons.mpr ⟨fun b _ hask ↦ ?_, h.apart⟩⟩
    · rcases List.mem_cons.mp ha with rfl | ha
      · rw [hasks] at hask
        cases hask
      · exact h.first a ha hask
    · rw [hasks] at hask
      cases hask

/-- After a request that got its code, the next one for the same purpose waits for a cooldown. -/
theorem patient_sent {result : GeneratedOtpResult} (hasks : request.asksFor u = true)
    (hfree : Free (challengeKey rt email) request.purpose now db)
    (h : Requested rt (challengeKey rt email) request.purpose now db (.ok result) db') :
    Patient rt email u db ((request, now) :: rest) ↔ Patient rt email u db' rest := by
  have hother (a : AddressRequest) (hne : a ≠ request) (time : Time) :
      Free (challengeKey rt email) a.purpose time db' ↔
        Free (challengeKey rt email) a.purpose time db := by
    rw [Free, Free, h.latest_other fun he ↦ hne (purpose_injective he)]
  constructor
  · intro hp
    obtain ⟨hhead, htail⟩ := List.pairwise_cons.mp hp.apart
    refine ⟨fun a ha hask ↦ ?_, htail⟩
    by_cases he : a.1 = request
    · rw [he]
      exact h.free_iff.mpr (hhead a ha hasks he.symm)
    · exact (hother a.1 he a.2).mpr (hp.first a (List.mem_cons_of_mem _ ha) hask)
  · intro hp
    have hlate : ∀ a ∈ rest, request = a.1 → now + rt.otpCooldownSeconds * 1000 ≤ a.2 := by
      intro a ha he
      have hfirst := hp.first a ha (he ▸ hasks)
      rw [← he] at hfirst
      exact h.free_iff.mp hfirst
    refine ⟨fun a ha hask ↦ ?_, List.pairwise_cons.mpr ⟨fun b hb _ he ↦ hlate b hb he, hp.apart⟩⟩
    rcases List.mem_cons.mp ha with rfl | ha
    · exact hfree
    · by_cases he : a.1 = request
      · have hnow : now ≤ a.2 := le_trans (by simp) (hlate a ha he.symm)
        intro c hc
        rw [he] at hc
        exact (hfree c hc).trans hnow
      · exact (hother a.1 he a.2).mp (hp.first a ha hask)

/-- Without an account all answers are the generic ones. -/
theorem answers_unknown (hnone : db.account (rt.normalize email) = none)
    (h : Answers rt email db requests rs) : rs = requests.map fun a ↦ .ok a.1.generic := by
  induction h with
  | nil => rfl
  | cons hr _ ih =>
    obtain ⟨rfl, rfl⟩ := Call.wpg_ran (call_unknown hnone) (fun _ ↦ rfl) (fun _ _ h ↦ h) hr
    rw [ih hnone, List.map_cons]

/-- With an account they are the generic ones if the requests are patient. -/
theorem answers_account (hu : db.account (rt.normalize email) = some u)
    (h : Answers rt email db requests rs) :
    (rs = requests.map fun a ↦ .ok a.1.generic) ↔ Patient rt email u db requests := by
  induction h with
  | nil => exact ⟨fun _ ↦ ⟨nofun, .nil⟩, fun _ ↦ rfl⟩
  | cons hr _ ih =>
    have hanswered := Call.wpg_ran (call_answered hu) (fun _ ↦ rfl) (fun _ _ h ↦ h) hr
    cases hanswered with
    | quiet hasks => rw [List.map_cons, List.cons_inj_right, ih hu, patient_quiet hasks]
    | refused hasks hbusy =>
      refine ⟨fun he ↦ ?_, fun hp ↦ absurd (hp.first _ List.mem_cons_self hasks) hbusy⟩
      rw [List.map_cons, List.cons.injEq] at he
      cases he.1
    | sent hasks hfree husers hrequested =>
      rw [List.map_cons, List.cons_inj_right, ih (by rw [AuthDb.account, husers]; exact hu),
        patient_sent hasks hfree hrequested]

theorem exists_calm (now : Time) : ∃ env, Calm now env := exists_fresh now

theorem exists_answers (rt : Runtime) (email : String) (db : AuthDb)
    (requests : List (AddressRequest × Time)) : ∃ rs, Answers rt email db requests rs := by
  induction requests generalizing db with
  | nil => exact ⟨[], .nil⟩
  | cons a rest ih =>
    obtain ⟨env, henv⟩ := exists_calm a.2
    obtain ⟨r, db', hr⟩ := Call.exists_ran henv (a.1.call rt email) db
    obtain ⟨rs, hrs⟩ := ih db'
    exact ⟨r :: rs, .cons hr hrs⟩

/-- The answers to the requests for an address tell whether it has an account, unless they come
after the open challenge of the account and a cooldown apart. -/
theorem requests_tell_nothing_iff {db₀ db₁ : AuthDb} (h₀ : db₀.account (rt.normalize email) = none)
    (h₁ : db₁.account (rt.normalize email) = some u) :
    (∀ rs₀ rs₁, Answers rt email db₀ requests rs₀ → Answers rt email db₁ requests rs₁ → rs₀ = rs₁) ↔
      Patient rt email u db₁ requests := by
  constructor
  · intro h
    obtain ⟨rs₀, hrs₀⟩ := exists_answers rt email db₀ requests
    obtain ⟨rs₁, hrs₁⟩ := exists_answers rt email db₁ requests
    have heq := h rs₀ rs₁ hrs₀ hrs₁
    rw [answers_unknown h₀ hrs₀] at heq
    exact (answers_account h₁ hrs₁).mp heq.symm
  · intro hpatient rs₀ rs₁ hrs₀ hrs₁
    rw [answers_unknown h₀ hrs₀, (answers_account h₁ hrs₁).mpr hpatient]

end Runs

section Sample

/-- Two password resets a minute apart. -/
theorem resets_apart : ∃ rs,
    Answers sampleRuntime "attendee@example.com" .empty [(.passwordReset, 0), (.passwordReset, 60000)]
      rs ∧
    Answers sampleRuntime "attendee@example.com" attendeeDb
      [(.passwordReset, 0), (.passwordReset, 60000)] rs := by
  obtain ⟨rs₀, hrs₀⟩ := exists_answers sampleRuntime "attendee@example.com" .empty
    [(.passwordReset, 0), (.passwordReset, 60000)]
  obtain ⟨rs₁, hrs₁⟩ := exists_answers sampleRuntime "attendee@example.com" attendeeDb
    [(.passwordReset, 0), (.passwordReset, 60000)]
  have hfree : ∀ time, Free "attendee@example.com" .passwordReset time attendeeDb := nofun
  have hsame : rs₀ = rs₁ := by
    refine (requests_tell_nothing_iff (u := attendee) rfl rfl).mpr ⟨fun a ha _ ↦ ?_, ?_⟩ rs₀ rs₁
      hrs₀ hrs₁
    · simp only [List.mem_cons, List.not_mem_nil, or_false] at ha
      rcases ha with rfl | rfl
      · exact hfree 0
      · exact hfree 60000
    · refine List.pairwise_cons.mpr ⟨fun a ha _ _ ↦ ?_, List.pairwise_singleton _ _⟩
      rw [List.mem_singleton.mp ha]
      decide
  exact ⟨rs₀, hrs₀, hsame ▸ hrs₁⟩

/-- Two password resets within a second: the second one fails if there is an account. -/
theorem resets_at_once : ∃ rs₀ rs₁,
    Answers sampleRuntime "attendee@example.com" .empty [(.passwordReset, 0), (.passwordReset, 1000)]
      rs₀ ∧
    Answers sampleRuntime "attendee@example.com" attendeeDb
      [(.passwordReset, 0), (.passwordReset, 1000)] rs₁ ∧ rs₀ ≠ rs₁ := by
  obtain ⟨rs₀, hrs₀⟩ := exists_answers sampleRuntime "attendee@example.com" .empty
    [(.passwordReset, 0), (.passwordReset, 1000)]
  obtain ⟨rs₁, hrs₁⟩ := exists_answers sampleRuntime "attendee@example.com" attendeeDb
    [(.passwordReset, 0), (.passwordReset, 1000)]
  refine ⟨rs₀, rs₁, hrs₀, hrs₁, fun heq ↦ ?_⟩
  rw [answers_unknown rfl hrs₀] at heq
  have hpatient := (answers_account (u := attendee) rfl hrs₁).mp heq.symm
  have hapart := List.rel_of_pairwise_cons hpatient.apart List.mem_cons_self rfl rfl
  exact absurd hapart (by decide)

end Sample

end Innovents.Auth
