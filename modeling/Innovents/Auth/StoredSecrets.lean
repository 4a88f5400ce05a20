import Innovents.Auth.OrganizerInvitationsService
import Innovents.Lib.TwoRuns

namespace Innovents.Auth

open Innovents.Lib Innovents.Payments AuthService OtpService OrganizerInvitationsService

/-- The calls that generate a code or an invitation token. -/
inductive SecretCall
  | register (dto : RegisterDto) (client : Client)
  | registerBusiness (dto : RegisterBusinessDto) (client : Client)
  | requestOtp (email : String) (purpose : OtpPurpose)
  | requestPasswordReset (email : String)
  | createInvitation (eventId ownerUserId : String) (ownerRoles : List String)
      (dto : CreateInvitationDto) (client : Client)

def SecretCall.run (rt : Runtime) : SecretCall → AuthCall Unit
  | register dto client => do
    let _ ← AuthService.register rt dto client
    return ()
  | registerBusiness dto client => do
    let _ ← AuthService.registerBusiness rt dto client
    return ()
  | requestOtp email purpose => do
    let _ ← AuthService.requestOtp rt email purpose
    return ()
  | requestPasswordReset email => do
    let _ ← AuthService.requestPasswordReset rt email
    return ()
  | createInvitation eventId ownerUserId ownerRoles dto client => do
    let _ ← OrganizerInvitationsService.createInvitation rt eventId ownerUserId ownerRoles dto client
    return ()

/-- The tables are the same; the email queue and Redis are not tables. -/
def SameStored (db db' : AuthDb) : Prop :=
  ∃ emailJobs redis, db' = { db with emailJobs, redis }

/-- Other generated values with the same digests. -/
def SameDigests (rt rt' : Runtime) (env env' : AuthEnv) : Prop :=
  ∃ otp randomToken, env' = { env with otp, randomToken } ∧ rt'.sha256 otp = rt.sha256 env.otp ∧
    rt'.sha256 randomToken = rt.sha256 env.randomToken

/-- The statements that store an outbox event with a generated value. -/
def StoresSecret (label : String) : Prop :=
  label = "outboxEvent.create" ∨ label = "organizerInvitation.create"

instance : DecidablePred StoresSecret := fun _ ↦ inferInstanceAs (Decidable (_ ∨ _))

/-- The calls run one after another, each with the inputs of its statements. -/
inductive SecretRun (rt : Runtime) (ok : AuthDb → SecretCall × List AuthEnv → Prop) :
    AuthDb → List (SecretCall × List AuthEnv) → AuthDb → Prop
  | nil {db : AuthDb} : SecretRun rt ok db [] db
  | cons {db db' db'' : AuthDb} {call : SecretCall} {envs : List AuthEnv} {r : Except AuthError Unit}
      {rest : List (SecretCall × List AuthEnv)} : ok db (call, envs) →
      Call.outcome envs db (call.run rt) = some (r, db') → SecretRun rt ok db' rest db'' →
      SecretRun rt ok db ((call, envs) :: rest) db''

/-- The call makes no statement that stores a generated value. -/
def Discreet (rt : Runtime) (db : AuthDb) (step : SecretCall × List AuthEnv) : Prop :=
  Call.Avoids StoresSecret step.2 db (step.1.run rt)

instance (rt : Runtime) (db : AuthDb) : DecidablePred (Discreet rt db) :=
  fun _ ↦ Call.decidableAvoids _ _ _ _

section Twins

variable {α : Type} {rt : Runtime} {h : String → String} {name email : String}

/-- Two runs whose generated values have the same digests. -/
abbrev Twins (rt : Runtime) (h : String → String) {α β : Type} (V : α → β → Prop) :
    AuthCall α → AuthCall β → Prop :=
  Call.Twin StoresSecret (SameDigests rt { rt with sha256 := h }) SameStored V

theorem SameStored.refl (db : AuthDb) : SameStored db db := ⟨_, _, rfl⟩

theorem twins_throws {status : HttpStatus} {message : String} :
    Twins rt h Eq (throws status message : AuthCall α) (throws status message) := rfl

theorem twins_finds {f g : AuthEnv → AuthDb → α}
    (hfg : ∀ env otp randomToken db emailJobs redis,
      f env db = g { env with otp, randomToken } { db with emailJobs, redis }) :
    Twins rt h Eq (finds name f) (finds name g) := by
  refine Call.twin_ask fun env env' henv db db' hdb ↦ ?_
  obtain ⟨otp, randomToken, rfl, -⟩ := henv
  obtain ⟨emailJobs, redis, rfl⟩ := hdb
  have hvalue : Alike Eq (.ok (f env db) : Except AuthError α)
      (.ok (g { env with otp, randomToken } { db with emailJobs, redis })) :=
    hfg env otp randomToken db emailJobs redis
  exact alike_elim hvalue

theorem twins_stores {V : α → α → Prop} {f g : AuthEnv → AuthDb → Except AuthError (AuthDb × α)}
    (hfg : ∀ env otp randomToken db emailJobs redis, h otp = rt.sha256 env.otp →
      Alike (fun p q ↦ SameStored p.1 q.1 ∧ V p.2 q.2) (f env db)
        (g { env with otp, randomToken } { db with emailJobs, redis })) :
    Twins rt h V (stores name f) (stores name g) := by
  refine Call.twin_perform fun env env' henv db db' hdb ↦ ?_
  obtain ⟨otp, randomToken, rfl, hotp, -⟩ := henv
  obtain ⟨emailJobs, redis, rfl⟩ := hdb
  exact alike_elim (hfg env otp randomToken db emailJobs redis hotp)

theorem twins_log {params : CreateAuditLogParams} {client : Client} :
    Twins rt h Eq (AuditService.log params client) (AuditService.log params client) := by
  refine ⟨rfl, fun _ env env' henv db db' hdb ↦ ⟨?_, rfl⟩⟩
  obtain ⟨otp, randomToken, rfl, -⟩ := henv
  obtain ⟨emailJobs, redis, rfl⟩ := hdb
  show SameStored (AuditService.written params client env db)
    (AuditService.written params client { env with otp, randomToken } { db with emailJobs, redis })
  unfold AuditService.written
  have hcreate : AuditService.create params client { env with otp, randomToken }
      { db with emailJobs, redis } = AuditService.create params client env db := rfl
  rw [hcreate]
  dsimp only
  split
  · exact ⟨_, _, rfl⟩
  · exact ⟨_, _, rfl⟩

theorem twins_bind {β γ δ : Type} {V : α → γ → Prop} {W : β → δ → Prop} {c : AuthCall α}
    {d : AuthCall γ} {f : α → AuthCall β} {g : γ → AuthCall δ} (hcd : Twins rt h V c d)
    (hfg : ∀ a b, V a b → Twins rt h W (f a) (g b)) : Twins rt h W (c.bind f) (d.bind g) :=
  Call.twin_bind hcd hfg

/-- Values that are equal. -/
theorem twins_bind_eq {β : Type} {c d : AuthCall α} {f g : α → AuthCall β} (hcd : Twins rt h Eq c d)
    (hfg : ∀ a, Twins rt h Eq (f a) (g a)) : Twins rt h Eq (c.bind f) (d.bind g) :=
  Call.twin_bind hcd fun a _ hab ↦ hab ▸ hfg a

theorem twins_createChallenge {purpose : OtpPurpose} {userId : Option String} :
    Twins rt h (fun _ _ ↦ True) (createChallenge rt email purpose userId)
      (createChallenge { rt with sha256 := h } email purpose userId) := by
  refine twins_bind (twins_finds fun _ _ _ _ _ _ ↦ rfl) fun found found' hfound ↦ ?_
  subst hfound
  obtain ⟨recent, now⟩ := found
  dsimp only
  split
  · exact rfl
  · refine twins_bind (V := Eq) (twins_stores fun env otp randomToken db emailJobs redis _ ↦ ?_)
      fun _ _ _ ↦ twins_bind (V := fun p q ↦ p.2 = q.2)
        (twins_stores fun env otp randomToken db emailJobs redis hotp ↦ ?_) fun p q hpq ↦ ?_
    · exact alike_bind fun t ↦ ⟨⟨_, _, rfl⟩, rfl⟩
    · have hchallenge : newChallenge { rt with sha256 := h } { env with otp, randomToken }
          (rt.normalize email) purpose userId db.otpChallenges =
            newChallenge rt env (rt.normalize email) purpose userId db.otpChallenges := by
        simp only [newChallenge, hotp]
        rfl
      rw [hchallenge]
      exact alike_bind fun t ↦ ⟨⟨_, _, rfl⟩, rfl⟩
    · obtain ⟨code, challengeId⟩ := p
      obtain ⟨code', challengeId'⟩ := q
      cases hpq
      exact twins_bind twins_log fun _ _ _ ↦ trivial

theorem twins_enqueue {β γ : Type} {V : β → γ → Prop} {params params' : CreateOutboxEventParams}
    {f : Unit → AuthCall β} {g : Unit → AuthCall γ} :
    Twins rt h V ((OutboxService.enqueue params).bind f) ((OutboxService.enqueue params').bind g) :=
  Call.twin_avoided (.inl rfl)

/-- What follows the stored code is not compared. -/
theorem twins_sendVerificationCode {userId subject : String} :
    Twins rt h (fun _ _ ↦ False) (sendVerificationCode rt userId email subject)
      (sendVerificationCode { rt with sha256 := h } userId email subject) :=
  twins_bind twins_createChallenge fun _ _ _ ↦ twins_enqueue

theorem twins_requireFree {phone : Option String} :
    Twins rt h Eq (requireFree email phone) (requireFree email phone) := by
  refine twins_bind_eq (twins_finds fun _ _ _ _ _ _ ↦ rfl) fun existingUser ↦ ?_
  split_ifs
  · exact twins_throws
  · cases phone with
    | none => exact rfl
    | some phone =>
      refine twins_bind_eq (twins_finds fun _ _ _ _ _ _ ↦ rfl) fun existingPhone ↦ ?_
      split_ifs
      · exact twins_throws
      · exact rfl

theorem twins_createAccount {phone : Option String} {passwordHash : String → String}
    {role profileTable : String} {columns : List (String × Option String)} :
    Twins rt h Eq (createAccount email phone passwordHash role profileTable columns)
      (createAccount email phone passwordHash role profileTable columns) :=
  twins_stores fun _ _ _ _ _ _ _ ↦ alike_bind fun _ ↦ alike_bind fun _ ↦ ⟨⟨_, _, rfl⟩, rfl⟩

theorem twins_addEmailJob {job job' : EmailJob} :
    Twins rt h Eq (addEmailJob job) (addEmailJob job') := by
  refine twins_stores fun env otp randomToken db emailJobs redis _ ↦ ⟨?_, rfl⟩
  dsimp only
  split_ifs
  · exact ⟨_, _, rfl⟩
  · exact ⟨_, _, rfl⟩

theorem twins_register {dto : RegisterDto} {client : Client} :
    Twins rt h Eq (register rt dto client) (register { rt with sha256 := h } dto client) := by
  refine twins_bind_eq twins_requireFree fun _ ↦
    twins_bind_eq (twins_finds fun _ _ _ _ _ _ ↦ rfl) fun roleRecord ↦ ?_
  cases roleRecord with
  | none => exact twins_throws
  | some roleRecord =>
    exact twins_bind_eq twins_createAccount fun _ ↦ twins_bind twins_sendVerificationCode nofun

theorem twins_registerBusiness {dto : RegisterBusinessDto} {client : Client} :
    Twins rt h Eq (registerBusiness rt dto client)
      (registerBusiness { rt with sha256 := h } dto client) := by
  refine twins_bind_eq twins_requireFree fun _ ↦
    twins_bind_eq (twins_finds fun _ _ _ _ _ _ ↦ rfl) fun roleRecord ↦ ?_
  cases roleRecord with
  | none => exact twins_throws
  | some roleRecord =>
    have htrimmed : trimmed { rt with sha256 := h } = trimmed rt := rfl
    have hprofile : businessProfile { rt with sha256 := h } = businessProfile rt := rfl
    simp only [htrimmed, hprofile]
    cases businessProfile rt dto (rt.normalize dto.email) (trimmed rt dto.phone) with
    | error message => exact twins_stores fun _ _ _ _ _ _ _ ↦ alike_bind fun _ ↦ rfl
    | ok profile =>
      exact twins_bind_eq twins_createAccount fun _ ↦ twins_bind twins_sendVerificationCode nofun

theorem twins_requestOtp {purpose : OtpPurpose} :
    Twins rt h Eq (requestOtp rt email purpose)
      (requestOtp { rt with sha256 := h } email purpose) := by
  refine twins_bind_eq (twins_finds fun _ _ _ _ _ _ ↦ rfl) fun user ↦ ?_
  dsimp only
  split_ifs
  · exact rfl
  · exact twins_bind twins_createChallenge fun _ _ _ ↦ twins_bind twins_addEmailJob fun _ _ _ ↦ rfl

theorem twins_requestPasswordReset :
    Twins rt h Eq (requestPasswordReset rt email)
      (requestPasswordReset { rt with sha256 := h } email) := by
  refine twins_bind_eq (twins_finds fun _ _ _ _ _ _ ↦ rfl) fun user ↦ ?_
  cases user with
  | none => exact rfl
  | some user => exact twins_bind twins_createChallenge fun _ _ _ ↦ twins_enqueue

theorem twins_createInvitation {eventId ownerUserId : String} {ownerRoles : List String}
    {dto : CreateInvitationDto} {client : Client} :
    Twins rt h Eq (createInvitation rt eventId ownerUserId ownerRoles dto client)
      (createInvitation { rt with sha256 := h } eventId ownerUserId ownerRoles dto client) := by
  have hassert : Twins rt h Eq (assertCanInviteOrganizer ownerUserId ownerRoles eventId)
      (assertCanInviteOrganizer ownerUserId ownerRoles eventId) := by
    refine twins_bind_eq (twins_finds fun _ _ _ _ _ _ ↦ rfl) fun event ↦ ?_
    cases event with
    | none => exact twins_throws
    | some event =>
      dsimp only
      split_ifs
      · exact rfl
      · exact twins_throws
  refine twins_bind_eq hassert fun event ↦ twins_bind_eq
    (twins_stores fun env otp randomToken db emailJobs redis _ ↦ ?_) fun _ ↦ ?_
  · exact alike_bind fun _ ↦ ⟨⟨_, _, rfl⟩, rfl⟩
  · exact Call.twin_avoided (.inr rfl)

theorem twins_run (call : SecretCall) :
    Twins rt h Eq (call.run rt) (call.run { rt with sha256 := h }) := by
  cases call with
  | register => exact twins_bind_eq twins_register fun _ ↦ rfl
  | registerBusiness => exact twins_bind_eq twins_registerBusiness fun _ ↦ rfl
  | requestOtp => exact twins_bind_eq twins_requestOtp fun _ ↦ rfl
  | requestPasswordReset => exact twins_bind_eq twins_requestPasswordReset fun _ ↦ rfl
  | createInvitation => exact twins_bind_eq twins_createInvitation fun _ ↦ rfl

end Twins

section Runs

variable {rt : Runtime} {h : String → String} {db db' db₂ : AuthDb}
  {steps steps' : List (SecretCall × List AuthEnv)}

/-- The same calls, with other generated values that have the same digests. -/
def Disguised (rt : Runtime) (h : String → String) (step step' : SecretCall × List AuthEnv) : Prop :=
  step'.1 = step.1 ∧ List.Forall₂ (SameDigests rt { rt with sha256 := h }) step.2 step'.2

theorem secretRun_twins (hrun : SecretRun rt (Discreet rt) db steps db') {db₁ : AuthDb}
    (hdb : SameStored db db₁) (hsteps : List.Forall₂ (Disguised rt h) steps steps')
    (hrun' : SecretRun { rt with sha256 := h } (fun _ _ ↦ True) db₁ steps' db₂) :
    SameStored db' db₂ := by
  induction hrun generalizing db₁ steps' with
  | nil =>
    cases hsteps
    cases hrun'
    exact hdb
  | @cons db db' db'' call envs r rest havoid hcall _ ih =>
    cases hsteps with
    | @cons _ step' _ rest' hstep hrest =>
      cases hrun' with
      | @cons _ db₁' _ call' envs' r' _ _ hcall' hrun' =>
        obtain ⟨rfl, henvs⟩ := hstep
        obtain ⟨q, t, ht, hdb', -⟩ := (twins_run call').outcome henvs hdb havoid hcall
        cases ht.symm.trans hcall'
        exact ih hdb' hrest hrun'

/-- Unless a statement stores an outbox event with a generated value, the tables depend on the
generated values through their digests only. -/
theorem stored_secrets (hrun : SecretRun rt (Discreet rt) db steps db')
    (hsteps : List.Forall₂ (Disguised rt h) steps steps')
    (hrun' : SecretRun { rt with sha256 := h } (fun _ _ ↦ True) db steps' db₂) :
    SameStored db' db₂ := secretRun_twins hrun (.refl db) hsteps hrun'

end Runs

section Sample

/-- A hash function under which another code has the digest of the first one. -/
def swappedSha256 (text : String) : String :=
  if text = "654321" then sampleSha256 "123456" else sampleSha256 text

def otpEnvs (otp : String) : List AuthEnv :=
  (List.range 8).map fun i : ℕ ↦ { sampleEnv i (toString i) with otp }

theorem otpEnvs_disguised (call : SecretCall) :
    List.Forall₂ (Disguised sampleRuntime swappedSha256) [(call, otpEnvs "123456")]
      [(call, otpEnvs "654321")] := by
  refine .cons ⟨rfl, List.forall₂_map_left_iff.mpr (List.forall₂_map_right_iff.mpr ?_)⟩ .nil
  refine List.forall₂_same.mpr fun i hi ↦ ⟨"654321", "refresh-" ++ toString i, rfl, rfl, ?_⟩
  have hne : ∀ i ∈ List.range 8, "refresh-" ++ toString i ≠ "654321" := by decide +kernel
  show swappedSha256 ("refresh-" ++ toString i) = _
  rw [swappedSha256, if_neg (hne i hi)]
  rfl

theorem single_run {rt : Runtime} {ok : AuthDb → SecretCall × List AuthEnv → Prop} {db : AuthDb}
    {call : SecretCall} {envs : List AuthEnv} (check : AuthDb → Bool) (hok : ok db (call, envs))
    (h : (Call.outcome envs db (call.run rt)).any (fun p ↦ check p.2) = true) :
    ∃ db', SecretRun rt ok db [(call, envs)] db' ∧ check db' = true := by
  obtain ⟨⟨r, db'⟩, hrun, hcheck⟩ := (Option.any_eq_true ..).mp h
  exact ⟨db', .cons hok hrun .nil, hcheck⟩

def holdsCode (db : AuthDb) : Bool :=
  db.outboxEvents.rows.any fun e ↦ (e.payload.get "code").isStr "123456"

def holdsDigest (db : AuthDb) : Bool :=
  db.otpChallenges.rows.any (·.codeHash == sampleSha256 "123456")

/-- A code that is requested is stored as its digest. -/
theorem requested_code_hashed : ∃ db' db₂ : AuthDb, holdsDigest db' = true ∧ SameStored db' db₂ := by
  let call := SecretCall.requestOtp "attendee@example.com" .loginVerification
  have hdiscreet : Discreet sampleRuntime attendeeDb (call, otpEnvs "123456") := by decide +kernel
  obtain ⟨db', hrun, hcheck⟩ : ∃ db', SecretRun sampleRuntime (Discreet sampleRuntime) attendeeDb
      [(call, otpEnvs "123456")] db' ∧ _ := single_run holdsDigest hdiscreet (by decide +kernel)
  obtain ⟨db₂, hrun₂, -⟩ : ∃ db₂, SecretRun { sampleRuntime with sha256 := swappedSha256 }
      (fun _ _ ↦ True) attendeeDb [(call, otpEnvs "654321")] db₂ ∧ _ :=
    single_run (fun _ ↦ true) trivial (by decide +kernel)
  exact ⟨db', db₂, hcheck, stored_secrets hrun (otpEnvs_disguised call) hrun₂⟩

/-- A code for a password reset is stored in the outbox. -/
theorem reset_code_stored : ∃ steps steps' db' db₂,
    SecretRun sampleRuntime (fun _ _ ↦ True) attendeeDb steps db' ∧
    List.Forall₂ (Disguised sampleRuntime swappedSha256) steps steps' ∧
    SecretRun { sampleRuntime with sha256 := swappedSha256 } (fun _ _ ↦ True) attendeeDb steps' db₂ ∧
    holdsCode db' = true ∧ ¬SameStored db' db₂ := by
  let call := SecretCall.requestPasswordReset "attendee@example.com"
  obtain ⟨db', hrun, hcheck⟩ : ∃ db', SecretRun sampleRuntime (fun _ _ ↦ True) attendeeDb
      [(call, otpEnvs "123456")] db' ∧ _ := single_run holdsCode trivial (by decide +kernel)
  obtain ⟨db₂, hrun₂, hcheck₂⟩ : ∃ db₂, SecretRun { sampleRuntime with sha256 := swappedSha256 }
      (fun _ _ ↦ True) attendeeDb [(call, otpEnvs "654321")] db₂ ∧ _ :=
    single_run (fun db ↦ !holdsCode db) trivial (by decide +kernel)
  refine ⟨_, _, db', db₂, hrun, otpEnvs_disguised call, hrun₂, hcheck, ?_⟩
  rintro ⟨emailJobs, redis, rfl⟩
  have hsame : holdsCode { db' with emailJobs, redis } = holdsCode db' := rfl
  simp [hsame, hcheck] at hcheck₂

end Sample

end Innovents.Auth
