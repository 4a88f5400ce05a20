import Innovents.Auth.Schema
import Mathlib.Data.List.Sort

namespace Innovents.Auth

open Innovents.Lib Innovents.Payments

def otpPurposeText : OtpPurpose → String
  | .emailVerification => "EMAIL_VERIFICATION"
  | .passwordReset => "PASSWORD_RESET"
  | .loginVerification => "LOGIN_VERIFICATION"

structure GeneratedOtpResult where
  code : String
  challengeId : String

namespace OtpService

variable (rt : Runtime)

/-- An unconsumed challenge for the identifier and the purpose. -/
def isActive (identifier : String) (purpose : OtpPurpose) (c : OtpChallenge) : Bool :=
  c.identifier == identifier && c.purpose == purpose && c.consumedAt.isNone

/-- `findFirst({ where, orderBy: { createdAt: 'desc' } })` -/
def latest (identifier : String) (purpose : OtpPurpose) (db : AuthDb) : Option OtpChallenge :=
  ((db.otpChallenges.rows.filter (isActive identifier purpose)).insertionSort
    fun a b ↦ b.createdAt ≤ a.createdAt).head?

theorem latest_mem {identifier : String} {purpose : OtpPurpose} {db : AuthDb} {c : OtpChallenge}
    (h : latest identifier purpose db = some c) :
    c ∈ db.otpChallenges.rows ∧ isActive identifier purpose c = true :=
  List.mem_filter.mp ((List.mem_insertionSort _).mp (List.mem_of_mem_head? h))

theorem exists_latest {identifier : String} {purpose : OtpPurpose} {db : AuthDb} {c : OtpChallenge}
    (hc : c ∈ db.otpChallenges.rows) (hactive : isActive identifier purpose c = true) :
    ∃ recent, latest identifier purpose db = some recent := by
  have hmem : c ∈ (db.otpChallenges.rows.filter (isActive identifier purpose)).insertionSort
      fun a b ↦ b.createdAt ≤ a.createdAt :=
    (List.mem_insertionSort _).mpr (List.mem_filter.mpr ⟨hc, hactive⟩)
  obtain ⟨recent, rest, hrest⟩ := List.exists_cons_of_ne_nil (List.ne_nil_of_mem hmem)
  exact ⟨recent, by rw [latest, hrest]; rfl⟩

/-- `Math.ceil(ms / 1000)` -/
def ceilSeconds (ms : ℤ) : ℤ := -(-ms / 1000)

def cooldownMessage (remainingSec : ℤ) : String :=
  s!"Please wait {remainingSec} seconds before requesting a new verification code."

def invalidCodeMessage (remaining : ℤ) : String :=
  s!"Invalid verification code. {remaining} attempt(s) remaining."

def newChallenge (env : AuthEnv) (identifier : String) (purpose : OtpPurpose)
    (userId : Option String) (t : Table OtpChallenge) : OtpChallenge where
  id := env.idFor t
  userId := userId.filter (· ≠ "")
  identifier
  purpose
  codeHash := rt.sha256 env.otp
  expiresAt := env.now + rt.otpExpiresInMinutes * 60 * 1000
  attempts := 0
  maxAttempts := rt.otpMaxAttempts
  consumedAt := none
  resendAfter := env.now + rt.otpCooldownSeconds * 1000
  createdAt := env.now

def consume (now : Time) (c : OtpChallenge) : OtpChallenge := { c with consumedAt := some now }

def createChallenge (identifier : String) (purpose : OtpPurpose) (userId : Option String) :
    AuthCall GeneratedOtpResult := do
  let normalizedIdentifier := rt.normalize identifier
  let (recentChallenge, now) ← finds "otpChallenge.findFirst" fun env db ↦
    (latest normalizedIdentifier purpose db, env.now)
  match recentChallenge.filter (now < ·.resendAfter) with
  | some recent =>
    throws .badRequest (cooldownMessage (ceilSeconds (recent.resendAfter - now)))
  | none =>
    stores "otpChallenge.updateMany" fun env db ↦ do
      let t ← ofRefusal (db.otpChallenges.updateMany (isActive normalizedIdentifier purpose)
        (consume env.now))
      return ({ db with otpChallenges := t }, ())
    let (code, challengeId) ← stores "otpChallenge.create" fun env db ↦ do
      let challenge := newChallenge rt env normalizedIdentifier purpose userId db.otpChallenges
      let t ← ofRefusal (db.otpChallenges.create challenge)
      return ({ db with otpChallenges := t }, env.otp, challenge.id)
    AuditService.log
      { actorUserId := userId
        action := "OTP_REQUESTED"
        resourceType := "auth:otp_challenge"
        resourceId := some challengeId
        metadata := [("purpose", .str (otpPurposeText purpose))] } ⟨none, none⟩
    return ⟨code, challengeId⟩

def updateChallenge (id : String) (f : AuthEnv → OtpChallenge → OtpChallenge) : AuthCall Unit :=
  stores "otpChallenge.update" fun env db ↦ do
    let t ← ofRefusal (db.otpChallenges.update id (f env))
    return ({ db with otpChallenges := t }, ())

def challengeEntry (challenge : OtpChallenge) (action : String) (metadata : List (String × JsValue)) :
    CreateAuditLogParams where
  actorUserId := challenge.userId
  action
  resourceType := "auth:otp_challenge"
  resourceId := some challenge.id
  metadata

/-- The checks of a challenge that was read at `now`. -/
def checkChallenge (challenge : OtpChallenge) (now : Time) (incomingCodeHash : String)
    (client : Client) : AuthCall Bool :=
  if challenge.expiresAt < now then do
    updateChallenge challenge.id fun env ↦ consume env.now
    throws .badRequest "Verification code has expired. Please request a new code."
  else if challenge.attempts ≥ challenge.maxAttempts then do
    updateChallenge challenge.id fun env ↦ consume env.now
    AuditService.log (challengeEntry challenge "ACCOUNT_LOCKED"
      [("reason", .str "Maximum OTP verification attempts exceeded")]) client
    throws .badRequest "Maximum verification attempts exceeded. Please request a new code."
  else if challenge.codeHash ≠ incomingCodeHash then do
    updateChallenge challenge.id fun _ c ↦ { c with attempts := c.attempts + 1 }
    AuditService.log (challengeEntry challenge "OTP_FAILED"
      [("attempts", .num (challenge.attempts + 1))]) client
    throws .badRequest (invalidCodeMessage (challenge.maxAttempts - (challenge.attempts + 1 : ℤ)))
  else do
    updateChallenge challenge.id fun env ↦ consume env.now
    AuditService.log (challengeEntry challenge "OTP_VERIFIED"
      [("purpose", .str (otpPurposeText challenge.purpose))]) client
    return true

def verifyChallenge (identifier code : String) (purpose : OtpPurpose) (client : Client) :
    AuthCall Bool := do
  let normalizedIdentifier := rt.normalize identifier
  let incomingCodeHash := rt.sha256 (rt.trim code)
  let (challenge, now) ← finds "otpChallenge.findFirst" fun env db ↦
    (latest normalizedIdentifier purpose db, env.now)
  match challenge with
  | none => throws .badRequest "Invalid or expired verification code"
  | some challenge => checkChallenge challenge now incomingCodeHash client

end OtpService

end Innovents.Auth
