import Innovents.Lib.Call
import Innovents.Payments.AuditOutbox

namespace Innovents.Payments

open Innovents.Lib

/-- A request as far as it matters to the calls that run next to it. -/
inductive Request
  | findPayment (id : String)
  | updatePayment (id : String) (status : PaymentStatus)
  | refundCharge (paymentIntentId : String) (minorUnits : ℤ) (reason : Option String)
  | named (name : String)
  deriving DecidableEq

/-- A method of a service. Between two requests other calls may run. -/
abbrev Service (α : Type) := Call Request Env Db Err α

section Requests

variable {α : Type}

def query (name : String) (f : Env → Db → Except Err α) : Service α := .ask (.named name) f

/-- One statement that writes, or one transaction. -/
def execute (name : String) (f : Env → Db → Except Err (Db × α)) : Service α :=
  .perform (.named name) f

def logAudit (entry : CreateAuditLogParams) : Service Unit :=
  execute "auditLog.create" fun env db ↦ .ok (AuditService.log env entry db, ())

variable {G : Request → Db → Db → Prop} {name : String}

theorem each_query {f : Env → Db → Except Err α} (hG : ∀ l db, G l db db) :
    (query name f).Each G := Call.each_ask (hG _)

theorem each_execute {f : Env → Db → Except Err (Db × α)} (hG : ∀ l db, G l db db)
    (hf : ∀ env db db' a, f env db = .ok (db', a) → G (.named name) db db') :
    (execute name f).Each G := Call.each_perform (hG _) hf

theorem each_logAudit {entry : CreateAuditLogParams}
    (hG : ∀ l db t, G l db { db with auditLogs := t }) : (logAudit entry).Each G := by
  refine each_execute (fun l db ↦ hG l db db.auditLogs) fun env db db' a h ↦ ?_
  cases h
  obtain ⟨t, ht⟩ := AuditService.log_frame env entry db
  rw [ht]
  exact hG _ db t

theorem logAudit_ran {ok : Env → Prop} {entry : CreateAuditLogParams} {db db' : Db}
    {r : Except Err Unit} (h : (logAudit entry).Ran ok db r db') :
    ∃ t, db' = { db with auditLogs := t } := by
  obtain ⟨env, _, _, rfl⟩ := Call.ran_perform.mp h
  exact AuditService.log_frame env entry db

end Requests

/-- The text is given and not empty. -/
def given (text : Option String) : Option String := text.filter (· ≠ "")

/-- `text || fallback` -/
def orText (text : Option String) (fallback : String) : String := (given text).getD fallback

def textValue : Option String → JsValue
  | some s => .str s
  | none => .undefined

/-- `status: ACTIVE, endsAt: { gt: now }` -/
def CommunitySponsorship.isRunning (now : Time) (s : CommunitySponsorship) : Bool :=
  s.status == .active && s.endsAt.any (now < ·)

/-- A sponsorship that is running later is running already. -/
theorem isRunning_mono {s : CommunitySponsorship} {now clock : Time} (hle : now ≤ clock)
    (h : s.isRunning clock = true) : s.isRunning now = true := by
  simp only [CommunitySponsorship.isRunning, Bool.and_eq_true, Option.any_eq_true,
    decide_eq_true_eq] at h ⊢
  obtain ⟨hs, t, ht, hlt⟩ := h
  exact ⟨hs, t, ht, hle.trans_lt hlt⟩

def CommunitySponsorship.withStatus (status : CommunitySponsorshipStatus)
    (s : CommunitySponsorship) : CommunitySponsorship := { s with status }

def resetCommunity (c : Community) : Community :=
  { c with
    isSponsored := false
    isPinned := false
    memberCapacity := 20 }

/-- Whether a sponsorship of the community other than `sponsorshipId` is running. -/
def Db.otherRunning (db : Db) (now : Time) (communityId sponsorshipId : String) : Bool :=
  db.communitySponsorships.rows.any fun s ↦
    s.communityId == communityId && s.isRunning now && s.id != sponsorshipId

/-- End a sponsorship, and reset its community if no other one is running. -/
def endSponsorship (status : CommunitySponsorshipStatus) (now : Time) (s : CommunitySponsorship)
    (db : Db) : Except Err Db := do
  let db ← modify communitySponsorshipTable s.id (·.withStatus status) db
  if db.otherRunning now s.communityId s.id then return db
  else modify communityTable s.communityId resetCommunity db

/-- The state that the end of a sponsorship leaves behind. -/
structure Ended (status : CommunitySponsorshipStatus) (now : Time) (s : CommunitySponsorship)
    (db db' : Db) : Prop where
  found : ∃ r ∈ db.communitySponsorships.rows, r.id = s.id
  sponsorships : db'.communitySponsorships.rows =
    Table.updateRows s.id (·.withStatus status) db.communitySponsorships.rows
  communities : if db.otherRunning now s.communityId s.id = true
    then db'.communities.rows = db.communities.rows
    else (∃ c ∈ db.communities.rows, c.id = s.communityId) ∧ db'.communities.rows =
      Table.updateRows s.communityId resetCommunity db.communities.rows
  frame : db' = { db with
    communitySponsorships := db'.communitySponsorships
    communities := db'.communities }

section End

variable {status : CommunitySponsorshipStatus} {now : Time} {s : CommunitySponsorship}
  {db db' : Db}

/-- The sponsorship that is updated is not among the others. -/
theorem otherRunning_update {communityId : String} {t : Table CommunitySponsorship}
    (ht : t.rows = Table.updateRows s.id (·.withStatus status) db.communitySponsorships.rows) :
    ({ db with communitySponsorships := t } : Db).otherRunning now communityId s.id =
      db.otherRunning now communityId s.id := by
  unfold Db.otherRunning
  rw [ht, Table.updateRows, List.any_map]
  congr 1
  funext r
  simp only [Function.comp_apply]
  split_ifs with hr
  · have hr' : r.id = s.id := hr
    simp [CommunitySponsorship.withStatus, hr']
  · rfl

theorem endSponsorship_eq_ok :
    endSponsorship status now s db = .ok db' ↔ Ended status now s db db' := by
  simp only [endSponsorship, bind_eq_ok, modify_eq_ok, communitySponsorshipTable, communityTable]
  constructor
  · intro h
    obtain ⟨_, ⟨t, ⟨hfound, ht⟩, rfl⟩, h⟩ := h
    rw [otherRunning_update ht] at h
    split_ifs at h with ho
    · cases h
      exact ⟨hfound, ht, by rw [if_pos ho], rfl⟩
    · obtain ⟨u, ⟨hc, hu⟩, rfl⟩ := (modify_eq_ok _).mp h
      exact ⟨hfound, ht, by rw [if_neg ho]; exact ⟨hc, hu⟩, rfl⟩
  · intro h
    refine ⟨_, ⟨db'.communitySponsorships, ⟨h.found, h.sponsorships⟩, rfl⟩, ?_⟩
    rw [otherRunning_update h.sponsorships]
    have hc := h.communities
    split_ifs at hc ⊢ with ho
    · rw [pure_eq_ok, h.frame]
      congr 1
      exact (Table.ext hc).symm
    · exact (modify_eq_ok _).mpr ⟨db'.communities, ⟨hc.1, hc.2⟩, h.frame.symm⟩

theorem exists_ended (hs : ∃ r ∈ db.communitySponsorships.rows, r.id = s.id)
    (hc : ∃ c ∈ db.communities.rows, c.id = s.communityId) : ∃ db', Ended status now s db db' := by
  obtain ⟨t, ht⟩ := Table.update_succeeds hs (f := (·.withStatus status)) (fun _ ↦ rfl)
    (by simp [Row.uniques, CommunitySponsorship.withStatus])
  obtain ⟨u, hu⟩ := Table.update_succeeds hc (f := resetCommunity) (fun _ ↦ rfl)
    (by simp [Row.uniques])
  have hrows := (Table.update_eq_ok.mp ht).2
  cases ho : db.otherRunning now s.communityId s.id with
  | true =>
    refine ⟨{ db with communitySponsorships := t }, hs, hrows, ?_, rfl⟩
    rw [if_pos ho]
  | false =>
    refine ⟨{ db with communitySponsorships := t, communities := u }, hs, hrows, ?_, rfl⟩
    rw [if_neg (by simp [ho])]
    exact ⟨hc, (Table.update_eq_ok.mp hu).2⟩

end End

end Innovents.Payments
