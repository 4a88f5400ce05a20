import Innovents.Communities.Social.Memberships
import Innovents.Moderation.ReportsService

namespace Innovents.Moderation

open Innovents.Lib Innovents.Auth Innovents.Platform ReportsService

section Operations

inductive ReportOp
  | createReport (reporterId : String) (dto : CreateReportDto) (client : Client)
  | resolveReport (id adminUserId : String) (dto : ResolveReportDto) (client : Client)

def ReportOp.runs (trim : String → String) : ReportOp → ContentCall ReportResponseDto
  | createReport reporterId dto client => ReportsService.createReport trim reporterId dto client
  | resolveReport id adminUserId dto client =>
    ReportsService.resolveReport trim id adminUserId dto client

abbrev ReportTask := Task ReportOp String AuthEnv ContentDb AuthError ReportResponseDto

abbrev ContentHistory := History String ContentDb

def reportCalls (trim : String → String) : Machine ContentDb ReportTask AuthEnv :=
  tasks (ReportOp.runs trim)

end Operations

/-- The reports are about the same resource, and the same user has sent them. -/
def SameSubject (r s : Report) : Prop :=
  r.reporterId = s.reporterId ∧ r.targetType = s.targetType ∧ r.targetId = s.targetId

instance (r s : Report) : Decidable (SameSubject r s) := inferInstanceAs (Decidable (_ ∧ _))

/-- Nobody has two reports that wait for a decision about one resource, and the reports that are
closed are those that have been decided on. -/
structure Orderly (db : ContentDb) : Prop where
  oneActive : ∀ r ∈ db.reports.rows, ∀ s ∈ db.reports.rows, r.isActive = true → s.isActive = true →
    SameSubject r s → r = s
  resolvedAt : ∀ r ∈ db.reports.rows, r.resolvedAt.isSome = r.isClosed

/-- Closed reports stay what they are. -/
def ClosedKept (db db' : ContentDb) : Prop :=
  ∀ id, ∀ r ∈ db.reports.get? id, r.isClosed = true → db'.reports.get? id = some r

/-- A report is stored while its author has no other that waits for a decision about the resource,
and a decision is stored while the report is not closed. -/
def ReportOp.Timely (op : ReportOp) (_ : ContentHistory) (label : String) (db : ContentDb) : Prop :=
  match op with
  | createReport reporterId dto _ => label = "report.create" →
    ∀ r ∈ db.reports.rows, dto.isTarget reporterId r = true → r.isActive = false
  | resolveReport id _ _ _ => label = "report.update" →
    ∀ r ∈ db.reports.get? id, r.isClosed = false

instance (op : ReportOp) (history : ContentHistory) (label : String) (db : ContentDb) :
    Decidable (op.Timely history label db) :=
  match op with
  | .createReport .. | .resolveReport .. => inferInstanceAs (Decidable (_ → _))

section Statements

variable {trim : String → String} {reporterId id adminUserId : String} {dto : CreateReportDto}
  {decision : ResolveReportDto} {env : AuthEnv} {db db' : ContentDb} {reply : ReportResponseDto}

theorem ClosedKept.refl (db : ContentDb) : ClosedKept db db := fun _ _ hr _ ↦ hr

theorem ClosedKept.trans {db db' db'' : ContentDb} (h : ClosedKept db db')
    (h' : ClosedKept db' db'') : ClosedKept db db'' :=
  fun id r hr hclosed ↦ h' id r (h id r hr hclosed) hclosed

theorem isActive_eq (r : Report) : r.isActive = !r.isClosed := by
  unfold Report.isActive Report.isClosed
  cases r.status <;> rfl

theorem reportCreate_eq (h : reportCreate trim reporterId dto env db = .ok (db', reply)) :
    ∃ r, db.reports.create r = .ok db'.reports ∧ dto.isTarget reporterId r = true ∧
      r.status = .isOpen ∧ r.resolvedAt = none := by
  obtain ⟨_, -, h⟩ := andThen_eq_ok.mp h
  obtain ⟨reports, hcreate, h⟩ := andThen_eq_ok.mp h
  cases h
  refine ⟨_, ofRefusal_eq_ok.mp hcreate, ?_, rfl, rfl⟩
  exact decide_eq_true ⟨rfl, rfl, rfl⟩

theorem reportUpdate_eq (h : reportUpdate trim id adminUserId decision env db = .ok (db', reply)) :
    ∃ f : Report → Report, db.reports.update id f = .ok db'.reports ∧ ∀ r, (f r).id = r.id ∧
      SameSubject (f r) r ∧ (f r).status = decision.status ∧
        (f r).resolvedAt = if decision.status = .inReview then none else some env.now := by
  obtain ⟨_, -, h⟩ := andThen_eq_ok.mp h
  obtain ⟨reports, hupdate, h⟩ := andThen_eq_ok.mp h
  obtain ⟨updated, -, h⟩ := andThen_eq_ok.mp h
  cases h
  exact ⟨_, ofRefusal_eq_ok.mp hupdate, fun r ↦ ⟨rfl, ⟨rfl, rfl, rfl⟩, rfl, rfl⟩⟩

theorem Orderly.created (hdb : Orderly db)
    (htimely : ∀ r ∈ db.reports.rows, dto.isTarget reporterId r = true → r.isActive = false)
    (h : reportCreate trim reporterId dto env db = .ok (db', reply)) :
    Orderly db' ∧ ClosedKept db db' := by
  obtain ⟨new, hcreate, htarget, hstatus, hresolved⟩ := reportCreate_eq h
  have hrows := Table.create_eq_ok.mp hcreate
  obtain ⟨hreporter, htype, hid⟩ := of_decide_eq_true htarget
  have hold : ∀ r ∈ db.reports.rows, r.isActive = true → ¬ SameSubject r new := by
    intro r hr hactive hsame
    have hr := htimely r hr (decide_eq_true ⟨hsame.1.trans hreporter, hsame.2.1.trans htype,
      hsame.2.2.trans hid⟩)
    rw [hactive] at hr
    cases hr
  refine ⟨⟨fun r hr s hs hra hsa hsame ↦ ?_, fun r hr ↦ ?_⟩, fun id r hr _ ↦
    (Table.get?_create_taken hr hcreate).2⟩
  · rw [hrows, List.mem_append, List.mem_singleton] at hr hs
    rcases hr with hr | rfl <;> rcases hs with hs | rfl
    · exact hdb.oneActive r hr s hs hra hsa hsame
    · exact absurd hsame (hold r hr hra)
    · exact absurd ⟨hsame.1.symm, hsame.2.1.symm, hsame.2.2.symm⟩ (hold s hs hsa)
    · rfl
  · rw [hrows, List.mem_append, List.mem_singleton] at hr
    rcases hr with hr | rfl
    · exact hdb.resolvedAt r hr
    · rw [hresolved, Report.isClosed, hstatus]
      rfl

theorem Orderly.updated (hdb : Orderly db) (hstatus : decision.status ≠ .isOpen)
    (htimely : ∀ r ∈ db.reports.get? id, r.isClosed = false)
    (h : reportUpdate trim id adminUserId decision env db = .ok (db', reply)) :
    Orderly db' ∧ ClosedKept db db' := by
  obtain ⟨f, hupdate, hf⟩ := reportUpdate_eq h
  have hrows := (Table.update_eq_ok.mp hupdate).2
  -- every row comes from one about the same subject, which waited for a decision if it still does
  have hsource : ∀ r ∈ db'.reports.rows, ∃ old ∈ db.reports.rows, SameSubject r old ∧
      (r.isActive = true → old.isActive = true) ∧ r = if old.id = id then f old else old := by
    intro r hr
    rw [hrows, Table.mem_updateRows] at hr
    rcases hr with ⟨old, hold, hid, rfl⟩ | ⟨hr, hid⟩
    · refine ⟨old, hold, (hf old).2.1, fun _ ↦ ?_, (if_pos hid).symm⟩
      rw [isActive_eq, htimely old (Table.get?_eq_some.mpr ⟨hold, hid⟩), Bool.not_false]
    · exact ⟨r, hr, ⟨rfl, rfl, rfl⟩, fun h ↦ h, (if_neg hid).symm⟩
  refine ⟨⟨fun r hr s hs hra hsa hsame ↦ ?_, fun r hr ↦ ?_⟩, fun k r hr hclosed ↦ ?_⟩
  · obtain ⟨old, hold, hsubject, hactive, hrold⟩ := hsource r hr
    obtain ⟨old', hold', hsubject', hactive', hsold⟩ := hsource s hs
    have holds := hdb.oneActive old hold old' hold' (hactive hra) (hactive' hsa)
      ⟨hsubject.1.symm.trans (hsame.1.trans hsubject'.1),
        hsubject.2.1.symm.trans (hsame.2.1.trans hsubject'.2.1),
        hsubject.2.2.symm.trans (hsame.2.2.trans hsubject'.2.2)⟩
    rw [hrold, hsold, holds]
  · rw [hrows, Table.mem_updateRows] at hr
    rcases hr with ⟨old, hold, hid, rfl⟩ | ⟨hr, -⟩
    · rw [(hf old).2.2.2, Report.isClosed, (hf old).2.2.1]
      cases hdecision : decision.status with
      | isOpen => exact absurd hdecision hstatus
      | inReview => rfl
      | resolved => rfl
      | dismissed => rfl
    · exact hdb.resolvedAt r hr
  · rw [Table.get?_update hupdate fun r ↦ (hf r).1]
    split_ifs with hk
    · subst hk
      rw [htimely r hr] at hclosed
      cases hclosed
    · exact hr

end Statements

section Runs

variable {trim : String → String}

theorem runs_orderly (op : ReportOp) : (op.runs trim).Heeds Orderly op.Timely
    (fun _ ↦ ClosedKept) (fun _ _ ↦ True) [] := by
  have hbeside : ∀ db db' : ContentDb, Beside db db' → Orderly db → Orderly db' := by
    rintro db _ ⟨accounts, rfl⟩ hdb
    exact ⟨hdb.oneActive, hdb.resolvedAt⟩
  have hlog : ∀ db db' : ContentDb, Beside db db' → ClosedKept db db' := by
    rintro db _ ⟨accounts, rfl⟩
    exact ClosedKept.refl db
  cases op with
  | createReport reporterId dto client =>
    refine Call.heeds_bind (Call.heeds_bind (Call.heeds_reads ClosedKept.refl fun _ _ _ _ ↦ ?_))
    refine Call.heeds_returned fun _ _ ↦ ?_
    refine Call.heeds_bind (Call.heeds_reads ClosedKept.refl fun _ _ _ _ ↦ ?_)
    refine Call.heeds_bind (Call.heeds_returned fun _ _ ↦ ?_)
    refine Call.heeds_bind (Call.heeds_writes ClosedKept.refl fun env db db' reply hdb hok h ↦ ?_)
    obtain ⟨horderly, hkept⟩ := hdb.created (hok rfl) h
    exact ⟨horderly, hkept, Call.heeds_bind ((heeds_log hbeside hlog).mono fun _ _ _ ↦ trivial)⟩
  | resolveReport id adminUserId dto client =>
    refine Call.heeds_bind (Call.heeds_reads ClosedKept.refl fun _ _ _ _ ↦ ?_)
    refine Call.heeds_bind (Call.heeds_returned fun report _ ↦ ?_)
    refine Call.heeds_bind (Call.heeds_returned fun _ _ ↦ ?_)
    refine Call.heeds_bind (Call.heeds_returned fun _ hstatus ↦ ?_)
    refine Call.heeds_bind (Call.heeds_writes ClosedKept.refl fun env db db' reply hdb hok h ↦ ?_)
    obtain ⟨horderly, hkept⟩ := hdb.updated (demand_eq_ok.mp hstatus) (hok rfl) h
    exact ⟨horderly, hkept, Call.heeds_bind ((heeds_log hbeside hlog).mono fun _ _ _ ↦ trivial)⟩

def OrderlyAtFirst (p : Pool ContentDb ReportTask) : Prop := p.threads = [] ∧ Orderly p.shared

/-- As long as every report and every decision is stored in time, nobody has two reports that wait
for a decision about one resource, exactly the closed reports have a moment of their resolution, and
a report that is closed never changes again. -/
theorem report_lifecycle {p : Pool ContentDb ReportTask}
    (h : Reach (reportCalls trim).Step (Heeding ReportOp.Timely) OrderlyAtFirst p) :
    (∀ r ∈ p.shared.reports.rows, ∀ s ∈ p.shared.reports.rows, r.isActive = true →
      s.isActive = true → SameSubject r s → r = s) ∧
    (∀ r ∈ p.shared.reports.rows, r.resolvedAt.isSome = r.isClosed) ∧
    ∀ q, Reach (reportCalls trim).Step (Heeding ReportOp.Timely) (fun u ↦ u = p) q →
      ∀ id, ∀ r ∈ p.shared.reports.get? id, r.isClosed = true →
        q.shared.reports.get? id = some r := by
  have hp := (heedful_reach (I := fun _ ↦ True) runs_orderly
    (fun p hp ↦ ⟨⟨hp.2, by simp [hp.1]⟩, trivial⟩) (fun _ _ _ _ _ _ ↦ trivial) h).1
  refine ⟨hp.shared.oneActive, hp.shared.resolvedAt, fun q hq ↦ ?_⟩
  refine (heedful_reach (I := fun q ↦ ClosedKept p.shared q.shared) runs_orderly ?_ ?_ hq).2
  · rintro _ rfl
    exact ⟨hp, ClosedKept.refl _⟩
  · intro u v _ _ hkept hmoved
    cases hmoved with
    | spawned op hshared => rwa [hshared]
    | ran i t t' label _ _ hG => exact hkept.trans hG

end Runs

section Sample

/-- The calls with the operations, none of which has begun. -/
def begunReports (ops : List ReportOp) : Pool ContentDb ReportTask :=
  ⟨contentDb, ops.map fun op ↦ ⟨op, [], op.runs id⟩⟩

/-- The first user reports the second one. -/
def reporting : ReportOp := .createReport "user-1"
  { targetType := .user
    targetId := "user-2"
    reason := "SPAM"
    description := none } nobody

/-- An admin decides on the report. -/
def deciding (reportId : String) (status : ReportStatus) : ReportOp :=
  .resolveReport reportId "user-2" { status, resolutionNote := none } nobody

theorem contentDb_orderly : OrderlyAtFirst ⟨contentDb, []⟩ := by
  refine ⟨rfl, ⟨fun r hr ↦ ?_, fun r hr ↦ ?_⟩⟩
  · exact absurd hr List.not_mem_nil
  · exact absurd hr List.not_mem_nil

/-- The report is stored and then decided on. -/
theorem reported_and_resolved : ∃ p : Pool ContentDb ReportTask,
    p.shared.reports.rows.map Report.status = [.resolved] ∧
      ∀ r ∈ p.shared.reports.rows, r.resolvedAt.isSome = r.isClosed := by
  have hrun : ((reportCalls id).play (meets ReportOp.Timely)
      (Communities.Social.requests 0 4 "a" ++ Communities.Social.requests 1 3 "b")
      (begunReports [reporting, deciding "id-a2" .resolved])).any
        (fun p ↦ p.shared.reports.rows.map Report.status == [.resolved]) = true := by
    decide +kernel
  obtain ⟨p, hp, htest⟩ := (Option.any_eq_true ..).mp hrun
  have hreach : Reach (reportCalls id).Step (Heeding ReportOp.Timely) OrderlyAtFirst p :=
    reach_tasks (fun _ _ _ h ↦ meets_sound h) contentDb_orderly hp
  exact ⟨p, beq_iff_eq.mp htest, (report_lifecycle hreach).2.1⟩

/-- Two reports of one user about one resource are stored side by side, and one of them is put in
review by an admin who has found it open, after another admin has resolved it. -/
theorem reported_twice_and_reopened : ∃ p q : Pool ContentDb ReportTask,
    Reach (reportCalls id).Step (Heeding fun _ _ _ _ ↦ True) OrderlyAtFirst p ∧
      Reach (reportCalls id).Step (Heeding fun _ _ _ _ ↦ True) (fun u ↦ u = p) q ∧
      (∃ r ∈ q.shared.reports.rows, ∃ s ∈ q.shared.reports.rows, r.isActive = true ∧
        s.isActive = true ∧ SameSubject r s ∧ r ≠ s) ∧
      ∃ r ∈ p.shared.reports.get? "id-a2", r.isClosed = true ∧
        q.shared.reports.get? "id-a2" ≠ some r := by
  have hrun : ((reportCalls id).play (fun _ _ _ ↦ true)
      (Communities.Social.requests 0 2 "x" ++ Communities.Social.requests 1 2 "y" ++
        [(0, sampleEnv 1 "a2"), (1, sampleEnv 1 "b2"), (2, sampleEnv 2 "c0"),
          (3, sampleEnv 2 "d0"), (2, sampleEnv 3 "c1")])
      (begunReports [reporting, reporting, deciding "id-a2" .resolved,
        deciding "id-a2" .inReview])).any (fun p ↦ ((reportCalls id).play (fun _ _ _ ↦ true)
          [(3, sampleEnv 4 "d1")] p).any fun q ↦
            (q.shared.reports.rows.any fun r ↦ q.shared.reports.rows.any fun s ↦
              r.isActive && s.isActive && decide (SameSubject r s) && r.id != s.id) &&
            ((p.shared.reports.get? "id-a2").any fun r ↦ r.isClosed &&
              (q.shared.reports.get? "id-a2").any fun r' ↦ !r'.isClosed)) = true := by
    decide +kernel
  obtain ⟨p, hp, htest⟩ := (Option.any_eq_true ..).mp hrun
  obtain ⟨q, hq, htest⟩ := (Option.any_eq_true ..).mp htest
  obtain ⟨htwice, hreopened⟩ := Bool.and_eq_true_iff.mp htest
  have hreach : Reach (reportCalls id).Step (Heeding fun _ _ _ _ ↦ True) OrderlyAtFirst p :=
    reach_tasks (fun _ _ _ _ _ _ _ _ ↦ trivial) contentDb_orderly hp
  refine ⟨p, q, hreach, Machine.reach_play (fun _ _ _ _ _ _ _ _ ↦ trivial) (.start rfl) hq, ?_, ?_⟩
  · obtain ⟨r, hr, h⟩ := List.any_eq_true.mp htwice
    obtain ⟨s, hs, h⟩ := List.any_eq_true.mp h
    simp only [Bool.and_eq_true, decide_eq_true_eq, bne_iff_ne] at h
    obtain ⟨⟨⟨hra, hsa⟩, hsame⟩, hne⟩ := h
    exact ⟨r, hr, s, hs, hra, hsa, hsame, fun he ↦ hne (congrArg Report.id he)⟩
  · obtain ⟨r, hr, h⟩ := (Option.any_eq_true ..).mp hreopened
    obtain ⟨hclosed, h⟩ := Bool.and_eq_true_iff.mp h
    obtain ⟨r', hr', hopen⟩ := (Option.any_eq_true ..).mp h
    refine ⟨r, hr, hclosed, fun he ↦ ?_⟩
    rw [hr', Option.some_inj] at he
    rw [he, hclosed] at hopen
    cases hopen

end Sample

end Innovents.Moderation
