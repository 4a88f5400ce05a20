import Innovents.Events.AttendeeScheduleService
import Innovents.Notifications.Orchestrator

namespace Innovents.Events

open Innovents.Lib Innovents.Auth Innovents.Platform
open Innovents.Payments (Time)

namespace ReminderProcessor

/-- The reminder is sent with what the job has kept. -/
def processSessionReminder (data : SessionReminderJobData) : Notifications.Handler Unit := do
  let _ ← Notifications.NotificationOrchestratorService.orchestrate
    { userId := data.userId
      type := .sessionReminder
      title := s!"Upcoming Session: {data.sessionTitle}"
      body := [.str "Your scheduled session \"", .str data.sessionTitle,
        .str "\" is starting in 15 minutes."]
      data := .obj [("sessionId", .str data.sessionId), ("eventId", .str data.eventId),
        ("sessionTitle", .str data.sessionTitle), ("startsAt", .str data.startsAt),
        ("venueName", data.venueName.elim .null .str)]
      idempotencyKey := some s!"session-reminder:{data.userId}:{data.sessionId}"
      channels := none
      expiresAt := none }

end ReminderProcessor

section Operations

inductive ScheduleOp
  | addSession (userId eventId sessionId : String)
  | removeSession (userId eventId sessionId : String)
  | updateSession (eventId sessionId userId : String) (userRoles : List String)
      (dto : UpdateSessionDto) (client : Client)
  | deleteSession (eventId sessionId userId : String) (userRoles : List String) (client : Client)

inductive ScheduleReply
  | item (dto : ScheduleItemResponseDto)
  | session (dto : SessionResponseDto)
  | message (dto : MessageDto)
  | done

/-- A request to the agenda, as the schedules see it. -/
def onAgenda {α : Type} (call : EventsCall α) : ScheduleCall α :=
  call.focus ScheduleDb.agenda fun agenda db ↦ { db with agenda }

def ScheduleOp.runs (text : EventText) : ScheduleOp → ScheduleCall ScheduleReply
  | addSession userId eventId sessionId =>
    .item <$> AttendeeScheduleService.addSession text userId eventId sessionId
  | removeSession userId eventId sessionId =>
    .message <$> AttendeeScheduleService.removeSession userId eventId sessionId
  | updateSession eventId sessionId userId userRoles dto client =>
    .session <$>
      onAgenda (SessionsService.update text eventId sessionId userId userRoles dto client)
  | deleteSession eventId sessionId userId userRoles client =>
    (fun _ ↦ .done) <$> onAgenda (SessionsService.delete eventId sessionId userId userRoles client)

end Operations

section Runs

/-- The tables, the notifications and the time. -/
structure Moment where
  db : ScheduleDb
  platform : Notifications.Platform
  now : Time

/-- The queue holds the job, which has not been carried out. -/
def Waiting (job : ReminderJob) (db : ScheduleDb) : Prop :=
  ∃ reminders, db.reminders = some reminders ∧ job ∈ reminders.rows ∧ job.completed = false

inductive ReminderMove
  | call (op : ScheduleOp)
  | tick (now : Time)
  | fire (job : ReminderJob)
  | forget (job : ReminderJob)

/-- A request is carried out at a moment, time goes on up to the next reminder that is due, a
reminder that is due is sent once, or the queue drops a job that was carried out. -/
inductive ReminderStep (text : EventText) : Moment → ReminderMove → Moment → Prop
  | call {s : Moment} {op : ScheduleOp} {r : Except AuthError ScheduleReply} {db : ScheduleDb} :
      (op.runs text).Ran (fun env ↦ env.now = s.now) s.db r db →
      ReminderStep text s (.call op) { s with db }
  | tick {s : Moment} {now : Time} : s.now ≤ now →
      (∀ job, Waiting job s.db → now ≤ job.dueAt) →
      ReminderStep text s (.tick now) { s with now }
  | fire {s : Moment} {job : ReminderJob} {reminders reminders' : Table ReminderJob}
      {r : Except String Unit} {platform : Notifications.Platform} :
      s.db.reminders = some reminders →
      job ∈ reminders.rows → job.completed = false → job.dueAt = s.now →
      reminders.update job.jobId (fun j ↦ { j with completed := true }) = .ok reminders' →
      (ReminderProcessor.processSessionReminder job.data).Ran (fun _ ↦ True) s.platform r platform →
      ReminderStep text s (.fire job)
        { s with
          db := { s.db with reminders := some reminders' }
          platform }
  | forget {s : Moment} {job : ReminderJob} {reminders reminders' : Table ReminderJob} :
      s.db.reminders = some reminders → job ∈ reminders.rows → job.completed = true →
      reminders.delete job.jobId = .ok reminders' →
      ReminderStep text s (.forget job)
        { s with db := { s.db with reminders := some reminders' } }

end Runs

section Invariant

variable {userId eventId sessionId : String} {startsAt : Time} {db db' : ScheduleDb}
  {agenda agenda' : EventsDb}

/-- The session is in the schedule of the user. -/
def Entered (userId sessionId : String) (db : ScheduleDb) : Prop :=
  ∃ item ∈ db.userSessionSchedules.rows, item.userId = userId ∧ item.sessionId = sessionId

/-- The session is to begin at the time. -/
def Held (sessionId : String) (startsAt : Time) (agenda : EventsDb) : Prop :=
  ∃ session, agenda.sessions.get? sessionId = some session ∧ session.deletedAt = none ∧
    session.status ≠ .cancelled ∧ session.startsAt = startsAt

/-- The session that the job reminds of is in the schedule and begins a quarter of an hour after
the job is due. -/
def Timely (job : ReminderJob) (db : ScheduleDb) : Prop :=
  Entered job.data.userId job.data.sessionId db ∧
    Held job.data.sessionId (job.dueAt + 15 * 60 * 1000) db.agenda

def AllTimely (db : ScheduleDb) : Prop := ∀ job, Waiting job db → Timely job db

/-- The jobs that a statement adds are for the session as it was found. -/
structure Reminds (userId : String) (session : SessionResponseDto) (db db' : ScheduleDb) :
    Prop where
  schedules : db'.userSessionSchedules = db.userSessionSchedules
  sessions : db'.agenda.sessions = db.agenda.sessions
  jobs : ∀ job, Waiting job db' → Waiting job db ∨ job.data.userId = userId ∧
    job.data.sessionId = session.id ∧ job.dueAt + 15 * 60 * 1000 = session.startsAt

theorem Reminds.beside {session : SessionResponseDto} (h : Beside db db') :
    Reminds userId session db db' := by
  obtain ⟨accounts, rfl⟩ := h
  exact ⟨rfl, rfl, fun _ hjob ↦ .inl hjob⟩

theorem reminderAdd_reminds {text : EventText} {session : SessionResponseDto} {env : AuthEnv}
    {added : Bool}
    (h : AttendeeScheduleService.reminderAdd text userId session env db = .ok (db', added)) :
    Reminds userId session db db' := by
  unfold AttendeeScheduleService.reminderAdd at h
  split_ifs at h
  · cases h
    unfold QueueService.addJob
    cases hreminders : db.reminders with
    | none => exact ⟨rfl, rfl, fun _ hjob ↦ .inl hjob⟩
    | some reminders =>
      dsimp only
      cases hcreate : reminders.create _ with
      | error => exact ⟨rfl, rfl, fun _ hjob ↦ .inl hjob⟩
      | ok reminders' =>
        refine ⟨rfl, rfl, ?_⟩
        rintro job ⟨_, hsome, hmem, hwaits⟩
        cases hsome
        rw [Table.create_eq_ok.mp hcreate, List.mem_append, List.mem_singleton] at hmem
        rcases hmem with hmem | rfl
        · exact .inl ⟨reminders, hreminders, hmem, hwaits⟩
        · refine .inr ⟨rfl, rfl, ?_⟩
          simp [AttendeeScheduleService.reminderTargetTime]
  · cases h
    exact ⟨rfl, rfl, fun _ hjob ↦ .inl hjob⟩

theorem remind_each {text : EventText} {session : SessionResponseDto} {itemId : String} :
    (AttendeeScheduleService.remind text userId session itemId).Each
      fun _ ↦ Reminds userId session := by
  have hread : ∀ db, Reminds userId session db db := fun _ ↦ ⟨rfl, rfl, fun _ hjob ↦ .inl hjob⟩
  refine Call.each_bind (Call.each_writes hread fun _ _ _ _ h ↦ reminderAdd_reminds h)
    fun added ↦ ?_
  split_ifs
  · refine Call.each_writes hread fun env db db' _ h ↦ ?_
    obtain ⟨_, henqueued, hdb⟩ := andThen_eq_ok.mp h
    cases hdb
    exact .beside (enqueued_eq_ok henqueued)
  · exact Call.each_returned

/-- The session is entered and held as it was found, and every job is timely. -/
structure Ready (userId : String) (session : SessionResponseDto) (db : ScheduleDb) : Prop where
  entered : Entered userId session.id db
  held : Held session.id session.startsAt db.agenda
  timely : AllTimely db

theorem Ready.reminds {session : SessionResponseDto} (h : Ready userId session db)
    (hreminds : Reminds userId session db db') : Ready userId session db' := by
  have hentered : ∀ {userId sessionId}, Entered userId sessionId db →
      Entered userId sessionId db' := by
    unfold Entered
    rw [hreminds.schedules]
    exact id
  have hheld : ∀ {sessionId startsAt}, Held sessionId startsAt db.agenda →
      Held sessionId startsAt db'.agenda := by
    unfold Held
    rw [hreminds.sessions]
    exact id
  refine ⟨hentered h.entered, hheld h.held, fun job hjob ↦ ?_⟩
  rcases hreminds.jobs job hjob with hjob | ⟨huser, hsession, hdue⟩
  · exact ⟨hentered (h.timely job hjob).1, hheld (h.timely job hjob).2⟩
  · rw [Timely, huser, hsession, hdue]
    exact ⟨hentered h.entered, hheld h.held⟩

theorem remind_ready {text : EventText} {session : SessionResponseDto} {itemId : String}
    (h : Ready userId session db) :
    (AttendeeScheduleService.remind text userId session itemId).attempt.Alone (fun _ _ ↦ True)
      (fun _ ↦ Ready userId session) db :=
  Call.alone_each ((Call.each_attempt remind_each).mono
    fun _ _ _ hreminds _ hready ↦ hready.reminds hreminds) h

/-- After the upsert the session is in the schedule, and so is what was in it. -/
theorem scheduleUpsert_entered {env : AuthEnv} {item : UserSessionSchedule}
    (h : AttendeeScheduleService.scheduleUpsert userId sessionId env db = .ok (db', item)) :
    Entered userId sessionId db' ∧ db'.agenda = db.agenda ∧ db'.reminders = db.reminders ∧
      ∀ userId sessionId, Entered userId sessionId db → Entered userId sessionId db' := by
  unfold AttendeeScheduleService.scheduleUpsert at h
  cases hfound : AttendeeScheduleService.scheduled userId sessionId db with
  | some old =>
    rw [hfound] at h
    cases h
    obtain ⟨hmem, hof⟩ := Table.find?_mem hfound
    exact ⟨⟨_, hmem, by simpa using hof⟩, rfl, rfl, fun _ _ h ↦ h⟩
  | none =>
    rw [hfound] at h
    obtain ⟨schedules, hcreate, h⟩ := andThen_eq_ok.mp h
    cases h
    have hrows := Table.create_eq_ok.mp (ofRefusal_eq_ok.mp hcreate)
    have hitem := hrows ▸ List.mem_append_right _ (List.mem_singleton_self _)
    refine ⟨⟨_, hitem, rfl, rfl⟩, rfl, rfl, ?_⟩
    rintro userId sessionId ⟨old, hold, hof⟩
    exact ⟨old, hrows ▸ List.mem_append_left _ hold, hof⟩

theorem addSession_timely {text : EventText} (hdb : AllTimely db) :
    (AttendeeScheduleService.addSession text userId eventId sessionId).Alone (fun _ _ ↦ True)
      (fun _ ↦ AllTimely) db := by
  refine Call.alone_reads_bind (fun _ ↦ hdb) fun _ ↦ ?_
  refine Call.alone_returned_bind (fun _ ↦ hdb) fun found hfound ↦ ?_
  obtain ⟨session, event⟩ := found
  refine Call.alone_returned_bind (fun _ ↦ hdb) fun _ hschedulable ↦ ?_
  obtain ⟨row, hrow, hfound⟩ := Option.bind_eq_some_iff.mp (present_eq_ok.mp hfound)
  obtain ⟨_, -, hfound⟩ := Option.bind_eq_some_iff.mp hfound
  cases hfound
  obtain ⟨hget, hlive⟩ := Option.filter_eq_some_iff.mp hrow
  obtain ⟨_, hstatus, -⟩ := andThen_eq_ok.mp hschedulable
  have hid := (Table.get?_eq_some.mp hget).2
  refine Call.alone_writes_bind (fun _ ↦ hdb) fun env db' item _ h ↦ ?_
  obtain ⟨hentered, hagenda, hreminders, hkeeps⟩ := scheduleUpsert_entered h
  simp only [decide_eq_true_eq] at hlive
  -- the upsert leaves the session as it was found
  have hready : Ready userId (SessionsService.mapToResponse row db.agenda) db' := by
    refine ⟨?_, ?_, fun job hjob ↦ ?_⟩
    · have hrowid : (SessionsService.mapToResponse row db.agenda).id = sessionId := hid
      rwa [hrowid]
    · rw [hagenda]
      exact ⟨row, Table.get?_eq_some.mpr ⟨(Table.get?_eq_some.mp hget).1, rfl⟩,
        Option.isNone_iff_eq_none.mp hlive.2, demand_eq_ok.mp hstatus, rfl⟩
    · have hwaits : Waiting job db := by
        rwa [Waiting, ← hreminders]
      rw [Timely, hagenda]
      exact ⟨hkeeps _ _ (hdb job hwaits).1, (hdb job hwaits).2⟩
  refine Call.alone_bind (Call.alone_mono (remind_ready hready) fun r db'' hready ↦ ?_)
  cases r with
  | ok _ =>
    exact Call.alone_reads_bind (fun _ ↦ hready.timely) fun _ ↦ Call.alone_returned hready.timely
  | error _ => exact hready.timely

/-- The entries of other users and for other sessions stay. -/
theorem scheduleDelete_entered {env : AuthEnv} {item : UserSessionSchedule} {u : Unit}
    (hitem : item ∈ db.userSessionSchedules.rows)
    (h : AttendeeScheduleService.scheduleDelete item.id env db = .ok (db', u)) :
    db'.agenda = db.agenda ∧ db'.reminders = db.reminders ∧ ∀ userId sessionId,
      (item.userId = userId → item.sessionId ≠ sessionId) → Entered userId sessionId db →
        Entered userId sessionId db' := by
  obtain ⟨schedules, hdelete, h⟩ := andThen_eq_ok.mp h
  cases h
  have hrows := (Table.delete_eq_ok.mp (ofRefusal_eq_ok.mp hdelete)).2
  refine ⟨rfl, rfl, ?_⟩
  rintro userId sessionId hother ⟨kept, hkept, huser, hsession⟩
  refine ⟨kept, ?_, huser, hsession⟩
  show kept ∈ schedules.rows
  rw [hrows]
  refine List.mem_filter.mpr ⟨hkept, ?_⟩
  rw [Bool.not_eq_true', beq_eq_false_iff_ne]
  intro hid
  rw [db.userSessionSchedules.eq_of_id hkept hitem hid] at huser hsession
  exact hother huser hsession

theorem removeSession_timely (hdb : AllTimely db)
    (hnone : ∀ job, Waiting job db → job.data.userId = userId → job.data.sessionId ≠ sessionId) :
    (AttendeeScheduleService.removeSession userId eventId sessionId).Alone (fun _ _ ↦ True)
      (fun _ ↦ AllTimely) db := by
  refine Call.alone_reads_bind (fun _ ↦ hdb) fun _ ↦ ?_
  refine Call.alone_returned_bind (fun _ ↦ hdb) fun _ _ ↦ ?_
  refine Call.alone_reads_bind (fun _ ↦ hdb) fun _ ↦ ?_
  refine Call.alone_returned_bind (fun _ ↦ hdb) fun existing hexisting ↦ ?_
  obtain ⟨hmem, hof⟩ := Table.find?_mem (present_eq_ok.mp hexisting)
  simp only [Bool.and_eq_true, beq_iff_eq] at hof
  refine Call.alone_writes_bind (fun _ ↦ hdb) fun env db' _ _ h ↦ ?_
  obtain ⟨hagenda, hreminders, hkeeps⟩ := scheduleDelete_entered hmem h
  refine Call.alone_returned fun job hjob ↦ ?_
  have hwaits : Waiting job db := by
    rwa [Waiting, ← hreminders]
  rw [Timely, hagenda]
  refine ⟨hkeeps _ _ (fun huser hsession ↦ ?_) (hdb job hwaits).1, (hdb job hwaits).2⟩
  exact hnone job hwaits (huser.symm.trans hof.1) (hsession.symm.trans hof.2)

/-- Sessions that are to begin at an allowed time still are. -/
def StillHeld (allowed : String → Time → Prop) (agenda agenda' : EventsDb) : Prop :=
  ∀ sessionId startsAt, allowed sessionId startsAt → Held sessionId startsAt agenda →
    Held sessionId startsAt agenda'

theorem StillHeld.beside {allowed : String → Time → Prop} (h : Beside agenda agenda') :
    StillHeld allowed agenda agenda' := by
  obtain ⟨accounts, rfl⟩ := h
  exact fun _ _ _ hheld ↦ hheld

/-- What an update may be given while a reminder of the session waits. -/
def Unmoved (dto : UpdateSessionDto) (startsAt : Time) : Prop :=
  dto.status.join ≠ some .cancelled ∧ ∀ t ∈ dto.startsAt.join, t = startsAt

theorem merged_held (text : EventText) (targetVenueId : Option String) {dto : UpdateSessionDto}
    {session : Session} (hunmoved : Unmoved dto session.startsAt)
    (hstatus : session.status ≠ .cancelled) :
    (SessionsService.merged text dto targetVenueId session).status ≠ .cancelled ∧
      (SessionsService.merged text dto targetVenueId session).startsAt = session.startsAt := by
  unfold SessionsService.merged
  constructor
  · cases hnew : dto.status.join with
    | none => exact hstatus
    | some status =>
      intro hcancelled
      exact hunmoved.1 (hnew.trans (congrArg some hcancelled))
  · cases hnew : dto.startsAt.join with
    | none => rfl
    | some startsAt => exact hunmoved.2 startsAt hnew

theorem update_keeps {text : EventText} {userRoles : List String} {dto : UpdateSessionDto}
    {client : Client} :
    (SessionsService.update text eventId sessionId userId userRoles dto client).Each fun _ ↦
      StillHeld fun id startsAt ↦ id = sessionId → Unmoved dto startsAt := by
  refine SessionsService.update_each (fun _ _ _ _ _ hheld ↦ hheld) (fun _ _ _ ↦ .beside) ?_
  rintro targetVenueId _ _ env agenda agenda' _ h id startsAt hallowed
    ⟨session, hget, hdeleted, hstatus, rfl⟩
  obtain ⟨hsessions, -, -⟩ := SessionsService.sessionUpdate_eq h
  have hget' := Table.get?_update hsessions (fun _ ↦ rfl) id
  split_ifs at hget' with hid
  · rw [← hid, hget, Option.map_some] at hget'
    obtain ⟨hstatus', hstarts⟩ := merged_held text targetVenueId (hallowed hid) hstatus
    exact ⟨_, hget', hdeleted, hstatus', hstarts⟩
  · exact ⟨session, hget'.trans hget, hdeleted, hstatus, rfl⟩

theorem delete_keeps {userRoles : List String} {client : Client} :
    (SessionsService.delete eventId sessionId userId userRoles client).Each fun _ ↦
      StillHeld fun id _ ↦ id ≠ sessionId := by
  refine SessionsService.delete_each (fun _ _ _ _ _ hheld ↦ hheld) (fun _ _ _ ↦ .beside) ?_
  rintro env agenda agenda' _ h id startsAt hother ⟨session, hget, hlive⟩
  obtain ⟨hsessions, -⟩ := SessionsService.sessionDelete_eq h
  have hget' := Table.get?_update hsessions (fun _ ↦ rfl) id
  rw [if_neg hother] at hget'
  exact ⟨session, hget'.trans hget, hlive⟩

theorem onAgenda_timely {α : Type} {call : EventsCall α} {allowed : String → Time → Prop}
    (hcall : call.Each fun _ ↦ StillHeld allowed) (hdb : AllTimely db)
    (hallowed : ∀ job, Waiting job db → allowed job.data.sessionId (job.dueAt + 15 * 60 * 1000)) :
    (onAgenda call).Alone (fun _ _ ↦ True) (fun _ ↦ AllTimely) db := by
  have hkept : (onAgenda call).Alone (fun _ _ ↦ True) (fun _ db' ↦ AllTimely db' ∧
      ∀ job, Waiting job db' → allowed job.data.sessionId (job.dueAt + 15 * 60 * 1000)) db := by
    refine Call.alone_each ((Call.each_focus hcall).mono ?_) ⟨hdb, hallowed⟩
    rintro _ db _ ⟨agenda, hkeeps, rfl⟩ - ⟨hdb, hallowed⟩
    exact ⟨fun job hjob ↦ ⟨(hdb job hjob).1, hkeeps _ _ (hallowed job hjob) (hdb job hjob).2⟩,
      hallowed⟩
  exact Call.alone_mono hkept fun _ _ h ↦ h.1

end Invariant

section Reminders

variable {text : EventText} {s s' : Moment} {job : ReminderJob}

/-- While a reminder waits, its session stays in the schedule, is not deleted or cancelled and
keeps its start. -/
def Careful (s : Moment) : ReminderMove → Prop
  | .call (.removeSession userId _ sessionId) =>
    ∀ job, Waiting job s.db → job.data.userId = userId → job.data.sessionId ≠ sessionId
  | .call (.updateSession _ sessionId _ _ dto _) =>
    ∀ job, Waiting job s.db → job.data.sessionId = sessionId →
      Unmoved dto (job.dueAt + 15 * 60 * 1000)
  | .call (.deleteSession _ sessionId _ _ _) =>
    ∀ job, Waiting job s.db → job.data.sessionId ≠ sessionId
  | _ => True

/-- The session is in the schedule of the user, takes place and begins in a quarter of an hour. -/
def Upcoming (userId sessionId : String) (s : Moment) : Prop :=
  Entered userId sessionId s.db ∧ Held sessionId (s.now + 15 * 60 * 1000) s.db.agenda

theorem runs_timely (op : ScheduleOp) (hcareful : Careful s (.call op)) (hdb : AllTimely s.db) :
    (op.runs text).Alone (fun _ _ ↦ True) (fun _ ↦ AllTimely) s.db := by
  cases op with
  | addSession => exact Call.alone_map (addSession_timely hdb)
  | removeSession => exact Call.alone_map (removeSession_timely hdb hcareful)
  | updateSession => exact Call.alone_map (onAgenda_timely update_keeps hdb hcareful)
  | deleteSession => exact Call.alone_map (onAgenda_timely delete_keeps hdb hcareful)

theorem step_timely {m : ReminderMove} (h : ReminderStep text s m s') (hcareful : Careful s m)
    (hdb : AllTimely s.db) : AllTimely s'.db := by
  cases h with
  | call hran => exact Call.alone_ran (runs_timely _ hcareful hdb) hran
  | tick => exact hdb
  | @fire job reminders reminders' _ _ hreminders _ _ _ hupdate =>
    rintro other ⟨_, hsome, hmem, hwaits⟩
    cases hsome
    rw [(Table.update_eq_ok.mp hupdate).2, Table.mem_updateRows] at hmem
    rcases hmem with ⟨_, -, -, rfl⟩ | ⟨hmem, -⟩
    · cases hwaits
    · exact hdb other ⟨reminders, hreminders, hmem, hwaits⟩
  | @forget job reminders reminders' hreminders _ _ hdelete =>
    rintro other ⟨_, hsome, hmem, hwaits⟩
    cases hsome
    rw [(Table.delete_eq_ok.mp hdelete).2] at hmem
    exact hdb other ⟨reminders, hreminders, List.mem_of_mem_filter hmem, hwaits⟩

/-- A reminder that is sent reminds its user of an upcoming session of the schedule. -/
theorem reminder_upcoming
    (h : Reach (ReminderStep text) Careful (fun s : Moment ↦ AllTimely s.db) s)
    (hfire : ReminderStep text s (.fire job) s') :
    Upcoming job.data.userId job.data.sessionId s := by
  have htimely : AllTimely s.db := by
    refine h.invariant (I := fun s : Moment ↦ AllTimely s.db) (fun _ hs ↦ hs) ?_
    intro s m t hs hcareful hstep
    exact step_timely hstep hcareful hs
  cases hfire with
  | fire hreminders hmem hwaits hdue =>
    rw [Upcoming, ← hdue]
    exact htimely job ⟨_, hreminders, hmem, hwaits⟩

/-- A reminder that is due can be sent. -/
theorem exists_fire (text : EventText) (hwaits : Waiting job s.db) (hdue : job.dueAt = s.now) :
    ∃ s', ReminderStep text s (.fire job) s' := by
  obtain ⟨reminders, hreminders, hmem, hcompleted⟩ := hwaits
  have hupdate : ∃ reminders', reminders.update job.jobId (fun j ↦ { j with completed := true }) =
      .ok reminders' :=
    Table.update_succeeds ⟨job, hmem, rfl⟩ (fun _ ↦ rfl) fun _ hu ↦ absurd hu List.not_mem_nil
  obtain ⟨reminders', hupdate⟩ := hupdate
  have hran : ∃ r platform, (ReminderProcessor.processSessionReminder job.data).Ran
      (fun _ ↦ True) s.platform r platform :=
    Call.exists_ran (e := ⟨0, none, fun _ ↦ ""⟩) trivial _ _
  obtain ⟨r, platform, hran⟩ := hran
  exact ⟨_, .fire hreminders hmem hcompleted hdue hupdate hran⟩

end Reminders

section Sample

def keynote : Session where
  id := "session-1"
  eventId := "event-1"
  venueId := none
  title := "Keynote"
  description := none
  startsAt := 1000000
  endsAt := 1500000
  displayOrder := 0
  status := .scheduled
  deletedAt := none
  createdAt := 0
  updatedAt := 0

/-- The keynote is announced, and nobody has scheduled it. -/
def announced : Moment where
  db :=
    { agenda :=
        { sampleDb with
          events := .singleton { sampleEvent with
            startsAt := 1000000
            endsAt := 2000000 }
          sessions := .singleton keynote }
      userSessionSchedules := .empty
      userSessionNotes := .empty
      reminders := some .empty }
  platform :=
    { Notifications.Platform.empty with
      users := .singleton ⟨"user-1", "attendee@example.com", .active, none, ["ATTENDEE"]⟩ }
  now := 0

theorem announced_timely : AllTimely announced.db := by
  rintro job ⟨_, hsome, hmem, -⟩
  cases hsome
  cases hmem

theorem announced_before : announced.now ≤ 100000 := by decide

/-- The tables after the requests, each with its inputs. -/
def makeCalls (ops : List (ScheduleOp × List AuthEnv)) (db : ScheduleDb) : Option ScheduleDb :=
  ops.foldlM (fun db (op, es) ↦ ((op.runs sampleText).outcome es db).map Prod.snd) db

theorem reach_makeCalls {ok : Moment → ReminderMove → Prop} {init : Moment → Prop} {s : Moment}
    {ops : List (ScheduleOp × List AuthEnv)} {db : ScheduleDb}
    (hops : ∀ p ∈ ops, (∀ e ∈ p.2, e.now = s.now) ∧ ∀ db, ok { s with db } (.call p.1))
    (hs : Reach (ReminderStep sampleText) ok init s) (h : makeCalls ops s.db = some db) :
    Reach (ReminderStep sampleText) ok init { s with db } := by
  induction ops generalizing s with
  | nil =>
    cases h
    exact hs
  | cons p ops ih =>
    obtain ⟨henvs, hok⟩ := hops p List.mem_cons_self
    rw [makeCalls, List.foldlM_cons] at h
    obtain ⟨db₁, hdb₁, h⟩ := Option.bind_eq_some_iff.mp h
    obtain ⟨⟨r, db₂⟩, hran, rfl⟩ := Option.map_eq_some_iff.mp hdb₁
    have hstep : ReminderStep sampleText s (.call p.1) { s with db := db₂ } :=
      .call (Call.ran_of_outcome henvs hran)
    refine ih (s := { s with db := db₂ }) ?_ (.next hs (hok s.db) hstep) h
    exact fun q hq ↦ hops q (List.mem_cons_of_mem _ hq)

def addedKeynote : ScheduleOp × List AuthEnv :=
  (.addSession "user-1" "event-1" "session-1",
    ["a", "b", "c", "d", "e"].map fun tag ↦ sampleEnv 0 tag)

def removedKeynote : ScheduleOp × List AuthEnv :=
  (.removeSession "user-1" "event-1" "session-1", ["f", "g", "h"].map fun tag ↦ sampleEnv 0 tag)

/-- The one job of the queue waits for the time. -/
def waitsFor (dueAt : Time) (db : ScheduleDb) : Bool :=
  db.reminders.any fun reminders ↦ match reminders.rows with
    | [job] => !job.completed && job.dueAt == dueAt
    | _ => false

/-- The time of the one job comes. -/
theorem exists_due {ok : Moment → ReminderMove → Prop} {init : Moment → Prop} {s : Moment}
    {dueAt : Time} (hs : Reach (ReminderStep sampleText) ok init s) (htick : ok s (.tick dueAt))
    (hnow : s.now ≤ dueAt) (hwaits : waitsFor dueAt s.db = true) :
    Reach (ReminderStep sampleText) ok init { s with now := dueAt } ∧
      ∃ job s', ReminderStep sampleText { s with now := dueAt } (.fire job) s' := by
  obtain ⟨reminders, hreminders, hjob⟩ := (Option.any_eq_true ..).mp hwaits
  match hrows : reminders.rows with
  | [] =>
    rw [hrows] at hjob
    cases hjob
  | [job] =>
    rw [hrows] at hjob
    simp only [Bool.and_eq_true, Bool.not_eq_true', beq_iff_eq] at hjob
    have hone : ∀ other, Waiting other s.db → other = job := by
      rintro other ⟨_, hsome, hmem, -⟩
      cases hreminders.symm.trans hsome
      rw [hrows] at hmem
      exact List.mem_singleton.mp hmem
    refine ⟨.next hs htick (.tick hnow fun other hother ↦ ?_), job, ?_⟩
    · rw [hone other hother, hjob.2]
    · refine exists_fire sampleText ⟨reminders, hreminders, ?_, hjob.1⟩ hjob.2
      rw [hrows]
      exact List.mem_singleton_self _
  | _ :: _ :: _ =>
    rw [hrows] at hjob
    cases hjob

/-- The attendee is reminded of the keynote a quarter of an hour before it begins. -/
theorem reminded_of_keynote : ∃ s job s', ReminderStep sampleText s (.fire job) s' ∧
    Upcoming job.data.userId job.data.sessionId s := by
  have hrun : (makeCalls [addedKeynote] announced.db).any (waitsFor 100000) = true := by
    decide +kernel
  obtain ⟨db, hdb, hwaits⟩ := (Option.any_eq_true ..).mp hrun
  have hreach : Reach (ReminderStep sampleText) Careful (fun s : Moment ↦ AllTimely s.db)
      { announced with db } := reach_makeCalls
    (by simp [addedKeynote, sampleEnv, announced, Careful]) (.start announced_timely) hdb
  obtain ⟨hdue, job, s', hfire⟩ := exists_due hreach trivial announced_before hwaits
  exact ⟨_, job, s', hfire, reminder_upcoming hdue hfire⟩

/-- The attendee has taken the keynote off the schedule, and is reminded of it. -/
theorem reminded_in_vain : ∃ s job s',
    Reach (ReminderStep sampleText) (fun _ _ ↦ True) (fun s : Moment ↦ AllTimely s.db) s ∧
      ReminderStep sampleText s (.fire job) s' ∧
        ¬Upcoming job.data.userId job.data.sessionId s := by
  have hrun : (makeCalls [addedKeynote, removedKeynote] announced.db).any (fun db ↦
      waitsFor 100000 db && db.userSessionSchedules.rows.isEmpty) = true := by
    decide +kernel
  obtain ⟨db, hdb, htest⟩ := (Option.any_eq_true ..).mp hrun
  obtain ⟨hwaits, hempty⟩ := Bool.and_eq_true_iff.mp htest
  have hreach : Reach (ReminderStep sampleText) (fun _ _ ↦ True)
      (fun s : Moment ↦ AllTimely s.db) { announced with db } := reach_makeCalls
    (by simp [addedKeynote, removedKeynote, sampleEnv, announced]) (.start announced_timely) hdb
  obtain ⟨hdue, job, s', hfire⟩ := exists_due hreach trivial announced_before hwaits
  refine ⟨_, job, s', hdue, hfire, ?_⟩
  rintro ⟨⟨item, hitem, -⟩, -⟩
  rw [List.isEmpty_iff.mp hempty] at hitem
  cases hitem

end Sample

end Innovents.Events
