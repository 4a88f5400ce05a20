import Innovents.Events.AttendeeScheduleService

namespace Innovents.Events

open Innovents.Lib Innovents.Auth Innovents.Platform
open Innovents.Payments (Time)

section Callers

structure Caller where
  userId : Option String
  userRoles : List String

/-- The caller is an administrator, the owner of the event or one of its organizers. -/
def Manages (caller : Caller) (event : Event) (db : EventsDb) : Prop :=
  ∃ userId, caller.userId = some userId ∧ userId ≠ "" ∧
    ("ADMIN" ∈ caller.userRoles ∨ event.ownerId = userId ∨ "ORGANIZER" ∈ caller.userRoles ∧
      ∃ o ∈ db.accounts.eventOrganizers.rows, o.eventId = event.id ∧ o.userId = userId)

/-- The caller may see the event. -/
def Admits (caller : Caller) (eventId : String) (db : EventsDb) : Prop :=
  ∃ event db', (EventAuthorizationService.assertCanViewEvent eventId caller.userId
    caller.userRoles).Ran (fun _ ↦ True) db (.ok event) db'

variable {caller : Caller} {eventId : String} {event : Event} {db db' : EventsDb}

theorem find?_organizer {userId : String} :
    (db.accounts.eventOrganizers.find? fun o ↦ o.eventId == eventId && o.userId == userId).isSome ↔
      ∃ o ∈ db.accounts.eventOrganizers.rows, o.eventId = eventId ∧ o.userId = userId := by
  rw [Table.find?, List.find?_isSome]
  simp

theorem ran_managerView {event' : Event} :
    (EventAuthorizationService.managerView event.id event caller.userId caller.userRoles).Ran
      (fun _ ↦ True) db (.ok event') db' ↔
      event' = event ∧ db' = db ∧ Manages caller event db := by
  unfold EventAuthorizationService.managerView
  simp only [Call.bind_eq, Call.ran_bind_ok, Call.ran_returned_ok, present_eq_ok,
    Option.filter_eq_some_iff, decide_eq_true_eq]
  constructor
  · rintro ⟨userId, _, ⟨⟨huser, hne⟩, rfl⟩, h⟩
    split_ifs at h with howner horganizer
    · cases h
      exact ⟨rfl, rfl, userId, huser, hne, howner.imp id .inl⟩
    · simp only [Call.ran_bind_ok, ran_look, Call.ran_returned_ok, demand_eq_ok] at h
      obtain ⟨_, _, ⟨rfl, rfl⟩, _, _, ⟨hsome, rfl⟩, h⟩ := h
      cases h
      exact ⟨rfl, rfl, userId, huser, hne, .inr (.inr ⟨horganizer, find?_organizer.mp hsome⟩)⟩
    · cases h
  · rintro ⟨rfl, rfl, userId, huser, hne, h⟩
    refine ⟨userId, db', ⟨⟨huser, hne⟩, rfl⟩, ?_⟩
    split_ifs with howner horganizer
    · exact .returned
    · obtain ⟨-, hassigned⟩ := (h.resolve_left (howner ∘ .inl)).resolve_left (howner ∘ .inr)
      simp only [Call.ran_bind_ok, ran_look, Call.ran_returned_ok, demand_eq_ok]
      exact ⟨_, _, ⟨rfl, rfl⟩, (), _, ⟨find?_organizer.mpr hassigned, rfl⟩, .returned⟩
    · rcases h with hadmin | hown | ⟨h, -⟩
      · exact absurd (.inl hadmin) howner
      · exact absurd (.inr hown) howner
      · exact absurd h horganizer

/-- The check admits everybody to a public event, and those who manage it to any other one. -/
theorem ran_assertCanViewEvent :
    (EventAuthorizationService.assertCanViewEvent eventId caller.userId caller.userRoles).Ran
      (fun _ ↦ True) db (.ok event) db' ↔
      db' = db ∧ db.events.get? eventId = some event ∧ event.deletedAt = none ∧
        (EventAuthorizationService.isPublicEligible event = true ∨ Manages caller event db) := by
  unfold EventAuthorizationService.assertCanViewEvent
  simp only [Call.bind_eq, Call.ran_bind_ok, ran_look, Call.ran_returned_ok, present_eq_ok]
  constructor
  · rintro ⟨_, _, ⟨rfl, rfl⟩, found, _, ⟨hfound, rfl⟩, h⟩
    obtain ⟨hget, hdeleted⟩ := Option.filter_eq_some_iff.mp hfound
    have hdeleted := Option.isNone_iff_eq_none.mp hdeleted
    split_ifs at h with heligible
    · cases h
      exact ⟨rfl, hget, hdeleted, .inl heligible⟩
    · rw [← (Table.get?_eq_some.mp hget).2] at h
      obtain ⟨rfl, rfl, hmanages⟩ := ran_managerView.mp h
      exact ⟨rfl, hget, hdeleted, .inr hmanages⟩
  · rintro ⟨rfl, hget, hdeleted, h⟩
    refine ⟨_, db', ⟨rfl, rfl⟩, event, db', ⟨?_, rfl⟩, ?_⟩
    · exact Option.filter_eq_some_iff.mpr ⟨hget, by simp [hdeleted]⟩
    · split_ifs with heligible
      · exact .returned
      · rw [← (Table.get?_eq_some.mp hget).2]
        exact ran_managerView.mpr ⟨rfl, rfl, h.resolve_left heligible⟩

theorem admits_iff : Admits caller eventId db ↔
    ∃ event, db.events.get? eventId = some event ∧ event.deletedAt = none ∧
      (EventAuthorizationService.isPublicEligible event = true ∨ Manages caller event db) := by
  constructor
  · rintro ⟨event, db', h⟩
    exact ⟨event, (ran_assertCanViewEvent.mp h).2⟩
  · rintro ⟨event, h⟩
    exact ⟨event, db, ran_assertCanViewEvent.mpr ⟨rfl, h⟩⟩

end Callers

section Showings

/-- A request that shows events to its caller. -/
inductive Showing
  | findAll (query : EventQueryDto)
  | register (eventId : String) (client : Client)
  | addSession (eventId sessionId : String)

variable {text : EventText} {ilike : String → String → Bool} {caller : Caller} {db : ScheduleDb}
  {event : Event} {eventId sessionId : String}

/-- The request of the caller succeeds, and shows the event or a session of it. -/
inductive Shows (text : EventText) (ilike : String → String → Bool) (caller : Caller)
    (db : ScheduleDb) : Showing → String → Prop
  | findAll {query : EventQueryDto} {page : PaginatedEventsResponseDto} {item : EventResponseDto}
      {db' : EventsDb} :
      (EventsService.findAll text ilike query caller.userId caller.userRoles).Ran (fun _ ↦ True)
        db.agenda (.ok page) db' → item ∈ page.items →
      Shows text ilike caller db (.findAll query) item.id
  | register {eventId userId : String} {client : Client} {reply : RegistrationResponseDto}
      {db' : EventsDb} : caller.userId = some userId →
      (EventRegistrationService.register eventId userId client).Ran (fun _ ↦ True) db.agenda
        (.ok reply) db' → Shows text ilike caller db (.register eventId client) eventId
  | addSession {eventId sessionId userId : String} {reply : ScheduleItemResponseDto}
      {db' : ScheduleDb} : caller.userId = some userId →
      (AttendeeScheduleService.addSession text userId eventId sessionId).Ran (fun _ ↦ True) db
        (.ok reply) db' →
      Shows text ilike caller db (.addSession eventId sessionId) reply.session.eventId

/-- What a request is to heed so that it shows only what its caller may see: a search is not to
ask for drafts or cancelled events, and the other requests are not to be for private events. The
managers of an event need not heed it. -/
def Proper (caller : Caller) (event : Event) (db : EventsDb) : Showing → Prop
  | .findAll query => Manages caller event db ∨
      if "ADMIN" ∈ caller.userRoles then EventAuthorizationService.isPublicEligible event = true
      else query.status ≠ some .draft ∧ query.status ≠ some .cancelled
  | .register .. | .addSession .. => Manages caller event db ∨ event.visibility = .isPublic

theorem findAll_returns {query : EventQueryDto} {db : EventsDb} :
    (EventsService.findAll text ilike query caller.userId caller.userRoles).Returns (fun _ ↦ True)
      db fun page _ ↦ ∀ item ∈ page.items, ∃ event, db.events.get? item.id = some event ∧
        event.deletedAt = none ∧ EventsService.shown query caller.userRoles event = true := by
  intro page db' h item hitem
  simp only [EventsService.findAll, Call.bind_eq, Call.ran_bind_ok, ran_look] at h
  obtain ⟨_, _, ⟨rfl, rfl⟩, _, _, ⟨rfl, rfl⟩, h⟩ := h
  cases h
  obtain ⟨event, hevent, rfl⟩ := List.mem_map.mp hitem
  have hevent := List.mem_mergeSort.mp (List.mem_of_mem_drop (List.mem_of_mem_take hevent))
  obtain ⟨hmem, hmatches⟩ := List.mem_filter.mp hevent
  simp only [EventsService.matchesQuery, Bool.and_eq_true, Option.isNone_iff_eq_none] at hmatches
  obtain ⟨⟨⟨⟨⟨⟨⟨⟨⟨hdeleted, hshown⟩, -⟩, -⟩, -⟩, -⟩, -⟩, -⟩, -⟩, -⟩ := hmatches
  exact ⟨event, Table.get?_eq_some.mpr ⟨hmem, rfl⟩, hdeleted, hshown⟩

/-- Events that take registrations are published or go on. -/
theorem assertRegistrable_status {now : Time} {u : Unit}
    (h : EventRegistrationService.assertRegistrable event now = .ok u) :
    event.status = .published ∨ event.status = .ongoing := by
  obtain ⟨_, hcancelled, h⟩ := andThen_eq_ok.mp h
  obtain ⟨_, hcompleted, h⟩ := andThen_eq_ok.mp h
  obtain ⟨_, hdraft, h⟩ := andThen_eq_ok.mp h
  have hcancelled := demand_eq_ok.mp hcancelled
  have hcompleted := demand_eq_ok.mp hcompleted
  have hdraft := demand_eq_ok.mp hdraft
  cases hstatus : event.status with
  | draft => exact absurd hstatus hdraft
  | published => exact .inl rfl
  | ongoing => exact .inr rfl
  | completed => exact absurd hstatus hcompleted
  | cancelled => exact absurd hstatus hcancelled

theorem register_returns {userId : String} {client : Client} {db : EventsDb} :
    (EventRegistrationService.register eventId userId client).Returns (fun _ ↦ True) db
      fun _ _ ↦ ∃ event, db.events.get? eventId = some event ∧ event.deletedAt = none ∧
        (event.status = .published ∨ event.status = .ongoing) := by
  intro reply db' h
  simp only [EventRegistrationService.register, Call.bind_eq, Call.ran_bind_ok, ran_look,
    Call.ran_returned_ok, Call.ran_writes_ok] at h
  obtain ⟨_, _, ⟨rfl, rfl⟩, _, _, ⟨-, rfl⟩, _, _, ⟨env, -, -, hregistration⟩, -⟩ := h
  obtain ⟨event, hevent, h⟩ := andThen_eq_ok.mp hregistration
  obtain ⟨_, hregistrable, -⟩ := andThen_eq_ok.mp h
  obtain ⟨hget, hdeleted⟩ := Option.filter_eq_some_iff.mp (present_eq_ok.mp hevent)
  exact ⟨event, hget, Option.isNone_iff_eq_none.mp hdeleted, assertRegistrable_status hregistrable⟩

theorem addSession_returns {userId : String} :
    (AttendeeScheduleService.addSession text userId eventId sessionId).Returns (fun _ ↦ True) db
      fun reply _ ↦ ∃ event, db.agenda.events.get? reply.session.eventId = some event ∧
        event.deletedAt = none ∧ event.status ≠ .cancelled ∧ event.status ≠ .draft := by
  intro reply db' h
  simp only [AttendeeScheduleService.addSession, Call.bind_eq, Call.ran_bind_ok, ran_look,
    Call.ran_returned_ok, present_eq_ok] at h
  obtain ⟨_, _, ⟨rfl, rfl⟩, ⟨session, event⟩, _, ⟨hfound, rfl⟩, _, _, ⟨hschedulable, rfl⟩, h⟩ := h
  obtain ⟨_, _, -, _, _, -, _, _, -, h⟩ := h
  cases h
  obtain ⟨row, hrow, hfound⟩ := Option.bind_eq_some_iff.mp hfound
  obtain ⟨event', hevent, hfound⟩ := Option.bind_eq_some_iff.mp hfound
  cases hfound
  obtain ⟨_, -, h⟩ := andThen_eq_ok.mp hschedulable
  exact ⟨event, hevent, demand_eq_ok.mp h⟩

/-- What the filter of a search lets through is public unless the search asks for something else. -/
theorem shown_eligible {query : EventQueryDto} (hadmin : "ADMIN" ∉ caller.userRoles)
    (h : EventsService.shown query caller.userRoles event = true) :
    EventAuthorizationService.isPublicEligible event = true ↔
      query.status ≠ some .draft ∧ query.status ≠ some .cancelled := by
  rw [EventsService.shown, if_neg hadmin, Bool.and_eq_true, beq_iff_eq] at h
  obtain ⟨hvisibility, hstatus⟩ := h
  rw [EventAuthorizationService.isPublicEligible, hvisibility]
  cases hquery : query.status with
  | none =>
    rw [hquery, Bool.or_eq_true, beq_iff_eq, beq_iff_eq] at hstatus
    rcases hstatus with hstatus | hstatus <;> simp [hstatus]
  | some status =>
    rw [hquery, beq_iff_eq] at hstatus
    cases status <;> simp [hstatus]

/-- An event that is shown is one that its caller may see exactly if the request was proper. -/
theorem shown_admitted {showing : Showing} (h : Shows text ilike caller db showing eventId) :
    Admits caller eventId db.agenda ↔
      ∃ event, db.agenda.events.get? eventId = some event ∧
        Proper caller event db.agenda showing := by
  have hiff : ∀ event, db.agenda.events.get? eventId = some event → event.deletedAt = none →
      (EventAuthorizationService.isPublicEligible event = true ∨ Manages caller event db.agenda ↔
        Proper caller event db.agenda showing) →
      (Admits caller eventId db.agenda ↔ ∃ event, db.agenda.events.get? eventId = some event ∧
        Proper caller event db.agenda showing) := by
    intro event hget hdeleted hproper
    rw [admits_iff]
    simp only [hget, Option.some.injEq, exists_eq_left', hdeleted, true_and]
    exact hproper
  cases h with
  | findAll hrun hitem =>
    obtain ⟨event, hget, hdeleted, hshown⟩ := findAll_returns _ _ hrun _ hitem
    refine hiff event hget hdeleted ?_
    rw [Proper, or_comm]
    refine or_congr_right ?_
    split_ifs with hadmin
    · exact Iff.rfl
    · exact shown_eligible hadmin hshown
  | register _ hrun =>
    obtain ⟨event, hget, hdeleted, hstatus⟩ := register_returns _ _ hrun
    refine hiff event hget hdeleted ?_
    rw [Proper, or_comm]
    refine or_congr_right ?_
    rcases hstatus with hstatus | hstatus <;>
      simp [EventAuthorizationService.isPublicEligible, hstatus]
  | addSession _ hrun =>
    obtain ⟨event, hget, hdeleted, hcancelled, hdraft⟩ := addSession_returns _ _ hrun
    refine hiff event hget hdeleted ?_
    rw [Proper, or_comm]
    refine or_congr_right ?_
    cases hstatus : event.status with
    | draft => exact absurd hstatus hdraft
    | cancelled => exact absurd hstatus hcancelled
    | published => simp [EventAuthorizationService.isPublicEligible, hstatus]
    | ongoing => simp [EventAuthorizationService.isPublicEligible, hstatus]
    | completed => simp [EventAuthorizationService.isPublicEligible, hstatus]

end Showings

section Sample

def anonymous : Caller := ⟨none, []⟩

def signedIn : Caller := ⟨some "user-1", ["ATTENDEE"]⟩

/-- The event with a status and a visibility, and nothing in the schedules. -/
def visibilityDb (status : EventStatus) (visibility : EventVisibility) : ScheduleDb where
  agenda :=
    { sampleDb with
      events := .singleton { sampleEvent with
        status
        visibility } }
  userSessionSchedules := .empty
  userSessionNotes := .empty
  reminders := some .empty

theorem shows_register {status : EventStatus} {visibility : EventVisibility}
    (h : ((EventRegistrationService.register "event-1" "user-1" nobody).outcome
      [sampleEnv 1 "a", sampleEnv 1 "b", sampleEnv 1 "c"]
        (visibilityDb status visibility).agenda).any (fun q ↦ q.1.toOption.any fun _ ↦ true) = true) :
    Shows sampleText (fun _ _ ↦ true) signedIn (visibilityDb status visibility)
      (.register "event-1" nobody) "event-1" := by
  obtain ⟨_, _, hrun, -⟩ := Call.exists_ran_of_outcome h
  exact .register rfl hrun

/-- An attendee registers for a public event, and may see it. -/
theorem published_admitted :
    Shows sampleText (fun _ _ ↦ true) signedIn (visibilityDb .published .isPublic)
      (.register "event-1" nobody) "event-1" ∧
    Admits signedIn "event-1" (visibilityDb .published .isPublic).agenda := by
  have hshows : Shows sampleText (fun _ _ ↦ true) signedIn (visibilityDb .published .isPublic)
      (.register "event-1" nobody) "event-1" := shows_register (by decide +kernel)
  exact ⟨hshows, (shown_admitted hshows).mpr ⟨_, rfl, .inr rfl⟩⟩

theorem unmanaged {status : EventStatus} {visibility : EventVisibility} {caller : Caller}
    (hcaller : caller = anonymous ∨ caller = signedIn)
    (h : EventAuthorizationService.isPublicEligible { sampleEvent with
      status
      visibility } = false) :
    ¬Admits caller "event-1" (visibilityDb status visibility).agenda := by
  rw [admits_iff]
  rintro ⟨event, hget, -, hadmitted⟩
  cases hget
  rcases hadmitted with heligible | ⟨userId, huser, -, hmanages⟩
  · rw [h] at heligible
    cases heligible
  · rcases hcaller with rfl | rfl
    · cases huser
    · cases huser
      rcases hmanages with hadmin | howner | ⟨horganizer, -⟩
      · exact absurd hadmin (by decide)
      · exact absurd howner (by decide : ¬"owner-1" = "user-1")
      · exact absurd horganizer (by decide)

/-- Anybody who asks for drafts is shown them, and an attendee registers for a private event. -/
theorem hidden_shown :
    (Shows sampleText (fun _ _ ↦ true) anonymous (visibilityDb .draft .isPublic)
      (.findAll { EventQueryDto.empty with status := some .draft }) "event-1" ∧
        ¬Admits anonymous "event-1" (visibilityDb .draft .isPublic).agenda) ∧
    Shows sampleText (fun _ _ ↦ true) signedIn (visibilityDb .published .isPrivate)
      (.register "event-1" nobody) "event-1" ∧
        ¬Admits signedIn "event-1" (visibilityDb .published .isPrivate).agenda := by
  refine ⟨⟨?_, unmanaged (.inl rfl) rfl⟩, shows_register (by decide +kernel),
    unmanaged (.inr rfl) rfl⟩
  have hrun : ((EventsService.findAll sampleText (fun _ _ ↦ true)
      { EventQueryDto.empty with status := some .draft } none []).outcome
      [sampleEnv 1 "a", sampleEnv 1 "b"] (visibilityDb .draft .isPublic).agenda).any
        (fun q ↦ q.1.toOption.any fun page ↦ page.items.any (·.id == "event-1")) = true := by
    decide +kernel
  obtain ⟨page, db', hran, hitem⟩ := Call.exists_ran_of_outcome hrun
  obtain ⟨item, hmem, hid⟩ := List.any_eq_true.mp hitem
  rw [← beq_iff_eq.mp hid]
  exact .findAll hran hmem

end Sample

end Innovents.Events
