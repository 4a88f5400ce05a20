import Mathlib.Data.Int.ConditionallyCompleteOrder
import Mathlib.Order.CompletePartialOrder
import Mathlib.Order.Interval.Set.Disjoint
import Innovents.Lib.Stability
import Innovents.Events.SessionsService

namespace Innovents.Events

open Innovents.Lib Innovents.Auth Innovents.Platform
open SessionsService

section Operations

inductive SessionOp
  | create (eventId userId : String) (userRoles : List String) (dto : CreateSessionDto)
      (client : Client)
  | update (eventId sessionId userId : String) (userRoles : List String) (dto : UpdateSessionDto)
      (client : Client)

def SessionOp.runs (text : EventText) : SessionOp → EventsCall SessionResponseDto
  | create eventId userId userRoles dto client =>
    SessionsService.create text eventId userId userRoles dto client
  | update eventId sessionId userId userRoles dto client =>
    SessionsService.update text eventId sessionId userId userRoles dto client

abbrev SessionTask := Task SessionOp String AuthEnv EventsDb AuthError SessionResponseDto

def sessionCalls (text : EventText) : Machine EventsDb SessionTask AuthEnv :=
  tasks (SessionOp.runs text)

end Operations

section Schedule

/-- If both sessions take up one venue, they do so at different times. -/
def Apart (a b : Session) : Prop :=
  live a = true → live b = true → ∀ venueId ∈ a.venueId, b.venueId = some venueId →
    Disjoint (Set.Ico a.startsAt a.endsAt) (Set.Ico b.startsAt b.endsAt)

theorem Apart.symm {a b : Session} (h : Apart a b) : Apart b a :=
  fun hb ha venueId hvenue hsame ↦ (h ha hb venueId hsame hvenue).symm

instance (a b : Session) : Decidable (Apart a b) :=
  decidable_of_iff (live a = true → live b = true → ∀ venueId ∈ a.venueId,
    b.venueId = some venueId → min a.endsAt b.endsAt ≤ max a.startsAt b.startsAt) (by
      simp only [Apart, Set.Ico_disjoint_Ico])

/-- Two sessions that take place are not in one venue at the same time. -/
def NoDoubleBooking (db : EventsDb) : Prop :=
  ∀ a ∈ db.sessions.rows, ∀ b ∈ db.sessions.rows, a.id ≠ b.id →
    ∀ venueId, a.venueId = some venueId → b.venueId = some venueId →
      a.deletedAt = none → b.deletedAt = none → a.status ≠ .cancelled → b.status ≠ .cancelled →
        Disjoint (Set.Ico a.startsAt a.endsAt) (Set.Ico b.startsAt b.endsAt)

theorem live_iff {s : Session} : SessionsService.live s = true ↔ s.deletedAt = none ∧ s.status ≠ .cancelled := by
  rw [SessionsService.live, Bool.and_eq_true, Option.isNone_iff_eq_none, bne_iff_ne]

theorem noDoubleBooking_iff {db : EventsDb} : NoDoubleBooking db ↔
    ∀ a ∈ db.sessions.rows, ∀ b ∈ db.sessions.rows, a.id ≠ b.id → Apart a b := by
  constructor
  · intro h a ha b hb hne halive hblive venueId hvenue hsame
    obtain ⟨hadeleted, hastatus⟩ := live_iff.mp halive
    obtain ⟨hbdeleted, hbstatus⟩ := live_iff.mp hblive
    exact h a ha b hb hne venueId hvenue hsame hadeleted hbdeleted hastatus hbstatus
  · intro h a ha b hb hne venueId hvenue hsame hadeleted hbdeleted hastatus hbstatus
    exact h a ha b hb hne (live_iff.mpr ⟨hadeleted, hastatus⟩) (live_iff.mpr ⟨hbdeleted, hbstatus⟩)
      venueId hvenue hsame

/-- No venue is double-booked, and the venue of a session is one of its event. -/
structure Scheduled (db : EventsDb) : Prop where
  apart : ∀ a ∈ db.sessions.rows, ∀ b ∈ db.sessions.rows, a.id ≠ b.id → Apart a b
  venues : ∀ s ∈ db.sessions.rows, ∀ venueId ∈ s.venueId, ∃ v ∈ db.venues.get? venueId,
    v.eventId = s.eventId

/-- The session as an update found it. -/
def foundSession (eventId sessionId : String) (history : History String EventsDb) :
    Option Session :=
  (history.find? fun event ↦ event.1 == "session.findFirst").bind fun event ↦
    sessionOf eventId sessionId event.2.1

/-- An update writes a session that no other session of the venue overlaps. -/
def SessionOp.Fits (text : EventText) (op : SessionOp) (history : History String EventsDb)
    (label : String) (db : EventsDb) : Prop :=
  match op with
  | create .. => True
  | update eventId sessionId _ _ dto _ => label = "$transaction" →
    ∀ found ∈ foundSession eventId sessionId history, ∀ s ∈ db.sessions.get? sessionId,
      ∀ other ∈ db.sessions.rows, other.id ≠ sessionId →
        Apart (merged text dto (dto.venueId.getD found.venueId) s) other

instance (text : EventText) (op : SessionOp) (history : History String EventsDb) (label : String)
    (db : EventsDb) : Decidable (op.Fits text history label db) :=
  match op with
  | .create .. => inferInstanceAs (Decidable True)
  | .update .. => inferInstanceAs (Decidable (_ → _))

end Schedule

section Transactions

variable {text : EventText} {eventId sessionId userId : String} {env : AuthEnv} {db db' : EventsDb}
  {r : SessionResponseDto}

/-- The venues stay, and so do the sessions of an event. -/
def SessionsStay (db db' : EventsDb) : Prop :=
  db'.venues = db.venues ∧ ∀ id, ∀ s ∈ db.sessions.get? id, ∃ s' ∈ db'.sessions.get? id,
    s'.eventId = s.eventId

theorem SessionsStay.refl (db : EventsDb) : SessionsStay db db := ⟨rfl, fun _ s hs ↦ ⟨s, hs, rfl⟩⟩

theorem SessionsStay.trans {a b c : EventsDb} (h : SessionsStay a b) (h' : SessionsStay b c) :
    SessionsStay a c := by
  refine ⟨h'.1.trans h.1, fun id s hs ↦ ?_⟩
  obtain ⟨s', hs', he⟩ := h.2 id s hs
  obtain ⟨s'', hs'', he'⟩ := h'.2 id s' hs'
  exact ⟨s'', hs'', he'.trans he⟩

/-- The venue is one of the event. -/
def OfEvent (eventId : String) (venueId : Option String) (db : EventsDb) : Prop :=
  ∀ id ∈ orNull venueId, ∃ v ∈ db.venues.get? id, v.eventId = eventId

theorem ofEvent_stable {venueId : Option String}
    (h : OfEvent eventId venueId db) (hstay : SessionsStay db db') :
    OfEvent eventId venueId db' := by
  intro id hid
  rw [hstay.1]
  exact h id hid

def InEvent (eventId sessionId : String) (db : EventsDb) : Prop :=
  ∃ s ∈ db.sessions.get? sessionId, s.eventId = eventId

theorem inEvent_stable (h : InEvent eventId sessionId db)
    (hstay : SessionsStay db db') : InEvent eventId sessionId db' := by
  obtain ⟨s, hs, he⟩ := h
  obtain ⟨s', hs', he'⟩ := hstay.2 sessionId s hs
  exact ⟨s', hs', he'.trans he⟩

theorem beside_sessions (h : Beside db db') :
    db'.sessions = db.sessions ∧ db'.venues = db.venues := by
  obtain ⟨accounts, rfl⟩ := h
  exact ⟨rfl, rfl⟩

theorem Scheduled.congr (h : Scheduled db) (hsessions : db'.sessions = db.sessions)
    (hvenues : db'.venues = db.venues) : Scheduled db' := by
  obtain ⟨hapart, hown⟩ := h
  constructor
  · rwa [hsessions]
  · rwa [hsessions, hvenues]

theorem beside_scheduled (db db' : EventsDb) (h : Beside db db') (hdb : Scheduled db) :
    Scheduled db' := hdb.congr (beside_sessions h).1 (beside_sessions h).2

theorem SessionsStay.congr (hsessions : db'.sessions = db.sessions)
    (hvenues : db'.venues = db.venues) : SessionsStay db db' :=
  ⟨hvenues, fun id s hs ↦ ⟨s, by rwa [hsessions], rfl⟩⟩

theorem sessionCreate_stay {dto : CreateSessionDto}
    (h : sessionCreate text eventId dto env db = .ok (db', r)) : SessionsStay db db' := by
  obtain ⟨-, s, -, -, -, -, hcreate, -, hbeside⟩ := sessionCreate_eq h
  exact ⟨(beside_sessions hbeside).2, fun id s hs ↦ ⟨s, (Table.get?_create_taken hs hcreate).2, rfl⟩⟩

theorem sessionUpdate_stay {dto : UpdateSessionDto} {targetVenueId : Option String}
    {startsAt endsAt : ℤ}
    (h : sessionUpdate text eventId sessionId userId dto targetVenueId startsAt endsAt env db =
      .ok (db', r)) : SessionsStay db db' := by
  obtain ⟨hupdate, -, hbeside⟩ := sessionUpdate_eq h
  refine ⟨(beside_sessions hbeside).2, fun id s hs ↦ ?_⟩
  rw [Table.get?_update hupdate fun _ ↦ rfl]
  split_ifs with hid
  · subst hid
    rw [Option.mem_def.mp hs]
    exact ⟨_, rfl, rfl⟩
  · exact ⟨s, hs, rfl⟩

theorem sessionCreate_scheduled {dto : CreateSessionDto}
    (h : sessionCreate text eventId dto env db = .ok (db', r)) (hdb : Scheduled db)
    (hvenue : OfEvent eventId dto.venueId db) : Scheduled db' := by
  obtain ⟨hfree, new, hevent, hvenueId, hstarts, hends, hcreate, -, hbeside⟩ := sessionCreate_eq h
  have hvenues := (beside_sessions hbeside).2
  have hrows := Table.create_eq_ok.mp hcreate
  have hnew : ∀ s ∈ db.sessions.rows, Apart s new := by
    intro s hs hlive _ venueId hs' hn'
    rw [hvenueId] at hn'
    -- both are of the event of their venue, so the query has looked at the old one
    obtain ⟨v, hv, hsevent⟩ := hdb.venues s hs venueId hs'
    obtain ⟨w, hw, hwevent⟩ := hvenue venueId hn'
    obtain rfl : v = w := Option.mem_unique hv hw
    have hquery := Table.find?_eq_none.mp (hfree venueId hn') s hs
    rw [← hwevent, hsevent] at hquery
    simp only [beq_self_eq_true, Option.mem_def.mp hs', hlive, Bool.true_and,
      Bool.and_eq_false_iff, decide_eq_false_iff_not] at hquery
    rw [Set.Ico_disjoint_Ico, hstarts, hends]
    rcases hquery with hlate | hearly
    · exact (min_le_right _ _).trans ((not_lt.mp hlate).trans (le_max_left _ _))
    · exact (min_le_left _ _).trans ((not_lt.mp hearly).trans (le_max_right _ _))
  constructor
  · intro a ha b hb hne
    rw [hrows, List.mem_append, List.mem_singleton] at ha hb
    rcases ha with ha | rfl
    · rcases hb with hb | rfl
      · exact hdb.apart a ha b hb hne
      · exact hnew a ha
    · rcases hb with hb | rfl
      · exact (hnew b hb).symm
      · exact absurd rfl hne
  · intro s hs venueId hs'
    rw [hvenues]
    rw [hrows, List.mem_append, List.mem_singleton] at hs
    rcases hs with hs | rfl
    · exact hdb.venues s hs venueId hs'
    · rw [hvenueId] at hs'
      rw [hevent]
      exact hvenue venueId hs'

theorem sessionUpdate_scheduled {dto : UpdateSessionDto} {targetVenueId : Option String}
    {startsAt endsAt : ℤ}
    (h : sessionUpdate text eventId sessionId userId dto targetVenueId startsAt endsAt env db =
      .ok (db', r)) (hdb : Scheduled db)
    (hevent : InEvent eventId sessionId db) (hvenue : OfEvent eventId targetVenueId db)
    (hfits : ∀ s ∈ db.sessions.get? sessionId, ∀ other ∈ db.sessions.rows, other.id ≠ sessionId →
      Apart (merged text dto targetVenueId s) other) : Scheduled db' := by
  obtain ⟨hupdate, -, hbeside⟩ := sessionUpdate_eq h
  have hvenues := (beside_sessions hbeside).2
  have hrows := (Table.update_eq_ok.mp hupdate).2
  obtain ⟨s, hs, hsevent⟩ := hevent
  obtain ⟨hmem, hsid⟩ := Table.get?_eq_some.mp hs
  have hsame : ∀ a ∈ db.sessions.rows, a.id = sessionId → a = s := fun a ha haid ↦
    db.sessions.eq_of_id ha hmem (haid.trans hsid.symm)
  constructor
  · intro a ha b hb hne
    rw [hrows, Table.mem_updateRows] at ha hb
    rcases ha with ⟨a, ha, haid, rfl⟩ | ⟨ha, haid⟩
    · rcases hb with ⟨b, hb, hbid, rfl⟩ | ⟨hb, hbid⟩
      · exact absurd (haid.trans hbid.symm) hne
      · rw [hsame a ha haid]
        exact hfits s hs b hb hbid
    · rcases hb with ⟨b, hb, hbid, rfl⟩ | ⟨hb, hbid⟩
      · rw [hsame b hb hbid]
        exact Apart.symm (hfits s hs a ha haid)
      · exact hdb.apart a ha b hb hne
  · intro t ht venueId ht'
    rw [hvenues]
    rw [hrows, Table.mem_updateRows] at ht
    rcases ht with ⟨t, ht, htid, rfl⟩ | ⟨ht, -⟩
    · obtain ⟨v, hv, hv'⟩ := hvenue venueId ht'
      refine ⟨v, hv, ?_⟩
      rw [hsame t ht htid]
      exact hv'.trans hsevent.symm
    · exact hdb.venues t ht venueId ht'

end Transactions

section Runs

variable {text : EventText} {eventId sessionId : String}

abbrev SessionHistory := History String EventsDb

theorem runs_stay (op : SessionOp) : (op.runs text).Each fun _ ↦ SessionsStay := by
  have hread : ∀ db, SessionsStay db db := SessionsStay.refl
  have hlog : ∀ db db', Beside db db' → SessionsStay db db' := fun _ _ h ↦
    .congr (beside_sessions h).1 (beside_sessions h).2
  cases op with
  | create eventId userId userRoles dto client =>
    refine Call.each_bind (EventAuthorizationService.assertCanManageEvent_each hread hread)
      fun event ↦ ?_
    refine Call.each_bind Call.each_returned fun _ ↦ Call.each_bind Call.each_returned fun _ ↦ ?_
    refine Call.each_bind (validateVenue_each hread) fun _ ↦ ?_
    refine Call.each_bind (validateSpeakers_each hread) fun _ ↦ ?_
    refine Call.each_bind (Call.each_writes hread fun _ _ _ _ h ↦ sessionCreate_stay h) fun _ ↦ ?_
    exact Call.each_bind (each_log hlog) fun _ ↦ Call.each_returned
  | update eventId sessionId userId userRoles dto client =>
    exact SessionsService.update_each (fun _ ↦ hread) (fun _ ↦ hlog)
      fun _ _ _ _ _ _ _ h ↦ sessionUpdate_stay h

/-- A venue that has passed the check is one of the event, and stays one. -/
theorem validateVenue_heeds {venueId : Option String} {Q : EventsDb → Prop}
    {ok : SessionHistory → String → EventsDb → Prop} {history : SessionHistory}
    (hQ : ∀ db db', Q db → SessionsStay db db' → Q db') (hsure : history.Sure SessionsStay Q) :
    (validateVenue venueId eventId).Heeds Scheduled (Among SessionsStay ok) (fun _ _ _ ↦ True)
      (fun history' _ ↦ history <+: history' ∧
        history'.Sure SessionsStay fun db ↦ Q db ∧ OfEvent eventId venueId db) history := by
  unfold validateVenue
  cases hvenueId : orNull venueId with
  | none =>
    refine Call.heeds_returned fun _ _ ↦ ⟨List.prefix_rfl, fun db hdb ↦ ⟨hsure db hdb, ?_⟩⟩
    intro id hid
    rw [hvenueId] at hid
    cases hid
  | some id =>
    refine Call.heeds_bind (Call.heeds_reads (fun _ ↦ trivial) fun env db _ hok ↦ ?_)
    refine Call.heeds_returned fun _ hvenue ↦ ⟨List.prefix_append _ _, ?_⟩
    refine History.sure_concat (fun s s' h hs ↦ ⟨hQ s s' h.1 hs, ofEvent_stable h.2 hs⟩)
      ⟨hsure db hok.2, fun id' hid' ↦ ?_⟩
    rw [hvenueId, Option.mem_some] at hid'
    subst hid'
    obtain ⟨v, hv⟩ := Option.isSome_iff_exists.mp (demand_eq_ok.mp hvenue)
    obtain ⟨hget, hevent⟩ := Option.filter_eq_some_iff.mp hv
    exact ⟨v, hget, of_decide_eq_true hevent⟩

theorem foundSession_concat {history : SessionHistory} {db : EventsDb}
    (h : ∀ event ∈ history, event.1 ≠ "session.findFirst") :
    foundSession eventId sessionId (history ++ [("session.findFirst", db, db)]) =
      sessionOf eventId sessionId db := by
  have hnone : history.find? (fun event ↦ event.1 == "session.findFirst") = none :=
    List.find?_eq_none.mpr fun event hevent ↦ by simpa using h event hevent
  rw [foundSession, List.find?_append, hnone]
  rfl

theorem foundSession_of_prefix {history history' : SessionHistory} {s : Session}
    (h : foundSession eventId sessionId history = some s) (hp : history <+: history') :
    foundSession eventId sessionId history' = some s := by
  obtain ⟨new, rfl⟩ := hp
  obtain ⟨event, hfind, hs⟩ := Option.bind_eq_some_iff.mp h
  rw [foundSession, List.find?_append, hfind]
  exact hs

theorem create_heeds {userId : String} {userRoles : List String} {dto : CreateSessionDto}
    {client : Client} {ok : SessionHistory → String → EventsDb → Prop} :
    (SessionsService.create text eventId userId userRoles dto client).Heeds Scheduled
      (Among SessionsStay ok) (fun _ _ _ ↦ True) (fun _ _ ↦ True) [] := by
  refine Call.heeds_bind ((Call.heeds_reading (P := fun _ ↦ True) (Q := fun _ ↦ True)
    (EventAuthorizationService.assertCanManageEvent_each (fun _ ↦ ⟨trivial, rfl⟩)
      fun _ ↦ ⟨trivial, rfl⟩) (fun _ _ _ ↦ trivial) (fun _ _ _ _ ↦ trivial)
      History.sure_true).mono fun history event hevent ↦ ?_)
  refine Call.heeds_bind (Call.heeds_returned fun _ _ ↦ ?_)
  refine Call.heeds_bind (Call.heeds_returned fun _ _ ↦ ?_)
  refine Call.heeds_bind ((validateVenue_heeds (fun _ _ h _ ↦ h) hevent.2).mono
    fun history' _ hvenue ↦ ?_)
  refine Call.heeds_bind ((Call.heeds_reading (P := fun _ ↦ True) (validateSpeakers_each
    fun _ ↦ ⟨trivial, rfl⟩) (fun _ _ _ ↦ trivial) (fun _ _ h hs ↦ ⟨h.1, ofEvent_stable h.2 hs⟩)
      hvenue.2).mono fun history'' _ hspeakers ↦ ?_)
  refine Call.heeds_bind (Call.heeds_writes (fun _ ↦ trivial) fun env db db' r hdb hok h ↦
    ⟨sessionCreate_scheduled h hdb (hspeakers.2 db hok.2).2, trivial, ?_⟩)
  exact Call.heeds_bind ((heeds_log beside_scheduled fun _ _ _ ↦ trivial).mono
    fun _ _ _ ↦ Call.heeds_returned fun _ _ ↦ trivial)

theorem update_heeds {userId : String} {userRoles : List String} {dto : UpdateSessionDto}
    {client : Client} :
    (SessionsService.update text eventId sessionId userId userRoles dto client).Heeds Scheduled
      (Among SessionsStay ((SessionOp.update eventId sessionId userId userRoles dto client).Fits text))
      (fun _ _ _ ↦ True) (fun _ _ ↦ True) [] := by
  refine Call.heeds_bind ((Call.heeds_reading (P := (· ≠ "session.findFirst"))
    (Q := fun _ ↦ True) (EventAuthorizationService.assertCanManageEvent_each
      (fun _ ↦ ⟨by decide, rfl⟩) fun _ ↦ ⟨by decide, rfl⟩) (fun _ _ _ ↦ trivial)
      (fun _ _ _ _ ↦ trivial) History.sure_true).mono fun history event hevent ↦ ?_)
  obtain ⟨⟨new, hnew, hlabels⟩, -⟩ := hevent
  rw [List.nil_append] at hnew
  subst hnew
  refine Call.heeds_bind (Call.heeds_reads (fun _ ↦ trivial) fun env db hdb hok ↦ ?_)
  refine Call.heeds_bind (Call.heeds_returned fun existing hexisting ↦ ?_)
  have hexisting := present_eq_ok.mp hexisting
  -- the session that is found is one of the event, and stays one
  obtain ⟨hget, hof⟩ := Option.filter_eq_some_iff.mp hexisting
  have hfound := (foundSession_concat hlabels).trans hexisting
  have hstable : ∀ db db', InEvent eventId sessionId db → SessionsStay db db' →
      InEvent eventId sessionId db' := fun _ _ ↦ inEvent_stable
  have hsure : History.Sure SessionsStay (InEvent eventId sessionId)
      (history ++ [("session.findFirst", db, db)]) :=
    History.sure_concat hstable ⟨existing, hget, (of_decide_eq_true hof).1⟩
  refine Call.heeds_bind (Call.heeds_returned fun _ _ ↦ ?_)
  refine Call.heeds_bind (Call.heeds_returned fun _ _ ↦ ?_)
  refine Call.heeds_bind ((validateVenue_heeds hstable hsure).mono fun history' _ hvenue ↦ ?_)
  refine Call.heeds_bind ((Call.heeds_reading (P := fun _ ↦ True) (validateSpeakers_each
    fun _ ↦ ⟨trivial, rfl⟩) (fun _ _ _ ↦ trivial)
      (fun _ _ h hs ↦ ⟨inEvent_stable h.1 hs, ofEvent_stable h.2 hs⟩) hvenue.2).mono
        fun history'' _ hspeakers ↦ ?_)
  obtain ⟨⟨new', rfl, -⟩, hsure'⟩ := hspeakers
  have hstill := foundSession_of_prefix hfound (hvenue.1.trans (List.prefix_append _ new'))
  refine Call.heeds_bind (Call.heeds_writes (fun _ ↦ trivial) fun env db db' r hdb hok h ↦ ?_)
  obtain ⟨hevent, hvenue⟩ := hsure' db hok.2
  refine ⟨sessionUpdate_scheduled h hdb hevent hvenue (hok.1 rfl existing hstill), trivial, ?_⟩
  exact Call.heeds_bind ((heeds_log beside_scheduled fun _ _ _ ↦ trivial).mono
    fun _ _ _ ↦ Call.heeds_returned fun _ _ ↦ trivial)

theorem runs_heeds (op : SessionOp) : (op.runs text).Heeds Scheduled
    (Among SessionsStay (op.Fits text)) (fun _ _ _ ↦ True) (fun _ _ ↦ True) [] := by
  cases op with
  | create => exact create_heeds
  | update => exact update_heeds

def ScheduledAtFirst (p : Pool EventsDb SessionTask) : Prop :=
  p.threads = [] ∧ Scheduled p.shared

/-- As long as no update writes a session that another one of the venue overlaps, no venue is
double-booked. -/
theorem venues_apart {p : Pool EventsDb SessionTask}
    (h : Reach (sessionCalls text).Step (Heeding fun op ↦ op.Fits text) ScheduledAtFirst p) :
    NoDoubleBooking p.shared := by
  obtain ⟨hreach, -⟩ := h.remember SessionsStay.refl (fun _ _ _ ↦ SessionsStay.trans) runs_stay
    fun p hp ↦ hp.1
  obtain ⟨hp, -⟩ := heedful_reach (I := fun _ ↦ True) runs_heeds
    (fun p hp ↦ ⟨⟨hp.2, by simp [hp.1]⟩, trivial⟩) (fun _ _ _ _ _ _ ↦ trivial) hreach
  exact noDoubleBooking_iff.mpr hp.shared.apart

end Runs

section Sample

def sampleVenue (id name : String) : Venue where
  id
  eventId := "event-1"
  name
  description := none
  capacity := none
  floor := none
  location := none
  createdAt := 0
  updatedAt := 0

def sampleSession (id venueId : String) (startsAt endsAt : ℤ) : Session where
  id
  eventId := "event-1"
  venueId := some venueId
  title := "Keynote"
  description := none
  startsAt
  endsAt
  displayOrder := 0
  status := .scheduled
  deletedAt := none
  createdAt := 0
  updatedAt := 0

/-- An event with two halls and a session in each of them. -/
def agendaDb : EventsDb :=
  { sampleDb with
    venues := ((Table.singleton (sampleVenue "venue-1" "Hall 1")).create
      (sampleVenue "venue-2" "Hall 2")).toOption.getD .empty
    sessions := ((Table.singleton (sampleSession "session-1" "venue-1" 110 120)).create
      (sampleSession "session-2" "venue-2" 130 140)).toOption.getD .empty }

theorem agendaDb_scheduled : ScheduledAtFirst ⟨agendaDb, []⟩ := by
  refine ⟨rfl, ?_, ?_⟩
  · show ∀ a ∈ agendaDb.sessions.rows, ∀ b ∈ agendaDb.sessions.rows, a.id ≠ b.id → Apart a b
    decide +kernel
  · have hrows : agendaDb.sessions.rows = [sampleSession "session-1" "venue-1" 110 120,
        sampleSession "session-2" "venue-2" 130 140] := rfl
    intro s hs venueId hvenue
    rw [hrows] at hs
    rcases List.mem_pair.mp hs with rfl | rfl
    · cases hvenue
      exact ⟨sampleVenue "venue-1" "Hall 1", rfl, rfl⟩
    · cases hvenue
      exact ⟨sampleVenue "venue-2" "Hall 2", rfl, rfl⟩

/-- The first session moves to the second hall. -/
def moved : SessionOp :=
  .update "event-1" "session-1" "owner-1" []
    { UpdateSessionDto.empty with venueId := some (some "venue-2") } nobody

/-- The first session is put off to the time of the second one. -/
def putOff : SessionOp :=
  .update "event-1" "session-1" "owner-1" []
    { UpdateSessionDto.empty with
      startsAt := some (some 130)
      endsAt := some (some 140) } nobody

/-- The session moves to the second hall and keeps its time. -/
theorem moved_apart : ∃ p : Pool EventsDb SessionTask,
    p.shared.sessions.rows.map (fun s ↦ (s.id, s.venueId, s.startsAt)) =
      [("session-1", some "venue-2", 110), ("session-2", some "venue-2", 130)] ∧
      NoDoubleBooking p.shared := by
  have hrun : ((sessionCalls sampleText).play (meets (SessionOp.Fits sampleText))
      ((List.range 5).map fun n ↦ (0, sampleEnv 1 s!"a{n}"))
      ⟨agendaDb, [moved].map fun op ↦ ⟨op, [], op.runs sampleText⟩⟩).any
        (fun p ↦ p.shared.sessions.rows.map (fun s ↦ (s.id, s.venueId, s.startsAt)) ==
          [("session-1", some "venue-2", 110), ("session-2", some "venue-2", 130)]) = true := by
    decide +kernel
  obtain ⟨p, hp, htest⟩ := (Option.any_eq_true ..).mp hrun
  have hreach := reach_tasks (fun _ _ _ h ↦ meets_sound h) agendaDb_scheduled hp
  exact ⟨p, beq_iff_eq.mp htest, venues_apart hreach⟩

/-- One update moves the session, another one changes its time in between, and the session ends up
in the second hall at the new time. -/
theorem moved_and_put_off : ∃ p : Pool EventsDb SessionTask,
    Reach (sessionCalls sampleText).Step (Heeding fun _ _ _ _ ↦ True) ScheduledAtFirst p ∧
      p.threads.all (·.call.label?.isNone) = true ∧ ¬ NoDoubleBooking p.shared := by
  have hrun : ((sessionCalls sampleText).play (fun _ _ _ ↦ true)
      ((List.range 3).map (fun n ↦ (0, sampleEnv 1 s!"a{n}")) ++
        (List.range 5).map (fun n ↦ (1, sampleEnv 2 s!"b{n}")) ++
        (List.range 2).map (fun n ↦ (0, sampleEnv 3 s!"c{n}")))
      ⟨agendaDb, [moved, putOff].map fun op ↦ ⟨op, [], op.runs sampleText⟩⟩).any
        (fun p ↦ p.threads.all (·.call.label?.isNone) && !decide (∀ a ∈ p.shared.sessions.rows,
          ∀ b ∈ p.shared.sessions.rows, a.id ≠ b.id → Apart a b)) = true := by
    decide +kernel
  obtain ⟨p, hp, htest⟩ := (Option.any_eq_true ..).mp hrun
  rw [Bool.and_eq_true, Bool.not_eq_true', decide_eq_false_iff_not] at htest
  exact ⟨p, reach_tasks (fun _ _ _ _ _ _ _ _ ↦ trivial) agendaDb_scheduled hp, htest.1,
    fun h ↦ htest.2 (noDoubleBooking_iff.mp h)⟩

end Sample

end Innovents.Events
