import Mathlib.Data.List.Perm.Subperm
import Innovents.Events.SpeakersService
import Innovents.Events.VenueSchedule
import Innovents.Events.VenuesService

namespace Innovents.Events

open Innovents.Lib Innovents.Auth Innovents.Platform
open Innovents.Payments (Time)

section Operations

inductive AgendaOp
  | createEvent (ownerId : String) (dto : CreateEventDto) (client : Client)
  | updateEvent (eventId userId : String) (userRoles : List String) (dto : UpdateEventDto)
      (client : Client)
  | createSession (eventId userId : String) (userRoles : List String) (dto : CreateSessionDto)
      (client : Client)
  | updateSession (eventId sessionId userId : String) (userRoles : List String)
      (dto : UpdateSessionDto) (client : Client)
  | reorderSessions (eventId userId : String) (userRoles : List String) (dto : ReorderSessionsDto)
      (client : Client)
  | deleteSession (eventId sessionId userId : String) (userRoles : List String) (client : Client)
  | createVenue (eventId userId : String) (userRoles : List String) (dto : CreateVenueDto)
      (client : Client)
  | deleteVenue (eventId venueId userId : String) (userRoles : List String) (client : Client)
  | createSpeaker (eventId userId : String) (userRoles : List String) (dto : CreateSpeakerDto)
      (client : Client)
  | deleteSpeaker (eventId speakerId userId : String) (userRoles : List String) (client : Client)

inductive AgendaReply
  | event (dto : EventResponseDto)
  | session (dto : SessionResponseDto)
  | venue (dto : VenueResponseDto)
  | speaker (dto : SpeakerResponseDto)
  | done

def AgendaOp.runs (text : EventText) : AgendaOp → EventsCall AgendaReply
  | createEvent ownerId dto client => .event <$> EventsService.create text ownerId dto client
  | updateEvent eventId userId userRoles dto client =>
    .event <$> EventsService.update text eventId userId userRoles dto client
  | createSession eventId userId userRoles dto client =>
    .session <$> SessionsService.create text eventId userId userRoles dto client
  | updateSession eventId sessionId userId userRoles dto client =>
    .session <$> SessionsService.update text eventId sessionId userId userRoles dto client
  | reorderSessions eventId userId userRoles dto client =>
    (fun _ ↦ .done) <$> SessionsService.reorder eventId userId userRoles dto client
  | deleteSession eventId sessionId userId userRoles client =>
    (fun _ ↦ .done) <$> SessionsService.delete eventId sessionId userId userRoles client
  | createVenue eventId userId userRoles dto client =>
    .venue <$> VenuesService.create text eventId userId userRoles dto client
  | deleteVenue eventId venueId userId userRoles client =>
    (fun _ ↦ .done) <$> VenuesService.delete eventId venueId userId userRoles client
  | createSpeaker eventId userId userRoles dto client =>
    .speaker <$> SpeakersService.create text eventId userId userRoles dto client
  | deleteSpeaker eventId speakerId userId userRoles client =>
    (fun _ ↦ .done) <$> SpeakersService.delete eventId speakerId userId userRoles client

end Operations

section Invariant

variable {s : Session} {db db' : EventsDb}

/-- The session is within the time of its event, and its venue and its speakers are of the
event. -/
structure SessionFits (s : Session) (db : EventsDb) : Prop where
  times : s.startsAt < s.endsAt
  window : ∃ event ∈ db.events.get? s.eventId,
    event.startsAt ≤ s.startsAt ∧ s.endsAt ≤ event.endsAt
  venue : ∀ venueId ∈ s.venueId, ∃ v ∈ db.venues.get? venueId, v.eventId = s.eventId
  speakers : ∀ a ∈ db.sessionSpeakers.rows, a.sessionId = s.id →
    ∃ p ∈ db.speakers.get? a.speakerId, p.eventId = s.eventId

structure Agenda (db : EventsDb) : Prop where
  fits : ∀ s ∈ db.sessions.rows, s.deletedAt = none → SessionFits s db
  assigned : ∀ a ∈ db.sessionSpeakers.rows, db.sessions.has a.sessionId = true

/-- What the tables of events, venues and speakers hold is still there. -/
theorem SessionFits.grows (h : SessionFits s db)
    (hevents : ∀ k, ∀ e ∈ db.events.get? k, e ∈ db'.events.get? k)
    (hvenues : ∀ k, ∀ v ∈ db.venues.get? k, v ∈ db'.venues.get? k)
    (hspeakers : ∀ k, ∀ p ∈ db.speakers.get? k, p ∈ db'.speakers.get? k)
    (hassigned : db'.sessionSpeakers = db.sessionSpeakers) : SessionFits s db' := by
  refine ⟨h.times, ?_, ?_, ?_⟩
  · obtain ⟨event, hevent, hwindow⟩ := h.window
    exact ⟨event, hevents _ event hevent, hwindow⟩
  · intro venueId hvenueId
    obtain ⟨v, hv, hof⟩ := h.venue venueId hvenueId
    exact ⟨v, hvenues _ v hv, hof⟩
  · intro a ha hsession
    rw [hassigned] at ha
    obtain ⟨p, hp, hof⟩ := h.speakers a ha hsession
    exact ⟨p, hspeakers _ p hp, hof⟩

theorem Agenda.grows (h : Agenda db) (hsessions : db'.sessions = db.sessions)
    (hevents : ∀ k, ∀ e ∈ db.events.get? k, e ∈ db'.events.get? k)
    (hvenues : ∀ k, ∀ v ∈ db.venues.get? k, v ∈ db'.venues.get? k)
    (hspeakers : ∀ k, ∀ p ∈ db.speakers.get? k, p ∈ db'.speakers.get? k)
    (hassigned : db'.sessionSpeakers = db.sessionSpeakers) : Agenda db' := by
  constructor
  · intro s hs hdeleted
    rw [hsessions] at hs
    exact (h.fits s hs hdeleted).grows hevents hvenues hspeakers hassigned
  · intro a ha
    rw [hassigned] at ha
    rw [hsessions]
    exact h.assigned a ha

theorem Agenda.beside (h : Agenda db) (hbeside : Beside db db') : Agenda db' := by
  obtain ⟨accounts, rfl⟩ := hbeside
  exact h.grows rfl (fun _ _ he ↦ he) (fun _ _ hv ↦ hv) (fun _ _ hp ↦ hp) rfl

/-- Sessions that are rewritten fit if they have fitted before, wherever they are. -/
theorem Agenda.rewritten {sessions : Table Session} {g : Session → Session} (h : Agenda db)
    (hrows : sessions.rows = db.sessions.rows.map g) (hid : ∀ s, (g s).id = s.id)
    (hg : ∀ s ∈ db.sessions.rows, (g s).deletedAt = none → s.deletedAt = none ∧
      (SessionFits s db → SessionFits (g s) db)) : Agenda { db with sessions } := by
  constructor
  · intro s hs hdeleted
    have hs : s ∈ sessions.rows := hs
    rw [hrows] at hs
    obtain ⟨old, hold, rfl⟩ := List.mem_map.mp hs
    obtain ⟨hnot, hfits⟩ := hg old hold hdeleted
    have hafter := hfits (h.fits old hold hnot)
    exact ⟨hafter.times, hafter.window, hafter.venue, hafter.speakers⟩
  · intro a ha
    obtain ⟨s, hs, hsid⟩ := Table.has_iff.mp (h.assigned a ha)
    refine Table.has_iff.mpr ⟨g s, ?_, (hid s).trans hsid⟩
    show g s ∈ sessions.rows
    rw [hrows]
    exact List.mem_map_of_mem hs

end Invariant

section Transactions

variable {text : EventText} {eventId sessionId venueId speakerId userId : String} {env : AuthEnv}
  {db db' : EventsDb}

theorem eventCreate_agenda {ownerId : String} {dto : CreateEventDto} {event : Event}
    (h : EventsService.eventCreate text ownerId dto env db = .ok (db', event)) (hdb : Agenda db) :
    Agenda db' := by
  obtain ⟨hcreate, hbeside⟩ := EventsService.eventCreate_eq h
  refine Agenda.beside ?_ hbeside
  exact hdb.grows rfl (fun _ _ he ↦ (Table.get?_create_taken he hcreate).2) (fun _ _ hv ↦ hv)
    (fun _ _ hp ↦ hp) rfl

/-- An event keeps its sessions in its time if the new time does not leave one out. -/
theorem eventUpdate_agenda {dto : UpdateEventDto} {event : Event}
    (h : EventsService.eventUpdate text eventId userId dto env db = .ok (db', event))
    (hdb : Agenda db) (hfits : ∀ s ∈ db.sessions.rows, s.eventId = eventId → s.deletedAt = none →
      ∀ e ∈ db.events.get? eventId, dto.startsAt.join.getD e.startsAt ≤ s.startsAt ∧
        s.endsAt ≤ dto.endsAt.join.getD e.endsAt) : Agenda db' := by
  obtain ⟨f, hupdate, hf, hbeside⟩ := EventsService.eventUpdate_eq h
  have hget := Table.get?_update hupdate fun e ↦ (hf e).id
  refine Agenda.beside ?_ hbeside
  refine ⟨fun s hs hdeleted ↦ ?_, hdb.assigned⟩
  have hold := hdb.fits s hs hdeleted
  refine ⟨hold.times, ?_, hold.venue, hold.speakers⟩
  obtain ⟨e, he, hwindow⟩ := hold.window
  show ∃ e ∈ db'.events.get? s.eventId, _
  rw [hget]
  by_cases hof : s.eventId = eventId
  · rw [if_pos hof, ← hof, Option.mem_def.mp he]
    refine ⟨f e, rfl, ?_⟩
    rw [(hf e).startsAt, (hf e).endsAt]
    exact hfits s hs hof hdeleted e (hof ▸ he)
  · rw [if_neg hof]
    exact ⟨e, he, hwindow⟩

theorem venueCreate_agenda {dto : CreateVenueDto} {venue : Venue}
    (h : VenuesService.venueCreate text eventId dto env db = .ok (db', venue)) (hdb : Agenda db) :
    Agenda db' := by
  obtain ⟨hcreate, hdb'⟩ := VenuesService.venueCreate_eq h
  rw [hdb']
  exact hdb.grows rfl (fun _ _ he ↦ he) (fun _ _ hv ↦ (Table.get?_create_taken hv hcreate).2)
    (fun _ _ hp ↦ hp) rfl

theorem speakerCreate_agenda {dto : CreateSpeakerDto} {speaker : Speaker}
    (h : SpeakersService.speakerCreate text eventId dto env db = .ok (db', speaker))
    (hdb : Agenda db) : Agenda db' := by
  obtain ⟨hcreate, hdb'⟩ := SpeakersService.speakerCreate_eq h
  rw [hdb']
  exact hdb.grows rfl (fun _ _ he ↦ he) (fun _ _ hv ↦ hv)
    (fun _ _ hp ↦ (Table.get?_create_taken hp hcreate).2) rfl

theorem venueDelete_agenda {u : Unit} (h : VenuesService.venueDelete venueId env db = .ok (db', u))
    (hdb : Agenda db) (hfree : VenuesService.activeSessions venueId db = 0) : Agenda db' := by
  obtain ⟨hdelete, hupdate, hdb'⟩ := VenuesService.venueDelete_eq h
  have hrows := Table.store_eq_ok.mp hupdate
  have hfree : ∀ s ∈ db.sessions.rows, s.deletedAt = none → s.venueId ≠ some venueId := by
    intro s hs hdeleted hvenue
    refine List.countP_eq_zero.mp hfree s hs ?_
    simp [hdeleted, hvenue]
  rw [hdb']
  constructor
  · intro s hs hdeleted
    have hs : s ∈ db'.sessions.rows := hs
    rw [hrows] at hs
    obtain ⟨old, hold, rfl⟩ := List.mem_map.mp hs
    split_ifs at hdeleted with hin
    · exact absurd (beq_iff_eq.mp hin) (hfree old hold hdeleted)
    · rw [if_neg hin]
      have hfits := hdb.fits old hold hdeleted
      refine ⟨hfits.times, hfits.window, fun id hid ↦ ?_, hfits.speakers⟩
      have hne : id ≠ venueId := fun heq ↦ hfree old hold hdeleted (heq ▸ hid)
      show ∃ v ∈ db'.venues.get? id, _
      rw [Table.get?_delete hdelete, if_neg hne]
      exact hfits.venue id hid
  · intro a ha
    obtain ⟨s, hs, hsid⟩ := Table.has_iff.mp (hdb.assigned a ha)
    refine Table.has_iff.mpr ⟨if s.venueId == some venueId then { s with venueId := none } else s,
      ?_, ?_⟩
    · show _ ∈ db'.sessions.rows
      rw [hrows]
      exact List.mem_map_of_mem hs
    · split_ifs
      · exact hsid
      · exact hsid

theorem speakerDelete_agenda {u : Unit}
    (h : SpeakersService.speakerDelete speakerId env db = .ok (db', u)) (hdb : Agenda db) :
    Agenda db' := by
  obtain ⟨hdelete, hdb'⟩ := SpeakersService.speakerDelete_eq h
  rw [hdb']
  constructor
  · intro s hs hdeleted
    have hfits := hdb.fits s hs hdeleted
    refine ⟨hfits.times, hfits.window, hfits.venue, fun a ha hsession ↦ ?_⟩
    obtain ⟨ha, hother⟩ := List.mem_filter.mp ha
    have hne : a.speakerId ≠ speakerId := by simpa using hother
    show ∃ p ∈ db'.speakers.get? a.speakerId, _
    rw [Table.get?_delete hdelete, if_neg hne]
    exact hfits.speakers a ha hsession
  · intro a ha
    exact hdb.assigned a (List.mem_filter.mp ha).1

/-- The assignments are the old ones, and those of the session to the given speakers. -/
theorem assignSpeakers_rows {speakerIds : List String} {t t' : Table SessionSpeaker}
    (h : SessionsService.assignSpeakers sessionId speakerIds env t = .ok t') :
    ∀ a ∈ t'.rows, a ∈ t.rows ∨ a.sessionId = sessionId ∧ a.speakerId ∈ speakerIds := by
  refine foldlM_keeps (I := fun t' : Table SessionSpeaker ↦
    ∀ a ∈ t'.rows, a ∈ t.rows ∨ a.sessionId = sessionId ∧ a.speakerId ∈ speakerIds) ?_
    (fun a ha ↦ .inl ha) h
  intro p hp t₁ t₂ ht₁ hcreate a ha
  rw [Table.create_eq_ok.mp (ofRefusal_eq_ok.mp hcreate), List.mem_append, List.mem_singleton] at ha
  rcases ha with ha | rfl
  · exact ht₁ a ha
  · exact .inr ⟨rfl, List.fst_mem_of_mem_zipIdx hp⟩

/-- All of the speakers are of the event. -/
def AllOfEvent (eventId : String) (speakerIds : List String) (db : EventsDb) : Prop :=
  ∀ id ∈ speakerIds, ∃ p ∈ db.speakers.get? id, p.eventId = eventId

theorem sessionCreate_agenda {dto : CreateSessionDto} {r : SessionResponseDto}
    (h : SessionsService.sessionCreate text eventId dto env db = .ok (db', r)) (hdb : Agenda db)
    (htimes : dto.startsAt < dto.endsAt)
    (hwindow : ∃ event ∈ db.events.get? eventId,
      event.startsAt ≤ dto.startsAt ∧ dto.endsAt ≤ event.endsAt)
    (hvenue : OfEvent eventId dto.venueId db)
    (hspeakers : AllOfEvent eventId (dto.speakerIds.getD []) db) : Agenda db' := by
  obtain ⟨-, new, hevent, hvenueId, hstarts, hends, hcreate, hassign, hbeside⟩ :=
    SessionsService.sessionCreate_eq h
  have hrows := Table.create_eq_ok.mp hcreate
  have hassigned := assignSpeakers_rows hassign
  refine Agenda.beside ?_ hbeside
  refine ⟨fun s hs hdeleted ↦ ?_, fun a ha ↦ ?_⟩
  · have hs : s ∈ db'.sessions.rows := hs
    rw [hrows, List.mem_append, List.mem_singleton] at hs
    rcases hs with hs | rfl
    · have hfits := hdb.fits s hs hdeleted
      refine ⟨hfits.times, hfits.window, hfits.venue, fun a ha hsession ↦ ?_⟩
      rcases hassigned a ha with ha | ⟨hnew, -⟩
      · exact hfits.speakers a ha hsession
      · have hget := Table.get?_eq_some.mpr ⟨hs, rfl⟩
        exact absurd (hnew.symm.trans hsession) (Table.get?_create_taken hget hcreate).1
    · refine ⟨by rwa [hstarts, hends], by rwa [hevent, hstarts, hends], ?_, fun a ha hsession ↦ ?_⟩
      · rw [hvenueId, hevent]
        exact hvenue
      · rw [hevent]
        rcases hassigned a ha with ha | ⟨-, hspeaker⟩
        · obtain ⟨old, hold⟩ := Option.isSome_iff_exists.mp (hdb.assigned a ha)
          exact absurd hsession.symm (Table.get?_create_taken hold hcreate).1
        · exact hspeakers a.speakerId hspeaker
  · show db'.sessions.has a.sessionId = true
    rcases hassigned a ha with ha | ⟨hnew, -⟩
    · obtain ⟨old, hold⟩ := Option.isSome_iff_exists.mp (hdb.assigned a ha)
      exact Option.isSome_iff_exists.mpr ⟨old, (Table.get?_create_taken hold hcreate).2⟩
    · refine Table.has_iff.mpr ⟨new, ?_, hnew.symm⟩
      rw [hrows]
      exact List.mem_append_right _ List.mem_cons_self

/-- The assignments after an update are the old ones of other sessions, the old ones if the update
gives no speakers, and those to the given speakers. -/
theorem speakersReplaced_rows {dto : UpdateSessionDto} {t : Table SessionSpeaker}
    (h : SessionsService.speakersReplaced sessionId dto env db = .ok t) :
    ∀ a ∈ t.rows,
      (a ∈ db.sessionSpeakers.rows ∧ (a.sessionId = sessionId → dto.speakerIds.join = none)) ∨
        a.sessionId = sessionId ∧ ∃ speakerIds ∈ dto.speakerIds.join, a.speakerId ∈ speakerIds := by
  intro a ha
  unfold SessionsService.speakersReplaced at h
  cases hgiven : dto.speakerIds.join with
  | none =>
    rw [hgiven] at h
    cases h
    exact .inl ⟨ha, fun _ ↦ rfl⟩
  | some speakerIds =>
    rw [hgiven] at h
    rcases assignSpeakers_rows h a ha with ha | ⟨hsession, hspeaker⟩
    · obtain ⟨ha, hother⟩ := List.mem_filter.mp ha
      have hne : a.sessionId ≠ sessionId := by simpa using hother
      exact .inl ⟨ha, fun hsession ↦ absurd hsession hne⟩
    · exact .inr ⟨hsession, speakerIds, rfl, hspeaker⟩

theorem sessionUpdate_agenda {dto : UpdateSessionDto} {targetVenueId : Option String}
    {startsAt endsAt : Time} {existing : Session} {r : SessionResponseDto}
    (h : SessionsService.sessionUpdate text eventId sessionId userId dto targetVenueId startsAt endsAt
      env db = .ok (db', r)) (hdb : Agenda db)
    (hfound : SessionsService.sessionOf eventId sessionId db = some existing)
    (hmerged : startsAt = dto.startsAt.join.getD existing.startsAt ∧
      endsAt = dto.endsAt.join.getD existing.endsAt) (htimes : startsAt < endsAt)
    (hwindow : ∃ event ∈ db.events.get? eventId, event.startsAt ≤ startsAt ∧ endsAt ≤ event.endsAt)
    (hvenue : OfEvent eventId targetVenueId db)
    (hspeakers : ∀ speakerIds ∈ dto.speakerIds.join, AllOfEvent eventId speakerIds db) :
    Agenda db' := by
  obtain ⟨hupdate, hreplaced, hbeside⟩ := SessionsService.sessionUpdate_eq h
  have hrows := (Table.update_eq_ok.mp hupdate).2
  have hassigned := speakersReplaced_rows hreplaced
  obtain ⟨hget, hfound⟩ := Option.filter_eq_some_iff.mp hfound
  obtain ⟨hof, hlive⟩ := of_decide_eq_true hfound
  obtain ⟨hmem, hid⟩ := Table.get?_eq_some.mp hget
  have hold := hdb.fits existing hmem (Option.isNone_iff_eq_none.mp hlive)
  refine Agenda.beside ?_ hbeside
  refine ⟨fun s hs hdeleted ↦ ?_, fun a ha ↦ ?_⟩
  · have hs : s ∈ db'.sessions.rows := hs
    rw [hrows, Table.mem_updateRows] at hs
    rcases hs with ⟨old, hmem', hsid, rfl⟩ | ⟨hs, hsid⟩
    · have hsame : old = existing := db.sessions.eq_of_id hmem' hmem (hsid.trans hid.symm)
      subst hsame
      obtain ⟨rfl, rfl⟩ := hmerged
      refine ⟨htimes, ?_, ?_, fun a ha hsession ↦ ?_⟩
      · show ∃ event ∈ db.events.get? old.eventId, _
        rw [hof]
        exact hwindow
      · show ∀ venueId ∈ orNull targetVenueId, ∃ v ∈ db.venues.get? venueId, v.eventId = old.eventId
        rw [hof]
        exact hvenue
      · show ∃ p ∈ db.speakers.get? a.speakerId, p.eventId = old.eventId
        rcases hassigned a ha with ⟨ha, -⟩ | ⟨-, speakerIds, hgiven, hspeaker⟩
        · exact hold.speakers a ha hsession
        · rw [hof]
          exact hspeakers speakerIds hgiven a.speakerId hspeaker
    · have hfits := hdb.fits s hs hdeleted
      refine ⟨hfits.times, hfits.window, hfits.venue, fun a ha hsession ↦ ?_⟩
      rcases hassigned a ha with ⟨ha, -⟩ | ⟨hother, -⟩
      · exact hfits.speakers a ha hsession
      · exact absurd (hsession.symm.trans hother) hsid
  · have hthere : db.sessions.has a.sessionId = true := by
      rcases hassigned a ha with ⟨ha, -⟩ | ⟨hsession, -⟩
      · exact hdb.assigned a ha
      · exact Table.has_iff.mpr ⟨existing, hmem, hid.trans hsession.symm⟩
    obtain ⟨s, hs, hsid⟩ := Table.has_iff.mp hthere
    show db'.sessions.has a.sessionId = true
    refine Table.has_iff.mpr ?_
    rw [hrows]
    exact ⟨_, List.mem_map_of_mem hs, by split_ifs <;> exact hsid⟩

theorem sessionsReorder_agenda {dto : ReorderSessionsDto} {u : Unit}
    (h : SessionsService.sessionsReorder eventId dto env db = .ok (db', u)) (hdb : Agenda db) :
    Agenda db' := by
  have hkeep : ∀ (t t' : Table Session) (id : String) (i : ℤ), Agenda { db with sessions := t } →
      (t.update id fun s ↦ { s with displayOrder := i, updatedAt := env.now }) = .ok t' →
      Agenda { db with sessions := t' } := by
    intro t t' id i ht hupdate
    refine ht.rewritten (Table.update_eq_ok.mp hupdate).2 (fun s ↦ ?_) fun s _ hdeleted ↦ ?_
    · split_ifs <;> rfl
    · split_ifs at hdeleted ⊢ with hid
      · exact ⟨hdeleted, fun hs ↦ ⟨hs.times, hs.window, hs.venue, hs.speakers⟩⟩
      · exact ⟨hdeleted, fun hs ↦ hs⟩
  obtain ⟨hafter, hbeside⟩ := SessionsService.sessionsReorder_eq hkeep h hdb
  exact hafter.beside hbeside

theorem sessionDelete_agenda {u : Unit}
    (h : SessionsService.sessionDelete eventId sessionId userId env db = .ok (db', u))
    (hdb : Agenda db) : Agenda db' := by
  obtain ⟨hupdate, hbeside⟩ := SessionsService.sessionDelete_eq h
  refine Agenda.beside ?_ hbeside
  refine hdb.rewritten (Table.update_eq_ok.mp hupdate).2 (fun s ↦ ?_) fun s _ hdeleted ↦ ?_
  · split_ifs <;> rfl
  · split_ifs at hdeleted ⊢ with hid
    exact ⟨hdeleted, fun hs ↦ hs⟩

end Transactions

section Checks

variable {eventId : String} {db : EventsDb}

theorem validateVenue_finds {venueId : Option String} :
    (SessionsService.validateVenue venueId eventId).Finds (fun _ ↦ OfEvent eventId venueId db) db := by
  unfold SessionsService.validateVenue OfEvent
  cases orNull venueId with
  | none => exact Call.finds_pure fun id hid ↦ nomatch hid
  | some venueId =>
    refine Call.finds_bind (Call.finds_reads fun _ ↦ rfl) fun venue hvenue ↦ ?_
    refine Call.finds_returned fun _ h id hid ↦ ?_
    cases hid
    obtain ⟨v, hv⟩ := Option.isSome_iff_exists.mp (demand_eq_ok.mp h)
    obtain ⟨hget, hof⟩ := Option.filter_eq_some_iff.mp (hvenue.trans hv)
    exact ⟨v, hget, of_decide_eq_true hof⟩

/-- As many speakers of the event are found as are asked for, so all of them are. -/
theorem allOfEvent_of_length {speakerIds : List String}
    (h : (db.speakers.rows.filter fun s ↦ speakerIds.contains s.id && s.eventId == eventId).length =
      speakerIds.length) : AllOfEvent eventId speakerIds db := by
  let found := db.speakers.rows.filter fun s ↦ speakerIds.contains s.id && s.eventId == eventId
  have hnodup : (found.map Row.id).Nodup :=
    db.speakers.nodup_ids.sublist (List.filter_sublist.map Row.id)
  have hsub : found.map Row.id ⊆ speakerIds := by
    intro id hid
    obtain ⟨s, hs, rfl⟩ := List.mem_map.mp hid
    have hs := (List.mem_filter.mp hs).2
    rw [Bool.and_eq_true] at hs
    exact List.contains_iff_mem.mp hs.1
  have hperm := (List.subperm_of_subset hnodup hsub).perm_of_length_le
    (by rw [List.length_map, ← h])
  intro id hid
  obtain ⟨s, hs, hsid⟩ := List.mem_map.mp (hperm.mem_iff.mpr hid)
  obtain ⟨hmem, hs⟩ := List.mem_filter.mp hs
  rw [Bool.and_eq_true, beq_iff_eq] at hs
  exact ⟨s, Table.get?_eq_some.mpr ⟨hmem, hsid⟩, hs.2⟩

theorem validateSpeakers_finds {speakerIds : Option (List String)} :
    (SessionsService.validateSpeakers speakerIds eventId).Finds
      (fun _ ↦ ∀ ids ∈ speakerIds, AllOfEvent eventId ids db) db := by
  unfold SessionsService.validateSpeakers
  cases speakerIds with
  | none => exact Call.finds_pure fun ids hids ↦ nomatch hids
  | some speakerIds =>
    refine Call.finds_bind (Call.finds_reads fun _ ↦ rfl) fun found hfound ↦ ?_
    refine Call.finds_returned fun _ h ids hids ↦ ?_
    cases hids
    have hlength := demand_eq_ok.mp h
    rw [← hfound] at hlength
    exact allOfEvent_of_length hlength

/-- The new window leaves no session out, or neither end of it is given. -/
theorem validateDates_finds {text : EventText} {dto : UpdateEventDto} {startsAt endsAt : Time} :
    (EventsService.validateDates text eventId dto startsAt endsAt).Finds (fun _ ↦
      (dto.startsAt.join = none ∧ dto.endsAt.join = none) ∨
        ∀ s ∈ db.sessions.rows, s.eventId = eventId → s.deletedAt = none →
          startsAt ≤ s.startsAt ∧ s.endsAt ≤ endsAt) db := by
  unfold EventsService.validateDates
  split_ifs with hgiven
  · refine Call.finds_bind (Call.finds_reads fun _ ↦ rfl) fun violating hviolating ↦ ?_
    refine Call.finds_returned fun _ h ↦ .inr fun s hs hof hdeleted ↦ ?_
    have hnone := List.length_eq_zero_iff.mp (demand_eq_ok.mp h)
    rw [← hviolating] at hnone
    have hin := List.filter_eq_nil_iff.mp hnone s hs
    simpa [hof, hdeleted] using hin
  · refine Call.finds_pure (.inl ?_)
    simpa using hgiven

end Checks

section Runs

variable {text : EventText} {ok : String → EventsDb → Prop} {db : EventsDb}

theorem agenda_logged {α : Type} {params : CreateAuditLogParams} {client : Client} {a : α}
    (hdb : Agenda db) : ((log params client).bind fun _ ↦ pure a).Alone ok (fun _ ↦ Agenda) db :=
  alone_log_bind fun _ hbeside ↦ hdb.beside hbeside

theorem eventCreate_kept {ownerId : String} {dto : CreateEventDto} {client : Client}
    (hdb : Agenda db) :
    (EventsService.create text ownerId dto client).Alone ok (fun _ ↦ Agenda) db := by
  have herror : ∀ _ : AuthError, Agenda db := fun _ ↦ hdb
  refine Call.alone_returned_bind herror fun _ _ ↦ ?_
  refine Call.alone_reads_bind herror fun env ↦ ?_
  refine Call.alone_returned_bind herror fun _ _ ↦ ?_
  refine Call.alone_writes_bind herror fun env db' event _ h ↦ ?_
  exact agenda_logged (eventCreate_agenda h hdb)

theorem eventUpdate_kept {eventId userId : String} {userRoles : List String} {dto : UpdateEventDto}
    {client : Client} (hdb : Agenda db) :
    (EventsService.update text eventId userId userRoles dto client).Alone ok (fun _ ↦ Agenda) db := by
  have herror : ∀ _ : AuthError, Agenda db := fun _ ↦ hdb
  refine Call.alone_finds_bind EventAuthorizationService.assertCanManageEvent_finds herror
    fun existing hexisting ↦ ?_
  refine Call.alone_returned_bind herror fun _ _ ↦ ?_
  refine Call.alone_finds_bind validateDates_finds herror fun _ hdates ↦ ?_
  refine Call.alone_reading_bind (EventsService.validateCapacity_each fun _ ↦ rfl) herror
    fun _ ↦ ?_
  refine Call.alone_writes_bind herror fun env db' event _ h ↦ ?_
  have hafter : Agenda db' := by
    refine eventUpdate_agenda h hdb fun s hs hof hdeleted e he ↦ ?_
    cases he.symm.trans hexisting.1
    rcases hdates with ⟨hstarts, hends⟩ | hfits
    · rw [hstarts, hends]
      obtain ⟨e, he, hwindow⟩ := (hdb.fits s hs hdeleted).window
      rw [hof, hexisting.1] at he
      cases he
      exact hwindow
    · exact hfits s hs hof hdeleted
  refine alone_log_bind fun db'' hbeside ↦ ?_
  have hend := hafter.beside hbeside
  exact Call.alone_reads_bind (fun _ ↦ hend) fun _ ↦ hend

theorem sessionCreate_kept {eventId userId : String} {userRoles : List String}
    {dto : CreateSessionDto} {client : Client} (hdb : Agenda db) :
    (SessionsService.create text eventId userId userRoles dto client).Alone ok
      (fun _ ↦ Agenda) db := by
  have herror : ∀ _ : AuthError, Agenda db := fun _ ↦ hdb
  refine Call.alone_finds_bind EventAuthorizationService.assertCanManageEvent_finds herror
    fun event hevent ↦ ?_
  refine Call.alone_returned_bind herror fun _ htimes ↦ ?_
  refine Call.alone_returned_bind herror fun _ hwindow ↦ ?_
  refine Call.alone_finds_bind validateVenue_finds herror fun _ hvenue ↦ ?_
  refine Call.alone_finds_bind validateSpeakers_finds herror fun _ hspeakers ↦ ?_
  refine Call.alone_writes_bind herror fun env db' created _ h ↦ ?_
  refine agenda_logged (sessionCreate_agenda h hdb (demand_eq_ok.mp htimes)
    ⟨event, hevent.1, demand_eq_ok.mp hwindow⟩ hvenue ?_)
  cases hgiven : dto.speakerIds with
  | none =>
    intro id hid
    cases hid
  | some speakerIds =>
    intro id hid
    have hne : speakerIds ≠ [] := List.ne_nil_of_mem hid
    refine hspeakers speakerIds ?_ id hid
    rw [hgiven]
    exact Option.filter_eq_some_iff.mpr ⟨rfl, decide_eq_true hne⟩

theorem sessionUpdate_kept {eventId sessionId userId : String} {userRoles : List String}
    {dto : UpdateSessionDto} {client : Client} (hdb : Agenda db) :
    (SessionsService.update text eventId sessionId userId userRoles dto client).Alone ok
      (fun _ ↦ Agenda) db := by
  have herror : ∀ _ : AuthError, Agenda db := fun _ ↦ hdb
  refine Call.alone_finds_bind EventAuthorizationService.assertCanManageEvent_finds herror
    fun event hevent ↦ ?_
  refine Call.alone_reads_bind herror fun env ↦ ?_
  refine Call.alone_returned_bind herror fun existing hexisting ↦ ?_
  refine Call.alone_returned_bind herror fun _ htimes ↦ ?_
  refine Call.alone_returned_bind herror fun _ hwindow ↦ ?_
  refine Call.alone_finds_bind validateVenue_finds herror fun _ hvenue ↦ ?_
  refine Call.alone_finds_bind validateSpeakers_finds herror fun _ hspeakers ↦ ?_
  refine Call.alone_writes_bind herror fun env db' updated _ h ↦ ?_
  exact agenda_logged (sessionUpdate_agenda h hdb (present_eq_ok.mp hexisting) ⟨rfl, rfl⟩
    (demand_eq_ok.mp htimes) ⟨event, hevent.1, demand_eq_ok.mp hwindow⟩ hvenue hspeakers)

theorem runs_agenda (op : AgendaOp) (db : EventsDb) (hdb : Agenda db) :
    (op.runs text).Alone ok (fun _ ↦ Agenda) db := by
  have herror : ∀ _ : AuthError, Agenda db := fun _ ↦ hdb
  cases op with
  | createEvent ownerId dto client => exact Call.alone_map (eventCreate_kept hdb)
  | updateEvent eventId userId userRoles dto client => exact Call.alone_map (eventUpdate_kept hdb)
  | createSession eventId userId userRoles dto client =>
    exact Call.alone_map (sessionCreate_kept hdb)
  | updateSession eventId sessionId userId userRoles dto client =>
    exact Call.alone_map (sessionUpdate_kept hdb)
  | reorderSessions eventId userId userRoles dto client =>
    refine Call.alone_map ?_
    refine Call.alone_finds_bind EventAuthorizationService.assertCanManageEvent_finds herror
      fun _ _ ↦ ?_
    refine Call.alone_reads_bind herror fun env ↦ ?_
    refine Call.alone_returned_bind herror fun _ _ ↦ ?_
    refine Call.alone_writes_bind herror fun env db' _ _ h ↦ ?_
    exact agenda_logged (sessionsReorder_agenda h hdb)
  | deleteSession eventId sessionId userId userRoles client =>
    refine Call.alone_map ?_
    refine Call.alone_finds_bind EventAuthorizationService.assertCanManageEvent_finds herror
      fun _ _ ↦ ?_
    refine Call.alone_reads_bind herror fun env ↦ ?_
    refine Call.alone_returned_bind herror fun _ _ ↦ ?_
    refine Call.alone_writes_bind herror fun env db' _ _ h ↦ ?_
    exact agenda_logged (sessionDelete_agenda h hdb)
  | createVenue eventId userId userRoles dto client =>
    refine Call.alone_map ?_
    refine Call.alone_finds_bind EventAuthorizationService.assertCanManageEvent_finds herror
      fun _ _ ↦ ?_
    refine Call.alone_returned_bind herror fun _ _ ↦ ?_
    refine Call.alone_writes_bind herror fun env db' _ _ h ↦ ?_
    exact agenda_logged (venueCreate_agenda h hdb)
  | deleteVenue eventId venueId userId userRoles client =>
    refine Call.alone_map ?_
    refine Call.alone_finds_bind EventAuthorizationService.assertCanManageEvent_finds herror
      fun _ _ ↦ ?_
    refine Call.alone_reads_bind herror fun env ↦ ?_
    refine Call.alone_returned_bind herror fun _ _ ↦ ?_
    refine Call.alone_reads_bind herror fun env ↦ ?_
    refine Call.alone_returned_bind herror fun _ hfree ↦ ?_
    refine Call.alone_writes_bind herror fun env db' _ _ h ↦ ?_
    exact agenda_logged (venueDelete_agenda h hdb (demand_eq_ok.mp hfree))
  | createSpeaker eventId userId userRoles dto client =>
    refine Call.alone_map ?_
    refine Call.alone_finds_bind EventAuthorizationService.assertCanManageEvent_finds herror
      fun _ _ ↦ ?_
    refine Call.alone_writes_bind herror fun env db' _ _ h ↦ ?_
    exact agenda_logged (speakerCreate_agenda h hdb)
  | deleteSpeaker eventId speakerId userId userRoles client =>
    refine Call.alone_map ?_
    refine Call.alone_finds_bind EventAuthorizationService.assertCanManageEvent_finds herror
      fun _ _ ↦ ?_
    refine Call.alone_reads_bind herror fun env ↦ ?_
    refine Call.alone_returned_bind herror fun _ _ ↦ ?_
    refine Call.alone_reads_bind herror fun env ↦ ?_
    refine Call.alone_returned_bind herror fun _ _ ↦ ?_
    refine Call.alone_writes_bind herror fun env db' _ _ h ↦ ?_
    exact agenda_logged (speakerDelete_agenda h hdb)

/-- However the operations follow each other, the agenda of every event is in order. -/
theorem agenda_in_order (text : EventText)
    (h : Reach (InSequence (AgendaOp.runs text) fun _ _ _ ↦ True) (fun _ _ ↦ True) Agenda db) :
    ∀ s ∈ db.sessions.rows, s.deletedAt = none → SessionFits s db :=
  (inSequence_invariant (fun _ hs ↦ hs) runs_agenda h).fits

end Runs

section Sample

theorem sampleDb_agenda : Agenda sampleDb :=
  ⟨fun _ hs ↦ absurd hs List.not_mem_nil, fun _ ha ↦ absurd ha List.not_mem_nil⟩

/-- The owner adds a hall, a speaker and a session of both, cuts the event to the time around the
session and tries to delete the hall. -/
def agendaOps : List AgendaOp :=
  [.createVenue "event-1" "owner-1" []
      { name := "Hall 1"
        description := none
        capacity := some (some 300)
        floor := none
        location := none } nobody,
    .createSpeaker "event-1" "owner-1" []
      { fullName := "Dr. Sarah Al-Otaibi"
        jobTitle := "Chief AI Architect"
        company := "Saudi National AI Center"
        bio := none
        photoUrl := none
        linkedinUrl := none } nobody,
    .createSession "event-1" "owner-1" []
      { title := "Keynote"
        description := none
        startsAt := 110
        endsAt := 120
        venueId := some "id-0:1"
        speakerIds := some ["id-1:1"]
        displayOrder := none
        status := none } nobody,
    .updateEvent "event-1" "owner-1" []
      { UpdateEventDto.empty with
        startsAt := some (some 110)
        endsAt := some (some 130) } nobody,
    .deleteVenue "event-1" "id-0:1" "owner-1" [] nobody]

def agendaInputs (n : ℕ) : List AuthEnv := (List.range 5).map fun m ↦ sampleEnv 1 s!"{n}:{m}"

theorem keynote_fits : ∃ db : EventsDb, (∃ s ∈ db.sessions.rows, s.deletedAt = none) ∧
    ∀ s ∈ db.sessions.rows, s.deletedAt = none → SessionFits s db := by
  have hrun : (carryOut (AgendaOp.runs sampleText) (fun _ _ _ ↦ true)
      (agendaOps.zipIdx.map fun (op, n) ↦ (op, agendaInputs n)) sampleDb).any
        (fun db ↦ db.sessions.rows.any (·.deletedAt.isNone)) = true := by
    decide +kernel
  obtain ⟨db, hdb, htest⟩ := (Option.any_eq_true ..).mp hrun
  obtain ⟨s, hs, hlive⟩ := List.any_eq_true.mp htest
  have hreach := reach_carryOut (fun _ _ _ _ ↦ trivial) (.start sampleDb_agenda) hdb
  exact ⟨db, ⟨s, hs, Option.isNone_iff_eq_none.mp hlive⟩, agenda_in_order sampleText hreach⟩

end Sample

end Innovents.Events
