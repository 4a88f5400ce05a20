import Innovents.Events.EventRegistrationService

namespace Innovents.Events

open Innovents.Lib Innovents.Auth Innovents.Platform
open Innovents.Payments (Time)

namespace EventsService

/-- A transaction that changes the event and tells of it in the outbox. -/
def eventMoved (eventId eventType : String) (f : Event → Event)
    (payload : Event → List (String × JsValue)) (env : AuthEnv) (db : EventsDb) :
    Except AuthError (EventsDb × Event) := do
  let events ← ofRefusal (db.events.update eventId fun e ↦ { f e with updatedAt := env.now })
  let res ← present (events.get? eventId) (.prisma .recordNotFound)
  let db ← enqueued
    { eventType
      aggregateType := "event"
      aggregateId := eventId
      payload := payload res } env { db with events }
  return (db, res)

/-- What follows the transaction: the entry of the audit log, and the answer. -/
def answered (eventId userId action : String) (updated : Event) (client : Client) :
    EventsCall EventResponseDto := do
  log
    { actorUserId := some userId
      action
      resourceType := "event"
      resourceId := some eventId
      metadata := [] } client
  let count ← Call.reads "eventRegistration.count" fun _ ↦ registeredCount eventId
  return mapToResponse updated count

def publish (eventId userId : String) (userRoles : List String) (client : Client) :
    EventsCall EventResponseDto := do
  let event ← EventAuthorizationService.assertCanManageEvent userId userRoles eventId
  Call.returned (demand (event.status ≠ .published)
    (refusal .conflict "Event is already published"))
  Call.returned (demand (¬(event.status = .cancelled ∨ event.status = .completed))
    (refusal .conflict "Cannot publish a cancelled or completed event"))
  Call.returned (demand
    (event.name ≠ "" ∧ event.venueName ≠ "" ∧ event.address ≠ "" ∧ 1 ≤ event.capacity)
    (refusal .badRequest "Event is missing required venue or capacity information"))
  let updated ← Call.writes "$transaction" (eventMoved eventId "EVENT_PUBLISHED"
    (fun e ↦ { e with status := .published }) fun res ↦
      [("eventId", .str eventId), ("name", .str res.name), ("publishedBy", .str userId)])
  answered eventId userId "EVENT_PUBLISHED" updated client

def cancel (eventId userId : String) (userRoles : List String) (client : Client) :
    EventsCall EventResponseDto := do
  let event ← EventAuthorizationService.assertCanManageEvent userId userRoles eventId
  Call.returned (demand (event.status ≠ .cancelled)
    (refusal .conflict "Event is already cancelled"))
  Call.returned (demand (event.status ≠ .completed)
    (refusal .conflict "Cannot cancel a completed event"))
  let updated ← Call.writes "$transaction" (eventMoved eventId "EVENT_CANCELLED"
    (fun e ↦ { e with status := .cancelled }) fun _ ↦
      [("eventId", .str eventId), ("cancelledBy", .str userId)])
  answered eventId userId "EVENT_CANCELLED" updated client

/-- `deletedAt: new Date()`, so the change depends on the moment of the transaction. -/
def eventDeleted (eventId userId : String) (env : AuthEnv) (db : EventsDb) :
    Except AuthError (EventsDb × Event) :=
  eventMoved eventId "EVENT_DELETED"
    (fun e ↦ { e with deletedAt := some env.now, status := .cancelled })
    (fun _ ↦ [("eventId", .str eventId), ("deletedBy", .str userId)]) env db

def softDelete (eventId userId : String) (userRoles : List String) (client : Client) :
    EventsCall Unit := do
  let _ ← EventAuthorizationService.assertCanManageEvent userId userRoles eventId
  let _ ← Call.writes "$transaction" (eventDeleted eventId userId)
  log
    { actorUserId := some userId
      action := "EVENT_DELETED"
      resourceType := "event"
      resourceId := some eventId
      metadata := [] } client

theorem eventMoved_eq {eventId eventType : String} {f : Event → Event}
    {payload : Event → List (String × JsValue)} {env : AuthEnv} {db db' : EventsDb} {event : Event}
    (h : eventMoved eventId eventType f payload env db = .ok (db', event)) :
    db.events.update eventId (fun e ↦ { f e with updatedAt := env.now }) = .ok db'.events ∧
      Beside { db with events := db'.events } db' := by
  obtain ⟨events, hupdate, h⟩ := andThen_eq_ok.mp h
  obtain ⟨res, -, h⟩ := andThen_eq_ok.mp h
  obtain ⟨db'', hevent, h⟩ := andThen_eq_ok.mp h
  obtain ⟨accounts, rfl⟩ := enqueued_eq_ok hevent
  cases h
  exact ⟨ofRefusal_eq_ok.mp hupdate, accounts, rfl⟩

theorem answered_each {eventId userId action : String} {updated : Event} {client : Client}
    {G : String → EventsDb → EventsDb → Prop} (hread : ∀ label db, G label db db)
    (hlog : ∀ label db db', Beside db db' → G label db db') :
    (answered eventId userId action updated client).Each G := by
  refine Call.each_bind (each_log (hlog _)) fun _ ↦ ?_
  exact Call.each_bind (Call.each_reads (hread _)) fun _ ↦ Call.each_returned

end EventsService

section Operations

inductive LifecycleOp
  | publish (eventId userId : String) (userRoles : List String) (client : Client)
  | cancel (eventId userId : String) (userRoles : List String) (client : Client)
  | softDelete (eventId userId : String) (userRoles : List String) (client : Client)
  | update (eventId userId : String) (userRoles : List String) (dto : UpdateEventDto)
      (client : Client)
  | register (eventId userId : String) (client : Client)

inductive LifecycleReply
  | event (dto : EventResponseDto)
  | done
  | registration (dto : RegistrationResponseDto)

def LifecycleOp.runs (text : EventText) : LifecycleOp → EventsCall LifecycleReply
  | publish eventId userId userRoles client =>
    .event <$> EventsService.publish eventId userId userRoles client
  | cancel eventId userId userRoles client =>
    .event <$> EventsService.cancel eventId userId userRoles client
  | softDelete eventId userId userRoles client =>
    (fun _ ↦ .done) <$> EventsService.softDelete eventId userId userRoles client
  | update eventId userId userRoles dto client =>
    .event <$> EventsService.update text eventId userId userRoles dto client
  | register eventId userId client =>
    .registration <$> EventRegistrationService.register eventId userId client

abbrev LifecycleTask := Task LifecycleOp String AuthEnv EventsDb AuthError LifecycleReply

def lifecycleCalls (text : EventText) : Machine EventsDb LifecycleTask AuthEnv :=
  tasks (LifecycleOp.runs text)

end Operations

/-- The registrations of the event. -/
def registrationsOf (eventId : String) (db : EventsDb) : List EventRegistration :=
  db.eventRegistrations.rows.filter fun r ↦ r.eventId == eventId

/-- Cancelled events stay cancelled, deleted ones stay deleted, and the registrations of both stay
what they are. -/
structure StayOver (db db' : EventsDb) : Prop where
  cancelled : ∀ k, ∀ e ∈ db.events.get? k, e.status = .cancelled →
    ∃ e' ∈ db'.events.get? k, e'.status = .cancelled
  deleted : ∀ k, ∀ e ∈ db.events.get? k, e.deletedAt.isSome = true →
    ∃ e' ∈ db'.events.get? k, e'.deletedAt.isSome = true
  registrations : ∀ k, ∀ e ∈ db.events.get? k, e.status = .cancelled ∨ e.deletedAt.isSome = true →
    registrationsOf k db' = registrationsOf k db

/-- The transaction of a publication finds the event not cancelled. -/
def LifecycleOp.FindsUncancelled (op : LifecycleOp) (label : String) (db : EventsDb) : Prop :=
  match op with
  | publish eventId _ _ _ => label = "$transaction" →
    ∀ e ∈ db.events.get? eventId, e.status ≠ .cancelled
  | _ => True

instance (op : LifecycleOp) (label : String) (db : EventsDb) :
    Decidable (op.FindsUncancelled label db) :=
  match op with
  | .publish .. => inferInstanceAs (Decidable (_ → _))
  | .cancel .. | .softDelete .. | .update .. | .register .. => inferInstanceAs (Decidable True)

section Moves

variable {db db' : EventsDb}

theorem StayOver.refl (db : EventsDb) : StayOver db db :=
  ⟨fun _ e he h ↦ ⟨e, he, h⟩, fun _ e he h ↦ ⟨e, he, h⟩, fun _ _ _ _ ↦ rfl⟩

theorem StayOver.trans (a b c : EventsDb) (hab : StayOver a b) (hbc : StayOver b c) :
    StayOver a c := by
  refine ⟨fun k e he h ↦ ?_, fun k e he h ↦ ?_, fun k e he h ↦ ?_⟩
  · obtain ⟨e', he', h'⟩ := hab.cancelled k e he h
    exact hbc.cancelled k e' he' h'
  · obtain ⟨e', he', h'⟩ := hab.deleted k e he h
    exact hbc.deleted k e' he' h'
  · have hover : ∃ e' ∈ b.events.get? k, e'.status = .cancelled ∨ e'.deletedAt.isSome = true := by
      rcases h with h | h
      · obtain ⟨e', he', h'⟩ := hab.cancelled k e he h
        exact ⟨e', he', .inl h'⟩
      · obtain ⟨e', he', h'⟩ := hab.deleted k e he h
        exact ⟨e', he', .inr h'⟩
    obtain ⟨e', he', h'⟩ := hover
    exact (hbc.registrations k e' he' h').trans (hab.registrations k e he h)

theorem beside_over (h : Beside db db') : StayOver db db' := by
  obtain ⟨accounts, rfl⟩ := h
  exact ⟨fun _ e he h ↦ ⟨e, he, h⟩, fun _ e he h ↦ ⟨e, he, h⟩, fun _ _ _ _ ↦ rfl⟩

/-- An event is rewritten, which stays over if it was. -/
theorem over_updated {eventId : String} {f : Event → Event}
    (hupdate : db.events.update eventId f = .ok db'.events) (hid : ∀ e, (f e).id = e.id)
    (hbeside : Beside { db with events := db'.events } db')
    (hcancelled : ∀ e ∈ db.events.get? eventId, e.status = .cancelled → (f e).status = .cancelled)
    (hdeleted : ∀ e, e.deletedAt.isSome = true → (f e).deletedAt.isSome = true) :
    StayOver db db' := by
  obtain ⟨accounts, hdb⟩ := hbeside
  have hget := Table.get?_update hupdate hid
  refine ⟨fun k e he h ↦ ?_, fun k e he h ↦ ?_, fun k e he h ↦ ?_⟩
  · rw [hget]
    split_ifs with hk
    · subst hk
      exact ⟨f e, Option.mem_map_of_mem f he, hcancelled e he h⟩
    · exact ⟨e, he, h⟩
  · rw [hget]
    split_ifs with hk
    · subst hk
      exact ⟨f e, Option.mem_map_of_mem f he, hdeleted e h⟩
    · exact ⟨e, he, h⟩
  · rw [hdb]
    rfl

theorem registrationStored_other {eventId userId k : String} {env : AuthEnv}
    {t : Table EventRegistration} {r : EventRegistration} (hk : k ≠ eventId)
    (h : EventRegistrationService.registrationStored eventId userId
      (registrationOf eventId userId db) env db = .ok (t, r)) :
    t.rows.filter (fun r ↦ r.eventId == k) = registrationsOf k db := by
  unfold EventRegistrationService.registrationStored at h
  cases hexisting : (registrationOf eventId userId db).filter (·.status = .cancelled) with
  | some cancelled =>
    rw [hexisting] at h
    obtain ⟨t', ht, h⟩ := andThen_eq_ok.mp h
    obtain ⟨r', -, h⟩ := andThen_eq_ok.mp h
    cases h
    obtain ⟨hfound, -⟩ := Option.filter_eq_some_iff.mp hexisting
    obtain ⟨hmem, hkey⟩ := Table.find?_mem hfound
    rw [Bool.and_eq_true, beq_iff_eq, beq_iff_eq] at hkey
    rw [(Table.update_eq_ok.mp (ofRefusal_eq_ok.mp ht)).2]
    refine Table.filter_updateRows_apart fun r hr hid ↦ ?_
    rw [db.eventRegistrations.eq_of_id hr hmem hid, hkey.1]
    simp [Ne.symm hk]
  | none =>
    rw [hexisting] at h
    obtain ⟨t', ht, h⟩ := andThen_eq_ok.mp h
    cases h
    rw [Table.create_eq_ok.mp (ofRefusal_eq_ok.mp ht), List.filter_append]
    simp [registrationsOf, Ne.symm hk]

/-- A registration is for an event that is neither cancelled nor deleted. -/
theorem registration_over {eventId userId email : String} {env : AuthEnv} {r : EventRegistration}
    (h : EventRegistrationService.registration eventId userId email env db = .ok (db', r)) :
    StayOver db db' := by
  obtain ⟨event, hevent, h⟩ := andThen_eq_ok.mp h
  obtain ⟨_, hregistrable, h⟩ := andThen_eq_ok.mp h
  obtain ⟨_, -, h⟩ := andThen_eq_ok.mp h
  obtain ⟨_, -, h⟩ := andThen_eq_ok.mp h
  obtain ⟨⟨t, r'⟩, ht, h⟩ := andThen_eq_ok.mp h
  obtain ⟨db'', hdb, h⟩ := andThen_eq_ok.mp h
  cases h
  obtain ⟨accounts, rfl⟩ := enqueued_eq_ok hdb
  obtain ⟨_, hcancelled, -⟩ := andThen_eq_ok.mp hregistrable
  obtain ⟨hfound, hdeleted⟩ := Option.filter_eq_some_iff.mp (present_eq_ok.mp hevent)
  refine ⟨fun k e he h ↦ ⟨e, he, h⟩, fun k e he h ↦ ⟨e, he, h⟩, fun k e he h ↦ ?_⟩
  refine registrationStored_other (fun hk ↦ ?_) ht
  subst hk
  cases hfound.symm.trans he
  rcases h with h | h
  · exact demand_eq_ok.mp hcancelled h
  · rw [Option.isSome_iff_ne_none] at h
    exact h (Option.isNone_iff_eq_none.mp hdeleted)

theorem eventUpdate_over {text : EventText} {eventId userId : String} {dto : UpdateEventDto}
    {env : AuthEnv} {event : Event}
    (h : EventsService.eventUpdate text eventId userId dto env db = .ok (db', event)) :
    StayOver db db' := by
  obtain ⟨f, hupdate, hf, hbeside⟩ := EventsService.eventUpdate_eq h
  refine over_updated hupdate (fun e ↦ (hf e).id) hbeside (fun e _ he ↦ ?_) fun e he ↦ ?_
  · rw [(hf e).status, he]
  · rw [(hf e).deletedAt, he]

end Moves

section Runs

variable {text : EventText}

theorem runs_over (op : LifecycleOp) : (op.runs text).Each fun label db db' ↦
    op.FindsUncancelled label db → StayOver db db' := by
  have hread : ∀ label db, op.FindsUncancelled label db → StayOver db db :=
    fun _ db _ ↦ StayOver.refl db
  have hlog : ∀ label db db', Beside db db' → op.FindsUncancelled label db → StayOver db db' :=
    fun _ _ _ h _ ↦ beside_over h
  cases op with
  | publish eventId userId userRoles client =>
    refine Call.each_map (Call.each_bind (EventAuthorizationService.assertCanManageEvent_each
      (hread _) (hread _)) fun event ↦ ?_)
    refine Call.each_bind Call.each_returned fun _ ↦ Call.each_bind Call.each_returned fun _ ↦
      Call.each_bind Call.each_returned fun _ ↦ ?_
    refine Call.each_bind (Call.each_writes (hread _) fun env db db' event h huncancelled ↦ ?_)
      fun updated ↦ EventsService.answered_each hread hlog
    obtain ⟨hupdate, hbeside⟩ := EventsService.eventMoved_eq h
    refine over_updated hupdate (fun _ ↦ rfl) hbeside (fun e he hcancelled ↦ ?_) fun _ he ↦ he
    exact absurd hcancelled (huncancelled rfl e he)
  | cancel eventId userId userRoles client =>
    refine Call.each_map (Call.each_bind (EventAuthorizationService.assertCanManageEvent_each
      (hread _) (hread _)) fun event ↦ ?_)
    refine Call.each_bind Call.each_returned fun _ ↦ Call.each_bind Call.each_returned fun _ ↦ ?_
    refine Call.each_bind (Call.each_writes (hread _) fun env db db' event h _ ↦ ?_)
      fun updated ↦ EventsService.answered_each hread hlog
    obtain ⟨hupdate, hbeside⟩ := EventsService.eventMoved_eq h
    exact over_updated hupdate (fun _ ↦ rfl) hbeside (fun _ _ _ ↦ rfl) fun _ he ↦ he
  | softDelete eventId userId userRoles client =>
    refine Call.each_map (Call.each_bind (EventAuthorizationService.assertCanManageEvent_each
      (hread _) (hread _)) fun event ↦ ?_)
    refine Call.each_bind (Call.each_writes (hread _) fun env db db' event h _ ↦ ?_)
      fun _ ↦ each_log (hlog _)
    obtain ⟨hupdate, hbeside⟩ := EventsService.eventMoved_eq h
    exact over_updated hupdate (fun _ ↦ rfl) hbeside (fun _ _ _ ↦ rfl) fun _ _ ↦ rfl
  | update eventId userId userRoles dto client =>
    exact Call.each_map (EventsService.update_each hread hlog fun _ _ _ _ h _ ↦ eventUpdate_over h)
  | register eventId userId client =>
    refine Call.each_map (Call.each_bind (Call.each_reads (hread _)) fun found ↦ ?_)
    refine Call.each_bind Call.each_returned fun user ↦ ?_
    refine Call.each_bind (Call.each_writes (hread _) fun env db db' r h _ ↦ registration_over h)
      fun r ↦ ?_
    exact Call.each_bind (each_log (hlog _)) fun _ ↦ Call.each_returned

/-- As long as no publication finds the event cancelled when it writes, an event that has been
cancelled or deleted stays so, and nobody registers for it any more. -/
theorem cancelled_for_good {p q : Pool EventsDb LifecycleTask}
    (h : Reach (lifecycleCalls text).Step (Heeding fun op _ ↦ op.FindsUncancelled)
      (fun p ↦ p.threads = []) p)
    (hq : Reach (lifecycleCalls text).Step (Heeding fun op _ ↦ op.FindsUncancelled)
      (fun u ↦ u = p) q) :
    (∀ k, ∀ e ∈ p.shared.events.get? k, e.status = .cancelled →
      ∃ e' ∈ q.shared.events.get? k, e'.status = .cancelled) ∧
    (∀ k, ∀ e ∈ p.shared.events.get? k, e.deletedAt.isSome = true →
      ∃ e' ∈ q.shared.events.get? k, e'.deletedAt.isSome = true) ∧
    ∀ k, ∀ e ∈ p.shared.events.get? k, e.status = .cancelled ∨ e.deletedAt.isSome = true →
      registrationsOf k q.shared = registrationsOf k p.shared := by
  have hover := guarded_stays StayOver.refl StayOver.trans runs_over (fun _ hp ↦ hp) h hq
  exact ⟨hover.cancelled, hover.deleted, hover.registrations⟩

end Runs

section Sample

/-- The event of the sample before it is published. -/
def draftDb : EventsDb :=
  { sampleDb with events := .singleton { sampleEvent with status := .draft } }

/-- The calls with the operations, none of which has begun. -/
def lifecycles (ops : List LifecycleOp) : Pool EventsDb LifecycleTask :=
  ⟨draftDb, ops.map fun op ↦ ⟨op, [], op.runs sampleText⟩⟩

/-- The next `n` requests of the thread `i`. -/
def turns (i n : ℕ) (tag : String) : List (ℕ × AuthEnv) :=
  (List.range n).map fun k ↦ (i, sampleEnv 1 s!"{tag}{k}")

def publishing : LifecycleOp := .publish "event-1" "owner-1" [] nobody

def cancelling : LifecycleOp := .cancel "event-1" "owner-1" [] nobody

def registering : LifecycleOp := .register "event-1" "user-1" nobody

/-- The status of the event and the number of its registrations. -/
def eventState (p : Pool EventsDb LifecycleTask) : Option EventStatus × ℕ :=
  ((p.shared.events.get? "event-1").map (·.status), (registrationsOf "event-1" p.shared).length)

/-- The event is published and cancelled, and then nobody registers. -/
theorem published_and_cancelled : ∃ p q : Pool EventsDb LifecycleTask,
    eventState p = (some .cancelled, 0) ∧ eventState q = (some .cancelled, 0) ∧
      ∀ k, ∀ e ∈ p.shared.events.get? k, e.status = .cancelled →
        ∃ e' ∈ q.shared.events.get? k, e'.status = .cancelled := by
  have hrun : ((lifecycleCalls sampleText).play (meets fun op _ ↦ op.FindsUncancelled)
      (turns 0 4 "a" ++ turns 1 2 "b") (lifecycles [publishing, cancelling, registering])).any
        (fun p ↦ eventState p == (some .cancelled, 0) &&
          ((lifecycleCalls sampleText).play (meets fun op _ ↦ op.FindsUncancelled)
            (turns 2 2 "c") p).any fun q ↦ eventState q == (some .cancelled, 0)) = true := by
    decide +kernel
  obtain ⟨p, hp, htest⟩ := (Option.any_eq_true ..).mp hrun
  obtain ⟨hfirst, htest⟩ := Bool.and_eq_true_iff.mp htest
  obtain ⟨q, hq, hlast⟩ := (Option.any_eq_true ..).mp htest
  have hreach : Reach (lifecycleCalls sampleText).Step (Heeding fun op _ ↦ op.FindsUncancelled)
      (fun p ↦ p.threads = []) p := reach_tasks (fun _ _ _ h ↦ meets_sound h) rfl hp
  have hrest : Reach (lifecycleCalls sampleText).Step (Heeding fun op _ ↦ op.FindsUncancelled)
      (fun u ↦ u = p) q := Machine.reach_play (fun _ _ _ h ↦ meets_sound h) (.start rfl) hq
  exact ⟨p, q, beq_iff_eq.mp hfirst, beq_iff_eq.mp hlast, (cancelled_for_good hreach hrest).1⟩

/-- The event is cancelled while a publication is on its way, which then publishes it, and an
attendee registers. -/
theorem cancelled_and_published : ∃ p q : Pool EventsDb LifecycleTask,
    Reach (lifecycleCalls sampleText).Step (Heeding fun _ _ _ _ ↦ True) (fun p ↦ p.threads = []) p ∧
      Reach (lifecycleCalls sampleText).Step (Heeding fun _ _ _ _ ↦ True) (fun u ↦ u = p) q ∧
      eventState p = (some .cancelled, 0) ∧ eventState q = (some .published, 1) := by
  have hrun : ((lifecycleCalls sampleText).play (fun _ _ _ ↦ true)
      (turns 0 1 "a" ++ turns 1 2 "b") (lifecycles [publishing, cancelling, registering])).any
        (fun p ↦ eventState p == (some .cancelled, 0) &&
          ((lifecycleCalls sampleText).play (fun _ _ _ ↦ true)
            (turns 0 1 "c" ++ turns 2 2 "d") p).any fun q ↦
              eventState q == (some .published, 1)) = true := by
    decide +kernel
  obtain ⟨p, hp, htest⟩ := (Option.any_eq_true ..).mp hrun
  obtain ⟨hfirst, htest⟩ := Bool.and_eq_true_iff.mp htest
  obtain ⟨q, hq, hlast⟩ := (Option.any_eq_true ..).mp htest
  exact ⟨p, q, reach_tasks (fun _ _ _ _ _ _ _ _ ↦ trivial) rfl hp,
    Machine.reach_play (fun _ _ _ _ _ _ _ _ ↦ trivial) (.start rfl) hq, beq_iff_eq.mp hfirst,
    beq_iff_eq.mp hlast⟩

end Sample

end Innovents.Events
