import Innovents.Events.EventRegistrationService

namespace Innovents.Events

open Innovents.Lib Innovents.Auth Innovents.Platform

section Operations

inductive RegistrationOp
  | register (eventId userId : String) (client : Client)
  | cancel (eventId userId : String) (client : Client)
  | update (eventId userId : String) (userRoles : List String) (dto : UpdateEventDto)
      (client : Client)

inductive RegistrationReply
  | registration (dto : RegistrationResponseDto)
  | message (dto : MessageDto)
  | event (dto : EventResponseDto)

def RegistrationOp.runs (text : EventText) : RegistrationOp → EventsCall RegistrationReply
  | register eventId userId client =>
    .registration <$> EventRegistrationService.register eventId userId client
  | cancel eventId userId client =>
    .message <$> EventRegistrationService.cancel eventId userId client
  | update eventId userId userRoles dto client =>
    .event <$> EventsService.update text eventId userId userRoles dto client

abbrev RegistrationTask :=
  Task RegistrationOp String AuthEnv EventsDb AuthError RegistrationReply

def registrationCalls (text : EventText) : Machine EventsDb RegistrationTask AuthEnv :=
  tasks (RegistrationOp.runs text)

end Operations

/-- The attendees of the event fit in. -/
def Within (k : String) (db : EventsDb) : Prop :=
  ∀ e ∈ db.events.get? k, (registeredCount k db : ℤ) ≤ e.capacity

/-- A new capacity is written while it still takes all the attendees who are registered. -/
def RegistrationOp.Fits (op : RegistrationOp) (label : String) (db : EventsDb) : Prop :=
  match op with
  | update eventId _ _ dto _ => label = "$transaction" →
    ∀ capacity ∈ dto.capacity.join, (registeredCount eventId db : ℤ) ≤ capacity
  | _ => True

instance RegistrationOp.decidableFits (op : RegistrationOp) (label : String) (db : EventsDb) :
    Decidable (op.Fits label db) :=
  match op with
  | .update .. => inferInstanceAs (Decidable (_ → _))
  | .register .. | .cancel .. => inferInstanceAs (Decidable True)

section Transactions

variable {k eventId userId : String} {env : AuthEnv} {db db' : EventsDb}

theorem beside_within (h : Beside db db') (hk : Within k db) : Within k db' := by
  obtain ⟨accounts, rfl⟩ := h
  exact hk

/-- The registrations of an event among those of a table. -/
def registeredIn (k : String) (t : Table EventRegistration) : ℕ :=
  t.rows.countP fun r ↦ r.eventId == k && r.status == .registered

theorem registeredIn_registered {t : Table EventRegistration} {r : EventRegistration}
    (h : EventRegistrationService.registrationStored eventId userId
      (registrationOf eventId userId db) env db = .ok (t, r)) :
    registeredIn k t ≤ registeredCount k db + if k = eventId then 1 else 0 := by
  unfold EventRegistrationService.registrationStored at h
  split at h
  · rename_i cancelled hcancelled
    obtain ⟨t', ht, h⟩ := andThen_eq_ok.mp h
    obtain ⟨r', -, h⟩ := andThen_eq_ok.mp h
    cases h
    obtain ⟨hfound, -⟩ := Option.filter_eq_some_iff.mp hcancelled
    obtain ⟨hmem, hkey⟩ := Table.find?_mem hfound
    rw [Bool.and_eq_true, beq_iff_eq, beq_iff_eq] at hkey
    refine Table.countP_update_le (ofRefusal_eq_ok.mp ht) fun r hr hid hp ↦ ?_
    rw [Bool.and_eq_true, beq_iff_eq, db.eventRegistrations.eq_of_id hr hmem hid] at hp
    rw [← hp.1, hkey.1]
  · obtain ⟨t', ht, h⟩ := andThen_eq_ok.mp h
    cases h
    rw [registeredIn, Table.create_eq_ok.mp (ofRefusal_eq_ok.mp ht), List.countP_append,
      registeredCount, List.countP_singleton]
    by_cases hk : k = eventId
    · simp [hk]
    · simp [hk, Ne.symm hk]

theorem registration_within {email : String} {r : EventRegistration}
    (h : EventRegistrationService.registration eventId userId email env db = .ok (db', r))
    (hk : Within k db) : Within k db' := by
  obtain ⟨event, hevent, h⟩ := andThen_eq_ok.mp h
  obtain ⟨_, -, h⟩ := andThen_eq_ok.mp h
  obtain ⟨_, -, h⟩ := andThen_eq_ok.mp h
  obtain ⟨_, hfree, h⟩ := andThen_eq_ok.mp h
  obtain ⟨⟨t, r'⟩, ht, h⟩ := andThen_eq_ok.mp h
  obtain ⟨db'', hdb, h⟩ := andThen_eq_ok.mp h
  cases h
  refine beside_within (enqueued_eq_ok hdb) fun e he ↦ ?_
  have hcount : registeredIn k t ≤ registeredCount k db + if k = eventId then 1 else 0 :=
    registeredIn_registered ht
  have hold := hk e he
  show (registeredIn k t : ℤ) ≤ e.capacity
  split_ifs at hcount with hid
  · subst hid
    have hsame : event = e :=
      Option.some.inj ((Option.filter_eq_some_iff.mp (present_eq_ok.mp hevent)).1.symm.trans he)
    have hfree := demand_eq_ok.mp hfree
    rw [hsame] at hfree
    omega
  · omega

theorem cancellation_within {registrationId : String} {u : Unit}
    (h : EventRegistrationService.cancellation eventId userId registrationId env db = .ok (db', u))
    (hk : Within k db) : Within k db' := by
  obtain ⟨t, ht, h⟩ := andThen_eq_ok.mp h
  obtain ⟨db'', hdb, h⟩ := andThen_eq_ok.mp h
  cases h
  refine beside_within (enqueued_eq_ok hdb) fun e he ↦ ?_
  have hcount : registeredIn k t ≤ registeredCount k db + if False then 1 else 0 := by
    refine Table.countP_update_le (ofRefusal_eq_ok.mp ht) fun r _ _ hp ↦ ?_
    simp at hp
  have hold := hk e he
  show (registeredIn k t : ℤ) ≤ e.capacity
  simp only [if_false] at hcount
  omega

theorem eventUpdate_within {text : EventText} {dto : UpdateEventDto} {event : Event}
    (h : EventsService.eventUpdate text eventId userId dto env db = .ok (db', event))
    (hfits : ∀ capacity ∈ dto.capacity.join, (registeredCount eventId db : ℤ) ≤ capacity) (hk : Within k db) : Within k db' := by
  obtain ⟨f, hupdate, hf, hbeside⟩ := EventsService.eventUpdate_eq h
  refine beside_within hbeside fun e he ↦ ?_
  rw [Option.mem_def, Table.get?_update hupdate fun e ↦ (hf e).id] at he
  split_ifs at he with hid
  · subst hid
    obtain ⟨old, hold, rfl⟩ := Option.map_eq_some_iff.mp he
    rw [(hf old).capacity]
    show (registeredCount k db : ℤ) ≤ dto.capacity.join.getD old.capacity
    cases hcapacity : dto.capacity.join with
    | none => exact hk old hold
    | some n => exact hfits n hcapacity
  · exact hk e he

end Transactions

section Runs

variable {text : EventText} {k : String}

theorem runs_within (op : RegistrationOp) : (op.runs text).Each fun label db db' ↦
    op.Fits label db → Within k db → Within k db' := by
  have hread : ∀ label db, op.Fits label db → Within k db → Within k db := fun _ _ _ hk ↦ hk
  have hlog : ∀ label db db', Beside db db' → op.Fits label db → Within k db → Within k db' :=
    fun _ _ _ h _ hk ↦ beside_within h hk
  cases op with
  | register eventId userId client =>
    refine Call.each_map (Call.each_bind (Call.each_reads (hread _)) fun found ↦ ?_)
    refine Call.each_bind Call.each_returned fun user ↦ ?_
    refine Call.each_bind (Call.each_writes (hread _) fun env db db' r h _ hk ↦ ?_) fun r ↦ ?_
    · exact registration_within h hk
    · exact Call.each_bind (each_log (hlog _)) fun _ ↦ Call.each_returned
  | cancel eventId userId client =>
    refine Call.each_map (Call.each_bind (Call.each_reads (hread _)) fun found ↦ ?_)
    refine Call.each_bind Call.each_returned fun existing ↦ ?_
    refine Call.each_bind (Call.each_writes (hread _) fun env db db' _ h _ hk ↦ ?_) fun _ ↦ ?_
    · exact cancellation_within h hk
    · exact Call.each_bind (each_log (hlog _)) fun _ ↦ Call.each_returned
  | update eventId userId userRoles dto client =>
    refine Call.each_map (EventsService.update_each hread hlog fun env db db' event h hfits hk ↦ ?_)
    exact eventUpdate_within h (hfits rfl) hk

def FreeAtFirst (k : String) (p : Pool EventsDb RegistrationTask) : Prop :=
  p.threads = [] ∧ Within k p.shared

/-- As long as every new capacity takes those who are registered when it is written, an event never
has more attendees than it takes. -/
theorem capacity_kept {p : Pool EventsDb RegistrationTask}
    (h : Reach (registrationCalls text).Step (Heeding fun op _ ↦ op.Fits) (FreeAtFirst k) p) :
    ∀ e ∈ p.shared.events.get? k, (registeredCount k p.shared : ℤ) ≤ e.capacity :=
  guarded_reach runs_within (fun _ hp ↦ hp) h

end Runs

section Sample

theorem sampleDb_within : FreeAtFirst "event-1" ⟨sampleDb, []⟩ := by
  refine ⟨rfl, fun e he ↦ ?_⟩
  rw [List.mem_singleton.mp (Table.get?_eq_some.mp he).1]
  decide

/-- The owner reduces the capacity to one. -/
def reduction : RegistrationOp :=
  .update "event-1" "owner-1" [] { UpdateEventDto.empty with capacity := some (some 1) } nobody

/-- The capacity is reduced when one attendee is registered, and the second one is turned away. -/
theorem reduced_in_time : ∃ p : Pool EventsDb RegistrationTask,
    registeredCount "event-1" p.shared = 1 ∧
      ∀ e ∈ p.shared.events.get? "event-1", (registeredCount "event-1" p.shared : ℤ) ≤ e.capacity := by
  have hrun : ((registrationCalls sampleText).play (meets fun op _ ↦ op.Fits)
      ((List.range 3).map (fun n ↦ (0, sampleEnv 1 s!"a{n}")) ++
        (List.range 5).map (fun n ↦ (1, sampleEnv 2 s!"b{n}")) ++
        (List.range 2).map (fun n ↦ (2, sampleEnv 3 s!"c{n}")))
      ⟨sampleDb, ([.register "event-1" "user-1" nobody, reduction,
        .register "event-1" "user-2" nobody] : List RegistrationOp).map
          fun op ↦ ⟨op, [], op.runs sampleText⟩⟩).any
        (fun p ↦ p.threads.all (·.call.label?.isNone) &&
          registeredCount "event-1" p.shared == 1) = true := by
    decide +kernel
  obtain ⟨p, hp, htest⟩ := (Option.any_eq_true ..).mp hrun
  have hreach := reach_tasks (fun _ _ _ h ↦ meets_sound h) sampleDb_within hp
  exact ⟨p, beq_iff_eq.mp (Bool.and_eq_true_iff.mp htest).2, capacity_kept hreach⟩

/-- The second attendee registers between the check of the new capacity and its write. -/
theorem reduced_too_late : ∃ p : Pool EventsDb RegistrationTask,
    Reach (registrationCalls sampleText).Step (Heeding fun _ _ _ _ ↦ True)
      (FreeAtFirst "event-1") p ∧ p.threads.all (·.call.label?.isNone) = true ∧
      ¬ ∀ e ∈ p.shared.events.get? "event-1", (registeredCount "event-1" p.shared : ℤ) ≤ e.capacity := by
  have hrun : ((registrationCalls sampleText).play (fun _ _ _ ↦ true)
      ((List.range 3).map (fun n ↦ (0, sampleEnv 1 s!"a{n}")) ++
        (List.range 2).map (fun n ↦ (1, sampleEnv 2 s!"b{n}")) ++
        (List.range 3).map (fun n ↦ (2, sampleEnv 3 s!"c{n}")) ++
        (List.range 3).map (fun n ↦ (1, sampleEnv 4 s!"d{n}")))
      ⟨sampleDb, ([.register "event-1" "user-1" nobody, reduction,
        .register "event-1" "user-2" nobody] : List RegistrationOp).map
          fun op ↦ ⟨op, [], op.runs sampleText⟩⟩).any
        (fun p ↦ p.threads.all (·.call.label?.isNone) && registeredCount "event-1" p.shared == 2 &&
          (p.shared.events.get? "event-1").any (·.capacity == 1)) = true := by
    decide +kernel
  obtain ⟨p, hp, htest⟩ := (Option.any_eq_true ..).mp hrun
  simp only [Bool.and_eq_true, beq_iff_eq] at htest
  obtain ⟨⟨hdone, hcount⟩, hcapacity⟩ := htest
  obtain ⟨e, he, hone⟩ := (Option.any_eq_true ..).mp hcapacity
  refine ⟨p, reach_tasks (fun _ _ _ _ _ _ _ _ ↦ trivial) sampleDb_within hp, hdone, fun hfit ↦ ?_⟩
  have hle := hfit e he
  rw [hcount, beq_iff_eq.mp hone] at hle
  exact absurd hle (by decide)

end Sample

end Innovents.Events
