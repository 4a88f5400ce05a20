import Innovents.Communities.Social.MeetupParticipation

namespace Innovents.Communities.Social

open Innovents.Lib Innovents.Auth Innovents.Platform CommunityMeetupsService
open Innovents.Payments (Time)

/-- A meetup is in the time of its event or up to seven days after it, does not end before it
starts, and has no more participants than its limit. -/
structure Constrained (events : Table Events.Event) (m : CommunityMeetup) : Prop where
  ends : ∀ endsAt ∈ m.endsAt, m.startsAt < endsAt
  starts : ∃ e ∈ events.get? m.eventId,
    e.startsAt ≤ m.startsAt ∧ m.startsAt ≤ e.endsAt + 7 * 24 * 60 * 60 * 1000
  room : ∀ limit ∈ m.participantLimit, m.participantCount ≤ limit

instance (events : Table Events.Event) (m : CommunityMeetup) : Decidable (Constrained events m) :=
  decidable_of_iff ((∀ endsAt ∈ m.endsAt, m.startsAt < endsAt) ∧ (∃ e ∈ events.get? m.eventId,
      e.startsAt ≤ m.startsAt ∧ m.startsAt ≤ e.endsAt + 7 * 24 * 60 * 60 * 1000) ∧
        ∀ limit ∈ m.participantLimit, m.participantCount ≤ limit)
    ⟨fun ⟨hends, hstarts, hroom⟩ ↦ ⟨hends, hstarts, hroom⟩,
      fun ⟨hends, hstarts, hroom⟩ ↦ ⟨hends, hstarts, hroom⟩⟩

/-- The meetups are constrained by the events, which do not change. -/
structure MeetupsFit (events : Table Events.Event) (db : SocialDb) : Prop where
  kept : db.events = events
  constrained : ∀ m ∈ db.communityMeetups.rows, Constrained events m

/-- The meetup with the times and the limit that an update gives. -/
def UpdateMeetupDto.merged (dto : UpdateMeetupDto) (m : CommunityMeetup) : CommunityMeetup :=
  { m with
    startsAt := dto.startsAt.join.getD m.startsAt
    endsAt := if dto.endsAt.isSome then dto.endsAt.join.join else m.endsAt
    participantLimit := dto.participantLimit.getD m.participantLimit }

/-- The limits that the validation of the requests admits. -/
def MeetupOp.Admitted : MeetupOp → Prop
  | create _ _ dto _ => ∀ limit ∈ dto.participantLimit, 1 ≤ limit ∧ limit ≤ 10000
  | update _ _ _ _ dto => ∀ limit ∈ dto.participantLimit.join, 1 ≤ limit ∧ limit ≤ 10000
  | join .. | leave .. | cancel .. => True

/-- An update finds the meetup such that it stays constrained with the new times and limit. -/
def MeetupOp.Fits (op : MeetupOp) (label : String) (db : SocialDb) : Prop :=
  match op with
  | update _ meetupId _ _ dto => label = "communityMeetup.update" →
    ∀ m ∈ db.communityMeetups.get? meetupId, Constrained db.events (dto.merged m)
  | create .. | join .. | leave .. | cancel .. => True

instance (op : MeetupOp) : Decidable op.Admitted :=
  match op with
  | .create _ _ dto _ => inferInstanceAs (Decidable (∀ limit ∈ dto.participantLimit, _ ∧ _))
  | .update _ _ _ _ dto => inferInstanceAs (Decidable (∀ limit ∈ dto.participantLimit.join, _ ∧ _))
  | .join .. | .leave .. | .cancel .. => inferInstanceAs (Decidable True)

instance (op : MeetupOp) (label : String) (db : SocialDb) : Decidable (op.Fits label db) :=
  match op with
  | .update _ meetupId _ _ dto => inferInstanceAs (Decidable (_ →
    ∀ m ∈ db.communityMeetups.get? meetupId, Constrained db.events (dto.merged m)))
  | .create .. | .join .. | .leave .. | .cancel .. => inferInstanceAs (Decidable True)

section Rows

variable {events : Table Events.Event} {db db' : SocialDb} {env : AuthEnv} {client : Client}
  {communityId eventId creatorId meetupId userId participantId : String} {change : ℤ}
  {f : CommunityMeetup → CommunityMeetup}

/-- A row is rewritten, and the events stay. -/
def MeetupRewritten (meetupId : String) (f : CommunityMeetup → CommunityMeetup)
    (db db' : SocialDb) : Prop :=
  db.communityMeetups.update meetupId f = .ok db'.communityMeetups ∧ db'.events = db.events

/-- The rewritten meetup has the same times and the same limit. -/
structure Timed (change : ℤ) (m m' : CommunityMeetup) : Prop where
  eventId : m'.eventId = m.eventId
  startsAt : m'.startsAt = m.startsAt
  endsAt : m'.endsAt = m.endsAt
  participantLimit : m'.participantLimit = m.participantLimit
  participantCount : m'.participantCount = m.participantCount + change

theorem Timed.constrained {m m' : CommunityMeetup} (h : Timed change m m')
    (hm : Constrained events m) (hroom : ∀ limit ∈ m.participantLimit, m.participantCount + change ≤ limit) :
    Constrained events m' where
  ends endsAt hends := by
    rw [h.startsAt]
    exact hm.ends endsAt (h.endsAt ▸ hends)
  starts := by
    rw [h.eventId, h.startsAt]
    exact hm.starts
  room limit hlimit := by
    rw [h.participantCount]
    exact hroom limit (h.participantLimit ▸ hlimit)

theorem MeetupsFit.rewritten (hdb : MeetupsFit events db) (h : MeetupRewritten meetupId f db db')
    (hf : ∀ m ∈ db.communityMeetups.get? meetupId, Constrained events m → Constrained events (f m)) :
    MeetupsFit events db' := by
  refine ⟨h.2.trans hdb.kept, fun m hm ↦ ?_⟩
  rw [(Table.update_eq_ok.mp h.1).2, Table.mem_updateRows] at hm
  rcases hm with ⟨old, hold, hid, rfl⟩ | ⟨hm, -⟩
  · exact hf old (Table.get?_eq_some.mpr ⟨hold, hid⟩) (hdb.constrained old hold)
  · exact hdb.constrained m hm

theorem participantAdded_events (h : participantAdded meetupId userId env db = .ok db') :
    db'.communityMeetups = db.communityMeetups ∧ db'.events = db.events := by
  obtain ⟨_, -, h⟩ := andThen_eq_ok.mp h
  obtain ⟨participants, -, h⟩ := andThen_eq_ok.mp h
  cases h
  exact ⟨rfl, rfl⟩

theorem participantsMoved_timed (h : participantsMoved meetupId change env db = .ok db') :
    ∃ f, MeetupRewritten meetupId f db db' ∧ ∀ m, Timed change m (f m) := by
  obtain ⟨meetups, hupdate, h⟩ := andThen_eq_ok.mp h
  cases h
  exact ⟨_, ⟨ofRefusal_eq_ok.mp hupdate, rfl⟩, fun m ↦ ⟨rfl, rfl, rfl, rfl, rfl⟩⟩

theorem meetupJoined_timed {m : CommunityMeetup}
    (h : meetupJoined communityId meetupId userId env db = .ok (db', m)) :
    ∃ f, MeetupRewritten meetupId f db db' ∧ (∀ m, Timed 1 m (f m)) ∧
      ∀ m ∈ db.communityMeetups.get? meetupId, ∀ limit ∈ m.participantLimit,
        m.participantCount < limit := by
  obtain ⟨locked, hlocked, h⟩ := andThen_eq_ok.mp h
  obtain ⟨_, hjoinable, h⟩ := andThen_eq_ok.mp h
  obtain ⟨db₁, hadded, h⟩ := andThen_eq_ok.mp h
  obtain ⟨db₂, hmoved, h⟩ := andThen_eq_ok.mp h
  obtain ⟨updated, -, h⟩ := andThen_eq_ok.mp h
  obtain ⟨db₃, hevent, h⟩ := andThen_eq_ok.mp h
  obtain ⟨hmeetups, hevents⟩ := participantAdded_events hadded
  obtain ⟨f, ⟨hupdate, hkept⟩, hf⟩ := participantsMoved_timed hmoved
  obtain ⟨accounts, rfl⟩ := enqueued_eq_ok hevent
  cases h
  refine ⟨f, ⟨?_, hkept.trans hevents⟩, hf, fun m hm ↦ ?_⟩
  · rw [← hmeetups]
    exact hupdate
  · obtain ⟨hfound, -⟩ := Option.filter_eq_some_iff.mp (present_eq_ok.mp hlocked)
    cases hfound.symm.trans hm
    obtain ⟨_, -, hjoinable⟩ := andThen_eq_ok.mp hjoinable
    obtain ⟨_, -, hroom⟩ := andThen_eq_ok.mp hjoinable
    exact demand_eq_ok.mp hroom

theorem meetupLeft_timed {u : Unit}
    (h : meetupLeft communityId meetupId userId participantId env db = .ok (db', u)) :
    ∃ f, MeetupRewritten meetupId f db db' ∧ ∀ m, Timed (-1) m (f m) := by
  obtain ⟨participants, -, h⟩ := andThen_eq_ok.mp h
  obtain ⟨db₁, hmoved, h⟩ := andThen_eq_ok.mp h
  obtain ⟨db₂, hevent, h⟩ := andThen_eq_ok.mp h
  obtain ⟨f, hrewritten, hf⟩ := participantsMoved_timed hmoved
  obtain ⟨accounts, rfl⟩ := enqueued_eq_ok hevent
  cases h
  exact ⟨f, hrewritten, hf⟩

theorem meetupCancelled_timed {u : Unit}
    (h : meetupCancelled communityId meetupId userId client env db = .ok (db', u)) :
    ∃ f, MeetupRewritten meetupId f db db' ∧ ∀ m, Timed 0 m (f m) := by
  obtain ⟨meetups, hupdate, h⟩ := andThen_eq_ok.mp h
  obtain ⟨db₁, hevent, h⟩ := andThen_eq_ok.mp h
  obtain ⟨db₂, haudit, h⟩ := andThen_eq_ok.mp h
  obtain ⟨accounts, rfl⟩ := enqueued_eq_ok hevent
  obtain ⟨accounts', rfl⟩ := audited_eq_ok haudit
  cases h
  exact ⟨_, ⟨ofRefusal_eq_ok.mp hupdate, rfl⟩, fun m ↦ ⟨rfl, rfl, rfl, rfl, (add_zero _).symm⟩⟩

/-- A date that is stored is the one that was given. -/
theorem dateGiven_eq_ok {name : String} {date : Option (Option Time)} {t : Option Time}
    (h : dateGiven name date = .ok t) : t = date.join := by
  cases date with
  | none =>
    cases h
    rfl
  | some date =>
    cases date with
    | none => cases h
    | some date =>
      cases h
      rfl

theorem meetupUpdate_merged {dto : UpdateMeetupDto} {a : CommunityMeetup × Option UserSummary}
    (h : meetupUpdate meetupId dto env db = .ok (db', a)) :
    ∃ f, MeetupRewritten meetupId f db db' ∧ ∀ m, Timed 0 (dto.merged m) (f m) := by
  obtain ⟨title, -, h⟩ := andThen_eq_ok.mp h
  obtain ⟨description, -, h⟩ := andThen_eq_ok.mp h
  obtain ⟨startsAt, hstarts, h⟩ := andThen_eq_ok.mp h
  obtain ⟨endsAt, hends, h⟩ := andThen_eq_ok.mp h
  obtain ⟨location, -, h⟩ := andThen_eq_ok.mp h
  obtain ⟨status, -, h⟩ := andThen_eq_ok.mp h
  obtain ⟨meetups, hupdate, h⟩ := andThen_eq_ok.mp h
  obtain ⟨updated, -, h⟩ := andThen_eq_ok.mp h
  cases h
  rw [dateGiven_eq_ok hstarts, dateGiven_eq_ok hends] at hupdate
  exact ⟨_, ⟨ofRefusal_eq_ok.mp hupdate, rfl⟩, fun m ↦ ⟨rfl, rfl, rfl, rfl, (add_zero _).symm⟩⟩

theorem meetupCreated_constrained {dto : CreateMeetupDto} {startsAt : Time} {m : CommunityMeetup}
    (hdb : MeetupsFit events db)
    (hlimit : ∀ limit ∈ dto.participantLimit, 1 ≤ limit)
    (hends : endsBefore startsAt dto.endsAt = false)
    (hstarts : ∀ e ∈ events.get? eventId, e.startsAt ≤ startsAt ∧
      startsAt ≤ e.endsAt + 7 * 24 * 60 * 60 * 1000)
    (h : meetupCreated communityId eventId creatorId dto startsAt client env db = .ok (db', m)) :
    MeetupsFit events db' := by
  obtain ⟨_, hforeign, h⟩ := andThen_eq_ok.mp h
  obtain ⟨endsAt, hendsAt, h⟩ := andThen_eq_ok.mp h
  obtain ⟨meetups, hcreate, h⟩ := andThen_eq_ok.mp h
  obtain ⟨db₁, hadded, h⟩ := andThen_eq_ok.mp h
  obtain ⟨db₂, hevent, h⟩ := andThen_eq_ok.mp h
  obtain ⟨db₃, haudit, h⟩ := andThen_eq_ok.mp h
  obtain ⟨hmeetups, hevents⟩ := participantAdded_events hadded
  obtain ⟨accounts, rfl⟩ := enqueued_eq_ok hevent
  obtain ⟨accounts', rfl⟩ := audited_eq_ok haudit
  cases h
  refine ⟨hevents.trans hdb.kept, fun r hr ↦ ?_⟩
  replace hr : r ∈ db₁.communityMeetups.rows := hr
  rw [hmeetups, Table.create_eq_ok.mp (ofRefusal_eq_ok.mp hcreate)] at hr
  rcases List.mem_append.mp hr with hr | hr
  · exact hdb.constrained r hr
  · rw [List.mem_singleton.mp hr]
    obtain ⟨e, he⟩ := Option.isSome_iff_exists.mp (demand_eq_ok.mp hforeign).2.1
    rw [hdb.kept] at he
    refine ⟨fun t ht ↦ ?_, ⟨e, he, hstarts e he⟩, hlimit⟩
    -- the date is stored as it was compared
    have hgiven : dto.endsAt.join = some t := (dateGiven_eq_ok hendsAt).symm.trans ht
    rw [endsBefore, hgiven, Option.any_some, decide_eq_false_iff_not] at hends
    exact not_le.mp hends

end Rows

section Runs

variable {events : Table Events.Event} {communityId creatorId meetupId userId : String}
  {userRoles : List String} {client : Client} {op : MeetupOp}

theorem runs_meetups_fit (op : MeetupOp) : op.runs.Heeds (MeetupsFit events)
    (fun _ label db ↦ op.Admitted ∧ op.Fits label db) (fun _ _ _ ↦ True) (fun _ _ ↦ True) [] := by
  have htrivial : ∀ (_ : String) (_ : SocialDb), True := fun _ _ ↦ trivial
  cases op with
  | create communityId creatorId dto client =>
    refine Call.heeds_map (Call.heeds_bind ((Call.heeds_reader
      (CommunityAuthorizationService.assertActiveMember_each (fun _ ↦ rfl) fun _ ↦ rfl)
        htrivial).mono fun _ _ _ ↦ ?_))
    refine Call.heeds_bind (Call.heeds_returned fun startsAt _ ↦ ?_)
    refine Call.heeds_bind (Call.heeds_returned fun _ hends ↦ ?_)
    refine Call.heeds_bind (Call.heeds_reads (fun _ ↦ trivial) fun _ db₀ hdb₀ _ ↦ ?_)
    refine Call.heeds_bind (Call.heeds_returned fun _ hstarts ↦ ?_)
    refine Call.heeds_bind (Call.heeds_writes (fun _ ↦ trivial) fun env db db' m hdb hok h ↦
      ⟨?_, trivial, ?_⟩)
    · rw [demand_eq_ok, hdb₀.kept] at hstarts
      exact meetupCreated_constrained hdb (fun limit hlimit ↦ (hok.1 limit hlimit).1)
        (demand_eq_ok.mp hends) hstarts h
    · exact Call.heeds_bind (Call.heeds_reads (fun _ ↦ trivial) fun _ _ _ _ ↦ trivial)
  | join communityId meetupId userId =>
    refine Call.heeds_map (Call.heeds_bind ((Call.heeds_reader
      (CommunityAuthorizationService.assertActiveMember_each (fun _ ↦ rfl) fun _ ↦ rfl)
        htrivial).mono fun _ _ _ ↦ ?_))
    refine Call.heeds_bind (Call.heeds_writes (fun _ ↦ trivial) fun env db db' m hdb _ h ↦
      ⟨?_, trivial, ?_⟩)
    · obtain ⟨f, hrewritten, hf, hfree⟩ := meetupJoined_timed h
      exact hdb.rewritten hrewritten fun m hm hfits ↦ (hf m).constrained hfits (hfree m hm)
    · exact Call.heeds_bind (Call.heeds_reads (fun _ ↦ trivial) fun _ _ _ _ ↦ trivial)
  | leave communityId meetupId userId =>
    refine Call.heeds_map (Call.heeds_bind ((Call.heeds_reader
      (CommunityAuthorizationService.assertActiveMember_each (fun _ ↦ rfl) fun _ ↦ rfl)
        htrivial).mono fun _ _ _ ↦ ?_))
    refine Call.heeds_bind (Call.heeds_reads (fun _ ↦ trivial) fun _ _ _ _ ↦ ?_)
    refine Call.heeds_bind (Call.heeds_returned fun _ _ ↦ ?_)
    refine Call.heeds_bind (Call.heeds_returned fun _ _ ↦ ?_)
    refine Call.heeds_bind (Call.heeds_reads (fun _ ↦ trivial) fun _ _ _ _ ↦ ?_)
    refine Call.heeds_bind (Call.heeds_returned fun _ _ ↦ ?_)
    refine Call.heeds_bind (Call.heeds_writes (fun _ ↦ trivial) fun env db db' u hdb _ h ↦
      ⟨?_, trivial, trivial⟩)
    obtain ⟨f, hrewritten, hf⟩ := meetupLeft_timed h
    refine hdb.rewritten hrewritten fun m _ hfits ↦ (hf m).constrained hfits fun limit hlimit ↦ ?_
    have hroom := hfits.room limit hlimit
    omega
  | update communityId meetupId userId userRoles dto =>
    refine Call.heeds_map (Call.heeds_bind (Call.heeds_reads (fun _ ↦ trivial) fun _ _ _ _ ↦ ?_))
    refine Call.heeds_bind (Call.heeds_returned fun meetup _ ↦ ?_)
    refine Call.heeds_bind ((Call.heeds_reader
      (assertCanChange_each (G := fun _ db db' ↦ db' = db) (fun _ _ ↦ rfl) meetup) htrivial).mono
        fun _ _ _ ↦ ?_)
    refine Call.heeds_bind (Call.heeds_writes (fun _ ↦ trivial) fun env db db' a hdb hok h ↦
      ⟨?_, trivial, trivial⟩)
    obtain ⟨f, hrewritten, hf⟩ := meetupUpdate_merged h
    refine hdb.rewritten hrewritten fun m hm _ ↦ ?_
    have hmerged := hok.2 rfl m hm
    rw [hdb.kept] at hmerged
    exact (hf m).constrained hmerged fun limit hlimit ↦
      le_of_eq_of_le (add_zero _) (hmerged.room limit hlimit)
  | cancel communityId meetupId userId userRoles client =>
    refine Call.heeds_map (Call.heeds_bind (Call.heeds_reads (fun _ ↦ trivial) fun _ _ _ _ ↦ ?_))
    refine Call.heeds_bind (Call.heeds_returned fun meetup _ ↦ ?_)
    refine Call.heeds_bind ((Call.heeds_reader
      (assertCanChange_each (G := fun _ db db' ↦ db' = db) (fun _ _ ↦ rfl) meetup) htrivial).mono
        fun _ _ _ ↦ ?_)
    refine Call.heeds_bind (Call.heeds_writes (fun _ ↦ trivial) fun env db db' u hdb _ h ↦
      ⟨?_, trivial, trivial⟩)
    obtain ⟨f, hrewritten, hf⟩ := meetupCancelled_timed h
    exact hdb.rewritten hrewritten fun m _ hfits ↦ (hf m).constrained hfits fun limit hlimit ↦
      le_of_eq_of_le (add_zero _) (hfits.room limit hlimit)

def ConstrainedAtFirst (events : Table Events.Event) (p : Pool SocialDb MeetupTask) : Prop :=
  p.threads = [] ∧ MeetupsFit events p.shared

/-- As long as every update leaves its meetup constrained, all meetups are, whether calls are in
flight or not. -/
theorem meetups_constrained {p : Pool SocialDb MeetupTask}
    (h : Reach meetupCalls.Step (Heeding fun op _ label db ↦ op.Admitted ∧ op.Fits label db)
      (ConstrainedAtFirst events) p) :
    ∀ m ∈ p.shared.communityMeetups.rows, (∀ endsAt ∈ m.endsAt, m.startsAt < endsAt) ∧
      (∃ e ∈ events.get? m.eventId,
        e.startsAt ≤ m.startsAt ∧ m.startsAt ≤ e.endsAt + 7 * 24 * 60 * 60 * 1000) ∧
      ∀ limit ∈ m.participantLimit, m.participantCount ≤ limit := by
  have hfits := (heedful_reach (I := fun _ ↦ True) runs_meetups_fit
    (fun p hp ↦ ⟨⟨hp.2, by simp [hp.1]⟩, trivial⟩) (fun _ _ _ _ _ _ ↦ trivial) h).1.shared
  intro m hm
  obtain ⟨hends, hstarts, hroom⟩ := hfits.constrained m hm
  exact ⟨hends, hstarts, hroom⟩

end Runs

section Sample

/-- A meetup for two, in the time of its event. -/
def breakfastDb : SocialDb :=
  { socialDb with
    communityMeetups := .singleton (newMeetup "meetup-1" "community-1" "event-1" "user-1"
      { title := "Breakfast"
        description := "Before the first session"
        startsAt := some 150
        endsAt := some (some 160)
        location := "Lobby"
        mapUrl := none
        participantLimit := some 2 } 150 (some 160) 0)
    communityMeetupParticipants := .singleton ⟨"participant-1", "meetup-1", "user-1"⟩ }

/-- The creator moves the end of the meetup. -/
def reschedule (endsAt : Time) : MeetupOp := .update "community-1" "meetup-1" "user-1" []
  { UpdateMeetupDto.empty with endsAt := some (some (some endsAt)) }

theorem breakfastDb_constrained : ConstrainedAtFirst breakfastDb.events ⟨breakfastDb, []⟩ :=
  ⟨rfl, rfl, by decide⟩

/-- The second member joins, and the meetup is made longer. -/
theorem breakfast_extended : ∃ p : Pool SocialDb MeetupTask,
    (p.shared.communityMeetups.rows.map fun m ↦ (m.endsAt, m.participantCount)) = [(some 170, 2)] ∧
    ∀ m ∈ p.shared.communityMeetups.rows, (∀ endsAt ∈ m.endsAt, m.startsAt < endsAt) ∧
      (∃ e ∈ breakfastDb.events.get? m.eventId,
        e.startsAt ≤ m.startsAt ∧ m.startsAt ≤ e.endsAt + 7 * 24 * 60 * 60 * 1000) ∧
      ∀ limit ∈ m.participantLimit, m.participantCount ≤ limit := by
  have hrun : (meetupCalls.play (meets fun op _ label db ↦ op.Admitted ∧ op.Fits label db)
      (requests 0 3 "a" ++ requests 1 2 "b") ⟨breakfastDb,
        ([.join "community-1" "meetup-1" "user-2", reschedule 170] : List MeetupOp).map fun op ↦
          ⟨op, [], op.runs⟩⟩).any (fun p ↦
            (p.shared.communityMeetups.rows.map fun m ↦ (m.endsAt, m.participantCount)) ==
              [(some 170, 2)]) = true := by
    decide +kernel
  obtain ⟨p, hp, htest⟩ := (Option.any_eq_true ..).mp hrun
  exact ⟨p, beq_iff_eq.mp htest, meetups_constrained
    (reach_tasks (fun _ _ _ h ↦ meets_sound h) breakfastDb_constrained hp)⟩

/-- An update lets the meetup end before it starts. -/
theorem ends_before_start : ∃ p : Pool SocialDb MeetupTask,
    Reach meetupCalls.Step (Heeding fun op _ _ _ ↦ op.Admitted) (ConstrainedAtFirst breakfastDb.events) p ∧
      ¬ ∀ m ∈ p.shared.communityMeetups.rows, (∀ endsAt ∈ m.endsAt, m.startsAt < endsAt) ∧
        (∃ e ∈ breakfastDb.events.get? m.eventId,
          e.startsAt ≤ m.startsAt ∧ m.startsAt ≤ e.endsAt + 7 * 24 * 60 * 60 * 1000) ∧
        ∀ limit ∈ m.participantLimit, m.participantCount ≤ limit := by
  have hrun : (meetupCalls.play (meets fun op _ _ _ ↦ op.Admitted) (requests 0 2 "a")
      ⟨breakfastDb, [reschedule 140].map fun op ↦ ⟨op, [], op.runs⟩⟩).any (fun p ↦
        p.shared.communityMeetups.rows.any fun m ↦ m.endsAt == some 140 && m.startsAt == 150) = true := by
    decide +kernel
  obtain ⟨p, hp, htest⟩ := (Option.any_eq_true ..).mp hrun
  obtain ⟨m, hm, htimes⟩ := List.any_eq_true.mp htest
  obtain ⟨hends, hstarts⟩ := Bool.and_eq_true_iff.mp htimes
  refine ⟨p, reach_tasks (fun _ _ _ h ↦ meets_sound h) breakfastDb_constrained hp, fun hall ↦ ?_⟩
  have hless := (hall m hm).1 140 (beq_iff_eq.mp hends)
  rw [beq_iff_eq.mp hstarts] at hless
  exact absurd hless (by decide)

end Sample

end Innovents.Communities.Social
