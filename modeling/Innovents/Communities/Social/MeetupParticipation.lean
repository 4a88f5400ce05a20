import Innovents.Communities.Social.CommunityMeetupsService
import Innovents.Communities.Social.ReplyCounter

namespace Innovents.Communities.Social

open Innovents.Lib Innovents.Auth Innovents.Platform CommunityMeetupsService

inductive MeetupOp
  | create (communityId creatorId : String) (dto : CreateMeetupDto) (client : Client)
  | join (communityId meetupId userId : String)
  | leave (communityId meetupId userId : String)
  | update (communityId meetupId userId : String) (userRoles : List String) (dto : UpdateMeetupDto)
  | cancel (communityId meetupId userId : String) (userRoles : List String) (client : Client)

inductive MeetupAnswer
  | meetup (dto : MeetupResponseDto)
  | message (dto : MessageDto)

def MeetupOp.runs : MeetupOp → SocialCall MeetupAnswer
  | create communityId creatorId dto client =>
    .meetup <$> CommunityMeetupsService.create communityId creatorId dto client
  | join communityId meetupId userId =>
    .meetup <$> CommunityMeetupsService.join communityId meetupId userId
  | leave communityId meetupId userId =>
    .message <$> CommunityMeetupsService.leave communityId meetupId userId
  | update communityId meetupId userId userRoles dto =>
    .meetup <$> CommunityMeetupsService.update communityId meetupId userId userRoles dto
  | cancel communityId meetupId userId userRoles client =>
    .message <$> CommunityMeetupsService.cancel communityId meetupId userId userRoles client

abbrev MeetupTask := Task MeetupOp String AuthEnv SocialDb AuthError MeetupAnswer

def meetupCalls : Machine SocialDb MeetupTask AuthEnv := tasks MeetupOp.runs

/-- How many rows of participants a meetup has. -/
def participants (meetupId : String) (db : SocialDb) : ℕ :=
  db.communityMeetupParticipants.rows.countP fun r ↦ r.meetupId == meetupId

def creatorOf (meetupId : String) (db : SocialDb) : Option String :=
  (db.communityMeetups.get? meetupId).map CommunityMeetup.createdById

def participates (meetupId userId : String) (db : SocialDb) : Prop :=
  ∃ r ∈ db.communityMeetupParticipants.rows, r.meetupId = meetupId ∧ r.userId = userId

/-- Every participant belongs to a meetup, whose number is that of its participants, among them its
creator. -/
structure Participated (db : SocialDb) : Prop where
  tallied : Tallied CommunityMeetupParticipant.meetupId (fun _ ↦ true)
    CommunityMeetup.participantCount db.communityMeetupParticipants db.communityMeetups
  creators : ∀ k, ∀ u ∈ creatorOf k db, participates k u db

/-- A new participant gets an id that no call has seen. -/
def NewIds (p : Pool SocialDb MeetupTask) : Move MeetupTask AuthEnv → Prop
  | .run _ env => ∀ t ∈ p.threads, ∀ event ∈ t.history,
    ∀ r ∈ event.2.1.communityMeetupParticipants.rows,
      r.id ≠ env.idFor p.shared.communityMeetupParticipants
  | .spawn _ | .world => True

def MeetupsAtFirst (p : Pool SocialDb MeetupTask) : Prop :=
  p.threads = [] ∧ Participated p.shared

/-- What the transaction of an operation does to the meetups and their participants. -/
def MeetupOp.Commits (op : MeetupOp) (env : AuthEnv) (db db' : SocialDb) : Prop :=
  match op with
  | create _ creatorId _ _ => ∃ m : CommunityMeetup,
    db.communityMeetups.create m = .ok db'.communityMeetups ∧ m.createdById = creatorId ∧
      m.participantCount = 1 ∧
        db.communityMeetupParticipants.create
          ⟨env.idFor db.communityMeetupParticipants, m.id, creatorId⟩ =
            .ok db'.communityMeetupParticipants
  | join _ meetupId userId =>
    db.communityMeetupParticipants.create
      ⟨env.idFor db.communityMeetupParticipants, meetupId, userId⟩ =
        .ok db'.communityMeetupParticipants ∧
      MeetupChanged meetupId 1 db db' ∧
        ∀ m ∈ db'.communityMeetups.get? meetupId, ∀ limit ∈ m.participantLimit,
          m.participantCount ≤ limit
  | leave _ meetupId _ => ∃ participantId,
    db.communityMeetupParticipants.delete participantId = .ok db'.communityMeetupParticipants ∧
      MeetupChanged meetupId (-1) db db'
  | update _ meetupId _ _ _ | cancel _ meetupId _ _ _ =>
    MeetupChanged meetupId 0 db db' ∧
      db'.communityMeetupParticipants = db.communityMeetupParticipants

/-- A request of the operation reads, or is its transaction. -/
def MeetupOp.Does (op : MeetupOp) (env : AuthEnv) (_ : String) (db db' : SocialDb)
    (_ : Option (Except AuthError MeetupAnswer)) : Prop := db' = db ∨ op.Commits env db db'

/-- Meetups stay, and so do their creators. -/
def CreatorsStay (db db' : SocialDb) : Prop := ∀ k, ∀ u ∈ creatorOf k db, u ∈ creatorOf k db'

/-- A participant that has the id of one of `db` is that one. -/
def SameParticipants (db db' : SocialDb) : Prop :=
  ∀ r ∈ db.communityMeetupParticipants.rows, ∀ r' ∈ db'.communityMeetupParticipants.rows,
    r'.id = r.id → r' = r

section Commits

variable {op : MeetupOp} {env : AuthEnv} {db db' : SocialDb} {meetupId userId k u : String}
  {change : ℤ}

theorem CommunityMeetupsService.MeetupChanged.moved (h : MeetupChanged meetupId change db db') :
    NumberMoved CommunityMeetup.participantCount meetupId change db.communityMeetups
      db'.communityMeetups := by
  obtain ⟨f, hupdate, hf⟩ := h
  exact ⟨f, hupdate, fun m ↦ ⟨(hf m).1, (hf m).2.2⟩⟩

theorem CommunityMeetupsService.MeetupChanged.creatorOf_eq (h : MeetupChanged meetupId change db db') (k : String) :
    creatorOf k db' = creatorOf k db := by
  obtain ⟨f, hupdate, hf⟩ := h
  rw [creatorOf, creatorOf, Table.get?_update hupdate fun m ↦ (hf m).1]
  split_ifs with hk
  · rw [hk, Option.map_map]
    exact congrArg (Option.map · _) (funext fun m ↦ (hf m).2.1)
  · rfl

theorem created_creatorOf {m : CommunityMeetup}
    (h : db.communityMeetups.create m = .ok db'.communityMeetups) (k : String) :
    creatorOf k db' = if m.id = k then some m.createdById else creatorOf k db := by
  rw [creatorOf, creatorOf, Table.get?_create h]
  have hid : Row.id m = m.id := rfl
  rw [hid]
  split_ifs <;> rfl

theorem MeetupOp.Commits.stay (h : op.Commits env db db') : CreatorsStay db db' := by
  have hchanged {meetupId : String} {change : ℤ} (h : MeetupChanged meetupId change db db') :
      CreatorsStay db db' := by
    intro k u hu
    rwa [h.creatorOf_eq k]
  cases op with
  | create communityId creatorId dto client =>
    obtain ⟨m, hm, -⟩ := h
    intro k u hu
    obtain ⟨old, hold, rfl⟩ := Option.map_eq_some_iff.mp hu
    have hne : m.id ≠ k := (Table.get?_create_taken hold hm).1
    rwa [created_creatorOf hm, if_neg hne]
  | join => exact hchanged h.2.1
  | leave =>
    obtain ⟨_, -, hleft⟩ := h
    exact hchanged hleft
  | update => exact hchanged h.1
  | cancel => exact hchanged h.1

/-- There is one participant more, of a new id, or there are none but old ones. -/
theorem MeetupOp.Commits.participants (h : op.Commits env db db') :
    (∃ r : CommunityMeetupParticipant, r.id = env.idFor db.communityMeetupParticipants ∧
      db.communityMeetupParticipants.create r = .ok db'.communityMeetupParticipants) ∨
        ∀ r ∈ db'.communityMeetupParticipants.rows, r ∈ db.communityMeetupParticipants.rows := by
  cases op with
  | create communityId creatorId dto client =>
    obtain ⟨m, -, -, -, hcreate⟩ := h
    exact .inl ⟨_, rfl, hcreate⟩
  | join => exact .inl ⟨_, rfl, h.1⟩
  | leave =>
    obtain ⟨_, hdelete, -⟩ := h
    refine .inr fun r hr ↦ ?_
    rw [(Table.delete_eq_ok.mp hdelete).2] at hr
    exact (List.mem_filter.mp hr).1
  | update => exact .inr fun r hr ↦ h.2 ▸ hr
  | cancel => exact .inr fun r hr ↦ h.2 ▸ hr

theorem MeetupOp.Commits.same (h : op.Commits env db db') : SameParticipants db db' := by
  intro r hr r' hr' hid
  rcases h.participants with ⟨new, -, hcreate⟩ | hold
  · have hkept : r ∈ db'.communityMeetupParticipants.rows := by
      rw [Table.create_eq_ok.mp hcreate]
      exact List.mem_append_left _ hr
    exact Table.eq_of_id _ hr' hkept hid
  · exact Table.eq_of_id _ (hold r' hr') hr hid

/-- What was found before keeps its ids, if a new participant gets a new one. -/
theorem MeetupOp.Commits.same_since (h : op.Commits env db db') {db₀ : SocialDb}
    (hsame : SameParticipants db₀ db) (hnew : ∀ r ∈ db₀.communityMeetupParticipants.rows,
      r.id ≠ env.idFor db.communityMeetupParticipants) : SameParticipants db₀ db' := by
  intro r hr r' hr' hid
  rcases h.participants with ⟨new, hnewId, hcreate⟩ | hold
  · rw [Table.create_eq_ok.mp hcreate] at hr'
    rcases List.mem_append.mp hr' with hr' | hr'
    · exact hsame r hr r' hr' hid
    · rw [List.mem_singleton.mp hr', hnewId] at hid
      exact absurd hid.symm (hnew r hr)
  · exact hsame r hr r' (hold r' hr') hid

theorem Participated.changed (hdb : Participated db) (h : MeetupChanged meetupId 0 db db')
    (hkept : db'.communityMeetupParticipants = db.communityMeetupParticipants) :
    Participated db' := by
  refine ⟨?_, fun k u hu ↦ ?_⟩
  · rw [hkept]
    exact hdb.tallied.kept h.moved
  · rw [h.creatorOf_eq] at hu
    rw [participates, hkept]
    exact hdb.creators k u hu

theorem Participated.created (hdb : Participated db) {m : CommunityMeetup} {id : String}
    (hm : db.communityMeetups.create m = .ok db'.communityMeetups) (hcount : m.participantCount = 1)
    (hrow : db.communityMeetupParticipants.create ⟨id, m.id, m.createdById⟩ =
      .ok db'.communityMeetupParticipants) : Participated db' := by
  refine ⟨hdb.tallied.founded hm hrow rfl hcount, fun k u hu ↦ ?_⟩
  rw [participates, Table.create_eq_ok.mp hrow]
  rw [created_creatorOf hm] at hu
  split_ifs at hu with hk
  · cases hu
    exact ⟨_, List.mem_append_right _ (List.mem_singleton_self _), hk, rfl⟩
  · obtain ⟨r, hr, hkeys⟩ := hdb.creators k u hu
    exact ⟨r, List.mem_append_left _ hr, hkeys⟩

theorem Participated.joined (hdb : Participated db) {id : String}
    (hrow : db.communityMeetupParticipants.create ⟨id, meetupId, userId⟩ =
      .ok db'.communityMeetupParticipants) (h : MeetupChanged meetupId 1 db db') :
    Participated db' := by
  refine ⟨hdb.tallied.created hrow h.moved, fun k u hu ↦ ?_⟩
  rw [h.creatorOf_eq] at hu
  obtain ⟨r, hr, hkeys⟩ := hdb.creators k u hu
  rw [participates, Table.create_eq_ok.mp hrow]
  exact ⟨r, List.mem_append_left _ hr, hkeys⟩

/-- Someone else than the creator leaves. -/
theorem Participated.left (hdb : Participated db) {r : CommunityMeetupParticipant}
    (hrow : db.communityMeetupParticipants.delete r.id = .ok db'.communityMeetupParticipants)
    (hr : r ∈ db.communityMeetupParticipants.rows) (hcreator : r.userId ∉ creatorOf r.meetupId db)
    (h : MeetupChanged r.meetupId (-1) db db') : Participated db' := by
  refine ⟨hdb.tallied.deleted hrow (Table.get?_eq_some.mpr ⟨hr, rfl⟩) h.moved, fun k u hu ↦ ?_⟩
  rw [h.creatorOf_eq] at hu
  obtain ⟨a, ha, rfl, rfl⟩ := hdb.creators k u hu
  rw [participates, (Table.delete_eq_ok.mp hrow).2]
  refine ⟨a, List.mem_filter.mpr ⟨ha, ?_⟩, rfl, rfl⟩
  have hne : Row.id a ≠ r.id := by
    intro hid
    rw [Table.eq_of_id _ ha hr hid] at hu
    exact hcreator hu
  simpa using hne

end Commits

section Requests

variable {communityId meetupId userId : String} {userRoles : List String}
  {G : String → SocialDb → SocialDb → Prop}

theorem assertCanChange_each (hG : ∀ label db, G label db db) (meetup : CommunityMeetup) :
    (assertCanChange communityId userId userRoles meetup).Each G := by
  unfold assertCanChange
  split_ifs
  · exact Call.each_returned
  · exact Call.each_bind (CommunityAuthorizationService.assertCanManageCommunity_each (hG _))
      fun _ ↦ Call.each_returned

theorem runs_do (op : MeetupOp) : op.runs.Answers op.Does := by
  have hread : ∀ env label db (r : Option (Except AuthError MeetupAnswer)),
      op.Does env label db db r := fun _ _ _ _ ↦ .inl rfl
  cases op with
  | create communityId creatorId dto client =>
    refine Call.answers_map (Call.answers_reader_bind
      (CommunityAuthorizationService.assertActiveMember_each (fun _ ↦ rfl) fun _ ↦ rfl)
      (fun _ _ _ _ ↦ hread _ _ _ _) fun _ ↦ Call.answers_returned_bind fun startsAt ↦
        Call.answers_returned_bind fun _ ↦ ?_)
    refine Call.answers_reader_bind (Call.each_reads fun _ ↦ rfl) (fun _ _ _ _ ↦ hread _ _ _ _)
      fun event ↦ Call.answers_returned_bind fun _ ↦ ?_
    refine Call.answers_writes_bind (fun _ _ _ ↦ hread _ _ _ _)
      (fun env db db' m h ↦ .inr ⟨m, meetupCreated_eq h⟩) fun m ↦ ?_
    exact Call.answers_reader_bind (Call.each_reads fun _ ↦ rfl) (fun _ _ _ _ ↦ hread _ _ _ _)
      fun _ ↦ Call.answers_returned
  | join communityId meetupId userId =>
    refine Call.answers_map (Call.answers_reader_bind
      (CommunityAuthorizationService.assertActiveMember_each (fun _ ↦ rfl) fun _ ↦ rfl)
      (fun _ _ _ _ ↦ hread _ _ _ _) fun _ ↦ ?_)
    refine Call.answers_writes_bind (fun _ _ _ ↦ hread _ _ _ _)
      (fun env db db' m h ↦ .inr (meetupJoined_eq h)) fun m ↦ ?_
    exact Call.answers_reader_bind (Call.each_reads fun _ ↦ rfl) (fun _ _ _ _ ↦ hread _ _ _ _)
      fun _ ↦ Call.answers_returned
  | leave communityId meetupId userId =>
    refine Call.answers_map (Call.answers_reader_bind
      (CommunityAuthorizationService.assertActiveMember_each (fun _ ↦ rfl) fun _ ↦ rfl)
      (fun _ _ _ _ ↦ hread _ _ _ _) fun _ ↦ ?_)
    refine Call.answers_reader_bind (Call.each_reads fun _ ↦ rfl) (fun _ _ _ _ ↦ hread _ _ _ _)
      fun found ↦ Call.answers_returned_bind fun meetup ↦ Call.answers_returned_bind fun _ ↦ ?_
    refine Call.answers_reader_bind (Call.each_reads fun _ ↦ rfl) (fun _ _ _ _ ↦ hread _ _ _ _)
      fun found ↦ Call.answers_returned_bind fun existing ↦ ?_
    exact Call.answers_writes_bind (fun _ _ _ ↦ hread _ _ _ _)
      (fun env db db' u h ↦ .inr ⟨existing.id, meetupLeft_eq h⟩) fun _ ↦ Call.answers_returned
  | update communityId meetupId userId userRoles dto =>
    refine Call.answers_map (Call.answers_reader_bind (Call.each_reads fun _ ↦ rfl)
      (fun _ _ _ _ ↦ hread _ _ _ _) fun found ↦ Call.answers_returned_bind fun meetup ↦ ?_)
    refine Call.answers_reader_bind (assertCanChange_each
        (G := fun _ db db' ↦ db' = db) (fun _ _ ↦ rfl) meetup)
      (fun _ _ _ _ ↦ hread _ _ _ _) fun _ ↦ ?_
    exact Call.answers_writes_bind (fun _ _ _ ↦ hread _ _ _ _)
      (fun env db db' a h ↦ .inr (meetupUpdate_eq h)) fun _ ↦ Call.answers_returned
  | cancel communityId meetupId userId userRoles client =>
    refine Call.answers_map (Call.answers_reader_bind (Call.each_reads fun _ ↦ rfl)
      (fun _ _ _ _ ↦ hread _ _ _ _) fun found ↦ Call.answers_returned_bind fun meetup ↦ ?_)
    refine Call.answers_reader_bind (assertCanChange_each
        (G := fun _ db db' ↦ db' = db) (fun _ _ ↦ rfl) meetup)
      (fun _ _ _ _ ↦ hread _ _ _ _) fun _ ↦ ?_
    exact Call.answers_writes_bind (fun _ _ _ ↦ hread _ _ _ _)
      (fun env db db' u h ↦ .inr (meetupCancelled_eq h)) fun _ ↦ Call.answers_returned

/-- A call of `leave` deletes the participant of its user, who is not the creator. -/
theorem meetupLeave_heeds : (leave communityId meetupId userId).Heeds Participated
    (Among CreatorsStay fun history _ db ↦ ∀ event ∈ history, SameParticipants event.2.1 db)
      (fun _ _ _ ↦ True) (fun _ _ ↦ True) [] := by
  let foreign (db : SocialDb) : Prop := ∃ u ∈ creatorOf meetupId db, u ≠ userId
  have hstays : ∀ db db', foreign db → CreatorsStay db db' → foreign db' := by
    rintro db db' ⟨u, hu, hne⟩ hstay
    exact ⟨u, hstay meetupId u hu, hne⟩
  refine Call.heeds_bind ((Call.heeds_reader (CommunityAuthorizationService.assertActiveMember_each
    (fun _ ↦ rfl) fun _ ↦ rfl) fun _ _ ↦ trivial).mono fun history _ _ ↦ ?_)
  refine Call.heeds_bind (Call.heeds_reads (fun _ ↦ trivial) fun _ db₀ _ _ ↦ ?_)
  refine Call.heeds_bind (Call.heeds_returned fun meetup hmeetup ↦ ?_)
  refine Call.heeds_bind (Call.heeds_returned fun _ hforeign ↦ ?_)
  obtain ⟨hfound, -⟩ := Option.filter_eq_some_iff.mp (present_eq_ok.mp hmeetup)
  have hsure : History.Sure CreatorsStay foreign
      (history ++ [("communityMeetup.findFirst", db₀, db₀)]) :=
    History.sure_concat hstays ⟨meetup.createdById, by rw [creatorOf, hfound]; rfl,
      demand_eq_ok.mp hforeign⟩
  refine Call.heeds_bind (Call.heeds_reads (fun _ ↦ trivial) fun _ db₁ _ hok₁ ↦ ?_)
  have hforeign₁ : foreign db₁ := hsure db₁ hok₁.2
  refine Call.heeds_bind (Call.heeds_returned fun existing hexisting ↦ ?_)
  refine Call.heeds_bind (Call.heeds_writes (fun _ ↦ trivial) fun env db db' u hdb hok hu ↦
    ⟨?_, trivial, trivial⟩)
  obtain ⟨hmem, hkeys⟩ := Table.find?_mem (present_eq_ok.mp hexisting)
  rw [Bool.and_eq_true, beq_iff_eq, beq_iff_eq] at hkeys
  obtain ⟨rfl, rfl⟩ := hkeys
  obtain ⟨hdelete, hchanged⟩ := meetupLeft_eq hu
  obtain ⟨⟨r, hr, hid⟩, -⟩ := Table.delete_eq_ok.mp hdelete
  have hsame : SameParticipants db₁ db := hok.1 ("communityMeetupParticipant.findUnique", db₁, db₁)
    (by simp)
  obtain rfl := hsame existing hmem r hr hid
  obtain ⟨c, hc, hne⟩ := hstays db₁ db hforeign₁ (hok.2 db₁ History.last_concat)
  refine hdb.left hdelete hr (fun hown ↦ hne ?_) hchanged
  exact (Option.mem_unique hc hown)

theorem runs_participated (op : MeetupOp) : op.runs.Heeds Participated
    (Among CreatorsStay fun history _ db ↦ ∀ event ∈ history, SameParticipants event.2.1 db)
      (fun _ _ _ ↦ True) (fun _ _ ↦ True) [] := by
  have hcommits (h : ∀ env db db', Participated db → op.Commits env db db' → Participated db') :
      op.runs.Heeds Participated
        (Among CreatorsStay fun history _ db ↦ ∀ event ∈ history, SameParticipants event.2.1 db)
          (fun _ _ _ ↦ True) (fun _ _ ↦ True) [] := by
    refine Call.heeds_each (H := fun _ db db' ↦ db' = db ∨ ∃ env, op.Commits env db db')
      ((runs_do op).each fun env _ db db' _ hdo ↦ hdo.imp_right fun h ↦ ⟨env, h⟩)
      (fun _ db db' hdb hdo ↦ ?_) fun _ _ _ _ _ ↦ trivial
    rcases hdo with rfl | ⟨env, hcommit⟩
    · exact hdb
    · exact h env db db' hdb hcommit
  cases op with
  | create communityId creatorId dto client =>
    refine hcommits fun env db db' hdb ⟨m, hm, hcreator, hcount, hrow⟩ ↦ ?_
    exact hdb.created hm hcount (hcreator ▸ hrow)
  | join communityId meetupId userId =>
    exact hcommits fun env db db' hdb ⟨hrow, hchanged, _⟩ ↦ hdb.joined hrow hchanged
  | leave communityId meetupId userId => exact Call.heeds_map meetupLeave_heeds
  | update communityId meetupId userId userRoles dto =>
    exact hcommits fun env db db' hdb ⟨hchanged, hkept⟩ ↦ hdb.changed hchanged hkept
  | cancel communityId meetupId userId userRoles client =>
    exact hcommits fun env db db' hdb ⟨hchanged, hkept⟩ ↦ hdb.changed hchanged hkept

end Requests

section Runs

variable {p q : Pool SocialDb MeetupTask}

theorem participated_of_reach (h : Reach meetupCalls.Step NewIds MeetupsAtFirst p) :
    Participated p.shared := by
  have hrecalls := h.recalling (R := SameParticipants) runs_do (fun _ hp ↦ hp.1)
    (fun op env _ db db' _ hdo ↦ ?_) fun p i env op _ db' _ hnew hdo t ht event hevent hsame ↦ ?_
  · have hheeding : Reach (tasks MeetupOp.runs).Step (Heeding fun _ history _ db ↦
        ∀ event ∈ history, SameParticipants event.2.1 db) MeetupsAtFirst p :=
      hrecalls.mono fun _ _ hok ↦ hok.2
    have hstay (op : MeetupOp) : op.runs.Each fun _ ↦ CreatorsStay := by
      refine (runs_do op).each fun env _ db db' _ hdo ↦ ?_
      rcases hdo with rfl | hcommit
      · exact fun _ _ hu ↦ hu
      · exact hcommit.stay
    have hremember := (hheeding.remember (fun _ _ _ hu ↦ hu)
      (fun a b c hab hbc k u hu ↦ hbc k u (hab k u hu)) hstay fun _ hp ↦ hp.1).1
    exact (heedful_reach (I := fun _ ↦ True) runs_participated
      (fun p hp ↦ ⟨⟨hp.2, by simp [hp.1]⟩, trivial⟩) (fun _ _ _ _ _ _ ↦ trivial) hremember).1.shared
  · rcases hdo with rfl | hcommit
    · exact fun r hr r' hr' hid ↦ Table.eq_of_id _ hr' hr hid
    · exact hcommit.same
  · rcases hdo with rfl | hcommit
    · exact hsame
    · exact hcommit.same_since hsame (hnew t ht event hevent)

/-- In every interleaving, a meetup counts its participants, its creator is one of them, and nobody
joins beyond the limit. -/
theorem meetup_participation (h : Reach meetupCalls.Step NewIds MeetupsAtFirst p) :
    (∀ k, ∀ m ∈ p.shared.communityMeetups.get? k,
      m.participantCount = participants k p.shared ∧ participates k m.createdById p.shared) ∧
    ∀ (i : ℕ) env t communityId meetupId userId, p.threads[i]? = some t →
      t.op = .join communityId meetupId userId → meetupCalls.Step p (.run i env) q →
        q.shared ≠ p.shared → ∀ m ∈ q.shared.communityMeetups.get? meetupId,
          ∀ limit ∈ m.participantLimit, m.participantCount ≤ limit := by
  have hp := participated_of_reach h
  refine ⟨fun k m hm ↦ ⟨?_, hp.creators k m.createdById ?_⟩,
    fun i env t communityId meetupId userId ht hop hs hchanged ↦ ?_⟩
  · have hcount := hp.tallied.tally k m hm
    simp only [counted, Bool.and_true] at hcount
    exact hcount
  · rw [creatorOf, hm]
    rfl
  · have hanswering : Answering MeetupOp.Does p := Reach.answering runs_do (fun _ hp ↦ hp.1) h
    obtain ⟨t', ht'⟩ : ∃ t', q.threads[i]? = some t' := by
      cases hs with
      | run hi => exact ⟨_, List.getElem?_set_self (List.getElem?_eq_some_iff.mp hi).1⟩
    obtain ⟨-, label, -, hdo⟩ := hanswering.run hs ht ht'
    rw [hop] at hdo
    exact (hdo.resolve_left hchanged).2.2

end Runs

section Sample

/-- A meetup for two, in which only its creator takes part. -/
def meetupDb : SocialDb :=
  { socialDb with
    communityMeetups := .singleton (newMeetup "meetup-1" "community-1" "event-1" "user-1"
      { title := "Breakfast"
        description := "Before the first session"
        startsAt := some 0
        endsAt := none
        location := "Lobby"
        mapUrl := none
        participantLimit := some 2 } 0 none 0)
    communityMeetupParticipants := .singleton ⟨"participant-1", "meetup-1", "user-1"⟩ }

def newIds (p : Pool SocialDb MeetupTask) (_ : ℕ) (env : AuthEnv) : Bool :=
  p.threads.all fun t ↦ t.history.all fun event ↦
    event.2.1.communityMeetupParticipants.rows.all fun r ↦
      r.id != env.idFor p.shared.communityMeetupParticipants

theorem newIds_sound (p : Pool SocialDb MeetupTask) (i : ℕ) (env : AuthEnv)
    (h : newIds p i env = true) : NewIds p (.run i env) := by
  intro t ht event hevent r hr
  have hthread := List.all_eq_true.mp h t ht
  have hrow := List.all_eq_true.mp (List.all_eq_true.mp hthread event hevent) r hr
  simpa using hrow

theorem meetupDb_participated : MeetupsAtFirst ⟨meetupDb, []⟩ := by
  refine ⟨rfl, ⟨fun r hr ↦ ?_, fun k m hm ↦ ?_⟩, fun k u hu ↦ ?_⟩
  · rw [List.mem_singleton.mp hr]
    rfl
  · obtain ⟨hmem, hid⟩ := Table.get?_eq_some.mp hm
    rw [List.mem_singleton.mp hmem] at hid ⊢
    rw [← hid]
    decide
  · obtain ⟨m, hm, rfl⟩ := Option.map_eq_some_iff.mp hu
    obtain ⟨hmem, hid⟩ := Table.get?_eq_some.mp hm
    rw [List.mem_singleton.mp hmem] at hid ⊢
    rw [← hid]
    exact ⟨_, List.mem_singleton_self _, rfl, rfl⟩

/-- The second member joins, leaves by two calls at once, and joins again. -/
def coming : List MeetupOp :=
  [.join "community-1" "meetup-1" "user-2", .leave "community-1" "meetup-1" "user-2",
    .leave "community-1" "meetup-1" "user-2", .join "community-1" "meetup-1" "user-2"]

theorem joined_again : ∃ p q : Pool SocialDb MeetupTask, participants "meetup-1" p.shared = 1 ∧
    participants "meetup-1" q.shared = 2 ∧
    (∀ k, ∀ m ∈ p.shared.communityMeetups.get? k,
      m.participantCount = participants k p.shared ∧ participates k m.createdById p.shared) ∧
    ∀ m ∈ q.shared.communityMeetups.get? "meetup-1", ∀ limit ∈ m.participantLimit,
      m.participantCount ≤ limit := by
  have hrun : (meetupCalls.play newIds (requests 0 4 "a" ++ requests 1 4 "b" ++ requests 2 4 "c" ++
      requests 1 1 "d" ++ requests 2 1 "e" ++ requests 3 2 "f")
        ⟨meetupDb, coming.map fun op ↦ ⟨op, [], op.runs⟩⟩).any (fun p ↦
          participants "meetup-1" p.shared == 1 &&
            (meetupCalls.play newIds [(3, sampleEnv 1 "g")] p).any fun q ↦
              participants "meetup-1" q.shared == 2) = true := by
    decide +kernel
  obtain ⟨p, hp, htest⟩ := (Option.any_eq_true ..).mp hrun
  obtain ⟨hone, hrest⟩ := Bool.and_eq_true_iff.mp htest
  obtain ⟨q, hq, htwo⟩ := (Option.any_eq_true ..).mp hrest
  have hstarts : ∀ t ∈ coming.map fun op ↦ (⟨op, [], op.runs⟩ : MeetupTask),
      meetupCalls.start t := by
    intro t ht
    obtain ⟨op, -, rfl⟩ := List.mem_map.mp ht
    exact ⟨op, rfl⟩
  have hreach : Reach meetupCalls.Step NewIds MeetupsAtFirst p :=
    Machine.reach_play newIds_sound
      (Machine.reach_spawnAll (fun _ _ _ ↦ trivial) hstarts (.start meetupDb_participated)) hp
  have hops : (p.threads.map (·.op))[3]? = some (.join "community-1" "meetup-1" "user-2") := by
    rw [play_ops hp]
    rfl
  rw [List.getElem?_map, Option.map_eq_some_iff] at hops
  obtain ⟨t, ht, hop⟩ := hops
  obtain ⟨hcounts, hlimits⟩ := meetup_participation (q := q) hreach
  refine ⟨p, q, beq_iff_eq.mp hone, beq_iff_eq.mp htwo, hcounts,
    hlimits 3 _ t _ _ _ ht hop (Machine.step_play hq) fun hsame ↦ ?_⟩
  rw [hsame, beq_iff_eq.mp hone] at htwo
  cases htwo

end Sample

end Innovents.Communities.Social
