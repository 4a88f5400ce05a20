import Innovents.Payments.Calls

namespace Innovents.Communities

open Innovents.Lib Innovents.Payments

namespace CommunitySponsorshipExpirationService

/-- `status: ACTIVE, endsAt: { lte: now }` -/
def isPast (now : Time) (s : CommunitySponsorship) : Bool :=
  s.status == .active && s.endsAt.any (· ≤ now)

/-- The sponsorships that are past their end, with their communities. -/
def expiredList (now : Time) (db : Db) : Except Err (List (CommunitySponsorship × Community)) :=
  (db.communitySponsorships.rows.filter (isPast now)).mapM fun s ↦ do
    let community ← found (db.communities.get? s.communityId) .validation
    return (s, community)

def expiredPayload (s : CommunitySponsorship) (community : Community) : List (String × JsValue) :=
  [("userId", .str s.userId), ("communityId", .str s.communityId),
    ("communityName", .str community.name), ("sponsorshipId", .str s.id)]

/-- The transaction that expires one sponsorship. -/
def expire (now : Time) (s : CommunitySponsorship) (community : Community) (env : Env) (db : Db) :
    Except Err (Db × Unit) := do
  let db ← endSponsorship .expired now s db
  let db ← enqueue env.outboxId env.now "COMMUNITY_SPONSORSHIP" s.id
    "COMMUNITY_SPONSORSHIP_EXPIRED" (expiredPayload s community) db
  return (db, ())

/-- The `for` loop over the sponsorships that were found. -/
def expireAll (now : Time) : List (CommunitySponsorship × Community) → ℕ → Service ℕ
  | [], count => pure count
  | (s, community) :: rest, count => do
    execute "$transaction" (expire now s community)
    logAudit
      { actorUserId := .str s.userId
        action := "COMMUNITY_SPONSORSHIP_EXPIRED"
        resourceType := "COMMUNITY_SPONSORSHIP"
        resourceId := s.id
        metadata := [("communityId", .str s.communityId),
          ("endsAt", s.endsAt.elim .undefined .date)] }
    expireAll now rest (count + 1)

def sweepExpiredSponsorships : Service ℕ := do
  let (now, expired) ← query "communitySponsorship.findMany" fun env db ↦ do
    let expired ← expiredList env.now db
    return (env.now, expired)
  expireAll now expired 0

/-- What a statement of a sweep that started at `now` writes. -/
inductive SweepWrite (now : Time) (db db' : Db) : Prop
  | logged : db' = { db with auditLogs := db'.auditLogs } → SweepWrite now db db'
  | expired {s : CommunitySponsorship} {db₁ : Db} : Ended .expired now s db db₁ →
      db' = { db₁ with outboxEvents := db'.outboxEvents } → SweepWrite now db db'

theorem expireAll_writes (now : Time) (expired : List (CommunitySponsorship × Community))
    (count : ℕ) : (expireAll now expired count).Each fun _ ↦ SweepWrite now := by
  induction expired generalizing count with
  | nil => trivial
  | cons e expired ih =>
    obtain ⟨s, community⟩ := e
    have hrefl (l : Request) (db : Db) : SweepWrite now db db := .logged rfl
    unfold expireAll
    refine Call.each_bind (each_execute hrefl fun env db db' _ h ↦ ?_) fun _ ↦ ?_
    · simp only [expire, bind_eq_ok, endSponsorship_eq_ok, enqueue_eq_ok, pure_eq_ok,
        Prod.mk.injEq] at h
      obtain ⟨db₁, hended, _, ⟨t, _, rfl⟩, rfl, _⟩ := h
      exact .expired hended rfl
    · exact Call.each_bind (each_logAudit fun _ _ _ ↦ .logged rfl) fun _ ↦ ih _

theorem sweep_writes :
    sweepExpiredSponsorships.Each fun _ db db' ↦ ∃ now, SweepWrite now db db' := by
  refine Call.each_bind (each_query fun _ db ↦ ⟨0, .logged rfl⟩) fun ⟨now, expired⟩ ↦ ?_
  exact (expireAll_writes now expired 0).mono fun _ _ _ h ↦ ⟨now, h⟩

/-- What a statement of a sweep that runs alone writes: a sponsorship that is ended is
the one that was read. -/
inductive Swept (now : Time) (db db' : Db) : Prop
  | logged : db' = { db with auditLogs := db'.auditLogs } → Swept now db db'
  | expired {s : CommunitySponsorship} {db₁ : Db} :
      (∃ r ∈ db.communitySponsorships.rows, r.id = s.id ∧ r.communityId = s.communityId) →
      Ended .expired now s db db₁ → db' = { db₁ with outboxEvents := db'.outboxEvents } →
      Swept now db db'

/-- The sponsorships still to be expired are where they were read. -/
def StillThere (expired : List (CommunitySponsorship × Community)) (db : Db) : Prop :=
  ∀ e ∈ expired, ∃ r ∈ db.communitySponsorships.rows,
    r.id = e.1.id ∧ r.communityId = e.1.communityId

theorem StillThere.ended {expired : List (CommunitySponsorship × Community)} {db db' : Db}
    {status : CommunitySponsorshipStatus} {id : String} (h : StillThere expired db)
    (hrows : db'.communitySponsorships.rows =
      Table.updateRows id (·.withStatus status) db.communitySponsorships.rows) :
    StillThere expired db' := by
  intro e he
  obtain ⟨r, hr, hid, hcommunity⟩ := h e he
  rw [hrows]
  by_cases hk : Row.id r = id
  · exact ⟨r.withStatus status, Table.mem_updateRows.mpr (.inl ⟨r, hr, hk, rfl⟩), hid, hcommunity⟩
  · exact ⟨r, Table.mem_updateRows.mpr (.inr ⟨hr, hk⟩), hid, hcommunity⟩

section Alone

variable {ok : Env → Prop} {J : Db → Prop} {now : Time} {db db' : Db} {r : Except Err ℕ}

theorem expireAll_ran (hJ : ∀ db db', J db → Swept now db db' → J db')
    {expired : List (CommunitySponsorship × Community)} {count : ℕ}
    (h : (expireAll now expired count).Ran ok db r db') (hdb : J db)
    (hthere : StillThere expired db) : J db' := by
  induction expired generalizing count db with
  | nil =>
    rw [(Call.ran_returned.mp h).2]
    exact hdb
  | cons e expired ih =>
    obtain ⟨s, community⟩ := e
    have hrest : StillThere expired db := fun e he ↦ hthere e (List.mem_cons_of_mem _ he)
    unfold expireAll at h
    rcases Call.ran_bind.mp h with ⟨x, h, _⟩ | ⟨_, db₁, h, hcont⟩
    · obtain ⟨env, _, hr, rfl⟩ := Call.ran_perform.mp h
      cases he : expire now s community env db with
      | ok q => rw [he] at hr; cases hr
      | error err => exact hdb
    · obtain ⟨env, _, hr, rfl⟩ := Call.ran_perform.mp h
      cases he : expire now s community env db with
      | error err => rw [he] at hr; cases hr
      | ok q =>
        rw [he] at hcont
        have hexpire := he
        simp only [expire, bind_eq_ok, endSponsorship_eq_ok, enqueue_eq_ok, pure_eq_ok] at hexpire
        obtain ⟨db₂, hended, _, ⟨t, _, rfl⟩, rfl⟩ := hexpire
        have hswept : Swept now db { db₂ with outboxEvents := t } :=
          .expired (hthere _ (List.mem_cons_self ..)) hended rfl
        have hrows : ({ db₂ with outboxEvents := t } : Db).communitySponsorships.rows = _ :=
          hended.sponsorships
        rcases Call.ran_bind.mp hcont with ⟨x, hlog, _⟩ | ⟨_, db₃, hlog, hcont⟩
        · obtain ⟨logs, rfl⟩ := logAudit_ran hlog
          exact hJ _ _ (hJ _ _ hdb hswept) (.logged rfl)
        · obtain ⟨logs, rfl⟩ := logAudit_ran hlog
          exact ih hcont (hJ _ _ (hJ _ _ hdb hswept) (.logged rfl)) (hrest.ended hrows)

/-- A sweep that runs alone keeps what its statements keep, with a clock that has been read. -/
theorem sweep_ran (hJ : ∀ env db db', ok env → J db → Swept env.now db db' → J db')
    (h : sweepExpiredSponsorships.Ran ok db r db') (hdb : J db) : J db' := by
  rcases Call.ran_bind.mp h with ⟨x, h, _⟩ | ⟨⟨now, expired⟩, db₁, h, hrest⟩
  · obtain ⟨_, _, _, rfl⟩ := Call.ran_ask.mp h
    exact hdb
  · obtain ⟨env, hok, hr, rfl⟩ := Call.ran_ask.mp h
    have hread := hr.symm
    simp only [bind_eq_ok, pure_eq_ok, Prod.mk.injEq] at hread
    obtain ⟨_, hlist, rfl, rfl⟩ := hread
    refine expireAll_ran (fun db db' hd hw ↦ hJ env db db' hok hd hw) hrest hdb fun e he ↦ ?_
    obtain ⟨s, hs, hfound⟩ := mem_of_mapM hlist he
    simp only [bind_eq_ok, pure_eq_ok] at hfound
    obtain ⟨_, _, rfl⟩ := hfound
    exact ⟨s, (List.mem_filter.mp hs).1, rfl, rfl⟩

end Alone

end CommunitySponsorshipExpirationService

end Innovents.Communities
