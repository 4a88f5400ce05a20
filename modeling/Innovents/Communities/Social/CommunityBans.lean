import Innovents.Communities.Social.StatusMoves

namespace Innovents.Communities.Social

open Innovents.Lib Innovents.Auth Innovents.Platform
open Innovents.Payments (Time CommunityMemberRole CommunityMemberStatus)

/-- The transaction of a leave does not find the member banned. -/
def MembershipOp.LeavesUnbanned (op : MembershipOp) (label : String) (db : SocialDb) : Prop :=
  match op with
  | leave userId communityId _ => label = "$transaction" →
    statusOf communityId userId db ≠ some .banned
  | _ => True

instance (op : MembershipOp) (label : String) (db : SocialDb) :
    Decidable (op.LeavesUnbanned label db) :=
  match op with
  | .leave .. => inferInstanceAs (Decidable (_ → _))
  | .create .. | .join .. | .updateRole .. | .banMember .. | .unbanMember .. =>
    inferInstanceAs (Decidable True)

section Calls

variable (communityId userId : String)

def MembershipOp.Joins : MembershipOp → Prop
  | join user community _ _ => community = communityId ∧ user = userId
  | _ => False

def MembershipOp.Bans : MembershipOp → Prop
  | banMember community target _ _ _ => community = communityId ∧ target = userId
  | _ => False

def MembershipOp.Unbans : MembershipOp → Prop
  | unbanMember community target _ _ _ => community = communityId ∧ target = userId
  | _ => False

instance (op : MembershipOp) : Decidable (op.Unbans communityId userId) :=
  match op with
  | .unbanMember .. => inferInstanceAs (Decidable (_ ∧ _))
  | .create .. | .join .. | .leave .. | .updateRole .. | .banMember .. =>
    inferInstanceAs (Decidable False)

/-- The move does not lift the ban of the user. -/
def NoUnban (p : Pool SocialDb MembershipTask) (m : Move MembershipTask AuthEnv) : Prop :=
  ∀ q op, op.Unbans communityId userId → ¬Succeeds MembershipOp.runs p m q op

end Calls

section Runs

open Innovents.Communities.Social.CommunityMembersService
open Innovents.Communities.Social.CommunityAuthorizationService

/-- A request that changes the database is the last one of a call that succeeds. -/
def ChangesLast {α : Type} (_ : AuthEnv) (_ : String) (db db' : SocialDb)
    (r : Option (Except AuthError α)) : Prop :=
  db' = db ∨ ∃ a, r = some (.ok a)

theorem changesLast_map {α β : Type} {c : SocialCall α} {f : α → β} (h : c.Answers ChangesLast) :
    (f <$> c).Answers ChangesLast := by
  refine Call.answers_map (h.mono ?_)
  rintro e l db db' r (hsame | ⟨a, rfl⟩)
  · exact .inl hsame
  · exact .inr ⟨f a, rfl⟩

theorem changesLast_reader {α β : Type} {c : SocialCall α} {f : α → SocialCall β}
    (hc : c.Each fun _ db db' ↦ db' = db) (hf : ∀ a, (f a).Answers ChangesLast) :
    (c.bind f).Answers ChangesLast :=
  Call.answers_reader_bind hc (fun _ _ _ _ ↦ .inl rfl) hf

theorem changesLast_writes {α β : Type} {label : String} {g : AuthEnv → SocialDb → Except AuthError (SocialDb × α)} {f : α → β} :
    ((Call.writes label g).bind fun a ↦ (Call.returned (.ok (f a)) : SocialCall β)).Answers ChangesLast :=
  Call.answers_writes_bind (fun _ _ _ ↦ .inl rfl) (fun _ _ _ a _ ↦ .inr ⟨f a, rfl⟩)
    fun _ ↦ Call.answers_returned

theorem runs_last (op : MembershipOp) : op.runs.Answers ChangesLast := by
  cases op with
  | create userId userRoles dto client =>
    refine changesLast_map (changesLast_reader activeUser_reads fun creator ↦ ?_)
    refine changesLast_reader (Call.each_reads fun _ ↦ rfl) fun event ↦ ?_
    refine changesLast_reader Call.each_returned fun _ ↦ ?_
    exact changesLast_reader Call.each_returned fun _ ↦ changesLast_writes
  | join userId communityId userRoles client =>
    exact changesLast_map (changesLast_reader activeUser_reads fun user ↦ changesLast_writes)
  | leave userId communityId client =>
    refine changesLast_map (changesLast_reader (Call.each_reads fun _ ↦ rfl) fun found ↦ ?_)
    refine changesLast_reader Call.each_returned fun existing ↦ ?_
    exact changesLast_reader Call.each_returned fun _ ↦ changesLast_writes
  | updateRole communityId targetUserId operatorUserId operatorRoles dto client =>
    refine changesLast_map (changesLast_reader (assertCanManageCommunity_each fun _ ↦ rfl) fun _ ↦ ?_)
    refine changesLast_reader Call.each_returned fun _ ↦ ?_
    refine changesLast_reader (Call.each_reads fun _ ↦ rfl) fun found ↦ ?_
    exact changesLast_reader Call.each_returned fun targetMember ↦ changesLast_writes
  | banMember communityId targetUserId operatorUserId operatorRoles client =>
    refine changesLast_map (changesLast_reader
      (assertCanModerateCommunity_each (fun _ ↦ rfl) fun _ ↦ rfl) fun _ ↦ ?_)
    refine changesLast_reader Call.each_returned fun _ ↦ ?_
    refine changesLast_reader (Call.each_reads fun _ ↦ rfl) fun found ↦ ?_
    refine changesLast_reader Call.each_returned fun targetMember ↦ ?_
    exact changesLast_reader Call.each_returned fun _ ↦ changesLast_writes
  | unbanMember communityId targetUserId operatorUserId operatorRoles client =>
    refine changesLast_map (changesLast_reader
      (assertCanModerateCommunity_each (fun _ ↦ rfl) fun _ ↦ rfl) fun _ ↦ ?_)
    refine changesLast_reader (Call.each_reads fun _ ↦ rfl) fun found ↦ ?_
    exact changesLast_reader Call.each_returned fun targetMember ↦ changesLast_writes

/-- What holds of the calls at any time. -/
structure Accounted (p : Pool SocialDb MembershipTask) : Prop where
  heedful : Heedful (fun _ ↦ True) (fun _ ↦ Among MembersStay fun _ _ _ ↦ True) MembershipOp.Moves
    (fun op history _ ↦ op.Settles history) p
  remembered : Remembered MembersStay p
  answering : Answering (fun _ : MembershipOp ↦ ChangesLast) p

variable {p q : Pool SocialDb MembershipTask} {m : Move MembershipTask AuthEnv}
  {communityId userId : String}

theorem Accounted.heeding (hp : Accounted p) (m : Move MembershipTask AuthEnv) :
    Heeding (fun _ : MembershipOp ↦ Among MembersStay fun _ _ _ ↦ True) p m := by
  have hany : Heeding (fun (_ : MembershipOp) _ _ _ ↦ True) p m := by
    cases m with
    | run => exact fun _ _ _ _ ↦ trivial
    | spawn | world => trivial
  exact hp.remembered.heeding hany

theorem Accounted.step (hp : Accounted p) (hs : membershipCalls.Step p m q) : Accounted q where
  heedful := (hp.heedful.step runs_move (hp.heeding m) hs).1
  remembered := hp.remembered.step MembersStay.refl MembersStay.trans runs_stay hs
  answering := hp.answering.step runs_last hs

theorem reach_accounted {ok : Pool SocialDb MembershipTask → Move MembershipTask AuthEnv → Prop}
    (h : Reach membershipCalls.Step ok (fun p ↦ p.threads = []) p) : Accounted p := by
  refine h.invariant (fun p hp ↦ ?_) fun p m q hp _ hs ↦ hp.step hs
  refine ⟨⟨trivial, ?_⟩, ⟨?_, ?_⟩, ?_⟩ <;> simp [hp, Answering]

/-- What a call does to the status of a user when it goes on. -/
theorem Accounted.run {i : ℕ} {env : AuthEnv} {t t' : MembershipTask} (hp : Accounted p)
    (hs : membershipCalls.Step p (.run i env) q) (ht : p.threads[i]? = some t)
    (ht' : q.threads[i]? = some t') :
    (∃ label, t.call.label? = some label ∧
      StatusMove t.op label p.shared q.shared communityId userId) ∧
    (∀ reply status, t'.call = .returned (.ok reply) →
      t.op.target = some ((communityId, userId), status) →
        statusOf communityId userId q.shared = some status) ∧
    (q.shared = p.shared ∨ ∃ reply, t'.call = .returned (.ok reply)) := by
  obtain ⟨-, label, hlabel, -, hmoves, hsettles⟩ := hp.heedful.run (hp.heeding _) hs ht ht'
  obtain ⟨-, _, -, hlast⟩ := hp.answering.run hs ht ht'
  refine ⟨⟨label, hlabel, hmoves communityId userId⟩, fun reply status hreply htarget ↦ ?_, ?_⟩
  · rw [hreply] at hsettles
    exact hsettles communityId userId status htarget _ History.last_concat
  · simpa only [ChangesLast, Call.result?_eq_some] using hlast

/-- A user is banned after the success of a ban. -/
theorem Accounted.banned {op : MembershipOp} (hp : Accounted p)
    (hs : Succeeds MembershipOp.runs p m q op) (hop : op.Bans communityId userId) :
    statusOf communityId userId q.shared = some .banned := by
  obtain ⟨hstep, i, env, t, t', reply, rfl, ht, ht', rfl, hreply⟩ := hs
  refine (hp.run hstep ht ht').2.1 reply .banned hreply ?_
  cases hcase : t.op with
  | banMember community target operatorUserId operatorRoles client =>
    rw [hcase] at hop
    obtain ⟨rfl, rfl⟩ := hop
    rfl
  | _ =>
    rw [hcase] at hop
    exact hop.elim

/-- A banned user does not join. -/
theorem Accounted.not_joined {op : MembershipOp} (hp : Accounted p)
    (hbanned : statusOf communityId userId p.shared = some .banned)
    (hop : op.Joins communityId userId) : ¬Succeeds MembershipOp.runs p m q op := by
  rintro ⟨hstep, i, env, t, t', reply, rfl, ht, ht', rfl, hreply⟩
  obtain ⟨⟨label, -, hmove⟩, hsettles, -⟩ := hp.run hstep ht ht'
  have htarget : t.op.target = some ((communityId, userId), .active) := by
    cases hcase : t.op with
    | join user community userRoles client =>
      rw [hcase] at hop
      obtain ⟨rfl, rfl⟩ := hop
      rfl
    | _ =>
      rw [hcase] at hop
      exact hop.elim
  have hactive := hsettles reply .active hreply htarget
  cases hmove with
  | stayed hsame =>
    rw [hactive, hbanned] at hsame
    cases hsame
  | founded hnone =>
    rw [hbanned] at hnone
    cases hnone
  | moved status _ htarget' _ hold =>
    cases htarget.symm.trans htarget'
    cases hold rfl .banned hbanned

/-- A ban stays, if no leave finds the member banned and no success of an operation lifts it. -/
theorem Accounted.stays_banned (hp : Accounted p)
    (hbanned : statusOf communityId userId p.shared = some .banned)
    (hleave : Heeding (fun op _ ↦ op.LeavesUnbanned) p m) (hunban : NoUnban communityId userId p m)
    (hs : membershipCalls.Step p m q) : statusOf communityId userId q.shared = some .banned := by
  have hstep := hs
  cases hs with
  | spawn => exact hbanned
  | world hw => exact hw.elim
  | @run i env t t' db' hi hcall =>
    have hi' : (p.threads.set i t')[i]? = some t' :=
      List.getElem?_set_self (List.getElem?_eq_some_iff.mp hi).1
    obtain ⟨⟨label, hlabel, hmove⟩, -, hlast⟩ := hp.run hstep hi hi'
    cases hmove with
    | stayed hsame => exact hsame.trans hbanned
    | founded hnone =>
      rw [hbanned] at hnone
      cases hnone
    | moved status htransaction htarget hstatus hold =>
      subst htransaction
      have hmeets := hleave t _ hi hlabel
      cases hcase : t.op with
      | create | updateRole =>
        rw [hcase] at htarget
        cases htarget
      | join user community userRoles client =>
        rw [hcase] at htarget
        cases htarget
        cases hold rfl .banned hbanned
      | leave user community client =>
        rw [hcase] at htarget hmeets
        cases htarget
        exact absurd hbanned (hmeets rfl)
      | banMember community target operatorUserId operatorRoles client =>
        rw [hcase] at htarget
        cases htarget
        exact hstatus
      | unbanMember community target operatorUserId operatorRoles client =>
        rw [hcase] at htarget
        cases htarget
        rcases hlast with hsame | ⟨reply, hreply⟩
        · rw [hsame]
          exact hbanned
        · exact (hunban _ _ (show MembershipOp.Unbans _ _ (.unbanMember ..) from ⟨rfl, rfl⟩)
            ⟨hstep, i, env, t, t', reply, rfl, hi, hi', hcase, hreply⟩).elim

/-- As long as no leave finds the member banned, a ban holds until the success of an operation that
lifts it. -/
theorem ban_holds {p' : Pool SocialDb MembershipTask} {op : MembershipOp}
    (h : Reach membershipCalls.Step (fun _ _ ↦ True) (fun p ↦ p.threads = []) p)
    (hban : op.Bans communityId userId) (hs : Succeeds MembershipOp.runs p m p' op)
    (hq : Reach membershipCalls.Step
      (fun r m ↦ Heeding (fun op _ ↦ op.LeavesUnbanned) r m ∧ NoUnban communityId userId r m)
      (fun r ↦ r = p') q) :
    statusOf communityId userId q.shared = some .banned ∧
      ∀ m q' op, op.Joins communityId userId → ¬Succeeds MembershipOp.runs q m q' op := by
  have hp := reach_accounted h
  have hstands : Accounted q ∧ statusOf communityId userId q.shared = some .banned := by
    refine hq.invariant (I := fun r ↦ Accounted r ∧ statusOf communityId userId r.shared = some .banned)
      ?_ fun r m r' ⟨hr, hbanned⟩ ⟨hleave, hunban⟩ hs ↦ ?_
    · rintro r rfl
      exact ⟨hp.step hs.1, hp.banned hs hban⟩
    · exact ⟨hr.step hs, hr.stays_banned hbanned hleave hunban hs⟩
  exact ⟨hstands.2, fun m q' op hop ↦ hstands.1.not_joined hstands.2 hop⟩

end Runs

section Sample

/-- The calls with the operations, none of which has begun, in a community of two members. -/
def callsOf (ops : List MembershipOp) : Pool SocialDb MembershipTask :=
  ⟨socialDb, ops.map fun op ↦ ⟨op, [], op.runs⟩⟩

theorem reach_callsOf {ops : List MembershipOp} {moves : List (ℕ × AuthEnv)}
    {p : Pool SocialDb MembershipTask}
    (hp : membershipCalls.play (fun _ _ _ ↦ true) moves (callsOf ops) = some p) :
    Reach membershipCalls.Step (fun _ _ ↦ True) (fun p ↦ p.threads = []) p ∧
      p.threads.map (·.op) = ops := by
  have hreach : Reach (tasks MembershipOp.runs).Step (Heeding fun _ _ _ _ ↦ True)
      (fun p ↦ p.threads = []) p := reach_tasks (fun _ _ _ _ _ _ _ _ ↦ trivial) rfl hp
  refine ⟨hreach.mono fun _ _ _ ↦ trivial, (play_ops hp).trans ?_⟩
  rw [callsOf, List.map_map]
  exact List.map_id ops

/-- A check of the moves for one that could lift the ban of the second member. -/
def leavesBan (p : Pool SocialDb MembershipTask) (i : ℕ) (_ : AuthEnv) : Bool :=
  p.threads[i]?.all fun t ↦ !decide (t.op.Unbans "community-1" "user-2")

theorem leavesBan_sound {p : Pool SocialDb MembershipTask} {i : ℕ} {env : AuthEnv}
    (h : leavesBan p i env = true) : NoUnban "community-1" "user-2" p (.run i env) := by
  rintro q op hop ⟨-, j, env', t, t', reply, hm, ht, -, rfl, -⟩
  cases hm
  rw [leavesBan, ht, Option.all_some, Bool.not_eq_true', decide_eq_false_iff_not] at h
  exact h hop

/-- The member is banned, and can neither leave nor join after that. -/
theorem banned_for_good : ∃ (p p' q : Pool SocialDb MembershipTask) (m : Move MembershipTask AuthEnv),
    Succeeds MembershipOp.runs p m p' banning ∧ q.threads.all (·.call.label?.isNone) = true ∧
    statusOf "community-1" "user-2" q.shared = some .banned ∧
      ∀ m q' op, op.Joins "community-1" "user-2" → ¬Succeeds MembershipOp.runs q m q' op := by
  have hrun : (membershipCalls.play (fun _ _ _ ↦ true) (requests 0 2 "a")
      (callsOf [banning, joining, leaving])).any (fun p ↦
        (membershipCalls.play (fun _ _ _ ↦ true) (requests 0 1 "b") p).any fun p' ↦
          succeeded p' 0 && (membershipCalls.play (fun r i env ↦
            meets (fun op _ ↦ op.LeavesUnbanned) r i env && leavesBan r i env)
              (requests 1 2 "c" ++ requests 2 1 "d") p').any fun q ↦
                q.threads.all (·.call.label?.isNone)) = true := by
    decide +kernel
  simp only [Option.any_eq_true, Bool.and_eq_true] at hrun
  obtain ⟨p, hp, p', hp', hbanned, q, hq, hdone⟩ := hrun
  obtain ⟨hreach, hops⟩ := reach_callsOf hp
  have hs : Succeeds MembershipOp.runs p _ p' banning :=
    succeeds_play hp' (by rw [hops]; rfl) hbanned
  have hop : banning.Bans "community-1" "user-2" := ⟨rfl, rfl⟩
  refine ⟨p, p', q, _, hs, hdone, ban_holds hreach hop hs ?_⟩
  refine Machine.reach_play (fun r i env hcheck ↦ ?_) (.start rfl) hq
  obtain ⟨hleave, hban⟩ := Bool.and_eq_true_iff.mp hcheck
  exact ⟨meets_sound hleave, leavesBan_sound hban⟩

/-- A leave of the member is under way when the ban succeeds: it takes the ban away, and the member
joins again. -/
theorem ban_overwritten : ∃ (p p' q : Pool SocialDb MembershipTask) (m : Move MembershipTask AuthEnv),
    Reach membershipCalls.Step (fun _ _ ↦ True) (fun p ↦ p.threads = []) p ∧
    Succeeds MembershipOp.runs p m p' banning ∧
    Reach membershipCalls.Step (NoUnban "community-1" "user-2") (fun r ↦ r = p') q ∧
    statusOf "community-1" "user-2" q.shared = some .left ∧
      ∃ m q', Succeeds MembershipOp.runs q m q' joining := by
  have hrun : (membershipCalls.play (fun _ _ _ ↦ true) (requests 0 1 "a" ++ requests 1 2 "b")
      (callsOf [leaving, banning, joining])).any (fun p ↦
        (membershipCalls.play (fun _ _ _ ↦ true) (requests 1 1 "c") p).any fun p' ↦
          succeeded p' 1 &&
            (membershipCalls.play leavesBan (requests 0 1 "d" ++ requests 2 1 "e") p').any fun q ↦
              (statusOf "community-1" "user-2" q.shared == some .left) &&
                (membershipCalls.play (fun _ _ _ ↦ true) (requests 2 1 "f") q).any fun q' ↦
                  succeeded q' 2) = true := by
    decide +kernel
  simp only [Option.any_eq_true, Bool.and_eq_true, beq_iff_eq] at hrun
  obtain ⟨p, hp, p', hp', hbanned, q, hq, hleft, q', hq', hjoined⟩ := hrun
  obtain ⟨hreach, hops⟩ := reach_callsOf hp
  have hqops := (play_ops hq).trans ((play_ops hp').trans hops)
  refine ⟨p, p', q, _, hreach, succeeds_play hp' (by rw [hops]; rfl) hbanned,
    Machine.reach_play (fun _ _ _ ↦ leavesBan_sound) (.start rfl) hq, hleft, _, q',
      succeeds_play hq' (by rw [hqops]; rfl) hjoined⟩

end Sample

end Innovents.Communities.Social
