import Innovents.Marketplace.Schema
import Innovents.Lib.Keeping
import Innovents.Lib.Surroundings
import Innovents.Lib.Traces

namespace Innovents.Marketplace

open Innovents.Lib Innovents.Auth

/-- Nobody else changes the tables. -/
def Undisturbed (db db' : MarketDb) : Prop := db' = db

/-- Only the tables of the accounts differ. -/
def SameMarket (db db' : MarketDb) : Prop := ∃ accounts, db' = { db with accounts }

abbrev MarketHistory := History String MarketDb

section Rules

variable {α : Type} {G : String → MarketDb → MarketDb → Prop} {name : String}
  {J : MarketDb → Prop} {met : MarketHistory → String → MarketDb → Prop}
  {history : MarketHistory} {ok : String → AuthEnv → Prop} {db : MarketDb}

theorem elim_fault {fault : Option String} {x : Except AuthError α} {a : α}
    (h : (fault.elim x fun message ↦ .error (.fault message)) = .ok a) : x = .ok a := by
  cases fault with
  | some message => cases h
  | none => exact h

theorem fault_none {fault : Option String} {x : Except AuthError α} {a : α}
    (h : (fault.elim x fun message ↦ .error (.fault message)) = .ok a) : fault = none := by
  cases fault with
  | some message => cases h
  | none => rfl

theorem enqueued_eq_ok {params : CreateOutboxEventParams} {env : AuthEnv} {db' : MarketDb}
    (h : enqueued params env db = .ok db') : SameMarket db db' := by
  obtain ⟨accounts, -, h⟩ := andThen_eq_ok.mp h
  cases h
  exact ⟨accounts, rfl⟩

theorem each_finds {f : AuthEnv → MarketDb → α} (hG : ∀ db, G name db db) :
    (finds name f).Each G := Call.each_ask hG

theorem each_stores {f : AuthEnv → MarketDb → Except AuthError (MarketDb × α)}
    (hG : ∀ db, G name db db) (hf : ∀ env db db' a, f env db = .ok (db', a) → G name db db') :
    (stores name f).Each G :=
  Call.each_perform hG fun env db db' a h ↦ hf env db db' a (elim_fault h)

theorem each_log {params : CreateAuditLogParams} {client : Client}
    (hG : ∀ db accounts, G params.action db { db with accounts }) : (log params client).Each G :=
  fun _ db ↦ ⟨hG db _, trivial⟩

theorem keeps_finds {f : AuthEnv → MarketDb → α} {post : α → Prop}
    (h : ∀ env db, J db → post (f env db)) : (finds name f).Keeps J post := by
  refine Call.keeps_ask fun env db a hdb ha ↦ ?_
  cases elim_fault ha
  exact h env db hdb

theorem keeps_stores {f : AuthEnv → MarketDb → Except AuthError (MarketDb × α)} {post : α → Prop}
    (h : ∀ env db db' a, J db → f env db = .ok (db', a) → J db' ∧ post a) :
    (stores name f).Keeps J post :=
  Call.keeps_perform fun env db db' a hdb ha ↦ h env db db' a hdb (elim_fault ha)

theorem heeds_finds {f : AuthEnv → MarketDb → α} {post : MarketHistory → α → Prop}
    (hG : ∀ db, G name db db)
    (h : ∀ env db, J db → met history name db → post (history ++ [(name, db, db)]) (f env db)) :
    (finds name f).Heeds J met G post history := by
  refine Call.heeds_ask hG fun env db a hdb hmet ha ↦ ?_
  cases elim_fault ha
  exact h env db hdb hmet

theorem heeds_stores {f : AuthEnv → MarketDb → Except AuthError (MarketDb × α)}
    {post : MarketHistory → α → Prop} (hG : ∀ db, G name db db)
    (h : ∀ env db db' a, J db → met history name db → f env db = .ok (db', a) →
      J db' ∧ G name db db' ∧ post (history ++ [(name, db, db')]) a) :
    (stores name f).Heeds J met G post history :=
  Call.heeds_perform hG fun env db db' a hdb hmet ha ↦ h env db db' a hdb hmet (elim_fault ha)

theorem ends_finds {f : AuthEnv → MarketDb → α} {post : MarketHistory → Except AuthError α → Prop}
    (hG : ∀ db, G name db db)
    (hfault : ∀ message db, post (history ++ [(name, db, db)]) (.error (.fault message)))
    (h : ∀ env db, J db → met history name db →
      post (history ++ [(name, db, db)]) (.ok (f env db))) :
    (finds name f).Ends J met G post history := by
  refine Call.ends_ask hG fun env db hdb hmet ↦ ?_
  cases env.fault with
  | some message => exact hfault message db
  | none => exact h env db hdb hmet

theorem ends_stores {f : AuthEnv → MarketDb → Except AuthError (MarketDb × α)}
    {post : MarketHistory → Except AuthError α → Prop} (hG : ∀ db, G name db db)
    (hfault : ∀ message db, post (history ++ [(name, db, db)]) (.error (.fault message)))
    (herror : ∀ env db x, J db → met history name db → f env db = .error x →
      post (history ++ [(name, db, db)]) (.error x))
    (h : ∀ env db db' a, J db → met history name db → f env db = .ok (db', a) →
      J db' ∧ G name db db' ∧ post (history ++ [(name, db, db')]) (.ok a)) :
    (stores name f).Ends J met G post history := by
  refine Call.ends_perform hG (fun env db x hdb hmet hx ↦ ?_) fun env db db' a hdb hmet ha ↦
    h env db db' a hdb hmet (elim_fault ha)
  cases hf : env.fault with
  | some message =>
    rw [hf] at hx
    cases hx
    exact hfault message db
  | none =>
    rw [hf] at hx
    exact herror env db x hdb hmet hx

theorem traces_finds {P : MarketHistory → String → AuthEnv → MarketDb → MarketDb → Prop}
    {f : AuthEnv → MarketDb → α} {post : MarketHistory → α → Prop}
    (hP : ∀ env db, P history name env db db)
    (h : ∀ env db, post (history ++ [(name, db, db)]) (f env db)) :
    (finds name f).Traces P post history := by
  refine Call.traces_ask hP fun env db a ha ↦ ?_
  cases elim_fault ha
  exact h env db

theorem traces_stores {P : MarketHistory → String → AuthEnv → MarketDb → MarketDb → Prop}
    {f : AuthEnv → MarketDb → Except AuthError (MarketDb × α)}
    {post : MarketHistory → α → Prop} (hP : ∀ env db, P history name env db db)
    (h : ∀ env db db' a, f env db = .ok (db', a) →
      P history name env db db' ∧ post (history ++ [(name, db, db')]) a) :
    (stores name f).Traces P post history :=
  Call.traces_perform hP fun env db db' a ha ↦ h env db db' a (elim_fault ha)

theorem ran_finds_ok {ok : AuthEnv → Prop} {db' : MarketDb} {f : AuthEnv → MarketDb → α} {a : α} :
    Call.Ran ok (finds name f) db (.ok a) db' ↔
      ∃ env, ok env ∧ env.fault = none ∧ f env db = a ∧ db' = db := by
  rw [finds, Call.ran_ask]
  constructor
  · rintro ⟨env, henv, ha, rfl⟩
    exact ⟨env, henv, fault_none ha.symm, Except.ok.inj (elim_fault ha.symm), rfl⟩
  · rintro ⟨env, henv, hfault, rfl, rfl⟩
    exact ⟨env, henv, by rw [hfault, Option.elim_none], rfl⟩

theorem ran_stores_ok {ok : AuthEnv → Prop} {db' : MarketDb}
    {f : AuthEnv → MarketDb → Except AuthError (MarketDb × α)} {a : α} :
    Call.Ran ok (stores name f) db (.ok a) db' ↔
      ∃ env, ok env ∧ env.fault = none ∧ f env db = .ok (db', a) := by
  rw [stores, Call.ran_perform]
  constructor
  · rintro ⟨env, henv, ha, rfl⟩
    cases hx : (env.fault.elim (f env db) fun message ↦ .error (.fault message)) with
    | error x =>
      rw [hx] at ha
      cases ha
    | ok q =>
      rw [hx] at ha
      cases ha
      exact ⟨env, henv, fault_none hx, elim_fault hx⟩
  · rintro ⟨env, henv, hfault, ha⟩
    exact ⟨env, henv, by rw [hfault, Option.elim_none, ha]; rfl,
      by rw [hfault, Option.elim_none, ha]; rfl⟩

theorem wp_finds {f : AuthEnv → MarketDb → α} {post : Except AuthError α → MarketDb → Prop}
    (herror : ∀ x, post (.error x) db) (hok : ∀ env, ok name env → post (.ok (f env db)) db) :
    (finds name f).wp Undisturbed ok post db := by
  refine Call.wp_ask fun db' hdb env henv ↦ ?_
  subst hdb
  cases hfault : env.fault with
  | some message => exact herror (.fault message)
  | none => exact hok env henv

theorem wp_stores {f : AuthEnv → MarketDb → Except AuthError (MarketDb × α)}
    {post : Except AuthError α → MarketDb → Prop} (herror : ∀ x, post (.error x) db)
    (hok : ∀ env db' a, ok name env → f env db = .ok (db', a) → post (.ok a) db') :
    (stores name f).wp Undisturbed ok post db := by
  refine Call.wp_perform fun db' hdb env henv ↦ ?_
  subst hdb
  cases hx : (env.fault.elim (f env db') fun message ↦ .error (.fault message)) with
  | error x => exact herror x
  | ok q => exact hok env q.1 q.2 henv (elim_fault hx)

end Rules

theorem SameMarket.refl (db : MarketDb) : SameMarket db db := ⟨db.accounts, rfl⟩

/-- The check of an account only reads. -/
theorem assertActiveUser_reads {userId : String} {requiredRole : Option String}
    {G : String → MarketDb → MarketDb → Prop} (hG : ∀ db, G "user.findFirst" db db) :
    (assertActiveUser userId requiredRole).Each G := by
  refine Call.each_bind (each_finds hG) fun user ↦ ?_
  cases user with
  | none => trivial
  | some user =>
    dsimp only
    split_ifs
    · trivial
    · cases requiredRole.filter (· ∉ user.userRoles) <;> trivial

end Innovents.Marketplace
