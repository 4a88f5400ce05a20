import Innovents.Auth.TokenService
import Innovents.Lib.Histories
import Innovents.Lib.Keeping
import Innovents.Lib.Surroundings

namespace Innovents.Auth

open Innovents.Lib Innovents.Payments TokenService

/-- Nobody else changes the tables. -/
def Undisturbed (db db' : AuthDb) : Prop := db' = db

section Rules

variable {α β : Type} {R : AuthDb → AuthDb → Prop} {G : String → AuthDb → AuthDb → Prop}
  {ok : String → AuthEnv → Prop} {name : String} {db : AuthDb}

theorem wpg_finds {f : AuthEnv → AuthDb → α} {post : Except AuthError α → AuthDb → Prop}
    (hG : ∀ db, G name db db)
    (hfault : ∀ db' message, R db db' → post (.error (.fault message)) db')
    (hok : ∀ db' env, R db db' → ok name env → post (.ok (f env db')) db') :
    (finds name f).wpg R G ok post db := by
  intro db' hR env henv
  refine ⟨hG db', ?_⟩
  cases hf : env.fault with
  | some message =>
    simp only [hf, Option.elim_some]
    exact hfault db' message hR
  | none =>
    simp only [hf, Option.elim_none]
    exact hok db' env hR henv

theorem wpg_stores {f : AuthEnv → AuthDb → Except AuthError (AuthDb × α)}
    {post : Except AuthError α → AuthDb → Prop} (hG : ∀ db, G name db db)
    (hfault : ∀ db' message, R db db' → post (.error (.fault message)) db')
    (herror : ∀ db' env x, R db db' → f env db' = .error x → post (.error x) db')
    (hok : ∀ db' env db'' a, R db db' → ok name env → f env db' = .ok (db'', a) →
      G name db' db'' ∧ post (.ok a) db'') : (stores name f).wpg R G ok post db := by
  intro db' hR env henv
  cases hf : env.fault with
  | some message =>
    simp only [hf, Option.elim_some, Call.written]
    exact ⟨hG db', hfault db' message hR⟩
  | none =>
    cases hx : f env db' with
    | error x =>
      simp only [hf, Option.elim_none, hx, Call.written]
      exact ⟨hG db', herror db' env x hR hx⟩
    | ok q =>
      simp only [hf, Option.elim_none, hx, Call.written]
      exact hok db' env q.1 q.2 hR henv hx

/-- When the database answers. -/
theorem wpg_finds_calm {f : AuthEnv → AuthDb → α} {post : Except AuthError α → AuthDb → Prop}
    (hcalm : ∀ env, ok name env → env.fault = none) (hG : ∀ db, G name db db)
    (hok : ∀ db' env, R db db' → ok name env → post (.ok (f env db')) db') :
    (finds name f).wpg R G ok post db := by
  intro db' hR env henv
  refine ⟨hG db', ?_⟩
  simp only [hcalm env henv, Option.elim_none]
  exact hok db' env hR henv

theorem wpg_stores_calm {f : AuthEnv → AuthDb → Except AuthError (AuthDb × α)}
    {post : Except AuthError α → AuthDb → Prop} (hcalm : ∀ env, ok name env → env.fault = none)
    (hok : ∀ db' env, R db db' → ok name env → ∃ db'' a, f env db' = .ok (db'', a) ∧
      G name db' db'' ∧ post (.ok a) db'') : (stores name f).wpg R G ok post db := by
  intro db' hR env henv
  obtain ⟨db'', a, hf, hstep⟩ := hok db' env hR henv
  simp only [hcalm env henv, Option.elim_none, hf, Call.written]
  exact hstep

theorem wpg_log {params : CreateAuditLogParams} {client : Client}
    {post : Except AuthError Unit → AuthDb → Prop}
    (hG : ∀ db t, G params.action db { db with auditLogs := t })
    (hok : ∀ db' t, R db db' → post (.ok ()) { db' with auditLogs := t }) :
    (AuditService.log params client).wpg R G ok post db := by
  intro db' hR env _
  obtain ⟨t, ht⟩ := AuditService.written_frame params client env db'
  rw [ht]
  exact ⟨hG db' t, hok db' t hR⟩

theorem each_finds {f : AuthEnv → AuthDb → α} (hG : ∀ db, G name db db) : (finds name f).Each G :=
  Call.each_ask hG

theorem each_stores {f : AuthEnv → AuthDb → Except AuthError (AuthDb × α)}
    (hG : ∀ db, G name db db)
    (hf : ∀ env db db' a, f env db = .ok (db', a) → G name db db') : (stores name f).Each G := by
  refine Call.each_perform hG fun env db db' a h ↦ ?_
  cases hfault : env.fault with
  | some message => simp [hfault] at h
  | none =>
    rw [hfault, Option.elim_none] at h
    exact hf env db db' a h

theorem each_log {params : CreateAuditLogParams} {client : Client}
    (hG : ∀ db t, G params.action db { db with auditLogs := t }) :
    (AuditService.log params client).Each G := by
  intro env db
  obtain ⟨t, ht⟩ := AuditService.written_frame params client env db
  rw [ht]
  exact ⟨hG db t, trivial⟩

theorem log_bind_step {params : CreateAuditLogParams} {client : Client} {f : Unit → AuthCall α}
    {env : AuthEnv} {db' : AuthDb} {call : AuthCall α}
    (h : ((AuditService.log params client).bind f).step env db = some (db', call)) :
    (∃ t, db' = { db with auditLogs := t }) ∧ call = f () := by
  cases h
  exact ⟨AuditService.written_frame params client env db, rfl⟩

theorem wpg_revokeWhere {p : RefreshToken → Bool} {post : Except AuthError Unit → AuthDb → Prop}
    (hG : ∀ db, G "refreshToken.updateMany" db db)
    (herror : ∀ db' x, R db db' → x.Internal → post (.error x) db')
    (hok : ∀ db' now t, R db db' → db'.refreshTokens.updateMany p (revoke now) = .ok t →
      G "refreshToken.updateMany" db' { db' with refreshTokens := t } ∧
        post (.ok ()) { db' with refreshTokens := t }) :
    (revokeWhere p).wpg R G ok post db := by
  refine wpg_stores hG (fun db' message hR ↦ herror db' _ hR (internal_fault message))
    (fun db' env x hR hx ↦ herror db' x hR ?_) fun db' env db'' a hR _ hx ↦ ?_
  · rcases andThen_eq_error.mp hx with hx | ⟨t, _, hx⟩
    · exact internal_ofRefusal hx
    · cases hx
  · obtain ⟨t, ht, hx⟩ := andThen_eq_ok.mp hx
    cases hx
    exact hok db' env.now t hR (ofRefusal_eq_ok.mp ht)

theorem each_revokeWhere {p : RefreshToken → Bool}
    (hG : ∀ db, G "refreshToken.updateMany" db db)
    (hf : ∀ db now t, db.refreshTokens.updateMany p (revoke now) = .ok t →
      G "refreshToken.updateMany" db { db with refreshTokens := t }) : (revokeWhere p).Each G := by
  refine each_stores hG fun env db db' a h ↦ ?_
  obtain ⟨t, ht, h⟩ := andThen_eq_ok.mp h
  cases h
  exact hf db env.now t (ofRefusal_eq_ok.mp ht)

theorem each_write {f : AuthEnv → List RedisEntry → List RedisEntry}
    (hG : ∀ db entries, G name db { db with redis := entries }) :
    (RedisService.write name f).Each G := by
  refine each_stores (fun db ↦ hG db db.redis) fun env db db' a h ↦ ?_
  by_cases hconnected : env.redisConnected = true
  · rw [if_pos hconnected] at h
    cases h
    exact hG db _
  · rw [if_neg hconnected] at h
    cases h
    exact hG db db.redis

theorem each_blacklist {rt : Runtime} {jtis : List String}
    (hG : ∀ db entries, G "redis.set" db { db with redis := entries }) :
    (blacklistAccessTokenJtis rt jtis).Each G := by
  induction jtis with
  | nil => trivial
  | cons jti jtis ih =>
    refine Call.each_bind (Call.each_attempt (each_write hG)) fun first ↦ ?_
    exact Call.each_bind ih fun _ ↦ trivial

theorem returns_finds {f : AuthEnv → AuthDb → α} {ok : AuthEnv → Prop} {P : α → AuthDb → Prop}
    (h : ∀ env, ok env → P (f env db) db) : (finds name f).Returns ok db P := by
  refine Call.returns_ask fun env a henv ha ↦ ?_
  cases hfault : env.fault with
  | some message => simp [hfault] at ha
  | none =>
    rw [hfault] at ha
    cases ha
    exact h env henv

theorem returns_stores {f : AuthEnv → AuthDb → Except AuthError (AuthDb × α)} {ok : AuthEnv → Prop}
    {P : α → AuthDb → Prop} (h : ∀ env db' a, ok env → f env db = .ok (db', a) → P a db') :
    (stores name f).Returns ok db P := by
  refine Call.returns_perform fun env db' a henv ha ↦ ?_
  cases hfault : env.fault with
  | some message => simp [hfault] at ha
  | none =>
    rw [hfault] at ha
    exact h env db' a henv ha

theorem returns_log {params : CreateAuditLogParams} {client : Client} {ok : AuthEnv → Prop}
    {P : Unit → AuthDb → Prop} (h : ∀ t, P () { db with auditLogs := t }) :
    (AuditService.log params client).Returns ok db P := by
  refine Call.returns_request fun env _ ↦ Call.returns_ok ?_
  obtain ⟨t, ht⟩ := AuditService.written_frame params client env db
  rw [ht]
  exact h t

theorem keeps_finds {f : AuthEnv → AuthDb → α} {J : AuthDb → Prop} {post : α → Prop}
    (h : ∀ env db, J db → post (f env db)) : (finds name f).Keeps J post := by
  refine Call.keeps_ask fun env db a hdb ha ↦ ?_
  cases hfault : env.fault with
  | some message => simp [hfault] at ha
  | none =>
    rw [hfault] at ha
    cases ha
    exact h env db hdb

theorem keeps_stores {f : AuthEnv → AuthDb → Except AuthError (AuthDb × α)} {J : AuthDb → Prop}
    {post : α → Prop} (h : ∀ env db db' a, J db → f env db = .ok (db', a) → J db' ∧ post a) :
    (stores name f).Keeps J post := by
  refine Call.keeps_perform fun env db db' a hdb ha ↦ ?_
  cases hfault : env.fault with
  | some message => simp [hfault] at ha
  | none =>
    rw [hfault] at ha
    exact h env db db' a hdb ha

theorem heeds_finds {f : AuthEnv → AuthDb → α} {J : AuthDb → Prop}
    {met : History String AuthDb → String → AuthDb → Prop}
    {post : History String AuthDb → α → Prop} {history : History String AuthDb}
    (hG : ∀ db, G name db db)
    (h : ∀ env db, J db → met history name db → post (history ++ [(name, db, db)]) (f env db)) :
    (finds name f).Heeds J met G post history := by
  refine Call.heeds_ask hG fun env db a hdb hmet ha ↦ ?_
  cases hfault : env.fault with
  | some message => simp [hfault] at ha
  | none =>
    rw [hfault] at ha
    cases ha
    exact h env db hdb hmet

theorem heeds_stores {f : AuthEnv → AuthDb → Except AuthError (AuthDb × α)} {J : AuthDb → Prop}
    {met : History String AuthDb → String → AuthDb → Prop}
    {post : History String AuthDb → α → Prop} {history : History String AuthDb}
    (hG : ∀ db, G name db db)
    (h : ∀ env db db' a, J db → met history name db → f env db = .ok (db', a) →
      J db' ∧ G name db db' ∧ post (history ++ [(name, db, db')]) a) :
    (stores name f).Heeds J met G post history := by
  refine Call.heeds_perform hG fun env db db' a hdb hmet ha ↦ ?_
  cases hfault : env.fault with
  | some message => simp [hfault] at ha
  | none =>
    rw [hfault] at ha
    exact h env db db' a hdb hmet ha

/-- What a call achieves when nobody disturbs it. -/
theorem ran_of_wp {c : AuthCall α} {ok : AuthEnv → Prop} {post : Except AuthError α → AuthDb → Prop}
    {db' : AuthDb} {r : Except AuthError α} (h : c.wp Undisturbed (fun _ ↦ ok) post db)
    (hr : Call.Ran ok c db r db') : post r db' :=
  Call.wpg_ran h (fun _ ↦ rfl) (fun _ _ h ↦ h) hr

end Rules

end Innovents.Auth
