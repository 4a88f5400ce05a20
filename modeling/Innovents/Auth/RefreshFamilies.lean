import Innovents.Auth.Statements
import Innovents.Lib.Ownership

namespace Innovents.Auth

open Innovents.Lib Innovents.Payments TokenService

/-- The unrevoked tokens of a family. -/
def live (familyId : String) (t : Table RefreshToken) : ℕ :=
  t.rows.countP fun r ↦ r.revokedAt.isNone && r.familyId == familyId

/-- No row goes away, and a revoked token stays revoked. -/
def Kept (t t' : Table RefreshToken) : Prop :=
  ∀ r ∈ t.rows, ∃ r' ∈ t'.rows, r'.id = r.id ∧ r'.tokenHash = r.tokenHash ∧
    r'.familyId = r.familyId ∧ (r.revokedAt.isSome = true → r'.revokedAt.isSome = true)

/-- What a statement may do: no family that is there gains an unrevoked token. -/
structure Evolves (t t' : Table RefreshToken) : Prop where
  kept : Kept t t'
  live : ∀ f, live f t' ≤ live f t ∨ (∀ r ∈ t.rows, r.familyId ≠ f) ∧ live f t' ≤ 1

/-- What many statements may do: a family without an unrevoked token stays so. -/
structure Later (t t' : Table RefreshToken) : Prop where
  kept : Kept t t'
  dead : ∀ f, (∃ r ∈ t.rows, r.familyId = f) → Auth.live f t = 0 → Auth.live f t' = 0

def Spent (tokenHash : String) (t : Table RefreshToken) : Prop :=
  ∃ r ∈ t.rows, r.tokenHash = tokenHash ∧ r.revokedAt.isSome = true

/-- The token belongs to a family that has no unrevoked token. -/
def FamilyRevoked (tokenHash : String) (t : Table RefreshToken) : Prop :=
  ∃ r ∈ t.rows, r.tokenHash = tokenHash ∧ live r.familyId t = 0

section Tables

variable {t t' t'' : Table RefreshToken} {f tokenHash : String}

theorem Kept.refl (t : Table RefreshToken) : Kept t t := fun r hr ↦ ⟨r, hr, rfl, rfl, rfl, id⟩

theorem Kept.trans (h : Kept t t') (h' : Kept t' t'') : Kept t t'' := by
  intro r hr
  obtain ⟨r', hr', hid, hhash, hfamily, hrevoked⟩ := h r hr
  obtain ⟨r'', hr'', hid', hhash', hfamily', hrevoked'⟩ := h' r' hr'
  exact ⟨r'', hr'', hid'.trans hid, hhash'.trans hhash, hfamily'.trans hfamily,
    fun hs ↦ hrevoked' (hrevoked hs)⟩

theorem Evolves.refl (t : Table RefreshToken) : Evolves t t := ⟨.refl t, fun _ ↦ .inl le_rfl⟩

theorem Evolves.later (h : Evolves t t') : Later t t' := by
  refine ⟨h.kept, fun f hf hdead ↦ ?_⟩
  rcases h.live f with hle | ⟨hnone, -⟩
  · omega
  · obtain ⟨r, hr, hrf⟩ := hf
    exact absurd hrf (hnone r hr)

theorem Later.refl (t : Table RefreshToken) : Later t t := (Evolves.refl t).later

theorem Later.trans (h : Later t t') (h' : Later t' t'') : Later t t'' := by
  refine ⟨h.kept.trans h'.kept, fun f hf hdead ↦ h'.dead f ?_ (h.dead f hf hdead)⟩
  obtain ⟨r, hr, hrf⟩ := hf
  obtain ⟨r', hr', -, -, hfamily, -⟩ := h.kept r hr
  exact ⟨r', hr', hfamily.trans hrf⟩

theorem Spent.kept (h : Spent tokenHash t) (hk : Kept t t') : Spent tokenHash t' := by
  obtain ⟨r, hr, hhash, hrevoked⟩ := h
  obtain ⟨r', hr', -, hhash', -, hrevoked'⟩ := hk r hr
  exact ⟨r', hr', hhash'.trans hhash, hrevoked' hrevoked⟩

theorem FamilyRevoked.later (h : FamilyRevoked tokenHash t) (hl : Later t t') :
    FamilyRevoked tokenHash t' := by
  obtain ⟨r, hr, hhash, hdead⟩ := h
  obtain ⟨r', hr', -, hhash', hfamily, -⟩ := hl.kept r hr
  exact ⟨r', hr', hhash'.trans hhash, hfamily ▸ hl.dead _ ⟨r, hr, rfl⟩ hdead⟩

/-- A statement that revokes rows. -/
theorem evolves_map {g : RefreshToken → RefreshToken} (hrows : t'.rows = t.rows.map g)
    (hg : ∀ r, (g r).id = r.id ∧ (g r).tokenHash = r.tokenHash ∧ (g r).familyId = r.familyId ∧
      (r.revokedAt.isSome = true → (g r).revokedAt.isSome = true)) : Evolves t t' := by
  refine ⟨fun r hr ↦ ⟨g r, hrows ▸ List.mem_map_of_mem hr, hg r⟩, fun f ↦ .inl ?_⟩
  rw [live, live, hrows, List.countP_map]
  refine List.countP_mono_left fun r _ hlive ↦ ?_
  obtain ⟨-, -, hfamily, hrevoked⟩ := hg r
  simp only [Function.comp_apply, Bool.and_eq_true, Option.isNone_iff_eq_none, beq_iff_eq] at hlive ⊢
  refine ⟨?_, hfamily ▸ hlive.2⟩
  cases hr : r.revokedAt with
  | none => rfl
  | some _ => simp [hlive.1, hr] at hrevoked

theorem evolves_updateMany {p : RefreshToken → Bool} {now : Time}
    (h : t.updateMany p (revoke now) = .ok t') : Evolves t t' := by
  refine evolves_map (Table.store_eq_ok.mp h) fun r ↦ ?_
  split_ifs
  · exact ⟨rfl, rfl, rfl, fun _ ↦ rfl⟩
  · exact ⟨rfl, rfl, rfl, id⟩

theorem evolves_update {id : String} {now : Time} (h : t.update id (revoke now) = .ok t') :
    Evolves t t' := by
  refine evolves_map (Table.update_eq_ok.mp h).2 fun r ↦ ?_
  split_ifs
  · exact ⟨rfl, rfl, rfl, fun _ ↦ rfl⟩
  · exact ⟨rfl, rfl, rfl, fun h ↦ h⟩

/-- The first token of a new family. -/
theorem evolves_create {r : RefreshToken} (hnew : ∀ a ∈ t.rows, a.familyId ≠ r.familyId)
    (h : t.create r = .ok t') : Evolves t t' := by
  have hrows := Table.create_eq_ok.mp h
  refine ⟨fun a ha ↦ ⟨a, by simp [hrows, ha], rfl, rfl, rfl, id⟩, fun f ↦ ?_⟩
  have hcount : live f t' = live f t + [r].countP fun r ↦ r.revokedAt.isNone && r.familyId == f := by
    rw [live, live, hrows, List.countP_append]
  by_cases hf : r.familyId = f
  · subst hf
    refine .inr ⟨hnew, ?_⟩
    have hzero : live r.familyId t = 0 := by
      rw [live, List.countP_eq_zero]
      intro a ha hlive
      simp only [Bool.and_eq_true, beq_iff_eq] at hlive
      exact hnew a ha hlive.2
    have hone := List.countP_le_length (p := fun a ↦ a.revokedAt.isNone && a.familyId == r.familyId)
      (l := [r])
    simp only [List.length_singleton] at hone
    omega
  · refine .inl ?_
    rw [hcount, List.countP_singleton]
    simp [hf]

/-- A family whose tokens are all revoked by the statement. -/
theorem live_updateMany {p : RefreshToken → Bool} {now : Time}
    (h : t.updateMany p (revoke now) = .ok t') (hp : ∀ r, r.familyId = f → p r = true) :
    live f t' = 0 := by
  rw [live, Table.store_eq_ok.mp h, List.countP_map, List.countP_eq_zero]
  intro r _ hlive
  simp only [Function.comp_apply, Bool.and_eq_true, beq_iff_eq] at hlive
  split_ifs at hlive with hr
  · cases hlive.1
  · exact hr (hp r hlive.2)

theorem live_append (r : RefreshToken) (hrows : t'.rows = t.rows ++ [r]) :
    live f t' ≤ live f t + if r.familyId = f then 1 else 0 := by
  rw [live, live, hrows, List.countP_append, List.countP_singleton]
  split_ifs with hlive hf hf
  · exact le_rfl
  · simp only [Bool.and_eq_true, beq_iff_eq] at hlive
    exact absurd hlive.2 hf
  · omega
  · omega

/-- The rotation takes one unrevoked token from the family and gives it another one. -/
theorem rotateInTransaction_ok {rt : Runtime} {stored : RefreshToken} {env : AuthEnv}
    {db db' : AuthDb} {created : Option RefreshToken}
    (h : rotateInTransaction rt stored env db = .ok (db', created))
    (hfamily : ∀ r ∈ db.refreshTokens.rows, r.id = stored.id → r.familyId = stored.familyId) :
    Evolves db.refreshTokens db'.refreshTokens ∧ (created.isSome = true →
      ∃ r ∈ db.refreshTokens.rows, r.id = stored.id ∧ r.revokedAt = none ∧
        Spent r.tokenHash db'.refreshTokens) := by
  obtain ⟨claimed, hclaimed, h⟩ := andThen_eq_ok.mp h
  have hrows := Table.store_eq_ok.mp (ofRefusal_eq_ok.mp hclaimed)
  have hclaim : Evolves db.refreshTokens claimed := by
    refine evolves_map hrows fun r ↦ ?_
    split_ifs
    · exact ⟨rfl, rfl, rfl, fun _ ↦ rfl⟩
    · exact ⟨rfl, rfl, rfl, id⟩
  split_ifs at h with hcount
  · cases h
    exact ⟨hclaim, fun hsome ↦ by cases hsome⟩
  · obtain ⟨grown, hgrown, h⟩ := andThen_eq_ok.mp h
    obtain ⟨linked, hlinked, h⟩ := andThen_eq_ok.mp h
    cases h
    have hgrown := Table.create_eq_ok.mp (ofRefusal_eq_ok.mp hgrown)
    have hlinked := (Table.update_eq_ok.mp (ofRefusal_eq_ok.mp hlinked)).2
    have hcount := not_not.mp hcount
    obtain ⟨r, hr, hclaims⟩ := List.countP_pos_iff.mp (by rw [hcount]; exact Nat.one_pos)
    have hrow := hclaims
    simp only [claimable, Bool.and_eq_true, beq_iff_eq, Option.isNone_iff_eq_none] at hrow
    obtain ⟨⟨hid, hnone⟩, -⟩ := hrow
    have hkept : Kept claimed linked := by
      have hgrow : Kept claimed grown := fun a ha ↦ ⟨a, by simp [hgrown, ha], rfl, rfl, rfl, fun h ↦ h⟩
      refine hgrow.trans (evolves_map hlinked fun a ↦ ?_).kept
      split_ifs
      · exact ⟨rfl, rfl, rfl, fun h ↦ h⟩
      · exact ⟨rfl, rfl, rfl, fun h ↦ h⟩
    refine ⟨⟨hclaim.kept.trans hkept, fun f ↦ .inl ?_⟩, fun _ ↦ ⟨r, hr, hid, hnone, ?_⟩⟩
    · -- the claimed row leaves the count before the new one enters it
      have hdrop := countP_map_drop (p := fun a ↦ a.revokedAt.isNone && a.familyId == f)
        (q := claimable stored.id env.now) (f := fun a ↦
          { a with
            revokedAt := some env.now
            lastUsedAt := some env.now }) (fun _ _ ↦ rfl) db.refreshTokens.rows
      rw [← hrows] at hdrop
      have hlink : live f linked = live f grown := by
        rw [live, live, hlinked]
        exact Table.countP_updateRows fun _ _ _ ↦ rfl
      have happend : live f grown ≤ live f claimed + if stored.familyId = f then 1 else 0 :=
        live_append (newToken rt env stored.userId stored.familyId claimed) hgrown
      rw [hlink]
      rw [live, live] at *
      by_cases hf : stored.familyId = f
      · have hpos : 0 < db.refreshTokens.rows.countP fun a ↦
            (a.revokedAt.isNone && a.familyId == f) && claimable stored.id env.now a :=
          List.countP_pos_iff.mpr ⟨r, hr, by simp [hnone, hclaims, hfamily r hr hid, hf]⟩
        rw [if_pos hf] at happend
        omega
      · rw [if_neg hf] at happend
        omega
    · refine Spent.kept ⟨_, hrows ▸ List.mem_map_of_mem hr, ?_⟩ hkept
      rw [if_pos hclaims]
      exact ⟨rfl, rfl⟩

end Tables

/-- A refresh with the token it presents, or a logout. -/
inductive SessionCall
  | refresh (rawRefreshToken : String) (call : AuthCall AuthTokensDto)
  | logout (call : AuthCall Unit)

/-- The old token is claimed and the new one created. -/
def HasRotated (call : AuthCall AuthTokensDto) : Prop :=
  call.label? = some "TOKEN_REFRESHED" ∨ ∃ issued, call = .returned (.ok issued)

instance (call : AuthCall AuthTokensDto) : Decidable (HasRotated call) :=
  match call with
  | .returned (.ok issued) => .isTrue (.inr ⟨issued, rfl⟩)
  | .returned (.error _) => .isFalse fun h ↦ by simp [HasRotated, Call.label?] at h
  | .request label _ _ =>
    decidable_of_iff (label = "TOKEN_REFRESHED") (by simp [HasRotated, Call.label?])

/-- Others leave the refresh tokens alone, or a login begins a new family. -/
def Elsewhere (db db' : AuthDb) : Prop :=
  db'.refreshTokens = db.refreshTokens ∨ ∃ token,
    (∀ r ∈ db.refreshTokens.rows, r.familyId ≠ token.familyId) ∧
      db.refreshTokens.create token = .ok db'.refreshTokens

/-- Any number of refreshes and logouts, whatever tokens and users they are for. -/
def sessions (rt : Runtime) : Machine AuthDb SessionCall AuthEnv where
  start t := (∃ raw client, t = .refresh raw (rotateRefreshToken rt raw client)) ∨
    (∃ raw, t = .logout (revokeRefreshToken rt raw)) ∨
    ∃ userId, t = .logout (revokeAllUserSessions rt userId)
  step env db
    | .refresh raw call => (call.step env db).map fun q ↦ (q.1, .refresh raw q.2)
    | .logout call => (call.step env db).map fun q ↦ (q.1, .logout q.2)
  world := Elsewhere

def reuseError : AuthError := .http .unauthorized reuseMessage

/-- What a call that will not rotate its token leaves behind. -/
def Refused (tokenHash : String) (r : Except AuthError AuthTokensDto) (db : AuthDb) : Prop :=
  (∀ issued, r ≠ .ok issued) ∧ (r = .error reuseError → FamilyRevoked tokenHash db.refreshTokens)

def LaterDb (db db' : AuthDb) : Prop := Later db.refreshTokens db'.refreshTokens

def EvolvesDb (label : String) (db db' : AuthDb) : Prop :=
  Evolves db.refreshTokens db'.refreshTokens ∧ label ≠ "TOKEN_REFRESHED"

/-- The call goes on and will not rotate its token. -/
abbrev Loses (tokenHash : String) (call : AuthCall AuthTokensDto) (db : AuthDb) : Prop :=
  call.wpg LaterDb EvolvesDb (fun _ _ ↦ True) (Refused tokenHash) db

/-- The row of the token, which no statement removes. -/
def HasRow (tokenHash id familyId : String) (t : Table RefreshToken) : Prop :=
  ∃ r ∈ t.rows, r.id = id ∧ r.tokenHash = tokenHash ∧ r.familyId = familyId

/-- How far a refresh has come. -/
inductive Stage (rt : Runtime) (raw : String) (db : AuthDb) : AuthCall AuthTokensDto → Prop
  | asks (client : Client) : Stage rt raw db (rotateRefreshToken rt raw client)
  | claims (stored : RefreshToken) (user : User) (permissions : List String) (client : Client) :
      HasRow (rt.sha256 raw) stored.id stored.familyId db.refreshTokens →
      Stage rt raw db (rotate rt stored user permissions client)
  | audits (params : CreateAuditLogParams) (client : Client) (issued : AuthTokensDto) :
      params.action = "TOKEN_REFRESHED" → Spent (rt.sha256 raw) db.refreshTokens →
      Stage rt raw db ((AuditService.log params client).bind fun _ ↦ pure issued)
  | returned (issued : AuthTokensDto) : Spent (rt.sha256 raw) db.refreshTokens →
      Stage rt raw db (.returned (.ok issued))
  | loses (call : AuthCall AuthTokensDto) : Loses (rt.sha256 raw) call db → Stage rt raw db call

section Calls

variable {rt : Runtime} {raw tokenHash : String} {db db' : AuthDb} {env : AuthEnv}
  {call call' : AuthCall AuthTokensDto} {client : Client} {stored : RefreshToken}

theorem evolvesDb_refl {label : String} (h : label ≠ "TOKEN_REFRESHED") (db : AuthDb) :
    EvolvesDb label db db := ⟨.refl _, h⟩

theorem refused_throws {status : HttpStatus} {message : String} (h : message ≠ reuseMessage) :
    Refused tokenHash (.error (.http status message)) db := by
  refine ⟨nofun, fun hx ↦ ?_⟩
  simp only [reuseError, Except.error.injEq, AuthError.http.injEq] at hx
  exact absurd hx.2 h

theorem refused_internal {x : AuthError} (h : x.Internal) : Refused tokenHash (.error x) db :=
  ⟨nofun, fun hx ↦ absurd (Except.error.inj hx) (h _ _)⟩

theorem HasRow.kept {id familyId : String} {t t' : Table RefreshToken}
    (h : HasRow tokenHash id familyId t) (hk : Kept t t') : HasRow tokenHash id familyId t' := by
  obtain ⟨r, hr, hid, hhash, hfamily⟩ := h
  obtain ⟨r', hr', hid', hhash', hfamily', -⟩ := hk r hr
  exact ⟨r', hr', hid'.trans hid, hhash'.trans hhash, hfamily'.trans hfamily⟩

theorem detectReuse_loses {metadata : List (String × JsValue)}
    (hrow : HasRow tokenHash stored.id stored.familyId db.refreshTokens) :
    Loses tokenHash (detectReuse stored metadata client) db := by
  refine Call.wpg_bind (wpg_revokeWhere (evolvesDb_refl (by decide))
    (fun _ _ _ hx ↦ refused_internal hx) fun db' now t hlater ht ↦ ?_)
  have hevolves := evolves_updateMany ht
  have hrevoked : FamilyRevoked tokenHash t := by
    obtain ⟨r, hr, -, hhash, hfamily⟩ := (hrow.kept hlater.kept).kept hevolves.kept
    exact ⟨r, hr, hhash, live_updateMany ht fun a ha ↦ beq_iff_eq.mpr (ha.trans hfamily)⟩
  refine ⟨⟨hevolves, by decide⟩, ?_⟩
  refine Call.wpg_bind (wpg_log (fun _ _ ↦ ⟨.refl _, ?_⟩) fun db₁ t₁ hl ↦ ?_)
  · dsimp only
    decide
  · exact ⟨nofun, fun _ ↦ hrevoked.later hl⟩

/-- A token that is found invalid is not rotated. -/
theorem barred_loses {p : RefreshToken → Bool} {message : String} (h : message ≠ reuseMessage) :
    Loses tokenHash ((revokeWhere p).bind fun _ ↦ throws .unauthorized message) db := by
  refine Call.wpg_bind (wpg_revokeWhere (evolvesDb_refl (by decide))
    (fun _ _ _ hx ↦ refused_internal hx) fun db' now t _ ht ↦ ?_)
  exact ⟨⟨evolves_updateMany ht, by decide⟩, refused_throws h⟩

theorem expired_loses : Loses tokenHash ((stores "refreshToken.update" fun env db ↦ do
      let t ← ofRefusal (db.refreshTokens.update stored.id (revoke env.now))
      return ({ db with refreshTokens := t }, ())).bind fun _ ↦
        throws .unauthorized "Refresh token has expired. Please log in again.") db := by
  refine Call.wpg_bind (wpg_stores (evolvesDb_refl (by decide))
    (fun _ message _ ↦ refused_internal (internal_fault message))
    (fun _ _ x _ hx ↦ refused_internal ?_) fun db' env db'' _ _ _ hx ↦ ?_)
  · rcases andThen_eq_error.mp hx with hx | ⟨_, _, hx⟩
    · exact internal_ofRefusal hx
    · cases hx
  · obtain ⟨t, ht, hx⟩ := andThen_eq_ok.mp hx
    cases hx
    exact ⟨⟨evolves_update (ofRefusal_eq_ok.mp ht), by decide⟩, refused_throws (by decide)⟩

/-- A refresh reads its token. -/
theorem asks_step (h : (rotateRefreshToken rt raw client).step env db = some (db', call')) :
    db' = db ∧ (Loses (rt.sha256 raw) call' db ∨ ∃ stored user permissions,
      HasRow (rt.sha256 raw) stored.id stored.familyId db.refreshTokens ∧
        call' = rotate rt stored user permissions client) := by
  cases h
  refine ⟨rfl, ?_⟩
  cases hfault : env.fault with
  | some message =>
    simp only [hfault, Option.elim_some]
    exact .inl (refused_internal (internal_fault message))
  | none =>
    simp only [hfault, Option.elim_none]
    cases hfind : db.refreshTokens.find? (·.tokenHash == rt.sha256 raw) with
    | none =>
      exact .inl (refused_throws (by decide))
    | some stored =>
      obtain ⟨hmem, hhash⟩ := Table.find?_mem hfind
      have hrow : HasRow (rt.sha256 raw) stored.id stored.familyId db.refreshTokens :=
        ⟨stored, hmem, rfl, beq_iff_eq.mp hhash, rfl⟩
      cases huser : db.users.get? stored.userId with
      | none =>
        simp only [Option.bind_eq_bind, Option.bind_some, huser, Option.bind_none]
        exact .inl (refused_throws (by decide))
      | some user =>
        simp only [Option.bind_eq_bind, Option.bind_some, huser]
        change Loses _ (ite _ _ _) db ∨ ∃ _ _ _, _ ∧ ite _ _ _ = _
        split_ifs
        · exact .inl (detectReuse_loses hrow)
        · exact .inl expired_loses
        · exact .inl (barred_loses (by decide))
        · exact .inr ⟨stored, user, _, hrow, rfl⟩

theorem loses_not_rotated (h : Loses tokenHash call db) : ¬HasRotated call := by
  rintro (hlabel | ⟨issued, rfl⟩)
  · cases call with
    | returned r => cases hlabel
    | request label effect next =>
      obtain ⟨⟨-, hne⟩, -⟩ := h db (Later.refl _) default trivial
      exact hne (Option.some.inj hlabel)
  · exact h.1 issued rfl

theorem rotateInTransaction_error {x : AuthError}
    (h : rotateInTransaction rt stored env db = .error x) : x.Internal := by
  rcases andThen_eq_error.mp h with h | ⟨claimed, -, h⟩
  · exact internal_ofRefusal h
  · split_ifs at h
    · cases h
    rcases andThen_eq_error.mp h with h | ⟨grown, -, h⟩
    · exact internal_ofRefusal h
    · rcases andThen_eq_error.mp h with h | ⟨linked, -, h⟩
      · exact internal_ofRefusal h
      · cases h

theorem claims_step {user : User} {permissions : List String}
    (hrow : HasRow (rt.sha256 raw) stored.id stored.familyId db.refreshTokens)
    (h : (rotate rt stored user permissions client).step env db = some (db', call')) :
    Evolves db.refreshTokens db'.refreshTokens ∧ Stage rt raw db' call' ∧
      (HasRotated call' → ∃ r ∈ db.refreshTokens.rows,
        r.tokenHash = rt.sha256 raw ∧ r.revokedAt = none) := by
  have hnot {x : AuthError} : ¬HasRotated (.returned (.error x)) := by
    rintro (hx | ⟨_, hx⟩)
    · cases hx
    · cases hx
  cases h
  cases hfault : env.fault with
  | some message =>
    simp only [hfault, Option.elim_some, Call.written]
    exact ⟨.refl _, .loses _ (refused_internal (internal_fault message)), fun hx ↦ absurd hx hnot⟩
  | none =>
    cases hx : rotateInTransaction rt stored env db with
    | error x =>
      simp only [hfault, Option.elim_none, hx]
      have hinternal := rotateInTransaction_error hx
      exact ⟨.refl _, .loses _ (refused_internal hinternal), fun hx ↦ absurd hx hnot⟩
    | ok q =>
      obtain ⟨db₁, created⟩ := q
      obtain ⟨hevolves, hclaimed⟩ := rotateInTransaction_ok hx fun r hr hid ↦ by
        obtain ⟨r', hr', hid', -, hfamily⟩ := hrow
        rw [db.refreshTokens.eq_of_id hr hr' (hid.trans hid'.symm), hfamily]
      simp only [hfault, Option.elim_none, hx]
      refine ⟨hevolves, ?_, ?_⟩
      · cases created with
        | none => exact .loses _ (detectReuse_loses (hrow.kept hevolves.kept))
        | some createdToken =>
          obtain ⟨r, hr, hid, -, hspent⟩ := hclaimed rfl
          obtain ⟨r', hr', hid', hhash, -⟩ := hrow
          rw [db.refreshTokens.eq_of_id hr hr' (hid.trans hid'.symm), hhash] at hspent
          exact .audits _ client _ rfl hspent
      · intro hrotated
        cases created with
        | none => exact absurd hrotated (loses_not_rotated (detectReuse_loses (hrow.kept hevolves.kept)))
        | some createdToken =>
          obtain ⟨r, hr, hid, hnone, -⟩ := hclaimed rfl
          obtain ⟨r', hr', hid', hhash, -⟩ := hrow
          have heq := db.refreshTokens.eq_of_id hr hr' (hid.trans hid'.symm)
          exact ⟨r, hr, heq ▸ hhash, hnone⟩

/-- A step of a refresh: the tokens evolve, and a rotation takes an unrevoked token. -/
theorem Stage.step (h : Stage rt raw db call) (hs : call.step env db = some (db', call')) :
    Evolves db.refreshTokens db'.refreshTokens ∧ Stage rt raw db' call' ∧
      (HasRotated call' → HasRotated call ∨ ∃ r ∈ db.refreshTokens.rows,
        r.tokenHash = rt.sha256 raw ∧ r.revokedAt = none) := by
  cases h with
  | asks client =>
    obtain ⟨rfl, hloses | ⟨stored, user, permissions, hrow, rfl⟩⟩ := asks_step hs
    · exact ⟨.refl _, .loses _ hloses, fun hx ↦ absurd hx (loses_not_rotated hloses)⟩
    · refine ⟨.refl _, .claims stored user permissions client hrow, fun hx ↦ ?_⟩
      rcases hx with hx | ⟨_, hx⟩
      · exact absurd (Option.some.inj hx) (by decide)
      · cases hx
  | claims stored user permissions client hrow =>
    obtain ⟨hevolves, hstage, hrotated⟩ := claims_step hrow hs
    exact ⟨hevolves, hstage, fun hx ↦ .inr (hrotated hx)⟩
  | audits params client issued haction hspent =>
    obtain ⟨⟨t, rfl⟩, rfl⟩ := log_bind_step hs
    exact ⟨.refl _, .returned issued hspent, fun _ ↦ .inl (.inl (congrArg some haction))⟩
  | returned issued hspent => cases hs
  | loses call hloses =>
    obtain ⟨⟨label, -, hevolves, -⟩, hloses'⟩ :=
      Call.wpg_step hloses (Later.refl _) (fun _ _ ↦ trivial) hs
    exact ⟨hevolves, .loses _ hloses', fun hx ↦ absurd hx (loses_not_rotated hloses')⟩

theorem Stage.later (h : Stage rt raw db call) (hl : LaterDb db db') : Stage rt raw db' call := by
  cases h with
  | asks client => exact .asks client
  | claims stored user permissions client hrow =>
    exact .claims stored user permissions client (hrow.kept hl.kept)
  | audits params client issued haction hspent =>
    exact .audits params client issued haction (hspent.kept hl.kept)
  | returned issued hspent => exact .returned issued (hspent.kept hl.kept)
  | loses call hloses =>
    refine .loses call (Call.wpg_stable (fun _ _ _ hab hbc ↦ hab.trans hbc) ?_ hloses hl)
    exact fun r a b hr hab ↦ ⟨hr.1, fun hx ↦ (hr.2 hx).later hab⟩

theorem Stage.spent (h : Stage rt raw db call) (hrotated : HasRotated call) :
    Spent (rt.sha256 raw) db.refreshTokens := by
  cases h with
  | asks client =>
    rcases hrotated with hx | ⟨_, hx⟩
    · exact absurd (Option.some.inj hx) (by decide)
    · cases hx
  | claims stored user permissions client hrow =>
    rcases hrotated with hx | ⟨_, hx⟩
    · exact absurd (Option.some.inj hx) (by decide)
    · cases hx
  | audits params client issued haction hspent => exact hspent
  | returned issued hspent => exact hspent
  | loses call hloses => exact absurd hrotated (loses_not_rotated hloses)

theorem Stage.reused (h : Stage rt raw db call) (hcall : call = .returned (.error reuseError)) :
    FamilyRevoked (rt.sha256 raw) db.refreshTokens := by
  have hlabel : call.label? = none := by rw [hcall]; rfl
  cases h with
  | asks client => cases hlabel
  | claims stored user permissions client hrow => cases hlabel
  | audits params client issued haction hspent => cases hlabel
  | returned issued hspent => cases hcall
  | loses call hloses =>
    rw [hcall] at hloses
    exact hloses.2 rfl

/-- A statement of a logout. -/
def LogoutStep (_ : String) (db db' : AuthDb) : Prop := Evolves db.refreshTokens db'.refreshTokens

theorem revokeAllUserSessions_each {userId : String} :
    (revokeAllUserSessions rt userId).Each LogoutStep := by
  refine Call.each_bind (each_finds fun _ ↦ .refl _) fun userTokens ↦ ?_
  refine Call.each_bind (each_revokeWhere (fun _ ↦ .refl _) fun _ _ _ ht ↦ evolves_updateMany ht) ?_
  exact fun _ ↦ each_blacklist fun _ _ ↦ .refl _

theorem revokeRefreshToken_each : (revokeRefreshToken rt raw).Each LogoutStep := by
  refine Call.each_bind (each_finds fun _ ↦ .refl _) fun stored ↦ ?_
  cases stored with
  | none => trivial
  | some stored =>
    refine Call.each_bind (each_finds fun _ ↦ .refl _) fun familyTokens ↦ ?_
    refine Call.each_bind (each_revokeWhere (fun _ ↦ .refl _) fun _ _ _ ht ↦ evolves_updateMany ht) ?_
    exact fun _ ↦ each_blacklist fun _ _ ↦ .refl _

end Calls

namespace SessionCall

/-- The token that a refresh has rotated. -/
def rotatedHash (rt : Runtime) : SessionCall → List String
  | refresh raw call => if HasRotated call then [rt.sha256 raw] else []
  | logout _ => []

def Sound (rt : Runtime) (db : AuthDb) : SessionCall → Prop
  | refresh raw call => Stage rt raw db call
  | logout call => call.Each LogoutStep

theorem mem_rotatedHash {rt : Runtime} {k raw : String} {call : AuthCall AuthTokensDto} :
    k ∈ (refresh raw call).rotatedHash rt ↔ HasRotated call ∧ k = rt.sha256 raw := by
  simp only [rotatedHash]
  split_ifs with h
  · simp [h]
  · simp [h]

theorem rotatedHash_nodup (rt : Runtime) (t : SessionCall) : (t.rotatedHash rt).Nodup := by
  cases t with
  | logout call => exact .nil
  | refresh raw call =>
    simp only [rotatedHash]
    split_ifs
    · exact List.nodup_singleton _
    · exact .nil

theorem Sound.later {rt : Runtime} {db db' : AuthDb} {t : SessionCall} (h : t.Sound rt db)
    (hl : LaterDb db db') : t.Sound rt db' := by
  cases t with
  | logout call => exact h
  | refresh raw call => exact Stage.later h hl

end SessionCall

open SessionCall

/-- What holds between two statements of the refreshes and logouts. -/
structure SafeFamilies (rt : Runtime) (p : Pool AuthDb SessionCall) : Prop where
  single : ∀ f, live f p.shared.refreshTokens ≤ 1
  exclusive : Exclusive (rotatedHash rt) p.threads
  sound : ∀ t ∈ p.threads, t.Sound rt p.shared

section Runs

variable {rt : Runtime} {p q : Pool AuthDb SessionCall} {t t' : SessionCall} {db' : AuthDb}
  {env : AuthEnv} {i : ℕ}

theorem single_evolves {t t' : Table RefreshToken} (h : ∀ f, live f t ≤ 1) (he : Evolves t t')
    (f : String) : live f t' ≤ 1 := by
  rcases he.live f with hle | ⟨-, hle⟩
  · exact hle.trans (h f)
  · exact hle

theorem evolves_elsewhere {db db' : AuthDb} (h : Elsewhere db db') :
    Evolves db.refreshTokens db'.refreshTokens := by
  rcases h with hsame | ⟨token, hnew, hcreate⟩
  · rw [hsame]
    exact .refl _
  · exact evolves_create hnew hcreate

/-- A statement of a thread: the tokens evolve, and a refresh that rotates its token takes an
unrevoked one. -/
theorem sessions_step (h : t.Sound rt p.shared)
    (hs : (sessions rt).step env p.shared t = some (db', t')) :
    Evolves p.shared.refreshTokens db'.refreshTokens ∧ t'.Sound rt db' ∧
      ∀ k ∈ t'.rotatedHash rt, Spent k db'.refreshTokens ∧ (k ∈ t.rotatedHash rt ∨
        ∃ r ∈ p.shared.refreshTokens.rows, r.tokenHash = k ∧ r.revokedAt = none) := by
  cases t with
  | logout call =>
    obtain ⟨⟨db₁, call'⟩, hcall, hq⟩ := Option.map_eq_some_iff.mp hs
    cases hq
    obtain ⟨⟨label, -, hevolves⟩, hrest⟩ := Call.Each.step h hcall
    exact ⟨hevolves, hrest, fun k hk ↦ absurd hk List.not_mem_nil⟩
  | refresh raw call =>
    obtain ⟨⟨db₁, call'⟩, hcall, hq⟩ := Option.map_eq_some_iff.mp hs
    cases hq
    obtain ⟨hevolves, hstage, hrotated⟩ := Stage.step h hcall
    refine ⟨hevolves, hstage, fun k hk ↦ ?_⟩
    obtain ⟨hrot, rfl⟩ := mem_rotatedHash.mp hk
    refine ⟨hstage.spent hrot, ?_⟩
    rcases hrotated hrot with hbefore | hrow
    · exact .inl (mem_rotatedHash.mpr ⟨hbefore, rfl⟩)
    · exact .inr hrow

theorem sessions_step_refresh {raw : String} {db : AuthDb} {call : AuthCall AuthTokensDto}
    (hs : (sessions rt).step env db t = some (db', refresh raw call)) :
    ∃ call₀, t = refresh raw call₀ := by
  cases t with
  | logout call₀ =>
    obtain ⟨_, -, hq⟩ := Option.map_eq_some_iff.mp hs
    cases hq
  | refresh raw₀ call₀ =>
    obtain ⟨_, -, hq⟩ := Option.map_eq_some_iff.mp hs
    cases hq
    exact ⟨call₀, rfl⟩

/-- A token that a refresh has rotated is revoked. -/
theorem SafeFamilies.spent (hp : SafeFamilies rt p) (ht : t ∈ p.threads) {k : String}
    (hk : k ∈ t.rotatedHash rt) : Spent k p.shared.refreshTokens := by
  cases t with
  | logout call => cases hk
  | refresh raw call =>
    obtain ⟨hrot, rfl⟩ := mem_rotatedHash.mp hk
    exact Stage.spent (hp.sound _ ht) hrot

theorem not_spent_of_unrevoked {t : Table RefreshToken} {r : RefreshToken} (hr : r ∈ t.rows)
    (hnone : r.revokedAt = none) : ¬Spent r.tokenHash t := by
  rintro ⟨a, ha, hhash, hrevoked⟩
  have heq : a = r := t.eq_of_unique (u := fun t ↦ some t.tokenHash) (List.mem_singleton.mpr rfl)
    ha hr (congrArg some hhash) rfl
  rw [heq, hnone] at hrevoked
  cases hrevoked

theorem sessions_start (h : (sessions rt).start t) (db : AuthDb) :
    t.rotatedHash rt = [] ∧ t.Sound rt db := by
  rcases h with ⟨raw, client, rfl⟩ | ⟨raw, rfl⟩ | ⟨userId, rfl⟩
  · exact ⟨rfl, .asks client⟩
  · exact ⟨rfl, revokeRefreshToken_each⟩
  · exact ⟨rfl, revokeAllUserSessions_each⟩

theorem SafeFamilies.step {a : Move SessionCall AuthEnv} (hp : SafeFamilies rt p)
    (hs : (sessions rt).Step p a q) : SafeFamilies rt q := by
  cases hs with
  | @spawn t ht =>
    have hstart := sessions_start ht p.shared
    refine ⟨hp.single, hp.exclusive.spawn hstart.1, fun u hu ↦ ?_⟩
    rcases List.mem_append.mp hu with hm | hm
    · exact hp.sound u hm
    · rw [List.mem_singleton.mp hm]
      exact hstart.2
  | @run i env t t' db' hi hstep =>
    have ht := List.mem_of_getElem? hi
    obtain ⟨hevolves, hsound, hrotated⟩ := sessions_step (hp.sound t ht) hstep
    refine ⟨single_evolves hp.single hevolves, ?_, fun u hu ↦ ?_⟩
    · refine hp.exclusive.take (rotatedHash_nodup rt t') fun k hk j u hj hji hu ↦ ?_
      rcases (hrotated k hk).2 with hbefore | ⟨r, hr, rfl, hnone⟩
      · exact hji (hp.exclusive.apart j i u t k hj hi hu hbefore)
      · exact not_spent_of_unrevoked hr hnone (hp.spent (List.mem_of_getElem? hj) hu)
    · rcases List.mem_or_eq_of_mem_set hu with hm | rfl
      · exact (hp.sound u hm).later hevolves.later
      · exact hsound
  | @world db' hw =>
    have hevolves := evolves_elsewhere hw
    exact ⟨single_evolves hp.single hevolves, hp.exclusive, fun u hu ↦
      (hp.sound u hu).later hevolves.later⟩

/-- A row that is found later by its token has been there before, in the same family. -/
theorem family_before {t t' : Table RefreshToken} {k familyId : String} (hk : Kept t t')
    (hbefore : ∃ r ∈ t.rows, r.tokenHash = k)
    (hafter : ∃ r ∈ t'.rows, r.tokenHash = k ∧ r.familyId = familyId) :
    ∃ r ∈ t.rows, r.tokenHash = k ∧ r.familyId = familyId := by
  obtain ⟨r, hr, hhash⟩ := hbefore
  obtain ⟨a, ha, hahash, hfamily⟩ := hafter
  obtain ⟨r', hr', -, hhash', hfamily', -⟩ := hk r hr
  have heq : a = r' := t'.eq_of_unique (u := fun t ↦ some t.tokenHash) (List.mem_singleton.mpr rfl)
    ha hr' (congrArg some (hahash.trans hhash.symm)) (congrArg some hhash')
  exact ⟨r, hr, hhash, by rw [← hfamily', ← heq, hfamily]⟩

/-- A family without an unrevoked token, and the refreshes that had rotated its tokens before. -/
structure Barred (rt : Runtime) (familyId : String) (before : List SessionCall)
    (p : Pool AuthDb SessionCall) : Prop where
  safe : SafeFamilies rt p
  there : ∃ r ∈ p.shared.refreshTokens.rows, r.familyId = familyId
  dead : live familyId p.shared.refreshTokens = 0
  rotations : ∀ (j : ℕ) raw call, p.threads[j]? = some (refresh raw call) → HasRotated call →
    (∃ r ∈ p.shared.refreshTokens.rows, r.tokenHash = rt.sha256 raw ∧ r.familyId = familyId) →
    ∃ call', before[j]? = some (refresh raw call') ∧ HasRotated call'

theorem Barred.step {familyId : String} {before : List SessionCall} {a : Move SessionCall AuthEnv}
    (hp : Barred rt familyId before p) (hs : (sessions rt).Step p a q) :
    Barred rt familyId before q := by
  have hsafe := hp.safe.step hs
  have hlater : Later p.shared.refreshTokens q.shared.refreshTokens := by
    cases hs with
    | spawn => exact .refl _
    | @run i env t t' db' hi hstep =>
      exact (sessions_step (hp.safe.sound t (List.mem_of_getElem? hi)) hstep).1.later
    | world hw => exact (evolves_elsewhere hw).later
  have hthere : ∃ r ∈ q.shared.refreshTokens.rows, r.familyId = familyId := by
    obtain ⟨r, hr, hfamily⟩ := hp.there
    obtain ⟨r', hr', -, -, hfamily', -⟩ := hlater.kept r hr
    exact ⟨r', hr', hfamily'.trans hfamily⟩
  refine ⟨hsafe, hthere, hlater.dead _ hp.there hp.dead, fun j raw call hj hrot hrow ↦ ?_⟩
  cases hs with
  | @spawn t ht =>
    rcases getElem?_append_singleton_cases hj with ⟨-, rfl⟩ | hj
    · have hmem : rt.sha256 raw ∈ (refresh raw call).rotatedHash rt :=
        mem_rotatedHash.mpr ⟨hrot, rfl⟩
      rw [(sessions_start ht p.shared).1] at hmem
      cases hmem
    · exact hp.rotations j raw call hj hrot hrow
  | @run i env t t' db' hi hstep =>
    rcases getElem?_set_cases hj with ⟨rfl, rfl⟩ | ⟨hji, hj⟩
    · obtain ⟨call₀, rfl⟩ := sessions_step_refresh hstep
      obtain ⟨-, -, hrotated⟩ := sessions_step (hp.safe.sound _ (List.mem_of_getElem? hi)) hstep
      rcases (hrotated _ (mem_rotatedHash.mpr ⟨hrot, rfl⟩)).2 with hbefore | ⟨r, hr, hhash, hnone⟩
      · have hspent := hp.safe.spent (List.mem_of_getElem? hi) hbefore
        obtain ⟨a, ha, hahash, -⟩ := hspent
        exact hp.rotations j raw call₀ hi (mem_rotatedHash.mp hbefore).1
          (family_before hlater.kept ⟨a, ha, hahash⟩ hrow)
      · -- an unrevoked token of the family
        obtain ⟨b, hb, hbhash, hfamily⟩ := family_before hlater.kept ⟨r, hr, hhash⟩ hrow
        have heq : b = r := p.shared.refreshTokens.eq_of_unique (u := fun t ↦ some t.tokenHash)
          (List.mem_singleton.mpr rfl) hb hr (congrArg some (hbhash.trans hhash.symm)) rfl
        have hpos : 0 < live familyId p.shared.refreshTokens :=
          List.countP_pos_iff.mpr ⟨r, hr, by simp [hnone, ← hfamily, heq]⟩
        exact absurd hp.dead hpos.ne'
    · have hspent : Spent (rt.sha256 raw) p.shared.refreshTokens :=
        hp.safe.spent (List.mem_of_getElem? hj) (mem_rotatedHash.mpr ⟨hrot, rfl⟩)
      obtain ⟨a, ha, hahash, -⟩ := hspent
      exact hp.rotations j raw call hj hrot (family_before hlater.kept ⟨a, ha, hahash⟩ hrow)
  | @world db' hw =>
    obtain ⟨a, ha, hahash, -⟩ : Spent (rt.sha256 raw) p.shared.refreshTokens :=
      hp.safe.spent (List.mem_of_getElem? hj) (mem_rotatedHash.mpr ⟨hrot, rfl⟩)
    exact hp.rotations j raw call hj hrot (family_before hlater.kept ⟨a, ha, hahash⟩ hrow)

/-- No call has been started, and no family has two unrevoked tokens. -/
def FreshFamilies (p : Pool AuthDb SessionCall) : Prop :=
  p.threads = [] ∧ ∀ f, live f p.shared.refreshTokens ≤ 1

theorem safeFamilies (h : Reach (sessions rt).Step (fun _ _ ↦ True) FreshFamilies p) :
    SafeFamilies rt p := by
  refine h.invariant (fun q hq ↦ ?_) fun _ _ _ hp _ hs ↦ hp.step hs
  obtain ⟨hthreads, hsingle⟩ := hq
  exact ⟨hsingle, hthreads ▸ .nil, by simp [hthreads]⟩

/-- Each token is rotated by one refresh at most, a family never has two unrevoked tokens, and
from the first reuse error on none of its tokens is rotated. -/
theorem refresh_family_safe (h : Reach (sessions rt).Step (fun _ _ ↦ True) FreshFamilies p) :
    (∀ (i j : ℕ) raw c d, p.threads[i]? = some (refresh raw c) → p.threads[j]? = some (refresh raw d) →
      HasRotated c → HasRotated d → i = j) ∧
    (∀ f, live f p.shared.refreshTokens ≤ 1) ∧
    ∀ raw, refresh raw (.returned (.error reuseError)) ∈ p.threads →
      ∃ r ∈ p.shared.refreshTokens.rows, r.tokenHash = rt.sha256 raw ∧
        ∀ q, Reach (sessions rt).Step (fun _ _ ↦ True) (fun u ↦ u = p) q →
          live r.familyId q.shared.refreshTokens = 0 ∧
          ∀ (j : ℕ) raw' d, q.threads[j]? = some (refresh raw' d) → HasRotated d →
            (∃ a ∈ q.shared.refreshTokens.rows, a.tokenHash = rt.sha256 raw' ∧
              a.familyId = r.familyId) →
            ∃ c, p.threads[j]? = some (refresh raw' c) ∧ HasRotated c := by
  have hp := safeFamilies h
  refine ⟨fun i j raw c d hi hj hc hd ↦ ?_, hp.single, fun raw hraw ↦ ?_⟩
  · exact hp.exclusive.apart i j _ _ _ hi hj (mem_rotatedHash.mpr ⟨hc, rfl⟩)
      (mem_rotatedHash.mpr ⟨hd, rfl⟩)
  · obtain ⟨r, hr, hhash, hdead⟩ := Stage.reused (hp.sound _ hraw) rfl
    refine ⟨r, hr, hhash, fun q hq ↦ ?_⟩
    have hbarred : Barred rt r.familyId p.threads q := by
      refine hq.invariant (fun u hu ↦ ?_) fun _ _ _ hu _ hs ↦ hu.step hs
      subst hu
      exact ⟨hp, ⟨r, hr, rfl⟩, hdead, fun j raw' c hj hc _ ↦ ⟨c, hj, hc⟩⟩
    exact ⟨hbarred.dead, hbarred.rotations⟩

end Runs

section Sample

def firstToken : RefreshToken where
  id := "token-1"
  userId := "user-1"
  tokenHash := sampleSha256 "refresh-1"
  familyId := "family-1"
  jti := "jti-1"
  expiresAt := 604800000
  revokedAt := none
  replacedByTokenId := none
  lastUsedAt := none

def sessionDb : AuthDb :=
  { AuthDb.empty with
    users := .singleton attendee
    refreshTokens := .singleton firstToken }

def twoRefreshes : List SessionCall :=
  [refresh "refresh-1" (rotateRefreshToken sampleRuntime "refresh-1" nobody),
    refresh "refresh-1" (rotateRefreshToken sampleRuntime "refresh-1" nobody)]

/-- Both refreshes read the token before either of them claims it. -/
def bothRead : List (ℕ × AuthEnv) :=
  [(0, sampleEnv 0 "2"), (1, sampleEnv 0 "3"), (0, sampleEnv 1 "2"), (0, sampleEnv 2 "2"),
    (1, sampleEnv 3 "3"), (1, sampleEnv 4 "3"), (1, sampleEnv 5 "3")]

def isReused : SessionCall → Bool
  | refresh "refresh-1" (.returned (.error x)) => x == reuseError
  | _ => false

/-- One of two refreshes at the same time is told of the reuse; the family is revoked. -/
theorem refreshed_at_once : ∃ p : Pool AuthDb SessionCall,
    p.shared.refreshTokens.rows.length = 2 ∧
      ∃ r ∈ p.shared.refreshTokens.rows, live r.familyId p.shared.refreshTokens = 0 := by
  have hrun : ((sessions sampleRuntime).play (fun _ _ _ ↦ true) bothRead
      ⟨sessionDb, twoRefreshes⟩).any (fun p ↦
        p.shared.refreshTokens.rows.length == 2 && p.threads.any isReused) = true := by
    decide +kernel
  obtain ⟨p, hp, htest⟩ := (Option.any_eq_true ..).mp hrun
  have hsingle (f : String) : live f sessionDb.refreshTokens ≤ 1 := List.countP_le_length
  have hinit : Reach (sessions sampleRuntime).Step (fun _ _ ↦ True) FreshFamilies
      ⟨sessionDb, []⟩ := .start ⟨rfl, hsingle⟩
  have hstarts : ∀ t ∈ twoRefreshes, (sessions sampleRuntime).start t := by
    intro t ht
    simp only [twoRefreshes, List.mem_cons, List.not_mem_nil, or_false, or_self] at ht
    exact .inl ⟨_, _, ht⟩
  have hreach := Machine.reach_play (fun _ _ _ _ ↦ trivial)
    (Machine.reach_spawnAll (fun _ _ _ ↦ trivial) hstarts hinit) hp
  rw [Bool.and_eq_true, beq_iff_eq] at htest
  obtain ⟨t, ht, hreused⟩ := List.any_eq_true.mp htest.2
  unfold isReused at hreused
  split at hreused
  · next x =>
    rw [eq_of_beq hreused] at ht
    obtain ⟨r, hr, -, hlater⟩ := (refresh_family_safe hreach).2.2 _ ht
    exact ⟨p, htest.1, r, hr, (hlater p (.start rfl)).1⟩
  · cases hreused

end Sample

end Innovents.Auth
