import Innovents.BusinessProfiles.BusinessProfilesService
import Mathlib.Data.List.Forall2

namespace Innovents.BusinessProfiles

open Innovents.Lib Innovents.Auth BusinessProfilesService
open Innovents.Payments (Time AccountStatus)

variable {W : Type} {prisma : Prisma W} {m : ProfileModel} {userId : String} {env : AuthEnv}
  {db db' db'' : ProfileDb W} {row row' row'' : ProfileRow}

/-- The columns that a profile update leaves alone. -/
def guarded : List String := ["id", "userId", "createdAt", "deletedAt", "stripeCustomerId"]

def KeepsGuarded (userId : String) (row row' : ProfileRow) : Prop :=
  row' = row ∨ isOwn userId row = true ∧ ∀ key ∈ guarded, row' key = row key

/-- The databases differ at most in the audit log and in the other columns of the caller's profile. -/
structure SameFrame (m : ProfileModel) (userId : String) (db db' : ProfileDb W) : Prop where
  users : db'.users = db.users
  others : db'.others = db.others
  profiles : ∀ m', m' ≠ m → db'.profiles m' = db.profiles m'
  rows : List.Forall₂ (KeepsGuarded userId) (db.profiles m) (db'.profiles m)

/-- The database with the caller's profile, which a first update creates. -/
def withProfile (m : ProfileModel) (userId : String) (env : AuthEnv) (db : ProfileDb W) :
    ProfileDb W :=
  if (db.profiles m).any (isOwn userId) then db
  else db.withRows m (db.profiles m ++
    [newRow m userId env ((db.profiles m).filterMap fun row ↦ (row "id").asStr?)])

/-- An update changes nothing but the caller's one profile and the audit log. -/
def Framed (m : ProfileModel) (userId : String) (env : AuthEnv) (db db' : ProfileDb W) : Prop :=
  SameFrame m userId (withProfile m userId env db) db'

/-- What is left of the data without the keys that the sanitizing misses. -/
def plain (m : ProfileModel) (data : Body) : Body :=
  data.filter fun p ↦ p.1 ≠ "stripeCustomerId" ∧ p.1 ∉ m.relations

/-- The keys that the sanitizing misses. -/
def missed (m : ProfileModel) (data : Body) : Body :=
  data.filter fun p ↦ p.1 = "stripeCustomerId" ∨ p.1 ∈ m.relations

/-- On the profile that the other keys have written, the missed keys of the body change nothing but
columns of the caller's profile that are not guarded. -/
def Harmless (prisma : Prisma W) (m : ProfileModel) (userId : String) (body : Body) (env : AuthEnv)
    (db : ProfileDb W) : Prop :=
  ∀ db₁ db₂,
    putRow prisma m userId (plain m (createData m (sanitize body))) (plain m (sanitize body)) env
      db = .ok db₁ →
    upserted prisma m userId [] (missed m (sanitize body)) env db₁ = .ok db₂ →
    SameFrame m userId db₁ db₂

section Frame

theorem KeepsGuarded.own (h : KeepsGuarded userId row row') : isOwn userId row' = isOwn userId row := by
  rcases h with rfl | ⟨-, h⟩
  · rfl
  · rw [isOwn, isOwn, h "userId" (by decide)]

theorem KeepsGuarded.symm (h : KeepsGuarded userId row row') : KeepsGuarded userId row' row := by
  rcases h with rfl | ⟨hown, hkeys⟩
  · exact .inl rfl
  · have hsame := KeepsGuarded.own (.inr ⟨hown, hkeys⟩)
    exact .inr ⟨hsame.trans hown, fun key hkey ↦ (hkeys key hkey).symm⟩

theorem KeepsGuarded.trans (h : KeepsGuarded userId row row') (h' : KeepsGuarded userId row' row'') :
    KeepsGuarded userId row row'' := by
  have hown := h.own
  rcases h with rfl | ⟨ho, hkeys⟩
  · exact h'
  · rcases h' with rfl | ⟨-, hkeys'⟩
    · exact .inr ⟨ho, hkeys⟩
    · exact .inr ⟨ho, fun key hkey ↦ (hkeys' key hkey).trans (hkeys key hkey)⟩

theorem KeepsGuarded.key (h : KeepsGuarded userId row row') {key : String} (hkey : key ∈ guarded) :
    row' key = row key := by
  rcases h with rfl | ⟨-, hkeys⟩
  · rfl
  · exact hkeys key hkey

theorem forall₂_trans {ρ : Type} {P : ρ → ρ → Prop} (htrans : ∀ a b c, P a b → P b c → P a c)
    {xs ys zs : List ρ} (h : List.Forall₂ P xs ys) (h' : List.Forall₂ P ys zs) :
    List.Forall₂ P xs zs := by
  induction h generalizing zs with
  | nil => exact h'
  | cons hab _ ih =>
    cases h' with
    | cons hbc hrest => exact .cons (htrans _ _ _ hab hbc) (ih hrest)

theorem SameFrame.symm (h : SameFrame m userId db db') : SameFrame m userId db' db :=
  ⟨h.users.symm, h.others.symm, fun m' hm ↦ (h.profiles m' hm).symm,
    h.rows.flip.imp fun _ _ ↦ KeepsGuarded.symm⟩

theorem SameFrame.trans (h : SameFrame m userId db db') (h' : SameFrame m userId db' db'') :
    SameFrame m userId db db'' :=
  ⟨h'.users.trans h.users, h'.others.trans h.others,
    fun m' hm ↦ (h'.profiles m' hm).trans (h.profiles m' hm),
    forall₂_trans (P := KeepsGuarded userId) (fun _ _ _ h h' ↦ h.trans h') h.rows h'.rows⟩

theorem sameFrame_withRows {rows rows' : List ProfileRow}
    (h : List.Forall₂ (KeepsGuarded userId) rows rows') :
    SameFrame m userId (db.withRows m rows) (db.withRows m rows') := by
  refine ⟨rfl, rfl, fun m' hm ↦ ?_, by simpa using h⟩
  rw [ProfileDb.withRows_other _ hm, ProfileDb.withRows_other _ hm]

theorem sameFrame_of_rows {rows : List ProfileRow}
    (h : List.Forall₂ (KeepsGuarded userId) (db.profiles m) rows) :
    SameFrame m userId db (db.withRows m rows) :=
  ⟨rfl, rfl, fun _ hm ↦ ProfileDb.withRows_other _ hm _, by simpa using h⟩

end Frame

section Columns

theorem mapM_split {χ ρ : Type} {f g h : ρ → Except χ ρ} {xs ys : List ρ}
    (hf : xs.mapM f = .ok ys) (hsplit : ∀ x y, f x = .ok y → ∃ z, g x = .ok z ∧ h z = .ok y) :
    ∃ zs, xs.mapM g = .ok zs ∧ zs.mapM h = .ok ys := by
  induction xs generalizing ys with
  | nil => exact ⟨[], rfl, hf⟩
  | cons x xs ih =>
    rw [List.mapM_cons] at hf
    obtain ⟨y, hy, hf⟩ := andThen_eq_ok.mp hf
    obtain ⟨rest, hrest, hf⟩ := andThen_eq_ok.mp hf
    obtain ⟨z, hz, hzy⟩ := hsplit x y hy
    obtain ⟨zs, hzs, hzsys⟩ := ih hrest
    refine ⟨z :: zs, ?_, ?_⟩
    · rw [List.mapM_cons]
      exact andThen_eq_ok.mpr ⟨z, hz, andThen_eq_ok.mpr ⟨zs, hzs, rfl⟩⟩
    · rw [List.mapM_cons]
      exact andThen_eq_ok.mpr ⟨y, hzy, andThen_eq_ok.mpr ⟨rest, hzsys, hf⟩⟩

theorem mapM_same {χ ρ : Type} {f : ρ → Except χ ρ} {xs : List ρ} (hf : ∀ x ∈ xs, f x = .ok x) :
    xs.mapM f = .ok xs := by
  induction xs with
  | nil => rfl
  | cons x xs ih =>
    rw [List.mapM_cons]
    exact andThen_eq_ok.mpr ⟨x, hf x List.mem_cons_self, andThen_eq_ok.mpr
      ⟨xs, ih fun y hy ↦ hf y (List.mem_cons_of_mem _ hy), rfl⟩⟩

variable {data : Body} {p : String × JsValue} {key : String} {value : JsValue}

theorem writeRow_cons_column (hp : p.1 ∈ m.columns) :
    writeRow prisma m (p :: data) row = (do
      let value ← prisma.column m p.1 p.2 (row p.1)
      writeRow prisma m data (Function.update row p.1 value)) := by
  rw [writeRow, List.filter_cons_of_pos (by simpa using hp), List.foldlM_cons]
  cases prisma.column m p.1 p.2 (row p.1) <;> rfl

theorem writeRow_cons_other (hp : p.1 ∉ m.columns) :
    writeRow prisma m (p :: data) row = writeRow prisma m data row := by
  rw [writeRow, List.filter_cons_of_neg (by simpa using hp), writeRow]

theorem writeRow_keeps (hdata : ∀ p ∈ data, p.1 ≠ key)
    (h : writeRow prisma m data row = .ok row') : row' key = row key := by
  refine foldlM_keeps (I := fun r ↦ r key = row key) ?_ rfl h
  intro p hp r r' hr hr'
  obtain ⟨value, -, hr'⟩ := andThen_eq_ok.mp hr'
  cases hr'
  rw [Function.update_of_ne (hdata p (List.mem_of_mem_filter hp)).symm]
  exact hr

/-- The write of a column looks at that column only. -/
theorem writeRow_update (hdata : ∀ p ∈ data, p.1 ≠ key)
    (h : writeRow prisma m data row = .ok row') :
    writeRow prisma m data (Function.update row key value) = .ok (Function.update row' key value) := by
  induction data generalizing row with
  | nil =>
    cases h
    rfl
  | cons p data ih =>
    have hrest := fun q hq ↦ hdata q (List.mem_cons_of_mem p hq)
    have hne := hdata p List.mem_cons_self
    by_cases hp : p.1 ∈ m.columns
    · rw [writeRow_cons_column hp] at h ⊢
      obtain ⟨v, hv, h⟩ := andThen_eq_ok.mp h
      refine andThen_eq_ok.mpr ⟨v, ?_, ?_⟩
      · rw [Function.update_of_ne hne]
        exact hv
      · rw [Function.update_comm hne.symm]
        exact ih hrest h
    · rw [writeRow_cons_other hp] at h ⊢
      exact ih hrest h

/-- The other direction of `writeRow_update`: the row without the column's value is written too. -/
theorem exists_writeRow (hdata : ∀ p ∈ data, p.1 ≠ key)
    (h : writeRow prisma m data (Function.update row key value) = .ok row') :
    ∃ r, writeRow prisma m data row = .ok r ∧ row' = Function.update r key value := by
  have hback : writeRow prisma m data
      (Function.update (Function.update row key value) key (row key)) =
        .ok (Function.update row' key (row key)) := writeRow_update hdata h
  rw [Function.update_idem, Function.update_eq_self] at hback
  refine ⟨_, hback, ?_⟩
  have hkept := writeRow_keeps hdata h
  rw [Function.update_self] at hkept
  rw [Function.update_idem, ← hkept, Function.update_eq_self]

/-- Data without a guarded column leaves these columns as they are. -/
theorem writeRow_guarded (hdata : ∀ p ∈ data, p.1 ∉ guarded)
    (h : writeRow prisma m data row = .ok row') : ∀ key ∈ guarded, row' key = row key :=
  fun _ hkey ↦ writeRow_keeps (fun p hp he ↦ hdata p hp (he ▸ hkey)) h

theorem relation_not_column (h : key ∈ m.relations) : key ∉ m.columns := by
  have hall : ∀ key ∈ m.relations, key ∉ m.columns := by cases m <;> decide
  exact hall key h

theorem ne_of_plain (hp : p ∈ plain m data) : p.1 ≠ "stripeCustomerId" := by
  simp only [plain, List.mem_filter, decide_eq_true_eq] at hp
  exact hp.2.1

/-- A row is written as well with the missed keys last. -/
theorem writeRow_split (h : writeRow prisma m data row = .ok row') :
    ∃ r, writeRow prisma m (plain m data) row = .ok r ∧
      writeRow prisma m (missed m data) r = .ok row' := by
  induction data generalizing row with
  | nil => exact ⟨row, rfl, h⟩
  | cons p data ih =>
    by_cases hp : p.1 ∈ m.columns
    · have hrel : p.1 ∉ m.relations := fun hrel ↦ relation_not_column hrel hp
      rw [writeRow_cons_column hp] at h
      obtain ⟨v, hv, h⟩ := andThen_eq_ok.mp h
      obtain ⟨r, hr, hr'⟩ := ih h
      by_cases hstripe : p.1 = "stripeCustomerId"
      · have hplain : ∀ q ∈ plain m data, q.1 ≠ p.1 := fun q hq ↦ hstripe ▸ ne_of_plain hq
        obtain ⟨r₀, hr₀, rfl⟩ := exists_writeRow hplain hr
        refine ⟨r₀, ?_, ?_⟩
        · rw [plain, List.filter_cons_of_neg (by simp [hstripe])]
          exact hr₀
        · rw [missed, List.filter_cons_of_pos (by simp [hstripe]), writeRow_cons_column hp]
          refine andThen_eq_ok.mpr ⟨v, ?_, hr'⟩
          rw [writeRow_keeps hplain hr₀]
          exact hv
      · refine ⟨r, ?_, ?_⟩
        · rw [plain, List.filter_cons_of_pos (by simp [hstripe, hrel]), writeRow_cons_column hp]
          exact andThen_eq_ok.mpr ⟨v, hv, hr⟩
        · rw [missed, List.filter_cons_of_neg (by simp [hstripe, hrel])]
          exact hr'
    · rw [writeRow_cons_other hp] at h
      obtain ⟨r, hr, hr'⟩ := ih h
      refine ⟨r, ?_, ?_⟩
      · by_cases hplain : p.1 ≠ "stripeCustomerId" ∧ p.1 ∉ m.relations
        · rw [plain, List.filter_cons_of_pos (by simpa using hplain), writeRow_cons_other hp]
          exact hr
        · rw [plain, List.filter_cons_of_neg (by simpa using hplain)]
          exact hr
      · by_cases hmissed : p.1 = "stripeCustomerId" ∨ p.1 ∈ m.relations
        · rw [missed, List.filter_cons_of_pos (by simpa using hmissed), writeRow_cons_other hp]
          exact hr'
        · rw [missed, List.filter_cons_of_neg (by simpa using hmissed)]
          exact hr'

theorem sanitize_unguarded {body : Body} (hp : p ∈ plain m (sanitize body)) : p.1 ∉ guarded := by
  simp only [plain, sanitize, List.mem_filter, decide_eq_true_eq, List.mem_cons, List.not_mem_nil,
    or_false, not_or] at hp
  simp only [guarded, List.mem_cons, List.not_mem_nil, or_false, not_or]
  exact ⟨hp.1.2.1, hp.1.2.2.1, hp.1.2.2.2.1, hp.1.2.2.2.2.2, hp.2.1⟩

theorem not_updatedAt {body : Body} (hp : p ∈ sanitize body) : p.1 ≠ "updatedAt" := by
  simp only [sanitize, List.mem_filter, decide_eq_true_eq, List.mem_cons, List.not_mem_nil,
    or_false, not_or] at hp
  exact hp.2.2.2.2.1

/-- The defaults of a new profile are for ordinary columns. -/
theorem mem_createData {body : Body} (hp : p ∈ createData m (sanitize body)) :
    p ∈ sanitize body ∨
      p.1 ∉ guarded ∧ p.1 ≠ "updatedAt" ∧ p.1 ≠ "stripeCustomerId" ∧ p.1 ∉ m.relations := by
  rw [createData, List.mem_append] at hp
  rcases hp with hp | hp
  · obtain ⟨q, hq, rfl⟩ := List.mem_map.mp (List.mem_of_mem_filter hp)
    have hrequired : ∀ q ∈ m.required, q.1 ∉ guarded ∧ q.1 ≠ "updatedAt" ∧
        q.1 ≠ "stripeCustomerId" ∧ q.1 ∉ m.relations := by cases m <;> decide
    exact .inr (hrequired q hq)
  · exact .inl hp

theorem createData_unguarded {body : Body} (hp : p ∈ plain m (createData m (sanitize body))) :
    p.1 ∉ guarded := by
  obtain ⟨hmem, hplain⟩ := List.mem_filter.mp hp
  rcases mem_createData hmem with hmem | hmem
  · exact sanitize_unguarded (List.mem_filter.mpr ⟨hmem, hplain⟩)
  · exact hmem.1

theorem missed_createData {body : Body} :
    missed m (createData m (sanitize body)) = missed m (sanitize body) := by
  have hnone : missed m ((m.required.map fun p ↦
      (p.1, (JsValue.get (.obj (sanitize body)) p.1).or (.str p.2))).filter
        (fun p ↦ p.1 ∉ (sanitize body).map Prod.fst)) = [] := by
    rw [missed, List.filter_eq_nil_iff]
    intro p hp
    obtain ⟨q, hq, rfl⟩ := List.mem_map.mp (List.mem_of_mem_filter hp)
    have hrequired : ∀ q ∈ m.required, q.1 ≠ "stripeCustomerId" ∧ q.1 ∉ m.relations := by
      cases m <;> decide
    simpa using hrequired q hq
  rw [missed, createData, List.filter_append]
  rw [missed] at hnone
  rw [hnone, List.nil_append, missed]

theorem relations_missed : (missed m data).filter (fun p ↦ p.1 ∈ m.relations) =
    data.filter fun p ↦ p.1 ∈ m.relations := by
  rw [missed, List.filter_filter]
  refine List.filter_congr fun p _ ↦ ?_
  by_cases h : p.1 ∈ m.relations <;> simp [h]

end Columns

section Upsert

theorem putRow_frame {create update : Body} (hcreate : ∀ p ∈ create, p.1 ∉ guarded)
    (hupdate : ∀ p ∈ update, p.1 ∉ guarded)
    (h : putRow prisma m userId create update env db = .ok db') :
    SameFrame m userId (withProfile m userId env db) db' := by
  unfold putRow at h
  unfold withProfile
  split_ifs at h ⊢
  · obtain ⟨rows, hrows, h⟩ := andThen_eq_ok.mp h
    cases h
    refine sameFrame_of_rows ((mapM_forall₂ hrows).imp fun row row' hrow ↦ ?_)
    split_ifs at hrow with hown
    · obtain ⟨row₁, hrow₁, hrow⟩ := andThen_eq_ok.mp hrow
      cases hrow
      refine .inr ⟨hown, fun key hkey ↦ ?_⟩
      have hne : key ≠ "updatedAt" := fun he ↦ absurd (he ▸ hkey) (by decide)
      rw [Function.update_of_ne hne]
      exact writeRow_guarded hupdate hrow₁ key hkey
    · cases hrow
      exact .inl rfl
  · obtain ⟨row, hrow, h⟩ := andThen_eq_ok.mp h
    cases h
    refine sameFrame_withRows (List.rel_append (List.forall₂_same.mpr fun _ _ ↦ .inl rfl)
      (.cons (.inr ⟨?_, ?_⟩) .nil))
    · simp [isOwn, newRow, JsValue.isStr]
    · exact writeRow_guarded hcreate hrow

theorem isOwn_of_writeRow {data : Body} (hdata : ∀ p ∈ data, p.1 ∉ guarded)
    (h : writeRow prisma m data row = .ok row') : isOwn userId row' = isOwn userId row := by
  rw [isOwn, isOwn, writeRow_guarded hdata h "userId" (by decide)]

/-- What an update makes of one row. -/
def updateRow (prisma : Prisma W) (m : ProfileModel) (userId : String) (update : Body)
    (env : AuthEnv) (row : ProfileRow) : Except AuthError ProfileRow :=
  if isOwn userId row then do
    let row ← writeRow prisma m update row
    return Function.update row "updatedAt" (.date env.now)
  else return row

theorem putRow_update {create update : Body} (hown : (db.profiles m).any (isOwn userId) = true) :
    putRow prisma m userId create update env db = (do
      let rows ← (db.profiles m).mapM (updateRow prisma m userId update env)
      return db.withRows m rows) := by
  rw [putRow, if_pos hown]
  rfl

theorem updateRow_split {update : Body} (hupdate : ∀ p ∈ update, p.1 ≠ "updatedAt")
    (hplain : ∀ p ∈ plain m update, p.1 ∉ guarded)
    (h : updateRow prisma m userId update env row = .ok row') :
    ∃ r, updateRow prisma m userId (plain m update) env row = .ok r ∧
      updateRow prisma m userId (missed m update) env r = .ok row' := by
  unfold updateRow at h ⊢
  split_ifs at h ⊢ with hown
  · obtain ⟨row₁, hrow₁, h⟩ := andThen_eq_ok.mp h
    cases h
    obtain ⟨r, hr, hr'⟩ := writeRow_split hrow₁
    refine ⟨_, andThen_eq_ok.mpr ⟨r, hr, rfl⟩, ?_⟩
    have hown' : isOwn userId (Function.update r "updatedAt" (.date env.now)) = true := by
      rw [isOwn, Function.update_of_ne (by decide)]
      exact (isOwn_of_writeRow hplain hr).trans hown
    rw [if_pos hown']
    have hstamped : writeRow prisma m (missed m update)
        (Function.update r "updatedAt" (.date env.now)) =
          .ok (Function.update row₁ "updatedAt" (.date env.now)) :=
      writeRow_update (fun p hp ↦ hupdate p (List.mem_of_mem_filter hp)) hr'
    refine andThen_eq_ok.mpr ⟨_, hstamped, ?_⟩
    rw [Function.update_idem]
    rfl
  · cases h
    exact ⟨row, rfl, if_neg hown⟩

theorem withRows_withRows {rows rows' : List ProfileRow} :
    (db.withRows m rows).withRows m rows' = db.withRows m rows' := by
  simp [ProfileDb.withRows]

theorem updateRow_own {update : Body} (hupdate : ∀ p ∈ update, p.1 ∉ guarded)
    (h : updateRow prisma m userId update env row = .ok row') :
    isOwn userId row' = isOwn userId row := by
  unfold updateRow at h
  split_ifs at h
  · obtain ⟨r, hr, h⟩ := andThen_eq_ok.mp h
    cases h
    rw [isOwn, Function.update_of_ne (by decide)]
    exact isOwn_of_writeRow hupdate hr
  · cases h
    rfl

theorem any_own {rows rows' : List ProfileRow}
    (h : List.Forall₂ (fun row row' ↦ isOwn userId row' = isOwn userId row) rows rows') :
    rows'.any (isOwn userId) = rows.any (isOwn userId) := by
  induction h with
  | nil => rfl
  | cons h _ ih => rw [List.any_cons, List.any_cons, h, ih]

/-- A profile is written as well with the missed keys in a second update. -/
theorem putRow_split {create update : Body} (hcreate : ∀ p ∈ create, p.1 ≠ "updatedAt")
    (hupdate : ∀ p ∈ update, p.1 ≠ "updatedAt") (hmissed : missed m create = missed m update)
    (hcreatePlain : ∀ p ∈ plain m create, p.1 ∉ guarded)
    (hupdatePlain : ∀ p ∈ plain m update, p.1 ∉ guarded)
    (h : putRow prisma m userId create update env db = .ok db') :
    ∃ db₁, putRow prisma m userId (plain m create) (plain m update) env db = .ok db₁ ∧
      (db₁.profiles m).any (isOwn userId) = true ∧
      putRow prisma m userId [] (missed m update) env db₁ = .ok db' := by
  by_cases hown : (db.profiles m).any (isOwn userId) = true
  · rw [putRow_update hown] at h ⊢
    obtain ⟨rows, hrows, h⟩ := andThen_eq_ok.mp h
    cases h
    obtain ⟨rows₁, hrows₁, hrows⟩ :=
      mapM_split hrows fun _ _ ↦ updateRow_split hupdate hupdatePlain
    have hown₁ : ((db.withRows m rows₁).profiles m).any (isOwn userId) = true := by
      rw [ProfileDb.withRows_self, ← hown]
      exact any_own ((mapM_forall₂ hrows₁).imp fun _ _ ↦ updateRow_own hupdatePlain)
    refine ⟨_, andThen_eq_ok.mpr ⟨rows₁, hrows₁, rfl⟩, hown₁, ?_⟩
    rw [putRow_update hown₁, ProfileDb.withRows_self]
    refine andThen_eq_ok.mpr ⟨rows, hrows, ?_⟩
    rw [withRows_withRows]
    rfl
  · unfold putRow at h ⊢
    rw [if_neg hown] at h ⊢
    obtain ⟨row, hrow, h⟩ := andThen_eq_ok.mp h
    cases h
    obtain ⟨r, hr, hr'⟩ := writeRow_split hrow
    rw [hmissed] at hr'
    have hnew : isOwn userId r = true := by
      rw [isOwn_of_writeRow hcreatePlain hr]
      simp [isOwn, newRow, JsValue.isStr]
    have hlast : updateRow prisma m userId (missed m update) env r = .ok row := by
      rw [updateRow, if_pos hnew]
      refine andThen_eq_ok.mpr ⟨row, hr', ?_⟩
      -- the new row carries the time of the write already
      have hstamp := writeRow_keeps hcreate hrow
      rw [show newRow m userId env _ "updatedAt" = .date env.now from rfl] at hstamp
      rw [← hstamp, Function.update_eq_self]
      rfl
    refine ⟨_, andThen_eq_ok.mpr ⟨r, hr, rfl⟩, by simp [hnew], ?_⟩
    rw [if_pos (by simp [hnew]), ProfileDb.withRows_self]
    have hothers : (db.profiles m).mapM (updateRow prisma m userId (missed m update) env) =
        .ok (db.profiles m) := by
      refine mapM_same fun row hrow ↦ if_neg fun h ↦ hown ?_
      exact List.any_eq_true.mpr ⟨row, hrow, h⟩
    refine andThen_eq_ok.mpr ⟨db.profiles m ++ [row], ?_, ?_⟩
    · show (db.profiles m ++ [r]).mapM (updateRow prisma m userId (missed m update) env) = _
      rw [List.mapM_append, hothers]
      refine andThen_eq_ok.mpr ⟨_, rfl, andThen_eq_ok.mpr ⟨[row], ?_, rfl⟩⟩
      rw [List.mapM_cons]
      exact andThen_eq_ok.mpr ⟨row, hlast, rfl⟩
    · rw [withRows_withRows]
      rfl

theorem checkKeys_update {creating : Bool} {data data' : Body}
    (h : checkKeys m creating data = .ok ()) (hsub : ∀ p ∈ data', p ∈ data) :
    checkKeys m false data' = .ok () := by
  have hall : data.all (fun p ↦ p.1 ∈ m.columns ++ m.relations) = true := by
    by_contra hnot
    rw [checkKeys, if_pos (Bool.not_eq_true _ ▸ hnot)] at h
    cases h
  rw [List.all_eq_true] at hall
  have hall' : data'.all (fun p ↦ p.1 ∈ m.columns ++ m.relations) = true :=
    List.all_eq_true.mpr fun p hp ↦ hall p (hsub p hp)
  rw [checkKeys, if_neg (by rw [hall']; decide), Bool.false_and, if_neg (by decide)]

/-- The keys that are written, in a new row or in the caller's. -/
def chosen (m : ProfileModel) (userId : String) (body : Body) (db : ProfileDb W) : Body :=
  if !(db.profiles m).any (isOwn userId) then createData m (sanitize body) else sanitize body

theorem missed_chosen {body : Body} :
    missed m (chosen m userId body db) = missed m (sanitize body) := by
  unfold chosen
  split_ifs
  · exact missed_createData
  · rfl

theorem sanitize_chosen {body : Body} (hp : p ∈ sanitize body) : p ∈ chosen m userId body db := by
  unfold chosen
  split_ifs
  · exact List.mem_append_right _ hp
  · exact hp

/-- An upsert that succeeds, with the missed keys in a second one. -/
theorem upserted_split {body : Body} (h : upserted prisma m userId
      (createData m (sanitize body)) (sanitize body) env db = .ok db') :
    ∃ db₁, putRow prisma m userId (plain m (createData m (sanitize body)))
        (plain m (sanitize body)) env db = .ok db₁ ∧
      upserted prisma m userId [] (missed m (sanitize body)) env db₁ = .ok db' := by
  obtain ⟨⟨⟩, hkeys, h⟩ := andThen_eq_ok.mp h
  obtain ⟨written, hwritten, h⟩ := andThen_eq_ok.mp h
  obtain ⟨db₁, hdb₁, hown, hput⟩ := putRow_split
    (fun p hp ↦ (mem_createData hp).elim not_updatedAt fun h ↦ h.2.1) (fun _ ↦ not_updatedAt)
    missed_createData (fun _ ↦ createData_unguarded) (fun _ ↦ sanitize_unguarded) hwritten
  refine ⟨db₁, hdb₁, andThen_eq_ok.mpr ⟨(), ?_, andThen_eq_ok.mpr ⟨written, hput, ?_⟩⟩⟩
  · rw [hown]
    exact checkKeys_update hkeys fun p hp ↦ sanitize_chosen (List.mem_of_mem_filter hp)
  · have hsame : (chosen m userId body db).filter (fun p ↦ p.1 ∈ m.relations) =
        (missed m (sanitize body)).filter fun p ↦ p.1 ∈ m.relations := by
      rw [← missed_chosen, relations_missed]
    rw [hown, Bool.not_true, if_neg (by decide), ← hsame]
    exact h

/-- With everything written, the frame holds just when the missed keys are harmless. -/
theorem framed_iff_harmless {body : Body} (h : upserted prisma m userId
      (createData m (sanitize body)) (sanitize body) env db = .ok db') :
    Framed m userId env db db' ↔ Harmless prisma m userId body env db := by
  obtain ⟨db₁, hdb₁, hdb'⟩ := upserted_split h
  have hplain := putRow_frame (fun _ ↦ createData_unguarded) (fun _ ↦ sanitize_unguarded) hdb₁
  constructor
  · intro hframed db₂ db₃ h₂ h₃
    cases hdb₁.symm.trans h₂
    cases hdb'.symm.trans h₃
    exact hplain.symm.trans hframed
  · intro hharmless
    exact hplain.trans (hharmless db₁ db' hdb₁ hdb')

theorem putRow_own {create update : Body} (hcreate : ∀ p ∈ create, p.1 ∉ guarded)
    (hupdate : ∀ p ∈ update, p.1 ∉ guarded)
    (h : putRow prisma m userId create update env db = .ok db') :
    (db'.profiles m).any (isOwn userId) = true := by
  rw [any_own ((putRow_frame hcreate hupdate h).rows.imp fun _ _ ↦ KeepsGuarded.own), withProfile]
  split_ifs with hown
  · exact hown
  · simp [isOwn, newRow, JsValue.isStr]

/-- A body without the missed keys. -/
theorem harmless_of_ordinary {body : Body}
    (hbody : ∀ p ∈ body, p.1 ≠ "stripeCustomerId" ∧ p.1 ∉ m.relations) :
    Harmless prisma m userId body env db := by
  intro db₁ db₂ h₁ h₂
  have hown := putRow_own (fun _ ↦ createData_unguarded) (fun _ ↦ sanitize_unguarded) h₁
  have hnone : missed m (sanitize body) = [] := by
    rw [missed, List.filter_eq_nil_iff]
    intro p hp
    simpa using hbody p (List.mem_of_mem_filter hp)
  rw [hnone] at h₂
  obtain ⟨⟨⟩, -, h₂⟩ := andThen_eq_ok.mp h₂
  obtain ⟨written, hwritten, h₂⟩ := andThen_eq_ok.mp h₂
  have hframe := putRow_frame (by simp) (by simp) hwritten
  rw [withProfile, if_pos hown] at hframe
  rw [ite_self, List.filter_nil, prisma.nested_nil] at h₂
  obtain ⟨db₃, h₃, h₂⟩ := andThen_eq_ok.mp h₂
  obtain ⟨⟨⟩, -, h₂⟩ := andThen_eq_ok.mp h₂
  cases h₃
  cases h₂
  exact hframe

end Upsert

section Update

/-- The statements after the upsert write the audit log only. -/
theorem log_getOwnProfile_each {params : CreateAuditLogParams} {client : Client} :
    ((log params client).bind fun _ ↦ getOwnProfile userId : ProfileCall W OwnProfileDto).Each
      fun _ db db' ↦ ∃ auditLogs, db' = { db with auditLogs } := by
  refine fun env db ↦ ⟨⟨_, rfl⟩, ?_⟩
  show (getOwnProfile userId : ProfileCall W OwnProfileDto).Each _
  refine Call.each_bind (Call.each_ask fun db ↦ ⟨db.auditLogs, rfl⟩) fun found ↦ ?_
  cases found with
  | none => trivial
  | some found => trivial

theorem exists_liveUser {body : Body} {client : Client} {profile : OwnProfileDto}
    {env₀ : AuthEnv} {envs : List AuthEnv}
    (h : Call.outcome (env₀ :: envs) db (updateOwnProfile prisma userId body client) =
      some (.ok profile, db')) : ∃ u, liveUser userId db = some u := by
  obtain ⟨found, hfound, h⟩ := Call.outcome_bind_ok (Call.outcome_ask_bind.symm.trans h)
  cases hfault : env₀.fault with
  | some message => simp [hfault] at hfound
  | none =>
    rw [hfault] at hfound
    cases found with
    | none =>
      rw [refuse, Call.outcome_returned] at h
      cases h
    | some u => exact ⟨u, Except.ok.inj hfound⟩

/-- The run of an update that succeeds: what the upsert writes, and audit logs. -/
theorem updateOwnProfile_writes {body : Body} {client : Client} {u : User} {profile : OwnProfileDto}
    {env₀ : AuthEnv} {envs : List AuthEnv} (hu : liveUser userId db = some u)
    (h : Call.outcome (env₀ :: env :: envs) db (updateOwnProfile prisma userId body client) =
      some (.ok profile, db')) :
    ∃ db₂ auditLogs, upserted prisma (.ofRoles u.userRoles) userId
      (createData (.ofRoles u.userRoles) (sanitize body)) (sanitize body) env db = .ok db₂ ∧
        db' = { db₂ with auditLogs } := by
  obtain ⟨found, hfound, h⟩ := Call.outcome_bind_ok (Call.outcome_ask_bind.symm.trans h)
  have hsome : found = some u := by
    cases hfault : env₀.fault with
    | some message => simp [hfault] at hfound
    | none =>
      rw [hfault] at hfound
      exact (Except.ok.inj hfound).symm.trans hu
  subst hsome
  obtain ⟨⟨⟩, hput, h⟩ := Call.outcome_bind_ok (Call.outcome_perform_bind.symm.trans h)
  cases hfault : env.fault with
  | some message => simp [hfault, Except.map] at hput
  | none =>
    simp only [hfault, Option.elim] at hput h
    cases hup : upserted prisma (.ofRoles u.userRoles) userId
        (createData (.ofRoles u.userRoles) (sanitize body)) (sanitize body) env db with
    | error x =>
      rw [hup] at hput
      cases hput
    | ok db₂ =>
      rw [hup] at h
      refine ⟨db₂, ?_⟩
      have hran := Call.ran_of_outcome (fun _ _ ↦ (trivial : True)) h
      obtain ⟨auditLogs, rfl⟩ := log_getOwnProfile_each.ran
        (J := fun db' ↦ ∃ auditLogs, db' = { db₂ with auditLogs })
        (fun _ db₃ db₄ ⟨_, h₃⟩ ⟨auditLogs, h₄⟩ ↦ ⟨auditLogs, by rw [h₄, h₃]⟩)
        hran ⟨db₂.auditLogs, rfl⟩
      exact ⟨auditLogs, rfl, rfl⟩

/-- A profile update that returns keeps to the caller's profile just when the keys that the
sanitizing misses are harmless. -/
theorem profile_frame {body : Body} {client : Client} {profile : OwnProfileDto} {env₀ : AuthEnv}
    {envs : List AuthEnv}
    (h : Call.outcome (env₀ :: env :: envs) db (updateOwnProfile prisma userId body client) =
      some (.ok profile, db')) :
    ∃ u, liveUser userId db = some u ∧
      (Framed (.ofRoles u.userRoles) userId env db db' ↔
        Harmless prisma (.ofRoles u.userRoles) userId body env db) := by
  obtain ⟨u, hu⟩ := exists_liveUser h
  obtain ⟨db₂, auditLogs, hdb₂, rfl⟩ := updateOwnProfile_writes hu h
  refine ⟨u, hu, Iff.trans ?_ (framed_iff_harmless hdb₂)⟩
  exact ⟨fun ⟨hu, ho, hp, hr⟩ ↦ ⟨hu, ho, hp, hr⟩, fun ⟨hu, ho, hp, hr⟩ ↦ ⟨hu, ho, hp, hr⟩⟩

end Update

section Sample

/-- Strings are strings, and nothing else is written. -/
def plainPrisma : Prisma Unit where
  column _ _ value _ := match value with
    | .str s => .ok (.str s)
    | _ => .error (.fault "PrismaClientValidationError")
  nested _ data _ db := if data = [] then .ok db else .error (.fault "PrismaClientValidationError")
  constraints _ := .ok ()
  nested_nil _ _ _ := rfl

/-- A sponsor with a Stripe customer. -/
def sponsorProfile : ProfileRow := fun key ↦
  if key = "id" then .str "profile-1"
  else if key = "userId" then .str "user-1"
  else if key = "companyName" then .str "Nile Sponsors"
  else if key = "stripeCustomerId" then .str "cus_own"
  else .null

def sponsorDb : ProfileDb Unit where
  users := .singleton { attendee with userRoles := ["SPONSOR"] }
  profiles m := if m = .sponsor then [sponsorProfile] else []
  auditLogs := Table.empty
  others := ()

def sampleEnvs : List AuthEnv := (List.range 4).map fun _ ↦ sampleEnv 1000 "1"

theorem company_name_framed : ∃ profile db',
    Call.outcome sampleEnvs sponsorDb (updateOwnProfile plainPrisma "user-1"
      [("companyName", .str "Delta Sponsors")] nobody) = some (.ok profile, db') ∧
    Framed .sponsor "user-1" (sampleEnv 1000 "1") sponsorDb db' := by
  obtain ⟨profile, db', hrun⟩ : ∃ profile db',
    Call.outcome sampleEnvs sponsorDb (updateOwnProfile plainPrisma "user-1"
      [("companyName", .str "Delta Sponsors")] nobody) = some (.ok profile, db') := ⟨_, _, rfl⟩
  obtain ⟨u, hu, hframe⟩ := profile_frame hrun
  cases hu
  exact ⟨profile, db', hrun, hframe.mpr (harmless_of_ordinary (by decide))⟩

/-- The body names another Stripe customer. -/
theorem stripe_customer_overwritten : ∃ profile db',
    Call.outcome sampleEnvs sponsorDb (updateOwnProfile plainPrisma "user-1"
      [("stripeCustomerId", .str "cus_other")] nobody) = some (.ok profile, db') ∧
    ¬ Framed .sponsor "user-1" (sampleEnv 1000 "1") sponsorDb db' := by
  refine ⟨_, _, rfl, fun h ↦ ?_⟩
  have hrows : List.Forall₂ (KeepsGuarded "user-1") [sponsorProfile]
    [Function.update (Function.update sponsorProfile "stripeCustomerId" (.str "cus_other"))
      "updatedAt" (.date 1000)] := h.rows
  cases hrows with
  | cons hrow _ =>
    have hkey : "stripeCustomerId" ∈ guarded := by decide
    simpa [sponsorProfile] using hrow.key hkey

end Sample

end Innovents.BusinessProfiles
