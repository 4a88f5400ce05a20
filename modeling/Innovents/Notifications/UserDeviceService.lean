import Innovents.Lib.Sequences
import Innovents.Notifications.CryptoUtil
import Innovents.Notifications.Schema
import Innovents.Platform.Accounts
import Mathlib.Data.List.Sort

namespace Innovents.Notifications

open Innovents.Lib Innovents.Auth Innovents.Platform
open Innovents.Payments (Time)

inductive DevicePlatform
  | android | ios | web
  deriving DecidableEq, Repr

/-- A row of `UserDevice`, with the token as it is stored. -/
structure UserDeviceRow where
  id : String
  userId : String
  platform : DevicePlatform
  token : String
  tokenHash : String
  isActive : Bool
  lastSeenAt : Time
  revokedAt : Option Time
  createdAt : Time
  updatedAt : Time

instance : Row UserDeviceRow := ⟨UserDeviceRow.id, [fun d ↦ some d.tokenHash]⟩

/-- The `update` of an upsert. -/
def UserDeviceRow.registered (userId : String) (platform : DevicePlatform) (token : String)
    (now : Time) (d : UserDeviceRow) : UserDeviceRow :=
  { d with
    userId
    platform
    token
    isActive := true
    revokedAt := none
    lastSeenAt := now
    updatedAt := now }

def UserDeviceRow.revoked (now : Time) (d : UserDeviceRow) : UserDeviceRow :=
  { d with
    isActive := false
    revokedAt := some now
    updatedAt := now }

structure DeviceDb where
  users : Table Payments.User
  userDevices : Table UserDeviceRow

/-- What a request takes from its surroundings: the clock, the failure that it runs into, the id of
a new row, and the random bytes of an encryption. -/
structure DeviceEnv where
  now : Time
  fault : Option String
  newId : String
  iv : Iv

instance : Faulty DeviceEnv AuthError := ⟨fun env ↦ env.fault.map AuthError.fault⟩

abbrev DeviceCall (α : Type) := Call String DeviceEnv DeviceDb AuthError α

structure RegisterDeviceDto where
  platform : DevicePlatform
  token : Utf16

structure UserDeviceResponseDto where
  id : String
  platform : DevicePlatform
  maskedToken : Utf16
  isActive : Bool
  lastSeenAt : Time
  createdAt : Time

structure DecryptedToken where
  id : String
  token : Utf16
  tokenHash : String

namespace UserDeviceService

open CryptoUtil

variable (c : Cipher) (encryptionKey : Utf16)

/-- `'***'` -/
def stars : Utf16 := [0x2A, 0x2A, 0x2A]

/-- The token is decrypted where no raw token is given, or an empty one. -/
def toResponseDto (device : UserDeviceRow) (rawTokenFallback : Option Utf16) :
    UserDeviceResponseDto :=
  let raw := (rawTokenFallback.filter (· ≠ [])).elim (decrypt c device.token encryptionKey) .ok
  { id := device.id
    platform := device.platform
    maskedToken := match raw with
      | .ok raw => if raw.length > 8 then stars ++ raw.drop (raw.length - 6) else stars
      | .error _ => stars
    isActive := device.isActive
    lastSeenAt := device.lastSeenAt
    createdAt := device.createdAt }

def upsertDevice (userId : String) (dto : RegisterDeviceDto) (env : DeviceEnv) (db : DeviceDb) :
    Except AuthError (DeviceDb × UserDeviceRow) := do
  let tokenHash := sha256 c dto.token.trim
  let encryptedToken := encrypt c env.iv dto.token.trim encryptionKey
  demand (db.users.has userId = true) (.fault "Foreign key constraint violated")
  match db.userDevices.find? (·.tokenHash == tokenHash) with
  | some device =>
    let registered := UserDeviceRow.registered userId dto.platform encryptedToken env.now
    let userDevices ← ofRefusal (db.userDevices.update device.id registered)
    return ({ db with userDevices }, registered device)
  | none =>
    let device : UserDeviceRow :=
      { id := env.newId
        userId
        platform := dto.platform
        token := encryptedToken
        tokenHash
        isActive := true
        lastSeenAt := env.now
        revokedAt := none
        createdAt := env.now
        updatedAt := env.now }
    let userDevices ← ofRefusal (db.userDevices.create device)
    return ({ db with userDevices }, device)

def registerDevice (userId : String) (dto : RegisterDeviceDto) : DeviceCall UserDeviceResponseDto := do
  let device ← Call.writes "userDevice.upsert" (upsertDevice c encryptionKey userId dto)
  return toResponseDto c encryptionKey device (some dto.token.trim)

/-- The devices of the user that are active. -/
def activeDevices (userId : String) (db : DeviceDb) : List UserDeviceRow :=
  db.userDevices.rows.filter fun d ↦ d.userId == userId && d.isActive

/-- `orderBy: { lastSeenAt: 'desc' }` -/
def SeenLater (a b : UserDeviceRow) : Prop := b.lastSeenAt ≤ a.lastSeenAt

instance : DecidableRel SeenLater := fun a b ↦
  inferInstanceAs (Decidable (b.lastSeenAt ≤ a.lastSeenAt))

def getUserDevices (userId : String) : DeviceCall (List UserDeviceResponseDto) := do
  let devices ← Call.reads "userDevice.findMany" fun _ db ↦
    (activeDevices userId db).insertionSort SeenLater
  return devices.map fun d ↦ toResponseDto c encryptionKey d none

def revokeDevice (userId deviceId : String) : DeviceCall Unit := do
  let found ← Call.reads "userDevice.findUnique" fun _ db ↦ db.userDevices.get? deviceId
  let device ← Call.returned (present found (refusal .notFound "Device not found"))
  Call.returned (demand (device.userId = userId)
    (refusal .forbidden "You are not authorized to revoke this device"))
  Call.writes "userDevice.update" fun env db ↦ do
    let userDevices ← ofRefusal (db.userDevices.update deviceId (UserDeviceRow.revoked env.now))
    return ({ db with userDevices }, ())

/-- An error is only logged. -/
def deactivateToken (tokenHash : String) : DeviceCall Unit := do
  let _ ← (Call.writes "userDevice.updateMany" fun env (db : DeviceDb) ↦ do
    let userDevices ← ofRefusal (db.userDevices.updateMany (·.tokenHash == tokenHash)
      (UserDeviceRow.revoked env.now))
    return ({ db with userDevices }, ())).attempt
  return

/-- A device whose token is not decrypted is left out. -/
def getActiveDecryptedTokens (userId : String) : DeviceCall (List DecryptedToken) := do
  let devices ← Call.reads "userDevice.findMany" fun _ db ↦ activeDevices userId db
  return devices.filterMap fun d ↦
    (decrypt c d.token encryptionKey).toOption.map fun rawToken ↦ ⟨d.id, rawToken, d.tokenHash⟩

end UserDeviceService

section Runs

open CryptoUtil UserDeviceService

inductive DeviceOp
  | registerDevice (userId : String) (dto : RegisterDeviceDto)
  | getUserDevices (userId : String)
  | revokeDevice (userId deviceId : String)
  | deactivateToken (tokenHash : String)
  | getActiveDecryptedTokens (userId : String)

inductive DeviceAnswer
  | device (dto : UserDeviceResponseDto)
  | devices (dtos : List UserDeviceResponseDto)
  | done
  | tokens (tokens : List DecryptedToken)

def DeviceOp.runs (c : Cipher) (encryptionKey : Utf16) : DeviceOp → DeviceCall DeviceAnswer
  | registerDevice userId dto =>
    .device <$> UserDeviceService.registerDevice c encryptionKey userId dto
  | getUserDevices userId => .devices <$> UserDeviceService.getUserDevices c encryptionKey userId
  | revokeDevice userId deviceId =>
    (fun _ ↦ .done) <$> UserDeviceService.revokeDevice userId deviceId
  | deactivateToken tokenHash => (fun _ ↦ .done) <$> UserDeviceService.deactivateToken tokenHash
  | getActiveDecryptedTokens userId =>
    .tokens <$> UserDeviceService.getActiveDecryptedTokens c encryptionKey userId

/-- The operations with their results, the latest first. -/
abbrev DeviceLog := List (DeviceOp × Except AuthError DeviceAnswer)

/-- The user and the trimmed token of the latest registration that was answered with the device. -/
def registeredWith (deviceId : String) : DeviceLog → Option (String × Utf16)
  | [] => none
  | (.registerDevice userId dto, .ok (.device response)) :: log =>
    if response.id = deviceId then some (userId, dto.token.trim) else registeredWith deviceId log
  | _ :: log => registeredWith deviceId log

/-- Every device has the token it was last registered with, encrypted, and devices stay. -/
structure Registered (c : Cipher) (encryptionKey : Utf16) (db : DeviceDb) (log : DeviceLog) : Prop where
  tokens : ∀ d ∈ db.userDevices.rows, ∃ token iv, registeredWith d.id log = some (d.userId, token) ∧
    d.token = encrypt c iv token encryptionKey
  stay : ∀ id, (registeredWith id log).isSome → db.userDevices.has id = true

/-- The devices stay, with their tokens. -/
structure TokensKept (db db' : DeviceDb) : Prop where
  old : ∀ d' ∈ db'.userDevices.rows, ∃ d ∈ db.userDevices.rows, d.id = d'.id ∧
    d.userId = d'.userId ∧ d.token = d'.token
  has : ∀ id, db.userDevices.has id = true → db'.userDevices.has id = true

variable {c : Cipher} {encryptionKey : Utf16} {userId : String} {dto : RegisterDeviceDto}
  {env : DeviceEnv} {db db' : DeviceDb} {device : UserDeviceRow} {log : DeviceLog}

theorem TokensKept.refl (db : DeviceDb) : TokensKept db db :=
  ⟨fun d hd ↦ ⟨d, hd, rfl, rfl, rfl⟩, fun _ h ↦ h⟩

theorem has_of_map {t t' : Table UserDeviceRow} {f : UserDeviceRow → UserDeviceRow} {id : String}
    (hrows : t'.rows = t.rows.map f) (hf : ∀ d, (f d).id = d.id) (h : t.has id = true) :
    t'.has id = true := by
  obtain ⟨d, hd, rfl⟩ := Table.has_iff.mp h
  exact Table.has_iff.mpr ⟨f d, hrows ▸ List.mem_map_of_mem hd, hf d⟩

/-- Rows are rewritten, and keep what belongs to their tokens. -/
theorem tokensKept_of_map {f : UserDeviceRow → UserDeviceRow}
    (hrows : db'.userDevices.rows = db.userDevices.rows.map f)
    (hf : ∀ d, (f d).id = d.id ∧ (f d).userId = d.userId ∧ (f d).token = d.token) :
    TokensKept db db' := by
  refine ⟨fun d' hd' ↦ ?_, fun id ↦ has_of_map hrows fun d ↦ (hf d).1⟩
  rw [hrows] at hd'
  obtain ⟨d, hd, rfl⟩ := List.mem_map.mp hd'
  exact ⟨d, hd, (hf d).1.symm, (hf d).2.1.symm, (hf d).2.2.symm⟩

/-- A row that is revoked keeps what belongs to its token. -/
theorem tokensKept_of_revoked {p : UserDeviceRow → Prop} [DecidablePred p] {now : Time}
    (hrows : db'.userDevices.rows =
      db.userDevices.rows.map fun d ↦ if p d then d.revoked now else d) : TokensKept db db' := by
  refine tokensKept_of_map hrows fun d ↦ ?_
  split_ifs
  · exact ⟨rfl, rfl, rfl⟩
  · exact ⟨rfl, rfl, rfl⟩

/-- What an upsert stores, and what it leaves as it is. -/
structure Upserted (c : Cipher) (encryptionKey : Utf16) (userId : String) (dto : RegisterDeviceDto)
    (device : UserDeviceRow) (db db' : DeviceDb) : Prop where
  owner : device.userId = userId
  token : ∃ iv, device.token = encrypt c iv dto.token.trim encryptionKey
  rows : ∀ d ∈ db'.userDevices.rows, d = device ∨ d ∈ db.userDevices.rows ∧ d.id ≠ device.id
  has : ∀ id, db.userDevices.has id = true ∨ id = device.id → db'.userDevices.has id = true

theorem upsertDevice_eq (h : upsertDevice c encryptionKey userId dto env db = .ok (db', device)) :
    Upserted c encryptionKey userId dto device db db' := by
  obtain ⟨_, -, h⟩ := andThen_eq_ok.mp h
  split at h
  · next found hfound =>
    obtain ⟨userDevices, hupdate, h⟩ := andThen_eq_ok.mp h
    cases h
    obtain ⟨hexists, hrows⟩ := Table.update_eq_ok.mp (ofRefusal_eq_ok.mp hupdate)
    refine ⟨rfl, ⟨env.iv, rfl⟩, fun d hd ↦ ?_, fun id hid ↦ ?_⟩
    · rcases Table.mem_updateRows.mp (hrows ▸ hd) with ⟨a, ha, hid, rfl⟩ | ⟨hold, hne⟩
      · rw [db.userDevices.eq_of_id ha (Table.find?_mem hfound).1 hid]
        exact .inl rfl
      · exact .inr ⟨hold, hne⟩
    · have hkept : ∀ id, db.userDevices.has id = true → userDevices.has id = true := by
        refine fun id ↦ has_of_map hrows fun d ↦ ?_
        split_ifs <;> rfl
      rcases hid with hid | rfl
      · exact hkept id hid
      · exact hkept _ (Table.has_iff.mpr hexists)
  · next hfound =>
    obtain ⟨userDevices, hcreate, h⟩ := andThen_eq_ok.mp h
    cases h
    have hcreate := ofRefusal_eq_ok.mp hcreate
    have hrows := Table.create_eq_ok.mp hcreate
    refine ⟨rfl, ⟨env.iv, rfl⟩, fun d hd ↦ ?_, fun id hid ↦ ?_⟩
    · rcases List.mem_append.mp (hrows ▸ hd) with hd | hd
      · refine .inr ⟨hd, fun hid ↦ ?_⟩
        rw [Table.create_refused hd (clash_of_id hid)] at hcreate
        cases hcreate
      · exact .inl (List.mem_singleton.mp hd)
    · rcases hid with hid | rfl
      · obtain ⟨d, hd, rfl⟩ := Table.has_iff.mp hid
        exact Table.has_iff.mpr ⟨d, hrows ▸ List.mem_append_left _ hd, rfl⟩
      · exact Table.has_iff.mpr ⟨_, hrows ▸ List.mem_append_right _ (List.mem_singleton_self _), rfl⟩

theorem Registered.kept (h : Registered c encryptionKey db log) (hkept : TokensKept db db')
    {log' : DeviceLog} (hlog : ∀ id, registeredWith id log' = registeredWith id log) :
    Registered c encryptionKey db' log' := by
  refine ⟨fun d' hd' ↦ ?_, fun id hid ↦ ?_⟩
  · obtain ⟨d, hd, hid, huser, htoken⟩ := hkept.old d' hd'
    obtain ⟨token, iv, hwith, hstored⟩ := h.tokens d hd
    refine ⟨token, iv, ?_, htoken ▸ hstored⟩
    rw [hlog, ← hid, hwith, huser]
  · rw [hlog] at hid
    exact hkept.has id (h.stay id hid)

theorem Registered.upserted {response : UserDeviceResponseDto} (h : Registered c encryptionKey db log)
    (hput : Upserted c encryptionKey userId dto device db db') (hid : response.id = device.id) :
    Registered c encryptionKey db'
      ((.registerDevice userId dto, .ok (.device response)) :: log) := by
  refine ⟨fun d hd ↦ ?_, fun id hsome ↦ ?_⟩
  · rw [registeredWith, hid]
    rcases hput.rows d hd with rfl | ⟨hold, hne⟩
    · obtain ⟨iv, htoken⟩ := hput.token
      exact ⟨_, iv, by rw [if_pos rfl, hput.owner], htoken⟩
    · rw [if_neg hne.symm]
      exact h.tokens d hold
  · rw [registeredWith, hid] at hsome
    split_ifs at hsome with hsame
    · exact hput.has id (.inr hsame.symm)
    · exact hput.has id (.inl (h.stay id hsome))

theorem registeredWith_other {op : DeviceOp} {r : Except AuthError DeviceAnswer}
    (hop : ∀ userId dto, op ≠ .registerDevice userId dto) (id : String) :
    registeredWith id ((op, r) :: log) = registeredWith id log := by
  cases op with
  | registerDevice userId dto => exact absurd rfl (hop userId dto)
  | getUserDevices | revokeDevice | deactivateToken | getActiveDecryptedTokens => rfl

/-- An operation other than a registration, each of whose requests keeps the tokens. -/
theorem Registered.alone {op : DeviceOp} (hop : ∀ userId dto, op ≠ .registerDevice userId dto)
    (hc : (op.runs c encryptionKey).Each fun _ ↦ TokensKept) (h : Registered c encryptionKey db log) :
    (op.runs c encryptionKey).Alone (fun _ _ ↦ True)
      (fun r db' ↦ Registered c encryptionKey db' ((op, r) :: log)) db := by
  refine Call.alone_mono (Call.alone_each (J := fun db ↦ Registered c encryptionKey db log)
    (hc.mono fun _ _ _ hkept _ hdb ↦ hdb.kept hkept fun _ ↦ rfl) h) fun r db' hdb ↦ ?_
  exact hdb.kept (TokensKept.refl db') (registeredWith_other hop)

theorem runs_registered (op : DeviceOp) (h : Registered c encryptionKey db log) :
    (op.runs c encryptionKey).Alone (fun _ _ ↦ True)
      (fun r db' ↦ Registered c encryptionKey db' ((op, r) :: log)) db := by
  have hread : ∀ db : DeviceDb, TokensKept db db := TokensKept.refl
  cases op with
  | registerDevice userId dto =>
    refine Call.alone_map (Call.alone_writes_bind (fun x ↦ ?_) fun env db' device _ hput ↦ ?_)
    · exact h.kept (hread db) fun _ ↦ rfl
    · exact h.upserted (upsertDevice_eq hput) rfl
  | getUserDevices userId =>
    exact h.alone nofun (Call.each_map (Call.each_bind (Call.each_reads hread) fun _ ↦
      Call.each_returned))
  | revokeDevice userId deviceId =>
    refine h.alone nofun (Call.each_map (Call.each_bind (Call.each_reads hread) fun _ ↦
      Call.each_bind Call.each_returned fun _ ↦ Call.each_bind Call.each_returned fun _ ↦
        Call.each_writes hread fun env db db' u hu ↦ ?_))
    obtain ⟨userDevices, hupdate, hu⟩ := andThen_eq_ok.mp hu
    cases hu
    exact tokensKept_of_revoked (Table.update_eq_ok.mp (ofRefusal_eq_ok.mp hupdate)).2
  | deactivateToken tokenHash =>
    refine h.alone nofun (Call.each_map (Call.each_bind (Call.each_attempt
      (Call.each_writes hread fun env db db' u hu ↦ ?_)) fun _ ↦ Call.each_returned))
    obtain ⟨userDevices, hupdate, hu⟩ := andThen_eq_ok.mp hu
    cases hu
    exact tokensKept_of_revoked (Table.store_eq_ok.mp (ofRefusal_eq_ok.mp hupdate))
  | getActiveDecryptedTokens userId =>
    exact h.alone nofun (Call.each_map (Call.each_bind (Call.each_reads hread) fun _ ↦
      Call.each_returned))

/-- There is no device, and nothing has been done. -/
def NoDevices (s : DeviceDb × DeviceLog) : Prop := s.1.userDevices.rows = [] ∧ s.2 = []

/-- Nothing fails. -/
def DeviceEnv.Unfailing (env : DeviceEnv) : Prop := env.fault = none

theorem getActiveDecryptedTokens_ran {r : Except AuthError (List DecryptedToken)}
    (h : (getActiveDecryptedTokens c encryptionKey userId).Ran DeviceEnv.Unfailing db r db') :
    r = .ok ((activeDevices userId db).filterMap fun d ↦
      (decrypt c d.token encryptionKey).toOption.map fun rawToken ↦ ⟨d.id, rawToken, d.tokenHash⟩) := by
  have hfound : ∀ (env : DeviceEnv) (x : Except AuthError (List UserDeviceRow)), env.Unfailing →
      x = (Faulty.fault env).elim (.ok (activeDevices userId db)) .error →
        x = .ok (activeDevices userId db) := by
    intro env x henv hx
    rw [hx, show Faulty.fault env = env.fault.map AuthError.fault from rfl,
      show env.fault = none from henv]
    rfl
  rcases Call.ran_bind.mp h with ⟨x, hread, -⟩ | ⟨devices, s, hread, hreturn⟩
  · obtain ⟨env, henv, hx, -⟩ := Call.ran_ask.mp hread
    cases hfound env _ henv hx
  · obtain ⟨env, henv, hx, -⟩ := Call.ran_ask.mp hread
    cases hfound env _ henv hx
    exact (Call.ran_returned.mp hreturn).1

/-- An active device is among the results with what its token is decrypted to. -/
theorem mem_decrypted {token : Utf16} (hd : device ∈ db.userDevices.rows)
    (hactive : device.isActive = true) :
    (∃ t ∈ (activeDevices device.userId db).filterMap (fun d ↦
        (decrypt c d.token encryptionKey).toOption.map fun rawToken ↦
          (⟨d.id, rawToken, d.tokenHash⟩ : DecryptedToken)), t.id = device.id ∧ t.token = token) ↔
      decrypt c device.token encryptionKey = .ok token := by
  constructor
  · rintro ⟨t, ht, hid, rfl⟩
    obtain ⟨d, hmem, ht⟩ := List.mem_filterMap.mp ht
    obtain ⟨rawToken, hraw, rfl⟩ := Option.map_eq_some_iff.mp ht
    cases db.userDevices.eq_of_id (List.mem_filter.mp hmem).1 hd hid
    cases hdecrypt : decrypt c device.token encryptionKey with
    | ok text =>
      rw [hdecrypt] at hraw
      cases hraw
      rfl
    | error x =>
      rw [hdecrypt] at hraw
      cases hraw
  · intro h
    refine ⟨⟨device.id, token, device.tokenHash⟩, List.mem_filterMap.mpr ⟨device, ?_, ?_⟩, rfl, rfl⟩
    · exact List.mem_filter.mpr ⟨hd, by rw [hactive, beq_self_eq_true, Bool.and_true]⟩
    · rw [h]
      rfl

/-- A text that is encrypted comes back if it is well-formed and not empty, and so does the token of
an active device. -/
theorem tokens_returned (hc : c.Lawful)
    (h : Reach (Logged (DeviceOp.runs c encryptionKey) fun _ _ _ ↦ True) (fun _ _ ↦ True) NoDevices
      (db, log)) :
    (∀ iv text secretKey, decrypt c (encrypt c iv text secretKey) secretKey = .ok text ↔
      text ≠ [] ∧ text.isWellFormed = true) ∧
    ∀ id userId token, registeredWith id log = some (userId, token) →
      ∃ d ∈ db.userDevices.rows, d.id = id ∧ d.userId = userId ∧ (d.isActive = true →
        ∀ r db', (getActiveDecryptedTokens c encryptionKey userId).Ran DeviceEnv.Unfailing db r db' →
          ∃ tokens, r = .ok tokens ∧ ((∃ t ∈ tokens, t.id = id ∧ t.token = token) ↔
            token ≠ [] ∧ token.isWellFormed = true)) := by
  refine ⟨fun iv text secretKey ↦ decrypt_encrypt_eq hc, fun id userId token hwith ↦ ?_⟩
  have hdb : Registered c encryptionKey db log := by
    refine logged_invariant (fun s hs ↦ ⟨fun d hd ↦ ?_, fun id hid ↦ ?_⟩)
      (fun op db log h ↦ runs_registered op h) h
    · rw [hs.1] at hd
      exact absurd hd List.not_mem_nil
    · rw [hs.2] at hid
      cases hid
  obtain ⟨d, hd, rfl⟩ := Table.has_iff.mp (hdb.stay id (Option.isSome_iff_exists.mpr ⟨_, hwith⟩))
  obtain ⟨token', iv, hwith', hstored⟩ := hdb.tokens d hd
  cases hwith.symm.trans hwith'
  refine ⟨d, hd, rfl, rfl, fun hactive r db' hran ↦ ⟨_, getActiveDecryptedTokens_ran hran, ?_⟩⟩
  rw [← decrypt_encrypt_eq hc, ← hstored]
  exact mem_decrypted hd hactive

end Runs

section Sample

open CryptoUtil UserDeviceService

/-- The texts of the samples. -/
def units (text : String) : Utf16 := Utf16.ofChars text.toList

/-- The tags of the empty text and of the token of the samples. -/
def emptyTag : Bytes := [58, 115, 153, 87, 59, 19, 20, 170, 196, 229, 211, 27, 204, 248, 188, 171]

def tokenTag : Bytes := [214, 180, 31, 129, 50, 235, 30, 120, 10, 242, 53, 38, 55, 3, 163, 199]

/-- What AES-256-GCM and SHA-256 give for the default key, the random bytes `iv` of the samples, and
the texts of the samples. -/
def sampleCipher : Cipher where
  sha256 data :=
    if data = [] then [227, 176, 196, 66, 152, 252, 28, 20, 154, 251, 244, 200, 153, 111, 185, 36, 39,
      174, 65, 228, 100, 155, 147, 76, 164, 149, 153, 27, 120, 82, 184, 85]
    else if data = (units "fcm-token-0001").utf8 then [38, 244, 173, 76, 234, 83, 73, 73, 126, 46, 52,
      218, 177, 50, 251, 161, 153, 85, 236, 198, 11, 121, 229, 71, 105, 26, 227, 163, 143, 107, 239, 77]
    else [173, 212, 152, 66, 21, 59, 25, 149, 77, 194, 247, 50, 19, 102, 4, 63, 255, 86, 89, 177, 128,
      189, 132, 44, 37, 131, 44, 22, 188, 133, 72, 16]
  gcmEncrypt _ _ text :=
    if text = (units "fcm-token-0001").utf8 then
      ([184, 167, 227, 113, 210, 216, 169, 58, 222, 28, 164, 21, 224, 248], tokenTag)
    else (text, emptyTag)
  gcmDecrypt _ _ authTag encrypted :=
    if authTag = tokenTag then some (units "fcm-token-0001").utf8 else some encrypted
  lossy _ := []

theorem sampleCipher_lawful : sampleCipher.Lawful := by
  refine ⟨fun _ _ text ↦ ?_, fun _ _ text ↦ ?_, fun _ _ text ↦ ?_⟩
  · simp only [sampleCipher]
    by_cases htext : text = (units "fcm-token-0001").utf8
    · rw [if_pos htext, if_pos rfl, htext]
    · rw [if_neg htext, if_neg (show ¬ emptyTag = tokenTag by decide)]
  · simp only [sampleCipher]
    split_ifs with htext
    · rw [htext]
      decide
    · rfl
  · simp only [sampleCipher]
    split_ifs <;> rfl

def deviceEnv (now : Time) : DeviceEnv := ⟨now, none, "device-1", ⟨List.replicate 12 7, rfl⟩⟩

/-- A user without a device. -/
def deviceDb : DeviceDb where
  users := .singleton ⟨"user-1", "user@example.com", .active, none, ["ATTENDEE"]⟩
  userDevices := .empty

def defaultKey : Utf16 := units "innovent-secure-device-token-key-32ch!"

/-- The user registers a device with the token. -/
def registering (token : String) : List (DeviceOp × List DeviceEnv) :=
  [(.registerDevice "user-1" ⟨.android, units token⟩, [deviceEnv 1])]

/-- A device with an ordinary token is returned with it. -/
theorem token_returned : ∃ (db : DeviceDb) (log : DeviceLog),
    registeredWith "device-1" log = some ("user-1", units "fcm-token-0001") ∧
      ∀ r db', (getActiveDecryptedTokens sampleCipher defaultKey "user-1").Ran DeviceEnv.Unfailing db r
        db' → ∃ tokens, r = .ok tokens ∧
          ∃ t ∈ tokens, t.id = "device-1" ∧ t.token = units "fcm-token-0001" := by
  have hrun : (carryLogged (DeviceOp.runs sampleCipher defaultKey) (fun _ _ _ ↦ true)
      (registering "fcm-token-0001") (deviceDb, [])).any (fun q ↦
        registeredWith "device-1" q.2 == some ("user-1", units "fcm-token-0001") &&
          q.1.userDevices.rows.all (·.isActive)) = true := by
    decide +kernel
  obtain ⟨⟨db, log⟩, hq, htest⟩ := (Option.any_eq_true ..).mp hrun
  obtain ⟨hwith, hactive⟩ := Bool.and_eq_true_iff.mp htest
  have hreach : Reach (Logged (DeviceOp.runs sampleCipher defaultKey) fun _ _ _ ↦ True)
      (fun _ _ ↦ True) NoDevices (db, log) :=
    reach_carryLogged (fun _ _ _ _ ↦ trivial) (.start ⟨rfl, rfl⟩) hq
  obtain ⟨-, hall⟩ := tokens_returned sampleCipher_lawful hreach
  obtain ⟨d, hd, -, -, hreturned⟩ := hall _ _ _ (beq_iff_eq.mp hwith)
  refine ⟨db, log, beq_iff_eq.mp hwith, fun r db' hran ↦ ?_⟩
  obtain ⟨tokens, hr, hiff⟩ := hreturned (List.all_eq_true.mp hactive d hd) r db' hran
  exact ⟨tokens, hr, hiff.mpr ⟨by decide, by decide⟩⟩

/-- A device whose token is ten blanks is registered and active, and is not returned: the token is
trimmed to the empty text, which is encrypted and not decrypted. -/
theorem blank_token_lost :
    (∃ iv : Iv, CryptoUtil.decrypt sampleCipher (CryptoUtil.encrypt sampleCipher iv [] defaultKey)
      defaultKey ≠ .ok []) ∧
    ∃ (db : DeviceDb) (log : DeviceLog) (d : UserDeviceRow),
      Reach (Logged (DeviceOp.runs sampleCipher defaultKey) fun _ _ _ ↦ True) (fun _ _ ↦ True) NoDevices
        (db, log) ∧ d ∈ db.userDevices.rows ∧ d.isActive = true ∧ d.userId = "user-1" ∧
        registeredWith d.id log = some ("user-1", []) ∧
        ∀ r db', (getActiveDecryptedTokens sampleCipher defaultKey "user-1").Ran DeviceEnv.Unfailing db r
          db' → r.toOption.map (·.length) = some 0 := by
  have hrun : (carryLogged (DeviceOp.runs sampleCipher defaultKey) (fun _ _ _ ↦ true)
      (registering "          ") (deviceDb, [])).any (fun q ↦ q.1.userDevices.rows.any fun d ↦
        d.isActive && d.userId == "user-1" && registeredWith d.id q.2 == some ("user-1", []) &&
          ((activeDevices "user-1" q.1).all fun d ↦
            (CryptoUtil.decrypt sampleCipher d.token defaultKey).toOption.isNone)) = true := by
    decide +kernel
  obtain ⟨⟨db, log⟩, hq, htest⟩ := (Option.any_eq_true ..).mp hrun
  have hreach : Reach (Logged (DeviceOp.runs sampleCipher defaultKey) fun _ _ _ ↦ True)
      (fun _ _ ↦ True) NoDevices (db, log) :=
    reach_carryLogged (fun _ _ _ _ ↦ trivial) (.start ⟨rfl, rfl⟩) hq
  obtain ⟨d, hd, htest⟩ := List.any_eq_true.mp htest
  simp only [Bool.and_eq_true, beq_iff_eq] at htest
  obtain ⟨⟨⟨hactive, huser⟩, hwith⟩, hnone⟩ := htest
  refine ⟨⟨⟨List.replicate 12 7, rfl⟩, by decide⟩, db, log, d, hreach, hd, hactive, huser, hwith,
    fun r db' hran ↦ ?_⟩
  have hempty : (activeDevices "user-1" db).filterMap (fun d ↦
      (CryptoUtil.decrypt sampleCipher d.token defaultKey).toOption.map fun rawToken ↦
        (⟨d.id, rawToken, d.tokenHash⟩ : DecryptedToken)) = [] := by
    refine List.filterMap_eq_nil_iff.mpr fun d hd ↦ ?_
    rw [Option.isNone_iff_eq_none.mp (List.all_eq_true.mp hnone d hd)]
    rfl
  rw [getActiveDecryptedTokens_ran hran, hempty]
  rfl

end Sample

end Innovents.Notifications
