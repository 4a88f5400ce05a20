import Innovents.Payments.Schema
import Mathlib.Tactic.SplitIfs

namespace Innovents.Payments

open Innovents.Lib JsNumber

def require (b : Bool) (e : Err) : Except Err Unit := if b then .ok () else .error e

def found {α : Type} (o : Option α) (e : Err) : Except Err α :=
  match o with
  | some a => .ok a
  | none => .error e

def ofRefusal {α : Type} : Except Refusal α → Except Err α
  | .ok a => .ok a
  | .error r => .error (.prisma r)

section Chain

variable {α β : Type}

@[simp] theorem bind_eq_ok {x : Except Err α} {f : α → Except Err β} {b : β} :
    (x >>= f) = .ok b ↔ ∃ a, x = .ok a ∧ f a = .ok b := by
  cases x with
  | ok a => simp [bind, Except.bind]
  | error e => simp [bind, Except.bind]

@[simp] theorem pure_eq_ok {a b : α} : (pure a : Except Err α) = .ok b ↔ a = b := by
  simp [pure, Except.pure]

@[simp] theorem map_eq_ok {x : Except Err α} {f : α → β} {b : β} :
    (f <$> x) = .ok b ↔ ∃ a, x = .ok a ∧ f a = b := by
  cases x with
  | ok a => simp [Functor.map, Except.map]
  | error e => simp [Functor.map, Except.map]

@[simp] theorem require_eq_ok {b : Bool} {e : Err} {u : Unit} : require b e = .ok u ↔ b = true := by
  cases b <;> simp [require]

@[simp] theorem found_eq_ok {o : Option α} {e : Err} {a : α} : found o e = .ok a ↔ o = some a := by
  cases o <;> simp [found]

@[simp] theorem ofRefusal_eq_ok {x : Except Refusal α} {a : α} :
    ofRefusal x = .ok a ↔ x = .ok a := by
  cases x <;> simp [ofRefusal]

theorem mem_of_mapM {f : α → Except Err β} {as : List α} {bs : List β} (h : as.mapM f = .ok bs)
    {b : β} (hb : b ∈ bs) : ∃ a ∈ as, f a = .ok b := by
  induction as generalizing bs with
  | nil =>
    cases h
    cases hb
  | cons a as ih =>
    simp only [List.mapM_cons, bind_eq_ok, pure_eq_ok] at h
    obtain ⟨c, hc, cs, hcs, rfl⟩ := h
    rcases List.mem_cons.mp hb with rfl | hb
    · exact ⟨a, by simp, hc⟩
    · obtain ⟨a', ha', hfa⟩ := ih hcs hb
      exact ⟨a', List.mem_cons_of_mem _ ha', hfa⟩

end Chain

/-- One table of the database: how to read it and how to put it back. -/
structure Relation (ρ : Type) [Row ρ] where
  get : Db → Table ρ
  put : Db → Table ρ → Db

section Relation

variable {ρ : Type} [Row ρ] (R : Relation ρ)

def insert (row : ρ) (db : Db) : Except Err Db := do
  let t ← ofRefusal ((R.get db).create row)
  return R.put db t

def modify (id : String) (f : ρ → ρ) (db : Db) : Except Err Db := do
  let t ← ofRefusal ((R.get db).update id f)
  return R.put db t

theorem insert_eq_ok {row : ρ} {db db' : Db} :
    insert R row db = .ok db' ↔
      ∃ t : Table ρ, t.rows = (R.get db).rows ++ [row] ∧ R.put db t = db' := by
  simp [insert, Table.create_eq_ok]

theorem modify_eq_ok {id : String} {f : ρ → ρ} {db db' : Db} :
    modify R id f db = .ok db' ↔
      ∃ t : Table ρ, ((∃ r ∈ (R.get db).rows, Row.id r = id) ∧
        t.rows = Table.updateRows id f (R.get db).rows) ∧ R.put db t = db' := by
  simp [modify, Table.update_eq_ok]

end Relation

namespace Money

@[ext] theorem ext {m n : Money} (h : m.cents = n.cents) : m = n := by
  cases m; cases n; cases h; rfl

/-- The column value as the exact decimal it stands for. -/
def toRat (m : Money) : ℚ := m.cents / 100

/-- `Decimal.toNumber`. -/
def toNumber (m : Money) : ℚ := fl m.toRat

/-- What the column keeps of a decimal: two places, or an overflow error. -/
def ofDecimal (d : ℚ) : Except Err Money :=
  if h : |roundHalfAway (100 * d)| < 10 ^ 12 then .ok ⟨_, h⟩ else .error .outOfRange

theorem ofDecimal_eq_ok {d : ℚ} {m : Money} :
    ofDecimal d = .ok m ↔ m.cents = roundHalfAway (100 * d) := by
  unfold ofDecimal
  split_ifs with h
  · rw [Except.ok.injEq, Money.ext_iff, eq_comm]
  · simp only [false_iff]
    intro he
    exact h (he ▸ m.fits)

end Money

/-- The moment `ms` milliseconds after the epoch, if a `Date` can hold it. -/
def date (ms : ℤ) : Except Err Time := if |ms| ≤ 8640000000000000 then .ok ms else .error .validation

/-- A required text argument of a statement. -/
def textArg (v : JsValue) : Except Err String := found v.asStr? .validation

/-- An optional text argument: `undefined` and `null` leave the column null. -/
def optionalTextArg (v : JsValue) : Except Err (Option String) :=
  if v.isNullish then .ok none else some <$> textArg v

/-- The text form of a key column of type `uuid`. -/
def isUuid (s : String) : Bool :=
  let cs := s.toList
  cs.length == 36 && cs.zipIdx.all fun p ↦
    if p.2 ∈ [8, 13, 18, 23] then p.1 == '-'
    else p.1.isDigit || p.1 ∈ ['a', 'b', 'c', 'd', 'e', 'f', 'A', 'B', 'C', 'D', 'E', 'F']

@[simp] def sponsorProfileTable : Relation SponsorProfile :=
  ⟨Db.sponsorProfiles, fun db t ↦ { db with sponsorProfiles := t }⟩

@[simp] def vendorProfileTable : Relation VendorProfile :=
  ⟨Db.vendorProfiles, fun db t ↦ { db with vendorProfiles := t }⟩

@[simp] def communityTable : Relation Community :=
  ⟨Db.communities, fun db t ↦ { db with communities := t }⟩

@[simp] def communitySponsorshipTable : Relation CommunitySponsorship :=
  ⟨Db.communitySponsorships, fun db t ↦ { db with communitySponsorships := t }⟩

@[simp] def subscriptionTable : Relation Subscription :=
  ⟨Db.subscriptions, fun db t ↦ { db with subscriptions := t }⟩

@[simp] def paymentTable : Relation Payment := ⟨Db.payments, fun db t ↦ { db with payments := t }⟩

@[simp] def stripeWebhookEventTable : Relation StripeWebhookEvent :=
  ⟨Db.stripeWebhookEvents, fun db t ↦ { db with stripeWebhookEvents := t }⟩

@[simp] def outboxEventTable : Relation OutboxEvent :=
  ⟨Db.outboxEvents, fun db t ↦ { db with outboxEvents := t }⟩

@[simp] def auditLogTable : Relation AuditLog :=
  ⟨Db.auditLogs, fun db t ↦ { db with auditLogs := t }⟩

/-- The rows a payment refers to exist. -/
def Payment.refersIn (p : Payment) (db : Db) : Bool :=
  db.users.has p.userId && p.sponsorProfileId.all db.sponsorProfiles.has &&
    p.vendorProfileId.all db.vendorProfiles.has && p.subscriptionId.all db.subscriptions.has

def Subscription.refersIn (s : Subscription) (db : Db) : Bool :=
  db.users.has s.userId && s.sponsorProfileId.all db.sponsorProfiles.has &&
    s.vendorProfileId.all db.vendorProfiles.has && db.subscriptionPlanConfigs.has s.planConfigId

def CommunitySponsorship.refersIn (s : CommunitySponsorship) (db : Db) : Bool :=
  db.communities.has s.communityId && db.sponsorProfiles.has s.sponsorId &&
    db.users.has s.userId && db.communitySponsorshipPlans.has s.planId &&
    s.paymentId.all db.payments.has

def createPayment (p : Payment) (db : Db) : Except Err Db := do
  require (p.refersIn db) .foreignKey
  insert paymentTable p db

def createSubscription (s : Subscription) (db : Db) : Except Err Db := do
  require (s.refersIn db) .foreignKey
  insert subscriptionTable s db

def createCommunitySponsorship (s : CommunitySponsorship) (db : Db) : Except Err Db := do
  require (s.refersIn db) .foreignKey
  insert communitySponsorshipTable s db

section

variable {db db' : Db}

theorem createPayment_eq_ok {p : Payment} :
    createPayment p db = .ok db' ↔ p.refersIn db = true ∧
      ∃ t : Table Payment, t.rows = db.payments.rows ++ [p] ∧ { db with payments := t } = db' := by
  simp [createPayment, insert_eq_ok]

theorem createSubscription_eq_ok {s : Subscription} :
    createSubscription s db = .ok db' ↔ s.refersIn db = true ∧
      ∃ t : Table Subscription, t.rows = db.subscriptions.rows ++ [s] ∧
        { db with subscriptions := t } = db' := by
  simp [createSubscription, insert_eq_ok]

theorem createCommunitySponsorship_eq_ok {s : CommunitySponsorship} :
    createCommunitySponsorship s db = .ok db' ↔ s.refersIn db = true ∧
      ∃ t : Table CommunitySponsorship, t.rows = db.communitySponsorships.rows ++ [s] ∧
        { db with communitySponsorships := t } = db' := by
  simp [createCommunitySponsorship, insert_eq_ok]

end

end Innovents.Payments
