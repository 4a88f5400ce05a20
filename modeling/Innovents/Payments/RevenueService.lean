import Innovents.Lib.Buckets
import Innovents.Payments.Calls

namespace Innovents.Payments

open Innovents.Lib

structure RevenueReportQueryDto where
  startDate : Option String
  endDate : Option String
  purpose : Option PaymentPurpose
  currency : Option String

structure PurposeRevenueBreakdownDto where
  gross : ℚ
  refunds : ℚ
  net : ℚ
  count : ℕ
  deriving DecidableEq

/-- The record of the breakdown is the list of its entries. -/
structure RevenueReportResponseDto where
  totalGrossRevenue : ℚ
  totalRefunds : ℚ
  netRevenue : ℚ
  currency : String
  successfulTransactions : ℕ
  refundedTransactions : ℕ
  breakdownByPurpose : List (String × PurposeRevenueBreakdownDto)
  deriving DecidableEq

def PaymentPurpose.text : PaymentPurpose → String
  | communitySponsorship => "COMMUNITY_SPONSORSHIP"
  | subscription => "SUBSCRIPTION"

namespace RevenueService

structure PaymentWhereInput where
  currency : String
  status : List PaymentStatus
  purpose : Option PaymentPurpose
  gte : Option Time
  lte : Option Time

structure Bucket where
  gross : ℚ
  refunds : ℚ
  count : ℕ

/-- The variables of the loop. -/
structure Totals where
  totalGross : ℚ
  totalRefunds : ℚ
  successfulCount : ℕ
  refundedCount : ℕ
  breakdown : List (String × Bucket)

/-- A bound of the search; `newDate` reads a text as `new Date` does, where it is a date. -/
def bound (newDate : String → Option Time) (date : Option String) : Except Err (Option Time) :=
  match given date with
  | none => .ok none
  | some text => some <$> (newDate text).elim (.error .validation) .ok

def whereOf (toUpperCase : String → String) (newDate : String → Option Time)
    (query : RevenueReportQueryDto) : Except Err PaymentWhereInput := do
  let gte ← bound newDate query.startDate
  let lte ← bound newDate query.endDate
  return {
    currency := toUpperCase (orText query.currency "SAR")
    status := [.succeeded, .refunded, .partiallyRefunded]
    purpose := query.purpose
    gte
    lte }

def PaymentWhereInput.matches (w : PaymentWhereInput) (p : Payment) : Bool :=
  p.currency == w.currency && w.status.contains p.status && w.purpose.all (p.purpose == ·) &&
    w.gte.all (decide <| · ≤ p.createdAt) && w.lte.all (decide <| p.createdAt ≤ ·)

def Bucket.empty : Bucket := ⟨0, 0, 0⟩

def Bucket.add (amt ref : ℚ) (b : Bucket) : Bucket := ⟨b.gross + amt, b.refunds + ref, b.count + 1⟩

def initial : Totals where
  totalGross := 0
  totalRefunds := 0
  successfulCount := 0
  refundedCount := 0
  breakdown := [(PaymentPurpose.communitySponsorship.text, .empty),
    (PaymentPurpose.subscription.text, .empty)]

/-- `p.refundAmount || new Prisma.Decimal(0)` -/
def refundOf (p : Payment) : ℚ := p.refundAmount.elim 0 Money.toRat

/-- The body of the loop. -/
def counted (t : Totals) (p : Payment) : Totals where
  totalGross := t.totalGross + p.amount.toRat
  totalRefunds := t.totalRefunds + refundOf p
  successfulCount := if p.status = .succeeded then t.successfulCount + 1 else t.successfulCount
  refundedCount := if p.status = .succeeded then t.refundedCount
    else if p.status = .refunded ∨ p.status = .partiallyRefunded then t.refundedCount + 1
    else t.refundedCount
  breakdown := bump p.purpose.text .empty (Bucket.add p.amount.toRat (refundOf p)) t.breakdown

def formatted (b : Bucket) : PurposeRevenueBreakdownDto where
  gross := b.gross
  refunds := b.refunds
  net := b.gross - b.refunds
  count := b.count

def reportOf (currency : String) (payments : List Payment) : RevenueReportResponseDto :=
  let t := payments.foldl counted initial
  { totalGrossRevenue := t.totalGross
    totalRefunds := t.totalRefunds
    netRevenue := t.totalGross - t.totalRefunds
    currency
    successfulTransactions := t.successfulCount
    refundedTransactions := t.refundedCount
    breakdownByPurpose := t.breakdown.map fun b ↦ (b.1, formatted b.2) }

/-- The payments that meet the conditions. -/
def selected (w : PaymentWhereInput) (db : Db) : List Payment := db.payments.rows.filter w.matches

/-- The database returns the rows in an order of its own. -/
def getRevenueReport (toUpperCase : String → String) (newDate : String → Option Time)
    (order : List Payment → List Payment) (query : RevenueReportQueryDto) :
    Service RevenueReportResponseDto := do
  let w ← .returned (whereOf toUpperCase newDate query)
  let payments ← Payments.query "payment.findMany" fun _ db ↦ .ok (order (selected w db))
  return reportOf w.currency payments

end RevenueService

section Consistency

open RevenueService

variable {t : Totals} {p : Payment} {payments : List Payment}

/-- The report agrees with its breakdown, and the net revenue is what refunds leave. -/
structure RevenueReportResponseDto.Balanced (report : RevenueReportResponseDto) : Prop where
  gross : report.totalGrossRevenue = sumOver (·.gross) report.breakdownByPurpose
  refunds : report.totalRefunds = sumOver (·.refunds) report.breakdownByPurpose
  count : report.successfulTransactions + report.refundedTransactions =
    sumOver (·.count) report.breakdownByPurpose
  net : report.netRevenue = report.totalGrossRevenue - report.totalRefunds
  netByPurpose : ∀ b ∈ report.breakdownByPurpose, b.2.net = b.2.gross - b.2.refunds

/-- The totals agree with the buckets after `n` payments. -/
structure Agreeing (n : ℕ) (t : Totals) : Prop where
  gross : t.totalGross = sumOver Bucket.gross t.breakdown
  refunds : t.totalRefunds = sumOver Bucket.refunds t.breakdown
  count : sumOver Bucket.count t.breakdown = n
  transactions : t.successfulCount + t.refundedCount = n

/-- A payment of the report has been made, whether it has been refunded or not. -/
def Paid (p : Payment) : Prop :=
  p.status = .succeeded ∨ p.status = .refunded ∨ p.status = .partiallyRefunded

theorem agreeing_initial : Agreeing 0 initial where
  gross := by simp [initial, sumOver, Bucket.empty]
  refunds := by simp [initial, sumOver, Bucket.empty]
  count := rfl
  transactions := rfl

/-- What a payment adds to a figure of its bucket, it adds to the sum of the figure. -/
theorem sumOver_counted {γ : Type} [AddCommMonoid γ] {figure : Bucket → γ} {change : γ}
    (hempty : figure .empty = 0)
    (hadd : ∀ b : Bucket, figure (b.add p.amount.toRat (refundOf p)) = figure b + change) :
    sumOver figure (counted t p).breakdown = sumOver figure t.breakdown + change :=
  sumOver_bump hempty hadd

theorem Agreeing.counted {n : ℕ} (h : Agreeing n t) (hp : Paid p) : Agreeing (n + 1) (counted t p) where
  gross := by
    rw [sumOver_counted rfl fun b ↦ rfl, ← h.gross]
    rfl
  refunds := by
    rw [sumOver_counted rfl fun b ↦ rfl, ← h.refunds]
    rfl
  count := by
    rw [sumOver_counted rfl fun b ↦ rfl, h.count]
  transactions := by
    have hn := h.transactions
    simp only [RevenueService.counted]
    rcases hp with hp | hp
    · rw [if_pos hp, if_pos hp]
      omega
    · have hne : p.status ≠ .succeeded := by
        rcases hp with hp | hp <;> rw [hp] <;> nofun
      rw [if_neg hne, if_neg hne, if_pos hp]
      omega

theorem Agreeing.foldl {n : ℕ} (h : Agreeing n t) (hpaid : ∀ p ∈ payments, Paid p) :
    Agreeing (n + payments.length) (payments.foldl RevenueService.counted t) := by
  induction payments generalizing t n with
  | nil => exact h
  | cons p payments ih =>
    rw [List.foldl_cons, List.length_cons, Nat.add_comm payments.length, ← Nat.add_assoc]
    exact ih (h.counted (hpaid p List.mem_cons_self)) fun q hq ↦ hpaid q (List.mem_cons_of_mem p hq)

theorem sumOver_reportOf {γ : Type} [AddCommMonoid γ] {currency : String}
    {figure : PurposeRevenueBreakdownDto → γ} :
    sumOver figure (reportOf currency payments).breakdownByPurpose =
      sumOver (fun b ↦ figure (formatted b)) (payments.foldl counted initial).breakdown := sumOver_map

theorem reportOf_balanced (currency : String) (hpaid : ∀ p ∈ payments, Paid p) :
    (reportOf currency payments).Balanced ∧
      (reportOf currency payments).successfulTransactions +
        (reportOf currency payments).refundedTransactions = payments.length := by
  have h := agreeing_initial.foldl hpaid
  rw [Nat.zero_add] at h
  refine ⟨⟨?_, ?_, ?_, rfl, fun b hb ↦ ?_⟩, h.transactions⟩
  · rw [sumOver_reportOf]
    exact h.gross
  · rw [sumOver_reportOf]
    exact h.refunds
  · rw [sumOver_reportOf]
    exact h.transactions.trans h.count.symm
  · obtain ⟨bucket, -, rfl⟩ := List.mem_map.mp hb
    rfl

/-- Every purpose has its bucket from the start. -/
def Covers (t : Totals) : Prop := ∀ purpose : PaymentPurpose, purpose.text ∈ t.breakdown.map Prod.fst

theorem Covers.counted (h : Covers t) (p : Payment) : Covers (counted t p) := by
  intro purpose
  rw [RevenueService.counted, keys_bump (h p.purpose)]
  exact h purpose

theorem counted_comm (h : Covers t) (p q : Payment) :
    counted (counted t p) q = counted (counted t q) p := by
  have hadd : ∀ b : Bucket, Bucket.add q.amount.toRat (refundOf q) (b.add p.amount.toRat (refundOf p)) =
      Bucket.add p.amount.toRat (refundOf p) (b.add q.amount.toRat (refundOf q)) := by
    intro b
    simp only [Bucket.add, add_right_comm]
  simp only [RevenueService.counted, bump_comm hadd (h q.purpose) (h p.purpose), add_right_comm,
    Totals.mk.injEq, true_and, and_true]
  constructor
  · split_ifs <;> rfl
  · split_ifs <;> rfl

/-- The report does not depend on the order of the payments. -/
theorem reportOf_perm (currency : String) {payments' : List Payment} (h : payments.Perm payments') :
    reportOf currency payments = reportOf currency payments' := by
  have hcovers : Covers initial := by
    rintro (_ | _)
    · exact List.mem_cons_self
    · exact List.mem_cons_of_mem _ List.mem_cons_self
  rw [reportOf, reportOf, foldl_perm_of h (fun t p ht ↦ ht.counted p) (fun t p q ht ↦
    counted_comm ht p q) hcovers]

variable {toUpperCase : String → String} {newDate : String → Option Time}
  {query : RevenueReportQueryDto} {w : PaymentWhereInput} {db : Db}

theorem paid_of_selected (hw : whereOf toUpperCase newDate query = .ok w) (hp : p ∈ selected w db) :
    Paid p := by
  obtain ⟨gte, -, hw⟩ := andThen_eq_ok.mp hw
  obtain ⟨lte, -, hw⟩ := andThen_eq_ok.mp hw
  cases hw
  have hmatches := (List.mem_filter.mp hp).2
  simp only [PaymentWhereInput.matches, Bool.and_eq_true] at hmatches
  have hstatus := List.elem_iff.mp hmatches.1.1.1.2
  simp only [List.mem_cons, List.not_mem_nil, or_false] at hstatus
  exact hstatus

/-- Unless a date of the query is none, there is a report, which agrees with its breakdown, has a
transaction for each payment that has been selected, and is the same in every order of these. -/
theorem revenue_report {order : List Payment → List Payment} {r : Except Err RevenueReportResponseDto}
    {db' : Db} (horder : ∀ payments, (order payments).Perm payments)
    (h : (getRevenueReport toUpperCase newDate order query).Ran (fun _ ↦ True) db r db') :
    (∃ x, whereOf toUpperCase newDate query = .error x ∧ r = .error x) ∨
      ∃ w report, whereOf toUpperCase newDate query = .ok w ∧ r = .ok report ∧ report.Balanced ∧
        report.successfulTransactions + report.refundedTransactions = (selected w db).length ∧
        ∀ payments, payments.Perm (selected w db) → reportOf w.currency payments = report := by
  cases hw : whereOf toUpperCase newDate query with
  | error x =>
    rw [getRevenueReport, hw] at h
    exact .inl ⟨x, rfl, (Call.ran_returned.mp h).1⟩
  | ok w =>
    rw [getRevenueReport, hw] at h
    right
    obtain ⟨env, -, hrest⟩ := Call.ran_request.mp h
    refine ⟨w, reportOf w.currency (order (selected w db)), rfl, (Call.ran_returned.mp hrest).1, ?_⟩
    have hpaid : ∀ p ∈ order (selected w db), Paid p := fun p hp ↦
      paid_of_selected hw ((horder _).mem_iff.mp hp)
    obtain ⟨hbalanced, hcount⟩ := reportOf_balanced w.currency hpaid
    rw [(horder _).length_eq] at hcount
    exact ⟨hbalanced, hcount, fun payments hperm ↦
      reportOf_perm w.currency (hperm.trans (horder _).symm)⟩

end Consistency

section Sample

/-- A sponsorship that has been paid for `cents` of an amount, of which some have been refunded. -/
def paidSponsorship (id : String) (cents refunded : ℤ) (h : |cents| < 10 ^ 12)
    (h' : |refunded| < 10 ^ 12) : Payment where
  id
  userId := "user-1"
  sponsorProfileId := none
  vendorProfileId := none
  subscriptionId := none
  amount := ⟨cents, h⟩
  currency := "SAR"
  status := if refunded = 0 then .succeeded else .partiallyRefunded
  purpose := .communitySponsorship
  stripePaymentIntentId := none
  stripeCheckoutSessionId := none
  stripeInvoiceId := none
  metadata := none
  paidAt := some 0
  failedAt := none
  refundedAt := none
  refundAmount := if refunded = 0 then none else some ⟨refunded, h'⟩
  refundReason := none
  createdAt := 0

/-- Two payments, of one of which a part has been refunded. -/
def revenueDb : Db :=
  { Db.empty with
    payments := ((Table.singleton (paidSponsorship "payment-1" 10000 0 (by decide) (by decide))).create
      (paidSponsorship "payment-2" 5000 2550 (by decide) (by decide))).toOption.getD .empty }

def anyRevenue : RevenueReportQueryDto := ⟨none, none, none, none⟩

/-- The database returns the later payment first. -/
theorem revenue_of_two : ∃ report : RevenueReportResponseDto, report.netRevenue = 249 / 2 ∧
    report.successfulTransactions = 1 ∧ report.refundedTransactions = 1 ∧ report.Balanced := by
  have hrun : (Call.outcome [Env.offline 0 "" ""] revenueDb
      (RevenueService.getRevenueReport id (fun _ ↦ none) List.reverse anyRevenue)).any
        (fun q ↦ q.1.toOption.any fun report ↦ report.netRevenue == 249 / 2 &&
          report.successfulTransactions == 1 && report.refundedTransactions == 1) = true := by
    decide +kernel
  obtain ⟨report, db', hran, htest⟩ := Call.exists_ran_of_outcome hrun
  simp only [Bool.and_eq_true, beq_iff_eq] at htest
  obtain ⟨⟨hnet, hsuccessful⟩, hrefunded⟩ := htest
  rcases revenue_report List.reverse_perm hran with ⟨x, -, hx⟩ | ⟨w, _, -, hreport, hbalanced, -⟩
  · cases hx
  · cases hreport
    exact ⟨report, hnet, hsuccessful, hrefunded, hbalanced⟩

end Sample

end Innovents.Payments
