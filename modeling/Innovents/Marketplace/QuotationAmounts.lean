import Innovents.Marketplace.RfqCalls

namespace Innovents.Marketplace

open Innovents.Lib Innovents.Lib.JsNumber Innovents.Auth RfqService
open Innovents.Payments (Time Money)

namespace QuotationService

/-- A number with at most two decimals. -/
def Cents (x : ℚ) : Prop := ∃ c : ℤ, x = c / 100

/-- An amount that passes the validation of a request. -/
def ValidAmount (x : ℚ) : Prop := 0 ≤ x ∧ Cents x

structure ValidItem (item : CreateQuotationItemDto) : Prop where
  quantity : 1 ≤ item.quantity
  unitPrice : ValidAmount item.unitPrice

structure ValidDto (dto : CreateQuotationDto) : Prop where
  items : ∀ item ∈ dto.items, ValidItem item
  tax : ∀ tax ∈ dto.tax, ValidAmount tax
  discount : ∀ discount ∈ dto.discount, ValidAmount discount

def itemTotal (item : CreateQuotationItemDto) : ℚ := item.quantity * item.unitPrice

/-- The subtotal as it should be. -/
def subtotalOf (dto : CreateQuotationDto) : ℚ := (dto.items.map itemTotal).sum

/-- The total as it should be. -/
def totalOf (dto : CreateQuotationDto) : ℚ :=
  subtotalOf dto + dto.tax.getD 0 - dto.discount.getD 0

/-- A `DECIMAL(12, 2)` column has room for the amount. -/
def Fits (x : ℚ) : Prop := x < 10 ^ 10

/-- All amounts of the quotation have room in their columns, and the total is not negative. -/
structure Fit (dto : CreateQuotationDto) : Prop where
  unitPrices : ∀ item ∈ dto.items, Fits item.unitPrice
  itemTotals : ∀ item ∈ dto.items, Fits (itemTotal item)
  subtotal : Fits (subtotalOf dto)
  tax : Fits (dto.tax.getD 0)
  discount : Fits (dto.discount.getD 0)
  total : Fits (totalOf dto)
  nonneg : 0 ≤ totalOf dto

structure ExactItem (item : CreateQuotationItemDto) (stored : QuotationItem) : Prop where
  quantity : stored.quantity = item.quantity
  unitPrice : stored.unitPrice.toRat = item.unitPrice
  total : stored.total.toRat = stored.quantity * stored.unitPrice.toRat

/-- The columns hold the amounts of the request, and what follows from them, without rounding. -/
structure Exact (dto : CreateQuotationDto) (q : Quotation) : Prop where
  items : List.Forall₂ ExactItem dto.items q.items
  subtotal : q.subtotal.toRat = (q.items.map (·.total.toRat)).sum
  tax : q.tax.toRat = dto.tax.getD 0
  discount : q.discount.toRat = dto.discount.getD 0
  total : q.total.toRat = q.subtotal.toRat + q.tax.toRat - q.discount.toRat
  nonneg : 0 ≤ q.total.toRat

/-- A quotation of which at most the status and its times have changed. -/
structure SameAmounts (q q' : Quotation) : Prop where
  id : q'.id = q.id
  items : q'.items = q.items
  subtotal : q'.subtotal = q.subtotal
  tax : q'.tax = q.tax
  discount : q'.discount = q.discount
  total : q'.total = q.total

/-- No quotation, RFQ or outbox entry changes. -/
def SameQuotations (db db' : MarketDb) : Prop :=
  SameRfqs db db' ∧ db'.accounts.outboxEvents = db.accounts.outboxEvents

/-- One quotation more, with the amounts of the request. -/
def Quotes (dto : CreateQuotationDto) (db db' : MarketDb) : Prop :=
  ∃ old q, db'.quotations.rows = old ++ [q] ∧ List.Forall₂ SameAmounts db.quotations.rows old ∧
    Exact dto q

section Amounts

variable {x : ℚ} {m : Money}

theorem Cents.add {x y : ℚ} (hx : Cents x) (hy : Cents y) : Cents (x + y) := by
  obtain ⟨c, rfl⟩ := hx
  obtain ⟨d, rfl⟩ := hy
  exact ⟨c + d, by push_cast; ring⟩

theorem Cents.sub {x y : ℚ} (hx : Cents x) (hy : Cents y) : Cents (x - y) := by
  obtain ⟨c, rfl⟩ := hx
  obtain ⟨d, rfl⟩ := hy
  exact ⟨c - d, by push_cast; ring⟩

theorem Cents.sum {xs : List ℚ} (h : ∀ x ∈ xs, Cents x) : Cents xs.sum := by
  induction xs with
  | nil => exact ⟨0, by simp⟩
  | cons x xs ih =>
    rw [List.sum_cons]
    exact (h x List.mem_cons_self).add (ih fun y hy ↦ h y (List.mem_cons_of_mem x hy))

theorem cents_getD {x : Option ℚ} (h : ∀ y ∈ x, ValidAmount y) : ValidAmount (x.getD 0) := by
  cases x with
  | none => exact ⟨le_rfl, 0, by simp⟩
  | some y => exact h y rfl

theorem moneyOf_eq_ok : moneyOf x = .ok m ↔ m.cents = roundHalfAway (100 * x) := by
  rw [← Money.ofDecimal_eq_ok]
  delta moneyOf
  cases h : Money.ofDecimal x with
  | ok n => simp
  | error e => simp

/-- A column keeps hundredths as they are. -/
theorem moneyOf_exact (hx : Cents x) (h : moneyOf x = .ok m) : m.toRat = x ∧ Fits x := by
  obtain ⟨c, rfl⟩ := hx
  have hcents : m.cents = c := by
    rw [moneyOf_eq_ok.mp h, mul_div_cancel₀ _ (by norm_num : (100 : ℚ) ≠ 0),
      Decimal.roundHalfAway_int]
  refine ⟨by rw [Money.toRat, hcents], ?_⟩
  have hlt : (c : ℚ) < 10 ^ 12 := by
    have hfits := (abs_lt.mp m.fits).2
    rw [hcents] at hfits
    exact_mod_cast hfits
  rw [Fits, div_lt_iff₀ (by norm_num)]
  linarith

/-- What a column has room for has few digits in front of the point. -/
theorem moneyOf_lt (h : moneyOf x = .ok m) : x < 10 ^ 18 := by
  have hround := (abs_le.mp (roundHalfAway_error (100 * x))).1
  have hfits : (m.cents : ℚ) < 10 ^ 12 := by exact_mod_cast (abs_lt.mp m.fits).2
  rw [moneyOf_eq_ok.mp h] at hfits
  linarith

/-- A result with few digits in front of the point is exact. -/
theorem decimal_eq (hx : ValidAmount x) (h : decimal x < 10 ^ 18) : decimal x = x := by
  refine Decimal.rounded_eq hx.2 (m := 18) (by norm_num) ?_
  rw [abs_of_nonneg hx.1]
  by_contra hle
  exact absurd h (not_lt.mpr (Decimal.le_rounded (by norm_num) (not_lt.mp hle)))

theorem moneyOf_decimal (hx : ValidAmount x) (h : moneyOf (decimal x) = .ok m) :
    decimal x = x ∧ m.toRat = x ∧ Fits x := by
  have hexact := decimal_eq hx (moneyOf_lt h)
  rw [hexact] at h
  exact ⟨hexact, moneyOf_exact hx.2 h⟩

end Amounts

section Sums

variable {items : List CalculatedItem}

theorem addTotals_concat {item : CalculatedItem} :
    addTotals (items ++ [item]) = decimal (addTotals items + item.total) := by
  simp [addTotals]

theorem sum_valid {xs : List ℚ} (h : ∀ x ∈ xs, ValidAmount x) : ValidAmount xs.sum :=
  ⟨List.sum_nonneg fun x hx ↦ (h x hx).1, .sum fun x hx ↦ (h x hx).2⟩

/-- Line by line: a sum that has become too large for its digits does not become smaller again. -/
theorem addTotals_eq (hitems : ∀ item ∈ items, ValidAmount item.total)
    (h : addTotals items < 10 ^ 18) : addTotals items = (items.map CalculatedItem.total).sum := by
  induction items using List.reverseRecOn with
  | nil => rfl
  | append_singleton items item ih =>
    have hitem := hitems item (by simp)
    have hrest : ∀ i ∈ items, ValidAmount i.total := fun i hi ↦ hitems i (by simp [hi])
    rw [addTotals_concat] at h ⊢
    have hlt : addTotals items + item.total < 10 ^ 18 := by
      by_contra hle
      exact absurd h (not_lt.mpr (Decimal.le_rounded (by norm_num) (not_lt.mp hle)))
    have hsum := ih hrest (by linarith [hitem.1])
    have hvalid : ValidAmount (items.map CalculatedItem.total).sum := sum_valid fun x hx ↦ by
      obtain ⟨i, hi, rfl⟩ := List.mem_map.mp hx
      exact hrest i hi
    rw [hsum] at h ⊢
    rw [decimal_eq ⟨add_nonneg hvalid.1 hitem.1, hvalid.2.add hitem.2⟩ h]
    simp

end Sums

section Lines

variable {item : CreateQuotationItemDto} {c : CalculatedItem} {stored : QuotationItem}

theorem itemTotal_valid (h : ValidItem item) : ValidAmount (itemTotal item) := by
  obtain ⟨n, hn⟩ := h.unitPrice.2
  have hquantity : (0 : ℚ) ≤ item.quantity := by exact_mod_cast (by have := h.quantity; omega)
  refine ⟨mul_nonneg hquantity h.unitPrice.1, item.quantity * n, ?_⟩
  rw [itemTotal, hn]
  push_cast
  ring

theorem calculateItem_eq_ok (h : calculateItem item = .ok c) :
    c.quantity = item.quantity ∧ c.unitPrice = item.unitPrice ∧
      c.total = decimal (itemTotal item) := by
  unfold calculateItem at h
  split_ifs at h
  · cases h
  · cases h
  · cases h
    exact ⟨rfl, rfl, by rw [itemTotal, mul_comm]⟩

theorem storedItem_eq_ok (h : storedItem c = .ok stored) :
    stored.quantity = c.quantity ∧ moneyOf c.unitPrice = .ok stored.unitPrice ∧
      moneyOf c.total = .ok stored.total := by
  unfold storedItem at h
  split_ifs at h
  obtain ⟨unitPrice, hunitPrice, h⟩ := andThen_eq_ok.mp h
  obtain ⟨total, htotal, h⟩ := andThen_eq_ok.mp h
  cases h
  exact ⟨rfl, hunitPrice, htotal⟩

/-- A line that is stored. -/
theorem line_exact (hitem : ValidItem item) (hc : calculateItem item = .ok c)
    (hstored : storedItem c = .ok stored) :
    ExactItem item stored ∧ Fits item.unitPrice ∧ Fits (itemTotal item) ∧
      c.total = itemTotal item ∧ stored.total.toRat = itemTotal item := by
  obtain ⟨hquantity, hunitPrice, htotal⟩ := calculateItem_eq_ok hc
  obtain ⟨hquantity', hunitPrice', htotal'⟩ := storedItem_eq_ok hstored
  rw [hunitPrice] at hunitPrice'
  rw [htotal] at htotal'
  obtain ⟨hprice, hpriceFits⟩ := moneyOf_exact hitem.unitPrice.2 hunitPrice'
  obtain ⟨hdecimal, hexact, hfits⟩ := moneyOf_decimal (itemTotal_valid hitem) htotal'
  refine ⟨⟨hquantity'.trans hquantity, hprice, ?_⟩, hpriceFits, hfits, htotal.trans hdecimal, hexact⟩
  rw [hexact, hprice, hquantity', hquantity, itemTotal]

theorem lines_exact {items : List CreateQuotationItemDto} {cs : List CalculatedItem}
    {lines : List QuotationItem} (hitems : ∀ item ∈ items, ValidItem item)
    (hcs : List.Forall₂ (fun item c ↦ calculateItem item = .ok c) items cs)
    (hlines : List.Forall₂ (fun c stored ↦ storedItem c = .ok stored) cs lines) :
    List.Forall₂ ExactItem items lines ∧
      (∀ item ∈ items, Fits item.unitPrice ∧ Fits (itemTotal item)) ∧
      cs.map CalculatedItem.total = items.map itemTotal ∧
      lines.map (·.total.toRat) = items.map itemTotal := by
  induction hcs generalizing lines with
  | nil =>
    cases hlines
    exact ⟨.nil, by simp, rfl, rfl⟩
  | @cons item c items cs hc _ ih =>
    obtain ⟨stored, rest, hstored, hrest, rfl⟩ := List.forall₂_cons_left_iff.mp hlines
    obtain ⟨hexact, hprice, htotal, hc, hmoney⟩ :=
      line_exact (hitems item List.mem_cons_self) hc hstored
    obtain ⟨hrestExact, hfits, hcs, hmoneys⟩ :=
      ih (fun i hi ↦ hitems i (List.mem_cons_of_mem item hi)) hrest
    refine ⟨.cons hexact hrestExact, fun i hi ↦ ?_, ?_, ?_⟩
    · rcases List.mem_cons.mp hi with rfl | hi
      · exact ⟨hprice, htotal⟩
      · exact hfits i hi
    · rw [List.map_cons, List.map_cons, hc, hcs]
    · rw [List.map_cons, List.map_cons, hmoney, hmoneys]

end Lines

section Quoting

variable {dto : CreateQuotationDto} {calculation : Calculation} {env : AuthEnv}
  {vendorId : String} {validUntil : Time} {db db' : MarketDb} {client : Client}

theorem calculate_eq_ok (h : calculate dto = .ok calculation) :
    List.Forall₂ (fun item c ↦ calculateItem item = .ok c) dto.items calculation.items ∧
      calculation.subtotal = addTotals calculation.items ∧ calculation.tax = dto.tax.getD 0 ∧
      calculation.discount = dto.discount.getD 0 ∧
      calculation.total =
        decimal (decimal (calculation.subtotal + calculation.tax) - calculation.discount) ∧
      0 ≤ calculation.total := by
  obtain ⟨items, hitems, h⟩ := andThen_eq_ok.mp h
  dsimp only at h
  split_ifs at h with htax hdiscount htotal
  · cases h
  · cases h
  · cases h
  · cases h
    exact ⟨mapM_forall₂ hitems, rfl, rfl, rfl, rfl, not_lt.mp htotal⟩

/-- A quotation that can be stored has amounts that are exact and have room in their columns. -/
theorem newQuotation_exact {version : ℕ} {t : Table Quotation} {q : Quotation} (hdto : ValidDto dto)
    (hcalculation : calculate dto = .ok calculation)
    (h : newQuotation vendorId dto calculation validUntil version env t = .ok q) :
    Exact dto q ∧ Fit dto := by
  obtain ⟨hitems, hsubtotal, htax, hdiscount, htotal, hnonneg⟩ := calculate_eq_ok hcalculation
  obtain ⟨subtotal, hsubtotal', h⟩ := andThen_eq_ok.mp h
  obtain ⟨tax, htax', h⟩ := andThen_eq_ok.mp h
  obtain ⟨discount, hdiscount', h⟩ := andThen_eq_ok.mp h
  obtain ⟨total, htotal', h⟩ := andThen_eq_ok.mp h
  obtain ⟨lines, hlines, h⟩ := andThen_eq_ok.mp h
  cases h
  obtain ⟨hexact, hfits, hcs, hmoneys⟩ := lines_exact hdto.items hitems (mapM_forall₂ hlines)
  have hvalid : ∀ c ∈ calculation.items, ValidAmount c.total := by
    intro c hc
    have hmem : c.total ∈ dto.items.map itemTotal := hcs ▸ List.mem_map_of_mem hc
    obtain ⟨item, hitem, htotal⟩ := List.mem_map.mp hmem
    exact htotal ▸ itemTotal_valid (hdto.items item hitem)
  -- The subtotal is the sum of the lines, and has room.
  have hsum : calculation.subtotal = subtotalOf dto := by
    rw [hsubtotal, subtotalOf, ← hcs]
    refine addTotals_eq hvalid ?_
    rw [← hsubtotal]
    exact moneyOf_lt hsubtotal'
  have hsubtotalValid : ValidAmount (subtotalOf dto) := by
    refine sum_valid fun x hx ↦ ?_
    obtain ⟨item, hitem, rfl⟩ := List.mem_map.mp hx
    exact itemTotal_valid (hdto.items item hitem)
  rw [hsum] at hsubtotal' htotal
  rw [htax] at htax' htotal
  rw [hdiscount] at hdiscount' htotal
  have htaxValid := cents_getD hdto.tax
  have hdiscountValid := cents_getD hdto.discount
  obtain ⟨hsubtotalExact, hsubtotalFits⟩ := moneyOf_exact hsubtotalValid.2 hsubtotal'
  obtain ⟨htaxExact, htaxFits⟩ := moneyOf_exact htaxValid.2 htax'
  obtain ⟨hdiscountExact, hdiscountFits⟩ := moneyOf_exact hdiscountValid.2 hdiscount'
  -- None of these is large, so neither are the sum and the difference.
  have hlarge : (2 : ℚ) * 10 ^ 10 < 10 ^ 18 := by norm_num
  unfold Fits at hsubtotalFits htaxFits hdiscountFits
  have hadded : decimal (subtotalOf dto + dto.tax.getD 0) = subtotalOf dto + dto.tax.getD 0 := by
    refine Decimal.rounded_eq (hsubtotalValid.2.add htaxValid.2) (m := 18) (by norm_num) ?_
    rw [abs_of_nonneg (add_nonneg hsubtotalValid.1 htaxValid.1)]
    linarith
  have hcents : Cents (totalOf dto) := (hsubtotalValid.2.add htaxValid.2).sub hdiscountValid.2
  have htotal : calculation.total = totalOf dto := by
    rw [htotal, hadded, totalOf]
    refine Decimal.rounded_eq hcents (m := 18) (by norm_num) (abs_lt.mpr ?_)
    constructor <;> linarith [hsubtotalValid.1, htaxValid.1, hdiscountValid.1]
  rw [htotal] at htotal' hnonneg
  obtain ⟨htotalExact, htotalFits⟩ := moneyOf_exact hcents htotal'
  refine ⟨⟨hexact, ?_, htaxExact, hdiscountExact, ?_, ?_⟩, fun i hi ↦ (hfits i hi).1,
    fun i hi ↦ (hfits i hi).2, hsubtotalFits, htaxFits, hdiscountFits, htotalFits, hnonneg⟩
  · rw [hmoneys]
    exact hsubtotalExact
  · rw [htotalExact, hsubtotalExact, htaxExact, hdiscountExact, totalOf]
  · rw [htotalExact]
    exact hnonneg

theorem SameAmounts.refl (q : Quotation) : SameAmounts q q := ⟨rfl, rfl, rfl, rfl, rfl, rfl⟩

theorem superseded_amounts {rfqId : String} {version : ℕ}
    (h : supersedePending rfqId version env db = .ok db') :
    List.Forall₂ SameAmounts db.quotations.rows db'.quotations.rows := by
  unfold supersedePending at h
  split_ifs at h
  · obtain ⟨t, ht, h⟩ := andThen_eq_ok.mp h
    cases h
    rw [Table.store_eq_ok.mp (ofRefusal_eq_ok.mp ht), List.forall₂_map_right_iff]
    refine List.forall₂_same.mpr fun q _ ↦ ?_
    split_ifs
    · exact ⟨rfl, rfl, rfl, rfl, rfl, rfl⟩
    · exact .refl q
  · cases h
    exact List.forall₂_same.mpr fun q _ ↦ .refl q

theorem quoting_exact {rfq : Rfq} {q : Quotation} (hdto : ValidDto dto)
    (hcalculation : calculate dto = .ok calculation)
    (h : quoting vendorId rfq dto calculation validUntil env db = .ok (db', q)) :
    Quotes dto db db' ∧ Fit dto := by
  obtain ⟨db₁, hsuperseded, h⟩ := andThen_eq_ok.mp h
  obtain ⟨created, hnew, h⟩ := andThen_eq_ok.mp h
  obtain ⟨t, hcreate, h⟩ := andThen_eq_ok.mp h
  obtain ⟨⟨db₂, updated⟩, hupdate, h⟩ := andThen_eq_ok.mp h
  obtain ⟨db₃, henqueued, h⟩ := andThen_eq_ok.mp h
  cases h
  obtain ⟨accounts, rfl⟩ := enqueued_eq_ok henqueued
  obtain ⟨hquotations, -⟩ := updateRfq_eq_ok (k := dto.rfqId) hupdate fun _ ↦ rfl
  obtain ⟨hexact, hfit⟩ := newQuotation_exact hdto hcalculation hnew
  refine ⟨⟨db₁.quotations.rows, q, ?_, superseded_amounts hsuperseded, hexact⟩, hfit⟩
  show db₂.quotations.rows = _
  rw [hquotations]
  exact Table.create_eq_ok.mp (ofRefusal_eq_ok.mp hcreate)

theorem log_sameQuotations {params : CreateAuditLogParams} :
    (log params client).Each fun _ ↦ SameQuotations := by
  refine fun env db ↦ ⟨⟨⟨rfl, rfl⟩, ?_⟩, trivial⟩
  obtain ⟨t, ht⟩ := AuditService.written_frame params client env db.accounts
  dsimp only
  rw [ht]

/-- The requests of a call change nothing, or they store a quotation whose amounts are exact. With
an amount that has no room in its column, or a negative total, nothing is ever changed and the call
does not succeed. -/
theorem createQuotation_exact (hdto : ValidDto dto) :
    (createQuotation vendorId dto client).Traces
      (fun _ _ _ db db' ↦ SameQuotations db db' ∨ Quotes dto db db' ∧ Fit dto)
      (fun _ _ ↦ Fit dto) [] := by
  have hsame (db : MarketDb) : SameQuotations db db := ⟨⟨rfl, rfl⟩, rfl⟩
  have hreads {α : Type} {c : MarketCall α} {history : MarketHistory}
      (hc : c.Each fun _ ↦ SameQuotations) : c.Traces
        (fun _ _ _ db db' ↦ SameQuotations db db' ∨ Quotes dto db db' ∧ Fit dto) (fun _ _ ↦ True)
        history :=
    Call.traces_each hc fun _ _ _ _ _ h ↦ .inl h
  refine Call.traces_bind ((hreads (assertActiveUser_reads hsame)).mono fun history _ _ ↦ ?_)
  refine Call.traces_bind (traces_finds (fun _ db ↦ .inl (hsame db)) fun env db ↦ ?_)
  cases db.rfqs.get? dto.rfqId with
  | none => trivial
  | some rfq =>
    dsimp only
    split_ifs
    · trivial
    · trivial
    · cases dto.validUntil.filter (env.now < ·) <;> trivial
    · cases dto.validUntil.filter (env.now < ·) with
      | none => trivial
      | some validUntil =>
        cases hcalculation : calculate dto with
        | error x => trivial
        | ok calculation =>
          refine Call.traces_bind (c := .returned (.ok calculation)) ?_
          refine Call.traces_bind (traces_stores (fun _ db ↦ .inl (hsame db))
            fun env db db' q h ↦ ?_)
          obtain ⟨hquotes, hfit⟩ := quoting_exact hdto hcalculation h
          refine ⟨.inr ⟨hquotes, hfit⟩, Call.traces_bind ((hreads log_sameQuotations).mono ?_)⟩
          exact fun _ _ _ ↦ hfit
    · trivial

end Quoting

/-- Three plates at ten cents, with a tax, less what they cost. -/
def platesQuotation : CreateQuotationDto :=
  { sampleQuotation with
    items := [⟨none, "Plate", 3, 1 / 10, none⟩, ⟨none, "Glass", 7, 29 / 100, none⟩]
    tax := some (35 / 100)
    discount := some (3 / 10) }

/-- The vendor's quotation passes the validation, and is stored. -/
theorem plates_exact : Fit platesQuotation ∧ ∃ response db',
    Call.Ran (fun _ ↦ True) (createQuotation "vendor-1" platesQuotation nobody) marketDb
      (.ok response) db' ∧ response.total = fl (238 / 100) := by
  have hdto : ValidDto platesQuotation := by
    refine ⟨fun item hitem ↦ ?_, fun tax htax ↦ ?_, fun discount hdiscount ↦ ?_⟩
    · simp only [platesQuotation, List.mem_cons, List.not_mem_nil, or_false] at hitem
      rcases hitem with rfl | rfl
      · exact ⟨by norm_num, by norm_num, 10, by norm_num⟩
      · exact ⟨by norm_num, by norm_num, 29, by norm_num⟩
    · cases htax
      exact ⟨by norm_num, 35, by norm_num⟩
    · cases hdiscount
      exact ⟨by norm_num, 30, by norm_num⟩
  have houtcome : (Call.outcome ((List.range 4).map fun n ↦ sampleEnv 1 s!"a{n}") marketDb
      (createQuotation "vendor-1" platesQuotation nobody)).any
        (fun q ↦ q.1.toOption.any fun response ↦ response.total == fl (238 / 100)) = true := by
    decide +kernel
  obtain ⟨response, db', hran, htotal⟩ := Call.exists_ran_of_outcome houtcome
  obtain ⟨history, hfit⟩ := (createQuotation_exact hdto).of_ran hran
  exact ⟨hfit, response, db', hran, beq_iff_eq.mp htotal⟩

end QuotationService

end Innovents.Marketplace
