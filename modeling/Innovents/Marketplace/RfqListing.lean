import Innovents.Lib.Pages
import Innovents.Lib.Requests
import Innovents.Marketplace.RfqCalls

namespace Innovents.Marketplace

open Innovents.Lib Innovents.Auth
open Innovents.Payments (Time)

namespace RfqService

/-- The account is active and not deleted. -/
def MayList (userId : String) (db : MarketDb) : Prop :=
  ∃ user, db.accounts.users.get? userId = some user ∧ user.deletedAt = none ∧ user.status = .active

/-- The status that the list shows. -/
def reported (now : Time) (rfq : Rfq) : RfqStatus :=
  if rfq.status.canExpire && rfq.expiresAt ≤ now then .expired else rfq.status

def anyStatus (query : RfqQueryDto) : RfqQueryDto := { query with status := none }

/-- The query for one page of the RFQs in a status. -/
def onPage (query : RfqQueryDto) (s : RfqStatus) (p : ℤ) : RfqQueryDto :=
  { query with
    status := some s
    page := some p }

/-- The caller's RFQs that pass the other filters and are reported in the status. -/
def wanted (userId : String) (query : RfqQueryDto) (s : RfqStatus) (now : Time) (rfq : Rfq) : Bool :=
  myRfqs userId (anyStatus query) rfq && reported now rfq == s

/-- A page that the call answers with when it is asked at the moment `now`. -/
def Lists (userId : String) (query : RfqQueryDto) (now : Time) (db : MarketDb)
    (answer : PaginatedRfqsDto) : Prop :=
  ∃ db', Call.Ran (fun env : AuthEnv ↦ env.now = now) (getMyRfqs userId query) db (.ok answer) db'

/-- The pages report the status that they filter on: every item has it, the total counts the RFQs
that would be reported so, and each of these is on one page and no other. -/
def ReportsFilter (userId : String) (query : RfqQueryDto) (s : RfqStatus) (now : Time)
    (db : MarketDb) : Prop :=
  ∀ pages : ℤ → PaginatedRfqsDto,
    (∀ p, 1 ≤ p → Lists userId (onPage query s p) now db (pages p)) →
      (∀ p, 1 ≤ p → (∀ item ∈ (pages p).items, item.status = s) ∧
        (pages p).total = db.rfqs.rows.countP (wanted userId query s now)) ∧
      ∀ rfq ∈ db.rfqs.rows, wanted userId query s now rfq = true →
        ∃! p, (1 ≤ p ∧ p ≤ (pages p).totalPages) ∧ ∃ item ∈ (pages p).items, item.id = rfq.id

section Answers

variable {userId : String} {query : RfqQueryDto} {s : RfqStatus} {now : Time} {db db' : MarketDb}

def boundedLimit (query : RfqQueryDto) : ℤ := min (max 1 (query.limit.getD 20)) 100

theorem boundedLimit_pos : 0 < (boundedLimit query).toNat := by
  unfold boundedLimit
  omega

/-- The RFQs of which the list shows pages. -/
def sorted (userId : String) (query : RfqQueryDto) (db : MarketDb) : List Rfq :=
  sortRfqs query (db.rfqs.rows.filter (myRfqs userId query))

/-- What the call answers an active account. -/
def answer (userId : String) (query : RfqQueryDto) (now : Time) (db : MarketDb) :
    PaginatedRfqsDto where
  items := (((sorted userId query db).drop
    ((max 1 (query.page.getD 1) - 1) * boundedLimit query).toNat).take
      (boundedLimit query).toNat).map (listItem now)
  total := db.rfqs.rows.countP (myRfqs userId query)
  page := query.page.getD 1
  limit := boundedLimit query
  totalPages := totalPages (db.rfqs.rows.countP (myRfqs userId query)) (boundedLimit query).toNat

theorem ran_assertActiveUser {ok : AuthEnv → Prop} {u : Unit}
    (hok : ∃ env, ok env ∧ env.fault = none) :
    Call.Ran ok (assertActiveUser userId none) db (.ok u) db' ↔ MayList userId db ∧ db' = db := by
  unfold assertActiveUser
  rw [Call.bind_eq, Call.ran_bind_ok]
  constructor
  · rintro ⟨user, db₁, hread, hrest⟩
    obtain ⟨env, -, -, rfl, rfl⟩ := ran_finds_ok.mp hread
    cases huser : (db₁.accounts.users.get? userId).filter (·.deletedAt.isNone) with
    | none =>
      rw [huser] at hrest
      cases hrest
    | some user =>
      rw [huser] at hrest
      dsimp only at hrest
      split_ifs at hrest with hstatus
      · cases hrest
      · obtain ⟨hget, hdeleted⟩ := Option.filter_eq_some_iff.mp huser
        refine ⟨⟨user, hget, Option.isNone_iff_eq_none.mp hdeleted, not_not.mp hstatus⟩, ?_⟩
        exact (Call.ran_returned_ok.mp hrest).2
  · rintro ⟨⟨user, hget, hdeleted, hstatus⟩, rfl⟩
    obtain ⟨env, henv, hfault⟩ := hok
    refine ⟨_, db', ran_finds_ok.mpr ⟨env, henv, hfault, rfl, rfl⟩, ?_⟩
    have hfound : (db'.accounts.users.get? userId).filter (·.deletedAt.isNone) = some user :=
      Option.filter_eq_some_iff.mpr ⟨hget, by rw [hdeleted]; rfl⟩
    rw [hfound]
    dsimp only
    rw [if_neg (not_not.mpr hstatus)]
    exact .returned

theorem lists_iff {a : PaginatedRfqsDto} :
    Lists userId query now db a ↔ MayList userId db ∧ a = answer userId query now db := by
  have henv : ∃ env : AuthEnv, env.now = now ∧ env.fault = none := ⟨sampleEnv now "", rfl, rfl⟩
  unfold Lists getMyRfqs
  constructor
  · rintro ⟨db', hran⟩
    obtain ⟨u, db₁, hactive, hlist⟩ := Call.ran_bind_ok.mp hran
    obtain ⟨hmay, rfl⟩ := (ran_assertActiveUser henv).mp hactive
    obtain ⟨⟨rfqs, moment⟩, db₂, hrows, hcount⟩ := Call.ran_bind_ok.mp hlist
    obtain ⟨env, rfl, -, hrows, rfl⟩ := ran_finds_ok.mp hrows
    obtain ⟨total, db₃, htotal, hanswer⟩ := Call.ran_bind_ok.mp hcount
    obtain ⟨env', -, -, rfl, rfl⟩ := ran_finds_ok.mp htotal
    obtain ⟨rfl, rfl⟩ := Prod.mk.inj hrows
    exact ⟨hmay, (Except.ok.inj (Call.ran_returned_ok.mp hanswer).1).symm⟩
  · rintro ⟨hactive, rfl⟩
    obtain ⟨env, hnow, hfault⟩ := henv
    refine ⟨db, Call.ran_bind_ok.mpr ⟨(), db, (ran_assertActiveUser ⟨env, hnow, hfault⟩).mpr
      ⟨hactive, rfl⟩, ?_⟩⟩
    refine Call.ran_bind_ok.mpr ⟨_, db, ran_finds_ok.mpr ⟨env, hnow, hfault, rfl, rfl⟩, ?_⟩
    refine Call.ran_bind_ok.mpr ⟨_, db, ran_finds_ok.mpr ⟨env, hnow, hfault, rfl, rfl⟩, ?_⟩
    rw [hnow]
    exact .returned

theorem mem_sorted {rfq : Rfq} :
    rfq ∈ sorted userId query db ↔ rfq ∈ db.rfqs.rows ∧ myRfqs userId query rfq = true := by
  unfold sorted sortRfqs
  dsimp only
  split_ifs <;> rw [List.mem_insertionSort, List.mem_filter]

theorem length_sorted : (sorted userId query db).length = db.rfqs.rows.countP (myRfqs userId query) := by
  unfold sorted sortRfqs
  dsimp only
  split_ifs <;> rw [List.length_insertionSort, List.countP_eq_length_filter]

theorem nodup_sorted : ((sorted userId query db).map Rfq.id).Nodup := by
  have hfilter : ((db.rfqs.rows.filter (myRfqs userId query)).map Rfq.id).Nodup :=
    db.rfqs.nodup_ids.sublist (List.filter_sublist.map Row.id)
  unfold sorted sortRfqs
  dsimp only
  split_ifs
  · exact ((List.perm_insertionSort _ _).map Rfq.id).nodup_iff.mpr hfilter
  · exact ((List.perm_insertionSort _ _).map Rfq.id).nodup_iff.mpr hfilter

/-- The pages of the list, as the items of each page have them. -/
theorem items_answer {p : ℤ} (hp : 1 ≤ p) : (answer userId (onPage query s p) now db).items =
    (page (boundedLimit query).toNat (sorted userId (onPage query s p) db) (p - 1).toNat).map
      (listItem now) := by
  have hskip : ((max 1 p - 1) * boundedLimit query).toNat =
      (p - 1).toNat * (boundedLimit query).toNat := by
    rw [max_eq_right hp, Int.toNat_mul (by omega) (by unfold boundedLimit; omega)]
  show ((sorted _ _ _).drop ((max 1 p - 1) * boundedLimit query).toNat |>.take _).map _ = _
  rw [hskip]
  rfl

/-- The RFQs whose pages a filter on `s` shows. -/
def filtered (userId : String) (query : RfqQueryDto) (s : RfqStatus) (db : MarketDb) : List Rfq :=
  sorted userId (onPage query s 1) db

theorem mem_filtered {rfq : Rfq} : rfq ∈ filtered userId query s db ↔
    rfq ∈ db.rfqs.rows ∧ myRfqs userId (anyStatus query) rfq = true ∧ rfq.status = s := by
  rw [filtered, mem_sorted]
  simp only [myRfqs, onPage, anyStatus, Option.all_some, Option.all_none, Bool.and_eq_true,
    beq_iff_eq]
  tauto

theorem nodup_filtered : ((filtered userId query s db).map Rfq.id).Nodup := nodup_sorted

theorem mem_items {p : ℤ} (hp : 1 ≤ p) {item : RfqListItemDto} :
    item ∈ (answer userId (onPage query s p) now db).items ↔
      ∃ rfq ∈ page (boundedLimit query).toNat (filtered userId query s db) (p - 1).toNat,
        listItem now rfq = item := by
  rw [items_answer hp, List.mem_map]
  rfl

theorem shown_iff {p : ℤ} (hp : 1 ≤ p) {rfq : Rfq} :
    (∃ item ∈ (answer userId (onPage query s p) now db).items, item.id = rfq.id) ↔
      rfq.id ∈ page (boundedLimit query).toNat ((filtered userId query s db).map Rfq.id)
        (p - 1).toNat := by
  rw [page_map, List.mem_map]
  constructor
  · rintro ⟨item, hitem, hid⟩
    obtain ⟨shown, hshown, rfl⟩ := (mem_items hp).mp hitem
    exact ⟨shown, hshown, hid⟩
  · rintro ⟨shown, hshown, hid⟩
    exact ⟨listItem now shown, (mem_items hp).mpr ⟨shown, hshown, rfl⟩, hid⟩

theorem totalPages_answer {p : ℤ} : (answer userId (onPage query s p) now db).totalPages =
    totalPages ((filtered userId query s db).map Rfq.id).length (boundedLimit query).toNat := by
  rw [List.length_map, filtered, length_sorted]
  rfl

theorem lt_totalPages {ids : List String} {id : String} {size k : ℕ} (hsize : 0 < size)
    (hid : id ∈ page size ids k) : k < totalPages ids.length size := by
  have hlt := lt_pageCount hsize hid
  unfold totalPages
  split_ifs with hnone
  · rw [List.length_eq_zero_iff.mp hnone] at hid
    simp [page] at hid
  · exact hlt

variable (now) in
/-- An RFQ with the stored status is on one page and no other. -/
theorem existsUnique_shown {rfq : Rfq} (hrfq : rfq ∈ filtered userId query s db) :
    ∃! p, (1 ≤ p ∧ p ≤ ((answer userId (onPage query s p) now db).totalPages : ℤ)) ∧
      ∃ item ∈ (answer userId (onPage query s p) now db).items, item.id = rfq.id := by
  have hsize : 0 < (boundedLimit query).toNat := boundedLimit_pos
  have hids : rfq.id ∈ (filtered userId query s db).map Rfq.id := List.mem_map_of_mem hrfq
  obtain ⟨k, hk, honly⟩ := existsUnique_page hsize nodup_filtered hids
  have hback : ((k : ℤ) + 1 - 1).toNat = k := by omega
  refine ⟨k + 1, ⟨⟨by omega, ?_⟩, (shown_iff (by omega)).mpr (by rwa [hback])⟩, ?_⟩
  · have hlt := lt_totalPages hsize hk
    rw [totalPages_answer]
    omega
  · rintro p ⟨⟨hp, -⟩, hshown⟩
    have hpage := honly _ ((shown_iff hp).mp hshown)
    omega

end Answers

section Law

variable {userId : String} {query : RfqQueryDto} {s : RfqStatus} {now : Time} {db : MarketDb}

/-- The RFQ has run out of time while its status does not say so. -/
def PastDue (now : Time) (rfq : Rfq) : Prop := rfq.status.canExpire = true ∧ rfq.expiresAt ≤ now

theorem reported_pastDue {rfq : Rfq} (h : PastDue now rfq) : reported now rfq = .expired := by
  unfold reported
  rw [if_pos (by simpa [PastDue] using h)]

theorem reported_stored {rfq : Rfq} (h : ¬PastDue now rfq) : reported now rfq = rfq.status := by
  unfold reported
  rw [if_neg (by simpa [PastDue] using h)]

theorem canExpire_ne_expired {rfq : Rfq} (h : PastDue now rfq) : rfq.status ≠ .expired := by
  intro he
  rw [PastDue, he] at h
  exact absurd h.1 (by decide)

/-- Where no stored status is out of date, an RFQ is stored with the status that it is reported
with. -/
theorem wanted_iff {rfq : Rfq}
    (h : myRfqs userId (anyStatus query) rfq = true → PastDue now rfq →
      rfq.status ≠ s ∧ s ≠ .expired) :
    wanted userId query s now rfq = true ↔
      myRfqs userId (anyStatus query) rfq = true ∧ rfq.status = s := by
  unfold wanted
  rw [Bool.and_eq_true, beq_iff_eq]
  refine and_congr_right fun hmine ↦ ?_
  by_cases hdue : PastDue now rfq
  · obtain ⟨hstatus, hexpired⟩ := h hmine hdue
    rw [reported_pastDue hdue]
    exact ⟨fun he ↦ absurd he.symm hexpired, fun he ↦ absurd he hstatus⟩
  · rw [reported_stored hdue]

/-- The list reports what it filters on just where the caller may not list anything, or no RFQ that
has run out of time is asked for, neither by its stored status nor as an expired one. -/
theorem reportsFilter_iff : ReportsFilter userId query s now db ↔
    ¬MayList userId db ∨ ∀ rfq ∈ db.rfqs.rows, myRfqs userId (anyStatus query) rfq = true →
      PastDue now rfq → rfq.status ≠ s ∧ s ≠ .expired := by
  constructor
  · intro h
    by_contra hnot
    push Not at hnot
    obtain ⟨hmay, rfq, hrfq, hmine, hdue, hasked⟩ := hnot
    obtain ⟨hpages, hshown⟩ := h (fun p ↦ answer userId (onPage query s p) now db)
      fun p _ ↦ lists_iff.mpr ⟨hmay, rfl⟩
    by_cases hstatus : rfq.status = s
    · -- The filter finds it, and the list shows it as expired.
      have hfound := mem_filtered.mpr ⟨hrfq, hmine, hstatus⟩
      obtain ⟨k, hk⟩ := (existsUnique_page boundedLimit_pos
        (List.Nodup.of_map _ nodup_filtered) hfound).exists
      have hreported := (hpages (k + 1) (by omega)).1 _
        ((mem_items (by omega)).mpr ⟨rfq, by simpa using hk, rfl⟩)
      have hexpired : reported now rfq = s := hreported
      rw [reported_pastDue hdue] at hexpired
      exact canExpire_ne_expired hdue (hstatus.trans hexpired.symm)
    · -- It would be shown as expired, and the filter does not find it.
      have hs := hasked hstatus
      have hwanted : wanted userId query s now rfq = true := by
        simp [wanted, hmine, reported_pastDue hdue, hs]
      obtain ⟨p, ⟨⟨hp, -⟩, item, hitem, hid⟩, -⟩ := hshown rfq hrfq hwanted
      obtain ⟨shown, hpage, rfl⟩ := (mem_items hp).mp hitem
      obtain ⟨hmem, -, hfound⟩ := mem_filtered.mp ((page_sublist _).mem hpage)
      rw [db.rfqs.eq_of_id hmem hrfq hid] at hfound
      exact hstatus hfound
  · intro h pages hpages
    have hmay := (lists_iff.mp (hpages 1 le_rfl)).1
    have hlist : ∀ p, 1 ≤ p → pages p = answer userId (onPage query s p) now db :=
      fun p hp ↦ (lists_iff.mp (hpages p hp)).2
    have hall := h.resolve_left (not_not.mpr hmay)
    have hwanted : ∀ rfq ∈ db.rfqs.rows, wanted userId query s now rfq = true ↔
        myRfqs userId (anyStatus query) rfq = true ∧ rfq.status = s :=
      fun rfq hrfq ↦ wanted_iff (hall rfq hrfq)
    refine ⟨fun p hp ↦ ⟨fun item hitem ↦ ?_, ?_⟩, fun rfq hrfq hreported ↦ ?_⟩
    · rw [hlist p hp] at hitem
      obtain ⟨rfq, hpage, rfl⟩ := (mem_items hp).mp hitem
      obtain ⟨hrfq, hmine⟩ := mem_filtered.mp ((page_sublist _).mem hpage)
      have hreported := (hwanted rfq hrfq).mpr hmine
      rw [wanted, Bool.and_eq_true, beq_iff_eq] at hreported
      exact hreported.2
    · rw [hlist p hp]
      refine List.countP_congr fun rfq hrfq ↦ ?_
      rw [hwanted rfq hrfq]
      exact (and_iff_right hrfq).symm.trans (mem_sorted.symm.trans mem_filtered) |>.trans
        (and_iff_right hrfq)
    · have hstored := mem_filtered.mpr ⟨hrfq, (hwanted rfq hrfq).mp hreported⟩
      obtain ⟨p, ⟨⟨hp, hle⟩, hshown⟩, honly⟩ := existsUnique_shown now hstored
      refine ⟨p, ⟨⟨hp, by rwa [hlist p hp]⟩, by rwa [hlist p hp]⟩, ?_⟩
      rintro q ⟨⟨hq, hqle⟩, hqshown⟩
      rw [hlist q hq] at hqle hqshown
      exact honly q ⟨⟨hq, hqle⟩, hqshown⟩

end Law

section Sample

def allRfqs : RfqQueryDto := ⟨none, none, none, none, none, none, none, none⟩

/-- The RFQ is stored as sent and shown as expired. -/
theorem sent_list_shows_expired : ¬ReportsFilter "sponsor-1" allRfqs .sent 100 marketDb := by
  intro h
  have hsponsor : MayList "sponsor-1" marketDb := ⟨sampleSponsor, rfl, rfl, rfl⟩
  have hall := (reportsFilter_iff.mp h).resolve_left (not_not.mpr hsponsor)
  exact absurd rfl (hall sampleRfq List.mem_cons_self (by decide) ⟨by decide, le_rfl⟩).1

end Sample

end RfqService

end Innovents.Marketplace
