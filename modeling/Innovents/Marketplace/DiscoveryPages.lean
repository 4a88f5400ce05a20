import Innovents.Marketplace.ServiceDiscovery

namespace Innovents.Marketplace

open Innovents.Lib Innovents.Auth Innovents.Platform
open Innovents.Payments (Time)

namespace C2bServicesService

/-- The service meets all criteria of the query, the room for a booking included. -/
def wanted (ilike : String → String → Bool) (query : C2bDiscoveryQueryDto) (now : Time)
    (db : OfferDb) (s : C2bService) : Bool :=
  matchesQuery ilike query now db s && (!(query.availableNow = some true) || hasRoom s)

def atPage (query : C2bDiscoveryQueryDto) (p : ℕ) : C2bDiscoveryQueryDto :=
  { query with page := some p }

/-- An answer of a call that is made at the moment `now`. -/
def Discovers (ilike : String → String → Bool) (query : C2bDiscoveryQueryDto) (now : Time)
    (db : OfferDb) (answer : PaginatedC2bServicesDto) : Prop :=
  ∃ db', Call.Ran (fun env : AuthEnv ↦ env.now = now) (discoverServices ilike query) db
    (.ok answer) db'

/-- The pages count what is wanted, are together the wanted services in their order, each once, and
only the last of them is shorter than the others. -/
structure ExactPages (ilike : String → String → Bool) (query : C2bDiscoveryQueryDto) (now : Time)
    (db : OfferDb) (pages : ℕ → PaginatedC2bServicesDto) : Prop where
  total : ∀ p, 1 ≤ p →
    (pages p).total = db.market.c2bServices.rows.countP (wanted ilike query now db)
  items : ∃ services : List C2bService,
    services.Perm (db.market.c2bServices.rows.filter (wanted ilike query now db)) ∧
      (∀ desc ∈ descending query, services.Pairwise (InOrder query desc db)) ∧
      ((List.range (pages 1).totalPages).flatMap fun k ↦ (pages (k + 1)).items) =
        services.map (toDto db)
  full : ∀ p, 1 ≤ p → p < (pages p).totalPages → (pages p).items.length = (pages p).pageSize

/-- Whatever the pages are that the calls answer with at one moment, they are exact. -/
def PaginatesExactly (ilike : String → String → Bool) (query : C2bDiscoveryQueryDto) (now : Time)
    (db : OfferDb) : Prop :=
  ∀ pages : ℕ → PaginatedC2bServicesDto,
    (∀ p, 1 ≤ p → Discovers ilike (atPage query p) now db (pages p)) →
      ExactPages ilike query now db pages

section Answers

variable {ilike : String → String → Bool} {query : C2bDiscoveryQueryDto} {desc : Bool} {now : Time}
  {db : OfferDb}

def pageSize (query : C2bDiscoveryQueryDto) : ℕ :=
  min ((query.pageSize.filter (· ≠ 0)).getD 20) 100

theorem pageSize_pos : 0 < pageSize query := by
  unfold pageSize
  cases hsize : query.pageSize.filter (· ≠ 0) with
  | none => decide
  | some size =>
    have hne : size ≠ 0 := by simpa using (Option.filter_eq_some_iff.mp hsize).2
    simp only [Option.getD_some]
    omega

/-- The services that match, in the order that is asked for. -/
def sorted (ilike : String → String → Bool) (query : C2bDiscoveryQueryDto) (desc : Bool)
    (now : Time) (db : OfferDb) : List C2bService :=
  (db.market.c2bServices.rows.filter (matchesQuery ilike query now db)).insertionSort
    (InOrder query desc db)

/-- What the call for a page answers. -/
def answer (ilike : String → String → Bool) (query : C2bDiscoveryQueryDto) (desc : Bool)
    (now : Time) (db : OfferDb) : PaginatedC2bServicesDto :=
  let total := db.market.c2bServices.rows.countP (matchesQuery ilike query now db)
  { items := (kept query (page (pageSize query) (sorted ilike query desc now db)
      ((query.page.filter (· ≠ 0)).getD 1 - 1))).map (toDto db)
    page := (query.page.filter (· ≠ 0)).getD 1
    pageSize := pageSize query
    total
    totalPages := max 1 (pageCount total (pageSize query)) }

theorem discovers_iff {a : PaginatedC2bServicesDto} :
    Discovers ilike query now db a ↔
      ∃ desc, descending query = some desc ∧ a = answer ilike query desc now db := by
  unfold Discovers discoverServices
  constructor
  · rintro ⟨db', hran⟩
    obtain ⟨moment, db₁, hclock, hrest⟩ := Call.ran_bind_ok.mp hran
    obtain ⟨env, rfl, hmoment, rfl⟩ := Call.ran_ask.mp hclock
    cases hmoment
    obtain ⟨desc, db₂, horder, hcount⟩ := Call.ran_bind_ok.mp hrest
    obtain ⟨hdesc, rfl⟩ := Call.ran_returned_ok.mp horder
    obtain ⟨total, db₃, htotal, hfind⟩ := Call.ran_bind_ok.mp hcount
    obtain ⟨env₁, -, -, rfl, rfl⟩ := Call.ran_reads_ok.mp htotal
    obtain ⟨items, db₄, hitems, hanswer⟩ := Call.ran_bind_ok.mp hfind
    obtain ⟨env₂, -, -, rfl, rfl⟩ := Call.ran_reads_ok.mp hitems
    exact ⟨desc, present_eq_ok.mp hdesc,
      (Except.ok.inj (Call.ran_returned_ok.mp hanswer).1).symm⟩
  · rintro ⟨desc, horder, rfl⟩
    let env := sampleEnv now ""
    refine ⟨db, Call.ran_bind_ok.mpr ⟨now, db, Call.ran_ask.mpr ⟨env, rfl, rfl, rfl⟩, ?_⟩⟩
    refine Call.ran_bind_ok.mpr ⟨desc, db,
      Call.ran_returned_ok.mpr ⟨present_eq_ok.mpr horder, rfl⟩, ?_⟩
    refine Call.ran_bind_ok.mpr ⟨_, db, Call.ran_reads_ok.mpr ⟨env, rfl, rfl, rfl, rfl⟩, ?_⟩
    refine Call.ran_bind_ok.mpr ⟨_, db, Call.ran_reads_ok.mpr ⟨env, rfl, rfl, rfl, rfl⟩, ?_⟩
    exact .returned

theorem inOrder_total (a b : C2bService) : InOrder query desc db a b ∨ InOrder query desc db b a := by
  unfold InOrder
  split_ifs
  · exact le_total _ _
  · exact le_total _ _

theorem inOrder_trans {a b c : C2bService} (h : InOrder query desc db a b)
    (h' : InOrder query desc db b c) : InOrder query desc db a c := by
  unfold InOrder at *
  split_ifs at *
  · exact le_trans h' h
  · exact le_trans h h'

instance : Std.Total (InOrder query desc db) := ⟨inOrder_total⟩

instance : IsTrans C2bService (InOrder query desc db) := ⟨fun _ _ _ ↦ inOrder_trans⟩

theorem sorted_pairwise : (sorted ilike query desc now db).Pairwise (InOrder query desc db) :=
  List.pairwise_insertionSort _ _

theorem sorted_perm : (sorted ilike query desc now db).Perm
    (db.market.c2bServices.rows.filter (matchesQuery ilike query now db)) :=
  List.perm_insertionSort _ _

theorem length_sorted : (sorted ilike query desc now db).length =
    db.market.c2bServices.rows.countP (matchesQuery ilike query now db) := by
  rw [sorted_perm.length_eq, List.countP_eq_length_filter]

end Answers

section Exactness

variable {ilike : String → String → Bool} {query : C2bDiscoveryQueryDto} {desc : Bool} {now : Time}
  {db : OfferDb}

/-- Nothing that matches is left out for want of room. -/
def AllKept (ilike : String → String → Bool) (query : C2bDiscoveryQueryDto) (now : Time)
    (db : OfferDb) : Prop :=
  query.availableNow ≠ some true ∨
    ∀ s ∈ db.market.c2bServices.rows, matchesQuery ilike query now db s = true → hasRoom s = true

theorem wanted_iff_matches (h : AllKept ilike query now db) {s : C2bService}
    (hs : s ∈ db.market.c2bServices.rows) :
    wanted ilike query now db s = true ↔ matchesQuery ilike query now db s = true := by
  unfold wanted
  rw [Bool.and_eq_true]
  refine ⟨And.left, fun hmatches ↦ ⟨hmatches, ?_⟩⟩
  rcases h with hany | hroom
  · simp [hany]
  · simp [hroom s hs hmatches]

theorem kept_eq (h : AllKept ilike query now db) {services : List C2bService}
    (hsub : services.Sublist (sorted ilike query desc now db)) : kept query services = services := by
  unfold kept
  split_ifs with havailable
  · refine List.filter_eq_self.mpr fun s hs ↦ ?_
    obtain ⟨hmem, hmatches⟩ := List.mem_filter.mp (sorted_perm.mem_iff.mp (hsub.mem hs))
    exact h.resolve_left (not_not.mpr havailable) s hmem hmatches
  · rfl

theorem pages_answer (h : AllKept ilike query now db) {p : ℕ} (hp : 1 ≤ p) :
    (answer ilike (atPage query p) desc now db).items =
      (page (pageSize query) (sorted ilike query desc now db) (p - 1)).map (toDto db) := by
  have hpage : ((some p).filter (· ≠ 0)).getD 1 = p := by
    rw [Option.filter_some, if_pos (by simpa using Nat.one_le_iff_ne_zero.mp hp), Option.getD_some]
  show (kept query (page (pageSize query) (sorted ilike query desc now db)
    (((some p).filter (· ≠ 0)).getD 1 - 1))).map (toDto db) = _
  rw [hpage, kept_eq h (page_sublist _)]

/-- The pages that are counted hold every service that matches. -/
theorem pages_together (h : AllKept ilike query now db) {pages : ℕ → PaginatedC2bServicesDto}
    (hpages : ∀ p, 1 ≤ p → pages p = answer ilike (atPage query p) desc now db) :
    ((List.range (pages 1).totalPages).flatMap fun k ↦ (pages (k + 1)).items) =
      (sorted ilike query desc now db).map (toDto db) := by
  have hsize : 0 < pageSize query := pageSize_pos
  have hitems : (fun k ↦ (pages (k + 1)).items) =
      page (pageSize query) ((sorted ilike query desc now db).map (toDto db)) := by
    funext k
    rw [hpages (k + 1) (by omega), pages_answer h (by omega), Nat.add_sub_cancel, page_map]
  have hcount : (pages 1).totalPages =
      max 1 (pageCount (sorted ilike query desc now db).length (pageSize query)) := by
    rw [hpages 1 le_rfl, length_sorted]
    rfl
  rw [hitems, pages_join]
  refine List.take_of_length_le ?_
  rw [List.length_map, hcount]
  exact (length_le_pages hsize _).trans (Nat.mul_le_mul_right _ (le_max_right _ _))

theorem exact_of_kept (h : AllKept ilike query now db) : PaginatesExactly ilike query now db := by
  intro pages hlists
  obtain ⟨desc, hdesc, -⟩ := discovers_iff.mp (hlists 1 le_rfl)
  have hpages : ∀ p, 1 ≤ p → pages p = answer ilike (atPage query p) desc now db := by
    intro p hp
    obtain ⟨other, hother, hanswer⟩ := discovers_iff.mp (hlists p hp)
    cases (hdesc.symm.trans hother : some desc = some other)
    exact hanswer
  have hfilter : db.market.c2bServices.rows.filter (wanted ilike query now db) =
      db.market.c2bServices.rows.filter (matchesQuery ilike query now db) :=
    List.filter_congr fun s hs ↦ Bool.eq_iff_iff.mpr (wanted_iff_matches h hs)
  refine ⟨fun p hp ↦ ?_, ⟨sorted ilike query desc now db, ?_, ?_, pages_together h hpages⟩, ?_⟩
  · rw [hpages p hp, List.countP_eq_length_filter, hfilter, ← List.countP_eq_length_filter]
    rfl
  · rw [hfilter]
    exact sorted_perm
  · intro order horder
    cases (hdesc.symm.trans horder : some desc = some order)
    exact sorted_pairwise
  · intro p hp hlast
    rw [hpages p hp] at hlast ⊢
    have hlast : p < max 1 (pageCount (sorted ilike query desc now db).length (pageSize query)) := by
      rw [length_sorted]
      exact hlast
    rw [pages_answer h hp, List.length_map]
    exact page_full pageSize_pos (by omega)

/-- The pages are exact just where there is no such order, or no service that matches is full while
only those with room are asked for. -/
theorem paginatesExactly_iff : PaginatesExactly ilike query now db ↔
    descending query = none ∨ AllKept ilike query now db := by
  constructor
  · intro h
    by_contra hnot
    obtain ⟨horder, hkept⟩ := not_or.mp hnot
    obtain ⟨desc, hdesc⟩ := Option.ne_none_iff_exists'.mp horder
    obtain ⟨havailable, hfull⟩ := not_or.mp hkept
    have hexact := h (fun p ↦ answer ilike (atPage query p) desc now db)
      fun p _ ↦ discovers_iff.mpr ⟨desc, hdesc, rfl⟩
    have htotal : db.market.c2bServices.rows.countP (matchesQuery ilike query now db) =
        db.market.c2bServices.rows.countP (wanted ilike query now db) := hexact.total 1 le_rfl
    -- The full services that match are counted, and are not wanted.
    refine hfull fun s hs hmatches ↦ ?_
    have hall : (db.market.c2bServices.rows.filter (matchesQuery ilike query now db)).countP hasRoom =
        (db.market.c2bServices.rows.filter (matchesQuery ilike query now db)).length := by
      rw [List.countP_filter, ← List.countP_eq_length_filter, htotal]
      refine List.countP_congr fun s _ ↦ ?_
      simp [wanted, not_not.mp havailable, and_comm]
    exact List.countP_eq_length.mp hall s (List.mem_filter.mpr ⟨hs, hmatches⟩)
  · rintro (hnone | hkept)
    · intro pages hlists
      obtain ⟨desc, hdesc, -⟩ := discovers_iff.mp (hlists 1 le_rfl)
      rw [show descending (atPage query 1) = descending query from rfl, hnone] at hdesc
      cases hdesc
    · exact exact_of_kept hkept

end Exactness

section Sample

/-- The services that still take bookings. -/
def availableServices : C2bDiscoveryQueryDto :=
  ⟨none, none, none, none, none, none, some true, none, none, none, none⟩

/-- The only service that matches is booked up; it is counted and not shown. -/
theorem full_service_counted : ¬PaginatesExactly (fun _ _ ↦ true) availableServices 50
    (stayDb Events.sampleEvent { sampleStay with bookingCount := 1 }) := by
  intro h
  rcases paginatesExactly_iff.mp h with horder | havailable | hroom
  · exact absurd horder (by decide)
  · exact havailable rfl
  · exact absurd (hroom _ List.mem_cons_self (by decide)) (by decide)

end Sample

end C2bServicesService

end Innovents.Marketplace
