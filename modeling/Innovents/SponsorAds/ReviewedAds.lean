import Innovents.SponsorAds.SponsorAdsService

namespace Innovents.SponsorAds

open Innovents.Lib Innovents.Auth Innovents.Platform

section Reviews

/-- What a reader of an ad sees, and an admin reviews. -/
structure AdContent where
  title : String
  description : String
  imageUrl : String
  destinationUrl : String
  deriving DecidableEq, Repr

def SponsorAd.content (ad : SponsorAd) : AdContent :=
  ⟨ad.title, ad.description, ad.imageUrl, ad.destinationUrl⟩

def SponsorAdResponseDto.content (ad : SponsorAdResponseDto) : AdContent :=
  ⟨ad.title, ad.description, ad.imageUrl, ad.destinationUrl⟩

inductive AdOp
  | createAd (sponsorId : String) (dto : CreateSponsorAdDto) (client : Client)
  | updateAd (sponsorId adId : String) (dto : UpdateSponsorAdDto) (client : Client)
  | submitAd (sponsorId adId : String) (client : Client)
  | togglePauseAd (sponsorId adId : String) (client : Client)
  | deleteAd (sponsorId adId : String) (client : Client)
  | approveAd (adminId adId : String) (client : Client)
  | rejectAd (adminId adId : String) (dto : RejectSponsorAdDto) (client : Client)

def AdOp.runs : AdOp → AdsCall (Option SponsorAdResponseDto)
  | createAd sponsorId dto client => some <$> SponsorAdsService.createAd sponsorId dto client
  | updateAd sponsorId adId dto client =>
    some <$> SponsorAdsService.updateAd sponsorId adId dto client
  | submitAd sponsorId adId client => some <$> SponsorAdsService.submitAd sponsorId adId client
  | togglePauseAd sponsorId adId client =>
    some <$> SponsorAdsService.togglePauseAd sponsorId adId client
  | deleteAd sponsorId adId client =>
    (fun _ ↦ none) <$> SponsorAdsService.deleteAd sponsorId adId client
  | approveAd adminId adId client => some <$> SponsorAdsService.approveAd adminId adId client
  | rejectAd adminId adId dto client => some <$> SponsorAdsService.rejectAd adminId adId dto client

/-- The content that each ad had when it was last approved. -/
abbrev Approvals := String → Option AdContent

/-- What is known to be approved after an operation that ends in `db` with the result `r`. -/
def AdOp.noted (op : AdOp) (r : Except AuthError (Option SponsorAdResponseDto)) (db : AdsDb)
    (approved : Approvals) : Approvals :=
  match op, r with
  | .approveAd _ adId _, .ok _ =>
    Function.update approved adId ((db.sponsorAds.get? adId).map SponsorAd.content)
  | _, _ => approved

structure Reviewed where
  db : AdsDb
  approved : Approvals

/-- One operation from its first request to its last, or a change of other tables. -/
inductive ReviewStep (s : Reviewed) : Option AdOp → Reviewed → Prop
  | called (op : AdOp) (r : Except AuthError (Option SponsorAdResponseDto)) (db : AdsDb) :
      op.runs.Ran (fun _ ↦ True) s.db r db →
      ReviewStep s (some op) ⟨db, op.noted r db s.approved⟩
  | elsewhere (db : AdsDb) : db.sponsorAds = s.db.sponsorAds → ReviewStep s none ⟨db, s.approved⟩

/-- An ad that is to be resumed has not been edited since it was approved. -/
def ResumesUnedited (s : Reviewed) : Option AdOp → Prop
  | some (.togglePauseAd _ adId _) => ∀ ad ∈ s.db.sponsorAds.get? adId, ad.status = .paused →
    s.approved adId = some ad.content
  | _ => True

/-- There are no ads yet, and so none is approved. -/
def NoAdsYet (s : Reviewed) : Prop := s.db.sponsorAds = .empty ∧ s.approved = fun _ ↦ none

def SponsorAdStatus.isOut (status : SponsorAdStatus) : Prop :=
  status = .approved ∨ status = .published

/-- The ads that are out have the content that was approved. -/
def OnlyReviewed (approved : Approvals) (db : AdsDb) : Prop :=
  ∀ ad ∈ db.sponsorAds.rows, ad.status.isOut → approved ad.id = some ad.content

end Reviews

section Statements

variable {approved : Approvals} {db db' : AdsDb} {adId : String} {change : SponsorAd → SponsorAd}
  {env : AuthEnv} {dto : SponsorAdResponseDto}

theorem onlyReviewed_congr (h : db'.sponsorAds = db.sponsorAds) (hdb : OnlyReviewed approved db) :
    OnlyReviewed approved db' := by
  intro ad had
  rw [h] at had
  exact hdb ad had

theorem adCreate_reviewed {sponsorId : String} {create : CreateSponsorAdDto}
    {startsAt endsAt : Payments.Time}
    (h : SponsorAdsService.adCreate sponsorId create startsAt endsAt env db = .ok (db', dto))
    (hdb : OnlyReviewed approved db) : OnlyReviewed approved db' := by
  obtain ⟨-, -, h⟩ := andThen_eq_ok.mp h
  obtain ⟨sponsorAds, hcreate, h⟩ := andThen_eq_ok.mp h
  cases h
  intro ad had hout
  rw [Table.create_eq_ok.mp (ofRefusal_eq_ok.mp hcreate)] at had
  rcases List.mem_append.mp had with had | had
  · exact hdb ad had hout
  · -- a new ad is a draft
    rw [List.mem_singleton.mp had] at hout
    rcases hout with hout | hout <;> cases hout

/-- The statement changes one ad. -/
theorem adUpdate_eq (h : SponsorAdsService.adUpdate adId change env db = .ok (db', dto)) :
    db.sponsorAds.update adId (fun ad ↦ { change ad with updatedAt := env.now }) =
      .ok db'.sponsorAds := by
  obtain ⟨sponsorAds, hupdate, h⟩ := andThen_eq_ok.mp h
  obtain ⟨ad, -, h⟩ := andThen_eq_ok.mp h
  cases h
  exact ofRefusal_eq_ok.mp hupdate

theorem adUpdate_reviewed (h : SponsorAdsService.adUpdate adId change env db = .ok (db', dto))
    (hid : ∀ ad, (change ad).id = ad.id) (hdb : OnlyReviewed approved db)
    (hnew : ∀ ad ∈ db.sponsorAds.get? adId, (change ad).status.isOut →
      approved adId = some (change ad).content) : OnlyReviewed approved db' := by
  intro ad had hout
  rw [(Table.update_eq_ok.mp (adUpdate_eq h)).2, Table.mem_updateRows] at had
  rcases had with ⟨old, hold, hoid, rfl⟩ | ⟨had, -⟩
  · have hfound := hnew old (Table.get?_eq_some.mpr ⟨hold, hoid⟩) hout
    rw [← hoid] at hfound
    exact (congrArg approved (hid old)).trans hfound
  · exact hdb ad had hout

/-- A change that leaves an ad out only if it keeps its status and content. -/
theorem adUpdate_kept (h : SponsorAdsService.adUpdate adId change env db = .ok (db', dto))
    (hid : ∀ ad, (change ad).id = ad.id) (hdb : OnlyReviewed approved db)
    (hkept : ∀ ad ∈ db.sponsorAds.get? adId, (change ad).status.isOut →
      ad.status.isOut ∧ (change ad).content = ad.content) : OnlyReviewed approved db' := by
  refine adUpdate_reviewed h hid hdb fun ad had hout ↦ ?_
  obtain ⟨hold, hcontent⟩ := hkept ad had hout
  obtain ⟨hmem, heq⟩ := Table.get?_eq_some.mp had
  rw [hcontent, ← heq]
  exact hdb ad hmem hold

/-- A status that an update of the details leaves out, out of one that was out, comes without new
content. -/
theorem statusAfter_out {update : UpdateSponsorAdDto} {status : SponsorAdStatus}
    (h : (SponsorAdsService.statusAfter update status).isOut) : status.isOut ∧
      textGiven update.title = none ∧ textGiven update.description = none ∧
        textGiven update.imageUrl = none ∧ textGiven update.destinationUrl = none := by
  unfold SponsorAdsService.statusAfter at h
  split_ifs at h with hedit
  · rcases h with h | h <;> cases h
  · have hnone := not_and.mp hedit h
    simp only [not_or, Option.isSome_iff_ne_none, not_not] at hnone
    exact ⟨h, hnone⟩

theorem detailsUpdate_reviewed {update : UpdateSponsorAdDto} {old : SponsorAd}
    (h : SponsorAdsService.detailsUpdate adId update
      (SponsorAdsService.statusAfter update old.status) env db = .ok (db', dto))
    (hold : db.sponsorAds.get? adId = some old) (hdb : OnlyReviewed approved db) :
    OnlyReviewed approved db' := by
  obtain ⟨startsAt, -, h⟩ := andThen_eq_ok.mp h
  obtain ⟨endsAt, -, h⟩ := andThen_eq_ok.mp h
  refine adUpdate_kept h (fun _ ↦ rfl) hdb fun ad had hout ↦ ?_
  cases hold.symm.trans had
  obtain ⟨hbefore, htitle, hdescription, himage, hdestination⟩ := statusAfter_out hout
  refine ⟨hbefore, ?_⟩
  simp only [SponsorAd.content, htitle, hdescription, himage, hdestination, Option.getD_none]

/-- Whatever the transaction of a review does, it works as the update of one ad. -/
theorem reviewed_eq {adminId eventType : String} {payload : List (String × JsValue)}
    {status : SponsorAdStatus} {reason : Option String} {now : Payments.Time}
    (h : SponsorAdsService.reviewed adminId adId eventType payload status reason now env db =
      .ok (db', dto)) : ∃ db'', db'.sponsorAds = db''.sponsorAds ∧
        SponsorAdsService.adUpdate adId (fun ad ↦
          { ad with
            status
            rejectionReason := reason
            reviewedByUserId := some adminId
            reviewedAt := some now }) env db = .ok (db'', dto) := by
  obtain ⟨-, -, h⟩ := andThen_eq_ok.mp h
  obtain ⟨⟨db'', ad⟩, hupdate, h⟩ := andThen_eq_ok.mp h
  obtain ⟨db₃, henqueued, h⟩ := andThen_eq_ok.mp h
  cases h
  obtain ⟨accounts, rfl⟩ := enqueued_eq_ok henqueued
  exact ⟨db'', rfl, hupdate⟩

/-- An approval records the content as it stands. -/
theorem approved_reviewed (h : SponsorAdsService.adUpdate adId change env db = .ok (db', dto))
    (hid : ∀ ad, (change ad).id = ad.id) (hdb : OnlyReviewed approved db) :
    OnlyReviewed (Function.update approved adId
      ((db'.sponsorAds.get? adId).map SponsorAd.content)) db' := by
  intro ad had hout
  by_cases heq : ad.id = adId
  · rw [heq, Function.update_self, Table.get?_eq_some.mpr ⟨had, heq⟩, Option.map_some]
  · rw [Function.update_of_ne heq]
    rw [(Table.update_eq_ok.mp (adUpdate_eq h)).2, Table.mem_updateRows] at had
    rcases had with ⟨old, -, hoid, rfl⟩ | ⟨had, -⟩
    · exact absurd ((hid old).trans hoid) heq
    · exact hdb ad had hout

end Statements

section Operations

open SponsorAdsService

variable {approved : Approvals} {db : AdsDb} {ok : String → AdsDb → Prop} {sponsorId adId : String}
  {client : Client}

theorem assertActiveSponsor_reads {userId : String} :
    (assertActiveSponsor userId).Each fun _ db db' ↦ db' = db := by
  refine Call.each_bind (Call.each_reads fun _ ↦ rfl) fun found ↦ ?_
  refine Call.each_bind Call.each_returned fun user ↦ ?_
  exact Call.each_bind Call.each_returned fun _ ↦ Call.each_returned

/-- The ad is returned as it is, and nothing is written. -/
def Finds (adId : String) (db : AdsDb) (r : Except AuthError SponsorAd) (db' : AdsDb) : Prop :=
  db' = db ∧ ∀ ad, r = .ok ad → db.sponsorAds.get? adId = some ad

theorem finds_error (x : AuthError) : Finds adId db (.error x) db := by
  refine ⟨rfl, fun ad had ↦ ?_⟩
  cases had

theorem findAd_finds : (findAd adId).Alone ok (Finds adId db) db := by
  refine Call.alone_ask_bind finds_error fun env found hfound ↦ ?_
  refine Call.alone_returned ⟨rfl, fun ad had ↦ ?_⟩
  obtain ⟨-, hfound⟩ := Call.elim_fault hfound
  cases hfound
  exact (Option.filter_eq_some_iff.mp (present_eq_ok.mp had)).1

/-- After an ad has been looked for. -/
theorem found_bind {α : Type} {c : AdsCall SponsorAd} {f : SponsorAd → AdsCall α}
    {post : Except AuthError α → AdsDb → Prop} (hc : c.Alone ok (Finds adId db) db)
    (herror : ∀ x, post (.error x) db)
    (h : ∀ ad, db.sponsorAds.get? adId = some ad → (f ad).Alone ok post db) :
    (c.bind f).Alone ok post db := by
  refine Call.alone_bind (Call.alone_mono hc fun r db' ⟨hdb', hfound⟩ ↦ ?_)
  subst hdb'
  cases r with
  | error x => exact herror x
  | ok ad => exact h ad (hfound ad rfl)

theorem ownAd_finds {verb : String} : (ownAd sponsorId adId verb).Alone ok (Finds adId db) db := by
  refine Call.alone_reading_bind assertActiveSponsor_reads finds_error fun _ ↦ ?_
  refine found_bind findAd_finds finds_error fun ad had ↦ ?_
  refine Call.alone_returned_bind finds_error fun _ _ ↦ ⟨rfl, fun ad' had' ↦ ?_⟩
  cases had'
  exact had

/-- The log is written, and then the call returns. -/
theorem logged_reviewed {α : Type} {params : CreateAuditLogParams} {x : Except AuthError α}
    (hdb : OnlyReviewed approved db) : ((log params client).bind fun _ ↦ .returned x).Alone ok
      (fun _ ↦ OnlyReviewed approved) db := by
  refine alone_log_bind ?_
  rintro _ ⟨accounts, rfl⟩
  exact hdb

theorem createAd_reviewed {dto : CreateSponsorAdDto} (hdb : OnlyReviewed approved db) :
    (createAd sponsorId dto client).Alone ok (fun _ ↦ OnlyReviewed approved) db := by
  have herror : ∀ _ : AuthError, OnlyReviewed approved db := fun _ ↦ hdb
  refine Call.alone_reading_bind assertActiveSponsor_reads herror fun _ ↦ ?_
  refine Call.alone_returned_bind herror fun dates _ ↦ ?_
  obtain ⟨startsAt, endsAt⟩ := dates
  refine Call.alone_returned_bind herror fun _ _ ↦ ?_
  refine Call.alone_reading_bind ?_ herror fun _ ↦ ?_
  · unfold assertTarget
    split
    · exact Call.each_returned
    · exact Call.each_bind (Call.each_reads fun _ ↦ rfl) fun _ ↦ Call.each_returned
  refine Call.alone_writes_bind herror fun env db' ad _ h ↦ ?_
  exact logged_reviewed (adCreate_reviewed h hdb)

theorem updateAd_reviewed {dto : UpdateSponsorAdDto} (hdb : OnlyReviewed approved db) :
    (updateAd sponsorId adId dto client).Alone ok (fun _ ↦ OnlyReviewed approved) db := by
  have herror : ∀ _ : AuthError, OnlyReviewed approved db := fun _ ↦ hdb
  refine found_bind ownAd_finds herror fun ad had ↦ ?_
  refine Call.alone_returned_bind herror fun _ _ ↦ ?_
  refine Call.alone_writes_bind herror fun env db' updated _ h ↦ ?_
  exact logged_reviewed (detailsUpdate_reviewed h had hdb)

theorem submitAd_reviewed (hdb : OnlyReviewed approved db) :
    (submitAd sponsorId adId client).Alone ok (fun _ ↦ OnlyReviewed approved) db := by
  have herror : ∀ _ : AuthError, OnlyReviewed approved db := fun _ ↦ hdb
  refine found_bind ownAd_finds herror fun ad had ↦ ?_
  refine Call.alone_returned_bind herror fun _ _ ↦ ?_
  refine Call.alone_writes_bind herror fun env db' updated _ h ↦ ?_
  have hdb' : OnlyReviewed approved db' := by
    refine adUpdate_kept h (fun _ ↦ rfl) hdb fun ad _ hout ↦ ?_
    rcases hout with hout | hout <;> cases hout
  refine Call.alone_writes_bind (fun _ ↦ hdb') fun env db'' _ _ h ↦ ?_
  obtain ⟨db₃, henqueued, h⟩ := andThen_eq_ok.mp h
  cases h
  obtain ⟨accounts, rfl⟩ := enqueued_eq_ok henqueued
  exact logged_reviewed hdb'

/-- An ad that is resumed has to have the approved content. -/
theorem togglePauseAd_reviewed (hdb : OnlyReviewed approved db)
    (hresumed : ∀ ad ∈ db.sponsorAds.get? adId, ad.status = .paused →
      approved adId = some ad.content) :
    (togglePauseAd sponsorId adId client).Alone ok (fun _ ↦ OnlyReviewed approved) db := by
  have herror : ∀ _ : AuthError, OnlyReviewed approved db := fun _ ↦ hdb
  refine found_bind ownAd_finds herror fun ad had ↦ ?_
  refine Call.alone_returned_bind herror fun nextStatus hnext ↦ ?_
  refine Call.alone_writes_bind herror fun env db' updated _ h ↦ logged_reviewed ?_
  refine adUpdate_reviewed h (fun _ ↦ rfl) hdb fun old hold hout ↦ ?_
  cases had.symm.trans hold
  refine hresumed ad hold ?_
  have hout : nextStatus.isOut := hout
  unfold toggled at hnext
  split at hnext
  · cases hnext
    rcases hout with hout | hout <;> cases hout
  · cases hnext
    rcases hout with hout | hout <;> cases hout
  · assumption
  · cases hnext

theorem deleteAd_reviewed (hdb : OnlyReviewed approved db) :
    (deleteAd sponsorId adId client).Alone ok (fun _ ↦ OnlyReviewed approved) db := by
  have herror : ∀ _ : AuthError, OnlyReviewed approved db := fun _ ↦ hdb
  refine found_bind ownAd_finds herror fun ad had ↦ ?_
  refine Call.alone_writes_bind herror fun env db' updated _ h ↦ ?_
  refine Call.alone_each (each_log fun _ _ ⟨accounts, hbeside⟩ _ hreviewed ↦ ?_) ?_
  · exact onlyReviewed_congr (by rw [hbeside]; rfl) hreviewed
  · exact adUpdate_kept h (fun _ ↦ rfl) hdb fun _ _ hout ↦ ⟨hout, rfl⟩

theorem findForReview_reads : (findForReview adId).Each fun _ db db' ↦ db' = db := by
  refine Call.each_bind (Call.each_reads fun _ ↦ rfl) fun found ↦ ?_
  exact Call.each_bind Call.each_returned fun _ ↦ Call.each_returned

theorem rejectAd_reviewed {adminId : String} {dto : RejectSponsorAdDto}
    (hdb : OnlyReviewed approved db) :
    (rejectAd adminId adId dto client).Alone ok (fun _ ↦ OnlyReviewed approved) db := by
  have herror : ∀ _ : AuthError, OnlyReviewed approved db := fun _ ↦ hdb
  refine Call.alone_reading_bind findForReview_reads herror fun found ↦ ?_
  obtain ⟨ad, now⟩ := found
  refine Call.alone_returned_bind herror fun _ _ ↦ ?_
  refine Call.alone_writes_bind herror fun env db' updated _ h ↦ logged_reviewed ?_
  obtain ⟨db'', hsame, h⟩ := reviewed_eq h
  refine onlyReviewed_congr hsame (adUpdate_kept h (fun _ ↦ rfl) hdb fun ad _ hout ↦ ?_)
  rcases hout with hout | hout <;> cases hout

/-- An approval that succeeds is of the content that the ad then has. -/
theorem approveAd_reviewed {adminId : String} (hdb : OnlyReviewed approved db) :
    (approveAd adminId adId client).Alone ok (fun r db' ↦ OnlyReviewed
      ((AdOp.approveAd adminId adId client).noted (r.map some) db' approved) db') db := by
  refine Call.alone_reading_bind findForReview_reads (fun _ ↦ hdb) fun found ↦ ?_
  obtain ⟨ad, now⟩ := found
  refine Call.alone_returned_bind (fun _ ↦ hdb) fun _ _ ↦ ?_
  refine Call.alone_writes_bind (fun _ ↦ hdb) fun env db' updated _ h ↦ ?_
  refine alone_log_bind ?_
  rintro _ ⟨accounts, rfl⟩
  obtain ⟨db'', hsame, h⟩ := reviewed_eq h
  have happroved := approved_reviewed h (fun _ ↦ rfl) hdb
  rw [← hsame] at happroved
  exact onlyReviewed_congr hsame happroved

theorem runs_reviewed (op : AdOp) (hdb : OnlyReviewed approved db)
    (hresumed : ResumesUnedited ⟨db, approved⟩ (some op)) :
    op.runs.Alone ok (fun r db' ↦ OnlyReviewed (op.noted r db' approved) db') db := by
  cases op with
  | createAd sponsorId dto client => exact Call.alone_map (createAd_reviewed hdb)
  | updateAd sponsorId adId dto client => exact Call.alone_map (updateAd_reviewed hdb)
  | submitAd sponsorId adId client => exact Call.alone_map (submitAd_reviewed hdb)
  | togglePauseAd sponsorId adId client =>
    exact Call.alone_map (togglePauseAd_reviewed hdb hresumed)
  | deleteAd sponsorId adId client => exact Call.alone_map (deleteAd_reviewed hdb)
  | approveAd adminId adId client => exact Call.alone_map (approveAd_reviewed hdb)
  | rejectAd adminId adId dto client => exact Call.alone_map (rejectAd_reviewed hdb)

end Operations

section PublicViews

open SponsorAdsService

variable {db db' : AdsDb} {oks : AuthEnv → Prop}

theorem isPublic_out {now : Payments.Time} {ad : SponsorAd} (h : isPublic now db ad = true) :
    ad.status.isOut := by
  simp only [isPublic, Bool.and_eq_true, Bool.or_eq_true, beq_iff_eq] at h
  exact h.1.1.1.1.2

/-- An ad that anyone sees is a row of the table, and out. -/
theorem discoverPublicAds_out {query : SponsorAdQueryDto} {page : PaginatedSponsorAdsDto}
    (h : (discoverPublicAds query).Ran oks db (.ok page) db') : ∀ dto ∈ page.items,
      ∃ ad ∈ db.sponsorAds.rows, ad.status.isOut ∧ dto = mapToDto db ad := by
  obtain ⟨⟨total, now⟩, _, hcount, hrest⟩ := Call.ran_bind_ok.mp h
  obtain ⟨-, -, -, -, rfl⟩ := Call.ran_reads_ok.mp hcount
  obtain ⟨items, _, hitems, hend⟩ := Call.ran_bind_ok.mp hrest
  obtain ⟨-, -, -, rfl, rfl⟩ := Call.ran_reads_ok.mp hitems
  obtain ⟨hpage, -⟩ := Call.ran_returned_ok.mp hend
  cases hpage
  intro dto hdto
  obtain ⟨ad, had, rfl⟩ := List.mem_map.mp hdto
  have hfound := (List.mem_insertionSort _).mp (List.mem_of_mem_drop (List.mem_of_mem_take had))
  obtain ⟨hmem, hmatches⟩ := List.mem_filter.mp hfound
  rw [Bool.and_eq_true, Bool.and_eq_true] at hmatches
  exact ⟨ad, hmem, isPublic_out hmatches.1.1, rfl⟩

theorem getPublicAdById_out {adId : String} {dto : SponsorAdResponseDto}
    (h : (getPublicAdById adId).Ran oks db (.ok dto) db') :
    ∃ ad ∈ db.sponsorAds.rows, ad.status.isOut ∧ dto = mapToDto db ad := by
  obtain ⟨found, _, hfound, hend⟩ := Call.ran_bind_ok.mp h
  obtain ⟨env, -, -, rfl, rfl⟩ := Call.ran_reads_ok.mp hfound
  obtain ⟨hshown, -⟩ := Call.ran_returned_ok.mp hend
  obtain ⟨ad, had, rfl⟩ := Option.map_eq_some_iff.mp (present_eq_ok.mp hshown)
  obtain ⟨hget, hpublic⟩ := Option.filter_eq_some_iff.mp had
  exact ⟨ad, (Table.get?_eq_some.mp hget).1, isPublic_out hpublic, rfl⟩

end PublicViews

section Runs

open SponsorAdsService

variable {s : Reviewed}

theorem reach_reviewed (h : Reach ReviewStep ResumesUnedited NoAdsYet s) :
    OnlyReviewed s.approved s.db := by
  refine h.invariant (I := fun s ↦ OnlyReviewed s.approved s.db) ?_ ?_
  · rintro s ⟨hads, -⟩ ad had
    rw [hads] at had
    cases had
  · rintro s move t hs hresumed hstep
    cases hstep with
    | called op r db hran => exact Call.alone_ran (runs_reviewed op hs hresumed) hran
    | elsewhere db hsame => exact onlyReviewed_congr hsame hs

/-- As long as no ad is resumed that was edited after its approval, whatever the public is shown of
an ad is what was last approved. -/
theorem public_content_approved (h : Reach ReviewStep ResumesUnedited NoAdsYet s) :
    (∀ query page db, (discoverPublicAds query).Ran (fun _ ↦ True) s.db (.ok page) db →
      ∀ ad ∈ page.items, s.approved ad.id = some ad.content) ∧
    ∀ adId ad db, (getPublicAdById adId).Ran (fun _ ↦ True) s.db (.ok ad) db →
      s.approved ad.id = some ad.content := by
  have hreviewed := reach_reviewed h
  constructor
  · intro query page db hran dto hdto
    obtain ⟨ad, had, hout, rfl⟩ := discoverPublicAds_out hran dto hdto
    exact hreviewed ad had hout
  · intro adId dto db hran
    obtain ⟨ad, had, hout, rfl⟩ := getPublicAdById_out hran
    exact hreviewed ad had hout

end Runs

section Sample

open SponsorAdsService

instance (s : Reviewed) (op : Option AdOp) : Decidable (ResumesUnedited s op) := by
  unfold ResumesUnedited
  split <;> infer_instance

/-- The operations one after another, each with its inputs, as long as they pass the check. -/
def playAds (check : Reviewed → AdOp → Bool) :
    List (AdOp × List AuthEnv) → Reviewed → Option Reviewed
  | [], s => some s
  | (op, envs) :: rest, s =>
    if check s op then do
      let (r, db) ← op.runs.outcome envs s.db
      playAds check rest ⟨db, op.noted r db s.approved⟩
    else none

theorem reach_playAds {ok : Reviewed → Option AdOp → Prop} {check : Reviewed → AdOp → Bool}
    {ops : List (AdOp × List AuthEnv)} {s t : Reviewed}
    (hcheck : ∀ s op, check s op = true → ok s (some op))
    (hs : Reach ReviewStep ok NoAdsYet s) (h : playAds check ops s = some t) :
    Reach ReviewStep ok NoAdsYet t := by
  induction ops generalizing s with
  | nil =>
    cases h
    exact hs
  | cons op rest ih =>
    obtain ⟨op, envs⟩ := op
    rw [playAds] at h
    split_ifs at h with hop
    rw [Option.bind_eq_bind, Option.bind_eq_some_iff] at h
    obtain ⟨⟨r, db⟩, hran, h⟩ := h
    have hcalled : op.runs.Ran (fun _ ↦ True) s.db r db :=
      Call.ran_of_outcome (fun _ _ ↦ trivial) hran
    exact ih (.next hs (hcheck s op hop) (.called op r db hcalled)) h

def sampleSponsor : User :=
  { attendee with
    id := "sponsor-1"
    email := "sponsor@example.com"
    userRoles := ["SPONSOR"] }

def sampleReviewer : User :=
  { attendee with
    id := "admin-1"
    email := "admin@example.com"
    userRoles := ["ADMIN"] }

def sponsorDb : AdsDb where
  accounts := { AuthDb.empty with
    users := ((Table.singleton sampleSponsor).create sampleReviewer).toOption.getD .empty }
  events := .empty
  sponsorAds := .empty

theorem sponsorDb_empty : NoAdsYet ⟨sponsorDb, fun _ ↦ none⟩ := ⟨rfl, rfl⟩

def sampleAd : CreateSponsorAdDto where
  eventId := none
  title := "Cloud infrastructure"
  description := "Scale your event operations"
  imageUrl := "https://cdn.example.com/banner.jpg"
  destinationUrl := "https://sponsor.example.com/offer"
  placement := none
  startsAt := some 0
  endsAt := some 500

def adInputs (tag : String) : List AuthEnv := (List.range 6).map fun n ↦ sampleEnv 1 s!"{tag}{n}"

/-- The ad, which gets its key from the inputs of its creation, is created and approved. -/
def approvedAd : List (AdOp × List AuthEnv) :=
  [(.createAd "sponsor-1" sampleAd nobody, adInputs "a"),
    (.submitAd "sponsor-1" "id-a1" nobody, adInputs "b"),
    (.approveAd "admin-1" "id-a1" nobody, adInputs "c")]

def pausedAd (tag : String) : AdOp × List AuthEnv :=
  (.togglePauseAd "sponsor-1" "id-a1" nobody, adInputs tag)

def editedAd : AdOp × List AuthEnv :=
  (.updateAd "sponsor-1" "id-a1" { UpdateSponsorAdDto.empty with
    title := some (some "Win a prize") } nobody, adInputs "d")

/-- What the public is shown of the ad. -/
def shownAd (s : Reviewed) : Option SponsorAdResponseDto :=
  ((getPublicAdById "id-a1").outcome [sampleEnv 1 "e"] s.db).bind fun q ↦ q.1.toOption

theorem shownAd_ran {s : Reviewed} {ad : SponsorAdResponseDto} (h : shownAd s = some ad) :
    ∃ db, (getPublicAdById "id-a1").Ran (fun _ ↦ True) s.db (.ok ad) db := by
  obtain ⟨⟨r, db⟩, hran, hr⟩ := Option.bind_eq_some_iff.mp h
  cases r with
  | ok ad' =>
    cases hr
    exact ⟨db, Call.ran_of_outcome (fun _ _ ↦ trivial) hran⟩
  | error x => cases hr

/-- The ad is paused, resumed as it was, and shown. -/
theorem resumed_unedited : ∃ s ad db, shownAd s = some ad ∧
    (getPublicAdById "id-a1").Ran (fun _ ↦ True) s.db (.ok ad) db ∧
      s.approved ad.id = some ad.content := by
  have hrun : (playAds (fun s op ↦ decide (ResumesUnedited s (some op)))
      (approvedAd ++ [pausedAd "f", pausedAd "g"]) ⟨sponsorDb, fun _ ↦ none⟩).any
        (fun s ↦ (shownAd s).isSome) = true := by
    decide +kernel
  obtain ⟨s, hs, hshown⟩ := (Option.any_eq_true ..).mp hrun
  obtain ⟨ad, had⟩ := Option.isSome_iff_exists.mp hshown
  obtain ⟨db, hran⟩ := shownAd_ran had
  have hreach := reach_playAds (fun _ _ h ↦ of_decide_eq_true h) (.start sponsorDb_empty) hs
  exact ⟨s, ad, db, had, hran, (public_content_approved hreach).2 _ ad db hran⟩

/-- The title of the ad is changed while it is paused, and then the ad is resumed. -/
theorem resumed_edited : ∃ s, Reach ReviewStep (fun _ _ ↦ True) NoAdsYet s ∧
    ∃ ad db, (getPublicAdById "id-a1").Ran (fun _ ↦ True) s.db (.ok ad) db ∧
      s.approved ad.id ≠ some ad.content := by
  have hrun : (playAds (fun _ _ ↦ true)
      (approvedAd ++ [pausedAd "f", editedAd, pausedAd "g"]) ⟨sponsorDb, fun _ ↦ none⟩).any
        (fun s ↦ (shownAd s).any fun ad ↦ s.approved ad.id != some ad.content) = true := by
    decide +kernel
  obtain ⟨s, hs, hshown⟩ := (Option.any_eq_true ..).mp hrun
  obtain ⟨ad, had, hdiffers⟩ := (Option.any_eq_true ..).mp hshown
  obtain ⟨db, hran⟩ := shownAd_ran had
  exact ⟨s, reach_playAds (fun _ _ _ ↦ trivial) (.start sponsorDb_empty) hs, ad, db, hran,
    bne_iff_ne.mp hdiffers⟩

end Sample

end Innovents.SponsorAds
