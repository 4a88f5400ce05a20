import Innovents.Lib.Placement
import Innovents.Marketplace.RfqCalls
import Innovents.Marketplace.Statements
import Innovents.Marketplace.VendorServicesService

namespace Innovents.Marketplace

open Innovents.Lib Innovents.Auth Innovents.Platform
open Innovents.Payments (Time Money)

section Operations

/-- What vendors do with their services, and the sponsors who ask for them. -/
inductive OfferingOp
  | createService (vendorId : String) (dto : CreateVendorServiceDto) (client : Client)
  | updateService (vendorId serviceId : String) (dto : UpdateVendorServiceDto) (client : Client)
  | activateService (vendorId serviceId : String) (client : Client)
  | deactivateService (vendorId serviceId : String) (client : Client)
  | deleteService (vendorId serviceId : String) (client : Client)
  | createRfq (sponsorId : String) (dto : CreateRfqDto) (asDraft : Bool) (client : Client)

inductive OfferingAnswer
  | service (dto : VendorServiceResponseDto)
  | message (result : Bool × String)
  | rfq (dto : RfqDetailsResponseDto)

def OfferingOp.runs : OfferingOp → VendorCall OfferingAnswer
  | createService vendorId dto client =>
    .service <$> VendorServicesService.createService vendorId dto client
  | updateService vendorId serviceId dto client =>
    .service <$> VendorServicesService.updateService vendorId serviceId dto client
  | activateService vendorId serviceId client =>
    .service <$> VendorServicesService.activateService vendorId serviceId client
  | deactivateService vendorId serviceId client =>
    .service <$> VendorServicesService.deactivateService vendorId serviceId client
  | deleteService vendorId serviceId client =>
    .message <$> VendorServicesService.deleteService vendorId serviceId client
  | createRfq sponsorId dto asDraft client =>
    .rfq <$> RfqService.createRfq sponsorId dto asDraft client

/-- The vendor who calls. -/
def OfferingOp.vendor : OfferingOp → Option String
  | createService vendorId _ _ | updateService vendorId _ _ _ | activateService vendorId _ _
  | deactivateService vendorId _ _ | deleteService vendorId _ _ => some vendorId
  | createRfq _ _ _ _ => none

abbrev OfferingTask := Task OfferingOp String AuthEnv VendorDb AuthError OfferingAnswer

abbrev OfferingHistory := History String VendorDb

def offeringCalls : Machine VendorDb OfferingTask AuthEnv := tasks OfferingOp.runs

end Operations

section Rules

/-- The user has an active account with the role of a vendor. -/
def ActiveVendor (vendorId : String) (db : VendorDb) : Prop :=
  ∃ user ∈ db.market.accounts.users.get? vendorId,
    user.deletedAt = none ∧ user.status = .active ∧ "VENDOR" ∈ user.userRoles

/-- The service is there, not deleted, and the vendor's own. -/
def Owns (vendorId k : String) (db : VendorDb) : Prop :=
  ∃ s ∈ db.vendorServices.get? k, s.deletedAt = none ∧ s.vendorId = vendorId

/-- Services stay, with their vendors, and deleted ones stay deleted. -/
def Lasting (t t' : Table VendorService) : Prop :=
  ∀ k, ∀ s ∈ t.get? k, ∃ s' ∈ t'.get? k,
    s'.vendorId = s.vendorId ∧ (s.deletedAt ≠ none → s'.deletedAt ≠ none)

/-- Every service that an RFQ refers to is one of its vendor. -/
def RefersToVendor (db : VendorDb) : Prop :=
  ∀ rfq ∈ db.market.rfqs.rows, ∀ item ∈ rfq.items, ∀ id ∈ item.vendorServiceId,
    ∃ s ∈ db.vendorServices.get? id, s.vendorId = rfq.vendorId

/-- The services of the RFQ were found to be offered by its vendor. -/
def Asked (history : OfferingHistory) (rfq : Rfq) : Prop :=
  ∀ item ∈ rfq.items, ∀ id ∈ item.vendorServiceId, Saw history fun db ↦
    ∃ s ∈ db.vendorServices.get? id, s.vendorId = rfq.vendorId ∧ s.isActive = true ∧
      s.deletedAt = none

/-- What a request does to the services and the RFQs, after the history of its call. -/
inductive Offers (vendor : Option String) (history : OfferingHistory) (db db' : VendorDb) : Prop
  | same : db'.vendorServices = db.vendorServices → db'.market.rfqs = db.market.rfqs →
      Offers vendor history db db'
  | opened (vendorId : String) (s : VendorService) : vendor = some vendorId →
      s.vendorId = vendorId →
      db.vendorServices.create s = .ok db'.vendorServices → db'.market.rfqs = db.market.rfqs →
      Saw history (ActiveVendor vendorId) → Offers vendor history db db'
  | changed (vendorId k : String) (f : VendorService → VendorService) : vendor = some vendorId →
      (∀ s, (f s).id = s.id ∧ (f s).vendorId = s.vendorId ∧
        (s.deletedAt ≠ none → (f s).deletedAt ≠ none)) →
      db.vendorServices.update k f = .ok db'.vendorServices → db'.market.rfqs = db.market.rfqs →
      Saw history (ActiveVendor vendorId) → Saw history (Owns vendorId k) →
      Offers vendor history db db'
  | asked (rfq : Rfq) : vendor = none → db'.vendorServices = db.vendorServices →
      db.market.rfqs.create rfq = .ok db'.market.rfqs → Asked history rfq →
      Offers vendor history db db'

def OfferingOp.Does (op : OfferingOp) (history : OfferingHistory) (_ : String) (_ : AuthEnv)
    (db db' : VendorDb) : Prop := Offers op.vendor history db db'

variable {t t' t'' : Table VendorService} {db db' : VendorDb} {history : OfferingHistory}
  {vendor : Option String}

theorem lasting_refl (t : Table VendorService) : Lasting t t := fun _ s hs ↦ ⟨s, hs, rfl, id⟩

theorem Lasting.trans (h : Lasting t t') (h' : Lasting t' t'') : Lasting t t'' := by
  intro k s hs
  obtain ⟨s', hs', hvendor, hdeleted⟩ := h k s hs
  obtain ⟨s'', hs'', hvendor', hdeleted'⟩ := h' k s' hs'
  exact ⟨s'', hs'', hvendor'.trans hvendor, hdeleted' ∘ hdeleted⟩

theorem Offers.lasting (h : Offers vendor history db db') :
    Lasting db.vendorServices db'.vendorServices := by
  cases h with
  | same hservices _ | asked _ _ hservices _ _ =>
    rw [hservices]
    exact lasting_refl _
  | opened vendorId new _ _ hcreate _ _ =>
    intro k s hs
    exact ⟨s, (Table.get?_create_taken hs hcreate).2, rfl, id⟩
  | changed vendorId j f _ hf hupdate _ _ _ =>
    intro k s hs
    rw [Table.get?_update hupdate fun s ↦ (hf s).1]
    split_ifs with hk
    · subst hk
      exact ⟨f s, Option.mem_map_of_mem f hs, (hf s).2⟩
    · exact ⟨s, hs, rfl, id⟩

/-- The service is new or changed by its vendor, who was active, and has looked at it before. -/
theorem Offers.owned (h : Offers vendor history db db')
    (hsince : ∀ event ∈ history, Lasting event.2.2.vendorServices db.vendorServices) {k : String}
    {s : VendorService} (hchanged : Changed db.vendorServices db'.vendorServices k s) :
    vendor = some s.vendorId ∧ Saw history (ActiveVendor s.vendorId) ∧
      ((db.vendorServices.get? k).isSome → Saw history (Owns s.vendorId k)) := by
  obtain ⟨hnew, hold⟩ := hchanged
  cases h with
  | same hservices _ | asked _ _ hservices _ _ => exact absurd (hservices ▸ hnew) hold
  | opened vendorId new hvendor hown hcreate _ hactive =>
    rw [Table.get?_create hcreate] at hnew
    split_ifs at hnew with hk
    · cases hnew
      subst hown
      refine ⟨hvendor, hactive, fun hsome ↦ ?_⟩
      obtain ⟨old, hfound⟩ := Option.isSome_iff_exists.mp hsome
      exact absurd hk (Table.get?_create_taken hfound hcreate).1
    · exact absurd hnew hold
  | changed vendorId j f hvendor hf hupdate _ hactive howns =>
    rw [Table.get?_update hupdate fun s ↦ (hf s).1] at hnew
    split_ifs at hnew with hk
    · subst hk
      obtain ⟨old, hfound, rfl⟩ := Option.map_eq_some_iff.mp hnew
      obtain ⟨event, hevent, first, hfirst, hundeleted, hown⟩ := howns
      obtain ⟨later, hlater, hplace, -⟩ := hsince event hevent k first hfirst
      cases hfound.symm.trans hlater
      have hsame : (f old).vendorId = vendorId := (hf old).2.1.trans (hplace.trans hown)
      rw [hsame]
      exact ⟨hvendor, hactive, fun _ ↦ ⟨event, hevent, first, hfirst, hundeleted, hown⟩⟩
    · exact absurd hnew hold

theorem Offers.refers (h : Offers vendor history db db')
    (hsince : ∀ event ∈ history, Lasting event.2.2.vendorServices db.vendorServices)
    (hdb : RefersToVendor db) : RefersToVendor db' := by
  have hlasting := h.lasting
  have hold : ∀ rfq ∈ db.market.rfqs.rows, ∀ item ∈ rfq.items, ∀ id ∈ item.vendorServiceId,
      ∃ s ∈ db'.vendorServices.get? id, s.vendorId = rfq.vendorId := by
    intro rfq hrfq item hitem id hid
    obtain ⟨s, hs, hvendor⟩ := hdb rfq hrfq item hitem id hid
    obtain ⟨s', hs', hsame, -⟩ := hlasting id s hs
    exact ⟨s', hs', hsame.trans hvendor⟩
  cases h with
  | same _ hrfqs | opened _ _ _ _ _ hrfqs _ | changed _ _ _ _ _ _ hrfqs _ _ =>
    unfold RefersToVendor
    rwa [hrfqs]
  | asked rfq _ hservices hcreate hasked =>
    intro r hr item hitem id hid
    rw [Table.create_eq_ok.mp hcreate] at hr
    rcases List.mem_append.mp hr with hr | hr
    · exact hold r hr item hitem id hid
    · rw [List.mem_singleton.mp hr] at hitem ⊢
      obtain ⟨event, hevent, s, hs, hvendor, -, -⟩ := hasked item hitem id hid
      obtain ⟨s', hs', hsame, -⟩ := hsince event hevent id s hs
      exact ⟨s', hservices ▸ hs', hsame.trans hvendor⟩

/-- An RFQ is new, and no vendor touches one. -/
theorem Offers.asked_by (h : Offers vendor history db db') {k : String} {rfq : Rfq}
    (hchanged : Changed db.market.rfqs db'.market.rfqs k rfq) :
    vendor = none ∧ Asked history rfq := by
  obtain ⟨hnew, hold⟩ := hchanged
  cases h with
  | same _ hrfqs | opened _ _ _ _ _ hrfqs _ | changed _ _ _ _ _ _ hrfqs _ _ =>
    exact absurd (hrfqs ▸ hnew) hold
  | asked new hvendor _ hcreate hasked =>
    rw [Table.get?_create hcreate] at hnew
    split_ifs at hnew
    · cases hnew
      exact ⟨hvendor, hasked⟩
    · exact absurd hnew hold

end Rules

section Calls

open VendorServicesService

variable {vendorId serviceId action : String} {history : OfferingHistory} {db db' : VendorDb}
  {env : AuthEnv} {vendor : Option String} {s : VendorService} {label : String} {client : Client}

/-- What the requests of a vendor's or a sponsor's call do. -/
abbrev Offering (vendor : Option String) (history : OfferingHistory) (_ : String) (_ : AuthEnv)
    (db db' : VendorDb) : Prop := Offers vendor history db db'

theorem offers_read : Offers vendor history db db := .same rfl rfl

theorem assertActiveVendor_sees : (assertActiveVendor vendorId).Traces (Offering vendor)
    (fun history' _ ↦ history <+: history' ∧ Saw history' (ActiveVendor vendorId)) history := by
  refine Call.traces_bind (Call.traces_reads (fun _ _ ↦ offers_read) fun env db ↦ ?_)
  refine Call.traces_bind (Call.traces_returned fun user huser ↦ ?_)
  refine Call.traces_bind (Call.traces_returned fun _ hactive ↦ ?_)
  refine Call.traces_returned fun _ hrole ↦ ⟨List.prefix_append _ _, saw_concat ?_⟩
  obtain ⟨hget, hdeleted⟩ := Option.filter_eq_some_iff.mp (present_eq_ok.mp huser)
  exact ⟨user, hget, Option.isNone_iff_eq_none.mp hdeleted, demand_eq_ok.mp hactive,
    demand_eq_ok.mp hrole⟩

theorem assertOwnService_sees : (assertOwnService vendorId serviceId action).Traces
    (Offering vendor) (fun history' _ ↦ Saw history' (ActiveVendor vendorId) ∧
      Saw history' (Owns vendorId (uuid serviceId))) history := by
  refine Call.traces_bind (assertActiveVendor_sees.mono fun history _ ⟨_, hactive⟩ ↦ ?_)
  refine Call.traces_bind (Call.traces_reads (fun _ _ ↦ offers_read) fun env db ↦ ?_)
  refine Call.traces_bind (Call.traces_returned fun existing hexisting ↦ ?_)
  refine Call.traces_returned fun _ hown ↦ ⟨hactive.append, saw_concat ?_⟩
  obtain ⟨hget, hdeleted⟩ := Option.filter_eq_some_iff.mp (present_eq_ok.mp hexisting)
  exact ⟨existing, hget, Option.isNone_iff_eq_none.mp hdeleted, demand_eq_ok.mp hown⟩

theorem log_offering {params : CreateAuditLogParams} {β : Type} {answer : β} :
    (do Platform.log params client; return answer : VendorCall β).Traces (Offering vendor)
      (fun _ _ ↦ True) history := by
  refine Call.traces_each (G := fun _ db db' ↦ Beside db db') ?_ ?_
  · exact Call.each_bind (Platform.each_log fun _ _ h ↦ h) fun _ ↦ Call.each_returned
  · rintro history label env db db' ⟨accounts, rfl⟩
    exact .same rfl rfl

theorem serviceUpdate_offers {f : VendorService → VendorService}
    (h : serviceUpdate serviceId f db = .ok (db', s))
    (hf : ∀ s, (f s).id = s.id ∧ (f s).vendorId = s.vendorId ∧
      (s.deletedAt ≠ none → (f s).deletedAt ≠ none))
    (hactive : Saw history (ActiveVendor vendorId))
    (howns : Saw history (Owns vendorId (uuid serviceId))) :
    Offers (some vendorId) history db db' := by
  obtain ⟨vendorServices, hupdate, h⟩ := andThen_eq_ok.mp h
  obtain ⟨updated, -, h⟩ := andThen_eq_ok.mp h
  cases h
  exact .changed vendorId _ f rfl hf (ofRefusal_eq_ok.mp hupdate) rfl hactive howns

theorem detailsUpdate_offers {dto : UpdateVendorServiceDto} {price : Option Money}
    (h : detailsUpdate serviceId dto price env db = .ok (db', s))
    (hactive : Saw history (ActiveVendor vendorId))
    (howns : Saw history (Owns vendorId (uuid serviceId))) :
    Offers (some vendorId) history db db' := by
  unfold detailsUpdate at h
  iterate 10 obtain ⟨_, -, h⟩ := andThen_eq_ok.mp h
  exact serviceUpdate_offers h (fun s ↦ ⟨rfl, rfl, id⟩) hactive howns

theorem serviceCreate_offers {dto : CreateVendorServiceDto}
    (h : serviceCreate vendorId dto env db = .ok (db', s))
    (hactive : Saw history (ActiveVendor vendorId)) : Offers (some vendorId) history db db' := by
  unfold serviceCreate at h
  iterate 4 obtain ⟨_, -, h⟩ := andThen_eq_ok.mp h
  obtain ⟨vendorServices, hcreate, h⟩ := andThen_eq_ok.mp h
  cases h
  exact .opened vendorId _ rfl rfl (ofRefusal_eq_ok.mp hcreate) rfl hactive

theorem updateServiceStatus_offers {isActive : Bool} :
    (updateServiceStatus vendorId serviceId isActive action client).Traces
      (Offering (some vendorId)) (fun _ _ ↦ True) history := by
  refine Call.traces_bind (assertOwnService_sees.mono fun history _ ⟨hactive, howns⟩ ↦ ?_)
  refine Call.traces_bind (Call.traces_writes (fun _ _ ↦ offers_read) fun env db db' s h ↦
    ⟨serviceUpdate_offers h (fun s ↦ ⟨rfl, rfl, id⟩) hactive howns, ?_⟩)
  exact log_offering

theorem services_offer (op : OfferingOp) (h : op.vendor.isSome) :
    op.runs.Traces (Offering op.vendor) (fun _ _ ↦ True) [] := by
  cases op with
  | createService vendorId dto client =>
    refine Call.traces_map (Call.traces_bind (assertActiveVendor_sees.mono
      fun history _ ⟨_, hactive⟩ ↦ ?_))
    refine Call.traces_bind (Call.traces_writes (fun _ _ ↦ offers_read) fun env db db' s h ↦
      ⟨serviceCreate_offers h hactive, ?_⟩)
    exact log_offering
  | updateService vendorId serviceId dto client =>
    refine Call.traces_map (Call.traces_bind (assertOwnService_sees.mono
      fun history _ ⟨hactive, howns⟩ ↦ ?_))
    refine Call.traces_bind (Call.traces_returned fun price _ ↦ ?_)
    refine Call.traces_bind (Call.traces_writes (fun _ _ ↦ offers_read) fun env db db' s h ↦
      ⟨detailsUpdate_offers h hactive howns, ?_⟩)
    exact log_offering
  | activateService | deactivateService =>
    exact Call.traces_map updateServiceStatus_offers
  | deleteService vendorId serviceId client =>
    refine Call.traces_map (Call.traces_bind (assertOwnService_sees.mono
      fun history _ ⟨hactive, howns⟩ ↦ ?_))
    refine Call.traces_bind (Call.traces_writes (fun _ _ ↦ offers_read) fun env db db' s h ↦
      ⟨serviceUpdate_offers h (fun s ↦ ⟨rfl, rfl, fun _ ↦ Option.some_ne_none _⟩) hactive howns,
        ?_⟩)
    exact log_offering
  | createRfq => cases h

section Requests

open RfqService

variable {dto : CreateRfqDto} {sponsorId : String} {status : RfqStatus} {expiresAt : Time}
  {sentAt : Option Time}

/-- The items refer to the services that are asked for. -/
theorem newItems_refer {taken : List String} {dtos : List CreateRfqItemDto} {items : List RfqItem}
    (h : newItems env taken dtos = .ok items) : ∀ item ∈ items, ∀ id ∈ item.vendorServiceId,
      ∃ ref ∈ dtos.filterMap fun item ↦ item.vendorServiceId.filter (· ≠ ""), id = uuid ref := by
  induction dtos generalizing taken items with
  | nil =>
    cases h
    exact fun item hitem ↦ absurd hitem List.not_mem_nil
  | cons dto dtos ih =>
    obtain ⟨targetPrice, -, h⟩ := andThen_eq_ok.mp h
    obtain ⟨rest, hrest, h⟩ := andThen_eq_ok.mp h
    cases h
    intro item hitem id hid
    rcases List.mem_cons.mp hitem with rfl | hitem
    · obtain ⟨ref, href, rfl⟩ := Option.map_eq_some_iff.mp hid
      exact ⟨ref, List.mem_filterMap.mpr ⟨dto, List.mem_cons_self, href⟩, rfl⟩
    · obtain ⟨ref, href, rfl⟩ := ih hrest item hitem id hid
      obtain ⟨a, ha, href⟩ := List.mem_filterMap.mp href
      exact ⟨ref, List.mem_filterMap.mpr ⟨a, List.mem_cons_of_mem _ ha, href⟩, rfl⟩

theorem newRfq_asked {market : MarketDb} {rfq : Rfq}
    (h : newRfq sponsorId dto status expiresAt sentAt env market = .ok rfq)
    (hoffered : ∀ id ∈ serviceIds dto, Saw history (Offered dto.vendorId id)) :
    Asked history rfq := by
  obtain ⟨items, hitems, h⟩ := andThen_eq_ok.mp h
  cases h
  intro item hitem id hid
  obtain ⟨ref, href, rfl⟩ := newItems_refer hitems item hitem id hid
  obtain ⟨event, hevent, s, hs, hvendor, hactive, hdeleted⟩ := hoffered ref href
  exact ⟨event, hevent, s, hs, hvendor, hactive, hdeleted⟩

theorem creation_creates {market market' : MarketDb} {rfq : Rfq}
    (h : creation sponsorId dto status expiresAt sentAt env market = .ok (market', rfq)) :
    newRfq sponsorId dto status expiresAt sentAt env market = .ok rfq ∧
      market.rfqs.create rfq = .ok market'.rfqs := by
  obtain ⟨created, hcreated, h⟩ := andThen_eq_ok.mp h
  obtain ⟨rfqs, hcreate, h⟩ := andThen_eq_ok.mp h
  obtain ⟨market₁, hannounced, h⟩ := andThen_eq_ok.mp h
  cases h
  refine ⟨hcreated, ?_⟩
  unfold announced at hannounced
  split_ifs at hannounced
  · obtain ⟨accounts, -, hannounced⟩ := andThen_eq_ok.mp hannounced
    cases hannounced
    exact ofRefusal_eq_ok.mp hcreate
  · cases hannounced
    exact ofRefusal_eq_ok.mp hcreate

/-- A part of a sponsor's call that leaves the services and the RFQs as they are. -/
theorem quiet_offers {β : Type} {c : VendorCall β}
    (h : c.Each fun _ db db' ↦ db'.vendorServices = db.vendorServices ∧
      db'.market.rfqs = db.market.rfqs) :
    c.Traces (Offering vendor) (fun history' _ ↦ history <+: history' ∧ True) history := by
  refine (Call.traces_each h ?_).grows
  rintro history label env db db' ⟨hservices, hrfqs⟩
  exact .same hservices hrfqs

theorem checkServices_sees : (checkServices dto).Traces (Offering vendor)
    (fun history' _ ↦ ∀ id ∈ serviceIds dto, Saw history' (Offered dto.vendorId id)) history := by
  unfold checkServices
  split_ifs with hrefs
  · refine Call.traces_bind (Call.traces_reads (fun _ _ ↦ offers_read) fun env db ↦ ?_)
    refine Call.traces_returned fun _ hfound id hid ↦ saw_concat ?_
    exact (found_iff.mp (demand_eq_ok.mp hfound)).2 id hid
  · have hnone : serviceIds dto = [] := List.length_eq_zero_iff.mp (by omega)
    refine Call.traces_returned fun _ _ id hid ↦ ?_
    rw [hnone] at hid
    cases hid

theorem onMarket_quiet {β : Type} {c : MarketCall β}
    (h : c.Each fun _ market market' ↦ market'.rfqs = market.rfqs) :
    (onMarket c).Each fun _ db db' ↦ db'.vendorServices = db.vendorServices ∧
      db'.market.rfqs = db.market.rfqs := by
  refine (Call.each_focus h).mono ?_
  rintro label db db' ⟨market, hrfqs, rfl⟩
  exact ⟨rfl, hrfqs⟩

theorem checkVendor_quiet {vendorId : String} : (checkVendor vendorId).Each fun _ db db' ↦
    db'.vendorServices = db.vendorServices ∧ db'.market.rfqs = db.market.rfqs := by
  refine Call.each_bind (Call.each_reads fun _ ↦ ⟨rfl, rfl⟩) fun _ ↦ ?_
  refine Call.each_bind Call.each_returned fun _ ↦ ?_
  exact Call.each_bind Call.each_returned fun _ ↦ Call.each_returned

theorem checkEvent_quiet {eventId : Option String} : (checkEvent eventId).Each fun _ db db' ↦
    db'.vendorServices = db.vendorServices ∧ db'.market.rfqs = db.market.rfqs := by
  unfold checkEvent
  split
  · exact Call.each_returned
  · exact Call.each_bind (Call.each_reads fun _ ↦ ⟨rfl, rfl⟩) fun _ ↦ Call.each_returned

theorem scheduleExpiry_quiet {created : Rfq} : (scheduleExpiry created).Each fun _ db db' ↦
    db'.vendorServices = db.vendorServices ∧ db'.market.rfqs = db.market.rfqs := by
  unfold scheduleExpiry
  split_ifs
  · refine onMarket_quiet (each_stores (fun _ ↦ rfl) fun env market market' a h ↦ ?_)
    cases h
    split_ifs <;> rfl
  · exact Call.each_returned

theorem createRfq_offers {asDraft : Bool} :
    (createRfq sponsorId dto asDraft client).Traces (Offering none) (fun _ _ ↦ True) history := by
  unfold createRfq
  refine Call.traces_bind ((quiet_offers (onMarket_quiet (assertActiveUser_reads fun _ ↦ rfl))).mono
    fun history _ _ ↦ ?_)
  refine Call.traces_bind ((quiet_offers checkVendor_quiet).mono fun history _ _ ↦ ?_)
  refine Call.traces_bind (Call.traces_returned fun _ _ ↦ ?_)
  refine Call.traces_bind ((quiet_offers checkEvent_quiet).mono fun history _ _ ↦ ?_)
  refine Call.traces_bind (Call.traces_ask (fun _ _ ↦ offers_read) fun env db now _ ↦ ?_)
  refine Call.traces_bind (Call.traces_returned fun expiresAt _ ↦ ?_)
  refine Call.traces_bind (Call.traces_returned fun _ _ ↦ ?_)
  refine Call.traces_bind (checkServices_sees.mono fun history _ hoffered ↦ ?_)
  refine Call.traces_bind (Call.traces_ask (fun _ _ ↦ offers_read) fun env db sentAt _ ↦ ?_)
  refine Call.traces_bind (Call.traces_focus_perform (fun _ _ ↦ offers_read)
    fun env db market rfq h ↦ ⟨?_, ?_⟩)
  · obtain ⟨hnew, hcreate⟩ := creation_creates (elim_fault h)
    exact .asked rfq rfl rfl hcreate
      (newRfq_asked hnew fun id hid ↦ (hoffered id hid).append)
  · refine Call.traces_bind ((quiet_offers scheduleExpiry_quiet).mono fun history _ _ ↦ ?_)
    exact log_offering

end Requests

theorem offering_does (op : OfferingOp) :
    op.runs.Traces (Offering op.vendor) (fun _ _ ↦ True) [] := by
  cases op with
  | createRfq sponsorId dto asDraft client => exact Call.traces_map createRfq_offers
  | createService | updateService | activateService | deactivateService | deleteService =>
    exact services_offer _ rfl

end Calls

/-- However vendors and sponsors are at work: every service that an RFQ refers to is one of its
vendor; a service is made and changed by its vendor only, who was found active and, where it was
there, to own it undeleted; it keeps its vendor, and once deleted it stays deleted; and an RFQ is
made of services that were found to be offered. -/
theorem vendor_offerings {p : Pool VendorDb OfferingTask}
    (h : Reach offeringCalls.Step (fun _ _ ↦ True)
      (fun p ↦ p.threads = [] ∧ RefersToVendor p.shared) p) :
    RefersToVendor p.shared ∧ ∀ t ∈ p.threads, ∀ earlier label db db' later,
      t.history = earlier ++ (label, db, db') :: later →
        Lasting db'.vendorServices p.shared.vendorServices ∧
          (∀ k s, Changed db.vendorServices db'.vendorServices k s →
            t.op.vendor = some s.vendorId ∧ Saw earlier (ActiveVendor s.vendorId) ∧
              ((db.vendorServices.get? k).isSome → Saw earlier (Owns s.vendorId k))) ∧
          ∀ k rfq, Changed db.market.rfqs db'.market.rfqs k rfq →
            t.op.vendor = none ∧ Asked earlier rfq := by
  have hrecorded := recorded_reach
    (R := fun db db' : VendorDb ↦ Lasting db.vendorServices db'.vendorServices)
    (fun _ ↦ lasting_refl _) (fun _ _ _ ↦ Lasting.trans) offering_does
    (fun _ _ _ _ _ _ hdoes ↦ hdoes.lasting) (fun _ hp ↦ hp.1) h
  refine ⟨recorded_stays (R := fun db db' : VendorDb ↦ Lasting db.vendorServices db'.vendorServices)
    (fun _ ↦ lasting_refl _) (fun _ _ _ ↦ Lasting.trans) offering_does
    (fun _ _ _ _ _ _ hdoes ↦ hdoes.lasting) (fun _ _ _ _ _ _ hdoes ↦ hdoes.refers)
    (fun _ hp ↦ hp) h, ?_⟩
  intro t ht earlier label db db' later hhistory
  obtain ⟨⟨env, hdoes⟩, hsince⟩ := hrecorded.made t ht earlier label db db' later hhistory
  have hevent : (label, db, db') ∈ t.history := by
    rw [hhistory]
    exact List.mem_append_right _ List.mem_cons_self
  exact ⟨hrecorded.since t ht _ hevent, fun k s ↦ hdoes.owned hsince, fun k rfq ↦ hdoes.asked_by⟩

section Sample

/-- A sponsor, and a vendor who offers a stage. -/
def offeringDb : VendorDb :=
  { market := { MarketDb.empty with
      accounts := { AuthDb.empty with
        users := ((Table.singleton sampleSponsor).create sampleVendor).toOption.getD .empty } }
    vendorServices := .singleton RfqService.stageHire }

/-- The sponsor asks for the stage. -/
def askingForStage : OfferingOp :=
  .createRfq "sponsor-1"
    { vendorId := "vendor-1"
      eventId := none
      title := "Stage"
      description := "A stage for a day"
      requirements := none
      expiresAt := some 50
      items := [RfqService.stageItem "Main stage"] } false ⟨none, none⟩

/-- The vendor deletes the stage while the sponsor asks for it. -/
theorem stage_deleted_meanwhile : ∃ p : Pool VendorDb OfferingTask,
    p.shared.vendorServices.rows.map (·.deletedAt.isSome) = [true] ∧
      p.shared.market.rfqs.rows.map (·.status) = [.sent] ∧ RefersToVendor p.shared ∧
        ∀ t ∈ p.threads, ∀ earlier label db db' later,
          t.history = earlier ++ (label, db, db') :: later →
            Lasting db'.vendorServices p.shared.vendorServices ∧
              (∀ k s, Changed db.vendorServices db'.vendorServices k s →
                t.op.vendor = some s.vendorId ∧ Saw earlier (ActiveVendor s.vendorId) ∧
                  ((db.vendorServices.get? k).isSome → Saw earlier (Owns s.vendorId k))) ∧
              ∀ k rfq, Changed db.market.rfqs db'.market.rfqs k rfq →
                t.op.vendor = none ∧ Asked earlier rfq := by
  have hrun : (offeringCalls.play (fun _ _ _ ↦ true)
      ((List.replicate 5 (0, sampleEnv 1 "a")) ++ (List.replicate 4 (1, sampleEnv 1 "b")) ++
        List.replicate 2 (0, sampleEnv 1 "c"))
      ⟨offeringDb, [askingForStage, .deleteService "vendor-1" "service-1" ⟨none, none⟩].map
        fun op ↦ ⟨op, [], op.runs⟩⟩).any (fun p ↦
          p.shared.vendorServices.rows.map (·.deletedAt.isSome) == [true] &&
            p.shared.market.rfqs.rows.map (·.status) == [.sent]) = true := by
    decide +kernel
  obtain ⟨p, hp, htest⟩ := (Option.any_eq_true ..).mp hrun
  obtain ⟨hdeleted, hsent⟩ := Bool.and_eq_true_iff.mp htest
  have hinit : RefersToVendor offeringDb := fun rfq hrfq ↦ absurd hrfq List.not_mem_nil
  have hreach : Reach offeringCalls.Step (Heeding fun _ _ _ _ ↦ True)
      (fun p ↦ p.threads = [] ∧ RefersToVendor p.shared) p :=
    reach_tasks (fun _ _ _ _ _ _ _ _ ↦ trivial) ⟨rfl, hinit⟩ hp
  exact ⟨p, beq_iff_eq.mp hdeleted, beq_iff_eq.mp hsent,
    vendor_offerings (hreach.mono fun _ _ _ ↦ trivial)⟩

end Sample

end Innovents.Marketplace
