import Innovents.Communities.Social.Schema
import Innovents.Marketplace.B2bMarketplaceService
import Innovents.Marketplace.C2bServicesService
import Innovents.SponsorAds.SponsorAdsService

namespace Innovents.Moderation

open Innovents.Lib Innovents.Auth Innovents.Platform
open Innovents.Payments (Time)

inductive ReportTargetType
  | communityPost | communityReply | communityMeetup | communityChatMessage | event | community
  | sponsorAd | c2bService | vendorService | user
  deriving DecidableEq, Repr

inductive ReportStatus
  | isOpen | inReview | resolved | dismissed
  deriving DecidableEq, Repr

def ReportTargetType.text : ReportTargetType → String
  | communityPost => "COMMUNITY_POST"
  | communityReply => "COMMUNITY_REPLY"
  | communityMeetup => "COMMUNITY_MEETUP"
  | communityChatMessage => "COMMUNITY_CHAT_MESSAGE"
  | event => "EVENT"
  | community => "COMMUNITY"
  | sponsorAd => "SPONSOR_AD"
  | c2bService => "C2B_SERVICE"
  | vendorService => "VENDOR_SERVICE"
  | user => "USER"

def ReportStatus.text : ReportStatus → String
  | isOpen => "OPEN"
  | inReview => "IN_REVIEW"
  | resolved => "RESOLVED"
  | dismissed => "DISMISSED"

structure Report where
  id : String
  reporterId : String
  targetType : ReportTargetType
  targetId : String
  reason : String
  description : Option String
  status : ReportStatus
  resolvedByUserId : Option String
  resolvedAt : Option Time
  resolutionNote : Option String
  createdAt : Time
  updatedAt : Time

instance : Row Report := ⟨Report.id, []⟩

/-- Whatever users publish: events and offers, communities, ads and the services of vendors. -/
structure ContentDb where
  offers : Marketplace.OfferDb
  social : Communities.Social.SocialDb
  sponsorAds : Table SponsorAds.SponsorAd
  vendorServices : Table Marketplace.VendorService
  reports : Table Report

namespace ContentDb

def accounts (db : ContentDb) : AuthDb := db.offers.schedule.accounts

def events (db : ContentDb) : Table Events.Event := db.offers.schedule.events

def c2bServices (db : ContentDb) : Table Marketplace.C2bService := db.offers.market.c2bServices

def setAccounts (db : ContentDb) (accounts : AuthDb) : ContentDb :=
  { db with offers := { db.offers with schedule := { db.offers.schedule with accounts } } }

def putOffers (offers : Marketplace.OfferDb) (db : ContentDb) : ContentDb := { db with offers }

def schedule (db : ContentDb) : Events.EventsDb := db.offers.schedule

def putSchedule (schedule : Events.EventsDb) (db : ContentDb) : ContentDb :=
  { db with offers := { db.offers with schedule } }

/-- The tables of the communities, with the accounts and the events of the schedule. -/
def socialView (db : ContentDb) : Communities.Social.SocialDb :=
  { db.social with
    accounts := db.accounts
    events := db.events }

def putSocial (social : Communities.Social.SocialDb) (db : ContentDb) : ContentDb :=
  { db.setAccounts social.accounts with social }

/-- The ads, with the accounts and the events of the schedule. -/
def adsView (db : ContentDb) : SponsorAds.AdsDb := ⟨db.accounts, db.events, db.sponsorAds⟩

def putAds (ads : SponsorAds.AdsDb) (db : ContentDb) : ContentDb :=
  { db.setAccounts ads.accounts with sponsorAds := ads.sponsorAds }

end ContentDb

instance : Accounts ContentDb := ⟨ContentDb.accounts, fun accounts db ↦ db.setAccounts accounts⟩

abbrev ContentCall (α : Type) := Service ContentDb α

section Sample

/-- Two users and an event, and nothing that they have published. -/
def contentDb : ContentDb where
  offers :=
    { schedule := Events.sampleDb
      market := .empty
      details := .empty }
  social := .empty
  sponsorAds := .empty
  vendorServices := .empty
  reports := .empty

end Sample

end Innovents.Moderation
