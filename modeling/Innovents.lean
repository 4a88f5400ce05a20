import Innovents.Lib.JsNumber
import Innovents.Lib.JsValue
import Innovents.Lib.Table
import Innovents.Lib.Interleaving
import Innovents.Payments.Schema
import Innovents.Payments.Statements
import Innovents.Payments.Provider
import Innovents.Payments.AuditOutbox
import Innovents.Payments.WebhookHandlers
import Innovents.Payments.WebhookService
import Innovents.Payments.WebhookWrites
import Innovents.Payments.WebhookDispatch
import Innovents.Payments.WebhookDelivery
import Innovents.Payments.WebhookAcceptance
import Innovents.Payments.WebhookEffects
import Innovents.Payments.WebhookRecovery
import Innovents.Lib.Call
import Innovents.Payments.Calls
import Innovents.Payments.PaymentsService
import Innovents.Payments.PaymentsWrites
import Innovents.Payments.Reconciliation
import Innovents.Payments.RefundArithmetic
import Innovents.Payments.PaymentRuns
import Innovents.Payments.RefundStatus
import Innovents.Payments.SponsorshipRefunds
import Innovents.Payments.SubscriptionRevenue
import Innovents.Payments.RefundLedger
import Innovents.Communities.SponsorshipExpiration
import Innovents.Payments.SponsorshipActivities
import Innovents.Payments.PaidSponsorships
import Innovents.Payments.OneSponsor
import Innovents.Communities.CommunitiesService
import Innovents.Communities.CommunityCapacity
import Innovents.Payments.CancelledSubscriptions
import Innovents.Subscriptions.SubscriptionsService
import Innovents.Subscriptions.OneSubscription
import Innovents.Notifications.Schema
import Innovents.Notifications.Orchestrator
import Innovents.Notifications.OutboxEvents
import Innovents.Lib.Ownership
import Innovents.Notifications.OutboxProcessor
import Innovents.Notifications.OutboxWrites
import Innovents.Notifications.OutboxSteps
import Innovents.Notifications.OutboxClaims
import Innovents.Notifications.OutboxDeadLetters
import Innovents.Lib.Upsert
import Innovents.Notifications.CalmHandlers
import Innovents.Notifications.Recipients
import Innovents.Lib.Delimited
import Innovents.Notifications.OutboxProducers
import Innovents.Notifications.NotificationKeys
import Innovents.Notifications.DistinctNotifications
import Innovents.Notifications.OutboxRecipients
import Innovents.Lib.Surroundings
import Innovents.Notifications.HeededFailures
import Innovents.Notifications.AtLeastOnce
import Innovents.Notifications.Delivery
import Innovents.Notifications.DeliveryJobs
import Innovents.Lib.Histories
import Innovents.Auth.SingleUseInvitations
import Innovents.Auth.AccountClosure
import Innovents.Auth.InvitationAtomicity
import Innovents.Communities.Social.StatusMoves
import Innovents.Communities.Social.CommunityBans
import Innovents.Communities.Social.CommunityGateway
import Innovents.Communities.Social.ChatRooms
import Innovents.Lib.SingleUse
import Innovents.Lib.Transaction
import Innovents.Lib.TwoRuns
import Innovents.Lib.Keeping
import Innovents.Lib.Traces
import Innovents.Lib.Requests
import Innovents.Lib.Stability
import Innovents.Lib.Sequences
import Innovents.Lib.Answers
import Innovents.Platform.Accounts
import Innovents.Auth.Schema
import Innovents.Auth.TokenService
import Innovents.Auth.Statements
import Innovents.Auth.RefreshFamilies
import Innovents.Auth.OtpService
import Innovents.Auth.AuthService
import Innovents.Auth.AdminUsersService
import Innovents.Auth.AdminApprovalsService
import Innovents.Auth.OAuthService
import Innovents.Auth.OrganizerInvitationsService
import Innovents.Auth.Writes
import Innovents.Auth.AccountLifecycle
import Innovents.Auth.OtpAttempts
import Innovents.Auth.OtpCooldown
import Innovents.Auth.AccountEnumeration
import Innovents.Auth.OneTimeCodes
import Innovents.Auth.AccountTakeover
import Innovents.Auth.AccountGate
import Innovents.Auth.StoredSecrets
import Innovents.BusinessProfiles.BusinessProfilesService
import Innovents.BusinessProfiles.ProfileFrame
import Innovents.Marketplace.Schema
import Innovents.Marketplace.RfqService
import Innovents.Marketplace.QuotationService
import Innovents.Marketplace.Statements
import Innovents.Marketplace.RfqMachine
import Innovents.Marketplace.RfqMoves
import Innovents.Marketplace.RfqCalls
import Innovents.Marketplace.QuotationVersions
import Innovents.Marketplace.SingleAcceptance
import Innovents.Marketplace.TerminalRfqs
import Innovents.Marketplace.DraftRfqs
import Innovents.Marketplace.C2bBookingsService
import Innovents.Marketplace.BookingCounter
import Innovents.Marketplace.CouponsService
import Innovents.Marketplace.CouponRedemptions
import Innovents.Marketplace.RedemptionKeys
import Innovents.Marketplace.C2bServicesService
import Innovents.Marketplace.OfferExpiry
import Innovents.Events.Schema
import Innovents.Events.EventsService
import Innovents.Events.EventRegistrationService
import Innovents.Events.EventCapacity
import Innovents.Events.SessionsService
import Innovents.Events.VenueSchedule
import Innovents.SponsorAds.SponsorAdsService
import Innovents.SponsorAds.ReviewedAds
import Innovents.Communities.Social.Schema
import Innovents.Communities.Social.CommunityMembersService
import Innovents.Communities.Social.Memberships
import Innovents.Communities.Social.MemberCounts
import Innovents.Communities.Social.CommunityOwners
import Innovents.Lib.Tally
import Innovents.Communities.Social.CommunityLikesService
import Innovents.Communities.Social.LikeCounters
import Innovents.Communities.Social.CommunityRepliesService
import Innovents.Communities.Social.ReplyCounter
import Innovents.Marketplace.B2bMarketplaceService
import Innovents.Moderation.Schema
import Innovents.Moderation.ReportsService
import Innovents.Moderation.ReportLifecycle
import Innovents.Events.EventLifecycle
import Innovents.Events.VenuesService
import Innovents.Events.SpeakersService
import Innovents.Events.AgendaIntegrity
import Innovents.Events.OrganizerRights
import Innovents.Events.AttendeeScheduleService
import Innovents.Events.EventVisibility
import Innovents.Events.SessionReminders
import Innovents.Communities.Social.CommunityMeetupsService
import Innovents.Moderation.AdminModerationService
import Innovents.Lib.Pages
import Innovents.Marketplace.RfqCreation
import Innovents.Marketplace.RfqListing
import Innovents.Marketplace.ServiceDiscovery
import Innovents.Marketplace.DiscoveryPages
import Innovents.Marketplace.BookableServices
import Innovents.Auth.AuditRedaction
import Innovents.Marketplace.RfqExpiry
import Innovents.Marketplace.QuotationAmounts
import Innovents.Auth.ApprovalAudits
import Innovents.Auth.AccessBlacklist
import Innovents.Notifications.RetryBound
import Innovents.Communities.Social.MeetupParticipation
import Innovents.Communities.Social.ElevatedRoles
import Innovents.Communities.Social.MeetupConstraints
import Innovents.Lib.Forest
import Innovents.Communities.Social.CommunityViews
import Innovents.Communities.Social.ReplyThreads
import Innovents.Moderation.ReplyForests
import Innovents.Payments.RevenueService
import Innovents.Notifications.PreferenceUpdates
import Innovents.Notifications.UserDeviceService
import Innovents.Lib.Csv
import Innovents.Admin.CsvExportUtil
import Innovents.Moderation.Restorations
import Innovents.Lib.Markup
import Innovents.Notifications.EmailTemplateService
import Innovents.Notifications.EmailInjection
import Innovents.Moderation.LastingDecisions
import Innovents.Communities.Social.CommunityPostsService
import Innovents.Communities.Social.ContentRights
import Innovents.Communities.Social.PostFeed
import Innovents.Marketplace.VendorServicesService
import Innovents.Marketplace.VendorOfferings
import Innovents.Lib.Placement
import Innovents.Marketplace.VendorDiscovery
import Innovents.Marketplace.MarketplacePages
import Innovents.Lib.Journal
import Innovents.Marketplace.BookingLedger
import Innovents.Auth.Guards
import Innovents.Auth.EndedSessions
import Innovents.Notifications.InboxRights
import Innovents.Lib.Appends
import Innovents.Communities.Social.ChatLog
