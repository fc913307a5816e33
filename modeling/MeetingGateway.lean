import MeetingGateway.Library.LabelledRuns
import MeetingGateway.Library.KeyedTable
import MeetingGateway.Library.BoundedRange
import MeetingGateway.Library.OrderedDict
import MeetingGateway.Library.FirstFit
import MeetingGateway.Library.FirstFitRace
import MeetingGateway.Availability
import MeetingGateway.Convay
import MeetingGateway.KnownCreation
import MeetingGateway.AllocationRace
import MeetingGateway.Operations
import MeetingGateway.Moves
import MeetingGateway.Lifecycle
import MeetingGateway.Preservation
import MeetingGateway.System
import MeetingGateway.Invariants
import MeetingGateway.Creation
import MeetingGateway.Coherence
import MeetingGateway.RowInvariants
import MeetingGateway.StatusFlow
import MeetingGateway.RoomLocks
import MeetingGateway.Bookings
import MeetingGateway.ProviderLimit
import MeetingGateway.Serializers
import MeetingGateway.Views
import MeetingGateway.Tokens
import MeetingGateway.TokenCache
import MeetingGateway.TokenFreshness
import MeetingGateway.TokenRejection
import MeetingGateway.ProviderFailures
import MeetingGateway.Integrations
import MeetingGateway.GatewayTokens
import MeetingGateway.Library.StaleSaves
import MeetingGateway.SecretRotation
import MeetingGateway.Credentials
import MeetingGateway.Recovery
import MeetingGateway.TokenOutcomes
import MeetingGateway.CreationResponses
import MeetingGateway.Layering
import MeetingGateway.StaleSweep
import MeetingGateway.AuthResponses
import MeetingGateway.CacheReading
import MeetingGateway.Library.TextCuts
import MeetingGateway.Urls
import MeetingGateway.TrustedHosts
import MeetingGateway.LegacyDuplicates
import MeetingGateway.Diagnostics
import MeetingGateway.TokenReuse
import MeetingGateway.Library.MarkedReplacement
import MeetingGateway.Scrubbing
import MeetingGateway.Library.BoundedDescent
import MeetingGateway.EchoedSecrets
import MeetingGateway.Library.Journals
import MeetingGateway.Flights
import MeetingGateway.ErrorCodes
import MeetingGateway.AuditTrail
import MeetingGateway.TrailReplay
import MeetingGateway.TrailRows
import MeetingGateway.CallBudget
import MeetingGateway.Library.Calendars
import MeetingGateway.RoomCalendar
import MeetingGateway.Releases
import MeetingGateway.Library.Paging
import MeetingGateway.Searches
import MeetingGateway.Listings
import MeetingGateway.SearchWalks
import MeetingGateway.Library.ExpiringCounters
import MeetingGateway.TokenExchange
import MeetingGateway.LoneRequests
import MeetingGateway.SerialHistories
import MeetingGateway.Completion
import MeetingGateway.Offers
import MeetingGateway.Replays
import MeetingGateway.Logging
