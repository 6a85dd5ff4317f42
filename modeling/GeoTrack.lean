import GeoTrack.OrderedDict
import GeoTrack.LabelledRuns
import GeoTrack.NewestPerKey
import GeoTrack.SlidingWindow
import GeoTrack.Hysteresis
import GeoTrack.AlgorithmR
import GeoTrack.Codec
import GeoTrack.StorableReports
import GeoTrack.Tables
import GeoTrack.Geozones
import GeoTrack.ApplyBatch
import GeoTrack.BatchTransitions
import GeoTrack.BatchProcessor
import GeoTrack.PresenceInvariant
import GeoTrack.ReplayedBatches
import GeoTrack.ArrivalOrder
import GeoTrack.AlertHistory
import GeoTrack.ShardTransactions
import GeoTrack.ShardSerialization
import GeoTrack.ShardConsumer
import GeoTrack.ConsumerHandover
import GeoTrack.ConsumerDurability
import GeoTrack.DashboardPresence
import GeoTrack.ViewportGrid
import GeoTrack.PositionHub
import GeoTrack.DeviceStore
import GeoTrack.StridedBuffers
import GeoTrack.DeviceBuffers
import GeoTrack.DeviceAppearances
import GeoTrack.MarkerGlide
import GeoTrack.ClientConnection
import GeoTrack.PositionGateway
import GeoTrack.VisibleDevices
import GeoTrack.CurrentMarkers
import GeoTrack.IfMatch
import GeoTrack.ZoneRequests
import GeoTrack.ConditionalWrites
import GeoTrack.ZoneFrames
import GeoTrack.ZoneEditor
import GeoTrack.ZoneSession
import GeoTrack.AlertCursor
import GeoTrack.AlertBackfill
import GeoTrack.LivePresence
import GeoTrack.LiveDashboard
import GeoTrack.PresenceIndexes
import GeoTrack.ZoneLanes
import GeoTrack.ZoneHighlights
import GeoTrack.RedisBridge
import GeoTrack.PositionMessages
import GeoTrack.ReplicaPicture
import GeoTrack.StatementParameters
import GeoTrack.UserAccounts
import GeoTrack.Binary64
import GeoTrack.Clock
import GeoTrack.HistoryPartitions
import GeoTrack.MaintenanceLease
import GeoTrack.MaintenanceRounds
import GeoTrack.MaintenanceCoverage
import GeoTrack.IngestReports
import GeoTrack.ReportAdmission
import GeoTrack.BacklogMonitor
import GeoTrack.DeviceSession
import GeoTrack.SessionPacing
import GeoTrack.IngestRoutes
import GeoTrack.SessionBooks
import GeoTrack.EntryFates
import GeoTrack.FairShare
import GeoTrack.ShardCount
import GeoTrack.ReplicaMembership
import GeoTrack.ShardOwnership
import GeoTrack.ConnectionRegistry
import GeoTrack.GatewayServe
import GeoTrack.SessionDirectory
import GeoTrack.ListedSessions
import GeoTrack.SessionHeartbeat
import GeoTrack.SessionCap
import GeoTrack.ProcessorService
import GeoTrack.ServiceLeases
import GeoTrack.ShardReaders
import GeoTrack.StreamBacklog
import GeoTrack.ShardCommutation
import GeoTrack.ZoneQuota
import GeoTrack.JsonText
import GeoTrack.HubFrames
import GeoTrack.ConnectionSender
import GeoTrack.RealtimeClient
import GeoTrack.ClientCoherence
import GeoTrack.ClientTransitions
import GeoTrack.ClientShutdown
import GeoTrack.ClientMessages
import GeoTrack.ClientDialogue
import GeoTrack.FleetMotion
import GeoTrack.LoadGenerator
import GeoTrack.SeededTrajectories
import GeoTrack.FleetArea
import GeoTrack.DeviceDeadlines
import GeoTrack.LoadAccounting
import GeoTrack.LatencySample
import GeoTrack.BatchDepartures
import GeoTrack.IngestVerdicts
import GeoTrack.Unwinding
import GeoTrack.ZoneAnswers
import GeoTrack.UserIsolation
import GeoTrack.CircularBins
import GeoTrack.ViewportBoxes
import GeoTrack.ViewportJoin
import GeoTrack.MapBounds
import GeoTrack.TopRanked
import GeoTrack.DeviceTracks
import GeoTrack.BoundedAlertLog
import GeoTrack.HighestAlerts
import GeoTrack.ToastStack
import GeoTrack.AlertToasts
import GeoTrack.FeedTimer
import GeoTrack.AlertWalk
import GeoTrack.RelayedFrames
import GeoTrack.DwellPacing
import GeoTrack.PartialUpdates
import GeoTrack.ZonePatches
import GeoTrack.JsonOccurrences
import GeoTrack.PayloadShapes
