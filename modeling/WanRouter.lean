import WanRouter.Local.Deliveries
import WanRouter.Local.EngineRuns
import WanRouter.Local.UnansweredPolls
import WanRouter.Remote.Alternation
import WanRouter.Remote.RaisingSends
import WanRouter.Lib.Periods
import WanRouter.Local.EngineState
import WanRouter.Local.GatewayLookup
import WanRouter.Local.MockSnmpPoller
import WanRouter.Local.PollHistory
import WanRouter.Local.AdaptivePolling
import WanRouter.Local.Durations
import WanRouter.Local.PollIntervals
import WanRouter.Local.RecoveryThreshold
import WanRouter.Remote.LastPayload
import WanRouter.Remote.LateHeartbeats
import WanRouter.Lib.KeyedCells
import WanRouter.Local.Independence
import WanRouter.Lib.Backtracking
import WanRouter.Local.RecentEvents
import WanRouter.Local.StandIn
import WanRouter.Remote.Apps
import WanRouter.Remote.DnsMonitor
import WanRouter.Shared.PythonText
import WanRouter.Shared.Strptime
import WanRouter.Local.SyslogReceiver
import WanRouter.Local.SyslogDispatch
import WanRouter.Local.SyslogFields
import WanRouter.Local.SyslogTimestamps
import WanRouter.Local.WanPhrases
import WanRouter.Local.WanExtraction
import WanRouter.Lib.MixedRadix
import WanRouter.Shared.DurationText
import WanRouter.Lib.Simulation
import WanRouter.Local.SyslogErasure
import WanRouter.Lib.Freshness
import WanRouter.Lib.Relay
import WanRouter.Local.HeartbeatAlerts
import WanRouter.Remote.ExternalProbe
import WanRouter.Remote.Silences
import WanRouter.System.LossTolerance
import WanRouter.Remote.DnsLoop
import WanRouter.Local.SyslogGrammar
import WanRouter.Local.SyslogIntake
import WanRouter.Local.DryRun
import WanRouter.Local.Shutdown
import WanRouter.Remote.CompletedSends
import WanRouter.Remote.SentinelService
import WanRouter.Local.HandedTexts
import WanRouter.Local.AlertTexts
import WanRouter.Local.HandedRecord
import WanRouter.Remote.LostText
import WanRouter.System.ReportedRouter
import WanRouter.Lib.TimedMachine
import WanRouter.Local.RealTime
import WanRouter.Remote.RealTime
