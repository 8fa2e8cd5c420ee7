import Roster.Backoff
import Roster.Breaker
import Roster.Bus
import Roster.Calendar.Moment
import Roster.Caller
import Roster.Coding
import Roster.Coding.Brotli
import Roster.Coding.Brotli.Layout
import Roster.Coding.Brotli.Words
import Roster.Coding.Deflate
import Roster.Coding.Tape
import Roster.Coding.Zstd
import Roster.Composite
import Roster.Deployment
import Roster.Event
import Roster.Fault
import Roster.Http.Client
import Roster.Http.MediaType
import Roster.Http.Request
import Roster.Http.Response
import Roster.Http.Routes
import Roster.Json.Token
import Roster.Json.Wire
import Roster.Metrics
import Roster.Number.Double
import Roster.Panel
import Roster.Proofs.BackendErrands
import Roster.Proofs.BackendRefinement
import Roster.Proofs.BackendVisits
import Roster.Proofs.BackoffAttempts
import Roster.Proofs.BreakerBursts
import Roster.Proofs.BreakerForm
import Roster.Proofs.BreakerPause
import Roster.Proofs.BreakerProbes
import Roster.Proofs.BreakerRows
import Roster.Proofs.BreakerSlot
import Roster.Proofs.BreakerTrials
import Roster.Proofs.BreakerWatch
import Roster.Proofs.CallerHeaders
import Roster.Proofs.CompositeJoin
import Roster.Proofs.CompositeReads
import Roster.Proofs.CompositeSends
import Roster.Proofs.CompositeWrites
import Roster.Proofs.EventHistory
import Roster.Proofs.EventLedger
import Roster.Proofs.EventTargets
import Roster.Proofs.FaultHop
import Roster.Proofs.FloorOutcome
import Roster.Proofs.FloorRuns
import Roster.Proofs.JsonLiteral
import Roster.Proofs.JsonNumeral
import Roster.Proofs.JsonSpellings
import Roster.Proofs.JsonTokens
import Roster.Proofs.JsonValue
import Roster.Proofs.JsonWire
import Roster.Proofs.LaneBooks
import Roster.Proofs.MetricsCounts
import Roster.Proofs.MomentText
import Roster.Proofs.Nameboard
import Roster.Proofs.NameboardApart
import Roster.Proofs.OutageBreaker
import Roster.Proofs.PanelNames
import Roster.Proofs.PlayAccounts
import Roster.Proofs.PlayBounds
import Roster.Proofs.PlayBreaker
import Roster.Proofs.PlayOutage
import Roster.Proofs.PlayRecovery
import Roster.Proofs.PlayShield
import Roster.Proofs.PlayWatch
import Roster.Proofs.ReadingFates
import Roster.Proofs.ReadingMoves
import Roster.Proofs.ReadingOutcome
import Roster.Proofs.ReadingProgress
import Roster.Proofs.ReadingRecord
import Roster.Proofs.ReadingTries
import Roster.Proofs.ReadsOverHttp
import Roster.Proofs.ScenePlay
import Roster.Proofs.SettingsRules
import Roster.Proofs.ShiftActs
import Roster.Proofs.ShiftBooks
import Roster.Proofs.StoreDirectory
import Roster.Proofs.StoreRecords
import Roster.Proofs.Switchboard
import Roster.Proofs.SwitchboardMetrics
import Roster.Proofs.SwitchboardNames
import Roster.Proofs.TextForms
import Roster.Proofs.TextPlain
import Roster.Proofs.TextUtf8
import Roster.Proofs.TopicDelivery
import Roster.Proofs.TrafficWatch
import Roster.Proofs.WireRecords
import Roster.Reading
import Roster.Record
import Roster.Relay
import Roster.Settings
import Roster.Store
import Roster.Text.Plain
import Roster.Text.Quoted
import Roster.Text.Utf8
import Roster.Traffic
