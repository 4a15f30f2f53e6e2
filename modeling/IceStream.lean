import IceStream.Remediation.Healing
import IceStream.Lib.Trace
import IceStream.Lib.Text
import IceStream.Remediation.FlinkController
import IceStream.Remediation.SourceAdapter
import IceStream.Rules.Engine
import IceStream.Remediation.StateManager
import IceStream.Lib.Stepping
import IceStream.Lib.JsonLoads
import IceStream.Lib.Float
import IceStream.Lib.CommitLog
import IceStream.Quarantine.WriterThreads
import IceStream.Lib.Convert
import IceStream.Quarantine.Routing
import IceStream.Quarantine.AtMostOnce
import IceStream.Quarantine.Batch
import IceStream.Circuit.Durability
import IceStream.Circuit.FailSafe
import IceStream.Circuit.Probes
import IceStream.Streaming.TripThreads
import IceStream.Circuit.Recovery
import IceStream.Streaming.CloseLaw
import IceStream.Streaming.NoPoison
import IceStream.CircuitSync
import IceStream.Backend.PipelineService
import IceStream.Lib.Preserves
import IceStream.Backend.HealthyPipeline
import IceStream.Backend.ResumeLaw
import IceStream.Backend.IncidentService
import IceStream.Backend.ClosedIncidents
import IceStream.Backend.IncidentThreads
import IceStream.Backend.LostUpdates
import IceStream.Remediation.Exclusion
import IceStream.Metrics.Snapshot
import IceStream.Remediation.Savepoints
import IceStream.Lib.FloatDecimal
import IceStream.Lib.FloatDigits
import IceStream.Lib.JsonNumbers
import IceStream.Lib.JsonTexts
import IceStream.Lib.JsonRoundTrip
import IceStream.Lib.JsonLoaded
import IceStream.Streaming.Preserved
import IceStream.Schema.Compatibility
import IceStream.Schema.Conformance
import IceStream.Schema.Evolution
import IceStream.Metrics.Window
import IceStream.Lib.JsonIndent
import IceStream.Streaming.Redaction
import IceStream.Backend.Auth
import IceStream.Iceberg.Table
import IceStream.Iceberg.CompactionRows
import IceStream.Iceberg.SnapshotManager
import IceStream.Iceberg.LiveFiles
import IceStream.Iceberg.DryRun
import IceStream.Lib.Dates
import IceStream.Lib.Decimal
import IceStream.Lib.FloatBounds
import IceStream.Rules.Clock
import IceStream.Rules.Values
import IceStream.Detectors.Anomaly
import IceStream.Detectors.SchemaDrift
import IceStream.Rules.Registry
import IceStream.Lib.Shown
import IceStream.Rules.Gate
import IceStream.Metrics.Agreement
import IceStream.Detectors.DuplicateLaw
import IceStream.Rules.OneByOne
import IceStream.Remediation.Verdicts
import IceStream.Lib.Blind
import IceStream.Rules.Repeats
import IceStream.Remediation.Repeatable
import IceStream.Remediation.LakehouseSink
import IceStream.Remediation.ExactlyOnce
import IceStream.Remediation.Timestamps
import IceStream.Streaming.Gate
import IceStream.Backend.RateLaw
import IceStream.Remediation.AuditTrail
import IceStream.Schema.Differences
import IceStream.Detectors.DriftLaw
import IceStream.Rules.HybridEngine
import IceStream.Lib.Keyed
import IceStream.Storage.IncidentColumns
import IceStream.Storage.IncidentLaw
import IceStream.Lib.Yaml
import IceStream.Rules.RuleObjects
import IceStream.Rules.Loader
import IceStream.Rules.LoaderLaw
import IceStream.Rules.Loading
import IceStream.Iceberg.OrphanAccounting
import IceStream.Iceberg.FailedCompaction
import IceStream.Iceberg.CompactionNeed
import IceStream.Lib.Timestamp
import IceStream.Iceberg.Expiration
import IceStream.Lib.Uniform
import IceStream.Lib.Random
import IceStream.Generator.Config
import IceStream.Generator.Strategies
import IceStream.Generator.FaultInjection
import IceStream.Generator.InjectedRate
import IceStream.Generator.RealDuplicates
import IceStream.Quarantine.PrimaryError
import IceStream.Backend.FreshIds
import IceStream.Backend.AllOrNothing
import IceStream.Backend.BoundedAttempts
import IceStream.Metrics.Invariants
import IceStream.Lib.IsoRoundTrip
import IceStream.Lib.Calendar
import IceStream.Lib.Utf8
import IceStream.Lib.JsonBytes
import IceStream.Lib.FloatText
import IceStream.Generator.DataGenerator
import IceStream.Generator.CleanEvents
import IceStream.Generator.FaultyEvents
import IceStream.Streaming.Unseen
import IceStream.Streaming.CleanStream
import IceStream.Streaming.CaughtFaults
import IceStream.Generator.ErrorInjector
import IceStream.Generator.Producer
import IceStream.Generator.EventGenerator
import IceStream.Remediation.Mending
