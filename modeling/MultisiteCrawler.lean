import MultisiteCrawler.Adapters.Canonical
import MultisiteCrawler.Adapters.Contract
import MultisiteCrawler.Alerts.Evaluator
import MultisiteCrawler.Alerts.RaisingStore
import MultisiteCrawler.Alerts.Transitions
import MultisiteCrawler.BrowserArtifacts.Fragments
import MultisiteCrawler.BrowserArtifacts.Grammar
import MultisiteCrawler.BrowserArtifacts.Output
import MultisiteCrawler.BrowserArtifacts.Sanitizer
import MultisiteCrawler.BrowserArtifacts.Writer
import MultisiteCrawler.BrowserRuntime.ManagedEdge
import MultisiteCrawler.BrowserSession.Manager
import MultisiteCrawler.BrowserSession.Refresh
import MultisiteCrawler.BrowserSession.RefreshTimes
import MultisiteCrawler.BrowserSession.Terminal
import MultisiteCrawler.Config.SourceIds
import MultisiteCrawler.Config.Sources
import MultisiteCrawler.Foundation.AwareTime
import MultisiteCrawler.Foundation.ChangeTracking
import MultisiteCrawler.Foundation.CivilTime
import MultisiteCrawler.Foundation.EscapingErrors
import MultisiteCrawler.Foundation.ExpiringStore
import MultisiteCrawler.Foundation.Exposition
import MultisiteCrawler.Foundation.Files
import MultisiteCrawler.Foundation.Interaction
import MultisiteCrawler.Foundation.JsonGrammar
import MultisiteCrawler.Foundation.JsonKeys
import MultisiteCrawler.Foundation.JsonLines
import MultisiteCrawler.Foundation.JsonNumbers
import MultisiteCrawler.Foundation.JsonRoundTrip
import MultisiteCrawler.Foundation.JsonSorted
import MultisiteCrawler.Foundation.KeyedRuns
import MultisiteCrawler.Foundation.Markup
import MultisiteCrawler.Foundation.PlainUrls
import MultisiteCrawler.Foundation.Processes
import MultisiteCrawler.Foundation.PythonFloats
import MultisiteCrawler.Foundation.PythonUrls
import MultisiteCrawler.Foundation.RejoinedUrls
import MultisiteCrawler.Foundation.SerialOrder
import MultisiteCrawler.Foundation.Transactions
import MultisiteCrawler.Inspection.HealthInput
import MultisiteCrawler.Inspection.Monotone
import MultisiteCrawler.Inspection.Rejection
import MultisiteCrawler.Inspection.Report
import MultisiteCrawler.Inspection.StrictJson
import MultisiteCrawler.Locking.RedisLease
import MultisiteCrawler.Locking.TokenSafety
import MultisiteCrawler.Metrics.Accounts
import MultisiteCrawler.Metrics.Ledger
import MultisiteCrawler.Metrics.Page
import MultisiteCrawler.Metrics.Report
import MultisiteCrawler.Metrics.Store
import MultisiteCrawler.Observability.EventLines
import MultisiteCrawler.Observability.Places
import MultisiteCrawler.Observability.Redaction
import MultisiteCrawler.Observability.RunEvents
import MultisiteCrawler.Observability.ScrubbedUrls
import MultisiteCrawler.Observability.StableUrls
import MultisiteCrawler.Records.Contention
import MultisiteCrawler.Records.Deadlock
import MultisiteCrawler.Records.FetchStates
import MultisiteCrawler.Records.History
import MultisiteCrawler.Records.Journal
import MultisiteCrawler.Records.Redelivery
import MultisiteCrawler.Records.Refinement
import MultisiteCrawler.Records.Repository
import MultisiteCrawler.Records.Statements
import MultisiteCrawler.Records.Tables
import MultisiteCrawler.Records.Upserts
import MultisiteCrawler.Resilience.CircuitAgreement
import MultisiteCrawler.Resilience.CircuitBreaker
import MultisiteCrawler.Resilience.CircuitRuns
import MultisiteCrawler.Resilience.RateLimiter
import MultisiteCrawler.Resilience.RetryAfter
import MultisiteCrawler.Resilience.RetryLoop
import MultisiteCrawler.Resilience.SharedCircuit
import MultisiteCrawler.Scheduler.Cadence
import MultisiteCrawler.Scheduler.Concurrent
import MultisiteCrawler.Scheduler.Cycle
import MultisiteCrawler.Scheduler.Lifetimes
import MultisiteCrawler.Scheduler.Schedule
import MultisiteCrawler.Scheduler.Service
import MultisiteCrawler.Snapshots.Cleanup
import MultisiteCrawler.Snapshots.FailureSnapshots
import MultisiteCrawler.Snapshots.RefusedUrls
import MultisiteCrawler.Tasks.GivenBack
import MultisiteCrawler.Tasks.HeartbeatTiming
import MultisiteCrawler.Tasks.SourceLease
import MultisiteCrawler.Tasks.TerminalOutcome
import MultisiteCrawler.Tasks.SkippedOverlaps
import MultisiteCrawler.Adapters.Runner
import MultisiteCrawler.Adapters.Boundary
import MultisiteCrawler.Records.Storable
import MultisiteCrawler.Redis.Contents
import MultisiteCrawler.Records.ServedRecords
import MultisiteCrawler.Foundation.SimulatedRuns
import MultisiteCrawler.Tasks.HeartbeatThreads
import MultisiteCrawler.Tasks.RuntimeProbe
