import RiskSentinel.Admin.EncryptSecret
import RiskSentinel.App.Checkpoints
import RiskSentinel.App.CustomerAlerts
import RiskSentinel.App.DeliveryCounters
import RiskSentinel.App.Gauges
import RiskSentinel.App.LedgerAlerts
import RiskSentinel.App.RingWedge
import RiskSentinel.App.RuleLoaders
import RiskSentinel.App.Shutdown
import RiskSentinel.App.StopRequest
import RiskSentinel.App.Termination
import RiskSentinel.App.WebhookChannels
import RiskSentinel.App.WebhookProvisioning
import RiskSentinel.Backtest.AcceptedConfig
import RiskSentinel.Backtest.BacktestApp
import RiskSentinel.Backtest.BacktestConfig
import RiskSentinel.Backtest.LedgerReport
import RiskSentinel.Backtest.Report
import RiskSentinel.Backtest.ReportFile
import RiskSentinel.Backtest.Returning
import RiskSentinel.Backtest.RowsInFile
import RiskSentinel.Backtest.SameRules
import RiskSentinel.Chains.EvmAdapter
import RiskSentinel.Chains.HexQuantities
import RiskSentinel.Chains.HonestNode
import RiskSentinel.Chains.LedgerRuns
import RiskSentinel.Events.Batching
import RiskSentinel.Events.Coverage
import RiskSentinel.Events.Decimal
import RiskSentinel.Events.DecimalCodec
import RiskSentinel.Events.EventSource
import RiskSentinel.Events.Exhaustion
import RiskSentinel.Events.FetchLoop
import RiskSentinel.Events.HandOver
import RiskSentinel.Events.Hex
import RiskSentinel.Events.LogDecoding
import RiskSentinel.Events.Normalize
import RiskSentinel.Events.SourceMeters
import RiskSentinel.Events.Visits
import RiskSentinel.Foundation.Bytes
import RiskSentinel.Foundation.Computation
import RiskSentinel.Foundation.Intervals
import RiskSentinel.Foundation.Json
import RiskSentinel.Foundation.JsonTree
import RiskSentinel.Foundation.Loading
import RiskSentinel.Foundation.Monitor
import RiskSentinel.Foundation.Sql
import RiskSentinel.Foundation.Table
import RiskSentinel.Foundation.Text
import RiskSentinel.Foundation.Throttle
import RiskSentinel.Health.HealthChecks
import RiskSentinel.Health.Readiness
import RiskSentinel.Pipeline.Orderly
import RiskSentinel.Pipeline.Progress
import RiskSentinel.Pipeline.Sequential
import RiskSentinel.Pipeline.Threads
import RiskSentinel.Risk.AlertDeduplicator
import RiskSentinel.Risk.AlertDispatcher
import RiskSentinel.Risk.AmountRules
import RiskSentinel.Risk.Deduplication
import RiskSentinel.Risk.DeduplicatorMemory
import RiskSentinel.Risk.DispatcherLoop
import RiskSentinel.Risk.DispatcherStop
import RiskSentinel.Risk.DispatcherWait
import RiskSentinel.Risk.Emission
import RiskSentinel.Risk.GovernanceRepeats
import RiskSentinel.Risk.OracleRuns
import RiskSentinel.Risk.Reorg
import RiskSentinel.Risk.RiskEngine
import RiskSentinel.Risk.Rules
import RiskSentinel.Risk.Signal
import RiskSentinel.Risk.TelegramAlertChannel
import RiskSentinel.Risk.TenantIsolation
import RiskSentinel.Risk.TimeBlind
import RiskSentinel.Risk.WebhookAlertChannel
import RiskSentinel.Rpc.JsonRpcClient
import RiskSentinel.Security.Crypto
