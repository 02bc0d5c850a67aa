import HybridOperator.Lib.GoMap
import HybridOperator.Lib.GoStrings
import HybridOperator.Lib.Csv
import HybridOperator.Lib.Dedup
import HybridOperator.Lib.DnsNames
import HybridOperator.Lib.FirstRise
import HybridOperator.Lib.GoInt
import HybridOperator.Lib.Grouping
import HybridOperator.Lib.HtmlTokens
import HybridOperator.Lib.JsRegex
import HybridOperator.Lib.Json
import HybridOperator.Lib.JsonText
import HybridOperator.Lib.StructDecode
import HybridOperator.Lib.JsonSame
import HybridOperator.Lib.JsonPrint
import HybridOperator.Lib.JsonStyles
import HybridOperator.Lib.LeastSquares
import HybridOperator.Lib.NestedLoop
import HybridOperator.Lib.OptimisticStore
import HybridOperator.Lib.PathSets
import HybridOperator.Lib.Reactive
import HybridOperator.Lib.Regex
import HybridOperator.Lib.SemVer
import HybridOperator.Lib.Tally
import HybridOperator.Lib.Threads
import HybridOperator.Lib.TripleSearch
import HybridOperator.Lib.TtlCache
import HybridOperator.Lib.UnicodeDigits
import HybridOperator.Lib.Window
import HybridOperator.Collector.Client
import HybridOperator.Collector.Semver
import HybridOperator.Collector.Types
import HybridOperator.Collector.SchemaDiff
import HybridOperator.Collector.SchemaFields
import HybridOperator.Collector.ConcurrentApprove
import HybridOperator.Collector.ReapproveEffect
import HybridOperator.Collector.UpgradeFlow
import HybridOperator.Collector.Anomalies
import HybridOperator.Collector.AnomalyLocality
import HybridOperator.Collector.HealthAgreement
import HybridOperator.Collector.ZombieCSVs
import HybridOperator.Collector.Images
import HybridOperator.Collector.ImageCoverage
import HybridOperator.Collector.ImageReference
import HybridOperator.Collector.Scores
import HybridOperator.Collector.CRDImpact
import HybridOperator.Collector.FieldPaths
import HybridOperator.Collector.SchemaDiffExact
import HybridOperator.Collector.BreakingChanges
import HybridOperator.Collector.Governance
import HybridOperator.Collector.Consistency
import HybridOperator.Collector.LinkTypes
import HybridOperator.Collector.FlowPermutation
import HybridOperator.Collector.IdleOperators
import HybridOperator.Collector.DependencyGraph
import HybridOperator.Collector.DependencyEdges
import HybridOperator.Collector.GraphOrder
import HybridOperator.Collector.ImpactAnalysis
import HybridOperator.Collector.ImpactCoverage
import HybridOperator.Collector.TargetSchemas
import HybridOperator.Collector.UpgradeOffer
import HybridOperator.Collector.ActiveCounts
import HybridOperator.Security.CVEScanner
import HybridOperator.Collector.SharedCounts
import HybridOperator.Collector.CVESources
import HybridOperator.Collector.ExposedRoutes
import HybridOperator.Collector.PodStatus
import HybridOperator.Collector.VersionPrecedence
import HybridOperator.Collector.SemverGrammar
import HybridOperator.Collector.MissingVersion
import HybridOperator.Collector.PendingApproval
import HybridOperator.Server.Actions
import HybridOperator.Server.AuditTrail
import HybridOperator.Server.ApproveScope
import HybridOperator.Server.ApproveReport
import HybridOperator.Server.ChannelPatch
import HybridOperator.Server.InventoryLog
import HybridOperator.Server.CVEReports
import HybridOperator.Server.PodUsage
import HybridOperator.Brain.Telemetry
import HybridOperator.Brain.TelemetryRuns
import HybridOperator.Brain.RestartDecision
import HybridOperator.Brain.PodIsolation
import HybridOperator.Brain.GovernanceViewer
import HybridOperator.Brain.OLMInventory
import HybridOperator.Brain.OLMCatalog
import HybridOperator.Brain.UpgradeAgreement
import HybridOperator.Dashboard.Session
import HybridOperator.Dashboard.Topology
import HybridOperator.Dashboard.UpgradeCard
import HybridOperator.Dashboard.UpgradeChain
import HybridOperator.Dashboard.RouteModal
import HybridOperator.Dashboard.CsvExport
import HybridOperator.Dashboard.ConflictModal
import HybridOperator.Dashboard.OperatorGrid
import HybridOperator.Dashboard.AuditLog
import HybridOperator.Dashboard.AutoRefresh
import HybridOperator.Dashboard.InventoryRace
import HybridOperator.Server.TelemetryLoop
import HybridOperator.Server.MitigationBound
import HybridOperator.Server.Mux
import HybridOperator.Server.ShippedRole
import HybridOperator.Dashboard.Console
import HybridOperator.Dashboard.QuickActions
import HybridOperator.Server.AuditReplay
import HybridOperator.Dashboard.ConditionalGet
import HybridOperator.Dashboard.AutonomousMode
import HybridOperator.Brain.TelemetryThreads
