import SparkLog.Main
import SparkLog.Payload.Rounding
import SparkLog.Proofs.Changed
import SparkLog.Proofs.Derivation.Acceleration
import SparkLog.Proofs.Derivation.Analysis
import SparkLog.Proofs.Derivation.Correlation
import SparkLog.Proofs.Derivation.Counting
import SparkLog.Proofs.Derivation.EarlyCorrelation
import SparkLog.Proofs.Derivation.Repetition
import SparkLog.Proofs.Derivation.Sessions
import SparkLog.Proofs.Distinct
import SparkLog.Proofs.Ingestion.Additions
import SparkLog.Proofs.Ingestion.Atomicity
import SparkLog.Proofs.Ingestion.Entries
import SparkLog.Proofs.Ingestion.Families
import SparkLog.Proofs.Ingestion.Handlers
import SparkLog.Proofs.Ingestion.History
import SparkLog.Proofs.Ingestion.Identifiers
import SparkLog.Proofs.Ingestion.Identity
import SparkLog.Proofs.Ingestion.Interruption
import SparkLog.Proofs.Ingestion.Overflow
import SparkLog.Proofs.Ingestion.Replay
import SparkLog.Proofs.Ingestion.Runs
import SparkLog.Proofs.Keyed
import SparkLog.Proofs.Listing.Columns
import SparkLog.Proofs.Listing.Qualification
import SparkLog.Proofs.Outcome
import SparkLog.Proofs.Plan.Acyclicity
import SparkLog.Proofs.Plan.Reuse
import SparkLog.Proofs.Plan.Rooted
import SparkLog.Proofs.Plan.Signature
import SparkLog.Proofs.Plan.Traversal
import SparkLog.Proofs.Replay
import SparkLog.Session
import SparkLog.Proofs.Rearrangement.Sorting
import SparkLog.Proofs.Rearrangement.Store
import SparkLog.Proofs.Rearrangement.Ingestion
import SparkLog.Proofs.Rearrangement.Derivation
import SparkLog.Proofs.Rearrangement.Grouping
import SparkLog.Proofs.Rearrangement.Index
import SparkLog.Proofs.Rearrangement.Listing
import SparkLog.Proofs.Rearrangement
import SparkLog.Proofs.Ingestion.Strictness
import SparkLog.Proofs.Log.Containers
import SparkLog.Proofs.Decimal.Digits
import SparkLog.Proofs.Decimal.Exact
import SparkLog.Proofs.Decimal.Shortest
import SparkLog.Proofs.Number.Rounding
import SparkLog.Proofs.Derivation.Links
import SparkLog.Proofs.Metrics.Groups
import SparkLog.Proofs.Metrics.Rows
import SparkLog.Proofs.Metrics.Times
import SparkLog.Proofs.Metrics.Figures
import SparkLog.Proofs.Metrics.Answers
import SparkLog.Proofs.Metrics.RollUp
import SparkLog.Proofs.Ingestion.Growth
import SparkLog.Proofs.Ingestion.Counters
import SparkLog.Proofs.Unheard
import SparkLog.Proofs.Log.BrokenLines
import SparkLog.Proofs.Listing.PlanMetrics
import SparkLog.Proofs.Derivation.LargestValues
import SparkLog.Proofs.Derivation.Rederivation
import SparkLog.Proofs.TaskTable
import SparkLog.Proofs.Plan.Statements
import SparkLog.Proofs.Plan.Drawings
import SparkLog.Proofs.Text.Matches
import SparkLog.Proofs.Text.Pieces
import SparkLog.Proofs.Report.Places
import SparkLog.Proofs.Report.Outputs
import SparkLog.Proofs.Report.Batches
import SparkLog.Proofs.Derivation.Declarations
import SparkLog.Proofs.Listing.Skew
import SparkLog.Proofs.Ingestion.NullMetrics
import SparkLog.Proofs.Ingestion.Accumulables
import SparkLog.Proofs.Decimal.Joined
import SparkLog.Proofs.Ingestion.ShuffledBytes
import SparkLog.Proofs.Derivation.FirstDeclarations
import SparkLog.Proofs.Plan.Escapes
import SparkLog.Proofs.Report.Ranking
import SparkLog.Proofs.Decimal.HalfUp
import SparkLog.Proofs.Decimal.Notation
import SparkLog.Proofs.Payload.Rounding
