import LooseKeys.Files.Tree
import LooseKeys.Json.Records
import LooseKeys.Json.Text
import LooseKeys.Main
import LooseKeys.Proofs.Acceptance
import LooseKeys.Proofs.Charges
import LooseKeys.Proofs.Contiguity
import LooseKeys.Proofs.Convergence
import LooseKeys.Proofs.Course
import LooseKeys.Proofs.Draining
import LooseKeys.Proofs.Exchange
import LooseKeys.Proofs.Failure
import LooseKeys.Proofs.Forecast.Numbers
import LooseKeys.Proofs.Forecast.Relation
import LooseKeys.Proofs.Ledger
import LooseKeys.Proofs.Marking
import LooseKeys.Proofs.Outcome
import LooseKeys.Proofs.Overshoot
import LooseKeys.Proofs.PassCount
import LooseKeys.Proofs.Phases
import LooseKeys.Proofs.Provenance
import LooseKeys.Proofs.Reduction
import LooseKeys.Proofs.Repetition
import LooseKeys.Proofs.Report
import LooseKeys.Proofs.Sequence
import LooseKeys.Proofs.Spans
import LooseKeys.Proofs.Sql
import LooseKeys.Proofs.Stopping
import LooseKeys.Proofs.Store.Composition
import LooseKeys.Proofs.Store.PassEffect
import LooseKeys.Proofs.Store.Takeable
import LooseKeys.Proofs.Truncation
import LooseKeys.Proofs.Turns
import LooseKeys.Proofs.Worker
import LooseKeys.Storage.Journal
import LooseKeys.Worker
import LooseKeys.Proofs.Notices
import LooseKeys.Proofs.DeclarationOrder
import LooseKeys.Proofs.Settings.Given
import LooseKeys.Proofs.Settings.Overrides
import LooseKeys.Proofs.CommandLine
import LooseKeys.Proofs.Batch.Construction
import LooseKeys.Proofs.Budget.Books
import LooseKeys.Proofs.Store.History
import LooseKeys.Proofs.Pauses
