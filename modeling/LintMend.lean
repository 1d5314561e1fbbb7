import LintMend.Json.Access
import LintMend.Main
import LintMend.Report.Command
import LintMend.Report.Config
import LintMend.Run.Bench
import LintMend.Proofs.Analyzer.Findings
import LintMend.Proofs.Assist.Deletion
import LintMend.Proofs.Assist.Recovery
import LintMend.Proofs.Assist.Returns
import LintMend.Proofs.Budget.Counting
import LintMend.Proofs.Budget.Degrading
import LintMend.Proofs.Budget.Filing
import LintMend.Proofs.Budget.Limit
import LintMend.Proofs.Budget.Mirroring
import LintMend.Proofs.Budget.Pruning
import LintMend.Proofs.Budget.Sharing
import LintMend.Proofs.Budget.Stores
import LintMend.Proofs.Budget.Text
import LintMend.Proofs.Budget.Window
import LintMend.Proofs.Buffer.Surroundings
import LintMend.Proofs.Data.Records
import LintMend.Proofs.Decimal.Nearest
import LintMend.Proofs.Decimal.Shortest
import LintMend.Proofs.Except
import LintMend.Proofs.Files.Disk
import LintMend.Proofs.Files.Interleaving
import LintMend.Proofs.Files.Memory
import LintMend.Proofs.Files.Replacing
import LintMend.Proofs.Files.Steps
import LintMend.Proofs.Fix.Alone
import LintMend.Proofs.Fix.Blocks
import LintMend.Proofs.Fix.Changes
import LintMend.Proofs.Fix.Cleaning
import LintMend.Proofs.Fix.Declarations
import LintMend.Proofs.Fix.Edits
import LintMend.Proofs.Fix.Feeds
import LintMend.Proofs.Fix.Imports
import LintMend.Proofs.Fix.Literals
import LintMend.Proofs.Fix.Locality
import LintMend.Proofs.Fix.Orders
import LintMend.Proofs.Fix.Rank
import LintMend.Proofs.Fix.Repeated
import LintMend.Proofs.Fix.Semicolons
import LintMend.Proofs.Fix.Statements
import LintMend.Proofs.Fix.Tidying
import LintMend.Proofs.Fix.Tokens
import LintMend.Proofs.Fix.Weight
import LintMend.Proofs.History.Entry
import LintMend.Proofs.History.Log
import LintMend.Proofs.Json.Doubles
import LintMend.Proofs.Json.Lines
import LintMend.Proofs.Json.Numbers
import LintMend.Proofs.Json.Reading
import LintMend.Proofs.Json.Scalars
import LintMend.Proofs.Path.Order
import LintMend.Proofs.Plan.Agreement
import LintMend.Proofs.Plan.Entries
import LintMend.Proofs.Plan.Order
import LintMend.Proofs.Plan.Selection
import LintMend.Proofs.Repository.Citations
import LintMend.Proofs.Repository.Skipping
import LintMend.Proofs.Repository.Writing
import LintMend.Proofs.Rule.Names
import LintMend.Proofs.Rule.Overrides
import LintMend.Proofs.Run.Accounting
import LintMend.Proofs.Run.Calls
import LintMend.Proofs.Run.Cancellation
import LintMend.Proofs.Run.Cleaning
import LintMend.Proofs.Run.Commit
import LintMend.Proofs.Run.Cycle
import LintMend.Proofs.Run.Honesty
import LintMend.Proofs.Run.Isolation
import LintMend.Proofs.Run.Mechanical
import LintMend.Proofs.Run.Place
import LintMend.Proofs.Run.Prediction
import LintMend.Proofs.Run.Provenance
import LintMend.Proofs.Run.Queue
import LintMend.Proofs.Run.Reviewing
import LintMend.Proofs.Run.Shifts
import LintMend.Proofs.Scan.Agreement
import LintMend.Proofs.Text.Digits
import LintMend.Proofs.Text.Lines
import LintMend.Proofs.Text.Returns
import LintMend.Proofs.Text.Utf8
import LintMend.Proofs.Text.Weight
import LintMend.Proofs.Time.Calendar
import LintMend.Proofs.Time.Reading
