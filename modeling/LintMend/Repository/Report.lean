import LintMend.History.Entry
import LintMend.Repository.Sources
import LintMend.Run.Review

/-!
# Reports on a repository

Everything that one run has found and done.
-/

namespace LintMend

structure TriageCounts where
  safe : Nat
  risky : Nat
  suggest : Nat
  /-- The count of every rule, by category; categories without issues are left
  out. -/
  byRule : List (Category × Tally)
  deriving Repr

namespace TriageCounts

def ofTriage (triage : Triage) : TriageCounts :=
  { safe := triage.safe.length
    risky := triage.risky.length
    suggest := triage.suggest.length
    byRule :=
      (Category.all.map fun category =>
        (category, triage.countsByRule category)).filter
        fun (_, tally) => !tally.isEmpty }

end TriageCounts

structure RunReport where
  repository : Path
  mode : RunMode
  status : RunStatus
  languages : LanguageCounts
  found : Nat
  triage : TriageCounts
  /-- What needs a reader, the best candidates first. -/
  queue : List ClassifiedIssue
  plan : PlanSummary
  /-- Absent where nothing was to be fixed. -/
  summary : Option RunSummary
  reviews : List FileReview
  warnings : List String
  /-- The length of the run in seconds. -/
  duration : Float
  deriving Repr

namespace RunReport

def fixed (report : RunReport) : Nat :=
  (report.summary.map RunSummary.fixed).getD 0

/-- The log entry of the run. -/
def logEntry (report : RunReport) (time : Instant) : LogEntry :=
  { time
    repository := report.repository.text
    found := report.found
    fixed := report.fixed
    deferred :=
      (report.summary.map fun summary => summary.deferred.length).getD 0
    rolledBack := (report.summary.map RunSummary.rolledBack).getD 0
    errors := (report.summary.map RunSummary.errors).getD []
    duration := report.duration
    status := report.status
    mode := report.mode }

end RunReport

end LintMend
