import LintMend.Arithmetic
import LintMend.Plan
import LintMend.Safety

/-!
# Outcomes of a run

What became of every planned finding, of every file and of the whole run.
-/

namespace LintMend

open scoped Arithmetic

/-- Why a finding is left for later. -/
inductive Deferral
  | rateLimited (provider : String)
  /-- There is no mechanical fix and no assistant. -/
  | noAssistant
  | assistantFailed (detail : String)
  deriving DecidableEq, Repr

def Deferral.message : Deferral → String
  | rateLimited provider => s!"rate limited ({provider})"
  | noAssistant => "needs AI or human review"
  | assistantFailed detail => "AI assistant failed: " ++ detail

inductive Outcome
  | fixed
  | deferred (reason : Deferral)
  /-- There was nothing to change, or the file could not be used. -/
  | skipped (reason : String)
  /-- Fixed, and given up again with the rest of the file. -/
  | rolledBack (reason : String)
  deriving DecidableEq, Repr

namespace Outcome

def isFixed : Outcome → Bool
  | fixed => true
  | _ => false

def isSkipped : Outcome → Bool
  | skipped _ => true
  | _ => false

def deferral? : Outcome → Option Deferral
  | deferred reason => some reason
  | _ => none

end Outcome

structure IssueOutcome where
  issue : Issue
  outcome : Outcome
  deriving Repr

structure FileReport where
  file : Path
  attempted : Nat
  fixed : Nat
  regression : Bool
  error : Option String
  outcomes : List IssueOutcome
  /-- New content was written, or would have been in a dry run. -/
  changed : Bool
  deriving Repr

structure DeferredIssue where
  issue : Issue
  reason : Deferral
  deriving Repr

namespace FileReport

def deferrals (report : FileReport) : List DeferredIssue :=
  report.outcomes.filterMap fun entry =>
    entry.outcome.deferral?.map fun reason => { issue := entry.issue, reason }

def count (report : FileReport) (property : Outcome → Bool) : Nat :=
  report.outcomes.countP fun entry => property entry.outcome

end FileReport

structure RunSummary where
  files : List FileReport
  deferred : List DeferredIssue
  warnings : List String
  cancelled : Bool
  dryRun : Bool
  deriving Repr

namespace RunSummary

def attempted (summary : RunSummary) : Nat :=
  (summary.files.map FileReport.attempted).sum

def fixed (summary : RunSummary) : Nat :=
  (summary.files.map FileReport.fixed).sum

def skipped (summary : RunSummary) : Nat :=
  (summary.files.map fun report => report.count Outcome.isSkipped).sum

/-- The number of files that were given up. -/
def rolledBack (summary : RunSummary) : Nat :=
  summary.files.countP FileReport.regression

def changedFiles (summary : RunSummary) : List Path :=
  (summary.files.filter FileReport.changed).map FileReport.file

/-- The errors of single files, each behind its path. -/
def errors (summary : RunSummary) : List String :=
  summary.files.filterMap fun report =>
    report.error.map fun error => report.file.text ++ ": " ++ error

end RunSummary

end LintMend
