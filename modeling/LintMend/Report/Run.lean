import LintMend.Report.Encode
import LintMend.Run.Review

/-!
# Plans and runs as JSON

How plans, outcomes, summaries and reviews stand in machine-readable reports. An
outcome has its status and, where there is one, its detail.
-/

namespace LintMend

namespace PlanSummary

def json (summary : PlanSummary) : Json :=
  .object
    [("will_fix", .ofNat summary.willFix),
     ("needs_review", .ofNat summary.needsReview),
     ("suggestions", .ofNat summary.suggestions),
     ("filtered_out", .ofNat summary.filteredOut),
     ("over_limit", .ofNat summary.overLimit),
     ("fixes_by_rule", summary.fixesByRule.json)]

end PlanSummary

namespace PlannedIssue

def json (item : PlannedIssue) : Json :=
  .object
    [("issue", item.issue.json), ("strategy", item.strategy.json),
     ("rule_name", .string item.ruleName)]

end PlannedIssue

namespace FilePlan

def json (entry : FilePlan) : Json :=
  .object
    [("file_path", .string entry.file.text),
     ("issues", .array (entry.issues.map PlannedIssue.json))]

end FilePlan

namespace Plan

def json (plan : Plan) : Json :=
  .object
    [("entries", .array (plan.entries.map FilePlan.json)),
     ("summary", plan.summary.json)]

end Plan

namespace Deferral

def json : Deferral → Json
  | rateLimited provider =>
    .object
      [("reason", .string "rate_limited"),
       ("detail", .object [("provider", .string provider)])]
  | noAssistant => .object [("reason", .string "no_assistant")]
  | assistantFailed detail =>
    .object [("reason", .string "assistant_failed"), ("detail", .string detail)]

end Deferral

namespace Outcome

def json : Outcome → Json
  | fixed => .object [("status", .string "fixed")]
  | deferred reason =>
      .object [("status", .string "deferred"), ("detail", reason.json)]
  | skipped reason =>
      .object [("status", .string "skipped"), ("detail", .string reason)]
  | rolledBack reason =>
      .object [("status", .string "rolled_back"), ("detail", .string reason)]

end Outcome

namespace IssueOutcome

def json (entry : IssueOutcome) : Json :=
  .object [("issue", entry.issue.json), ("outcome", entry.outcome.json)]

end IssueOutcome

namespace FileReport

def resultJson (report : FileReport) : Json :=
  .object
    [("file_path", .string report.file.text),
     ("issues_attempted", .ofNat report.attempted),
     ("issues_fixed", .ofNat report.fixed),
     ("regression_detected", .bool report.regression),
     ("error", .ofOption .string report.error)]

def json (report : FileReport) : Json :=
  .object
    [("result", report.resultJson),
     ("outcomes", .array (report.outcomes.map IssueOutcome.json)),
     ("changed", .bool report.changed)]

end FileReport

namespace RunSummary

def deferredJson (entry : DeferredIssue) : Json :=
  .object [("issue", entry.issue.json), ("reason", entry.reason.json)]

def json (summary : RunSummary) : Json :=
  .object
    [("files", .array (summary.files.map FileReport.json)),
     ("deferred", .array (summary.deferred.map deferredJson)),
     ("warnings", .array (summary.warnings.map .string)),
     ("cancelled", .bool summary.cancelled), ("dry_run", .bool summary.dryRun)]

/-- What the reports on the files add up to. -/
def totalsJson (summary : RunSummary) : Json :=
  .object
    [("attempted", .ofNat summary.attempted), ("fixed", .ofNat summary.fixed),
     ("deferred", .ofNat summary.deferred.length),
     ("skipped", .ofNat summary.skipped),
     ("rolled_back", .ofNat summary.rolledBack),
     ("errors", .array (summary.errors.map .string)),
     ("changed", .array (summary.changedFiles.map fun path =>
       .string path.text)), ("reasons",
       .array (summary.deferred.map fun entry => .string entry.reason.message))]

end RunSummary

namespace FileReview

def outcomeFields : ReviewOutcome → List (String × Json)
  | .suggestions text =>
    [("status", .string "suggestions"), ("text", .string (String.ofList text))]
  | .rateLimited provider =>
    [("status", .string "rate_limited"), ("provider", .string provider)]
  | .failed error => [("status", .string "failed"), ("error", .string error)]

def json (review : FileReview) : Json :=
  .object
    ([("file_path", .string review.file.text),
      ("findings", .ofNat review.findings)]
      ++ outcomeFields review.outcome)

end FileReview

namespace Regression

/-- The answer of the safety checks. -/
def answerJson (regression : Option Regression) : Json :=
  .object
    [("is_safe", .bool regression.isNone),
     ("reason", .ofOption .string (regression.map Regression.message)),
     ("failed_check", .ofOption .string (regression.map fun found =>
       found.check.key))]

end Regression

end LintMend
