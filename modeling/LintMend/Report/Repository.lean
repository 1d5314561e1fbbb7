import LintMend.Report.Run
import LintMend.Repository.Report

/-!
# Reports as JSON

The report on a repository as one JSON document.
-/

namespace LintMend

namespace TriageCounts

def json (counts : TriageCounts) : Json :=
  .object
    [("safe", .ofNat counts.safe), ("risky", .ofNat counts.risky),
     ("suggest", .ofNat counts.suggest),
     ("by_rule", .object (counts.byRule.map fun (category, tally) =>
       (category.key, tally.json)))]

end TriageCounts

namespace RunReport

def languagesJson (languages : LanguageCounts) : Json :=
  .object (languages.map fun (language, count) => (language.key, .ofNat count))

def json (report : RunReport) : Json :=
  .object
    [("repository", .string report.repository.text),
     ("mode", .string report.mode.key), ("status", .string report.status.key),
     ("languages", languagesJson report.languages),
     ("issues_found", .ofNat report.found), ("triage", report.triage.json),
     ("review_queue", .array (report.queue.map ClassifiedIssue.json)),
     ("plan", report.plan.json),
     ("summary", .ofOption RunSummary.json report.summary),
     ("reviews", .array (report.reviews.map FileReview.json)),
     ("warnings", .array (report.warnings.map .string)),
     ("duration_seconds", .float report.duration)]

end RunReport

end LintMend
