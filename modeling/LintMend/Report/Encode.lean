import LintMend.Rule.Triage
import LintMend.Json.Value

/-!
# Findings and verdicts as JSON

How issues, verdicts and rules stand in machine-readable reports and logs.
-/

namespace LintMend

namespace Language

def json (language : Language) : Json :=
  .string language.key

end Language

namespace Issue

def json (issue : Issue) : Json :=
  .object
    [("file_path", .string issue.file.text), ("line_number", .ofNat issue.line),
     ("rule_code", .string issue.code), ("message", .string issue.message),
     ("language", issue.language.json)]

end Issue

namespace Classification

def json (classification : Classification) : Json :=
  .object
    [("category", .string classification.category.key),
     ("confidence", .float classification.confidence),
     ("reason", .string classification.reason)]

end Classification

namespace Explanation

def json (explanation : Explanation) : Json :=
  .object
    [("title", .string explanation.title),
     ("description", .string explanation.description),
     ("why", .string explanation.why), ("impact", .string explanation.impact)]

end Explanation

namespace RuleReport

def json (report : RuleReport) : Json :=
  .object
    [("code", .string report.code), ("language", report.language.json),
     ("name", .string report.name),
     ("classification", report.classification.json),
     ("mechanical_fix", .bool report.mechanical),
     ("explanation", report.explanation.json)]

end RuleReport

namespace ClassifiedIssue

def json (entry : ClassifiedIssue) : Json :=
  .object [("issue", entry.issue.json),
    ("classification", entry.classification.json)]

end ClassifiedIssue

namespace Triage

def json (triage : Triage) : Json :=
  .object
    [("safe", .array (triage.safe.map ClassifiedIssue.json)),
     ("risky", .array (triage.risky.map ClassifiedIssue.json)),
     ("suggest", .array (triage.suggest.map ClassifiedIssue.json))]

end Triage

namespace Tally

def json (tally : Tally) : Json :=
  .object (tally.map fun (key, count) => (key, .ofNat count))

end Tally

namespace Strategy

def json : Strategy → Json
  | mechanical fix => .object [("Mechanical", .string fix.name)]
  | assisted => .string "Assisted"

end Strategy

end LintMend
