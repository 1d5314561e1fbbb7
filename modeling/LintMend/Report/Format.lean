/-!
# Forms of reports
-/

namespace LintMend

/-- The form of a report. -/
inductive ReportFormat
  | terminal
  | json
  deriving DecidableEq, Repr

namespace ReportFormat

def all : List ReportFormat :=
  [terminal, json]

def key : ReportFormat → String
  | terminal => "terminal"
  | json => "json"

def ofKey? (key : String) : Option ReportFormat :=
  all.find? (·.key = key)

end ReportFormat

end LintMend
