import LintMend.Report.Format
import LintMend.Report.Repository
import LintMend.Report.Terminal

/-!
# Documents

What is shown to the user, in one of the forms of a report.
-/

namespace LintMend

inductive Document
  | run (report : RunReport)
  /-- Statistics, with the count of unreadable lines in the log. -/
  | stats (stats : RunStats) (unreadable : Nat)
  | rule (report : RuleReport)
  deriving Repr

namespace Document

def lines (ink : Ink) : Document → List String
  | run report => Terminal.runLines ink report
  | stats found unreadable => Terminal.statsLines ink found unreadable
  | rule report => Terminal.ruleLines ink report

def json : Document → Json
  | run report => report.json
  | stats found unreadable =>
    .object (found.fields ++ [("skipped_lines", .ofNat unreadable)])
  | rule report => report.json

def text (format : ReportFormat) (ink : Ink) (document : Document) : String :=
  match format with
  | .terminal => Terminal.text (document.lines ink)
  | .json => document.json.pretty ++ "\n"

end Document

end LintMend
