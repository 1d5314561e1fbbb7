import LintMend.Rule.Report
import LintMend.Decimal.Binary
import LintMend.Tally

/-!
# Triage

Findings sorted into the three categories, each in the order in which they were
reported, and the queue of those that a reviewer should see, most promising
first.
-/

namespace LintMend

structure ClassifiedIssue where
  issue : Issue
  classification : Classification
  deriving Repr

structure Triage where
  safe : List ClassifiedIssue
  risky : List ClassifiedIssue
  suggest : List ClassifiedIssue
  deriving Repr

namespace Triage

def ofIssues (table : RuleTable) (issues : List Issue) : Triage :=
  let classified := issues.map fun issue =>
    { issue, classification :=
      table.classify issue.code issue.language : ClassifiedIssue }
  let bucket (category : Category) :=
    classified.filter fun entry => entry.classification.category = category
  { safe := bucket .safe, risky := bucket .risky, suggest := bucket .suggest }

def bucket (triage : Triage) : Category → List ClassifiedIssue
  | .safe => triage.safe
  | .risky => triage.risky
  | .suggest => triage.suggest

def total (triage : Triage) : Nat :=
  triage.safe.length + triage.risky.length + triage.suggest.length

/-- How many findings each rule code has within a category. -/
def countsByRule (triage : Triage) (category : Category) : Tally :=
  Tally.ofList ((triage.bucket category).map fun entry => entry.issue.code)

/-- Risky findings and then suggestions, sorted by falling confidence; equals
keep their order. -/
def reviewQueue (triage : Triage) : List ClassifiedIssue :=
  (triage.risky ++ triage.suggest).mergeSort fun left right =>
    decide (Binary.orderKey right.classification.confidence
      ≤ Binary.orderKey left.classification.confidence)

end Triage

end LintMend
