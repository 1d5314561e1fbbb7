import LintMend.Arithmetic
import LintMend.Rule.Triage

/-!
# Fix plans

Which findings are fixed, in which order. A plan takes the safe findings that
the rules allow, each one once, file after file in the order of the paths, and
within a file from the last line to the first, so that an edit never moves a
line that is still to be fixed. A cap cuts the plan off at the end of this
order.
-/

namespace LintMend

open scoped Arithmetic

/-- Which rules may be fixed. An empty list of enabled rules enables all. -/
structure RuleFilter where
  enabled : List String
  disabled : List String
  deriving DecidableEq, Repr

namespace RuleFilter

def everything : RuleFilter :=
  { enabled := [], disabled := [] }

def allows (filter : RuleFilter) (code : String) : Bool :=
  !filter.disabled.contains code &&
    (filter.enabled.isEmpty || filter.enabled.contains code)

end RuleFilter

structure PlanOptions where
  /-- The only rules to fix; none means no restriction. -/
  onlyRules : List String
  maxIssues : Option Nat
  deriving DecidableEq, Repr

structure PlannedIssue where
  issue : Issue
  strategy : Strategy
  ruleName : String
  deriving Repr

/-- What is to be fixed in one file, the last line first. -/
structure FilePlan where
  file : Path
  issues : List PlannedIssue
  deriving Repr

structure PlanSummary where
  willFix : Nat
  needsReview : Nat
  suggestions : Nat
  /-- Safe findings that the rules exclude. -/
  filteredOut : Nat
  /-- Safe findings behind the cap. -/
  overLimit : Nat
  fixesByRule : Tally
  deriving Repr

structure Plan where
  entries : List FilePlan
  summary : PlanSummary
  deriving Repr

namespace Plan

def selects (filter : RuleFilter) (options : PlanOptions)
    (issue : Issue) : Bool :=
  filter.allows issue.code
    && (options.onlyRules.isEmpty || options.onlyRules.contains issue.code)

/-- Keeps the first of equal findings. -/
def distinct : List Issue → List Issue → List Issue
  | _, [] => []
  | seen, issue :: issues =>
    if seen.any issue.same then distinct seen issues
    else issue :: distinct (issue :: seen) issues

def planned (table : RuleTable) (issue : Issue) : PlannedIssue :=
  { issue
    strategy := .ofRule issue.code issue.language
    ruleName := table.nameOf issue.code issue.language }

/-- Adds a finding to its file; a new file finds its place in the order of
paths. -/
def addToFile (item : PlannedIssue) : List FilePlan → List FilePlan
  | [] => [{ file := item.issue.file, issues := [item] }]
  | entry :: entries =>
    match item.issue.file.compare entry.file with
    | .eq => { entry with issues := entry.issues ++ [item] } :: entries
    | .lt => { file := item.issue.file, issues := [item] } :: entry :: entries
    | .gt => entry :: addToFile item entries

def groupByFile (items : List PlannedIssue) : List FilePlan :=
  items.foldl (fun entries item => addToFile item entries) []

/-- Whether a finding may stand before another one: on a later line, or on the
same line with a rule code that is not greater. -/
def before (left right : PlannedIssue) : Bool :=
  decide (right.issue.line < left.issue.line)
    || (right.issue.line == left.issue.line &&
        !(right.issue.code < left.issue.code))

def sortEntry (entry : FilePlan) : FilePlan :=
  { entry with issues := entry.issues.mergeSort before }

/-- Keeps the first findings, as many as remain; files without any are left
out. -/
def cap : Nat → List FilePlan → List FilePlan
  | _, [] => []
  | remaining, entry :: entries =>
    let kept := entry.issues.take remaining
    let behind := cap (remaining - kept.length) entries
    if kept.isEmpty then behind else { entry with issues := kept } :: behind

def count (entries : List FilePlan) : Nat :=
  (entries.map fun entry => entry.issues.length).sum

def ofTriage (table : RuleTable) (filter : RuleFilter) (options : PlanOptions)
    (triage : Triage) : Plan :=
  let safe := triage.safe.map ClassifiedIssue.issue
  let selected := safe.filter (selects filter options)
  let whole :=
    (groupByFile ((distinct [] selected).map (planned table))).map sortEntry
  let entries :=
    match options.maxIssues with
    | some limit => cap limit whole
    | none => whole
  let codes := entries.flatMap fun entry => entry.issues.map fun item =>
    item.issue.code
  { entries
    summary :=
      { willFix := count entries
        needsReview := triage.risky.length
        suggestions := triage.suggest.length
        filteredOut := safe.length - selected.length
        overLimit := count whole - count entries
        fixesByRule := Tally.ofList codes } }

def isEmpty (plan : Plan) : Bool :=
  plan.entries.isEmpty

def issueCount (plan : Plan) : Nat :=
  count plan.entries

def forFile? (plan : Plan) (path : Path) : Option FilePlan :=
  plan.entries.find? fun entry => entry.file.same path

end Plan

end LintMend
