import LintMend.History.Stats
import LintMend.Decimal.Fixed
import LintMend.Report.Ink
import LintMend.Report.Table
import LintMend.Repository.Report
import LintMend.Rule.Report

/-!
# Reports for a terminal

Reports on runs, statistics and rules as lines of text, with or without colours.
All of them are lists of lines; the last line is ended too.
-/

namespace LintMend

namespace Terminal

/-- Entries of the review queue that are shown before the list is cut off. -/
def previewLength : Nat := 10

def header (ink : Ink) (title : String) : List String :=
  [ink.paint (.strongTinted .blue) title,
   ink.paint (.tinted .blue)
     (String.ofList (List.replicate title.utf8ByteSize '=')), ""]

def tableLines (head : List String) (rows : List (List String)) : List String :=
  (Table.lines head rows).map String.ofList

/-- A fraction as a percentage without places. -/
def percent (fraction : Float) : String :=
  Decimal.fixed 0 (fraction * 100) ++ "%"

def warningLines (ink : Ink) (warnings : List String) : List String :=
  warnings.map fun warning =>
    ink.paint (.strongTinted .yellow) "warning:" ++ " " ++ warning

/-! ## Runs -/

def languageText (languages : LanguageCounts) : String :=
  if languages.isEmpty then "none detected"
  else
    ", ".intercalate (languages.map fun (language, count) =>
      s!"{language.title} ({count} files)")

def overview (report : RunReport) : List String :=
  ["Repository: " ++ report.repository.text,
   "Languages:  " ++ languageText report.languages,
   s!"Issues:     {report.found}", ""]

def triageLines (ink : Ink) (counts : TriageCounts) : List String :=
  let number (colour : Colour) (count : Nat) : String :=
    ink.paint (.tinted colour) (toString count)
  let rows := counts.byRule.flatMap fun (category, tally) =>
    tally.map fun (rule, count) => [category.title, rule, toString count]
  [s!"Classification: {number .green counts.safe} safe, "
      ++ s!"{number .yellow counts.risky} risky, "
      ++ s!"{number .cyan counts.suggest} suggest"]
    ++ (if counts.byRule.isEmpty then []
        else tableLines ["Category", "Rule", "Count"] rows)
    ++ [""]

def planLines (ink : Ink) (plan : PlanSummary) : List String :=
  [ink.paint .strong "Fix plan", s!"  Will fix:      {plan.willFix}",
   s!"  Needs review:  {plan.needsReview}",
   s!"  Suggestions:   {plan.suggestions}"]
    ++ (if 0 < plan.filteredOut then
          [s!"  Filtered out:  {plan.filteredOut}"]
        else [])
    ++ (if 0 < plan.overLimit then
          [s!"  Over limit:    {plan.overLimit}"]
        else [])
    ++ (plan.fixesByRule.map fun (rule, count) => s!"    {rule}: {count}")
    ++ [""]

def place (issue : Issue) : String :=
  s!"{issue.file.text}:{issue.line}"

def queueLine (ink : Ink) (entry : ClassifiedIssue) : String :=
  s!"  {place entry.issue} " ++ ink.paint (.tinted .yellow) entry.issue.code
    ++ s!" {entry.issue.message} ({percent entry.classification.confidence})"

def queueLines (ink : Ink) (queue : List ClassifiedIssue) : List String :=
  if queue.isEmpty then []
  else
    let hidden := queue.length - previewLength
    [ink.paint (.strongTinted .yellow) "Needs review"]
      ++ (queue.take previewLength).map (queueLine ink)
      ++ (if 0 < hidden then [s!"  ... and {hidden} more"] else []) ++ [""]

/-- What became of a file, where it is worth a line. -/
def fileLine (ink : Ink) (report : FileReport) : List String :=
  let path := report.file.text
  if report.regression then
    let reason := report.error.getD "safety check failed"
    ["  " ++ ink.paint (.tinted .red) "✗" ++
     s!" {path}: rolled back ({reason})"]
  else
    match report.error with
    | some error =>
        ["  " ++ ink.paint (.tinted .yellow) "!" ++ s!" {path}: {error}"]
    | none =>
      if report.changed then
        ["  " ++ ink.paint (.tinted .green) "✓" ++
         s!" {path}: {report.fixed} fixed"]
      else []

def skipLine (entry : IssueOutcome) : List String :=
  match entry.outcome with
  | .skipped reason =>
    [s!"      line {entry.issue.line} {entry.issue.code}: skipped ({reason})"]
  | _ => []

/-- Skipped issues are listed unless an error explains them all. -/
def fileLines (ink : Ink) (report : FileReport) : List String :=
  fileLine ink report
    ++ if report.error.isNone then report.outcomes.flatMap skipLine else []

def deferredLine (ink : Ink) (entry : DeferredIssue) : String :=
  "  " ++ ink.paint (.tinted .cyan) "→"
    ++ s!" {place entry.issue} {entry.issue.code}: "
    ++ entry.reason.message

def totalLine (ink : Ink) (summary : RunSummary) : String :=
  "  Fixed: " ++ ink.paint (.tinted .green) (toString summary.fixed)
    ++ s!"  Deferred: {summary.deferred.length}  Skipped: {summary.skipped}"
    ++ "  Rolled back: "
    ++ ink.paint (.tinted .red) (toString summary.rolledBack)

def resultLines (ink : Ink) (summary : RunSummary) : List String :=
  let title := if summary.dryRun then "Dry run (nothing written)" else "Results"
  [ink.paint .strong title] ++ summary.files.flatMap (fileLines ink)
    ++ summary.deferred.map (deferredLine ink) ++ ["", totalLine ink summary]
    ++ (if summary.cancelled then
        ["  " ++ ink.paint (.tinted .yellow)
          "Cancelled before all files were processed"]
      else [])
    ++ [""]

/-- Without fixing, how to fix. -/
def hintLines (report : RunReport) : List String :=
  if report.mode = .analyze && 0 < report.plan.willFix then
    [s!"Run with --apply to fix {report.plan.willFix} issue(s), "
      ++ "or --dry-run to preview.", ""]
  else []

def reviewLines (ink : Ink) (review : FileReview) : List String :=
  let path := review.file.text
  match review.outcome with
  | .suggestions text =>
    s!"  {path} ({review.findings} finding(s))"
      :: (Text.lines text).map fun line => "    " ++ String.ofList line
  | .rateLimited provider =>
    ["  " ++ ink.paint (.tinted .cyan) "→" ++
     s!" {path}: {provider} rate limit reached"]
  | .failed error =>
      ["  " ++ ink.paint (.tinted .yellow) "!" ++ s!" {path}: {error}"]

def reviewsLines (ink : Ink) (reviews : List FileReview) : List String :=
  if reviews.isEmpty then []
  else
    [ink.paint (.strongTinted .magenta) "AI review"] ++
      reviews.flatMap (reviewLines ink) ++ [""]

def runLines (ink : Ink) (report : RunReport) : List String :=
  header ink s!"Lintpilot ({report.mode.title})" ++ overview report
    ++ triageLines ink report.triage ++ planLines ink report.plan
    ++ queueLines ink report.queue
    ++ ((report.summary.map (resultLines ink)).getD (hintLines report))
    ++ reviewsLines ink report.reviews ++ warningLines ink report.warnings
    ++ [s!"Finished in {Decimal.fixed 2 report.duration}s"]

/-! ## Statistics -/

def statsRows (stats : RunStats) : List (List String) :=
  [["Total runs", toString stats.runs], ["Issues found", toString stats.found],
   ["Fixes applied", toString stats.fixed],
   ["Deferred", toString stats.deferred],
   ["Files rolled back", toString stats.rolledBack],
   ["Errors", toString stats.errors],
   ["Average duration", Decimal.fixed 2 stats.averageDuration ++ "s"],
   ["Success rate", Decimal.fixed 1 stats.successRate ++ "%"]]
    ++ (stats.last.map fun instant =>
      ["Last run", instant.calendarText ++ " UTC"]).toList

def statsLines (ink : Ink) (stats : RunStats)
    (unreadable : Nat) : List String :=
  header ink "Lintpilot run history"
    ++ if stats.runs = 0 then ["No runs recorded yet."]
      else
        tableLines ["Metric", "Value"] (statsRows stats)
          ++ if 0 < unreadable then
              warningLines ink
                [s!"{unreadable} unreadable line(s) in the run log "
                  ++ "were skipped"]
            else []

/-! ## Rules -/

def categoryColour : Category → Colour
  | .safe => .green
  | .risky => .yellow
  | .suggest => .cyan

def ruleLines (ink : Ink) (rule : RuleReport) : List String :=
  let verdict := rule.classification
  let category :=
    ink.paint (.tinted (categoryColour verdict.category)) verdict.category.title
  let how :=
    if rule.mechanical then "mechanical"
    else "AI-assisted, deferred when no provider is configured"
  [ink.paint (.strongTinted .blue) rule.code ++ s!" ({rule.language.title}) "
      ++ ink.paint .strong rule.name, "",
    s!"  Category:   {category} "
      ++ s!"(confidence {Decimal.fixed 2 verdict.confidence})",
    "  Verdict:    " ++ verdict.reason]
    ++ (if verdict.isSafe then ["  Fix:        " ++ how] else [])
    ++ ["  What:       " ++ rule.explanation.description,
        "  Why:        " ++ rule.explanation.why,
        "  Impact:     " ++ rule.explanation.impact]

/-- The lines as one text. -/
def text (lines : List String) : String :=
  String.join (lines.map fun line => line ++ "\n")

end Terminal

end LintMend
