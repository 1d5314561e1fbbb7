import LintMend.Run.Outcome
import LintMend.Assist.Assistant
import LintMend.Budget.Tracker

/-!
# Executing a plan

A plan is carried out file by file. The fixes of a file are made in a buffer,
the safety checks look at the result, and only then the file is replaced, in one
step; a file that fails a check is never written. A finding without a mechanical
fix asks the assistant, if there is one and the budget grants the call.
Cancelling takes effect between two files.
-/

namespace LintMend

inductive Mode
  /-- Write what passes the checks. -/
  | apply
  /-- Fix and check in memory only. -/
  | dryRun
  deriving DecidableEq, Repr

structure Settings where
  mode : Mode
  /-- Leave the imports of package files alone. -/
  keepPackageFiles : Bool
  /-- Lines of code around a finding that an assistant gets to see. -/
  contextLines : Nat
  /-- The clock by which calls are counted. -/
  now : Clock

/-- An assistant and the budget for its calls. -/
structure Helper where
  assistant : Assistant
  tracker : Tracker
  /-- How often the clock was looked at so far. -/
  looks : Nat := 0
  deriving Repr

/-- What a run works on: the files and the usage store, the helper, and whether
the user has cancelled. -/
structure Site (σ : Type) where
  place : σ
  helper : Option Helper
  cancelled : Bool

namespace Run

variable {σ : Type} [FileStore σ] [UsageStore σ]

/-- Takes a call off the budget. The window is looked at first, without
recording anything; the clock is looked at again for the record. -/
def takeCall (now : Clock) (helper : Helper) (place : σ) : Bool × Helper × σ :=
  let provider := helper.assistant.provider
  let (free, tracker, place) :=
    helper.tracker.canProceed provider (now.shows helper.looks) place
  if free then
    let (recorded, tracker, place) :=
      tracker.record provider (now.shows (helper.looks + 1)) place
    (recorded, { helper with tracker, looks := helper.looks + 2 }, place)
  else (false, { helper with tracker, looks := helper.looks + 1 }, place)

def outcomeOf (buffer : Buffer) : Fix.Result → Outcome × Buffer
  | .ok fixed => (.fixed, fixed)
  | .error refusal => (.skipped refusal.message, buffer)

/-- Asks the assistant for a replacement of the line. -/
def assist (settings : Settings) (item : PlannedIssue) (buffer : Buffer)
    (site : Site σ) :
    Outcome × Buffer × Site σ :=
  match site.helper with
  | none => (.deferred .noAssistant, buffer, site)
  | some helper =>
    let line := item.issue.line
    match buffer.line? line with
    | none => (.skipped (Fix.Refusal.outOfRange line).message, buffer, site)
    | some target =>
      match takeCall settings.now helper site.place with
      | (false, helper, place) =>
        (.deferred (.rateLimited helper.assistant.provider), buffer,
          { site with place, helper := some helper })
      | (true, helper, place) =>
        let request : LineRequest :=
          { issue := item.issue
            ruleName := item.ruleName
            snippet := buffer.excerpt line settings.contextLines
            target }
        let (reply, cancels, assistant) := helper.assistant.suggest request
        let site : Site σ :=
          { place
            helper := some { helper with assistant }
            cancelled := site.cancelled || cancels }
        match reply with
        | .error fault =>
            (.deferred (.assistantFailed fault.message), buffer, site)
        | .ok suggestion =>
          let (outcome, buffer) :=
            outcomeOf buffer (Fix.applySuggestion suggestion buffer line)
          (outcome, buffer, site)

def fixIssue (settings : Settings) (item : PlannedIssue) (buffer : Buffer)
    (site : Site σ) :
    Outcome × Buffer × Site σ :=
  match item.strategy with
  | .mechanical fix =>
    let (outcome, buffer) :=
      outcomeOf buffer (fix.apply settings.keepPackageFiles item.issue buffer)
    (outcome, buffer, site)
  | .assisted => assist settings item buffer site

/-- Makes the fixes of a file one after another in one buffer. -/
def fixIssues (settings : Settings) : List PlannedIssue → Buffer → Site σ →
    List (PlannedIssue × Outcome) × Buffer × Site σ
  | [], buffer, site => ([], buffer, site)
  | item :: items, buffer, site =>
    let (outcome, buffer, site) := fixIssue settings item buffer site
    let (outcomes, buffer, site) := fixIssues settings items buffer site
    ((item, outcome) :: outcomes, buffer, site)

/-- Whether a fix takes away whitespace and nothing else. -/
def isWhitespaceFix (item : PlannedIssue) : Bool :=
  (item.strategy.mechanicalFix?.map Fix.isWhitespaceOnly).getD false

/-- What kind of fixes were made. -/
def profileOf (outcomes : List (PlannedIssue × Outcome)) : Profile :=
  if outcomes.all fun (item, outcome) =>
    !outcome.isFixed || isWhitespaceFix item then
      .whitespaceOnly
  else .general

/-- The report on a file from the outcomes of its findings. -/
def report (entry : FilePlan) (outcomes : List (PlannedIssue × Outcome))
    (changed : Bool) :
    FileReport :=
  { file := entry.file
    attempted := entry.issues.length
    fixed := outcomes.countP fun (_, outcome) => outcome.isFixed
    regression := false
    error := none
    outcomes := outcomes.map fun (item, outcome) =>
      { issue := item.issue, outcome }
    changed }

/-- Puts another outcome in the place of every fix that was made. -/
def replaceFixed (replacement : Outcome)
    (outcomes : List (PlannedIssue × Outcome)) :
    List (PlannedIssue × Outcome) :=
  outcomes.map fun (item, outcome) =>
    (item, if outcome.isFixed then replacement else outcome)

/-- Gives up all fixes of a file. -/
def giveUp (entry : FilePlan) (outcomes : List (PlannedIssue × Outcome))
    (outcome : Outcome) (regression : Bool) (reason : String) : FileReport :=
  { report entry (replaceFixed outcome outcomes) false with
    regression, error := some reason }

/-- Skips a file that cannot be read. -/
def unreadable (entry : FilePlan) (fault : FileFault) : FileReport :=
  let reason := "unreadable: " ++ fault.message
  { report entry (entry.issues.map fun item =>
    (item, .skipped reason)) false with
      error := some reason }

/-- Writes a file's new content if the mode asks for it. -/
def commit (settings : Settings) (path : Path) (content : Text)
    (site : Site σ) :
    Except FileFault (Site σ) :=
  match settings.mode with
  | .dryRun => .ok site
  | .apply => (FileStore.replace site.place path content).map fun place =>
      { site with place }

/-- The whole cycle of one file. -/
def fixFile (checker : Checker) (settings : Settings) (entry : FilePlan)
    (site : Site σ) :
    FileReport × Site σ :=
  match FileStore.read site.place entry.file with
  | .error fault => (unreadable entry fault, site)
  | .ok before =>
    let (outcomes, buffer, site) :=
      fixIssues settings entry.issues (Buffer.ofText before) site
    let after := buffer.render
    if (outcomes.all fun (_, outcome) => !outcome.isFixed) || after ==
      before then
        (report entry outcomes false, site)
    else
      match checker.check before after entry.file (profileOf outcomes) with
      | some regression =>
        let reason := regression.message
        (giveUp entry outcomes (.rolledBack reason) true reason, site)
      | none =>
        match commit settings entry.file after site with
        | .error fault =>
          let reason := "write failed: " ++ fault.message
          (giveUp entry outcomes (.skipped reason) false reason, site)
        | .ok site => (report entry outcomes true, site)

/-- Goes through the files until the user cancels; tells whether any were
left. -/
def fixFiles (checker : Checker) (settings : Settings) :
    List FilePlan → Site σ → List FileReport × Bool × Site σ
  | [], site => ([], false, site)
  | entry :: entries, site =>
    if site.cancelled then ([], true, site)
    else
      let (done, site) := fixFile checker settings entry site
      let (reports, cancelled, site) := fixFiles checker settings entries site
      (done :: reports, cancelled, site)

def execute (checker : Checker) (settings : Settings) (plan : Plan)
    (site : Site σ) :
    RunSummary × Site σ :=
  let (files, cancelled, site) := fixFiles checker settings plan.entries site
  ({ files
     deferred := files.flatMap FileReport.deferrals
     warnings := (site.helper.map fun helper => helper.tracker.warnings).getD []
     cancelled
     dryRun := settings.mode = .dryRun }, site)

end Run

end LintMend
