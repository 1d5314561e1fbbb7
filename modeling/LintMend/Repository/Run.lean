import LintMend.Analyzer.Basic
import LintMend.Config.Basic
import LintMend.History.Log
import LintMend.Repository.Report

/-!
# Runs

A run on a repository from the analyzers to the log. First it is surveyed:
everything that can stop a run comes up here, before a file is touched. Then the
safe findings are fixed, as far as the mode allows it, and files with other
findings are reviewed. Every run leaves one entry in the log, also one that
fails.
-/

namespace LintMend

/-- What a user asks of a run. -/
structure RunRequest where
  repository : Path
  mode : RunMode
  /-- The only rules to fix; none means no restriction. -/
  onlyRules : List String
  deriving Repr

/-- What runs have at hand. -/
structure Workshop where
  config : Config
  analyzers : List Analyzer
  /-- The parser that judges fixed files. -/
  validate : Text → Path → Verdict
  /-- The log of the runs. -/
  log : Path
  /-- The time in the log. -/
  now : Instant
  /-- The clock by which calls are counted. -/
  clock : Clock := .still now
  /-- The length of a run in seconds. -/
  duration : Float
  /-- What the user ignores in all repositories. -/
  personal : IgnoreRules := []

/-- A place with a disk on it that can be surveyed. -/
class DiskPlace (σ : Type) where
  disk : σ → Disk

instance : DiskPlace UsageDisk where
  disk := UsageDisk.disk

/-- A place where runs leave their log. An entry that cannot be added leaves no
new place. -/
class LogStore (σ : Type) where
  append : Path → LogEntry → σ → Except LogFault σ

instance : LogStore UsageDisk where
  append path entry store :=
    (RunLog.append path entry store.disk).map fun disk => { store with disk }

/-- What is known of a repository before anything is fixed. -/
structure Survey where
  /-- The repository's absolute path. -/
  root : Path
  languages : LanguageCounts
  issues : List Issue
  warnings : List String
  deriving Repr

/-- How a mode treats the files; an analysis leaves them alone. -/
def RunMode.fixing? : RunMode → Option Mode
  | analyze => none
  | dryRun => some .dryRun
  | apply => some .apply

namespace Survey

/-- Whether a finding is in a skipped file. -/
def isSkipped (skip : SkipPatterns) (root : Path) (issue : Issue) : Bool :=
  skip.skips ((root.below? issue.file).getD issue.file)

/-- The place of a repository. -/
def locate (disk : Disk) (repository : Path) : Except Failure Place :=
  match disk.find? repository with
  | some (place, .directory _) => .ok place
  | _ => .error (.repository repository "not a directory")

def patterns (paths : PathsConfig) : Except Failure SkipPatterns :=
  (SkipPatterns.ofStrings paths.skip).mapError fun fault =>
    .configuration ("invalid skip pattern: " ++ fault.message) none

def ofRepository (paths : PathsConfig) (analyzers : List Analyzer)
    (personal : IgnoreRules) (disk : Disk) (repository : Path) :
    Except Failure Survey := do
  let root := Disk.pathOf (← locate disk repository)
  let skip ← patterns paths
  let languages :=
    Repository.countLanguages (← Repository.sources disk skip personal root)
  let analysis ← Analysis.ofAnalyzers root (languages.map Prod.fst) analyzers
  .ok
    { root
      languages
      issues := analysis.issues.filter fun issue => !isSkipped skip root issue
      warnings := analysis.warnings }

end Survey

namespace Workshop

def checker (shop : Workshop) : Checker :=
  { maxShrink := shop.config.fix.maxShrink, validate := shop.validate }

def settings (shop : Workshop) (mode : Mode) : Settings :=
  { mode
    keepPackageFiles := shop.config.rules.keepPackageFiles
    contextLines := shop.config.ai.contextLines
    now := shop.clock }

def plan (shop : Workshop) (onlyRules : List String) (table : RuleTable)
    (triage : Triage) :
    Plan :=
  Plan.ofTriage table shop.config.rules.filter
    { onlyRules, maxIssues := some shop.config.fix.maxIssues } triage

/-- Says that a cap has left findings for later. -/
def limitWarnings (shop : Workshop) (plan : PlanSummary) : List String :=
  if plan.overLimit = 0 then []
  else
    [s!"{plan.overLimit} SAFE issue(s) left for a later run "
      ++ s!"(max_issues_per_run = {shop.config.fix.maxIssues})"]

def addMissing (warnings more : List String) : List String :=
  more.foldl (fun all warning =>
    if all.contains warning then all else all ++ [warning]) warnings

section

variable {σ : Type} [FileStore σ] [UsageStore σ]

def execute (shop : Workshop) (mode : RunMode) (plan : Plan) (site : Site σ) :
    Option RunSummary × Site σ :=
  match mode.fixing? with
  | none => (none, site)
  | some mode =>
    let (summary, site) :=
      Run.execute shop.checker (shop.settings mode) plan site
    (some summary, site)

/-- A cancelled run is not reviewed. -/
def review (shop : Workshop) (cancelled : Bool) (queue : List ClassifiedIssue)
    (site : Site σ) : List FileReview × Site σ :=
  if cancelled then ([], site)
  else Review.run shop.clock shop.config.ai.reviewFiles queue site

/-- Fixes and reviews what a survey has found. The tracker is the one that
counts if there is no assistant to count for. -/
def carryOut (shop : Workshop) (request : RunRequest) (survey : Survey)
    (tracker : Tracker) (site : Site σ) : RunReport × Site σ :=
  let table := RuleTable.withOverrides shop.config.rules.overrides
  let triage := Triage.ofIssues table survey.issues
  let plan := shop.plan request.onlyRules table triage
  let (summary, site) := shop.execute request.mode plan site
  let cancelled := (summary.map RunSummary.cancelled).getD false
  let queue := triage.reviewQueue
  let (reviews, site) := shop.review cancelled queue site
  let tracker := (site.helper.map Helper.tracker).getD tracker
  let warnings :=
    survey.warnings ++ shop.limitWarnings plan.summary
      ++ (summary.map RunSummary.warnings).getD []
  ({ repository := survey.root
     mode := request.mode
     status := if cancelled then .cancelled else .completed
     languages := survey.languages
     found := survey.issues.length
     triage := .ofTriage triage
     queue
     plan := plan.summary
     summary
     reviews
     warnings := addMissing warnings tracker.warnings
     duration := shop.duration }, site)

end

/-- The log entry of a run that failed. -/
def failureEntry (shop : Workshop) (request : RunRequest)
    (fault : Failure) : LogEntry :=
  { LogEntry.blank with
    time := shop.now
    repository := request.repository.text
    errors := [s!"{fault.kind}: " ++ fault.message]
    duration := shop.duration
    status := .failed
    mode := request.mode }

/-- Adds an entry to the log, and says what went wrong. -/
def record {σ : Type} [LogStore σ] (shop : Workshop) (entry : LogEntry)
    (site : Site σ) :
    List String × Site σ :=
  match LogStore.append shop.log entry site.place with
  | .ok place => ([], { site with place })
  | .error fault => ([fault.message], site)

/-- The whole run at some place. -/
def runAt {σ : Type} [FileStore σ] [UsageStore σ] [DiskPlace σ] [LogStore σ]
    (shop : Workshop) (request : RunRequest) (assistant : Option Assistant)
    (cancelled : Bool) (place : σ) :
    Except Failure RunReport × Site σ :=
  let (tracker, place) := Tracker.start shop.config.usage place
  let site : Site σ :=
    { place, helper := assistant.map fun assistant =>
      { assistant, tracker }, cancelled }
  match
    Survey.ofRepository shop.config.paths shop.analyzers shop.personal
      (DiskPlace.disk place)
      request.repository
  with
  | .error fault =>
    let (_, site) := shop.record (shop.failureEntry request fault) site
    (.error fault, site)
  | .ok survey =>
    let (report, site) := shop.carryOut request survey tracker site
    let (warnings, site) := shop.record (report.logEntry shop.now) site
    (.ok { report with warnings := report.warnings ++ warnings }, site)

/-- The whole run on a disk. -/
def run (shop : Workshop) (request : RunRequest) (assistant : Option Assistant)
    (cancelled : Bool) (place : UsageDisk) :
    Except Failure RunReport × Site UsageDisk :=
  shop.runAt request assistant cancelled place

end Workshop

end LintMend
