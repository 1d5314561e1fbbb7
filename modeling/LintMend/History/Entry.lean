import LintMend.Budget.Usage

/-!
# Log entries

What is kept of every run: when it took place and for how long, where, how it
ended, and how many issues were found, fixed and left.
-/

namespace LintMend

inductive RunStatus
  | completed
  | cancelled
  /-- Stopped before any file was touched. -/
  | failed
  deriving DecidableEq, Repr

namespace RunStatus

def all : List RunStatus :=
  [completed, cancelled, failed]

def key : RunStatus → String
  | completed => "completed"
  | cancelled => "cancelled"
  | failed => "failed"

def ofKey? (key : String) : Option RunStatus :=
  all.find? (·.key = key)

end RunStatus

inductive RunMode
  /-- Report only. -/
  | analyze
  /-- Fix and check in memory only. -/
  | dryRun
  | apply
  deriving DecidableEq, Repr

namespace RunMode

def all : List RunMode :=
  [analyze, dryRun, apply]

def key : RunMode → String
  | analyze => "analyze"
  | dryRun => "dry_run"
  | apply => "apply"

def ofKey? (key : String) : Option RunMode :=
  all.find? (·.key = key)

def title : RunMode → String
  | analyze => "analyze"
  | dryRun => "dry-run"
  | apply => "apply"

end RunMode

structure LogEntry where
  time : Instant
  repository : String
  found : Nat
  fixed : Nat
  deferred : Nat
  /-- Files that were given up. -/
  rolledBack : Nat
  errors : List String
  /-- The length of the run in seconds. -/
  duration : Float
  status : RunStatus
  mode : RunMode
  deriving Repr

namespace LogEntry

def json (entry : LogEntry) : Json :=
  .object
    [("timestamp", .string entry.time.text),
     ("repository", .string entry.repository),
     ("issues_found", .ofNat entry.found), ("issues_fixed", .ofNat entry.fixed),
     ("issues_deferred", .ofNat entry.deferred),
     ("files_rolled_back", .ofNat entry.rolledBack),
     ("errors", .array (entry.errors.map .string)),
     ("duration_seconds", .float entry.duration),
     ("status", .string entry.status.key), ("mode", .string entry.mode.key)]

def blank : LogEntry :=
  { time := ⟨0, 0⟩, repository := "", found := 0, fixed := 0, deferred := 0,
    rolledBack := 0
    errors := [], duration := 0, status := .failed, mode := .analyze }

def field {α : Type} (name : String) (absence : Decoder.Absence)
    (decoder : Decoder α) (set : α → LogEntry → LogEntry) :
    Decoder.Field LogEntry :=
  { name, absence, read := fun data entry => (decoder data).map fun value =>
    set value entry }

/-- Unknown fields are passed over; the counts that came later and the errors
may be absent. -/
def decode : Decoder LogEntry :=
  Decoder.record .lenient
    [field "timestamp" .refused Usage.decodeInstant fun time entry =>
       { entry with time },
     field "repository" .refused Decoder.text fun repository entry =>
       { entry with repository },
     field "issues_found" .refused Decoder.count fun found entry =>
       { entry with found },
     field "issues_fixed" .refused Decoder.count fun fixed entry =>
       { entry with fixed },
     field "issues_deferred" .defaulted Decoder.count fun deferred entry =>
       { entry with deferred },
     field "files_rolled_back" .defaulted Decoder.count fun rolledBack entry =>
       { entry with rolledBack },
     field "errors" .defaulted (Decoder.list Decoder.text) fun errors entry =>
       { entry with errors },
     field "duration_seconds" .refused Decoder.real fun duration entry =>
       { entry with duration },
     field "status" .refused
       (Decoder.choice .lenient (RunStatus.all.map RunStatus.key)
         RunStatus.ofKey?)
       fun status entry => { entry with status },
     field "mode" .refused
       (Decoder.choice .lenient (RunMode.all.map RunMode.key) RunMode.ofKey?)
       fun mode entry => { entry with mode }]
    blank

end LogEntry

end LintMend
