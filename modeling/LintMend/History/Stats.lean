import LintMend.Arithmetic
import LintMend.History.Entry

/-!
# Statistics

Sums and averages over all runs of a log.
-/

namespace LintMend

open scoped Arithmetic

structure RunStats where
  runs : Nat
  found : Nat
  fixed : Nat
  errors : Nat
  deferred : Nat
  rolledBack : Nat
  /-- In seconds, to two places. -/
  averageDuration : Float
  /-- The percentage of runs that were completed, to one place. -/
  successRate : Float
  last : Option Instant
  deriving Repr

namespace RunStats

def empty : RunStats :=
  { runs := 0, found := 0, fixed := 0, errors := 0, deferred := 0,
    rolledBack := 0
    averageDuration := 0, successRate := 0, last := none }

/-- Rounds to a place, given as a power of ten; halves go away from zero. -/
def roundTo (factor value : Float) : Float :=
  (value * factor).round / factor

/-- A sum of counts, kept in 64 bits. -/
def sum (count : LogEntry → Nat) (entries : List LogEntry) : Nat :=
  (entries.map count).sum % wordLimit

def later (left right : Instant) : Instant :=
  if right.le left then left else right

/-- The latest of some instants. -/
def latest (instants : List Instant) : Option Instant :=
  instants.foldl (fun found instant =>
    some ((found.map (later · instant)).getD instant)) none

/-- Adding starts at minus zero, which changes no number. -/
def totalDuration (entries : List LogEntry) : Float :=
  entries.foldl (fun total entry => total + entry.duration) (-0.0)

def ofEntries (entries : List LogEntry) : RunStats :=
  if entries.isEmpty then empty
  else
    let runs := Float.ofNat entries.length
    let completed :=
      Float.ofNat (entries.countP fun entry => entry.status = .completed)
    { runs := entries.length
      found := sum LogEntry.found entries
      fixed := sum LogEntry.fixed entries
      errors := sum (fun entry => entry.errors.length) entries
      deferred := sum LogEntry.deferred entries
      rolledBack := sum LogEntry.rolledBack entries
      averageDuration := roundTo 100 (totalDuration entries / runs)
      successRate := roundTo 10 (completed / runs * 100)
      last := latest (entries.map LogEntry.time) }

def fields (stats : RunStats) : List (String × Json) :=
  [("total_runs", .ofNat stats.runs),
   ("total_issues_found", .ofNat stats.found),
   ("total_fixes_applied", .ofNat stats.fixed),
   ("total_errors", .ofNat stats.errors),
   ("total_deferred", .ofNat stats.deferred),
   ("files_rolled_back", .ofNat stats.rolledBack),
   ("average_duration_seconds", .float stats.averageDuration),
   ("success_rate", .float stats.successRate),
   ("last_run", .ofOption (fun instant : Instant =>
     .string instant.text) stats.last)]

def json (stats : RunStats) : Json :=
  .object stats.fields

end RunStats

end LintMend
