import Mathlib
import LintMend.Proofs.Except
import LintMend.Proofs.Glob.Inheritance
import LintMend.Proofs.Plan.Entries
import LintMend.Proofs.Repository.Places
import LintMend.Proofs.Run.Cycle

/-!
# Skipped directories

The walk over a repository does not enter skipped directories. Findings do not
come from the walk, so they are dropped by a test of their own, which looks at
the path of the file and at each of its steps. Both leave out the same files but
for one kind of pattern: one that matches a directory as a whole path and does
not go on below. The test does not see such a directory in the path of a file
below.
-/

namespace LintMend

namespace SkipPatterns

/-- Some pattern matches the path as a whole and does not go on below. -/
def stopsAt (patterns : SkipPatterns) (path : Path) : Bool :=
  patterns.any fun glob => !glob.isInherited && glob.accepts path.text.toList

variable {patterns : SkipPatterns} {directory path : Path}

theorem stopsAt_iff : patterns.stopsAt path = true ↔
    ∃ glob ∈ patterns, glob.isInherited = false ∧
    glob.accepts path.text.toList = true := by
  simp [stopsAt]

end SkipPatterns

theorem SkipPatterns.stopsAt_of_isInherited {patterns : SkipPatterns}
    (inherited : patterns.all Glob.isInherited = true) (path : Path) :
    patterns.stopsAt path = false := by
  rw [Bool.eq_false_iff]
  intro stops
  obtain ⟨glob, member, ends, -⟩ := stopsAt_iff.mp stops
  rw [List.all_eq_true.mp inherited glob member] at ends
  cases ends

/-- No standard pattern stops at a directory. -/
theorem SkipPatterns.standard_never_stops :
    ∃ patterns, SkipPatterns.ofStrings PathsConfig.standard.skip =
      .ok patterns ∧
      ∀ path, patterns.stopsAt path = false := by
  have inherited :
      (SkipPatterns.ofStrings PathsConfig.standard.skip).toOption.any
      (List.all · Glob.isInherited) = true := by cbv
  cases read : SkipPatterns.ofStrings PathsConfig.standard.skip with
  | error fault =>
      rw [read] at inherited
      cases inherited
  | ok patterns =>
      rw [read] at inherited
      exact ⟨patterns, rfl, SkipPatterns.stopsAt_of_isInherited inherited⟩

namespace Repository

end Repository

namespace Workshop

/-- The plan for what a survey has found. -/
def planOf (shop : Workshop) (request : RunRequest) (survey : Survey) : Plan :=
  let table := RuleTable.withOverrides shop.config.rules.overrides
  shop.plan request.onlyRules table (Triage.ofIssues table survey.issues)

end Workshop

end LintMend
