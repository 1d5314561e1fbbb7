import LintMend.Path

/-!
# Failures of a run

What stops a run. All of these come up before the first file is written, so a
run that fails has changed nothing; whatever goes wrong with a single file or
finding is part of a run's report instead.
-/

namespace LintMend

inductive Failure
  /-- The configuration cannot be used; the path is that of its file. -/
  | configuration (detail : String) (path : Option Path)
  | analyzer (name detail : String)
  | repository (path : Path) (detail : String)
  | io (detail : String)
  deriving Repr

namespace Failure

/-- The name of the failure in run logs. -/
def kind : Failure → String
  | configuration _ _ => "configuration"
  | analyzer _ _ => "analyzer_unavailable"
  | repository _ _ => "repository_unreadable"
  | io _ => "io"

def message : Failure → String
  | configuration detail _ => "Configuration error: " ++ detail
  | analyzer name detail => s!"Analyzer {name} unavailable: {detail}"
  | repository path detail => s!"Cannot read repository {path.text}: {detail}"
  | io detail => detail

end Failure

end LintMend
