import LintMend.Assist.Provider
import LintMend.Budget.Tracker
import LintMend.Glob
import LintMend.Plan

/-!
# Configuration

What a user may set, and what holds where nothing is set.
-/

namespace LintMend

structure RulesConfig where
  filter : RuleFilter
  /-- Leave the imports of package files alone. -/
  keepPackageFiles : Bool
  overrides : List RuleOverride
  deriving Repr

structure FixConfig where
  maxIssues : Nat
  /-- The largest part of a file that one pass may delete. -/
  maxShrink : Float
  deriving Repr

structure PathsConfig where
  /-- Patterns of the paths to skip. -/
  skip : List String
  deriving DecidableEq, Repr

structure StateConfig where
  /-- The directory of the usage store and the run log. -/
  directory : Option Path
  deriving Repr

structure Config where
  rules : RulesConfig
  fix : FixConfig
  ai : AiConfig
  usage : UsageConfig
  paths : PathsConfig
  state : StateConfig
  deriving Repr

namespace RulesConfig

def standard : RulesConfig :=
  { filter := .everything, keepPackageFiles := true, overrides := [] }

end RulesConfig

namespace FixConfig

def standard : FixConfig :=
  { maxIssues := 1000, maxShrink := 0.5 }

end FixConfig

namespace UsageConfig

def standard : UsageConfig :=
  { limit := 10, windowSeconds := 3600 }

end UsageConfig

namespace PathsConfig

def standard : PathsConfig :=
  { skip := ["__pycache__", ".git", ".venv", "venv", ".tox", "node_modules",
    "dist", "build",
      "*.min.js"] }

end PathsConfig

namespace StateConfig

def standard : StateConfig :=
  { directory := none }

/-- The name of the state directory in a home directory. -/
def homeName : Path := ⟨".lintpilot"⟩

/-- The directory given on the command line, else the configured one, else one
in the home directory. -/
def resolve (config : StateConfig) (given home : Option Path) : Path :=
  ((given.or config.directory).or (home.map fun path =>
    path.join homeName)).getD homeName

end StateConfig

namespace Config

def standard : Config :=
  { rules := .standard, fix := .standard, ai := .standard, usage := .standard
    paths := .standard, state := .standard }

end Config

end LintMend
