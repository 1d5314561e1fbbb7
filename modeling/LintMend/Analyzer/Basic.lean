import LintMend.Failure
import LintMend.Issue

/-!
# Analyzers

An analyzer finds issues in the files of some languages. It takes part in a run
if the repository has files in one of them. Where an analyzer is missing that is
required the run fails; any other one is passed over with a warning.
-/

namespace LintMend

structure Analyzer where
  name : String
  languages : List Language
  available : Bool
  required : Bool
  /-- The issues in a repository. -/
  analyze : Path → Except Failure (List Issue)

/-- What a row of analyzers brings. -/
structure Analysis where
  issues : List Issue
  warnings : List String
  /-- The names of the analyzers that did run. -/
  ran : List String
  deriving Repr

namespace Analyzer

def isRelevant (analyzer : Analyzer) (present : List Language) : Bool :=
  analyzer.languages.any present.contains

def missingMessage (analyzer : Analyzer) : String :=
  analyzer.name ++ " is not installed"

def skipMessage (analyzer : Analyzer) : String :=
  analyzer.missingMessage ++ "; skipping "
    ++ "/".intercalate (analyzer.languages.map Language.title)

end Analyzer

namespace Analysis

def empty : Analysis :=
  { issues := [], warnings := [], ran := [] }

/-- Adds what one analyzer brings. -/
def add (repository : Path) (present : List Language) (analysis : Analysis)
    (analyzer : Analyzer) : Except Failure Analysis :=
  if !analyzer.isRelevant present then .ok analysis
  else if !analyzer.available then
    if analyzer.required then
      .error (.analyzer analyzer.name analyzer.missingMessage)
    else .ok { analysis with
      warnings := analysis.warnings ++ [analyzer.skipMessage] }
  else do
    let issues ← analyzer.analyze repository
    .ok
      { analysis with
        issues := analysis.issues ++ issues
        ran := analysis.ran ++ [analyzer.name] }

/-- Runs the analyzers for the languages that are present, one after another. -/
def ofAnalyzers (repository : Path) (present : List Language)
    (analyzers : List Analyzer) :
    Except Failure Analysis :=
  analyzers.foldlM (add repository present) empty

end Analysis

end LintMend
