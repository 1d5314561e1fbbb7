import LintMend.Fix.Whitespace
import LintMend.Fix.Comparison
import LintMend.Fix.Literal
import LintMend.Fix.Statement
import LintMend.Fix.Declaration
import LintMend.Fix.Import

/-!
# Applying fixes

Each rule code resolves to a strategy: a mechanical fix, or assistance by a
model or a person. A mechanical fix is applied to the line its issue names, a
suggestion replaces that line.
-/

namespace LintMend

namespace Fix

/-- `keepPackageFiles` leaves the imports of package files alone. -/
def apply (keepPackageFiles : Bool) (issue : Issue)
    (buffer : Buffer) : Fix → Result
  | removeUnusedImport =>
    dropImport keepPackageFiles issue.file issue.message.toList buffer
      issue.line
  | plainStringLiteral => plainLine buffer issue.line
  | stripTrailingWhitespace => stripTrailing buffer issue.line
  | ensureFinalNewline => endLastLine buffer
  | trimTrailingBlankLines => trimTail buffer
  | splitStatements => splitLine buffer issue.line
  | removeUselessSemicolon => dropFinalSemicolon buffer issue.line
  | noneIdentityComparison => noneIdentity buffer issue.line
  | boolIdentityComparison => boolIdentity buffer issue.line
  | preferConst => letToConst buffer issue.line
  | removeExtraSemicolon => dropExtraSemicolon buffer issue.line

/-- Replaces one line by the lines of a suggestion; a blank suggestion deletes
it. -/
def applySuggestion (suggestion : Text) (buffer : Buffer)
    (number : Nat) : Result := do
  let current ← lineOf buffer number
  let replacement := if Text.blank suggestion then [] else Text.lines suggestion
  if replacement = [current] then .error .sameLine
  else .ok (buffer.spliceLine number replacement)

end Fix

/-- How the issues of a rule are fixed. -/
inductive Strategy
  | mechanical (fix : Fix)
  | assisted
  deriving DecidableEq, Repr

namespace Strategy

def mechanicalFix? : Strategy → Option Fix
  | mechanical fix => some fix
  | assisted => none

def pythonFixes : List (String × Fix) :=
  [("F401", .removeUnusedImport), ("F541", .plainStringLiteral),
   ("W291", .stripTrailingWhitespace), ("W293", .stripTrailingWhitespace),
   ("W292", .ensureFinalNewline), ("W391", .trimTrailingBlankLines),
   ("E702", .splitStatements), ("E703", .removeUselessSemicolon),
   ("E711", .noneIdentityComparison), ("E712", .boolIdentityComparison)]

def scriptFixes : List (String × Fix) :=
  [("no-trailing-spaces", .stripTrailingWhitespace),
   ("eol-last", .ensureFinalNewline), ("no-extra-semi", .removeExtraSemicolon),
   ("prefer-const", .preferConst)]

def fixes : Language → List (String × Fix)
  | .python => pythonFixes
  | .javaScript | .typeScript => scriptFixes

/-- The strategy for a rule code exactly as it is given. -/
def ofRule (code : String) (language : Language) : Strategy :=
  match (fixes language).lookup code with
  | some fix => mechanical fix
  | none => assisted

end Strategy

end LintMend
