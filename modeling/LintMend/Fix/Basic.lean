import LintMend.Buffer
import LintMend.Scan
import LintMend.Text.Letter
import LintMend.Issue

/-!
# Mechanical fixes

The fixes that need no judgement. Each one edits a single line or the end of the
file, or refuses and says why; a refusal leaves no new buffer behind.
-/

namespace LintMend

inductive Fix
  | removeUnusedImport
  | plainStringLiteral
  | stripTrailingWhitespace
  | ensureFinalNewline
  | trimTrailingBlankLines
  | splitStatements
  | removeUselessSemicolon
  | noneIdentityComparison
  | boolIdentityComparison
  | preferConst
  | removeExtraSemicolon
  deriving DecidableEq, Repr

namespace Fix

def all : List Fix :=
  [removeUnusedImport, plainStringLiteral, stripTrailingWhitespace,
   ensureFinalNewline, trimTrailingBlankLines, splitStatements,
   removeUselessSemicolon, noneIdentityComparison, boolIdentityComparison,
   preferConst, removeExtraSemicolon]

def name : Fix → String
  | removeUnusedImport => "RemoveUnusedImport"
  | plainStringLiteral => "PlainStringLiteral"
  | stripTrailingWhitespace => "StripTrailingWhitespace"
  | ensureFinalNewline => "EnsureFinalNewline"
  | trimTrailingBlankLines => "TrimTrailingBlankLines"
  | splitStatements => "SplitStatements"
  | removeUselessSemicolon => "RemoveUselessSemicolon"
  | noneIdentityComparison => "NoneIdentityComparison"
  | boolIdentityComparison => "BoolIdentityComparison"
  | preferConst => "PreferConst"
  | removeExtraSemicolon => "RemoveExtraSemicolon"

def ofName? (name : String) : Option Fix :=
  all.find? (·.name = name)

/-- Fixes that take away whitespace and blank lines and nothing else. -/
def isWhitespaceOnly : Fix → Bool
  | stripTrailingWhitespace | ensureFinalNewline
  | trimTrailingBlankLines => true
  | _ => false

/-- Why a fix finds nothing it may change. -/
inductive Refusal
  | outOfRange (line : Nat)
  | noTrailingWhitespace
  | endsWithNewline
  | noBlankTail
  | publicImports
  | unnamedImport
  | importSpans
  | notAnImport
  | notImported (target : Text) (line : Nat)
  | noNoneComparison
  | noBoolComparison
  | noPlainLiteral
  | compoundHeader
  | nothingToSplit
  | noFinalSemicolon
  | notSingleLet
  | noRedundantSemicolon
  | sameLine
  deriving DecidableEq, Repr

def Refusal.message : Refusal → String
  | outOfRange line => s!"line {line} is out of range"
  | noTrailingWhitespace => "no trailing whitespace"
  | endsWithNewline => "file already ends with a newline"
  | noBlankTail => "no blank lines at end of file"
  | publicImports => "imports in __init__.py are kept as public API"
  | unnamedImport => "message does not name the unused import"
  | importSpans => "import spans several lines or statements"
  | notAnImport => "line is not an import statement"
  | notImported target line =>
      s!"`{String.ofList target}` not found on line {line}"
  | noNoneComparison => "no comparison to None on this line"
  | noBoolComparison => "no comparison to True/False on this line"
  | noPlainLiteral => "no placeholder-free f-string on this line"
  | compoundHeader => "statements share a compound header"
  | nothingToSplit => "nothing to split"
  | noFinalSemicolon => "line does not end with a semicolon"
  | notSingleLet => "not a single `let` declaration"
  | noRedundantSemicolon => "no redundant semicolon at end of line"
  | sameLine => "suggestion does not change the line"

/-- What a fix makes of a buffer. -/
abbrev Result := Except Refusal Buffer

/-- The text of a line that has to exist. -/
def lineOf (buffer : Buffer) (number : Nat) : Except Refusal Text :=
  match buffer.line? number with
  | some text => .ok text
  | none => .error (.outOfRange number)

/-- Changes the code of a line and keeps its comment; code that stays as it is
means there was nothing to fix. -/
def changeCode (change : Text → Text) (nothing : Refusal) (buffer : Buffer)
    (number : Nat) :
    Result := do
  let text ← lineOf buffer number
  let (code, comment) := Scan.splitComment ['#'] text
  let changed := change code
  if changed = code then .error nothing
  else .ok (buffer.setLine number (changed ++ comment))

end Fix

end LintMend
