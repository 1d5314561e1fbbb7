import LintMend.Rule.Table
import LintMend.Fix.Apply

/-!
# Explanations

What fixing a rule does, and why it is or is not safe to do so unattended.
-/

namespace LintMend

structure Explanation where
  title : String
  description : String
  why : String
  impact : String
  deriving DecidableEq, Repr

namespace Explanation

def known : List (String × Explanation) :=
  [("F401",
    { title := "Removed unused import"
      description := "Module imported but never used in code"
      why := "Code that is not referenced cannot affect behavior"
      impact := "Reduces clutter and import time" }),
   ("F541",
    { title := "Fixed useless f-string"
      description := "f-string without placeholders"
      why := "Replacing f\"text\" with \"text\" has identical behavior"
      impact := "Removes unnecessary formatting overhead" }),
   ("W291",
    { title := "Removed trailing whitespace"
      description := "Extra spaces at end of line"
      why := "Whitespace at the end of a line has no effect on code"
      impact := "Cleaner diffs" }),
   ("W293",
    { title := "Cleared whitespace-only line"
      description := "Blank line contains spaces or tabs"
      why := "Whitespace on an empty line has no effect on code"
      impact := "Cleaner diffs" }),
   ("W292",
    { title := "Added newline at end of file"
      description := "Files should end with a newline"
      why := "POSIX convention, no effect on behavior"
      impact := "Prevents warnings from many tools" }),
   ("W391",
    { title := "Removed blank lines at end of file"
      description := "File ends with extra blank lines"
      why := "Trailing blank lines have no effect on code"
      impact := "Consistent file endings" }),
   ("E702",
    { title := "Split statements onto separate lines"
      description := "Several statements joined with semicolons"
      why := "Each statement keeps its order and indentation"
      impact := "One statement per line is easier to read and debug" }),
   ("E703",
    { title := "Removed useless semicolon"
      description := "Statement ends with a semicolon"
      why := "A trailing semicolon is ignored by the interpreter"
      impact := "Idiomatic Python" }),
   ("E711",
    { title := "Fixed None comparison"
      description := "Should use `is None` instead of `== None`"
      why := "`is` checks identity; `==` can be overridden"
      impact := "More predictable comparisons, follows PEP 8" }),
   ("E712",
    { title := "Fixed True/False comparison"
      description := "Should use `is True`/`is False` instead of `==`"
      why := "Identity comparison against singletons cannot be overridden"
      impact := "Follows PEP 8" }),
   ("F841",
    { title := "Unused variable assignment"
      description := "Variable assigned but never used"
      why := "Might be intentional, the right-hand side may have side effects"
      impact := "Could indicate incomplete logic or a debugging leftover" }),
   ("E501",
    { title := "Line too long"
      description := "Line exceeds the character limit"
      why := "Requires manual refactoring decisions"
      impact := "Affects readability on narrow screens" }),
   ("C901",
    { title := "Function too complex"
      description := "Cyclomatic complexity above the configured limit"
      why := "Splitting a function changes structure and needs review"
      impact := "Complex functions are harder to test" }),
   ("no-trailing-spaces",
    { title := "Removed trailing spaces"
      description := "Extra spaces at end of line"
      why := "Whitespace at the end of a line has no effect on code"
      impact := "Cleaner diffs" }),
   ("eol-last",
    { title := "Added newline at end of file"
      description := "Files should end with a newline"
      why := "No effect on behavior"
      impact := "Consistent file endings" }),
   ("prefer-const",
    { title := "Declared with const"
      description := "`let` binding is never reassigned"
      why := "The linter proved the binding is never reassigned"
      impact := "Signals intent to readers" })]

/-- The explanation of a rule code exactly as it is given; a code nobody
explained gets a general text. -/
def ofRule (code : String) : Explanation :=
  (known.lookup code).getD
    { title := "Rule " ++ code
      description := "Code quality issue"
      why := "Unknown"
      impact := "See the analyzer documentation" }

end Explanation

namespace RuleTable

/-- The confidence of a code that no table knows. -/
def unknownConfidence : Float := 0.1

/-- The verdict on a rule code, whose blanks at both ends do not count. A code
that no table knows is only shown. -/
def classify (table : RuleTable) (code : String)
    (language : Language) : Classification :=
  let code := Text.trimmed code
  match table.lookup code language with
  | some { category := .safe, name, .. } => .safe (name ++ ": safe to auto-fix")
  | some { category := .risky, confidence, name } =>
    .risky confidence (name ++ ": needs human review")
  | some { category := .suggest, confidence, name } =>
    .suggest confidence (name ++ ": informational only")
  | none =>
    .suggest unknownConfidence
      (if code.isEmpty then "Empty rule code: never auto-fixed"
        else "Unknown rule " ++ code ++ ": never auto-fixed")

/-- The name of a rule code exactly as it is given. -/
def nameOf (table : RuleTable) (code : String) (language : Language) : String :=
  ((table.lookup code language).map RuleEntry.name).getD ("Rule " ++ code)

end RuleTable

/-- All that is known about one rule. -/
structure RuleReport where
  code : String
  language : Language
  name : String
  classification : Classification
  /-- Whether its findings are fixed without assistance. -/
  mechanical : Bool
  explanation : Explanation
  deriving Repr

def RuleTable.describe (table : RuleTable) (code : String)
    (language : Language) : RuleReport :=
  let code := Text.trimmed code
  let classification := table.classify code language
  { code
    language
    name := table.nameOf code language
    classification
    mechanical :=
      classification.isSafe &&
        (Strategy.ofRule code language).mechanicalFix?.isSome
    explanation := .ofRule code }

end LintMend
