import LintMend.Language

/-!
# Issues

One finding of an analyzer. An issue always has a rule code that is not blank
and a line number of at least one: `Issue.make?` is the only way to build one
from raw parts, and says which of the two is missing.
-/

namespace LintMend

structure Issue where
  file : Path
  line : Nat
  code : String
  message : String
  language : Language
  deriving Repr

/-- Why a finding is refused. -/
inductive IssueFault
  | emptyCode (file : Path)
  | lineZero (code : String) (file : Path)
  deriving Repr

def IssueFault.message : IssueFault → String
  | emptyCode file => s!"issue in {file.text} has an empty rule code"
  | lineZero code file => s!"issue {code} in {file.text} has line number 0"

namespace Issue

/-- A blank code is reported before a line number of zero. -/
def make? (file : Path) (line : Nat) (code message : String)
    (language : Language) :
    Except IssueFault Issue :=
  if Text.blank code.toList then .error (.emptyCode file)
  else if line = 0 then .error (.lineZero code file)
  else .ok { file, line, code, message, language }

/-- Two reports of one finding; the files are compared by their steps. -/
def same (left right : Issue) : Bool :=
  left.file == right.file && left.line == right.line && left.code == right.code
    && left.message == right.message && left.language == right.language

instance : BEq Issue := ⟨same⟩

end Issue

end LintMend
