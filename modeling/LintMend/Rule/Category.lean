import LintMend.Language

/-!
# Categories and verdicts

Every rule code falls into one of three categories: its findings may be fixed
unattended, need a reader, or are only shown. The confidence orders findings for
review and lies between zero and one; what is safe always has full confidence.
-/

namespace LintMend

inductive Category
  | safe
  | risky
  | suggest
  deriving DecidableEq, Repr

namespace Category

def all : List Category :=
  [safe, risky, suggest]

def key : Category → String
  | safe => "safe"
  | risky => "risky"
  | suggest => "suggest"

def title : Category → String
  | safe => "SAFE"
  | risky => "RISKY"
  | suggest => "SUGGEST"

def ofKey? (key : String) : Option Category :=
  all.find? (·.key = key)

end Category

/-- Brings a number into the range from zero to one and leaves one inside as it
is. -/
def clampUnit (x : Float) : Float :=
  if x < 0 then 0 else if 1 < x then 1 else x

/-- The verdict on one rule code. -/
structure Classification where
  category : Category
  confidence : Float
  reason : String
  deriving Repr

namespace Classification

def safe (reason : String) : Classification :=
  { category := .safe, confidence := 1, reason }

def risky (confidence : Float) (reason : String) : Classification :=
  { category := .risky, confidence := clampUnit confidence, reason }

def suggest (confidence : Float) (reason : String) : Classification :=
  { category := .suggest, confidence := clampUnit confidence, reason }

def isSafe (classification : Classification) : Bool :=
  classification.category = .safe

end Classification

/-- A verdict of the user on one rule code, for one language or for all of
them. -/
structure RuleOverride where
  code : String
  language : Option Language
  category : Category
  confidence : Option Float
  name : Option String
  deriving Repr

end LintMend
