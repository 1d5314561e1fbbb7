import LintMend.Config.Basic
import LintMend.Text.Quoted

/-!
# Valid configurations

What a configuration has to satisfy beyond its form. All problems are found at
once.
-/

namespace LintMend

inductive ConfigProblem
  | blankCode (field : String)
  | blankOverride (index : Nat)
  | confidenceRange (index : Nat) (value : Float)
  | doubtedSafe (index : Nat)
  | shrinkRange (value : Float)
  | noIssues
  | noTimeout
  | blankModel
  | noLimit
  | noWindow
  | badPattern (pattern : String) (fault : GlobFault)
  deriving Repr

namespace ConfigProblem

def overrideField (index : Nat) (name : String) : String :=
  "rules.overrides[" ++ toString index ++ "]." ++ name

def message : ConfigProblem → String
  | blankCode field => field ++ ": rule codes must not be empty"
  | blankOverride index => overrideField index "code" ++ ": must not be empty"
  | confidenceRange index value =>
    overrideField index "confidence"
      ++ ": out of range (expected: 0.0-1.0, got: "
      ++ Decimal.plain value ++ ")"
  | doubtedSafe index =>
    overrideField index "confidence"
      ++ ": SAFE rules are always fully trusted, "
      ++ "remove the confidence or use \"risky\""
  | shrinkRange value =>
    "fix.max_shrink_ratio: out of range (expected: (0.0, 1.0], got: "
      ++ Decimal.plain value
      ++ ")"
  | noIssues => "fix.max_issues_per_run: must be at least 1"
  | noTimeout => "ai.timeout_secs: must be at least 1"
  | blankModel => "ai.model: must not be empty when set"
  | noLimit => "usage.limit: must be at least 1"
  | noWindow => "usage.window_seconds: must be at least 1"
  | badPattern pattern fault =>
    "paths.skip: invalid pattern "
      ++ String.ofList (Text.quoted pattern.toList) ++ ": "
      ++ fault.message

end ConfigProblem

namespace Config

def isBlank (text : String) : Bool :=
  Text.blank text.toList

/-- A problem, where the condition holds. -/
def problemIf (condition : Bool) (problem : ConfigProblem) :
    List ConfigProblem :=
  if condition then [problem] else []

def overrideProblems (index : Nat) (rule : RuleOverride) : List ConfigProblem :=
  problemIf (isBlank rule.code) (.blankOverride index)
    ++ match rule.confidence with
      | none => []
      | some confidence =>
        problemIf (!(0 ≤ confidence && confidence ≤ 1))
          (.confidenceRange index confidence)
          ++ problemIf (rule.category = .safe && confidence < 1)
          (.doubtedSafe index)

def rulesProblems (rules : RulesConfig) : List ConfigProblem :=
  problemIf (rules.filter.enabled.any isBlank) (.blankCode "rules.enabled")
    ++ problemIf (rules.filter.disabled.any isBlank)
    (.blankCode "rules.disabled")
    ++ (rules.overrides.zipIdx.flatMap fun (rule, index) =>
      overrideProblems index rule)

def fixProblems (fix : FixConfig) : List ConfigProblem :=
  problemIf (!(0 < fix.maxShrink && fix.maxShrink ≤ 1))
    (.shrinkRange fix.maxShrink)
    ++ problemIf (fix.maxIssues = 0) .noIssues

def aiProblems (ai : AiConfig) : List ConfigProblem :=
  problemIf (ai.timeoutSeconds = 0) .noTimeout
    ++ problemIf (ai.model.any isBlank) .blankModel

def usageProblems (usage : UsageConfig) : List ConfigProblem :=
  problemIf (usage.limit = 0) .noLimit ++
    problemIf (usage.windowSeconds = 0) .noWindow

def pathsProblems (paths : PathsConfig) : List ConfigProblem :=
  paths.skip.filterMap fun pattern =>
    match SkipPatterns.pattern pattern with
    | .ok _ => none
    | .error fault => some (.badPattern pattern fault)

/-- Every problem, in the order of the tables. -/
def problems (config : Config) : List ConfigProblem :=
  rulesProblems config.rules ++ fixProblems config.fix ++ aiProblems config.ai
    ++ usageProblems config.usage ++ pathsProblems config.paths

end Config

end LintMend
