import LintMend.Rule.Category

/-!
# The rule table

What is known about each rule code: its category, confidence and name. An entry
belongs to one language or to all of them, and the entry of the language goes
first. Overrides replace entries; one without a language replaces every entry of
its code.
-/

namespace LintMend

structure RuleEntry where
  category : Category
  confidence : Float
  name : String
  deriving Repr

structure RuleTable where
  /-- Entries of one language. -/
  exact : List ((Language × String) × RuleEntry)
  /-- Entries of every language. -/
  generic : List (String × RuleEntry)
  deriving Repr

namespace RuleTable

/-- Replaces the value of a key, or puts the key at the end. -/
def put {κ α : Type} [DecidableEq κ] (key : κ) (value : α) :
    List (κ × α) → List (κ × α)
  | [] => [(key, value)]
  | (other, found) :: rest =>
    if key = other then (key, value) :: rest
    else (other, found) :: put key value rest

def empty : RuleTable :=
  { exact := [], generic := [] }

def lookup (table : RuleTable) (code : String) (language : Language) :
    Option RuleEntry :=
  (table.exact.lookup (language, code)).or (table.generic.lookup code)

def size (table : RuleTable) : Nat :=
  table.exact.length + table.generic.length

/-- The entry an override makes. Without a name of its own it keeps the name
that its language knows the code by; an override for every language asks the
first language. -/
def overrideEntry (table : RuleTable) (rule : RuleOverride) : RuleEntry :=
  let known :=
    (table.lookup rule.code (rule.language.getD .python)).map RuleEntry.name
  { category := rule.category
    confidence :=
      match rule.category with
      | .safe => 1
      | .risky => rule.confidence.getD 0.5
      | .suggest => rule.confidence.getD 0
    name := (rule.name.or known).getD ("Rule " ++ rule.code) }

def override (table : RuleTable) (rule : RuleOverride) : RuleTable :=
  let entry := table.overrideEntry rule
  match rule.language with
  | some language =>
      { table with exact := put (language, rule.code) entry table.exact }
  | none =>
    { exact := table.exact.filter fun ((_, code), _) => code ≠ rule.code
      generic := put rule.code entry table.generic }

def safeRule (code name : String) : String × RuleEntry :=
  (code, { category := .safe, confidence := 1, name })

def riskyRule (code : String) (confidence : Float) (name : String) :
    String × RuleEntry :=
  (code, { category := .risky, confidence, name })

def suggestRule (code name : String) : String × RuleEntry :=
  (code, { category := .suggest, confidence := 0, name })

/-- The confidence of a risky rule says how often fixing it unattended turns out
fine. -/
def pythonRules : List (String × RuleEntry) :=
  [safeRule "F401" "Unused import",
   safeRule "F541" "f-string without placeholders",
   safeRule "W291" "Trailing whitespace",
   safeRule "W292" "No newline at end of file",
   safeRule "W293" "Blank line contains whitespace",
   safeRule "W391" "Blank line at end of file",
   safeRule "E701" "Multiple statements on one line (colon)",
   safeRule "E702" "Multiple statements on one line (semicolon)",
   safeRule "E703" "Statement ends with a useless semicolon",
   safeRule "E711" "Comparison to None",
   safeRule "E712" "Comparison to True/False",
   riskyRule "F841" 0.5 "Unused local variable",
   riskyRule "F811" 0.4 "Redefinition of unused name",
   riskyRule "E501" 0.3 "Line too long",
   riskyRule "E722" 0.3 "Bare except",
   riskyRule "C901" 0.2 "Function too complex",
   suggestRule "D100" "Missing docstring in public module",
   suggestRule "D101" "Missing docstring in public class",
   suggestRule "D102" "Missing docstring in public method",
   suggestRule "D103" "Missing docstring in public function",
   suggestRule "D104" "Missing docstring in public package",
   suggestRule "D105" "Missing docstring in magic method",
   suggestRule "D106" "Missing docstring in public nested class",
   suggestRule "D107" "Missing docstring in __init__"]

/-- Rules of every language. -/
def sharedRules : List (String × RuleEntry) :=
  [safeRule "no-trailing-spaces" "Trailing spaces",
   safeRule "eol-last" "Missing newline at end of file",
   safeRule "no-extra-semi" "Unnecessary semicolon",
   safeRule "prefer-const" "Variable never reassigned, use const",
   safeRule "no-multiple-empty-lines" "Multiple empty lines",
   riskyRule "no-unused-vars" 0.4 "Unused variable",
   riskyRule "no-var" 0.4 "var declaration",
   riskyRule "semi" 0.5 "Missing semicolon",
   riskyRule "eqeqeq" 0.3 "Loose equality",
   riskyRule "max-len" 0.3 "Line too long",
   riskyRule "complexity" 0.2 "Function too complex"]

/-- Where types change the verdict on a shared rule, or add rules of their
own. -/
def typeScriptRules : List (String × RuleEntry) :=
  [riskyRule "no-unused-vars" 0.2 "Unused variable (core rule, type-unaware)",
   riskyRule "@typescript-eslint/no-unused-vars" 0.4 "Unused variable",
   suggestRule "@typescript-eslint/no-explicit-any" "Explicit any type",
   suggestRule "no-undef" "Undefined name (checked by the compiler)"]

def ofLanguage (language : Language) (rules : List (String × RuleEntry)) :
    List ((Language × String) × RuleEntry) :=
  rules.map fun (code, entry) => ((language, code), entry)

def standard : RuleTable :=
  { exact := ofLanguage .python pythonRules ++
    ofLanguage .typeScript typeScriptRules
    generic := sharedRules }

/-- The standard table with overrides, the later ones on top. -/
def withOverrides (rules : List RuleOverride) : RuleTable :=
  rules.foldl override standard

end RuleTable

end LintMend
