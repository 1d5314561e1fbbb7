import LintMend.Path

/-!
# Source languages

The languages whose findings are read, and how a file or a name given by the
user tells its language.
-/

namespace LintMend

inductive Language
  | python
  | javaScript
  | typeScript
  deriving DecidableEq, Repr

namespace Language

def all : List Language :=
  [python, javaScript, typeScript]

/-- The name in files and reports. -/
def key : Language → String
  | python => "python"
  | javaScript => "javascript"
  | typeScript => "typescript"

/-- The name in running text. -/
def title : Language → String
  | python => "Python"
  | javaScript => "JavaScript"
  | typeScript => "TypeScript"

def ofKey? (key : String) : Option Language :=
  all.find? (·.key = key)

def extensions : Language → List String
  | python => ["py", "pyi"]
  | javaScript => ["js", "jsx", "mjs", "cjs"]
  | typeScript => ["ts", "tsx", "mts", "cts"]

/-- Extensions are compared exactly. -/
def ofExtension? (ending : String) : Option Language :=
  all.find? fun language => language.extensions.contains ending

def ofPath? (path : Path) : Option Language :=
  path.extension?.bind ofExtension?

/-- The names a user may give. -/
def aliases : Language → List String
  | python => ["python", "py"]
  | javaScript => ["javascript", "js"]
  | typeScript => ["typescript", "ts"]

/-- ASCII letters count the same in both cases. -/
def ofName? (given : String) : Option Language :=
  all.find? fun language => language.aliases.contains given.toLower

end Language

end LintMend
