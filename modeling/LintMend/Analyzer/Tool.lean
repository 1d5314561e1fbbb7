import LintMend.Analyzer.Basic
import LintMend.Analyzer.Diagnostics
import LintMend.Files.Disk

/-!
# Tools

Ruff and ESLint as analyzers. A tool is a program that is run in the repository
with fixed arguments; what it prints and how it ends decide what it has found.
-/

namespace LintMend

/-- How a program ended. -/
inductive ToolStatus
  | exited (code : Nat)
  | killed (signal : Nat)
  deriving DecidableEq, Repr

namespace ToolStatus

/-- The names of the signals, from the first on. -/
def signalNames : List String :=
  ["HUP", "INT", "QUIT", "ILL", "TRAP", "ABRT", "BUS", "FPE", "KILL", "USR1",
   "SEGV", "USR2", "PIPE", "ALRM", "TERM", "STKFLT", "CHLD", "CONT", "STOP",
   "TSTP", "TTIN", "TTOU", "URG", "XCPU", "XFSZ", "VTALRM", "PROF", "WINCH",
   "IO", "PWR", "SYS"]

def signalText (signal : Nat) : String :=
  match signal with
  | 0 => ""
  | index + 1 =>
    match signalNames[index]? with
    | some name => s!" (SIG{name})"
    | none => ""

def text : ToolStatus → String
  | exited code => s!"exit status: {code}"
  | killed signal => s!"signal: {signal}{signalText signal}"

def isSuccess (status : ToolStatus) : Bool :=
  status = exited 0

end ToolStatus

structure ToolOutput where
  out : Bytes
  err : Bytes
  status : ToolStatus
  deriving Repr

/-- A program with its arguments. -/
structure Invocation where
  program : Path
  arguments : List String
  deriving Repr

/-- The programs at hand. -/
structure Toolbox where
  /-- Looks up a name on the search path. -/
  lookup : String → Option Path
  /-- Runs a program, which has an absolute path, in a directory. -/
  run : Invocation → Path → Except FileFault ToolOutput

namespace Toolbox

/-- Programs in one directory whose output is known beforehand. No other file on
the disk is a program. -/
def ofOutputs (disk : Disk) (directory : Path)
    (outputs : List (String × ToolOutput)) :
    Toolbox :=
  { lookup := fun name =>
      if (outputs.lookup name).isSome then
        some (directory.join ⟨name⟩)
      else none
    run := fun invocation _ =>
      match outputs.find? fun entry =>
        invocation.program == directory.join ⟨entry.1⟩ with
      | some (_, output) => .ok output
      | none =>
          .error (if disk.exists? invocation.program then .notExecutable
              else .notFound) }

end Toolbox

namespace Analyzer

def outText (output : ToolOutput) : Text :=
  Utf8.decodeLossy output.out

/-- How a tool failed, with what it said. -/
def exitMessage (name : String) (output : ToolOutput) : String :=
  s!"{name} exited with {output.status.text}: "
    ++ String.ofList (Text.trim (Utf8.decodeLossy output.err))

/-- The failure of an analyzer. -/
def failed {α : Type} (name detail : String) : Except Failure α :=
  .error (.analyzer name detail)

/-- Runs the tool, if there is one, and reads what it prints. A program with a
relative path is looked for from the directory that it runs in. -/
def runTool (toolbox : Toolbox) (name absence : String)
    (invocation : Option Invocation)
    (read : Path → ToolOutput → Except String (List Issue))
    (repository : Path) :
    Except Failure (List Issue) :=
  match invocation with
  | none => failed name absence
  | some invocation =>
    let program := repository.join invocation.program
    match toolbox.run { invocation with program } repository with
    | .error fault => failed name (s!"failed to run {name}: " ++ fault.message)
    | .ok output =>
      match read repository output with
      | .ok issues => .ok issues
      | .error detail => failed name detail

def worded {α : Type} (name : String) : Except OutputFault α → Except String α
  | .ok value => .ok value
  | .error fault => .error (fault.message name)

/-! ## Ruff -/

def ruffName : String := "ruff"

def ruffInvocation (program : Path) : Invocation :=
  { program, arguments :=
    ["check", ".", "--output-format", "json", "--exit-zero"] }

/-- The tool is told to succeed whatever it finds. -/
def readRuff (repository : Path) (output : ToolOutput) :
    Except String (List Issue) :=
  if output.status.isSuccess then
    worded ruffName (ruffIssues repository (outText output))
  else .error (exitMessage ruffName output)

def ruff (toolbox : Toolbox) (program : Option Path) : Analyzer :=
  { name := ruffName
    languages := [.python]
    available := program.isSome
    required := true
    analyze :=
      runTool toolbox ruffName "`ruff` not found on PATH"
        (program.map ruffInvocation) readRuff }

/-! ## ESLint -/

def eslintName : String := "eslint"

def eslintArguments : List String :=
  [".", "--format", "json"]

/-- Where a repository keeps an ESLint of its own. -/
def localEslint (repository : Path) : Path :=
  repository.join ⟨"node_modules/.bin/eslint"⟩

/-- The repository's own ESLint goes before a global one, and both before the
package runner. -/
def eslintInvocation? (toolbox : Toolbox) (disk : Disk) (repository : Path) :
    Option Invocation :=
  let direct (program : Path) : Invocation :=
    { program, arguments := eslintArguments }
  if disk.isFile (localEslint repository) then
    some (direct (localEslint repository))
  else
    ((toolbox.lookup eslintName).map direct).or
      ((toolbox.lookup "npx").map fun program =>
        { program, arguments := eslintName :: eslintArguments })

/-- A status other than success only means findings, as long as something was
printed. -/
def readEslint (_ : Path) (output : ToolOutput) : Except String (List Issue) :=
  if Text.blank (outText output) && !output.status.isSuccess then
    .error (exitMessage eslintName output)
  else worded eslintName (eslintIssues (outText output))

def eslint (toolbox : Toolbox) (invocation : Option Invocation) : Analyzer :=
  { name := eslintName
    languages := [.javaScript, .typeScript]
    available := invocation.isSome
    required := false
    analyze :=
      runTool toolbox eslintName "neither `eslint` nor `npx` found on PATH"
        invocation readEslint }

/-- The analyzers for a repository. -/
def standard (toolbox : Toolbox) (disk : Disk)
    (repository : Path) : List Analyzer :=
  [ruff toolbox (toolbox.lookup ruffName),
   eslint toolbox (eslintInvocation? toolbox disk repository)]

end Analyzer

end LintMend
