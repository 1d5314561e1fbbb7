import LintMend.Command.Grammar
import LintMend.History.Entry
import LintMend.Path
import LintMend.Report.Format

/-!
# Arguments

The commands of the program with all that can be said about them on a command
line. The count of `-v` behind a command replaces the one in front of it.
-/

namespace LintMend

structure RunArguments where
  repository : Path
  mode : RunMode
  ai : Bool
  onlyRules : List String
  config : Option Path
  stateDirectory : Option Path
  format : ReportFormat
  deriving Repr

inductive Command
  /-- Report on a repository, and fix it if asked to. -/
  | run (arguments : RunArguments)
  /-- Write an example of a configuration. -/
  | init (force : Bool)
  /-- Show statistics of the runs so far. -/
  | stats (stateDirectory : Option Path) (format : ReportFormat)
  /-- Tell what is known of a rule. -/
  | explain (code language : String) (format : ReportFormat)
  deriving Repr

inductive CommandName
  | run
  | init
  | stats
  | explain
  deriving DecidableEq, Repr

structure CommandLine where
  /-- How much the user wants to be told, from 0 to 255. -/
  verbosity : Nat
  command : Command
  deriving Repr

namespace CommandName

def all : List CommandName :=
  [run, init, stats, explain]

def key : CommandName → String
  | run => "run"
  | init => "init"
  | stats => "stats"
  | explain => "explain"

def ofKey? (key : String) : Option CommandName :=
  all.find? (·.key = key)

end CommandName

namespace CommandLine

/-! ## The grammars -/

/-- The command that shows help on the others. -/
def helpName : String := "help"

def commandNames : List String :=
  CommandName.all.map CommandName.key ++ [helpName]

def anyText (_ : String) : Bool :=
  true

def isPath (value : String) : Bool :=
  value != ""

def isFormat (value : String) : Bool :=
  (ReportFormat.ofKey? value).isSome

def verbose : Flag :=
  { name := "verbose", short := some 'v', kind := .counter,
    environment := none }

def help : Flag :=
  { name := "help", short := some 'h', kind := .help, environment := none }

def version : Flag :=
  { name := "version", short := some 'V', kind := .version,
    environment := none }

def format : Flag :=
  { Flag.option "format" isFormat with short := some 'f' }

def stateDirectory : Flag :=
  { Flag.option "state-dir" isPath with
    environment := some "LINTPILOT_STATE_DIR" }

def rule : Flag :=
  { Flag.option "rule" anyText with kind := .option anyText true }

/-- The grammar in front of a command. -/
def grammar : Grammar :=
  { flags := [verbose, help, version], operand := none, exclusive := []
    commands := commandNames }

def withFlags (flags : List Flag) (operand : Option Slot) : Grammar :=
  { flags := flags ++ [verbose, help], operand, exclusive := [],
    commands := [] }

def operandOf (name : String) (accepts : String → Bool) : Slot :=
  { name, accepts, repeats := false }

def grammarOf : CommandName → Grammar
  | .run =>
    { withFlags
        [.switch "apply", .switch "dry-run", .switch "ai", rule,
          .option "config" isPath, format, stateDirectory]
        (some (operandOf "repo" isPath)) with
      exclusive := ["apply", "dry-run"] }
  | .init => withFlags [.switch "force"] none
  | .stats => withFlags [stateDirectory, format] none
  | .explain =>
    withFlags [.option "language" anyText,
      format] (some (operandOf "code" anyText))

/-! ## From what is given to a command -/

def path? (given : Given) (name : String) : Option Path :=
  (given.value? name).map Path.mk

def formatOf (given : Given) : ReportFormat :=
  ((given.value? "format").bind ReportFormat.ofKey?).getD .terminal

def modeOf (given : Given) : RunMode :=
  if given.has "apply" then .apply else if given.has "dry-run" then .dryRun
  else .analyze

def commandOf (given : Given) : CommandName → Command
  | .run =>
    .run
      { repository := ⟨(given.value? "repo").getD ""⟩
        mode := modeOf given
        ai := given.has "ai"
        onlyRules := given.values "rule"
        config := path? given "config"
        stateDirectory := path? given "state-dir"
        format := formatOf given }
  | .init => .init (given.has "force")
  | .stats => .stats (path? given "state-dir") (formatOf given)
  | .explain =>
    .explain ((given.value? "code").getD "")
      ((given.value? "language").getD "python")
      (formatOf given)

/-- Counting ends at the largest count. -/
def verbosityOf (given : Given) : Nat :=
  min (given.count verbose.name) 255

/-- What help on some words leads to: only a single command has one. -/
def helpOn : List String → UsageStop
  | [] => .help
  | [word] => if commandNames.contains word then .help else .unknownCommand
  | _ => .unknownCommand

/-- Reads a whole command line. -/
def parse (lookup : String → Option String) (words : List String) :
    Except UsageStop CommandLine := do
  let (front, found) ← grammar.readWords false words .empty
  match found with
  | none => throw (if front.isEmpty then .nothing else .missingCommand)
  | some (word, words) =>
    match CommandName.ofKey? word with
    | none => throw (helpOn words)
    | some name =>
      let given ← (grammarOf name).read lookup words
      return {
        verbosity :=
          verbosityOf (if given.has verbose.name then given else front)
        command := commandOf given name }

/-- Which messages of the program's own log are shown. -/
def logLevel (line : CommandLine) : String :=
  match line.verbosity with
  | 0 => "lintpilot=warn"
  | 1 => "lintpilot=info"
  | _ => "lintpilot=debug"

end CommandLine

end LintMend
