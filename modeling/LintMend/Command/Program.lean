import LintMend.Analyzer.Tool
import LintMend.Command.Arguments
import LintMend.Config.Example
import LintMend.Config.Load
import LintMend.Ignore.Personal
import LintMend.Report.Document
import LintMend.Repository.Run

/-!
# The program

What the commands do: each one reads and changes the disk, and ends with a text
for the user or with a complaint. Only failures that stop a run are complaints;
a file that could not be fixed is part of the report.
-/

namespace LintMend

/-- What surrounds a command, apart from the disk. -/
structure Surroundings where
  environment : String → Option String
  /-- The programs that can be run while the disk is as given. -/
  toolbox : Disk → Toolbox
  /-- The assistant that speaks for a provider. -/
  connect : Provider → Option Assistant
  /-- The parser that judges fixed files. -/
  validate : Text → Path → Verdict
  now : Instant
  /-- The length of a run in seconds. -/
  duration : Float
  /-- Whether the text for the user goes to a terminal. -/
  isTerminal : Bool

/-- What a command leaves behind. -/
structure Conclusion where
  status : Nat
  out : String
  err : String
  disk : Disk
  deriving Repr

/-- Why a command fails. -/
structure Complaint where
  message : String
  cause : Option String
  deriving Repr

namespace Complaint

def ofFailure (fault : Failure) : Complaint :=
  { message := fault.message, cause := none }

def text (complaint : Complaint) : String :=
  s!"Error: {complaint.message}\n"
    ++ ((complaint.cause.map fun cause =>
      s!"\nCaused by:\n    {cause}\n").getD "")

end Complaint

namespace Surroundings

def home (around : Surroundings) : Option Path :=
  ((around.environment "HOME").filter (· ≠ "")).map Path.mk

def ink (around : Surroundings) : Ink :=
  .ofEnvironment around.environment around.isTerminal

def shown (around : Surroundings) (format : ReportFormat)
    (document : Document) : String :=
  document.text format around.ink

end Surroundings

namespace Program

def name : String := "lintpilot"

def versionText : String :=
  name ++ " 0.3.0\n"

/-- The file of the usage store in a state directory. -/
def usageFile (stateDirectory : Path) : Path :=
  stateDirectory.join ⟨"usage.json"⟩

/-! ## The commands -/

def withAi (arguments : RunArguments) (config : Config) : Config :=
  if arguments.ai then { config with ai := { config.ai with enabled := true } }
  else config

/-- The configuration comes first; a run without one leaves no trace. -/
def run (around : Surroundings) (arguments : RunArguments) (disk : Disk) :
    Except Complaint String × Disk :=
  match Config.load disk arguments.repository arguments.config with
  | .error fault => (.error (.ofFailure fault.failure), disk)
  | .ok config =>
    let config := withAi arguments config
    let state := config.state.resolve arguments.stateDirectory around.home
    let shop : Workshop :=
      { config
        analyzers :=
          Analyzer.standard (around.toolbox disk) disk arguments.repository
        validate := around.validate
        log := RunLog.pathIn state
        now := around.now
        duration := around.duration
        personal := .personal around.environment disk }
    let request : RunRequest :=
      { repository := arguments.repository, mode := arguments.mode
        onlyRules := arguments.onlyRules }
    let assistant := (config.ai.usable around.environment).bind around.connect
    let (outcome, site) :=
      shop.run request assistant false { disk, path := usageFile state }
    match outcome with
    | .error fault => (.error (.ofFailure fault), site.place.disk)
    | .ok report =>
        (.ok (around.shown arguments.format (.run report)), site.place.disk)

/-- The configuration of the working directory. -/
def ownConfig : Path :=
  Path.join ⟨"."⟩ ⟨Config.fileName⟩

def init (force : Bool) (disk : Disk) : Except Complaint String × Disk :=
  if disk.exists? ownConfig && !force then
    (.error
      { message :=
        "Configuration file already exists. Use --force to overwrite."
        cause := none }, disk)
  else
    match disk.write ownConfig (Utf8.encode Config.exampleText.toList) with
    | .error fault =>
      (.error
        { message := "failed to write " ++ ownConfig.text,
          cause := some fault.message }, disk)
    | .ok disk => (.ok s!"Created {Config.fileName} configuration file\n", disk)

def stats (around : Surroundings) (stateDirectory : Option Path)
    (format : ReportFormat) (disk : Disk) : Except Complaint String :=
  let state := StateConfig.standard.resolve stateDirectory around.home
  match RunLog.read (RunLog.pathIn state) disk with
  | .error fault =>
      .error { message := fault.message, cause := some fault.cause.message }
  | .ok (entries, unreadable) =>
    .ok (around.shown format (.stats (.ofEntries entries) unreadable))

/-- The overrides of the working directory's configuration hold. -/
def explain (around : Surroundings) (code language : String)
    (format : ReportFormat) (disk : Disk) : Except Complaint String :=
  match Language.ofName? language with
  | none =>
    .error
      { message :=
          s!"Unknown language '{language}' "
            ++ "(expected python, javascript or typescript)"
        cause := none }
  | some language =>
    match Config.load disk ⟨"."⟩ none with
    | .error fault => .error (.ofFailure fault.failure)
    | .ok config =>
      let table := RuleTable.withOverrides config.rules.overrides
      .ok (around.shown format (.rule (table.describe code language)))

def carryOut (around : Surroundings) (command : Command) (disk : Disk) :
    Except Complaint String × Disk :=
  match command with
  | .run arguments => run around arguments disk
  | .init force => init force disk
  | .stats stateDirectory format =>
      (stats around stateDirectory format disk, disk)
  | .explain code language format =>
      (explain around code language format disk, disk)

/-! ## Command lines -/

def helpText : String :=
  "Apply safe lint fixes and report the rest\n\n"
    ++ s!"Usage: {name} [-v]... <command>\n\nCommands:\n"
    ++ "  run <repo>      report on a repository; fix it with --apply\n"
    ++ "  init            write an example .lintpilot.toml\n"
    ++ "  stats           show statistics of the runs so far\n"
    ++ "  explain <code>  tell what is known of a rule\n"

def complaintOf : UsageStop → String
  | .help | .nothing => helpText
  | .version => versionText
  | .missingCommand => "error: a command is missing\n"
  | .unknownCommand => "error: there is no such command\n"
  | .unknownArgument => "error: an argument is not known\n"
  | .missingOperand => "error: an argument is missing\n"
  | .unneededValue => "error: a flag takes no value\n"
  | .invalidValue => "error: a value is missing or not accepted\n"
  | .conflict => "error: flags exclude each other\n"

/-- Where no command is carried out: asking for help or for the version is no
mistake. -/
def stopped (stop : UsageStop) (disk : Disk) : Conclusion :=
  match stop with
  | .help | .version =>
      { status := 0, out := complaintOf stop, err := "", disk }
  | _ => { status := 2, out := "", err := complaintOf stop, disk }

/-- Carries out a command line. -/
def perform (around : Surroundings) (words : List String)
    (disk : Disk) : Conclusion :=
  match CommandLine.parse around.environment words with
  | .error stop => stopped stop disk
  | .ok line =>
    match carryOut around line.command disk with
    | (.ok out, disk) => { status := 0, out, err := "", disk }
    | (.error complaint, disk) =>
        { status := 1, out := "", err := complaint.text, disk }

end Program

end LintMend
