import LintMend.Command.Arguments
import LintMend.Json.Value

/-!
# Command lines as JSON
-/

namespace LintMend

namespace UsageStop

/-- The name of the kind. -/
def key : UsageStop → String
  | help => "DisplayHelp"
  | version => "DisplayVersion"
  | nothing => "DisplayHelpOnMissingArgumentOrSubcommand"
  | missingCommand => "MissingSubcommand"
  | unknownCommand => "InvalidSubcommand"
  | unknownArgument => "UnknownArgument"
  | missingOperand => "MissingRequiredArgument"
  | unneededValue => "TooManyValues"
  | invalidValue => "InvalidValue"
  | conflict => "ArgumentConflict"

end UsageStop

namespace Command

def pathJson (path : Option Path) : Json :=
  .ofOption (fun path : Path => .string path.text) path

def json : Command → Json
  | run arguments =>
    .object
      [("command", .string "run"), ("repo", .string arguments.repository.text),
       ("apply", .bool (arguments.mode = .apply)),
       ("dry_run", .bool (arguments.mode = .dryRun)),
       ("ai", .bool arguments.ai),
       ("rules", .array (arguments.onlyRules.map .string)),
       ("config", pathJson arguments.config),
       ("format", .string arguments.format.key),
       ("state_dir", pathJson arguments.stateDirectory)]
  | init force => .object [("command", .string "init"), ("force", .bool force)]
  | stats stateDirectory format =>
    .object
      [("command", .string "stats"), ("state_dir", pathJson stateDirectory),
       ("format", .string format.key)]
  | explain code language format =>
    .object
      [("command", .string "explain"), ("code", .string code),
       ("language", .string language), ("format", .string format.key)]

end Command

namespace CommandLine

def json (line : CommandLine) : Json :=
  .object
    [("verbosity", .ofNat line.verbosity), ("log", .string line.logLevel),
     ("command", line.command.json)]

end CommandLine

end LintMend
