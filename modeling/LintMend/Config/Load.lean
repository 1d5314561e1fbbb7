import LintMend.Config.Decode
import LintMend.Config.Validate
import LintMend.Failure
import LintMend.Files.Disk
import LintMend.Toml.Reader

/-!
# Loading a configuration

The configuration of a repository is the file that the user names, else the one
that lies in the repository, else the defaults. A file that cannot be used is a
failure; there is no falling back to the defaults.
-/

namespace LintMend

/-- Why a text is no usable configuration. -/
inductive ConfigFault
  | unreadable (cause : DecodeFault)
  | invalid (problems : List ConfigProblem)
  deriving Repr

namespace Config

def fileName : String := ".lintpilot.toml"

/-- TOML may write more into a list than the record that it stands for has
fields. -/
def tomlManner : Decoder.Manner :=
  { closed := true, spare := true }

def ofText (text : Text) : Except ConfigFault Config :=
  match Toml.decode (decode tomlManner) text with
  | .error cause => .error (.unreadable cause)
  | .ok config =>
    match config.problems with
    | [] => .ok config
    | problems => .error (.invalid problems)

end Config

namespace ConfigFault

/-- What is said of a text whose fault concerns no name. -/
def foreignContent : String := "not a configuration"

def message : ConfigFault → String
  | unreadable cause =>
    s!"Failed to parse {Config.fileName}: {cause.message?.getD foreignContent}"
  | invalid problems => "; ".intercalate (problems.map ConfigProblem.message)

end ConfigFault

namespace Config

/-- Why no configuration could be loaded; the path is that of the file. -/
inductive LoadFault
  | missing (path : Path)
  | unreadable (path : Path) (cause : FileFault)
  | faulty (path : Path) (cause : ConfigFault)
  deriving Repr

namespace LoadFault

def path : LoadFault → Path
  | missing path | unreadable path _ | faulty path _ => path

def detail : LoadFault → String
  | missing path => "config file not found: " ++ path.text
  | unreadable _ cause => "failed to read config file: " ++ cause.message
  | faulty _ cause => cause.message

def failure (fault : LoadFault) : Failure :=
  .configuration fault.detail (some fault.path)

end LoadFault

/-- The file to read, if there is one. -/
def locate (disk : Disk) (repository : Path) (named : Option Path) :
    Except LoadFault (Option Path) :=
  match named with
  | some path =>
      if disk.isFile path then .ok (some path) else .error (.missing path)
  | none =>
    let path := repository.join ⟨fileName⟩
    .ok (if disk.isFile path then some path else none)

def load (disk : Disk) (repository : Path) (named : Option Path) :
    Except LoadFault Config := do
  match ← locate disk repository named with
  | none => return standard
  | some path =>
    match disk.readText path with
    | .error cause => throw (.unreadable path cause)
    | .ok text =>
      match ofText text with
      | .error cause => throw (.faulty path cause)
      | .ok config => return config

end Config

end LintMend
