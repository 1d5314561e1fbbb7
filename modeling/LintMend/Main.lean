import LintMend.Command.Program

/-!
# The executable

The files that a command names are read onto a disk, the command works on that
disk, and what it has changed there is written back. A run also needs the list
of all files of a repository and the analyzers, neither of which can be had
here; it is refused with a failure.
-/

namespace LintMend

namespace Program

/-- The environment variables that mean something. -/
def variableNames : List String :=
  ["HOME", "XDG_CONFIG_HOME", "GIT_CONFIG_GLOBAL", "LINTPILOT_STATE_DIR",
    "CLICOLOR_FORCE", "CLICOLOR", "NO_COLOR"]

/-- The files that a command works with. -/
def filesOf (home : Option Path) : Command → List Path
  | .run _ => []
  | .init _ => [ownConfig]
  | .stats stateDirectory _ =>
    [RunLog.pathIn (StateConfig.standard.resolve stateDirectory home)]
  | .explain .. => [ownConfig]

/-- What stands for the files of a repository that cannot be listed. -/
def unlisted (arguments : RunArguments) : Complaint :=
  .ofFailure (.repository arguments.repository "its files cannot be listed")

def conclude (around : Surroundings) (words : List String)
    (disk : Disk) : Conclusion :=
  match CommandLine.parse around.environment words with
  | .ok { command := .run arguments, .. } =>
    { status := 1, out := "", err := (unlisted arguments).text, disk }
  | _ => perform around words disk

end Program

namespace Executable

/-- What a file system holds under a path, if it can be read. -/
def read? (path : Path) : IO (Option Bytes) := do
  try return some (← IO.FS.readBinFile path.text).toList catch _ => return none

/-- Puts the contents of some files on a disk. -/
def load (disk : Disk) (paths : List Path) : IO Disk :=
  paths.foldlM (fun disk path => do
    match ← read? path with
    | some content =>
      let place := disk.placeOf path
      let made := (disk.makeDirectories place.dropLast).toOption.getD disk
      return made.set place (.file Disk.fileMode content)
    | none => return disk) disk

/-- Writes back what has changed. -/
def store (before after : Disk) (paths : List Path) : IO Unit :=
  paths.forM fun path => do
    match (before.readBytes path).toOption, (after.readBytes path).toOption with
    | old, some new =>
      if old ≠ some new then IO.FS.writeBinFile path.text ⟨new.toArray⟩
    | _, none => return ()

def environment : IO (String → Option String) := do
  let values ← Program.variableNames.mapM fun name =>
    do return (name, ← IO.getEnv name)
  return fun name => (values.lookup name).getD none

def surroundings : IO Surroundings := do
  return {
    environment := ← environment
    toolbox := fun disk => .ofOutputs disk ⟨""⟩ []
    connect := fun _ => none
    validate := fun _ _ => .valid
    now := .ofMillis 0
    duration := 0
    isTerminal := ← (← IO.getStdout).isTty }

/-- The disk without files, at the working directory. -/
def emptyDisk : IO Disk := do
  let working := Disk.empty.placeOf ⟨toString (← IO.currentDir)⟩
  let made := (Disk.empty.makeDirectories working).toOption.getD .empty
  return { made with working }

def run (words : List String) : IO UInt32 := do
  let around ← surroundings
  let paths :=
    match CommandLine.parse around.environment words with
    | .ok line => Program.filesOf around.home line.command
    | .error _ => []
  let disk ← load (← emptyDisk) paths
  let conclusion := Program.conclude around words disk
  store disk conclusion.disk paths
  IO.print conclusion.out
  IO.eprint conclusion.err
  return conclusion.status.toUInt32

end Executable

end LintMend

/-- Carries out a command line. -/
def main (words : List String) : IO UInt32 :=
  LintMend.Executable.run words
