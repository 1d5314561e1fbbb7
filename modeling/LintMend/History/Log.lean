import LintMend.Files.Disk
import LintMend.History.Entry
import LintMend.Text.Lines

/-!
# The run log

A file with one entry a line. Entries are only ever added at its end. Lines that
hold no entry are passed over and counted, but for blank ones; so the log
survives a line that was cut off.
-/

namespace LintMend

/-- The log cannot be written or read. -/
structure LogFault where
  path : Path
  cause : FileFault
  deriving Repr

def LogFault.message (fault : LogFault) : String :=
  s!"could not write run log {fault.path.text}: {fault.cause.message}"

namespace RunLog

def fileName : Path := ⟨"runs.jsonl"⟩

/-- The log in a state directory. -/
def pathIn (directory : Path) : Path :=
  directory.join fileName

def line (entry : LogEntry) : Text :=
  entry.json.compact.toList ++ ['\n']

/-- Adds an entry at the end; the directory is made on the way. -/
def append (path : Path) (entry : LogEntry) (disk : Disk) :
    Except LogFault Disk := do
  let made ← (disk.makeDirectories (disk.placeOf path).dropLast).mapError
      (LogFault.mk path)
  (made.append path (Utf8.encode (line entry))).mapError (LogFault.mk path)

/-- What a line holds. -/
def parsed? (line : Text) : Option LogEntry :=
  (JsonText.decode LogEntry.decode line).toOption

/-- The lines that are not blank. -/
def writtenLines (content : Text) : List Text :=
  (Text.lines content).filter fun line => !Text.blank line

/-- The entries of a content, and the count of lines that hold none. -/
def entries (content : Text) : List LogEntry × Nat :=
  let lines := writtenLines content
  (lines.filterMap parsed?, lines.countP fun line => (parsed? line).isNone)

/-- Reads the log; a missing file is an empty log. -/
def read (path : Path) (disk : Disk) : Except LogFault (List LogEntry × Nat) :=
  match disk.readText path with
  | .ok content => .ok (entries content)
  | .error .notFound => .ok ([], 0)
  | .error cause => .error ⟨path, cause⟩

end RunLog

end LintMend
