import LintMend.Path

/-!
# File stores

What the fixing of files needs to know of the place where the files are: reading
a text, and replacing one in a single step. A replacement that fails leaves no
new store, so it has changed nothing.
-/

namespace LintMend

/-- Why a file operation fails. -/
inductive FileFault
  | notFound
  | notADirectory
  | isADirectory
  | alreadyExists
  | busy
  | notExecutable
  | nameTooLong
  /-- The bytes are no text. -/
  | notText
  /-- The target ends in no file name. -/
  | noFileName
  | nulInName
  /-- No file of that name is kept in memory. -/
  | absent (path : Path)
  /-- The file in memory may not be written. -/
  | denied (path : Path)
  deriving Repr

namespace FileFault

/-- The kind of the failure. -/
def kind : FileFault → String
  | notFound | absent _ => "NotFound"
  | notADirectory => "NotADirectory"
  | isADirectory => "IsADirectory"
  | alreadyExists => "AlreadyExists"
  | busy => "ResourceBusy"
  | notExecutable => "PermissionDenied"
  | nameTooLong => "InvalidFilename"
  | notText => "InvalidData"
  | noFileName | nulInName => "InvalidInput"
  | denied _ => "PermissionDenied"

def message : FileFault → String
  | notFound => "No such file or directory (os error 2)"
  | notADirectory => "Not a directory (os error 20)"
  | isADirectory => "Is a directory (os error 21)"
  | alreadyExists => "File exists (os error 17)"
  | busy => "Device or resource busy (os error 16)"
  | notExecutable => "Permission denied (os error 13)"
  | nameTooLong => "File name too long (os error 36)"
  | notText => "stream did not contain valid UTF-8"
  | noFileName => "target has no file name"
  | nulInName => "file name contained an unexpected NUL byte"
  | absent path => path.text
  | denied path => path.text

end FileFault

class FileStore (σ : Type) where
  read : σ → Path → Except FileFault Text
  replace : σ → Path → Text → Except FileFault σ
  exists? : σ → Path → Bool

end LintMend
