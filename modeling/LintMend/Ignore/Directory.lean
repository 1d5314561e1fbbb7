import LintMend.Files.Disk
import LintMend.Ignore.Rules

/-!
# Ignore files on a disk

Every directory may hold a `.ignore`, a `.gitignore` and the private exclusions
of a repository, which go before one another in this order. Within each kind
files of nearer directories go before those further out. The rules of a
repository end at its top: what directories further out have in their
`.gitignore` and their exclusions is about another repository. Last come the
rules of the user.
-/

namespace LintMend

/-- The kinds of rules that a directory may have. -/
inductive IgnoreSource
  /-- What tools other than git ignore too. -/
  | general
  /-- What everyone who works on a repository ignores. -/
  | shared
  /-- What only one copy of a repository ignores. -/
  | excluded
  deriving DecidableEq, Repr

namespace IgnoreSource

/-- The kind that goes first in front. -/
def all : List IgnoreSource :=
  [general, shared, excluded]

/-- Rules of a repository count up to its top. -/
def ofRepository : IgnoreSource → Bool
  | general => false
  | shared | excluded => true

end IgnoreSource

namespace IgnoreRules

/-- The rules of a file, none if there is no such file. -/
def ofFile (disk : Disk) (path : Path) : IgnoreRules :=
  match disk.readBytes path with
  | .ok content => ofContent content
  | .error _ => []

/-- The first line of a file, if the file has one and it is a text. -/
def firstLine? (disk : Disk) (path : Path) : Option Text := do
  let content ← (disk.readBytes path).toOption
  if content.isEmpty then none
  else
    let front := content.takeWhile (· ≠ 0x0A)
    let line ← Utf8.decode? front
    some
      (if front.length < content.length ∧ Text.endsWith line ['\r'] then
        line.dropLast
       else line)

/-- The directory in which the repository at a directory keeps what its working
trees share. A file in the place of that directory names the one of a single
working tree, and there a file `commondir` leads to what is shared. -/
def commonDirectory? (disk : Disk) (directory : Place) : Option Path :=
  let repository := directory ++ [".git"]
  match disk.node? repository with
  | some (.file _ _) => do
    let line ← firstLine? disk (Disk.pathOf repository)
    let treeOwn : Path := ⟨String.ofList (← Text.after? "gitdir: ".toList line)⟩
    let shared : Path :=
      ⟨String.ofList (← firstLine? disk (treeOwn.join ⟨"commondir"⟩))⟩
    some (if shared.text.startsWith "." then treeOwn.join shared else shared)
  | _ => some (Disk.pathOf repository)

/-- The file with the rules of one kind for a directory. -/
def file? (disk : Disk) (directory : Place) : IgnoreSource → Option Path
  | .general => some (Disk.pathOf (directory ++ [".ignore"]))
  | .shared => some (Disk.pathOf (directory ++ [".gitignore"]))
  | .excluded => (commonDirectory? disk directory).map fun common =>
      common.join ⟨"info/exclude"⟩

def ofDirectory (disk : Disk) (directory : Place)
    (source : IgnoreSource) : IgnoreRules :=
  ((file? disk directory source).map (ofFile disk)).getD []

/-- The directories above a place, the nearest first. -/
def above (place : Place) : List Place :=
  ((List.range place.length).map fun count => place.take count).reverse

/-- Whether a directory is the top of a repository. -/
def isRepository (disk : Disk) (directory : Place) : Bool :=
  [".git", ".jj"].any fun name => (disk.node? (directory ++ [name])).isSome

/-- The directories up to the first one that is a repository. -/
def upToRepository (disk : Disk) : List Place → List Place
  | [] => []
  | directory :: further =>
    if isRepository disk directory then [directory]
    else directory :: upToRepository disk further

/-- The bytes of the path from a directory to a place below. -/
def pathBelow (directory place : Place) : Bytes :=
  Utf8.encode ("/".intercalate (place.drop directory.length)).toList

/-- What the rules of one kind say of a place. -/
def verdictOf? (disk : Disk) (place : Place) (isDirectory : Bool)
    (source : IgnoreSource) :
    Option IgnoreVerdict :=
  let directories := above place
  let counting :=
    if source.ofRepository then upToRepository disk directories else directories
  counting.findSome? fun directory =>
    (ofDirectory disk directory source).verdict?
      (pathBelow directory place) isDirectory

/-- The bytes of a place's absolute path, without the path of the working
directory where that is in front. -/
def pathFrom (working place : Place) : Bytes :=
  let path := Utf8.encode (Disk.pathOf place).text.toList
  let front := Utf8.encode (Disk.pathOf working).text.toList
  if front.isPrefixOf path then
    let below := path.drop front.length
    if below.head? = some IgnorePattern.slash then below.drop 1 else below
  else path

/-- Whether the rules of directories and of a user say to ignore a place. -/
def ignores (disk : Disk) (personal : IgnoreRules) (place : Place)
    (isDirectory : Bool) : Bool :=
  let verdict := IgnoreSource.all.findSome? (verdictOf? disk place isDirectory)
  verdict.or (personal.verdict? (pathFrom disk.working place) isDirectory) =
    some .ignored

end IgnoreRules

end LintMend
