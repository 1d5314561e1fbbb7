import LintMend.Failure
import LintMend.Glob
import LintMend.Ignore.Directory
import LintMend.Language

/-!
# Source files

The files of a repository that are written in a known language. A file counts if
neither it nor one of the directories on the way to it is skipped or ignored, be
it by the ignore files on the disk or by the rules of the user.
-/

namespace LintMend

structure SourceFile where
  path : Path
  language : Language
  deriving Repr

/-- Files of each language, in the order of the languages; languages without
files are left out. -/
abbrev LanguageCounts := List (Language × Nat)

namespace Repository

def pathOf (place : Place) : Path :=
  ⟨"/".intercalate place⟩

/-- The ways to the steps of a place: each step with all in front of it. -/
def ways (place : Place) : List Place :=
  (List.range place.length).map fun index => place.take (index + 1)

/-- Whether a way below the root is left out. -/
def isExcluded (disk : Disk) (skip : SkipPatterns) (personal : IgnoreRules)
    (root way : Place) (isDirectory : Bool) : Bool :=
  skip.skips (pathOf way) || IgnoreRules.ignores disk personal
    (root ++ way) isDirectory

/-- Whether the walk from the root reaches a file. -/
def isReached (disk : Disk) (skip : SkipPatterns) (personal : IgnoreRules)
    (root below : Place) : Bool :=
  (ways below).all fun way =>
    !isExcluded disk skip personal root way (way.length < below.length)

/-- The files below a directory that are reached. -/
def sourcesBelow (disk : Disk) (skip : SkipPatterns) (personal : IgnoreRules)
    (path : Path) (root : Place) : List SourceFile :=
  (disk.tree root).filterMap fun (below, _) =>
    let file := path.join (pathOf below)
    match Language.ofPath? file with
    | some language =>
      if isReached disk skip personal root below then
        some { path := file, language }
      else none
    | none => none

/-- The source files below a path, in the order of their paths. A path that
names a file is that file alone. -/
def sources (disk : Disk) (skip : SkipPatterns) (personal : IgnoreRules)
    (path : Path) :
    Except Failure (List SourceFile) :=
  match disk.find path with
  | .error fault => .error (.repository path fault.message)
  | .ok (_, .file _ _) =>
    .ok ((Language.ofPath? path).map fun language => { path, language }).toList
  | .ok (root, .directory _) =>
    .ok ((sourcesBelow disk skip personal path root).mergeSort fun left right =>
      left.path.compare right.path != .gt)

def countLanguages (files : List SourceFile) : LanguageCounts :=
  Language.all.filterMap fun language =>
    let count := files.countP fun file => file.language = language
    if count = 0 then none else some (language, count)

end Repository

end LintMend
