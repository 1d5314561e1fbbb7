import LintMend.Ignore.Pattern
import LintMend.Text.Lines

/-!
# Ignore files

A file with patterns of paths to ignore, one on a line. A pattern without a
slash in front of its end applies at any depth below the file's directory. The
last pattern that fits decides.
-/

namespace LintMend

/-- One line of an ignore file. -/
structure IgnoreRule where
  pattern : IgnorePattern
  /-- The rule takes back what other rules ignore. -/
  keeps : Bool
  onlyDirectories : Bool
  deriving Repr

abbrev IgnoreRules := List IgnoreRule

/-- What rules say of a path. -/
inductive IgnoreVerdict
  | ignored
  | kept
  deriving DecidableEq, Repr

namespace IgnoreRule

/-- The line without blanks at its end, unless a backslash guards the last
one. -/
def trimmedLine (line : Text) : Text :=
  if Text.endsWith line ['\\', ' '] then line else Text.trimEnd line

/-- A pattern without a slash applies at any depth. -/
def anchored (isAbsolute : Bool) (text : Text) : Text :=
  let steps := ['*', '*', '/']
  if isAbsolute || Text.contains text ['/'] || text = ['*', '*'] then text
  else steps ++ text

/-- A pattern that ends in steps is about what is below, not about the directory
itself. -/
def belowOnly (text : Text) : Text :=
  if Text.endsWith text ['/', '*', '*'] then text ++ ['/', '*'] else text

/-- The text in front of a slash at the end, which may be escaped, and whether
there is one. -/
def cutFinalSlash (text : Text) : Text × Bool :=
  if text.getLast? = some '/' then
    let front := text.dropLast
    (if front.getLast? = some '\\' then front.dropLast else front, true)
  else (text, false)

/-- The marks in front of a pattern: whether it keeps, whether it starts at the
directory, and the pattern behind them. -/
def readMarks (line : Text) : Bool × Bool × Text :=
  match line with
  | '\\' :: '!' :: rest => (false, false, '!' :: rest)
  | '\\' :: '#' :: rest => (false, false, '#' :: rest)
  | '!' :: '/' :: rest => (true, true, rest)
  | '!' :: rest => (true, false, rest)
  | '/' :: rest => (false, true, rest)
  | _ => (false, false, line)

/-- The rule of a line; comments, blank lines and faulty patterns give none. -/
def ofLine? (line : Text) : Option IgnoreRule :=
  if Text.startsWith line ['#'] then none
  else
    match trimmedLine line with
    | [] => none
    | line => do
      let (keeps, isAbsolute, rest) := readMarks line
      let (text, onlyDirectories) := cutFinalSlash rest
      let pattern ← IgnorePattern.ofText? (belowOnly (anchored isAbsolute text))
      some { pattern, keeps, onlyDirectories }

def fits (rule : IgnoreRule) (path : Bytes) (isDirectory : Bool) : Bool :=
  (isDirectory || !rule.onlyDirectories) && rule.pattern.accepts path

def verdict (rule : IgnoreRule) : IgnoreVerdict :=
  if rule.keeps then .kept else .ignored

end IgnoreRule

namespace IgnoreRules

/-- The readable lines of a file; those from the first one on that is no text
are left out. -/
def readableLines (content : Bytes) : List Text :=
  let pieces := content.splitBy fun b _ => b ≠ 0x0A
  ((pieces.map Utf8.decode?).takeWhile Option.isSome).flatMap fun piece =>
    Text.lines (piece.getD [])

def withoutMark : List Text → List Text
  | [] => []
  | line :: lines => line.dropWhile (· == '\uFEFF') :: lines

/-- The rules of a file; a pattern that nests too deep takes away all of
them. -/
def ofContent (content : Bytes) : IgnoreRules :=
  let rules :=
    (withoutMark (readableLines content)).filterMap IgnoreRule.ofLine?
  if rules.all fun rule => rule.pattern.isShallow then rules else []

/-- What the rules say of a path below their directory. -/
def verdict? (rules : IgnoreRules) (path : Bytes) (isDirectory : Bool) :
    Option IgnoreVerdict :=
  (rules.reverse.find? fun rule =>
    rule.fits path isDirectory).map IgnoreRule.verdict

end IgnoreRules

end LintMend
