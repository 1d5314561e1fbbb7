import LintMend.Decimal.Fixed
import LintMend.Path
import LintMend.Text.Lines

/-!
# Safety checks

Whether new content may take the place of a file's old content. Three checks are
made in order and the first that fails decides: the content still parses, not
too much of it is gone, and a pass of whitespace fixes has added no line.
-/

namespace LintMend

/-- What a parser says of a content. -/
inductive Verdict
  | valid
  | invalid (detail : String)
  /-- There is no parser for this kind of file. -/
  | unsupported
  deriving DecidableEq, Repr

/-- What kind of fixes made a new content. -/
inductive Profile
  | whitespaceOnly
  | general
  deriving DecidableEq, Repr

inductive Check
  | parseability
  | size
  | lineCount
  deriving DecidableEq, Repr

def Check.key : Check → String
  | parseability => "parseability"
  | size => "size"
  | lineCount => "line_count"

/-- Why a content is refused. -/
inductive Regression
  | unparseable (detail : String)
  | emptied
  | shrunk (ratio limit : Float)
  | grown (before after : Nat)
  deriving Repr

namespace Regression

def check : Regression → Check
  | unparseable _ => .parseability
  | emptied | shrunk _ _ => .size
  | grown _ _ => .lineCount

def percent (ratio : Float) : String :=
  Decimal.fixed 0 (ratio * 100) ++ "%"

def message : Regression → String
  | unparseable detail => "file no longer parses: " ++ detail
  | emptied => "file was emptied"
  | shrunk ratio limit =>
      s!"file shrank by {percent ratio} (limit {percent limit})"
  | grown before after =>
      s!"whitespace fix grew the file from {before} to {after} lines"

end Regression

structure Checker where
  /-- The largest part of a file that may be gone. -/
  maxShrink : Float
  validate : Text → Path → Verdict

namespace Checker

def checkParse (checker : Checker) (after : Text) (path : Path) :
    Option Regression :=
  match checker.validate after path with
  | .invalid detail => some (.unparseable detail)
  | .valid | .unsupported => none

/-- An empty file cannot shrink. -/
def checkSize (checker : Checker) (before after : Text) : Option Regression :=
  if before = [] then none
  else if Text.blank after && !Text.blank before then some .emptied
  else
    let length := Text.byteLength before
    let ratio :=
      Float.ofNat (length - Text.byteLength after) / Float.ofNat length
    if checker.maxShrink < ratio then
      some (.shrunk ratio checker.maxShrink)
    else none

def checkLines (before after : Text) : Profile → Option Regression
  | .general => none
  | .whitespaceOnly =>
    let old := (Text.lines before).length
    let new := (Text.lines after).length
    if old < new then some (.grown old new) else none

/-- What speaks against the new content. -/
def check (checker : Checker) (before after : Text) (path : Path)
    (profile : Profile) :
    Option Regression :=
  ((checker.checkParse after path).or (checker.checkSize before after)).or
    (checkLines before after profile)

end Checker

end LintMend
