import LintMend.Text.Basic

/-!
# Lines of a text

A line ends in a line feed, or in a carriage return and a line feed; the end of
the text ends the last line only if something stands in front of it. A lone
carriage return belongs to its line.
-/

namespace LintMend

/-- What ends a line: nothing only for the last one. -/
inductive Ending
  | lf
  | crlf
  | none
  deriving DecidableEq, Repr

namespace Ending

def text : Ending → Text
  | lf => ['\n']
  | crlf => ['\r', '\n']
  | none => []

/-- The ending itself, or the other one where there is none. -/
def orElse (ending other : Ending) : Ending :=
  match ending with
  | none => other
  | found => found

end Ending

/-- One line of a file: its text and what ends it. -/
structure Line where
  text : Text
  ending : Ending
  deriving DecidableEq, Repr

namespace Line

def cons (c : Char) (line : Line) : Line :=
  { line with text := c :: line.text }

/-- The lines of a text; their texts and endings concatenate to it. -/
def ofText : Text → List Line
  | [] => []
  | '\n' :: rest => ⟨[], .lf⟩ :: ofText rest
  | '\r' :: '\n' :: rest => ⟨[], .crlf⟩ :: ofText rest
  | c :: rest =>
    match ofText rest with
    | [] => [⟨[c], .none⟩]
    | line :: lines => line.cons c :: lines

end Line

namespace Text

/-- The texts of the lines, without what ends them. A carriage return is part of
the last line's text when no line feed follows it. -/
def lines (text : Text) : List Text :=
  (Line.ofText text).map Line.text

end Text

end LintMend
