import LintMend.Text.Lines

/-!
# Line buffers

A file's content as lines that can be edited by number, the first line being
line 1. Each line keeps its own ending, and whether the file ends in one is kept
apart, so that a buffer nobody edited is written back exactly. A number outside
the file changes nothing, and the edit says so.
-/

namespace LintMend

structure Buffer where
  lines : List Line
  /-- Whether the last line is ended when the buffer is written. -/
  endsLine : Bool
  /-- The ending of lines that came without one. -/
  fallback : Ending
  deriving DecidableEq, Repr

namespace Buffer

/-- What an edit of a line leaves, and whether there was such a line. -/
structure Edit where
  inRange : Bool
  buffer : Buffer
  deriving DecidableEq, Repr

/-- Where nobody asks for the line, an edit stands for the buffer that it
leaves. -/
instance : CoeOut Edit Buffer :=
  ⟨Edit.buffer⟩

def ofText (content : Text) : Buffer :=
  let lines := Line.ofText content
  { lines
    endsLine := content.getLast? = some '\n'
    fallback := ((lines.head?.map Line.ending).getD .lf).orElse .lf }

def endingOf (buffer : Buffer) (line : Line) : Ending :=
  line.ending.orElse buffer.fallback

/-- Writes lines; every one but the last is ended. -/
def renderLines (buffer : Buffer) : List Line → Text
  | [] => []
  | [line] =>
    line.text ++ if buffer.endsLine then (buffer.endingOf line).text else []
  | line :: rest =>
      line.text ++ (buffer.endingOf line).text ++ renderLines buffer rest

def render (buffer : Buffer) : Text :=
  renderLines buffer buffer.lines

def lineCount (buffer : Buffer) : Nat :=
  buffer.lines.length

/-- The place of a line number in the list of lines. -/
def index? (buffer : Buffer) (number : Nat) : Option Nat :=
  if number = 0 ∨ buffer.lineCount < number then none else some (number - 1)

def line? (buffer : Buffer) (number : Nat) : Option Text :=
  (buffer.index? number).bind fun index => buffer.lines[index]?.map Line.text

def setLine (buffer : Buffer) (number : Nat) (text : Text) : Edit :=
  match buffer.index? number with
  | none => ⟨false, buffer⟩
  | some index =>
    ⟨true, { buffer with
      lines := buffer.lines.modify index fun line => { line with text } }⟩

def removeLine (buffer : Buffer) (number : Nat) : Edit :=
  match buffer.index? number with
  | none => ⟨false, buffer⟩
  | some index => ⟨true, { buffer with lines := buffer.lines.eraseIdx index }⟩

/-- Replaces one line by any number of lines that all end the way it did. -/
def spliceLine (buffer : Buffer) (number : Nat) (texts : List Text) : Edit :=
  match buffer.index? number with
  | none => ⟨false, buffer⟩
  | some index =>
    match buffer.lines.drop index with
    | [] => ⟨false, buffer⟩
    | line :: rest =>
      ⟨true, { buffer with
        lines :=
          buffer.lines.take index ++ texts.map (fun text =>
            ⟨text, line.ending⟩) ++ rest }⟩

def setEndsLine (buffer : Buffer) (value : Bool) : Buffer :=
  { buffer with endsLine := value }

/-- The lines without the blank ones at the end. -/
def dropBlankTail : List Line → List Line
  | [] => []
  | line :: rest =>
    match dropBlankTail rest with
    | [] => if Text.blank line.text then [] else [line]
    | kept => line :: kept

def trimBlankTail (buffer : Buffer) : Buffer :=
  { buffer with lines := dropBlankTail buffer.lines }

/-- The lines from `radius` before the center to `radius` behind it, each behind
its number. -/
def excerpt (buffer : Buffer) (center radius : Nat) : Text :=
  let first := max (center - radius) 1
  let last := min (center + radius) buffer.lineCount
  let numbered := (List.range' first (last + 1 - first)).filterMap fun number =>
    (buffer.line? number).map fun text =>
      Text.padStart 5 (toString number).toList ++ " | ".toList ++ text
  ['\n'].intercalate numbered

end Buffer

end LintMend
