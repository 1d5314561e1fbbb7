import LintMend.Text.Basic

/-!
# Reading one line of code

Comments, literals and brackets of a single line, told apart by quotes alone: a
quote opens a literal, the same quote closes it, and a backslash inside hides
the next character. All readings below share the one step function of `Quoting`.
-/

namespace LintMend

/-- Where the reader stands: in code, or inside a literal and there perhaps
behind a backslash. -/
inductive Quoting
  | code
  | literal (quote : Char) (escaped : Bool)
  deriving DecidableEq, Repr

namespace Quoting

/-- The grave accent, which quotes template literals and names in messages. -/
def graveAccent : Char := '\x60'

def isQuote (c : Char) : Bool :=
  c == '"' || c == '\'' || c == graveAccent

def step : Quoting → Char → Quoting
  | code, c => if isQuote c then literal c false else code
  | literal quote true, _ => literal quote false
  | literal quote false, c =>
    if c = '\\' then literal quote true
    else if c = quote then code
    else literal quote false

end Quoting

namespace Scan

def splitCommentFrom (marker : Text) : Quoting → Text → Text × Text
  | _, [] => ([], [])
  | place, c :: rest =>
    if place = .code ∧ marker.isPrefixOf (c :: rest) then ([], c :: rest)
    else
      let (code, comment) := splitCommentFrom marker (place.step c) rest
      (c :: code, comment)

/-- The code of a line and its comment, which begins with the marker. A marker
inside a literal is part of the code. -/
def splitComment (marker line : Text) : Text × Text :=
  splitCommentFrom marker .code line

/-- A stretch of code: outside literals, or one literal with its quotes. -/
inductive Segment
  | code (text : Text)
  | literal (text : Text)
  deriving DecidableEq, Repr

def Segment.text : Segment → Text
  | code text => text
  | literal text => text

def Segment.cons (c : Char) : Segment → Segment
  | code text => code (c :: text)
  | literal text => literal (c :: text)

def consSegment (c : Char) : List Segment → List Segment
  | [] => []
  | segment :: segments => segment.cons c :: segments

def segmentsFrom : Quoting → Text → List Segment
  | .code, [] => [.code []]
  | .literal _ _, [] => [.literal []]
  | .code, c :: rest =>
    let behind := segmentsFrom (Quoting.step .code c) rest
    if Quoting.isQuote c then .code [] :: consSegment c behind
    else consSegment c behind
  | .literal quote escaped, c :: rest =>
    let place := Quoting.step (.literal quote escaped) c
    let behind := segmentsFrom place rest
    if place = .code then .literal [c] :: behind else consSegment c behind

/-- The stretches of a line in order. A run of code, maybe an empty one, stands
before each literal and at the end; a literal that is never closed runs to
the end. -/
def segments (line : Text) : List Segment :=
  segmentsFrom .code line

/-- Changes the code outside literals and copies the literals. -/
def mapUnquoted (change : Text → Text) (line : Text) : Text :=
  (segments line).flatMap fun
    | .code text => change text
    | .literal text => text

def opensBracket (c : Char) : Bool :=
  c == '(' || c == '[' || c == '{'

def closesBracket (c : Char) : Bool :=
  c == ')' || c == ']' || c == '}'

/-- The bracket depth behind a character of code; a bracket that closes nothing
is passed over. -/
def depthBehind (depth : Nat) (c : Char) : Nat :=
  if opensBracket c then depth + 1 else if closesBracket c then depth - 1
  else depth

def topLevelMarksFrom (target : Char) (marker : Text) :
    Quoting → Nat → Text → List Bool
  | _, _, [] => []
  | .literal quote escaped, depth, c :: rest =>
    false :: topLevelMarksFrom target marker
      (Quoting.step (.literal quote escaped) c) depth rest
  | .code, depth, c :: rest =>
    if marker.isPrefixOf (c :: rest) then List.replicate (rest.length + 1) false
    else
      let plain := !(Quoting.isQuote c || opensBracket c || closesBracket c)
      (plain && c == target && depth == 0) ::
        topLevelMarksFrom target marker (Quoting.step .code c)
        (depthBehind depth c) rest

/-- For each character of the line, whether it is the target outside literals
and brackets and before the comment. -/
def topLevelMarks (target : Char) (marker line : Text) : List Bool :=
  topLevelMarksFrom target marker .code 0 line

def hasTopLevel (target : Char) (marker line : Text) : Bool :=
  (topLevelMarks target marker line).any id

/-- Cuts a text at the marked characters, which are dropped. -/
def cutAtMarks : Text → List Bool → List Text
  | [], _ => [[]]
  | c :: rest, [] => (cutAtMarks rest []).modifyHead (c :: ·)
  | c :: rest, mark :: marks =>
    if mark then [] :: cutAtMarks rest marks
    else (cutAtMarks rest marks).modifyHead (c :: ·)

/-- The pieces between the separators that stand outside literals, brackets and
the comment. -/
def splitTopLevel (separator : Char) (marker line : Text) : List Text :=
  cutAtMarks line (topLevelMarks separator marker line)

/-- Puts a comment back behind changed code, two spaces away from it. -/
def withComment (code comment : Text) : Text :=
  if comment = [] then code
  else if Text.blank code then code ++ comment
  else Text.trimEnd code ++ [' ', ' '] ++ comment

end Scan

end LintMend
