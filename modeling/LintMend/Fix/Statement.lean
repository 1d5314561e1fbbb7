import LintMend.Fix.Basic

/-!
# Statements and semicolons

Several statements on one line are put on lines of their own, and semicolons
that end a statement for nothing are taken away.
-/

namespace LintMend.Fix

/-- The words that begin a compound statement. Its header and its body may share
a line, and splitting that line would move statements out of the body. -/
def compoundKeywords : List String :=
  ["if", "elif", "else", "for", "while", "with", "def", "class", "try",
   "except", "finally", "async", "match", "case"]

/-- The letters, digits and underscores the code begins with, behind its
indent. -/
def firstWord (code : Text) : Text :=
  (Text.trimStart code).takeWhile fun c => Text.isAlphanumeric c || c == '_'

def isCompoundHeader (code : Text) : Bool :=
  compoundKeywords.contains (String.ofList (firstWord code)) &&
    Scan.hasTopLevel ':' ['#'] code

/-- The statements of a line's code, each behind the indent. -/
def statements (indent code : Text) : List Text :=
  ((Scan.splitTopLevel ';' ['#'] code).map Text.trim).filterMap fun piece =>
    if piece = [] then none else some (indent ++ piece)

/-- Puts the comment behind the last of the lines. -/
def commentLast (comment : Text) : List Text → List Text
  | [] => []
  | [line] => [Scan.withComment line comment]
  | line :: lines => line :: commentLast comment lines

def splitLine (buffer : Buffer) (number : Nat) : Result := do
  let text ← lineOf buffer number
  let (code, comment) := Scan.splitComment ['#'] text
  if isCompoundHeader code then .error .compoundHeader
  else
    let lines := statements (Text.indent text) code
    if lines.length < 2 then .error .nothingToSplit
    else .ok (buffer.spliceLine number (commentLast comment lines))

def isSemicolon (c : Char) : Bool :=
  c == ';'

def dropFinalSemicolon (buffer : Buffer) (number : Nat) : Result := do
  let text ← lineOf buffer number
  let (code, comment) := Scan.splitComment ['#'] text
  let ended := Text.trimEnd code
  if Text.endsWith ended [';'] then
    let kept := Text.trimEnd (Text.dropEndWhile isSemicolon ended)
    .ok (buffer.setLine number (Scan.withComment kept comment))
  else .error .noFinalSemicolon

/-- A line that holds one semicolon is removed, repeated semicolons become one,
and the one behind a closing brace goes. -/
def dropExtraSemicolon (buffer : Buffer) (number : Nat) : Result := do
  let text ← lineOf buffer number
  let (code, comment) := Scan.splitComment ['/', '/'] text
  if Text.trim code = [';'] ∧ comment = [] then .ok (buffer.removeLine number)
  else
    let ended := Text.trimEnd code
    let behind := code.drop ended.length ++ comment
    if Text.endsWith ended [';', ';'] then
      .ok (buffer.setLine number
          (Text.dropEndWhile isSemicolon ended ++ [';'] ++ behind))
    else if Text.endsWith ended ['}', ';'] then
      .ok (buffer.setLine number (ended.dropLast ++ behind))
    else .error .noRedundantSemicolon

end LintMend.Fix
