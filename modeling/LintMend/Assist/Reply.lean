import LintMend.Text.Lines

/-!
# Replies of an assistant

What a model writes is cleaned before it is used: a fenced block gives its body,
a reply without fences gives its lines without blank ends, and the refusal
marker alone is a refusal.
-/

namespace LintMend

/-- Why a call to an assistant brings nothing. -/
inductive AssistFault
  | timeout
  | unauthorized (detail : String)
  | http (status : Nat) (body : String)
  | transport (detail : String)
  | malformed (detail : String)
  | refused
  | setup (detail : String)
  deriving DecidableEq, Repr

def AssistFault.message : AssistFault → String
  | timeout => "request timed out"
  | unauthorized detail => "authentication failed: " ++ detail
  | http status body => s!"provider returned HTTP {status}: {body}"
  | transport detail => "transport error: " ++ detail
  | malformed detail => "malformed response: " ++ detail
  | refused => "assistant declined to fix this line"
  | setup detail => "assistant could not be set up: " ++ detail

namespace Reply

/-- What the model is told to write when it cannot fix a line. -/
def refusalMarker : Text := "NO_FIX".toList

def fence : Text := ['\x60', '\x60', '\x60']

def isNewline (c : Char) : Bool :=
  c == '\n'

/-- The text behind the first line feed, nothing where there is none. -/
def afterFirstLine (text : Text) : Text :=
  (text.dropWhile fun c => !isNewline c).drop 1

/-- The text without the fence at its end, blanks behind the fence included; all
of the text where no fence ends it. -/
def withoutClosingFence (text : Text) : Text :=
  let ended := Text.trimEnd text
  if Text.endsWith ended fence then
    ended.take (ended.length - fence.length)
  else text

/-- The body of a block from behind its opening fence. The rest of the fence's
line names the language. -/
def fencedBody (text : Text) : Text :=
  Text.dropEndWhile isNewline (withoutClosingFence (afterFirstLine text))

/-- A reply without fences keeps the indentation of its first line. -/
def plainBody (raw : Text) : Text :=
  Text.trimEnd (Text.dropEndWhile isNewline (raw.dropWhile isNewline))

def body (raw : Text) : Text :=
  match Text.after? fence (Text.trim raw) with
  | some rest => fencedBody rest
  | none => plainBody raw

/-- The replacement for a line. -/
def cleanSuggestion (raw : Text) : Except AssistFault Text :=
  if Text.trim raw = refusalMarker then .error .refused
  else
    let body := body raw
    if Text.trim body = refusalMarker then .error .refused else .ok body

/-- A review is any text that is not blank. -/
def cleanReview (raw : Text) : Except AssistFault Text :=
  match Text.trim raw with
  | [] => .error (.malformed "empty review")
  | text => .ok text

end Reply

end LintMend
