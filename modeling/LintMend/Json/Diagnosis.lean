import LintMend.Json.Reader
import LintMend.Text.Quoted
import LintMend.Text.Utf8

/-!
# Diagnoses of JSON

What is wrong with a text that should hold values of a certain shape, and where.
A reader stops at the first fault. It stands either at the byte that it has read
last or, if it has only looked ahead, at the one behind; lines count from one,
and so do the columns of bytes.
-/

namespace LintMend

/-- The shapes of values that a reader expects. -/
inductive JsonShape
  | any
  | map (values : JsonShape)
  | list (items : JsonShape)
  /-- Strings, what they are called, and what is wrong with one. -/
  | text (called : String) (problem : Text → Option String)

/-- What a reader finds wrong. -/
inductive JsonFaultKind
  | endInList
  | endInObject
  | endInString
  | endInValue
  | noColon
  | noListEnd
  | noObjectEnd
  | noWord
  | noValue
  | badEscape
  | badNumber
  | hugeNumber
  | controlCharacter
  | keyNoString
  | halfSurrogate
  | shortEscape
  | trailingComma
  | trailingText
  /-- A value of another shape. -/
  | otherShape (found expected : String)
  /-- A string that is not accepted. -/
  | refused (reason : String)
  deriving DecidableEq, Repr

structure JsonFault where
  kind : JsonFaultKind
  /-- The bytes behind the place of the fault. -/
  behind : Nat
  deriving DecidableEq, Repr

namespace JsonShape

/-- What a value of the shape is called. -/
def title : JsonShape → String
  | any => "any value"
  | map _ => "a map"
  | list _ => "a sequence"
  | text called _ => called

end JsonShape

namespace JsonFaultKind

def message : JsonFaultKind → String
  | endInList => "EOF while parsing a list"
  | endInObject => "EOF while parsing an object"
  | endInString => "EOF while parsing a string"
  | endInValue => "EOF while parsing a value"
  | noColon => "expected \x60:\x60"
  | noListEnd => "expected \x60,\x60 or \x60]\x60"
  | noObjectEnd => "expected \x60,\x60 or \x60\x7d\x60"
  | noWord => "expected ident"
  | noValue => "expected value"
  | badEscape => "invalid escape"
  | badNumber => "invalid number"
  | hugeNumber => "number out of range"
  | controlCharacter =>
      "control character (\\u0000-\\u001F) found while parsing a string"
  | keyNoString => "key must be a string"
  | halfSurrogate => "lone leading surrogate in hex escape"
  | shortEscape => "unexpected end of hex escape"
  | trailingComma => "trailing comma"
  | trailingText => "trailing characters"
  | otherShape found expected => s!"invalid type: {found}, expected {expected}"
  | refused reason => reason

end JsonFaultKind

namespace JsonText

/-- A check of the start of a text; it gives the text behind. -/
abbrev Checked := Except JsonFault Text

def size (text : Text) : Nat :=
  (Utf8.encode text).length

/-- A fault in front of a text. -/
def stop {α : Type} (kind : JsonFaultKind) (behind : Text) :
    Except JsonFault α :=
  .error ⟨kind, size behind⟩

/-- A fault found by looking at the first byte of a text. -/
def stopAhead {α : Type} (kind : JsonFaultKind) (text : Text) :
    Except JsonFault α :=
  .error ⟨kind, size text - 1⟩

/-! ## Strings -/

/-- Reads the four digits of an escape. -/
def checkUnit (text : Text) : Except JsonFault (Nat × Text) :=
  match text with
  | a :: b :: c :: d :: rest =>
    match hexUnit? a b c d with
    | some unit => .ok (unit, rest)
    | none => .error ⟨.badEscape, size text - 4⟩
  | _ =>
      if size text < 4 then stop .endInString []
      else .error ⟨.badEscape, size text - 4⟩

/-- Reads the second half of a surrogate pair. -/
def checkSecondHalf (text : Text) : Checked :=
  match text with
  | [] => stop .endInString []
  | '\\' :: rest =>
    match rest with
    | [] => stop .endInString []
    | 'u' :: rest => do
      let (unit, behind) ← checkUnit rest
      if 0xDC00 ≤ unit ∧ unit < 0xE000 then return behind
      else stop .halfSurrogate behind
    | _ => stopAhead .shortEscape rest
  | _ => stopAhead .shortEscape text

/-- Reads an escape behind its backslash. -/
def checkEscape (text : Text) : Checked :=
  match text with
  | [] => stop .endInString []
  | 'u' :: rest => do
    let (unit, behind) ← checkUnit rest
    if 0xDC00 ≤ unit ∧ unit < 0xE000 then stop .halfSurrogate behind
    else if 0xD800 ≤ unit ∧ unit < 0xDC00 then checkSecondHalf behind
    else return behind
  | c :: rest =>
    if (simpleEscape? c).isSome then .ok rest else stopAhead .badEscape text

/-- Reads the inside of a string up to its quote. Every step takes up a
character. -/
def checkString : Nat → Text → Checked
  | 0, text => stop .endInString text
  | fuel + 1, text =>
    match text with
    | [] => stop .endInString []
    | '"' :: rest => .ok rest
    | '\\' :: rest => (checkEscape rest).bind (checkString fuel)
    | c :: rest =>
        if c.toNat < 32 then stop .controlCharacter rest
        else checkString fuel rest

/-- Reads a string behind its first quote: its value and the text behind. -/
def checkedString (text : Text) : Except JsonFault (Text × Text) := do
  let behind ← checkString (text.length + 1) text
  match readString text with
  | some (some value, _) => return (value, behind)
  | _ => return ([], behind)

/-! ## Words and numbers -/

def checkWord : Text → Text → Checked
  | [], text => .ok text
  | _ :: _, [] => stop .endInValue []
  | expected :: more, c :: rest =>
    if c = expected then checkWord more rest else stopAhead .noWord (c :: rest)

/-- Reads the exponent of a number behind its mark. -/
def checkExponent (text : Text) : Checked :=
  let unsigned :=
    match text with
    | '+' :: rest => rest
    | '-' :: rest => rest
    | _ => text
  match unsigned with
  | [] => stop .endInValue []
  | c :: _ =>
    if c.isDigit then .ok (takeDigits unsigned).2
    else stopAhead .badNumber unsigned

/-- Reads what may follow the digits of a number. -/
def checkEnding (text : Text) : Checked :=
  match text with
  | 'e' :: rest => checkExponent rest
  | 'E' :: rest => checkExponent rest
  | _ => .ok text

/-- Reads what may follow the whole part of a number. -/
def checkFraction (text : Text) : Checked :=
  match text with
  | '.' :: rest =>
    match takeDigits rest with
    | ([], []) => stopAhead .endInValue []
    | ([], other) => stopAhead .badNumber other
    | (_, behind) => checkEnding behind
  | _ => checkEnding text

/-- Reads a number behind its sign. -/
def checkNumber (text : Text) : Checked :=
  match text with
  | [] => stop .endInValue []
  | '0' :: rest =>
    match rest with
    | c :: _ =>
        if c.isDigit then stopAhead .badNumber rest else checkFraction rest
    | [] => .ok []
  | c :: _ => if c.isDigit then checkFraction (takeDigits text).2
  else stopAhead .badNumber text

/-- What a number is called. -/
def numberTitle (text behind : Text) : Except JsonFault String :=
  match readNumber? text with
  | some (.integer value, _) => .ok s!"integer \x60{value}\x60"
  | some (.float value, _) =>
      .ok s!"floating point \x60{Json.floatText value}\x60"
  | _ => stop .hugeNumber behind

/-! ## Values -/

/-- What the value in front of a text is called, and the text behind what has
been read of it. Lists and objects are not read. -/
def found (text : Text) : Except JsonFault (String × Text) :=
  match text with
  | [] => stopAhead .endInValue []
  | 'n' :: rest =>
      (checkWord "ull".toList rest).map fun behind => ("null", behind)
  | 't' :: rest =>
    (checkWord "rue".toList rest).map fun behind =>
      ("boolean \x60true\x60", behind)
  | 'f' :: rest =>
    (checkWord "alse".toList rest).map fun behind =>
      ("boolean \x60false\x60", behind)
  | '"' :: rest =>
    (checkedString rest).map fun (value, behind) =>
      ("string " ++ String.ofList (Text.quoted value), behind)
  | '[' :: _ => .ok ("sequence", text)
  | '{' :: _ => .ok ("map", text)
  | '-' :: rest => do
    let behind ← checkNumber rest
    return (← numberTitle text behind, behind)
  | c :: _ =>
    if c.isDigit then do
      let behind ← checkNumber text
      return (← numberTitle text behind, behind)
    else stopAhead .noValue text

/-- Reads a string of an accepted content. -/
def checkText (problem : Text → Option String) (text : Text) : Checked := do
  let (value, behind) ← checkedString text
  match problem value with
  | some reason => stop (.refused reason) behind
  | none => return behind

/-- Says that a value of another shape stands here. -/
def otherShape (shape : JsonShape) (text : Text) : Checked := do
  let (title, behind) ← found text
  stop (.otherShape title shape.title) behind

/-- Goes to the next item of a list. At its end there is none, and the text
behind is given. -/
def nextItem (first : Bool) (text : Text) :
    Except JsonFault (Option Text × Text) :=
  match skipBlanks text with
  | [] => stopAhead .endInList []
  | ']' :: rest => .ok (none, rest)
  | c :: rest =>
    if first then .ok (some (c :: rest), rest)
    else if c = ',' then
      match skipBlanks rest with
      | [] => stopAhead .endInValue []
      | ']' :: more => stopAhead .trailingComma (']' :: more)
      | item => .ok (some item, rest)
    else stopAhead .noListEnd (c :: rest)

/-- Goes to the text behind the first quote of the next key of an object. -/
def nextKey (first : Bool) (text : Text) :
    Except JsonFault (Option Text × Text) :=
  match skipBlanks text with
  | [] => stopAhead .endInObject []
  | '}' :: rest => .ok (none, rest)
  | c :: rest =>
    if first then
      if c = '"' then .ok (some rest, rest)
      else stopAhead .keyNoString (c :: rest)
    else if c = ',' then
      match skipBlanks rest with
      | [] => stopAhead .endInValue []
      | '}' :: more => stopAhead .trailingComma ('}' :: more)
      | '"' :: key => .ok (some key, rest)
      | other => stopAhead .keyNoString other
    else stopAhead .noObjectEnd (c :: rest)

/-- Reads the key of an object up to the value that belongs to it. -/
def checkKey (text : Text) : Checked := do
  let (_, behind) ← checkedString text
  match skipBlanks behind with
  | [] => stopAhead .endInObject []
  | ':' :: rest => return rest
  | other => stopAhead .noColon other

mutual

/-- Reads one value of a shape. -/
def checkValue : Nat → JsonShape → Text → Checked
  | 0, _, text => stop .endInValue text
  | fuel + 1, shape, text =>
    match shape, skipBlanks text with
    | .map values, '{' :: rest => checkFields fuel values true rest
    | .any, '{' :: rest => checkFields fuel .any true rest
    | .list items, '[' :: rest => checkItems fuel items true rest
    | .any, '[' :: rest => checkItems fuel .any true rest
    | .text _ problem, '"' :: rest => checkText problem rest
    | .any, other => (found other).map Prod.snd
    | shape, other => otherShape shape other

def checkItems : Nat → JsonShape → Bool → Text → Checked
  | 0, _, _, text => stop .endInList text
  | fuel + 1, shape, first, text => do
    match ← nextItem first text with
    | (none, behind) => return behind
    | (some item, _) =>
        checkItems fuel shape false (← checkValue fuel shape item)

def checkFields : Nat → JsonShape → Bool → Text → Checked
  | 0, _, _, text => stop .endInObject text
  | fuel + 1, shape, first, text => do
    match ← nextKey first text with
    | (none, behind) => return behind
    | (some key, _) =>
        checkFields fuel shape false (← checkValue fuel shape (← checkKey key))

end

/-- Checks a text that should hold one value of a shape. -/
def check (shape : JsonShape) (text : Text) : Except JsonFault Unit := do
  match skipBlanks (← checkValue (2 * text.length + 2) shape text) with
  | [] => return ()
  | other => stopAhead .trailingText other

/-- The line and the column behind some bytes. -/
def position (front : Bytes) : Nat × Nat :=
  (front.count 0x0A + 1, (front.reverse.takeWhile (· ≠ 0x0A)).length)

/-- What is wrong with a text, and where. -/
def diagnosis? (shape : JsonShape) (text : Text) : Option String :=
  match check shape text with
  | .ok _ => none
  | .error fault =>
    let bytes := Utf8.encode text
    let (line, column) := position (bytes.take (bytes.length - fault.behind))
    some s!"{fault.kind.message} at line {line} column {column}"

end JsonText

end LintMend
