import LintMend.Data.Decode
import LintMend.Json.Reader
import LintMend.Toml.Table

/-!
# Reading TOML

Texts in TOML as data. Every line is a header, an assignment or empty. Dates and
times have no kind of data of their own: they become an object with one field of
a reserved name.
-/

namespace LintMend

namespace Toml

def isBlank (c : Char) : Bool :=
  c == ' ' || c == '\t'

def skipBlanks (text : Text) : Text :=
  text.dropWhile isBlank

/-- The text behind a line end. -/
def newline? : Text → Option Text
  | '\n' :: rest => some rest
  | '\r' :: '\n' :: rest => some rest
  | _ => none

/-- Characters that may stand for themselves in comments and strings. -/
def isPlain (c : Char) : Bool :=
  c == '\t' || (decide (32 ≤ c.toNat) && decide (c.toNat ≠ 127))

/-- Skips blanks, line ends and comments. -/
def skipSpace (inComment : Bool) : Text → Option Text
  | [] => some []
  | '\n' :: rest => skipSpace false rest
  | '\r' :: '\n' :: rest => skipSpace false rest
  | c :: rest =>
    if inComment then (if isPlain c then skipSpace true rest else none)
    else if isBlank c then skipSpace false rest
    else if c = '#' then skipSpace true rest
    else some (c :: rest)

/-- Skips the rest of a line that may hold blanks and a comment only. -/
def finishLine? (text : Text) : Option Text :=
  match skipBlanks text with
  | [] => some []
  | '#' :: rest =>
    match rest.dropWhile isPlain with
    | [] => some []
    | behind => newline? behind
  | behind => newline? behind

/-! ## Strings -/

def hexNumber? (digits : Text) : Option Nat :=
  digits.foldlM (fun n c => (JsonText.hexValue? c).map fun digit =>
    n * 16 + digit) 0

/-- A character by its number; surrogates are none. -/
def charOf? (point : Nat) : Option Char :=
  if point < 0xD800 ∨ (0xE000 ≤ point ∧ point < 0x110000) then
    some (Char.ofNat point)
  else none

/-- A character spelled with the given count of hexadecimal digits. -/
def hexEscape? (count : Nat) (text : Text) : Option (Char × Text) :=
  if text.length < count then none
  else do
    let c ← charOf? (← hexNumber? (text.take count))
    some (c, text.drop count)

/-- Reads an escape from behind its backslash. -/
def escape? : Text → Option (Char × Text)
  | 'b' :: rest => some ('\x08', rest)
  | 't' :: rest => some ('\t', rest)
  | 'n' :: rest => some ('\n', rest)
  | 'f' :: rest => some ('\x0c', rest)
  | 'r' :: rest => some ('\r', rest)
  | 'e' :: rest => some ('\x1b', rest)
  | '"' :: rest => some ('"', rest)
  | '\\' :: rest => some ('\\', rest)
  | 'x' :: rest => hexEscape? 2 rest
  | 'u' :: rest => hexEscape? 4 rest
  | 'U' :: rest => hexEscape? 8 rest
  | _ => none

def consTo (c : Char) : Text × Text → Text × Text
  | (inside, behind) => (c :: inside, behind)

/-- Reads the inside of a string on one line up to its quote. -/
def basic? : Nat → Text → Option (Text × Text)
  | 0, _ => none
  | fuel + 1, text =>
    match text with
    | [] => none
    | '"' :: rest => some ([], rest)
    | '\\' :: rest => do
      let (c, behind) ← escape? rest
      (basic? fuel behind).map (consTo c)
    | c :: rest => if isPlain c then (basic? fuel rest).map (consTo c) else none

/-- A literal string knows no escapes. -/
def literal? : Text → Option (Text × Text)
  | [] => none
  | c :: rest =>
    if c = '\'' then some ([], rest)
    else if isPlain c then (literal? rest).map (consTo c)
    else none

/-- What ends a string of several lines: three quotes, and up to two more that
belong to the string. -/
def closing? (quote : Char) (text : Text) : Option (Text × Text) :=
  let count := ((text.take 5).takeWhile (· == quote)).length
  if count < 3 then none
  else some (List.replicate (count - 3) quote, text.drop count)

def skipLineEnds : Text → Text
  | [] => []
  | '\n' :: rest => skipLineEnds rest
  | '\r' :: '\n' :: rest => skipLineEnds rest
  | c :: rest => if isBlank c then skipLineEnds rest else c :: rest

/-- The text behind a backslash that ends its line: blanks and line ends up to
the next character are left out. -/
def joinedLine? (text : Text) : Option Text :=
  (newline? (skipBlanks text)).map skipLineEnds

/-- Whether a carriage return stands here without a line feed. -/
def isLoneReturn : Text → Bool
  | '\r' :: '\n' :: _ => false
  | '\r' :: _ => true
  | _ => false

def multiline? (quote : Char) (escapes : Bool) :
    Nat → Text → Option (Text × Text)
  | 0, _ => none
  | fuel + 1, text =>
    match closing? quote text with
    | some ending => some ending
    | none =>
      match text with
      | [] => none
      | c :: rest =>
        if escapes && c == '\\' then
          match joinedLine? rest with
          | some behind => multiline? quote escapes fuel behind
          | none => do
            let (c, behind) ← escape? rest
            (multiline? quote escapes fuel behind).map (consTo c)
        else if (isPlain c || c == '\n' || c == '\r') && !isLoneReturn text then
          (multiline? quote escapes fuel rest).map (consTo c)
        else none

/-- A line end right behind the opening quotes does not count. -/
def dropNewline (text : Text) : Text :=
  (newline? text).getD text

/-- Reads a string on one line. -/
def line? (text : Text) : Option (Text × Text) :=
  match text with
  | '"' :: rest => basic? (rest.length + 1) rest
  | '\'' :: rest => literal? rest
  | _ => none

/-- Reads a string of any kind. -/
def string? (text : Text) : Option (Text × Text) :=
  match text with
  | '"' :: '"' :: '"' :: rest =>
    let rest := dropNewline rest
    multiline? '"' true (rest.length + 1) rest
  | '\'' :: '\'' :: '\'' :: rest =>
    let rest := dropNewline rest
    multiline? '\'' false (rest.length + 1) rest
  | _ => line? text

/-! ## Keys -/

def isBare (c : Char) : Bool :=
  c.isAlphanum || c == '-' || c == '_'

def simpleKey? (text : Text) : Option (String × Text) :=
  match text with
  | [] => none
  | c :: _ =>
    if c = '"' ∨ c = '\'' then
      (line? text).map fun (key, behind) => (String.ofList key, behind)
    else
      let key := text.takeWhile isBare
      if key.isEmpty then none
      else some (String.ofList key, text.drop key.length)

/-- The most keys in one path, and the most lists and inline tables that
are open at once. -/
def maxNesting : Nat := 80

/-- Reads up to so many keys with points between them, and the blanks around
them. -/
def keys? : Nat → Text → Option (List String × Text)
  | 0, _ => none
  | room + 1, text => do
    let (key, behind) ← simpleKey? (skipBlanks text)
    match skipBlanks behind with
    | '.' :: rest =>
        (keys? room rest).map fun (keys, behind) => (key :: keys, behind)
    | rest => some ([key], rest)

def path? (text : Text) : Option (List String × Text) :=
  keys? maxNesting text

/-! ## Numbers, dates and words -/

def isHexDigit (c : Char) : Bool :=
  (JsonText.hexValue? c).isSome

/-- Whether underscores stand between digits. Every piece but the first begins
with a digit, and every piece but the last ends with one or is a single
character. So a sign may be a piece of its own, and behind the first digit of
the last piece anything may follow. -/
def separates (isDigit : Char → Bool) (text : Text) : Bool :=
  let pieces := text.splitOn '_'
  let begins (piece : Text) : Bool := (piece.head?.map isDigit).getD false
  let ends (piece : Text) : Bool :=
    piece.length = 1 || (piece.getLast?.map isDigit).getD false
  pieces.tail.all begins && pieces.dropLast.all ends

def withoutUnderscores (text : Text) : Text :=
  text.filter (· ≠ '_')

def numberOf (radix : Nat) (digits : Text) : Nat :=
  digits.foldl (fun n c => n * radix + ((JsonText.hexValue? c).getD 0)) 0

/-- Whole numbers beyond 64 bits have no value. -/
def wholeData (n : Int) : Data :=
  if -(signedLimit : Int) ≤ n ∧ n < wordLimit then .integer n else .valueless

/-- A whole number with a mark of its radix in front. It has no value without
digits. -/
def radixNumber? (radix : Nat) (text : Text) : Option Data :=
  let isDigit (c : Char) : Bool :=
    match JsonText.hexValue? c with
    | some digit => decide (digit < radix)
    | none => false
  let digits := withoutUnderscores text
  if text.isEmpty then some .valueless
  else if digits.all isDigit && separates isDigit text then
    some (wholeData (numberOf radix digits))
  else none

/-- The sign and the text behind it. -/
def signOf (text : Text) : Bool × Text :=
  match text with
  | '-' :: rest => (true, rest)
  | '+' :: rest => (false, rest)
  | _ => (false, text)

/-- `digits * 10 ^ exponent`, rounded once; what is too large has no value. -/
def floatData (negative : Bool) (digits : Nat) (exponent : Int) : Data :=
  let size : Int := exponent + (toString digits).length
  if digits = 0 ∨ size < -400 then .float (JsonText.signed negative 0)
  else if 400 < size then .valueless
  else
    let x := Float.ofScientific digits (decide (exponent < 0)) exponent.natAbs
    if x.isInf then .valueless else .float (JsonText.signed negative x)

/-- Decimal digits, and underscores anywhere among them. -/
def looseDigits? (text : Text) : Option Text :=
  let digits := withoutUnderscores text
  if digits.isEmpty || !digits.all Char.isDigit then none else some digits

/-- The exponent behind its mark. -/
def exponent? (text : Text) : Option Int := do
  let (down, rest) := signOf text
  let n : Int := numberOf 10 (← looseDigits? rest)
  some (if down then -n else n)

/-- A number with a fraction or an exponent, from behind its sign. -/
def float? (negative : Bool) (text : Text) : Option Data := do
  let (mantissa, power) := text.span fun c => c != 'e' && c != 'E'
  let (whole, fraction) := mantissa.span (· != '.')
  let wholeDigits ← looseDigits? whole
  let fractionDigits ← match fraction with
    | [] => some []
    | _ :: digits => looseDigits? digits
  let exponent ← match power with
    | [] => some 0
    | _ :: exponent => exponent? exponent
  if whole.head? = some '0' ∧ 1 < wholeDigits.length then none
  else
    some (floatData negative (numberOf 10 (wholeDigits ++ fractionDigits))
      (exponent - fractionDigits.length))

/-- A whole number from behind its sign. Behind an underscore anything may
stand, but then the number has no value. -/
def whole? (negative : Bool) (text : Text) : Option Data :=
  let behind := text.dropWhile Char.isDigit
  if text.isEmpty ∨ text.head? = some '0' ∧ 1 < text.length
      ∨ behind ≠ [] ∧ behind.head? ≠ some '_' then none
  else
    match looseDigits? text with
    | some digits =>
      let n : Int := numberOf 10 digits
      some (wholeData (if negative then -n else n))
    | none => some .valueless

def decimal? (text : Text) : Option Data :=
  let (negative, rest) := signOf text
  let isFloat := (rest.dropWhile Char.isDigit).any fun c =>
    c == '.' || c == 'e' || c == 'E'
  let isDigit := if isFloat then Char.isDigit else isHexDigit
  if !separates isDigit text then none
  else if isFloat then float? negative rest
  else whole? negative rest

def number? (text : Text) : Option Data :=
  match text with
  | '0' :: 'x' :: digits => radixNumber? 16 digits
  | '0' :: 'o' :: digits => radixNumber? 8 digits
  | '0' :: 'b' :: digits => radixNumber? 2 digits
  | _ =>
    let (negative, rest) := signOf text
    if rest = "inf".toList then
      some (.float (JsonText.signed negative (1.0 / 0.0)))
    else if rest = "nan".toList then some (.float (0.0 / 0.0))
    else decimal? text

/-- Takes a fixed count of digits as a number. -/
def fixedNumber? (count : Nat) (text : Text) : Option (Nat × Text) :=
  let digits := text.take count
  if digits.length = count ∧ digits.all Char.isDigit then
    some (numberOf 10 digits, text.drop count)
  else none

def expect? (c : Char) (text : Text) : Option Text :=
  Text.after? [c] text

def isLeapYear (year : Nat) : Bool :=
  year % 4 == 0 && (year % 100 != 0 || year % 400 == 0)

def daysIn (year month : Nat) : Nat :=
  if month = 2 then (if isLeapYear year then 29 else 28)
  else if month = 4 ∨ month = 6 ∨ month = 9 ∨ month = 11 then 30
  else 31

/-- The text behind a date. -/
def date? (text : Text) : Option Text := do
  let (year, rest) ← fixedNumber? 4 text
  let (month, rest) ← fixedNumber? 2 (← expect? '-' rest)
  let (day, rest) ← fixedNumber? 2 (← expect? '-' rest)
  if 1 ≤ month ∧ month ≤ 12 ∧ 1 ≤ day ∧ day ≤ daysIn year month then
    some rest
  else none

/-- The text behind the seconds of a time, which may be left out. -/
def seconds? (text : Text) : Option Text :=
  match text with
  | ':' :: rest => do
    let (second, rest) ← fixedNumber? 2 rest
    if 60 < second then none
    else
      match rest with
      | '.' :: fraction =>
        if (fraction.takeWhile Char.isDigit).isEmpty then none
        else some (fraction.dropWhile Char.isDigit)
      | _ => some rest
  | _ => some text

/-- The text behind a time of day. -/
def time? (text : Text) : Option Text := do
  let (hour, rest) ← fixedNumber? 2 text
  let (minute, rest) ← fixedNumber? 2 (← expect? ':' rest)
  if 23 < hour ∨ 59 < minute then none else seconds? rest

/-- Whether a text is empty or an offset from universal time. -/
def isOffset (text : Text) : Bool :=
  match text with
  | [] => true
  | c :: rest =>
    if c = 'Z' ∨ c = 'z' then rest.isEmpty
    else if c = '+' ∨ c = '-' then
      let parsed : Option (Nat × Nat × Text) := do
        let (hours, rest) ← fixedNumber? 2 rest
        let (minutes, rest) ← fixedNumber? 2 (← expect? ':' rest)
        some (hours, minutes, rest)
      match parsed with
      | some (hours, minutes, []) =>
          decide (hours ≤ 23) && decide (minutes ≤ 59)
      | _ => false
    else false

def isDate (text : Text) : Bool :=
  match date? text with
  | none => (time? text) = some []
  | some [] => true
  | some (c :: rest) =>
    (c == 'T' || c == 't' || c == ' ') &&
      (((time? rest).map isOffset).getD false)

/-- The name of the field that holds a date. -/
def dateField : String := "$__toml_private_datetime"

/-- A value that is a single word. -/
def word? (text : Text) : Option Data :=
  if text = "true".toList then some (.bool true)
  else if text = "false".toList then some (.bool false)
  else if isDate text then
    some (.object [(some dateField, .string (some (String.ofList text)))] true)
  else number? text

/-- A word runs up to a blank, a line end, a comment or a mark of the lists and
tables. -/
def isWordChar (c : Char) : Bool :=
  !("=,[]\x7b\x7d \t#\r\n".toList.contains c)

/-- The first word of a text. One blank may stand between a date and a time. -/
def takeWord (text : Text) : Text × Text :=
  let (first, rest) := text.span isWordChar
  match rest with
  | ' ' :: c :: _ =>
    if date? first = some [] ∧ c.isDigit then
      let (second, behind) := (rest.drop 1).span isWordChar
      (first ++ ' ' :: second, behind)
    else (first, rest)
  | _ => (first, rest)

/-! ## Values -/

mutual

/-- Reads a value in which so many lists and inline tables may be open at
once. -/
def value? (room : Nat) : Nat → Text → Option (Data × Text)
  | 0, _ => none
  | fuel + 1, text =>
    match text with
    | '[' :: rest => do
      if room = 0 then none
      let (items, behind) ← items? (room - 1) fuel rest
      some (.array items true, behind)
    | '{' :: rest => do
      if room = 0 then none
      let (assignments, behind) ← assignments? (room - 1) fuel rest
      some (← inlineTable? assignments, behind)
    | '"' :: _ | '\'' :: _ =>
      (string? text).map fun (value, behind) =>
        (.string (some (String.ofList value)), behind)
    | _ =>
      let (word, behind) := takeWord text
      (word? word).map fun data => (data, behind)

/-- Reads the items of a list up to its closing bracket. -/
def items? (room : Nat) : Nat → Text → Option (List Data × Text)
  | 0, _ => none
  | fuel + 1, text => do
    match ← skipSpace false text with
    | ']' :: rest => some ([], rest)
    | start => do
      let (item, behind) ← value? room fuel start
      match ← skipSpace false behind with
      | ',' :: rest => do
        let (items, behind) ← items? room fuel rest
        some (item :: items, behind)
      | ']' :: rest => some ([item], rest)
      | _ => none

/-- Reads the assignments of an inline table up to its closing brace. -/
def assignments? (room : Nat) :
    Nat → Text → Option (List (List String × Data) × Text)
  | 0, _ => none
  | fuel + 1, text => do
    match ← skipSpace false text with
    | '}' :: rest => some ([], rest)
    | start => do
      let (path, behind) ← path? start
      let behind ← expect? '=' behind
      let (value, behind) ← value? room fuel (skipBlanks behind)
      match ← skipSpace false behind with
      | ',' :: rest => do
        let (assignments, behind) ← assignments? room fuel rest
        some ((path, value) :: assignments, behind)
      | '}' :: rest => some ([(path, value)], rest)
      | _ => none

end

/-! ## Documents -/

/-- Reads a header from behind its bracket. -/
def header? (text : Text) : Option (Statement × Text) :=
  match text with
  | '[' :: rest => do
    let (path, behind) ← path? rest
    let behind ← Text.after? [']', ']'] behind
    some (.item path, behind)
  | _ => do
    let (path, behind) ← path? text
    let behind ← expect? ']' behind
    some (.table path, behind)

def assignment? (text : Text) : Option (Statement × Text) := do
  let (path, behind) ← path? text
  let behind ← expect? '=' behind
  let start := skipBlanks behind
  let (value, behind) ← value? maxNesting (2 * start.length + 2) start
  some (.assignment path value, behind)

def statement? (text : Text) : Option (Statement × Text) :=
  match text with
  | '[' :: rest => header? rest
  | _ => assignment? text

/-- Reads statements, each with a line end behind it, up to the end. -/
def statements? : Nat → Text → Option (List Statement)
  | 0, _ => none
  | fuel + 1, text => do
    match ← skipSpace false text with
    | [] => some []
    | start => do
      let (statement, behind) ← statement? start
      let rest ← finishLine? behind
      (statements? fuel rest).map (statement :: ·)

/-- The mark that may stand at the beginning of a text. -/
def byteOrderMark : Char := '\uFEFF'

/-- The data of a document, if the text is one. -/
def read? (text : Text) : Option Data := do
  let start := (Text.after? [byteOrderMark] text).getD text
  let statements ← statements? (start.length + 1) start
  let document ← Document.ofStatements? statements
  some document.data

/-- Decodes a document. -/
def decode {α : Type} (decoder : Decoder α) (text : Text) :
    Except DecodeFault α :=
  match read? text with
  | some data => decoder data
  | none => .error .malformed

end Toml

end LintMend
