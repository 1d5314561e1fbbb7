import LintMend.Arithmetic
import LintMend.Data.Decode
import LintMend.Decimal.Fixed
import LintMend.Json.Value
import LintMend.Text.Basic

/-!
# Reading JSON

Texts in JSON as data. Whole numbers up to 64 bits are kept exactly; other
numbers become doubles through their first digits and a power of ten, which for
short decimals is the nearest double.
-/

namespace LintMend

namespace JsonText

/-- The blanks of JSON: space, line feed, carriage return and tab. -/
def isBlank (c : Char) : Bool :=
  c == ' ' || c == '\n' || c == '\r' || c == '\t'

def skipBlanks (text : Text) : Text :=
  text.dropWhile isBlank

def hexValue? (c : Char) : Option Nat :=
  if '0' ≤ c ∧ c ≤ '9' then some (c.toNat - 48)
  else if 'a' ≤ c ∧ c ≤ 'f' then some (c.toNat - 87)
  else if 'A' ≤ c ∧ c ≤ 'F' then some (c.toNat - 55)
  else none

def hexUnit? (a b c d : Char) : Option Nat := do
  let a ← hexValue? a
  let b ← hexValue? b
  let c ← hexValue? c
  let d ← hexValue? d
  some (((a * 16 + b) * 16 + c) * 16 + d)

def simpleEscape? (c : Char) : Option Char :=
  if c = '"' ∨ c = '\\' ∨ c = '/' then some c
  else if c = 'b' then some '\x08'
  else if c = 'f' then some '\x0c'
  else if c = 'n' then some '\n'
  else if c = 'r' then some '\r'
  else if c = 't' then some '\t'
  else none

/-- A piece of a string: a character, or one half of a surrogate pair that an
escape spells. -/
inductive Piece
  | char (c : Char)
  | high (unit : Nat)
  | low (unit : Nat)
  deriving DecidableEq, Repr

def Piece.ofUnit (unit : Nat) : Piece :=
  if 0xD800 ≤ unit ∧ unit < 0xDC00 then high unit
  else if 0xDC00 ≤ unit ∧ unit < 0xE000 then low unit
  else char (Char.ofNat unit)

/-- Reads the inside of a string up to its quote. -/
def readPieces : Text → Option (List Piece × Text)
  | [] => none
  | '"' :: rest => some ([], rest)
  | '\\' :: 'u' :: a :: b :: c :: d :: rest =>
    match hexUnit? a b c d with
    | none => none
    | some unit =>
      (readPieces rest).map fun (pieces, behind) =>
        (Piece.ofUnit unit :: pieces, behind)
  | '\\' :: c :: rest =>
    match simpleEscape? c with
    | some escaped =>
      (readPieces rest).map fun (pieces, behind) =>
        (.char escaped :: pieces, behind)
    | none => none
  | c :: rest =>
    if c.toNat < 32 then none
    else (readPieces rest).map fun (pieces, behind) =>
      (.char c :: pieces, behind)

/-- Joins the halves of surrogate pairs; a half that stands alone leaves no
value. -/
def joinPieces : List Piece → Option Text
  | [] => some []
  | .char c :: pieces => (joinPieces pieces).map (c :: ·)
  | .high high :: .low low :: pieces =>
    (joinPieces pieces).map
      (Char.ofNat (0x10000 + (high - 0xD800) * 0x400 + (low - 0xDC00)) :: ·)
  | _ :: _ => none

def readString (text : Text) : Option (Option Text × Text) :=
  (readPieces text).map fun (pieces, rest) => (joinPieces pieces, rest)

/-- The digits at the start of a text, as numbers. -/
def takeDigits (text : Text) : List Nat × Text :=
  ((text.takeWhile Char.isDigit).map fun c =>
    c.toNat - 48, text.dropWhile Char.isDigit)

/-- The largest whole number kept exactly. -/
def maxWord : Nat :=
  wordLimit - 1

/-- Takes digits into a number for as long as it stays within a word; gives the
digits left. -/
def gather (value : Nat) : List Nat → Nat × List Nat
  | [] => (value, [])
  | digit :: digits =>
    if maxWord < value * 10 + digit then (value, digit :: digits)
    else gather (value * 10 + digit) digits

/-- `digits * 10 ^ exponent` in doubles; `none` where that is too large. -/
def scale (digits : Nat) (exponent : Int) : Option Float :=
  let start := digits.toUInt64.toFloat
  let divided (x : Float) (power : Nat) : Float :=
    x / Float.ofScientific 1 false power
  if exponent < 0 then
    let power := (-exponent).toNat
    let steps := if power ≤ 308 then 0 else min 4 ((power - 308 + 307) / 308)
    let reduced := (List.replicate steps 308).foldl divided start
    some
      (if power ≤ 308 + 308 * steps then
        divided reduced (power - 308 * steps)
      else 0)
  else if digits = 0 then some start
  else if 308 < exponent then none
  else if Decimal.doubleLimit ≤
      Decimal.nearest digits * Decimal.nearest (tenTo exponent.toNat) then none
  else some (start * Float.ofScientific 1 false exponent.toNat)

/-- A number in pieces: sign, digits before and behind the point, and the
exponent. -/
structure Numeral where
  negative : Bool
  whole : List Nat
  fraction : Option (List Nat)
  exponent : Option (Bool × List Nat)
  deriving Repr

def signed (negative : Bool) (x : Float) : Float :=
  if negative then -x else x

/-- Whole numbers that fit into a word are integers; minus zero is a double. -/
def Numeral.data (numeral : Numeral) : Data :=
  let (leading, left) := gather 0 numeral.whole
  if left.isEmpty && numeral.fraction.isNone && numeral.exponent.isNone then
    if !numeral.negative then .integer leading
    else if 0 < leading && leading ≤ signedLimit then
      .integer (-(leading : Int))
    else .float (-leading.toUInt64.toFloat)
  else
    let behind := numeral.fraction.getD []
    let (digits, dropped) := gather leading behind
    let places : Int :=
      (left.length : Int) - ((behind.length - dropped.length : Nat) : Int)
    let finish (exponent : Int) : Data :=
      match scale digits exponent with
      | some x => .float (signed numeral.negative x)
      | none => .valueless
    match numeral.exponent with
    | none => finish places
    | some (down, power) =>
      let power : Nat := power.foldl (fun n digit => n * 10 + digit) 0
      if power < twoTo 31 then
        finish (if down then places - (power : Int) else places + (power : Int))
      else if digits ≠ 0 ∧ !down then .valueless
      else .float (signed numeral.negative 0)

def readExponent? (text : Text) : Option (Option (Bool × List Nat) × Text) :=
  match text with
  | c :: rest =>
    if c = 'e' ∨ c = 'E' then
      let (down, rest) :=
        match rest with
        | '-' :: behind => (true, behind)
        | '+' :: behind => (false, behind)
        | _ => (false, rest)
      match takeDigits rest with
      | ([], _) => none
      | (digits, behind) => some (some (down, digits), behind)
    else some (none, text)
  | [] => some (none, text)

def readFraction? (text : Text) : Option (Option (List Nat) × Text) :=
  match text with
  | '.' :: rest =>
    match takeDigits rest with
    | ([], _) => none
    | (digits, behind) => some (some digits, behind)
  | _ => some (none, text)

/-- A number has no zeros in front of its whole part. -/
def readNumber? (text : Text) : Option (Data × Text) := do
  let (negative, rest) :=
    match text with
    | '-' :: rest => (true, rest)
    | _ => (false, text)
  let (whole, rest) := takeDigits rest
  if whole.isEmpty || (whole.head? = some 0 && 1 < whole.length) then none
  else
    let (fraction, rest) ← readFraction? rest
    let (exponent, rest) ← readExponent? rest
    some ((Numeral.mk negative whole fraction exponent).data, rest)

def readWord? (text : Text) : Option (Data × Text) :=
  match Text.after? "null".toList text with
  | some rest => some (.null, rest)
  | none =>
    match Text.after? "true".toList text with
    | some rest => some (.bool true, rest)
    | none =>
        (Text.after? "false".toList text).map fun rest => (.bool false, rest)

def readScalar? (text : Text) : Option (Data × Text) :=
  match text with
  | '"' :: rest =>
    (readString rest).map fun (value, behind) =>
      (.string (value.map String.ofList), behind)
  | _ => (readWord? text).or (readNumber? text)

mutual

/-- Reads one value; nothing remains to be read where the text is broken. -/
def readValue : Nat → Text → Data × Option Text
  | 0, _ => (.broken, none)
  | fuel + 1, text =>
    match skipBlanks text with
    | '[' :: rest =>
      match skipBlanks rest with
      | ']' :: behind => (.array [] true, some behind)
      | _ =>
        let (items, behind) := readItems fuel rest
        (.array items behind.isSome, behind)
    | '{' :: rest =>
      match skipBlanks rest with
      | '}' :: behind => (.object [] true, some behind)
      | _ =>
        let (fields, behind) := readFields fuel rest
        (.object fields behind.isSome, behind)
    | other =>
      match readScalar? other with
      | some (value, behind) => (value, some behind)
      | none => (.broken, none)

def readItems : Nat → Text → List Data × Option Text
  | 0, _ => ([], none)
  | fuel + 1, text =>
    match readValue fuel text with
    | (item, none) => ([item], none)
    | (item, some behind) =>
      match skipBlanks behind with
      | ',' :: rest =>
        let (items, behind) := readItems fuel rest
        (item :: items, behind)
      | ']' :: rest => ([item], some rest)
      | _ => ([item], none)

def readFields : Nat → Text → List (Option String × Data) × Option Text
  | 0, _ => ([], none)
  | fuel + 1, text =>
    match skipBlanks text with
    | '"' :: rest =>
      match readString rest with
      | none => ([], none)
      | some (key, behind) =>
        let key := key.map String.ofList
        match skipBlanks behind with
        | ':' :: rest =>
          match readValue fuel rest with
          | (value, none) => ([(key, value)], none)
          | (value, some behind) =>
            match skipBlanks behind with
            | ',' :: rest =>
              let (fields, behind) := readFields fuel rest
              ((key, value) :: fields, behind)
            | '}' :: rest => ([(key, value)], some rest)
            | _ => ([(key, value)], none)
        | _ => ([(key, .broken)], none)
    | _ => ([], none)

end

/-- Reads the value at the start of a text. Every level and every item takes up
a character, so the length of the text is fuel enough. -/
def read (text : Text) : Data × Option Text :=
  readValue (2 * text.length + 2) text

/-- Decodes a text that holds one value and blanks. -/
def decode {α : Type} (decoder : Decoder α) (text : Text) :
    Except DecodeFault α := do
  let (data, behind) := read text
  let value ← decoder data
  if behind.map skipBlanks = some [] then .ok value else .error .malformed

end JsonText

namespace Json

mutual

/-- The value that fully readable data has. -/
def ofData? : Data → Option Json
  | .null => some .null
  | .bool value => some (.bool value)
  | .integer value => some (.integer value)
  | .float value => some (.float value)
  | .valueless => none
  | .string value => value.map .string
  | .array items ended => if ended then (ofItems? items).map .array else none
  | .object fields ended =>
      if ended then (ofFields? fields).map .object else none
  | .broken => none

def ofItems? : List Data → Option (List Json)
  | [] => some []
  | item :: items => do
    let item ← ofData? item
    let items ← ofItems? items
    some (item :: items)

def ofFields? : List (Option String × Data) → Option (List (String × Json))
  | [] => some []
  | (key, value) :: fields => do
    let key ← key
    let value ← ofData? value
    let fields ← ofFields? fields
    some ((key, value) :: fields)

end

def parse? (text : Text) : Option Json :=
  match JsonText.read text with
  | (data, some rest) =>
      if JsonText.skipBlanks rest = [] then ofData? data else none
  | _ => none

mutual

/-- The value as data, with the fields of every object in the order of their
names. -/
def data : Json → Data
  | null => .null
  | bool value => .bool value
  | integer value => .integer value
  | float value => .float value
  | string value => .string (some value)
  | array items => .array (dataItems items) true
  | object fields => .byName (dataFields fields)

def dataItems : List Json → List Data
  | [] => []
  | item :: items => item.data :: dataItems items

def dataFields : List (String × Json) → List (Option String × Data)
  | [] => []
  | (key, value) :: fields => (some key, value.data) :: dataFields fields

end

end Json

end LintMend
