import LintMend.Decimal.Shortest

/-!
# JSON values

The values of JSON, with the fields of an object in order, and how they are
written: on one line or indented. Doubles have the shortest text that reads
back, always with a point or an exponent; what is not a number is written as
`null`.
-/

namespace LintMend

inductive Json
  | null
  | bool (value : Bool)
  | integer (value : Int)
  | float (value : Float)
  | string (value : String)
  | array (items : List Json)
  | object (fields : List (String × Json))
  deriving Repr, Inhabited

namespace Json

def ofOption {α : Type} (encode : α → Json) : Option α → Json
  | none => null
  | some value => encode value

def ofNat (n : Nat) : Json :=
  integer n

/-- The value of a field, if this is an object with that field. -/
def get? (json : Json) (key : String) : Option Json :=
  match json with
  | object fields => fields.lookup key
  | _ => none

/-- Decimals from `1e-5` up to `1e16` are written out, others with an
exponent. -/
def floatText (x : Float) : String :=
  match FloatParts.ofFloat x with
  | .finite negative magnitude =>
    let decimal := Decimal.shortest magnitude
    let leading : Int := decimal.exponent + (toString decimal.digits).length - 1
    let sign := if negative then "-" else ""
    if decimal.digits = 0 then sign ++ "0.0"
    else if -5 ≤ leading ∧ leading < 16 then
      sign ++ decimal.positional ++ if 0 ≤ decimal.exponent then ".0" else ""
    else sign ++ decimal.scientific
  | _ => "null"

def hexDigit (n : Nat) : Char :=
  (Nat.toDigits 16 (n % 16)).headD '0'

/-- How one character stands in a quoted string. -/
def escape (c : Char) : List Char :=
  if c = '"' then ['\\', '"']
  else if c = '\\' then ['\\', '\\']
  else if c = '\n' then ['\\', 'n']
  else if c = '\r' then ['\\', 'r']
  else if c = '\t' then ['\\', 't']
  else if c.toNat = 8 then ['\\', 'b']
  else if c.toNat = 12 then ['\\', 'f']
  else if c.toNat < 32 then
    ['\\', 'u', '0', '0', hexDigit (c.toNat / 16), hexDigit c.toNat]
  else [c]

def quoted (text : String) : String :=
  String.ofList ('"' :: text.toList.flatMap escape ++ ['"'])

mutual

/-- The value on one line, without blanks. -/
def compact : Json → String
  | null => "null"
  | bool true => "true"
  | bool false => "false"
  | integer value => toString value
  | float value => floatText value
  | string value => quoted value
  | array items => "[" ++ ",".intercalate (compactItems items) ++ "]"
  | object fields => "\x7b" ++ ",".intercalate (compactFields fields) ++ "\x7d"

def compactItems : List Json → List String
  | [] => []
  | item :: items => item.compact :: compactItems items

def compactFields : List (String × Json) → List String
  | [] => []
  | (key, value) :: fields =>
      (quoted key ++ ":" ++ value.compact) :: compactFields fields

end

/-- A bracketed list with one item a line. -/
def bracketed (first last : String) (depth : Nat)
    (items : List String) : String :=
  if items.isEmpty then first ++ last
  else
    let pad := "\n" ++ String.ofList (List.replicate (2 * depth) ' ')
    first ++ ",".intercalate (items.map fun item => pad ++ "  " ++ item) ++
      pad ++ last

mutual

/-- The value over several lines, two spaces deeper with every bracket. -/
def indented (depth : Nat) : Json → String
  | array items => bracketed "[" "]" depth (indentedItems (depth + 1) items)
  | object fields =>
      bracketed "\x7b" "\x7d" depth (indentedFields (depth + 1) fields)
  | null => "null"
  | bool true => "true"
  | bool false => "false"
  | integer value => toString value
  | float value => floatText value
  | string value => quoted value

def indentedItems (depth : Nat) : List Json → List String
  | [] => []
  | item :: items => item.indented depth :: indentedItems depth items

def indentedFields (depth : Nat) : List (String × Json) → List String
  | [] => []
  | (key, value) :: fields =>
    (quoted key ++ ": " ++ value.indented depth) :: indentedFields depth fields

end

def pretty (json : Json) : String :=
  json.indented 0

end Json

end LintMend
