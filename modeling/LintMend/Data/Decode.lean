import LintMend.Arithmetic
import LintMend.Data.Basic

/-!
# Decoding data

A decoder turns data into a value of a known kind or gives the first fault, in
the order of the text. A record is read from an object, field by field, or from
a list that holds its fields in the order of their declaration.
-/

namespace LintMend

inductive DecodeFault
  | missingField (name : String)
  | duplicateField (name : String)
  | unknownField (name : String) (known : List String)
  | unknownVariant (name : String) (known : List String)
  /-- Unreadable text, or a value of another kind. -/
  | malformed
  deriving DecidableEq, Repr

namespace DecodeFault

def quote (name : String) : String :=
  "`" ++ name ++ "`"

/-- The names that were possible. -/
def expected : List String → String
  | [] => "there are no fields"
  | [name] => "expected " ++ quote name
  | [first, second] => "expected " ++ quote first ++ " or " ++ quote second
  | names => "expected one of " ++ ", ".intercalate (names.map quote)

/-- The text of a fault that concerns a name. -/
def message? : DecodeFault → Option String
  | missingField name => some ("missing field " ++ quote name)
  | duplicateField name => some ("duplicate field " ++ quote name)
  | unknownField name known =>
      some ("unknown field " ++ quote name ++ ", " ++ expected known)
  | unknownVariant name known =>
    some ("unknown variant " ++ quote name ++ ", " ++ expected known)
  | malformed => none

end DecodeFault

abbrev Decoder (α : Type) := Data → Except DecodeFault α

namespace Decoder

def bool : Decoder Bool
  | .bool value => .ok value
  | _ => .error .malformed

/-- Whole numbers of 64 bits. -/
def count : Decoder Nat
  | .integer value =>
    if 0 ≤ value ∧ value < wordLimit then .ok value.toNat else .error .malformed
  | _ => .error .malformed

/-- Numbers with a fraction, or whole ones. -/
def real : Decoder Float
  | .float value => .ok value
  | .integer value => .ok (Float.ofInt value)
  | _ => .error .malformed

def text : Decoder String
  | .string (some value) => .ok value
  | _ => .error .malformed

/-- How strictly data is read. -/
structure Manner where
  /-- Whether unknown fields of records are faults. -/
  closed : Bool
  /-- Whether a list that stands for a record may go on behind the last field,
  and an empty list or object may stand for nothing. -/
  spare : Bool

namespace Manner

def lenient : Manner :=
  { closed := false, spare := false }

def strict : Manner :=
  { closed := true, spare := false }

/-- Whether data may stand for nothing. -/
def isNothing (manner : Manner) : Data → Bool
  | .null => true
  | .array [] true => manner.spare
  | .object [] true => manner.spare
  | _ => false

end Manner

/-- One of the names that `read?` knows; `known` lists them for the message. A
choice without content may also be the name of a field that holds nothing. -/
def choice {α : Type} (manner : Manner) (known : List String)
    (read? : String → Option α) :
    Decoder α
  | .string (some name) =>
    match read? name with
    | some value => .ok value
    | none => .error (.unknownVariant name known)
  | .object [(some name, data)] ended =>
    match read? name with
    | some value =>
        if manner.isNothing data && ended then .ok value else .error .malformed
    | none => .error (.unknownVariant name known)
  | _ => .error .malformed

def optional {α : Type} (read : Decoder α) : Decoder (Option α)
  | .null => .ok none
  | data => (read data).map some

def list {α : Type} (read : Decoder α) : Decoder (List α)
  | .array items ended => do
    let values ← items.mapM read
    if ended then .ok values else .error .malformed
  | _ => .error .malformed

/-- What the absence of a field means. -/
inductive Absence
  /-- The record is faulty. -/
  | refused
  /-- An object may leave the field out, a list may not. -/
  | allowed
  /-- The field keeps its default. -/
  | defaulted
  deriving DecidableEq, Repr

/-- One field of a record under construction. -/
structure Field (σ : Type) where
  name : String
  absence : Absence
  read : Data → σ → Except DecodeFault σ

variable {σ : Type}

/-- Reads the fields of an object one after another; gives the names seen and
the record. -/
def readFields (manner : Manner) (known : List (Field σ)) :
    List (Option String × Data) → List String → σ →
      Except DecodeFault (List String × σ)
  | [], seen, record => .ok (seen, record)
  | (none, _) :: _, _, _ => .error .malformed
  | (some name, value) :: fields, seen, record =>
    match known.find? (·.name = name) with
    | none =>
      if manner.closed then .error (.unknownField name (known.map Field.name))
      else if value.whole then readFields manner known fields seen record
      else .error .malformed
    | some field =>
      if seen.contains name then .error (.duplicateField name)
      else do
        let record ← field.read value record
        readFields manner known fields (name :: seen) record

/-- Reads the items of a list as the fields in order. -/
def readItems (manner : Manner) :
    List (Field σ) → List Data → σ → Except DecodeFault σ
  | [], [], record => .ok record
  | [], _ :: _, record => if manner.spare then .ok record else .error .malformed
  | field :: known, [], record =>
    if field.absence = .defaulted then readItems manner known [] record
    else .error .malformed
  | field :: known, item :: items, record => do
    let record ← field.read item record
    readItems manner known items record

/-- The first field that may not be absent and is. -/
def missing? (known : List (Field σ)) (seen : List String) : Option String :=
  (known.find? fun field =>
    field.absence = .refused && !seen.contains field.name).map Field.name

def record (manner : Manner) (known : List (Field σ)) (start : σ) : Decoder σ
  | .object fields ended => do
    let (seen, record) ← readFields manner known fields [] start
    if !ended then .error .malformed
    else
      match missing? known seen with
      | some name => .error (.missingField name)
      | none => .ok record
  | .array items ended => do
    let record ← readItems manner known items start
    if ended then .ok record else .error .malformed
  | _ => .error .malformed

end Decoder

end LintMend
