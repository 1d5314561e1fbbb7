import LintMend.Decimal.Binary

/-!
# Structured data

Values as they are read from a text in some data format, before anything is
known about what they should be. Reading never fails as a whole: where the text
stops being readable the data is `broken`, and everything in front of that place
is still there. So a decoder that walks through the data in order meets its
first fault where a reader of the text would meet it.
-/

namespace LintMend

inductive Data
  | null
  | bool (value : Bool)
  | integer (value : Int)
  | float (value : Float)
  /-- A number that has no value, such as one that is too large. -/
  | valueless
  /-- A string; it has no value if it spells half a surrogate pair. -/
  | string (value : Option String)
  /-- A list, and whether its end was reached. -/
  | array (items : List Data) (ended : Bool)
  /-- Fields in order, and whether the end was reached. -/
  | object (fields : List (Option String × Data)) (ended : Bool)
  | broken
  deriving Repr, Inhabited

namespace Data

mutual

/-- Whether the text was readable all through, values or not. -/
def whole : Data → Bool
  | broken => false
  | array items ended => ended && wholeItems items
  | object fields ended => ended && wholeFields fields
  | null | bool _ | integer _ | float _ | valueless | string _ => true

def wholeItems : List Data → Bool
  | [] => true
  | item :: items => item.whole && wholeItems items

def wholeFields : List (Option String × Data) → Bool
  | [] => true
  | (_, value) :: fields => value.whole && wholeFields fields

end

/-- An object with its fields in the order of their names. -/
def byName (fields : List (Option String × Data)) : Data :=
  .object (fields.mergeSort fun left right =>
    !(right.1.getD "" < left.1.getD "")) true

end Data

end LintMend
