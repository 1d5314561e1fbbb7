import LintMend.Json.Value

/-!
# Parts of JSON values

What a value is, where it is of the kind that is asked for.
-/

namespace LintMend

namespace Json

def text? : Json → Option String
  | string value => some value
  | _ => none

def int? : Json → Option Int
  | integer value => some value
  | _ => none

def nat? : Json → Option Nat
  | integer (.ofNat value) => some value
  | _ => none

/-- Integers are numbers too. -/
def number? : Json → Option Float
  | integer value => some (Float.ofInt value)
  | float value => some value
  | _ => none

def bool? : Json → Option Bool
  | bool value => some value
  | _ => none

/-- The items of an array; other values have none. -/
def items : Json → List Json
  | array items => items
  | _ => []

/-- The fields of an object; other values have none. -/
def fields : Json → List (String × Json)
  | object fields => fields
  | _ => []

/-- The value of a field that is not null. -/
def present? (json : Json) (key : String) : Option Json :=
  match json.get? key with
  | some null => none
  | found => found

end Json

end LintMend
