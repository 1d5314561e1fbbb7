import LintMend.Fix.Basic

/-!
# Declarations that are never reassigned

`let` becomes `const` on a line that declares a single name and gives it a
value. A comma outside brackets and literals means several names, and those
lines are left to a reader.
-/

namespace LintMend.Fix

def beginsName (c : Char) : Bool :=
  c.isAlpha || c == '_' || c == '$'

def continuesName (c : Char) : Bool :=
  Text.isWord c || c == '$'

/-- Whether blanks, a name, blanks and an equals sign follow. -/
def bindsName (text : Text) : Bool :=
  match text, Text.trimStart text with
  | c :: _, d :: rest =>
    Text.isBlank c && beginsName d
      && Text.startsWith (Text.trimStart (rest.dropWhile continuesName)) ['=']
  | _, _ => false

/-- What follows `let` at the start of a declaration that gives one name a
value. -/
def afterLet? (line : Text) : Option Text :=
  match Text.after? ['l', 'e', 't'] (Text.trimStart line) with
  | some rest => if bindsName rest then some rest else none
  | none => none

def letToConst (buffer : Buffer) (number : Nat) : Result := do
  let text ← lineOf buffer number
  let (code, comment) := Scan.splitComment ['/', '/'] text
  match afterLet? code with
  | none => .error .notSingleLet
  | some rest =>
    if Scan.hasTopLevel ',' ['/', '/'] code then .error .notSingleLet
    else
      .ok (buffer.setLine number
          (Text.indent code ++ "const".toList ++ rest ++ comment))

end LintMend.Fix
