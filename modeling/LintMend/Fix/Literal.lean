import LintMend.Fix.Basic

/-!
# String literals without placeholders

A line of code is read into string literals and what stands between them. A
literal has the run of letters, digits and underscores directly before its quote
as its lead, and is closed by its own mark: one quote, or three. An `f` that
leads a literal without braces is dropped.
-/

namespace LintMend.Fix

/-- A piece of a line: code, or one string literal. -/
inductive Token
  | code (text : Text)
  | literal (lead : Text) (mark : Text) (body : Text)
  deriving DecidableEq, Repr

def Token.text : Token → Text
  | code text => text
  | literal lead mark body => lead ++ mark ++ body ++ mark

/-- Splits what follows an opening quote at the quote that closes it; a
backslash hides the character behind it. -/
def closeSingle? (quote : Char) : Text → Option (Text × Text)
  | [] => none
  | '\\' :: [] => none
  | '\\' :: c :: rest =>
    (closeSingle? quote rest).map fun (body, behind) =>
      ('\\' :: c :: body, behind)
  | c :: rest =>
    if c = quote then some ([], rest)
    else (closeSingle? quote rest).map fun (body, behind) => (c :: body, behind)

/-- Splits what follows an opening mark at its next occurrence. -/
def closeTriple? (mark : Text) (text : Text) : Option (Text × Text) :=
  Text.cut? mark text

def isLeadCharacter (c : Char) : Bool :=
  c.isAlphanum || c == '_'

/-- The characters that may lead a literal, from the end of a text that is given
in reverse. -/
def leadOfReversed (reversed : Text) : Text :=
  (reversed.takeWhile isLeadCharacter).reverse

/-- Reads the literal whose opening quote stands in front; gives its mark, body
and the rest. -/
def openLiteral? (quote : Char) (rest : Text) : Option (Text × Text × Text) :=
  match rest with
  | a :: b :: inside =>
    if a = quote ∧ b = quote then
      (closeTriple? [quote, quote, quote] inside).map fun (body, behind) =>
        ([quote, quote, quote], body, behind)
    else (closeSingle? quote rest).map fun (body, behind) =>
      ([quote], body, behind)
  | _ => (closeSingle? quote rest).map fun (body, behind) =>
      ([quote], body, behind)

/-- The code read so far, given in reverse, as a token without the lead of the
literal that follows. -/
def codeToken (reversed : Text) : List Token :=
  if reversed = [] then [] else [.code reversed.reverse]

/-- Reads on behind the code given in reverse. A literal that is never closed
ends the reading: all that remains is code. -/
def tokensFrom (reversed text : Text) : List Token :=
  match text with
  | [] => codeToken reversed
  | c :: rest =>
    if c = '"' ∨ c = '\'' then
      match openLiteral? c rest with
      | none => codeToken (rest.reverse ++ c :: reversed)
      | some (mark, body, behind) =>
        if behind.length < rest.length + 1 then
          let lead := leadOfReversed reversed
          codeToken (reversed.drop lead.length)
            ++ Token.literal lead mark body :: tokensFrom [] behind
        else codeToken (rest.reverse ++ c :: reversed)
    else tokensFrom (c :: reversed) rest
termination_by text.length

def tokens (code : Text) : List Token :=
  tokensFrom [] code

/-- Braces hold placeholders. -/
def hasBrace (body : Text) : Bool :=
  body.any fun c => c == '{' || c == '}'

/-- A literal in single marks led by `f` alone whose body has no brace loses its
lead. -/
def Token.plain : Token → Token
  | literal lead mark body =>
    if mark.length = 1 ∧ (lead = ['f'] ∨ lead = ['F']) ∧
      hasBrace body = false then
        literal [] mark body
    else literal lead mark body
  | code text => code text

def plainLiterals (code : Text) : Text :=
  ((tokens code).map Token.plain).flatMap Token.text

def plainLine (buffer : Buffer) (number : Nat) : Result :=
  changeCode plainLiterals .noPlainLiteral buffer number

end LintMend.Fix
