import LintMend.Fix.Basic

/-!
# Comparisons to singletons

`==` and `!=` next to `None`, `True` or `False` become `is` and `is not`. The
operator may stand on either side of the singleton, with any blanks between
them, and the singleton has to be a whole word. Literals and comments are left
alone.
-/

namespace LintMend.Fix

/-- The two comparisons by value. -/
inductive Equality
  | equal
  | unequal
  deriving DecidableEq, Repr

namespace Equality

def sign : Equality → Text
  | equal => ['=', '=']
  | unequal => ['!', '=']

/-- The comparison by identity that stands for it. -/
def identity : Equality → Text
  | equal => "is".toList
  | unequal => "is not".toList

def read? (text : Text) : Option (Equality × Text) :=
  match text with
  | '=' :: '=' :: rest => some (equal, rest)
  | '!' :: '=' :: rest => some (unequal, rest)
  | _ => none

end Equality

/-- Whether a word that ends here is not continued. -/
def wordEnds (rest : Text) : Bool :=
  match rest with
  | [] => true
  | c :: _ => !Text.isWord c

/-- Reads the first of the words that the text starts with. -/
def readWord? (words : List Text) (text : Text) : Option (Text × Text) :=
  words.findSome? fun word => (Text.after? word text).map fun rest =>
    (word, rest)

/-- Reads blanks, an operator, blanks and a whole singleton; gives the new text
and the rest. -/
def rightSide? (singletons : List Text) (_before : Option Char) (text : Text) :
    Option (Text × Text) := do
  let (operator, rest) ← Equality.read? (Text.trimStart text)
  let (singleton, rest) ← readWord? singletons (Text.trimStart rest)
  if wordEnds rest then
    some ([' '] ++ operator.identity ++ [' '] ++ singleton, rest)
  else none

/-- Reads a singleton that begins a word, blanks, an operator and blanks. -/
def leftSide? (singletons : List Text) (before : Option Char) (text : Text) :
    Option (Text × Text) := do
  if (before.map Text.isWord).getD false then none
  else
    let (singleton, rest) ← readWord? singletons text
    let (operator, rest) ← Equality.read? (Text.trimStart rest)
    some (singleton ++ [' '] ++ operator.identity ++ [' '], Text.trimStart rest)

/-- Goes through a text from the left and replaces what the reader reads. The
reader sees the character before the place where it reads; one that reads
nothing away is not obeyed. -/
def replaceAll (read? : Option Char → Text → Option (Text × Text))
    (before : Option Char) (text : Text) : Text :=
  match text with
  | [] => []
  | c :: rest =>
    match read? before (c :: rest) with
    | none => c :: replaceAll read? (some c) rest
    | some (written, behind) =>
      if behind.length < rest.length + 1 then
        let last := (c :: rest)[rest.length - behind.length]?
        written ++ replaceAll read? last behind
      else c :: replaceAll read? (some c) rest
termination_by text.length

/-- Comparisons in a run of code outside literals, first those with the
singleton on the right, then those with it on the left. -/
def identityComparisons (singletons : List Text) (code : Text) : Text :=
  replaceAll (leftSide? singletons) none
    (replaceAll (rightSide? singletons) none code)

def noneIdentity (buffer : Buffer) (number : Nat) : Result :=
  changeCode (Scan.mapUnquoted (identityComparisons ["None".toList]))
    .noNoneComparison
    buffer number

def boolIdentity (buffer : Buffer) (number : Nat) : Result :=
  changeCode
    (Scan.mapUnquoted (identityComparisons ["True".toList, "False".toList]))
    .noBoolComparison buffer number

end LintMend.Fix
