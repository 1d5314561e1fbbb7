import LintMend.Path
import LintMend.Text.Marks

/-!
# Glob patterns

`?` stands for any character, `*` for any run of characters, `[...]` and
`[!...]` for the characters of a set or outside it, and `**` as a whole path
step for any number of steps. A pattern matches a whole text; a slash is a
character like any other but for `**`.
-/

namespace LintMend

/-- One member of a set in brackets. -/
inductive CharSet
  | single (c : Char)
  | range (first last : Char)
  deriving DecidableEq, Repr

def CharSet.has (c : Char) : CharSet → Bool
  | single d => c == d
  | range first last => decide (first ≤ c) && decide (c ≤ last)

inductive GlobToken
  | char (c : Char)
  | anyChar
  | anySequence
  /-- Any number of whole path steps. -/
  | anySteps
  | within (sets : List CharSet)
  | except (sets : List CharSet)
  deriving DecidableEq, Repr

inductive GlobFaultKind
  | wildcards
  | recursiveWildcards
  | invalidRange
  deriving DecidableEq, Repr

/-- Why a text is no pattern, and near which character. -/
structure GlobFault where
  position : Nat
  kind : GlobFaultKind
  deriving DecidableEq, Repr

def GlobFaultKind.message : GlobFaultKind → String
  | wildcards => "wildcards are either regular `*` or recursive `**`"
  | recursiveWildcards =>
      "recursive wildcards must form a single path component"
  | invalidRange => "invalid range pattern"

def GlobFault.message (fault : GlobFault) : String :=
  s!"Pattern syntax error near position {fault.position}: {fault.kind.message}"

abbrev Glob := List GlobToken

namespace Glob

def charSets : Text → List CharSet
  | first :: '-' :: last :: rest => .range first last :: charSets rest
  | c :: rest => .single c :: charSets rest
  | [] => []

/-- The text up to the first closing bracket, which is dropped, and the text
behind it. -/
def cutBracket? : Text → Option (Text × Text)
  | [] => none
  | c :: rest =>
    if c = ']' then some ([], rest)
    else (cutBracket? rest).map fun (inside, behind) => (c :: inside, behind)

/-- Reads a set from behind its opening bracket. The first member may be a
closing bracket. -/
def readSet? (text : Text) : Option (GlobToken × Text) :=
  match text with
  | '!' :: first :: rest =>
    (cutBracket? rest).map fun (inside, behind) =>
      (.except (charSets (first :: inside)), behind)
  | '!' :: [] => none
  | first :: rest =>
    (cutBracket? rest).map fun (inside, behind) =>
      (.within (charSets (first :: inside)), behind)
  | [] => none

/-- Reads on at a position; `previous` is the character before it. -/
def readFrom (position : Nat) (previous : Option Char) (text : Text) :
    Except GlobFault Glob :=
  match text with
  | [] => .ok []
  | c :: rest =>
    if c = '?' then
      (readFrom (position + 1) (some c) rest).map (.anyChar :: ·)
    else if c = '*' then
      let stars := (rest.takeWhile (· == '*')).length + 1
      let behind := rest.dropWhile (· == '*')
      if 2 < stars then .error ⟨position + 2, .wildcards⟩
      else if stars = 1 then
        (readFrom (position + 1) (some c) rest).map (.anySequence :: ·)
      else if previous ≠ none ∧ previous ≠ some '/' then
        .error ⟨position - 1, .recursiveWildcards⟩
      else
        match h : behind with
        | [] => .ok [.anySteps]
        | d :: after =>
          if d = '/' then
            have : after.length < rest.length + 1 := by
              have shorter :=
                (List.dropWhile_suffix (l := rest) (· == '*')).length_le
              change behind.length ≤ rest.length at shorter
              simp [h] at shorter
              omega
            (readFrom (position + 3) (some d) after).map (.anySteps :: ·)
          else .error ⟨position + 2, .recursiveWildcards⟩
    else if c = '[' then
      match readSet? rest with
      | none => .error ⟨position, .invalidRange⟩
      | some (token, behind) =>
        if behind.length < rest.length + 1 then
          (readFrom (position + (rest.length + 1 - behind.length))
            (some ']') behind).map
            (token :: ·)
        else .error ⟨position, .invalidRange⟩
    else (readFrom (position + 1) (some c) rest).map (.char c :: ·)
termination_by text.length

def ofText (text : Text) : Except GlobFault Glob :=
  readFrom 0 none text

/-- The rests of a text that begin with what a token stands for and go on with a
marked rest. -/
def tokenMarks (token : GlobToken) (text : Text) (marks : Marks) : Marks :=
  match token with
  | .char d => marks.step (· == d) text
  | .anyChar => marks.step (fun _ => true) text
  | .anySequence => marks.run (fun _ => true) text
  | .anySteps =>
      (marks.either (marks.behind (· == '/') text)).either marks.toEnd
  | .within sets => marks.step (fun c => sets.any (CharSet.has c)) text
  | .except sets => marks.step (fun c => !(sets.any (CharSet.has c))) text

/-- The rests of a text that a pattern matches. -/
def marks (glob : Glob) (text : Text) : Marks :=
  glob.foldr (fun token marks => tokenMarks token text marks) (.atEnd text)

def accepts (glob : Glob) (text : Text) : Bool :=
  (glob.marks text).first

end Glob

/-- The patterns of paths to skip. -/
abbrev SkipPatterns := List Glob

namespace SkipPatterns

/-- Slashes at the end of a pattern do not count. -/
def pattern (text : String) : Except GlobFault Glob :=
  Glob.ofText (Text.dropEndWhile (· == '/') text.toList)

def ofStrings (texts : List String) : Except GlobFault SkipPatterns :=
  texts.mapM pattern

/-- A path below the repository is skipped if a pattern matches all of it or one
of its steps. -/
def skips (patterns : SkipPatterns) (path : Path) : Bool :=
  patterns.any fun glob =>
    glob.accepts path.text.toList
      || path.components.any fun step => glob.accepts step.text.toList

end SkipPatterns

end LintMend
