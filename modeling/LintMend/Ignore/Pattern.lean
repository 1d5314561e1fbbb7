import LintMend.Text.Basic
import LintMend.Text.Marks
import LintMend.Text.Utf8

/-!
# Patterns of ignore files

`?` stands for one byte and `*` for any run of bytes, but neither for a slash.
`**` as a whole path step stands for any number of steps, a set in brackets for
one of its bytes, and braces list alternatives. A backslash takes the special
meaning from the character behind it. A bracket that is never closed stands for
itself, as do all brackets behind it.

Empty alternatives do not count: braces stand for one of their alternatives that
are not empty, and for nothing if there is none.
-/

namespace LintMend

/-- One piece of a pattern. -/
inductive IgnoreToken
  | byte (value : UInt8)
  | anyByte
  | anyRun
  /-- Any number of whole steps in front. -/
  | leadingSteps
  /-- Everything below. -/
  | trailingSteps
  /-- A slash, or any number of whole steps between two slashes. -/
  | innerSteps
  | set (negated : Bool) (ranges : List (UInt8 × UInt8))
  /-- One of the alternatives; without any it stands for nothing. -/
  | choice (alternatives : List (List IgnoreToken))
  deriving Repr

/-- Whether a token stands for nothing. -/
def IgnoreToken.isNothing : IgnoreToken → Bool
  | choice [] => true
  | _ => false

abbrev IgnorePattern := List IgnoreToken

namespace IgnorePattern

def slash : UInt8 := 0x2F

/-! ## Reading -/

/-- The bytes of a set's member. Both ends of a range may take several bytes;
then the last byte of the first end and the first byte of the last end form the
range, and the others stand for themselves. -/
def memberRanges (first last : Char) : List (UInt8 × UInt8) :=
  let low := String.utf8EncodeChar first
  let high := String.utf8EncodeChar last
  let single (bytes : Bytes) : List (UInt8 × UInt8) := bytes.map fun b => (b, b)
  if first = last then single low
  else
    single low.dropLast ++ [(low.getLastD 0, high.headD 0)] ++ single high.tail

/-- Why a set cannot be read. -/
inductive SetFault
  | unclosed
  | reversedRange
  deriving DecidableEq, Repr

/-- Reads the members of a set up to its bracket. `pending` tells whether a
hyphen waits for the end of its range. -/
def readMembers (isFirst pending : Bool) (members : List (Char × Char)) :
    Text → Except SetFault (List (Char × Char) × Text)
  | [] => .error .unclosed
  | c :: rest =>
    if c = ']' ∧ !isFirst then
      .ok (if pending then members ++ [('-', '-')] else members, rest)
    else if c = '-' ∧ !isFirst ∧ !pending then
      readMembers false true members rest
    else if pending then
      match members.getLast? with
      | some (first, _) =>
        if c < first then .error .reversedRange
        else readMembers false false (members.dropLast ++ [(first, c)]) rest
      | none => readMembers false false [(c, c)] rest
    else readMembers false false (members ++ [(c, c)]) rest

/-- Reads a set from behind its opening bracket. -/
def readSet (text : Text) : Except SetFault (IgnoreToken × Text) := do
  let (negated, members) :=
    match text with
    | '!' :: rest => (true, rest)
    | '^' :: rest => (true, rest)
    | _ => (false, text)
  let (found, behind) ← readMembers true false [] members
  return (.set negated (found.flatMap fun (first, last) =>
    memberRanges first last), behind)

/-- Braces that are open: the tokens in front of them, from the last one to the
first, and the alternatives that are complete. -/
structure Frame where
  before : List IgnoreToken
  complete : List IgnorePattern
  deriving Repr

/-- Where the reading stands. -/
structure Reading where
  /-- What stands directly in front. -/
  previous : Option Char
  /-- The tokens of the pattern, or of the alternative that is being read, from
  the last one to the first. -/
  tokens : List IgnoreToken
  frames : List Frame
  /-- Whether brackets stand for themselves. -/
  plainBrackets : Bool
  deriving Repr

namespace Reading

def start : Reading :=
  { previous := none, tokens := [], frames := [], plainBrackets := false }

def push (reading : Reading) (token : IgnoreToken) : Reading :=
  { reading with tokens := token :: reading.tokens }

def pushChar (reading : Reading) (c : Char) : Reading :=
  (String.utf8EncodeChar c).foldl (fun reading b =>
    reading.push (.byte b)) reading

def pushRuns (reading : Reading) : Reading :=
  (reading.push .anyRun).push .anyRun

/-- Adds steps behind a slash, which they take in. -/
def pushSteps (reading : Reading) (isLast : Bool) : Reading :=
  match reading.tokens with
  | .leadingSteps :: _ | .trailingSteps :: _ => reading
  | tokens =>
    { reading with
      tokens :=
        (if isLast then .trailingSteps else .innerSteps) :: tokens.drop 1 }

def openBrace (reading : Reading) : Reading :=
  { reading with
    tokens := []
    frames := { before := reading.tokens, complete := [] } :: reading.frames }

/-- Ends one alternative and begins the next one; outside of braces there is
none. -/
def nextAlternative? (reading : Reading) : Option Reading :=
  match reading.frames with
  | [] => none
  | frame :: frames =>
    let complete := frame.complete ++ [reading.tokens.reverse]
    some { reading with
      tokens := [], frames := { frame with complete } :: frames }

def closeBrace? (reading : Reading) : Option Reading :=
  match reading.frames with
  | [] => none
  | frame :: frames =>
    let alternatives :=
      (frame.complete ++ [reading.tokens.reverse]).filter fun alternative =>
        !alternative.all IgnoreToken.isNothing
    some { reading with tokens := .choice alternatives :: frame.before, frames }

end Reading

/-- Handles stars. Two stars are whole steps if slashes or the ends of the
pattern or of an alternative enclose them. -/
def readStar (reading : Reading) (rest : Text) : Reading × Text :=
  match rest with
  | '*' :: behind =>
    if reading.tokens.isEmpty then
      match behind with
      | [] => (reading.push .leadingSteps, [])
      | '/' :: after =>
          ({ reading.push .leadingSteps with previous := some '/' }, after)
      | _ => ({ reading.pushRuns with previous := some '*' }, behind)
    else if reading.previous ≠ some '/'
        ∧ (reading.frames = [] ∨
            (reading.previous ≠ some ',' ∧ reading.previous ≠ some '{')) then
      ({ reading.pushRuns with previous := some '*' }, behind)
    else
      match behind with
      | [] => (reading.pushSteps true, [])
      | '/' :: after =>
          ({ reading.pushSteps false with previous := some '/' }, after)
      | c :: _ =>
        if (c = ',' ∨ c = '}') ∧ reading.frames ≠ [] then
          ({ reading.pushSteps true with previous := some '*' }, behind)
        else ({ reading.pushRuns with previous := some '*' }, behind)
  | _ => ({ reading.push .anyRun with previous := some '*' }, rest)

def readFrom : Nat → Reading → Text → Option IgnorePattern
  | 0, _, _ => none
  | fuel + 1, reading, text =>
    match text with
    | [] => if reading.frames.isEmpty then some reading.tokens.reverse else none
    | c :: rest =>
      let next (reading : Reading) : Option IgnorePattern :=
        readFrom fuel { reading with previous := some c } rest
      if c = '?' then next (reading.push .anyByte)
      else if c = '*' then
        let (reading, behind) := readStar reading rest
        readFrom fuel reading behind
      else if c = '[' ∧ !reading.plainBrackets then
        match readSet rest with
        | .ok (token, behind) =>
          readFrom fuel { reading.push token with previous := some ']' } behind
        | .error .unclosed =>
            next { reading.pushChar c with plainBrackets := true }
        | .error .reversedRange => none
      else if c = '{' then next reading.openBrace
      else if c = '}' then reading.closeBrace?.bind next
      else if c = ',' then
        next (reading.nextAlternative?.getD (reading.pushChar c))
      else if c = '\\' then
        match rest with
        | escaped :: behind =>
          readFrom fuel { reading.pushChar escaped with
            previous := some escaped } behind
        | [] => none
      else next (reading.pushChar c)

def ofText? (text : Text) : Option IgnorePattern :=
  readFrom (text.length + 1) .start text

/-! ## Nesting

The matcher takes a pattern as an expression: sequences, alternatives, groups,
sets and repetitions, each of which is one level around its parts.
-/

/-- The parts that a token adds to a sequence. -/
def partCount : IgnoreToken → Nat
  | .choice [] => 0
  | .trailingSteps => 2
  | _ => 1

mutual

/-- The levels of a token. -/
def tokenDepth : IgnoreToken → Nat
  | .byte _ => 0
  | .anyByte | .trailingSteps => 1
  | .anyRun => 2
  | .leadingSteps | .innerSteps => 4
  | .set _ ranges => if ranges.length ≤ 1 then 1 else 2
  | .choice [] => 0
  | .choice (alternative :: more) =>
    (if more.isEmpty then 1 else 2) +
      choiceDepth (sequenceDepth 0 0 alternative) more

/-- The levels of a sequence, behind a front of so many parts and levels. -/
def sequenceDepth (parts depth : Nat) : List IgnoreToken → Nat
  | [] => if parts ≤ 1 then depth else depth + 1
  | token :: tokens =>
    sequenceDepth (parts + partCount token)
      (max depth (tokenDepth token)) tokens

def choiceDepth (depth : Nat) : List (List IgnoreToken) → Nat
  | [] => depth
  | alternative :: more =>
      choiceDepth (max depth (sequenceDepth 0 0 alternative)) more

end

/-- The most levels that the matcher takes. -/
def maxDepth : Nat := 250

/-- Whether the matcher takes a pattern, which it anchors at both ends of a
path. -/
def isShallow (pattern : IgnorePattern) : Bool :=
  sequenceDepth 2 0 pattern ≤ maxDepth

/-! ## Matching -/

def hasByte (b : UInt8) (ranges : List (UInt8 × UInt8)) : Bool :=
  ranges.any fun (low, high) => decide (low ≤ b) && decide (b ≤ high)

/-- Marks the rests that are marked, or have a marked rest behind one of their
slashes. -/
def stepsMarks (path : Bytes) (marks : Marks) : Marks :=
  marks.either (marks.behind (· == slash) path)

mutual

/-- The rests of a path that begin with what a token stands for and go on with a
marked rest. -/
def tokenMarks (path : Bytes) (marks : Marks) : IgnoreToken → Marks
  | .byte value => marks.step (· == value) path
  | .anyByte => marks.step (· != slash) path
  | .anyRun => marks.run (· != slash) path
  | .leadingSteps => stepsMarks path marks
  | .trailingSteps => (marks.run (fun _ => true) path).step (· == slash) path
  | .innerSteps => (stepsMarks path marks).step (· == slash) path
  | .set negated ranges =>
      marks.step (fun b => hasByte b ranges != negated) path
  | .choice [] => marks
  | .choice (first :: more) =>
      choiceMarks path marks (tokensMarks path marks first) more

def tokensMarks (path : Bytes) (marks : Marks) : List IgnoreToken → Marks
  | [] => marks
  | token :: tokens => tokenMarks path (tokensMarks path marks tokens) token

/-- Adds the rests that begin with one of the alternatives. -/
def choiceMarks (path : Bytes) (marks found : Marks) :
    List (List IgnoreToken) → Marks
  | [] => found
  | tokens :: more =>
      choiceMarks path marks (found.either (tokensMarks path marks tokens)) more

end

/-- Steps alone stand for every path. -/
def accepts (pattern : IgnorePattern) (path : Bytes) : Bool :=
  match pattern with
  | [.leadingSteps] => true
  | _ => (tokensMarks path (.atEnd path) pattern).first

end IgnorePattern

end LintMend
