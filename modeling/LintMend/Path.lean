import LintMend.Text.Basic

/-!
# Paths

A path keeps the text it was written with, and is compared by its components:
repeated slashes and inner `.` steps make no difference, a leading `./` does.
The order is that of the component lists, so everything below a directory stands
together.
-/

namespace LintMend

/-- One step of a path. `here` occurs only in front. -/
inductive Component
  | root
  | here
  | up
  | name (text : String)
  deriving DecidableEq, Repr

namespace Component

def rank : Component → Nat
  | root => 0
  | here => 1
  | up => 2
  | name _ => 3

/-- Names follow one another by code point. -/
def compare (left right : Component) : Ordering :=
  match left, right with
  | name a, name b => Ord.compare a b
  | _, _ => Ord.compare left.rank right.rank

def text : Component → String
  | root => "/"
  | here => "."
  | up => ".."
  | name text => text

end Component

structure Path where
  text : String
  deriving Repr, Inhabited

namespace Path

def ofPiece? (piece : Text) : Option Component :=
  if piece = [] ∨ piece = ['.'] then none
  else if piece = ['.', '.'] then some .up
  else some (.name (String.ofList piece))

/-- The steps of the path. -/
def components (path : Path) : List Component :=
  let chars := path.text.toList
  let pieces := chars.splitOn '/'
  let front : List Component :=
    if Text.startsWith chars ['/'] then [.root]
    else if pieces.head? = some ['.'] then [.here]
    else []
  front ++ pieces.filterMap ofPiece?

def compareSteps : List Component → List Component → Ordering
  | [], [] => .eq
  | [], _ :: _ => .lt
  | _ :: _, [] => .gt
  | a :: left, b :: right => (a.compare b).then (compareSteps left right)

def compare (left right : Path) : Ordering :=
  compareSteps left.components right.components

/-- Two paths that name the same steps. -/
def same (left right : Path) : Bool :=
  left.components == right.components

instance : BEq Path := ⟨same⟩

def isAbsolute (path : Path) : Bool :=
  path.text.startsWith "/"

/-- An absolute right-hand side replaces the left one; otherwise it is appended
behind one slash. -/
def join (base more : Path) : Path :=
  if more.isAbsolute then more
  else if base.text.isEmpty || base.text.endsWith "/" then
    ⟨base.text ++ more.text⟩
  else ⟨base.text ++ "/" ++ more.text⟩

/-- Writes steps one after another, with one slash between neighbours. -/
def ofComponents : List Component → Path
  | .root :: rest => ⟨"/" ++ "/".intercalate (rest.map Component.text)⟩
  | steps => ⟨"/".intercalate (steps.map Component.text)⟩

/-- The path with another last step. -/
def withLast (path : Path) (name : String) : Path :=
  ofComponents (path.components.dropLast ++ [.name name])

/-- The last step, where it is a name. -/
def fileName? (path : Path) : Option String :=
  match path.components.getLast? with
  | some (.name text) => some text
  | _ => none

/-- What follows the last dot of the file name, if a character stands in front
of the dot. -/
def extension? (path : Path) : Option String := do
  let chars := (← path.fileName?).toList
  let ending := Text.afterLast '.' chars
  if ending.length + 1 < chars.length then some (String.ofList ending) else none

def isStep (piece : Text) : Bool :=
  (ofPiece? piece).isSome

/-- The pieces behind the first steps. -/
def dropSteps : Nat → List Text → List Text
  | 0, pieces => pieces
  | _ + 1, [] => []
  | count + 1, piece :: pieces =>
    dropSteps (if isStep piece then count else count + 1) pieces

/-- The pieces from the first step to the last one. -/
def trimPieces (pieces : List Text) : List Text :=
  ((pieces.dropWhile (!isStep ·)).reverse.dropWhile (!isStep ·)).reverse

/-- What a path says below an absolute one, as it is written there. -/
def below? (base path : Path) : Option Path :=
  let front := base.components
  if base.isAbsolute && front.isPrefixOf path.components then
    let pieces := dropSteps front.tail.length (path.text.toList.splitOn '/')
    some ⟨String.ofList (['/'].intercalate (trimPieces pieces))⟩
  else none

end Path

end LintMend
