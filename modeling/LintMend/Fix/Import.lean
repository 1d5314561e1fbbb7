import LintMend.Fix.Basic

/-!
# Unused imports

The message of the finding names the unused import between grave accents. The
name is looked up among the items of the import statement on the line; the item
goes, and with the last item the whole statement. Where that would leave a block
without a statement, `pass` takes its place.
-/

namespace LintMend.Fix

/-- The text in front of the next grave accent and the text behind it. -/
def cutAccent? : Text → Option (Text × Text)
  | [] => none
  | c :: rest =>
    if c = Quoting.graveAccent then some ([], rest)
    else (cutAccent? rest).map fun (inside, behind) => (c :: inside, behind)

/-- The first text between two grave accents that is not empty. -/
def quotedName? : Text → Option Text
  | [] => none
  | c :: rest =>
    if c = Quoting.graveAccent then
      match cutAccent? rest with
      | some (name@(_ :: _), _) => some name
      | _ => quotedName? rest
    else quotedName? rest

/-- One item of an import list: the name, perhaps another name for it, and how
it is written. -/
structure ImportItem where
  imported : Text
  alternative : Option Text
  text : Text
  deriving DecidableEq, Repr

namespace ImportItem

def ofText (text : Text) : ImportItem :=
  match Text.cut? " as ".toList text with
  | some (imported, alternative) =>
    { imported := Text.trim imported, alternative :=
      some (Text.trim alternative), text }
  | none => { imported := Text.trim text, alternative := none, text }

/-- The items between commas; empty ones do not count. -/
def list (text : Text) : List ImportItem :=
  (((text.splitOn ',').map Text.trim).filter (· ≠ [])).map ofText

end ImportItem

/-- An import statement on one line. -/
structure Import where
  /-- The module of a `from` import. -/
  module : Option Text
  items : List ImportItem
  deriving DecidableEq, Repr

namespace Import

/-- The text behind at least one blank and all blanks that follow it; something
has to remain. -/
def afterBlanks? : Text → Option Text
  | [] => none
  | c :: rest =>
    if Text.isBlank c then
      match Text.trimStart rest with
      | [] => none
      | behind => some behind
    else none

/-- What follows a keyword and the blanks behind it. -/
def afterKeyword? (keyword text : Text) : Option Text :=
  (Text.after? keyword text).bind afterBlanks?

def ofFrom? (code : Text) : Option Import := do
  let rest ← afterKeyword? "from".toList code
  let module := rest.takeWhile fun c => !Text.isBlank c
  let rest ← afterBlanks? (rest.drop module.length)
  let list ← afterKeyword? "import".toList rest
  some { module := some module, items := ImportItem.list list }

def ofPlain? (code : Text) : Option Import := do
  let list ← afterKeyword? "import".toList code
  some { module := none, items := ImportItem.list list }

/-- Reads code without blanks at its ends. -/
def ofCode? (code : Text) : Option Import :=
  (ofFrom? code).or (ofPlain? code)

/-- How the statement is written in front of its items. -/
def opening : Import → Text
  | { module := some module, .. } =>
      "from ".toList ++ module ++ " import ".toList
  | { module := none, .. } => "import ".toList

/-- Whether a name from a message means this item. -/
def names (statement : Import) (target : Text) (item : ImportItem) : Bool :=
  let last := Text.afterLast '.' target
  item.imported == target || item.alternative ==
    some target || item.alternative == some last
    || match statement.module with
      | some module =>
          module ++ ['.'] ++ item.imported == target || item.imported == last
      | none => false

/-- The place of the first item the name means. -/
def find? (statement : Import) (target : Text) : Option Nat :=
  statement.items.findIdx? (statement.names target)

end Import

/-- A line that is neither blank nor a comment. -/
def isSignificant (text : Text) : Bool :=
  !Text.blank text && !Text.startsWith (Text.trimStart text) ['#']

/-- A line whose code ends in a colon. -/
def opensBlock (text : Text) : Bool :=
  Text.endsWith (Text.trimEnd (Scan.splitComment ['#'] text).1) [':']

/-- Whether the indented line is all there is of a block: the significant line
before it opens a block, and the one behind it, if any, is indented less. -/
def isOnlyStatement (buffer : Buffer) (number : Nat) (indent : Text) : Bool :=
  let texts := buffer.lines.map Line.text
  let before := (texts.take (number - 1)).reverse.find? isSignificant
  let behind := (texts.drop number).find? isSignificant
  let opens := (before.map opensBlock).getD false
  let continues :=
    (behind.map fun next => decide
      (Text.byteLength indent ≤ Text.byteLength (Text.indent next))).getD false
  !indent.isEmpty && opens && !continues

/-- Files of a package whose imports are its public names. -/
def isPackageFile (path : Path) : Bool :=
  path.fileName? = some "__init__.py"

/-- The statement on a line, if it stands there alone. -/
def importOn (code : Text) : Except Refusal Import :=
  if Text.endsWith code ['\\'] ∨ '(' ∈ code ∨ ';' ∈ code then
    .error .importSpans
  else
    match Import.ofCode? code with
    | some statement => .ok statement
    | none => .error .notAnImport

def dropImport (keepPackageFiles : Bool) (path : Path) (message : Text)
    (buffer : Buffer) (number : Nat) : Result := do
  if keepPackageFiles && isPackageFile path then throw .publicImports
  let text ← lineOf buffer number
  let some target := quotedName? message | throw .unnamedImport
  let indent := Text.indent text
  let (code, comment) := Scan.splitComment ['#'] text
  let statement ← importOn (Text.trim code)
  let name := Text.trim (Text.upTo " as ".toList target)
  let some index := statement.find? name | throw (.notImported target number)
  let remaining := (statement.items.eraseIdx index).map ImportItem.text
  if remaining = [] then
    if isOnlyStatement buffer number indent then
      return buffer.setLine number (indent ++ "pass".toList)
    else return buffer.removeLine number
  else
    let code := indent ++ statement.opening ++ [',', ' '].intercalate remaining
    return buffer.setLine number (Scan.withComment code comment)

end LintMend.Fix
