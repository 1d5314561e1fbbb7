import LintMend.Arithmetic

/-!
# Text as a list of characters

Source lines, replies and file contents are read as lists of characters, so that
every scanner below is a structural recursion. This module holds the blank
characters, the trims, and the ways of cutting a text at a character or at a
word.
-/

namespace LintMend

open scoped Arithmetic

abbrev Text := List Char

namespace Text

/-- The characters with the Unicode property `White_Space`. -/
def isBlank (c : Char) : Bool :=
  let n := c.toNat
  (9 ≤ n && n ≤ 13) || n == 0x20 || n == 0x85 || n == 0xA0 || n == 0x1680
    || (0x2000 ≤ n && n ≤ 0x200A) || n == 0x2028 || n == 0x2029 || n == 0x202F
    || n == 0x205F || n == 0x3000

/-- Drops the longest run of characters with the property from the end. -/
def dropEndWhile (drops : Char → Bool) : Text → Text
  | [] => []
  | c :: rest =>
    match dropEndWhile drops rest with
    | [] => if drops c then [] else [c]
    | kept => c :: kept

def trimStart (text : Text) : Text :=
  text.dropWhile isBlank

def trimEnd (text : Text) : Text :=
  dropEndWhile isBlank text

def trim (text : Text) : Text :=
  trimEnd (trimStart text)

/-- Blank texts are the empty one and those made of blank characters only. -/
def blank (text : Text) : Bool :=
  text.all isBlank

/-- The blank characters in front of the first other one. -/
def indent (text : Text) : Text :=
  text.takeWhile isBlank

def startsWith (text start : Text) : Bool :=
  start.isPrefixOf text

def endsWith (text ending : Text) : Bool :=
  ending.isSuffixOf text

/-- The text after `start`, where it begins with `start`. -/
def after? (start : Text) : Text → Option Text
  | text =>
    match start, text with
    | [], rest => some rest
    | _ :: _, [] => none
    | s :: start, c :: rest => if s = c then after? start rest else none

/-- The text around the first occurrence of `word`. -/
def cut? (word : Text) : Text → Option (Text × Text)
  | [] => if word.isEmpty then some ([], []) else none
  | c :: rest =>
    match after? word (c :: rest) with
    | some behind => some ([], behind)
    | none => (cut? word rest).map fun (front, behind) => (c :: front, behind)

def contains (text word : Text) : Bool :=
  (cut? word text).isSome

/-- The text in front of the first occurrence of `word`, all of it where there
is none. -/
def upTo (word text : Text) : Text :=
  match cut? word text with
  | some (front, _) => front
  | none => text

/-- The piece behind the last separator, all of the text where there is none. -/
def afterLast (separator : Char) (text : Text) : Text :=
  (text.splitOn separator).getLastD text

/-- The number of bytes of the text in UTF-8. -/
def byteLength (text : Text) : Nat :=
  (text.map Char.utf8Size).sum

/-- Puts spaces in front until the text has the width. -/
def padStart (width : Nat) (text : Text) : Text :=
  List.replicate (width - text.length) ' ' ++ text

/-- Blanks at both ends of a string removed. -/
def trimmed (s : String) : String :=
  String.ofList (trim s.toList)

end Text

end LintMend
