import LintMend.Ignore.Directory

/-!
# The ignore file of a user

A user may have rules for all repositories. The settings of the user's git name
their file as `excludesfile`; the first settings that name one decide, and where
none does the file stands beside the settings.
-/

namespace LintMend

namespace GitSettings

def newline : UInt8 := 0x0A

def quote : UInt8 := 0x22

def isSpace (b : UInt8) : Bool :=
  (9 ≤ b && b ≤ 13) || b == 0x20

/-- Whether only blanks stand in front of the line's end. -/
def endsLine (content : Bytes) : Bool :=
  match content.dropWhile fun b => isSpace b && b != newline with
  | [] => true
  | b :: _ => b == newline

/-- The word in front, without a quote at its end. Behind it the line ends; a
quote with blanks around it may still stand there. -/
def word? (content : Bytes) : Option Bytes :=
  let content := content.dropWhile isSpace
  let word := content.takeWhile fun b => !isSpace b
  let behind := content.drop word.length
  if word.isEmpty then none
  else if endsLine behind then
    some (if 1 < word.length ∧
        word.getLast? = some quote then word.dropLast else word)
  else
    match behind.dropWhile isSpace with
    | b :: rest => if b == quote && endsLine rest then some word else none
    | [] => none

/-- The value of a setting from behind its sign. A quote in front belongs to the
value only if there is no other way to read it. -/
def value? (content : Bytes) : Option Bytes :=
  let content := content.dropWhile isSpace
  if content.head? = some quote then (word? (content.drop 1)).or (word? content)
  else word? content

def keyword : Bytes :=
  Utf8.encode "excludesfile".toList

def toLower (b : UInt8) : UInt8 :=
  if 0x41 ≤ b && b ≤ 0x5A then b + 0x20 else b

/-- The value if the setting stands in front. -/
def setting? (content : Bytes) : Option Bytes :=
  let content := content.dropWhile isSpace
  if (content.take keyword.length).map toLower = keyword then
    match (content.drop keyword.length).dropWhile isSpace with
    | b :: rest => if b == 0x3D then value? rest else none
    | [] => none
  else none

/-- What remains behind each line end. -/
def behindNewlines : Bytes → List Bytes
  | [] => []
  | b :: rest =>
      if b = newline then rest :: behindNewlines rest else behindNewlines rest

/-- The file that some settings name, in which a tilde stands for the home
directory. -/
def excludesFile? (home : Option Path) (content : Bytes) : Option Path := do
  let value ← (content :: behindNewlines content).findSome? setting?
  let tilde := ((home.map fun home => home.text).getD "~").toList
  let name := (← Utf8.decode? value).flatMap fun c =>
    if c = '~' then tilde else [c]
  some ⟨String.ofList name⟩

def home? (environment : String → Option String) : Option Path :=
  (environment "HOME").map Path.mk

/-- The directory of a user's settings. -/
def directory? (environment : String → Option String) : Option Path :=
  let given := ((environment "XDG_CONFIG_HOME").filter (· ≠ "")).map Path.mk
  (given.or ((home? environment).map fun home => home.join ⟨".config"⟩)).map
    fun directory => directory.join ⟨"git"⟩

/-- The files with settings, the one that goes first in front. -/
def files (environment : String → Option String) : List Path :=
  ((environment "GIT_CONFIG_GLOBAL").map Path.mk).toList
    ++ ((home? environment).map fun home => home.join ⟨".gitconfig"⟩).toList
    ++ ((directory? environment).map fun directory =>
      directory.join ⟨"config"⟩).toList

end GitSettings

namespace IgnoreRules

/-- The user's own ignore file. -/
def personalFile? (environment : String → Option String)
    (disk : Disk) : Option Path :=
  let named := (GitSettings.files environment).findSome? fun file =>
    ((disk.readBytes file).toOption).bind
      (GitSettings.excludesFile? (GitSettings.home? environment))
  named.or ((GitSettings.directory? environment).map fun directory =>
    directory.join ⟨"ignore"⟩)

/-- The rules of a user for all places. -/
def personal (environment : String → Option String)
    (disk : Disk) : IgnoreRules :=
  ((personalFile? environment disk).map (ofFile disk)).getD []

end IgnoreRules

end LintMend
