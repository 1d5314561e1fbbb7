import LintMend.Issue
import LintMend.Json.Diagnosis

/-!
# Diagnostics of analyzers

The JSON that Ruff and ESLint print, as issues. Findings without a rule code get
a code of their own, a line number of zero becomes one, and files of other
languages are passed over.
-/

namespace LintMend

/-- Why the output of an analyzer gives no issues. -/
inductive OutputFault
  /-- The output is no list of findings; the detail is what a reader of JSON
  says. -/
  | unreadable (cause : DecodeFault) (detail : Option String)
  | refused (fault : IssueFault)
  deriving Repr

namespace OutputFault

def message (tool : String) : OutputFault → String
  | unreadable cause detail =>
    s!"unparseable {tool} output: " ++
      ((cause.message?.or detail).getD "not a list of findings")
  | refused fault => fault.message

end OutputFault

namespace Analyzer

/-- A field of a record under construction, read with a decoder. -/
def field {σ α : Type} (name : String) (absence : Decoder.Absence)
    (decoder : Decoder α) (set : α → σ → σ) : Decoder.Field σ :=
  { name, absence, read := fun data record => (decoder data).map fun value =>
    set value record }

/-- The code if there is one, else a code for findings without. -/
def codeOr (fallback : String) : Option String → String
  | some code => if code.isEmpty then fallback else code
  | none => fallback

/-- Blank output is no findings. -/
def read {α : Type} (decoder : Decoder (List α)) (output : Text) :
    Except OutputFault (List α) :=
  if Text.blank output then .ok []
  else
    match JsonText.decode decoder output with
    | .ok values => .ok values
    | .error fault =>
        .error (.unreadable fault (JsonText.diagnosis? (.list .any) output))

def issue (file : Path) (line : Nat) (code message : String)
    (language : Language) :
    Except OutputFault Issue :=
  match Issue.make? file (max line 1) code message language with
  | .ok issue => .ok issue
  | .error fault => .error (.refused fault)

/-! ## Ruff -/

structure RuffDiagnostic where
  code : Option String
  message : String
  file : String
  row : Nat
  deriving Repr

/-- The code of syntax errors, which have none. -/
def syntaxErrorCode : String := "invalid-syntax"

def decodeRow : Decoder Nat :=
  Decoder.record .lenient
    [field "row" .refused Decoder.count fun row _ => row] 0

def decodeRuff : Decoder RuffDiagnostic :=
  Decoder.record .lenient
    [field "code" .allowed (Decoder.optional Decoder.text) fun code found =>
       { found with code },
     field "message" .refused Decoder.text fun message found =>
       { found with message },
     field "filename" .refused Decoder.text fun file found =>
       { found with file },
     field "location" .refused decodeRow fun row found => { found with row }]
    { code := none, message := "", file := "", row := 0 }

/-- The issue of a diagnostic in a Python file; its path starts at the
repository. -/
def ruffIssue? (repository : Path) (found : RuffDiagnostic) :
    Except OutputFault (Option Issue) :=
  let path := repository.join ⟨found.file⟩
  if Language.ofPath? path = some .python then
    (issue path found.row (codeOr syntaxErrorCode found.code) found.message
      .python).map some
  else .ok none

def ruffIssues (repository : Path) (output : Text) :
    Except OutputFault (List Issue) := do
  let found ← read (Decoder.list decodeRuff) output
  let issues ← found.mapM (ruffIssue? repository)
  return issues.filterMap id

/-! ## ESLint -/

structure EslintMessage where
  code : Option String
  message : String
  line : Option Nat
  deriving Repr

structure EslintFile where
  file : String
  messages : List EslintMessage
  deriving Repr

/-- The code of parse errors, which have none. -/
def parseErrorCode : String := "parse-error"

def decodeEslintMessage : Decoder EslintMessage :=
  Decoder.record .lenient
    [field "ruleId" .allowed (Decoder.optional Decoder.text) fun code found =>
       { found with code },
     field "message" .refused Decoder.text fun message found =>
       { found with message },
     field "line" .allowed (Decoder.optional Decoder.count) fun line found =>
       { found with line }]
    { code := none, message := "", line := none }

def decodeEslintFile : Decoder EslintFile :=
  Decoder.record .lenient
    [field "filePath" .refused Decoder.text fun file found =>
       { found with file },
     field "messages" .defaulted (Decoder.list decodeEslintMessage)
       fun messages found => { found with messages }]
    { file := "", messages := [] }

def eslintFileIssues (found : EslintFile) : Except OutputFault (List Issue) :=
  let path : Path := ⟨found.file⟩
  match Language.ofPath? path with
  | none | some .python => .ok []
  | some language =>
    found.messages.mapM fun message =>
      issue path (message.line.getD 1) (codeOr parseErrorCode message.code)
        message.message
        language

def eslintIssues (output : Text) : Except OutputFault (List Issue) := do
  let files ← read (Decoder.list decodeEslintFile) output
  let issues ← files.mapM eslintFileIssues
  return issues.flatten

end Analyzer

namespace Issue

/-- Issues as they stand in logs. A code or a line number that no issue would be
made with is accepted here. -/
def decode : Decoder Issue :=
  Decoder.record .lenient
    [Analyzer.field "file_path" .refused Decoder.text fun file found =>
       { found with file := ⟨file⟩ },
     Analyzer.field "line_number" .refused Decoder.count fun line found =>
       { found with line },
     Analyzer.field "rule_code" .refused Decoder.text fun code found =>
       { found with code },
     Analyzer.field "message" .refused Decoder.text fun message found =>
       { found with message },
     Analyzer.field "language" .refused
       (Decoder.choice .lenient (Language.all.map Language.key) Language.ofKey?)
       fun language found => { found with language }]
    { file := ⟨""⟩, line := 0, code := "", message := "", language := .python }

end Issue

end LintMend
