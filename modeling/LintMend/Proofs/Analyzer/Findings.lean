import Mathlib
import LintMend.Analyzer.Diagnostics
import LintMend.Proofs.Except
import LintMend.Proofs.Json.Reading

/-!
# Findings of the analyzers

The findings in the output of an analyzer become issues one for one and in their
order. A missing or empty code and a line number of zero are made up for. A code
of blanks only is not: the first such finding makes the whole output fail.
-/

namespace LintMend

/-- What an analyzer says of a file in one of its languages. -/
structure Finding where
  file : Path
  language : Language
  code : Option String
  line : Option Nat
  message : String

namespace Finding

/-- The code is there, and nothing but blanks. -/
def blankCode (finding : Finding) : Bool :=
  finding.code.any fun code => !code.isEmpty && Text.blank code.toList

/-- The issue says what the finding does, with the fallback for a code and the
first line for a line where the finding has none that an issue may have. -/
structure Reported (fallback : String) (finding : Finding)
    (issue : Issue) : Prop where
  file : issue.file = finding.file
  language : issue.language = finding.language
  message : issue.message = finding.message
  code : issue.code =
    (finding.code.filter fun code => !Text.blank code.toList).getD fallback
  named : Text.blank issue.code.toList = false
  line : issue.line = (finding.line.filter (1 ≤ ·)).getD 1
  numbered : 1 ≤ issue.line

/-- Each finding is reported, in order, unless the code of one is blank. Then
the first such one is refused, and there are no issues at all. -/
def Delivers (fallback : String) (findings : List Finding)
    (result : Except OutputFault (List Issue)) : Prop :=
  match findings.find? blankCode with
  | none => ∃ issues, result = .ok issues ∧
      List.Forall₂ (Reported fallback) findings issues
  | some first => result = .error (.refused (.emptyCode first.file))

/-- The issue that is made of a finding. -/
def issue (fallback : String) (finding : Finding) : Except OutputFault Issue :=
  Analyzer.issue finding.file (finding.line.getD 1)
    (Analyzer.codeOr fallback finding.code)
    finding.message finding.language

end Finding

namespace Analyzer

/-- The finding of a diagnostic, which is of no interest outside of Python
files. -/
def RuffDiagnostic.finding? (repository : Path)
    (found : RuffDiagnostic) : Option Finding :=
  if Language.ofPath? (repository.join ⟨found.file⟩) = some .python then
    some
      { file := repository.join ⟨found.file⟩, language := .python
        code := found.code, line := some found.row, message := found.message }
  else none

/-- The findings in a file, which are of no interest if no linter for its
language was asked. -/
def EslintFile.findings (found : EslintFile) : List Finding :=
  match Language.ofPath? ⟨found.file⟩ with
  | none | some .python => []
  | some language =>
      found.messages.map fun message =>
        { file := ⟨found.file⟩, language, code := message.code,
          line := message.line
          message := message.message }

end Analyzer

section Steps

variable {ε α β γ : Type}

/-- Steps that skip some items are steps for the others. -/
theorem mapM_filterMap {step : α → Except ε (Option β)} {kept : α → Option γ}
    {next : γ → Except ε β}
    (skipped : ∀ item, kept item = none → step item = .ok none)
    (stepped : ∀ item part, kept item = some part →
      step item = (next part).map some) (items : List α) :
    (do let found ← items.mapM step; return found.filterMap id) =
      (items.filterMap kept).mapM next := by
  induction items with
  | nil => rfl
  | cons item items induction =>
      rw [List.mapM_cons]
      cases keeps : kept item with
      | none =>
          rw [skipped item keeps, List.filterMap_cons_none keeps, ← induction]
          cases items.mapM step <;> rfl
      | some part =>
          rw [stepped item part keeps, List.filterMap_cons_some keeps,
            List.mapM_cons, ← induction]
          cases next part with
          | error fault => rfl
          | ok value => cases items.mapM step <;> rfl

/-- Steps for the parts of each item are steps for the parts of all. -/
theorem mapM_flatMap (parts : α → List γ) (next : γ → Except ε β)
    (items : List α) :
    (do let found ← items.mapM fun item =>
        (parts item).mapM next; return found.flatten) =
      (items.flatMap parts).mapM next := by
  induction items with
  | nil => rfl
  | cons item items induction =>
      rw [List.mapM_cons, List.flatMap_cons, List.mapM_append, ← induction]
      cases (parts item).mapM next with
      | error fault => rfl
      | ok values =>
          cases items.mapM fun item => (parts item).mapM next <;> rfl

end Steps

namespace Finding

variable {fallback : String}

theorem issue_of_blankCode {finding : Finding}
    (blank : finding.blankCode = true) :
    finding.issue fallback = .error (.refused (.emptyCode finding.file)) := by
  obtain ⟨file, language, code, line, message⟩ := finding
  cases code with
  | none => cases blank
  | some code =>
      obtain ⟨filled, blank⟩ := Bool.and_eq_true_iff.mp blank
      have kept : Analyzer.codeOr fallback (some code) = code :=
        if_neg (by simpa using filled)
      simp [issue, Analyzer.issue, Issue.make?, kept, blank]

theorem codeOr_of_filled {finding : Finding}
    (filled : finding.blankCode = false) :
    Analyzer.codeOr fallback finding.code =
      (finding.code.filter fun code =>
        !Text.blank code.toList).getD fallback := by
  cases given : finding.code with
  | none => rfl
  | some code =>
      have filled : (!code.isEmpty && Text.blank code.toList) = false := by
        simpa [blankCode, given] using filled
      by_cases empty : code = ""
      · subst empty
        rfl
      · have named : Text.blank code.toList = false := by
          simpa [empty] using filled
        simp [Analyzer.codeOr, Option.filter, empty, named]

theorem blank_codeOr (named : Text.blank fallback.toList = false)
    {finding : Finding} (filled : finding.blankCode = false) :
    Text.blank (Analyzer.codeOr fallback finding.code).toList = false := by
  rw [codeOr_of_filled filled]
  cases kept : finding.code.filter fun code => !Text.blank code.toList with
  | none => exact named
  | some code => simpa using (Option.filter_eq_some_iff.mp kept).2

theorem max_line (line : Option Nat) :
    max (line.getD 1) 1 = (line.filter (1 ≤ ·)).getD 1 := by
  cases line with
  | none => rfl
  | some line =>
      by_cases numbered : 1 ≤ line
      · simp [Option.filter, numbered]
      · obtain rfl : line = 0 := by omega
        rfl

theorem exists_issue (named : Text.blank fallback.toList = false)
    {finding : Finding} (filled : finding.blankCode = false) :
    ∃ issue, finding.issue fallback = .ok issue ∧
      Reported fallback finding issue := by
  have coded := blank_codeOr named filled
  have numbered : max (finding.line.getD 1) 1 ≠ 0 := by omega
  let made : Issue :=
    { file := finding.file, line := max (finding.line.getD 1) 1
      code := Analyzer.codeOr fallback finding.code, message := finding.message
      language := finding.language }
  have accepted : finding.issue fallback = .ok made := by
    simp [issue, Analyzer.issue, Issue.make?, coded, numbered, made]
  exact ⟨made, accepted, rfl, rfl, rfl, codeOr_of_filled filled, coded,
    max_line finding.line, Nat.le_max_right _ 1⟩

theorem Delivers.refused {findings : List Finding}
    {result : Except OutputFault (List Issue)}
    (delivers : Delivers fallback findings result) {file : Path}
    (blank : (findings.find? blankCode).map Finding.file = some file) :
    result = .error (.refused (.emptyCode file)) := by
  obtain ⟨first, found, rfl⟩ := Option.map_eq_some_iff.mp blank
  rwa [Delivers, found] at delivers

theorem delivers_mapM (named : Text.blank fallback.toList = false)
    (findings : List Finding) :
    Delivers fallback findings (findings.mapM (issue fallback)) := by
  induction findings with
  | nil => exact ⟨[], rfl, .nil⟩
  | cons finding findings induction =>
      unfold Delivers at induction ⊢
      rw [List.mapM_cons, List.find?_cons]
      cases blank : finding.blankCode with
      | true =>
          rw [issue_of_blankCode blank]
          rfl
      | false =>
          obtain ⟨issue, made, reported⟩ := exists_issue named blank
          rw [made]
          cases found : findings.find? blankCode with
          | none =>
              rw [found] at induction
              obtain ⟨issues, rest, all⟩ := induction
              rw [rest]
              exact ⟨issue :: issues, rfl, .cons reported all⟩
          | some first =>
              rw [found] at induction
              rw [induction]
              rfl

end Finding

namespace Analyzer

theorem ruffIssues_eq (repository : Path) (output : Text) :
    ruffIssues repository output = (do
      let found ← read (Decoder.list decodeRuff) output
      (found.filterMap (RuffDiagnostic.finding? repository)).mapM
        (Finding.issue syntaxErrorCode)) := by
  have skipped (found : RuffDiagnostic)
      (other : found.finding? repository = none) :
      ruffIssue? repository found = .ok none := by
    unfold RuffDiagnostic.finding? at other
    split at other
    · cases other
    · next foreign => exact if_neg foreign
  have stepped (found : RuffDiagnostic) (finding : Finding)
      (kept : found.finding? repository = some finding) :
      ruffIssue? repository found =
        (finding.issue syntaxErrorCode).map some := by
    unfold RuffDiagnostic.finding? at kept
    split at kept
    · next python =>
        cases kept
        exact if_pos python
    · cases kept
  unfold ruffIssues
  simp only [mapM_filterMap skipped stepped]

theorem eslintFileIssues_eq (found : EslintFile) :
    eslintFileIssues found =
      found.findings.mapM (Finding.issue parseErrorCode) := by
  unfold eslintFileIssues EslintFile.findings
  dsimp only
  generalize Language.ofPath? ⟨found.file⟩ = asked
  cases asked with
  | none => rfl
  | some language =>
      cases language <;> simp only [List.mapM_nil, List.mapM_map] <;> rfl

theorem eslintIssues_eq (output : Text) :
    eslintIssues output = (do
      let files ← read (Decoder.list decodeEslintFile) output
      (files.flatMap EslintFile.findings).mapM
        (Finding.issue parseErrorCode)) := by
  unfold eslintIssues
  rw [funext eslintFileIssues_eq]
  simp only [mapM_flatMap]

/-- Of what an analyzer prints, the findings in files of its languages are
delivered. -/
theorem delivers_of_read (repository : Path) (output : Text) :
    (∀ diagnostics, read (Decoder.list decodeRuff) output = .ok diagnostics →
      Finding.Delivers syntaxErrorCode
        (diagnostics.filterMap (RuffDiagnostic.finding? repository))
        (ruffIssues repository output)) ∧
    (∀ files, read (Decoder.list decodeEslintFile) output = .ok files →
      Finding.Delivers parseErrorCode (files.flatMap EslintFile.findings)
        (eslintIssues output)) := by
  constructor
  · intro diagnostics found
    rw [ruffIssues_eq, found]
    exact Finding.delivers_mapM (by decide) _
  · intro files found
    rw [eslintIssues_eq, found]
    exact Finding.delivers_mapM (by decide) _

/-- A list of values is read from its text if it is one of values that the
decoder knows. -/
theorem read_array {α : Type} {decoder : Decoder (List α)} {items : List Json}
    {values : List α} (exact : Json.ExactItems items)
    (decoded : decoder (Json.array items).written = .ok values) :
    read decoder (Json.array items).compact.toList = .ok values := by
  have shown : Text.blank (Json.array items).compact.toList = false := by
    simp [Json.compact, Text.blank, show Text.isBlank '[' = false from rfl]
  have whole := @Json.decode_compact _ decoder (Json.array items) exact
  simp [read, shown, whole, decoded]

def RuffDiagnostic.json (found : RuffDiagnostic) : Json :=
  .object
    [("code", (found.code.map Json.string).getD .null),
      ("message", .string found.message), ("filename", .string found.file),
      ("location", .object [("row", .ofNat found.row)])]

def EslintMessage.json (found : EslintMessage) : Json :=
  .object
    [("ruleId", (found.code.map Json.string).getD .null),
      ("message", .string found.message),
      ("line", (found.line.map Json.ofNat).getD .null)]

def EslintFile.json (found : EslintFile) : Json :=
  .object
    [("filePath", .string found.file),
      ("messages", .array (found.messages.map EslintMessage.json))]

def unusedImport : RuffDiagnostic :=
  { code := some "F401", message := "unused import", file := "a.py", row := 1 }

def debuggerLeft : EslintMessage :=
  { code := some "no-debugger", message := "debugger", line := some 1 }

/-- One finding with a code of blanks hides the one in front of it. -/
theorem blank_code_refused :
    let diagnostics := [unusedImport, { unusedImport with code := some " " }]
    let files :=
      [EslintFile.mk "a.js" [debuggerLeft,
        { debuggerLeft with code := some " " }]]
    ruffIssues ⟨"/r"⟩
      (Json.array (diagnostics.map RuffDiagnostic.json)).compact.toList =
        .error (.refused (.emptyCode ⟨"/r/a.py"⟩)) ∧
      eslintIssues (Json.array (files.map EslintFile.json)).compact.toList =
        .error (.refused (.emptyCode ⟨"a.js"⟩)) := by
  intro diagnostics files
  have word : JsonText.IsWord 1 := ⟨by decide, by decide⟩
  have ruff : read (Decoder.list decodeRuff)
        (Json.array (diagnostics.map RuffDiagnostic.json)).compact.toList =
      .ok diagnostics :=
    read_array
      ⟨⟨trivial, trivial, trivial, ⟨word, trivial⟩, trivial⟩,
        ⟨trivial, trivial, trivial, ⟨word, trivial⟩, trivial⟩, trivial⟩ rfl
  have eslint : read (Decoder.list decodeEslintFile)
      (Json.array (files.map EslintFile.json)).compact.toList = .ok files :=
    read_array
      ⟨⟨trivial, ⟨⟨trivial, trivial, word, trivial⟩,
        ⟨trivial, trivial, word, trivial⟩, trivial⟩, trivial⟩, trivial⟩ rfl
  exact ⟨Finding.Delivers.refused
    ((delivers_of_read ⟨"/r"⟩ _).1 _ ruff) (by cbv),
    Finding.Delivers.refused ((delivers_of_read ⟨"/r"⟩ _).2 _ eslint) rfl⟩

end Analyzer

end LintMend
