import LintMend.Proofs.Text.Lines
import LintMend.Proofs.Fix.Locality
import LintMend.Fix.Apply
import LintMend.Safety

/-!
# Passes of whitespace fixes

Fixes that take away whitespace may be made in any order, at any lines and any
number of times. `Fix.tidy` tells what one of them makes of a buffer, a refused
one included. A whole pass keeps every character that is no blank, and every
line up to blanks at its end; blank lines go only at the end, and none is added.
A check of such a pass can fail for its size alone.
-/

namespace LintMend

def Line.trimmed (line : Line) : Line :=
  { line with text := Text.trimEnd line.text }

/-- Trims the line of a number. A number outside the file changes nothing. -/
def trimAt (number : Nat) (lines : List Line) : List Line :=
  if number = 0 then lines else lines.modify (number - 1) Line.trimmed

def Line.isBlank (line : Line) : Bool :=
  Text.blank line.text

theorem modify_congr {α : Type} {items : List α} {index : Nat}
    {change other : α → α}
    (agree : ∀ item, items[index]? = some item → change item = other item) :
    items.modify index change = items.modify index other := by
  apply List.ext_getElem?
  intro place
  rw [List.getElem?_modify, List.getElem?_modify]
  by_cases here : index = place
  · subst here
    cases found : items[index]? with
    | none => rfl
    | some item => simp [agree item found]
  · simp [here]

/-- Nothing is trimmed where there is no line, or one that is trimmed
already. -/
theorem trimAt_eq_self {number : Nat} {lines : List Line}
    (trimmed : number ≠ 0 → ∀ line, lines[number - 1]? = some line →
      line.trimmed = line) :
    trimAt number lines = lines := by
  rw [trimAt]
  split
  · rfl
  · next start =>
      have same : lines.modify (number - 1) Line.trimmed =
          lines.modify (number - 1) id :=
        modify_congr (trimmed start)
      rw [same, List.modify_id]

@[simp]
theorem getElem?_trimAt (number : Nat) (lines : List Line) (index : Nat) :
    (trimAt number lines)[index]? =
      lines[index]?.map fun line =>
      if number = index + 1 then line.trimmed else line := by
  rw [trimAt]
  split
  · next zero =>
      have apart : number ≠ index + 1 := by omega
      simp [apart]
  · next positive =>
      rw [List.getElem?_modify]
      have agree : number - 1 = index ↔ number = index + 1 := by omega
      simp [agree]

namespace Buffer

theorem dropBlankTail_eq_rdropWhile (lines : List Line) :
    dropBlankTail lines = lines.rdropWhile Line.isBlank := by
  induction lines with
  | nil => rfl
  | cons line rest induction =>
      rw [dropBlankTail, induction, rdropWhile_cons]
      cases rest.rdropWhile Line.isBlank <;> rfl

end Buffer

namespace Fix

/-- Makes a fix; one that is refused leaves the buffer as it is. -/
def attempt (keepPackageFiles : Bool) (buffer : Buffer)
    (step : Issue × Fix) : Buffer :=
  match step.2.apply keepPackageFiles step.1 buffer with
  | .ok fixed => fixed
  | .error _ => buffer

/-- Makes fixes one after another. -/
def makeAll (keepPackageFiles : Bool) (steps : List (Issue × Fix))
    (buffer : Buffer) : Buffer :=
  steps.foldl (attempt keepPackageFiles) buffer

/-- What a whitespace fix makes of a buffer, also where it finds nothing to
do. -/
def tidy (number : Nat) (buffer : Buffer) : Fix → Buffer
  | stripTrailingWhitespace =>
      { buffer with lines := trimAt number buffer.lines }
  | ensureFinalNewline =>
      { buffer with endsLine := buffer.endsLine || !buffer.lines.isEmpty }
  | trimTrailingBlankLines =>
    let kept := buffer.lines.rdropWhile Line.isBlank
    { buffer with lines := kept, endsLine :=
      buffer.endsLine || kept != buffer.lines }
  | _ => buffer

@[simp]
theorem attempt_strip (keepPackageFiles : Bool) (buffer : Buffer)
    (issue : Issue) :
    attempt keepPackageFiles buffer (issue, .stripTrailingWhitespace) =
      tidy issue.line buffer .stripTrailingWhitespace := by
  simp only [attempt, apply, stripTrailing, lineOf, tidy]
  cases read : buffer.line? issue.line with
  | none =>
      have outside : trimAt issue.line buffer.lines = buffer.lines := by
        apply trimAt_eq_self
        intro start line there
        rw [Buffer.line?_of_getElem? start there] at read
        cases read
      rw [outside]
      rfl
  | some text =>
      obtain ⟨start, _, place, line, there, rfl⟩ := Buffer.line?_eq_some read
      simp only [ok_bind]
      by_cases same : Text.trimEnd line.text = line.text
      · have trimmed : trimAt issue.line buffer.lines = buffer.lines := by
          apply trimAt_eq_self
          intro _ other found
          rw [there] at found
          cases found
          rw [Line.trimmed, same]
        rw [if_pos same, trimmed]
      · rw [if_neg same, trimAt, if_neg start]
        simp only [Buffer.setLine, place]
        congr 1
        apply modify_congr
        intro other found
        rw [there] at found
        cases found
        rfl

@[simp]
theorem attempt_endLastLine (keepPackageFiles : Bool) (buffer : Buffer)
    (issue : Issue) :
    attempt keepPackageFiles buffer (issue, .ensureFinalNewline) =
      tidy issue.line buffer .ensureFinalNewline := by
  simp only [attempt, apply, endLastLine, tidy]
  obtain ⟨lines, endsLine, fallback⟩ := buffer
  cases lines <;> cases endsLine <;> rfl

@[simp]
theorem attempt_trimTail (keepPackageFiles : Bool) (buffer : Buffer)
    (issue : Issue) :
    attempt keepPackageFiles buffer (issue, .trimTrailingBlankLines) =
      tidy issue.line buffer .trimTrailingBlankLines := by
  have front := List.rdropWhile_prefix Line.isBlank buffer.lines
  simp only [attempt, apply, trimTail, tidy, Buffer.trimBlankTail,
    Buffer.lineCount, Buffer.dropBlankTail_eq_rdropWhile]
  by_cases all : buffer.lines.rdropWhile Line.isBlank = buffer.lines
  · rw [if_pos (congrArg List.length all), all]
    simp
  · rw [if_neg (fun many => all (front.eq_of_length many))]
    simp [Buffer.setEndsLine, all]

theorem attempt_eq_tidy {fix : Fix} (whitespace : fix.isWhitespaceOnly = true)
    (keepPackageFiles : Bool) (buffer : Buffer) (issue : Issue) :
    attempt keepPackageFiles buffer (issue, fix) =
      tidy issue.line buffer fix := by
  cases fix with
  | stripTrailingWhitespace => exact attempt_strip keepPackageFiles buffer issue
  | ensureFinalNewline =>
      exact attempt_endLastLine keepPackageFiles buffer issue
  | trimTrailingBlankLines =>
      exact attempt_trimTail keepPackageFiles buffer issue
  | _ => cases whitespace

/-! ## What a pass keeps -/

theorem mem_trimAt {number : Nat} {lines : List Line} {line : Line}
    (member : line ∈ trimAt number lines) :
    ∃ old ∈ lines, line = old ∨ line = old.trimmed := by
  obtain ⟨index, found⟩ := List.mem_iff_getElem?.mp member
  rw [getElem?_trimAt] at found
  obtain ⟨old, there, here⟩ := Option.map_eq_some_iff.mp found
  refine ⟨old, List.mem_of_getElem? there, ?_⟩
  split at here
  · exact .inr here.symm
  · exact .inl here.symm

theorem tidy_whole {buffer : Buffer} (whole : buffer.Whole) (number : Nat)
    (fix : Fix) :
    (tidy number buffer fix).Whole := by
  cases fix with
  | stripTrailingWhitespace =>
      refine ⟨?_, whole.ended⟩
      intro line member
      obtain ⟨old, inside, same | trimmed⟩ := mem_trimAt member
      · rw [same]
        exact whole.plain old inside
      · rw [trimmed]
        intro feed
        exact whole.plain old inside
          ((Text.trimEnd_isPrefix old.text).subset feed)
  | ensureFinalNewline => exact ⟨whole.plain, whole.ended⟩
  | trimTrailingBlankLines =>
      refine ⟨?_, whole.ended⟩
      intro line member
      exact whole.plain line
        ((List.rdropWhile_prefix Line.isBlank buffer.lines).subset member)
  | _ => exact whole

theorem tidied_trimAt (number : Nat) (lines : List Line) :
    Text.Tidied (lines.map Line.text)
      ((trimAt number lines).map Line.text) := by
  apply Text.Tidied.of_map_eq
  apply List.ext_getElem?
  intro index
  simp only [List.getElem?_map, getElem?_trimAt]
  cases lines[index]? with
  | none => rfl
  | some line =>
      by_cases here : number = index + 1 <;> simp [here, Line.trimmed]

theorem tidied_rdropWhile (lines : List Line) :
    Text.Tidied (lines.map Line.text)
      ((lines.rdropWhile Line.isBlank).map Line.text) := by
  have whole := @List.rdropWhile_append_rtakeWhile _ Line.isBlank lines
  have blank : ∀ text ∈ (lines.rtakeWhile Line.isBlank).map Line.text,
      Text.blank text = true := by
    intro text member
    obtain ⟨line, inside, rfl⟩ := List.mem_map.mp member
    change line.isBlank = true
    exact List.mem_rtakeWhile_imp inside
  have dropped :=
    Text.Tidied.of_blank ((lines.rdropWhile Line.isBlank).map Line.text) blank
  rwa [← List.map_append, whole] at dropped

theorem tidy_tidied (buffer : Buffer) (number : Nat) (fix : Fix) :
    Text.Tidied (buffer.lines.map Line.text)
      ((tidy number buffer fix).lines.map Line.text) := by
  cases fix with
  | stripTrailingWhitespace => exact tidied_trimAt number buffer.lines
  | trimTrailingBlankLines => exact tidied_rdropWhile buffer.lines
  | _ => exact .of_map_eq rfl

theorem makeAll_tidied {steps : List (Issue × Fix)}
    (whitespace : ∀ step ∈ steps, step.2.isWhitespaceOnly = true)
    (keepPackageFiles : Bool) {buffer : Buffer} (whole : buffer.Whole) :
    (makeAll keepPackageFiles steps buffer).Whole ∧
      Text.Tidied (buffer.lines.map Line.text)
        ((makeAll keepPackageFiles steps buffer).lines.map Line.text) := by
  induction steps generalizing buffer with
  | nil => exact ⟨whole, .of_map_eq rfl⟩
  | cons step steps induction =>
      obtain ⟨issue, fix⟩ := step
      have ⟨here, behind⟩ := List.forall_mem_cons.mp whitespace
      have once := attempt_eq_tidy here keepPackageFiles buffer issue
      rw [makeAll, List.foldl_cons, once]
      have ⟨laterWhole, later⟩ :=
        induction behind (tidy_whole whole issue.line fix)
      exact ⟨laterWhole, (tidy_tidied buffer issue.line fix).trans later⟩

end Fix

namespace Checker

variable {checker : Checker} {before after : Text}

theorem checkSize_check {regression : Regression}
    (refused : checker.checkSize before after = some regression) :
    regression.check = .size := by
  unfold checkSize at refused
  split at refused
  · cases refused
  · split at refused
    · cases refused
      rfl
    · simp only at refused
      split at refused
      · cases refused
        rfl
      · cases refused

/-- A content of no more lines whose parser finds no fault can be refused for
its size alone. -/
theorem check_eq_size {path : Path}
    (parses : ∀ detail, checker.validate after path ≠ .invalid detail)
    (fewer : (Text.lines after).length ≤ (Text.lines before).length)
    {regression : Regression}
    (refused : checker.check before after path .whitespaceOnly =
      some regression) :
    regression.check = .size := by
  have parsed : checker.checkParse after path = none := by
    rw [checkParse]
    split
    · next detail invalid => exact absurd invalid (parses detail)
    · rfl
    · rfl
  have counted : checkLines before after .whitespaceOnly = none := by
    simp only [checkLines]
    exact if_neg (by omega)
  rw [check, parsed, counted, Option.none_or, Option.or_none] at refused
  exact checkSize_check refused

end Checker

/-- A pass of whitespace fixes keeps all characters that are no blanks. Its
lines are those of the content up to blanks at their ends, without some blank
ones at the end of the file, and a check that parses everything can refuse it
for its size alone. -/
theorem Fix.makeAll_keeps_content (keepPackageFiles : Bool) (content : Text)
    (steps : List (Issue × Fix))
    (whitespace : ∀ step ∈ steps, step.2.isWhitespaceOnly = true) :
    let after := (makeAll keepPackageFiles steps (.ofText content)).render
    Text.visible after = Text.visible content ∧
      (Text.lines after).length ≤ (Text.lines content).length ∧
      (Text.lines after).map Text.trimEnd =
        ((Text.lines content).take (Text.lines after).length).map Text.trimEnd ∧
      (∀ line ∈ (Text.lines content).drop (Text.lines after).length,
        Text.blank line = true) ∧
      ∀ (checker : Checker) (path : Path),
        (∀ text path detail, checker.validate text path ≠ .invalid detail) →
        ∀ regression, checker.check content after path .whitespaceOnly =
          some regression →
          regression.check = .size := by
  intro after
  have ⟨whole, kept⟩ :=
    makeAll_tidied whitespace keepPackageFiles (Buffer.ofText_whole content)
  have tidied : Text.Tidied (Text.lines content) (Text.lines after) :=
    Text.Tidied.trans kept (Buffer.tidied_render whole)
  refine ⟨?_, tidied.length_le, tidied.map_take, tidied.blank_of_mem_drop, ?_⟩
  · rw [← Text.visible_lines after, tidied.visible_eq, Text.visible_lines]
  · intro checker path parses regression refused
    exact Checker.check_eq_size (parses after path) tidied.length_le refused

/-! A last line that is not ended is emptied, so that it does not show, and then
it is ended. -/

namespace Fix

def raggedContent : Text :=
  "a  \r\nb\n \t".toList

def raggedSteps : List (Issue × Fix) :=
  let onLine (line : Nat) : Issue :=
    { file := ⟨"a.py"⟩, line, code := "W291", message := "",
      language := .python }
  [(onLine 3, .stripTrailingWhitespace), (onLine 9, .stripTrailingWhitespace),
    (onLine 3, .ensureFinalNewline), (onLine 1, .stripTrailingWhitespace),
    (onLine 0, .stripTrailingWhitespace), (onLine 3, .ensureFinalNewline)]

theorem raggedContent_kept :
    let after := (makeAll true raggedSteps (.ofText raggedContent)).render
    (∀ step ∈ raggedSteps, step.2.isWhitespaceOnly = true) ∧
      (makeAll true (raggedSteps.take 1) (.ofText raggedContent)).render =
        "a  \r\nb\n".toList ∧
      after = "a\r\nb\n\r\n".toList ∧
      Text.visible after = Text.visible raggedContent ∧
      (Text.lines after).map Text.trimEnd =
        ((Text.lines raggedContent).take (Text.lines after).length).map
          Text.trimEnd := by
  intro after
  have whitespace : ∀ step ∈ raggedSteps, step.2.isWhitespaceOnly = true := by
    decide
  have ⟨visible, _, lines, _⟩ :=
    makeAll_keeps_content true raggedContent raggedSteps whitespace
  exact ⟨whitespace, by decide, by decide, visible, lines⟩

end Fix

end LintMend
