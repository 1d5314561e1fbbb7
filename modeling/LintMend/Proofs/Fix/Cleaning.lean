import Mathlib.Tactic.ByContra
import LintMend.Proofs.Fix.Tidying

/-!
# Clean files

A linter looks for three blemishes: blanks at the end of a line, a last line
that is not ended, and blank lines at the end of the file. A pass that makes the
fix of every blemish, in whatever order, leaves none: what a fix has brought
about no other whitespace fix undoes, and whatever no fix was needed for was
there from the start.
-/

namespace LintMend

/-- The blemishes of a text, by the code of the rule and the number of the line.
A line of blanks counts as blank. -/
inductive Text.Blemish (content : Text) : String → Nat → Prop where
  | trailing {index : Nat} {line : Text} :
      (Text.lines content)[index]? = some line → line ≠ Text.trimEnd line →
      Blemish content "W291" (index + 1)
  | unended : content ≠ [] → content.getLast? ≠ some '\n' →
      Blemish content "W292" (Text.lines content).length
  | blankTail {front tail : List Text} :
      Text.lines content = front ++ tail → tail ≠ [] →
      (∀ line ∈ tail, Text.blank line = true) →
      (∀ line, front.getLast? = some line → Text.blank line = false) →
      Blemish content "W391" (front.length + 1)

/-- A text whose lines are trimmed, whose last line is ended and is not blank
has no blemish. -/
theorem Text.not_blemish {content : Text}
    (trimmed : ∀ line ∈ Text.lines content, Text.trimEnd line = line)
    (ended : content = [] ∨ content.getLast? = some '\n')
    (tailless : ∀ line, (Text.lines content).getLast? = some line →
      Text.blank line = false)
    (code : String) (number : Nat) : ¬ Text.Blemish content code number := by
  intro blemish
  cases blemish with
  | trailing found blanks =>
      apply blanks
      exact (trimmed _ (List.mem_of_getElem? found)).symm
  | unended present notEnded =>
      rcases ended with empty | feed
      · exact present empty
      · exact notEnded feed
  | @blankTail front tail cut present blank =>
      have shown : (Text.lines content).getLast? =
          some (tail.getLast present) := by
        rw [cut, List.getLast?_append, List.getLast?_eq_some_getLast present]
        rfl
      have visible := tailless _ shown
      rw [blank _ (List.getLast_mem present)] at visible
      cases visible

theorem isBlank_getLast_rdropWhile {lines : List Line} {line : Line}
    (found : (lines.rdropWhile Line.isBlank).getLast? = some line) :
    line.isBlank = false := by
  have present : lines.rdropWhile Line.isBlank ≠ [] := by
    intro none
    rw [none] at found
    cases found
  rw [List.getLast?_eq_some_getLast present] at found
  cases found
  exact Bool.eq_false_iff.mpr
    (List.rdropWhile_last_not Line.isBlank lines present)

namespace Buffer

/-- The line at a place, if there is one, is trimmed. -/
def TrimmedAt (index : Nat) (buffer : Buffer) : Prop :=
  ∀ line, buffer.lines[index]? = some line → line.trimmed = line

/-- The last line, if there is one, is not blank. -/
def Tailless (buffer : Buffer) : Prop :=
  ∀ line, buffer.lines.getLast? = some line → line.isBlank = false

def Ended (buffer : Buffer) : Prop :=
  buffer.lines = [] ∨ buffer.endsLine = true

/-! ## Buffers with no blemish to write -/

section

variable {buffer : Buffer}

private theorem getLast?_renderLines (fallback : buffer.fallback ≠ .none)
    (endsLine : buffer.endsLine = true) (lines : List Line) :
    buffer.renderLines lines = [] ∨ (buffer.renderLines lines).getLast? =
      some '\n' := by
  have last (line : Line) :
      (buffer.endingOf line).text.getLast? = some '\n' := by
    cases found : buffer.endingOf line with
    | none => exact absurd found (endingOf_ne_none fallback line)
    | lf | crlf => rfl
  induction lines with
  | nil => exact .inl rfl
  | cons line rest induction =>
      right
      rw [renderLines_cons (.inl endsLine)]
      rcases induction with nothing | feed
      · rw [nothing, List.append_nil, List.getLast?_append, last]
        rfl
      · rw [List.getLast?_append, feed]
        rfl

theorem getLast?_render (fallback : buffer.fallback ≠ .none)
    (ended : buffer.Ended) :
    buffer.render = [] ∨ buffer.render.getLast? = some '\n' := by
  rcases ended with empty | endsLine
  · left
    rw [render, empty]
    rfl
  · exact getLast?_renderLines fallback endsLine buffer.lines

theorem lines_render_of_ended (whole : buffer.Whole) (ended : buffer.Ended)
    (trimmed : ∀ line ∈ buffer.lines, Text.trimEnd line.text = line.text) :
    Text.lines buffer.render = buffer.lines.map Line.text := by
  rcases ended with empty | endsLine
  · rw [render, empty]
    rfl
  · exact lines_render whole endsLine trimmed

/-- A buffer whose lines are trimmed and ended and do not end in a blank one is
written without a blemish. -/
theorem no_blemish (whole : buffer.Whole)
    (trimmed : ∀ index, buffer.TrimmedAt index) (tailless : buffer.Tailless)
    (ended : buffer.Ended) (code : String) (number : Nat) :
    ¬ Text.Blemish buffer.render code number := by
  have everywhere : ∀ line ∈ buffer.lines,
      Text.trimEnd line.text = line.text := by
    intro line member
    obtain ⟨index, found⟩ := List.mem_iff_getElem?.mp member
    exact congrArg Line.text (trimmed index line found)
  have lines := lines_render_of_ended whole ended everywhere
  apply Text.not_blemish
  · intro text member
    rw [lines] at member
    obtain ⟨line, inside, rfl⟩ := List.mem_map.mp member
    exact everywhere line inside
  · exact getLast?_render whole.ended ended
  · intro text shown
    rw [lines, List.getLast?_map] at shown
    obtain ⟨line, there, rfl⟩ := Option.map_eq_some_iff.mp shown
    exact tailless line there

end

/-! ## Buffers read from texts -/

section

variable {content : Text}

theorem ofText_trimmedAt {index : Nat}
    (clean : ¬ Text.Blemish content "W291" (index + 1)) :
    (ofText content).TrimmedAt index := by
  intro line found
  by_contra blanks
  apply clean
  have shown : (Text.lines content)[index]? = some line.text := by
    rw [Text.lines, List.getElem?_map]
    exact congrArg (Option.map Line.text) found
  apply Text.Blemish.trailing shown
  intro same
  apply blanks
  rw [Line.trimmed, ← same]

theorem ofText_ended
    (clean : ¬ Text.Blemish content "W292" (Text.lines content).length) :
    (ofText content).Ended := by
  by_contra unended
  apply clean
  apply Text.Blemish.unended
  · rintro rfl
    exact unended (.inl rfl)
  · intro feed
    exact unended (.inr (decide_eq_true feed))

theorem ofText_tailless
    (clean : ¬ Text.Blemish content "W391"
      (((Line.ofText content).rdropWhile Line.isBlank).length + 1)) :
    (ofText content).Tailless := by
  intro last found
  by_contra blank
  apply clean
  generalize keptIs : (Line.ofText content).rdropWhile Line.isBlank = kept
  generalize droppedIs : (Line.ofText content).rtakeWhile Line.isBlank = dropped
  have whole : Line.ofText content = kept ++ dropped := by
    rw [← keptIs, ← droppedIs, List.rdropWhile_append_rtakeWhile]
  have cut : Text.lines content = kept.map Line.text ++
      dropped.map Line.text := by
    rw [Text.lines, whole, List.map_append]
  rw [← List.length_map (f := Line.text)]
  apply Text.Blemish.blankTail cut
  · -- With nothing dropped the last line would not be blank.
    intro none
    apply blank
    apply isBlank_getLast_rdropWhile
    rw [keptIs, ← found, ofText, whole, List.map_eq_nil_iff.mp none,
      List.append_nil]
  · intro text member
    obtain ⟨line, inside, rfl⟩ := List.mem_map.mp member
    change line.isBlank = true
    rw [← droppedIs] at inside
    exact List.mem_rtakeWhile_imp inside
  · intro text shown
    rw [List.getLast?_map] at shown
    obtain ⟨line, there, rfl⟩ := Option.map_eq_some_iff.mp shown
    rw [← keptIs] at there
    exact isBlank_getLast_rdropWhile there

end

end Buffer

namespace Fix

/-! ## What a whitespace fix brings about -/

theorem strip_trimmedAt (buffer : Buffer) (index : Nat) :
    (tidy (index + 1) buffer .stripTrailingWhitespace).TrimmedAt index := by
  intro line found
  simp only [tidy, getElem?_trimAt] at found
  obtain ⟨old, _, rfl⟩ := Option.map_eq_some_iff.mp found
  simp [Line.trimmed]

theorem trimTail_tailless (buffer : Buffer) (number : Nat) :
    (tidy number buffer .trimTrailingBlankLines).Tailless := by
  intro line found
  exact isBlank_getLast_rdropWhile found

theorem endLastLine_ended (buffer : Buffer) (number : Nat) :
    (tidy number buffer .ensureFinalNewline).Ended := by
  simp only [Buffer.Ended, tidy]
  cases buffer.lines with
  | nil => exact .inl rfl
  | cons line rest => simp

/-! ## What no whitespace fix undoes -/

/-- No whitespace fix undoes the property. -/
def Lasting (holds : Buffer → Prop) : Prop :=
  ∀ buffer, holds buffer → ∀ number fix, holds (tidy number buffer fix)

theorem trimmedAt_lasting (index : Nat) : Lasting (Buffer.TrimmedAt index) := by
  intro buffer trimmed number fix
  cases fix with
  | stripTrailingWhitespace =>
      intro line found
      simp only [tidy, getElem?_trimAt] at found
      obtain ⟨old, there, rfl⟩ := Option.map_eq_some_iff.mp found
      split
      · simp [Line.trimmed]
      · exact trimmed old there
  | trimTrailingBlankLines =>
      intro line found
      simp only [tidy] at found
      obtain ⟨rest, whole⟩ := List.rdropWhile_prefix Line.isBlank buffer.lines
      apply trimmed line
      rw [← whole,
        List.getElem?_append_left (List.getElem?_eq_some_iff.mp found).1]
      exact found
  | _ => exact trimmed

@[simp]
theorem isBlank_trimmed (line : Line) :
    line.trimmed.isBlank = line.isBlank := by
  rw [Bool.eq_iff_iff]
  change Text.blank (Text.trimEnd line.text) = true ↔
    Text.blank line.text = true
  rw [← Text.trimEnd_eq_nil_iff, ← Text.trimEnd_eq_nil_iff,
    Text.trimEnd_trimEnd]

@[simp]
theorem length_trimAt (number : Nat) (lines : List Line) :
    (trimAt number lines).length = lines.length := by
  rw [trimAt]
  split
  · rfl
  · exact List.length_modify _ _ _

theorem tailless_lasting : Lasting Buffer.Tailless := by
  intro buffer tailless number fix
  cases fix with
  | stripTrailingWhitespace =>
      intro line found
      simp only [tidy, List.getLast?_eq_getElem?, length_trimAt,
        getElem?_trimAt] at found
      obtain ⟨old, there, rfl⟩ := Option.map_eq_some_iff.mp found
      rw [← List.getLast?_eq_getElem?] at there
      split
      · rw [isBlank_trimmed]
        exact tailless old there
      · exact tailless old there
  | trimTrailingBlankLines => exact trimTail_tailless buffer number
  | _ => exact tailless

theorem ended_lasting : Lasting Buffer.Ended := by
  intro buffer ended number fix
  cases fix with
  | stripTrailingWhitespace =>
      rcases ended with empty | endsLine
      · left
        apply List.eq_nil_of_length_eq_zero
        simp [tidy, empty]
      · exact .inr endsLine
  | ensureFinalNewline => exact endLastLine_ended buffer number
  | trimTrailingBlankLines =>
      rcases ended with empty | endsLine
      · left
        simp [tidy, empty]
      · right
        simp [tidy, endsLine]
  | _ => exact ended

/-! ## A whole pass -/

/-- What holds at the start, or is brought about by some fix, holds at the end
of a pass. -/
theorem Lasting.makeAll {holds : Buffer → Prop} (lasting : Lasting holds)
    {steps : List (Issue × Fix)}
    (whitespace : ∀ step ∈ steps, step.2.isWhitespaceOnly = true)
    (keepPackageFiles : Bool) {buffer : Buffer} (made : holds buffer ∨
      ∃ step ∈ steps, ∀ buffer, holds (tidy step.1.line buffer step.2)) :
    holds (makeAll keepPackageFiles steps buffer) := by
  induction steps generalizing buffer with
  | nil =>
      rcases made with start | ⟨step, member, _⟩
      · exact start
      · cases member
  | cons step steps induction =>
      obtain ⟨issue, fix⟩ := step
      have ⟨here, behind⟩ := List.forall_mem_cons.mp whitespace
      rw [Fix.makeAll, List.foldl_cons,
        attempt_eq_tidy here keepPackageFiles buffer issue]
      apply induction behind
      rcases made with start | ⟨step, member, brought⟩
      · exact .inl (lasting buffer start issue.line fix)
      · rcases List.mem_cons.mp member with first | later
        · subst first
          exact .inl (brought buffer)
        · exact .inr ⟨step, later, brought⟩

/-- The steps make the fix of every blemish, and only fixes of whitespace. -/
structure Treats (content : Text) (steps : List (Issue × Fix)) : Prop where
  whitespace : ∀ step ∈ steps, step.2.isWhitespaceOnly = true
  complete : ∀ code number, Text.Blemish content code number →
    ∃ step ∈ steps, step.1.line = number ∧
    Strategy.ofRule code .python = .mechanical step.2

namespace Treats

variable {content : Text} {steps : List (Issue × Fix)}

/-- What a text without a blemish has, and the fix of the blemish brings about,
a pass leaves. -/
theorem of_lasting (treats : Treats content steps) {holds : Buffer → Prop}
    (lasting : Lasting holds) (keepPackageFiles : Bool) {code : String}
    {number : Nat} {fix : Fix}
    (start : ¬ Text.Blemish content code number → holds (.ofText content))
    (rule : Strategy.ofRule code .python = .mechanical fix)
    (brought : ∀ buffer, holds (tidy number buffer fix)) :
    holds (makeAll keepPackageFiles steps (.ofText content)) := by
  apply lasting.makeAll treats.whitespace
  by_cases blemish : Text.Blemish content code number
  · right
    obtain ⟨step, member, line, strategy⟩ := treats.complete code number blemish
    refine ⟨step, member, ?_⟩
    intro buffer
    rw [rule] at strategy
    cases strategy
    rw [line]
    exact brought buffer
  · left
    exact start blemish

/-- A pass with the fix of every blemish leaves none. -/
theorem no_blemish (treats : Treats content steps) (keepPackageFiles : Bool)
    (code : String) (number : Nat) :
    ¬ Text.Blemish (makeAll keepPackageFiles steps (.ofText content)).render
      code number := by
  apply Buffer.no_blemish
  · exact (makeAll_tidied treats.whitespace keepPackageFiles
        (Buffer.ofText_whole content)).1
  · intro index
    apply treats.of_lasting (trimmedAt_lasting index) keepPackageFiles
      Buffer.ofText_trimmedAt rfl
    intro buffer
    exact strip_trimmedAt buffer index
  · apply treats.of_lasting tailless_lasting keepPackageFiles
      Buffer.ofText_tailless rfl
    intro buffer
    exact trimTail_tailless buffer _
  · apply treats.of_lasting ended_lasting keepPackageFiles
      Buffer.ofText_ended rfl
    intro buffer
    exact endLastLine_ended buffer _

end Treats

end Fix

end LintMend
