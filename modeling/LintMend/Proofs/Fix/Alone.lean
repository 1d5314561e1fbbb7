import LintMend.Proofs.Buffer.Surroundings
import LintMend.Proofs.Fix.Tidying

/-!
# Fixes of a line on its own

Locality tells where a fix writes. What it writes does not depend on the lines
around either: a fix reads its own line and nothing else, so it does to the line
in a file what it does to the line in a buffer of its own. The one exception is
an import in a block, where the lines around decide whether `pass` has to take
its place.
-/

namespace LintMend

/-- The line in a buffer of its own. -/
def Line.alone (line : Line) : Buffer :=
  { lines := [line]
    endsLine := line.ending ≠ .none
    fallback := line.ending.orElse .lf }

/-- A line of a text is on its own what is read from the line and its ending. -/
theorem Line.alone_eq_ofText {content : Text} {line : Line}
    (member : line ∈ Line.ofText content) :
    line.alone = Buffer.ofText line.whole := by
  obtain ⟨before, after, read⟩ := List.append_of_mem member
  have inFile := Line.standsIn_of_ofText read
  have stands : line.StandsIn line.whole 1 [] [] :=
    { content := by simp [whole]
      number := rfl
      begins := nofun
      plain := inFile.plain
      returns := inFile.returns
      last := fun unended => ⟨(inFile.last unended).1, rfl⟩ }
  have lines : Line.ofText line.whole = [line] := stands.ofText_eq
  rw [alone, Buffer.ofText, lines]
  congr 1
  exact decide_eq_decide.mpr (stands.feed_iff rfl).symm

namespace Fix

/-- Both are refused, or the same texts take the place of the one line and of
the other. -/
inductive Alike (buffer other : Buffer) (number place : Nat) :
    Result → Result → Prop
  | refused (refusal another : Refusal) :
      Alike buffer other number place (.error refusal)
      (.error another)
  | spliced {texts : List Text} {fixed written : Buffer}
      (here : buffer.Spliced number texts fixed)
      (there : other.Spliced place texts written) :
      Alike buffer other number place (.ok fixed) (.ok written)

/-- A line that is not indented stands in no block. -/
@[simp]
theorem isOnlyStatement_unindented {buffer : Buffer} {number : Nat} :
    isOnlyStatement buffer number [] = false := by
  simp [isOnlyStatement]

section

variable {buffer other : Buffer} {number place : Nat} {text : Text}
  (here : buffer.line? number = some text)
  (there : other.line? place = some text)

include here there

theorem Alike.setLine (changed : Text) : Alike buffer other number place
    (.ok (buffer.setLine number changed)) (.ok (other.setLine place changed)) :=
  .spliced (Buffer.spliced_setLine here changed)
    (Buffer.spliced_setLine there changed)

theorem Alike.removeLine : Alike buffer other number place
    (.ok (buffer.removeLine number)) (.ok (other.removeLine place)) :=
  .spliced (Buffer.spliced_removeLine here) (Buffer.spliced_removeLine there)

theorem changeCode_alike (change : Text → Text) (nothing : Refusal) :
    Alike buffer other number place (changeCode change nothing buffer number)
      (changeCode change nothing other place) := by
  simp only [changeCode, lineOf_bind_eq here, lineOf_bind_eq there]
  split
  · exact .refused _ _
  · exact .setLine here there _

theorem stripTrailing_alike :
    Alike buffer other number place (stripTrailing buffer number)
    (stripTrailing other place) := by
  simp only [stripTrailing, lineOf_bind_eq here, lineOf_bind_eq there]
  split
  · exact .refused _ _
  · exact .setLine here there _

theorem letToConst_alike :
    Alike buffer other number place (letToConst buffer number)
    (letToConst other place) := by
  simp only [letToConst, lineOf_bind_eq here, lineOf_bind_eq there]
  split
  · exact .refused _ _
  · split
    · exact .refused _ _
    · exact .setLine here there _

theorem dropFinalSemicolon_alike : Alike buffer other number place
    (dropFinalSemicolon buffer number) (dropFinalSemicolon other place) := by
  simp only [dropFinalSemicolon, lineOf_bind_eq here, lineOf_bind_eq there]
  split
  · exact .setLine here there _
  · exact .refused _ _

theorem splitLine_alike :
    Alike buffer other number place (splitLine buffer number)
    (splitLine other place) := by
  simp only [splitLine, lineOf_bind_eq here, lineOf_bind_eq there]
  split
  · exact .refused _ _
  · split
    · exact .refused _ _
    · exact .spliced (Buffer.spliced_spliceLine here _)
        (Buffer.spliced_spliceLine there _)

theorem dropExtraSemicolon_alike : Alike buffer other number place
    (dropExtraSemicolon buffer number) (dropExtraSemicolon other place) := by
  simp only [dropExtraSemicolon, lineOf_bind_eq here, lineOf_bind_eq there]
  split
  · exact .removeLine here there
  · split
    · exact .setLine here there _
    · split
      · exact .setLine here there _
      · exact .refused _ _

theorem dropImport_alike (unindented : Text.indent text = [])
    (keepPackageFiles : Bool) (path : Path) (message : Text) :
    Alike buffer other number place
      (dropImport keepPackageFiles path message buffer number)
      (dropImport keepPackageFiles path message other place) := by
  simp only [dropImport, lineOf_bind_eq here, lineOf_bind_eq there, unindented,
    isOnlyStatement_unindented, Bool.false_eq_true, if_false]
  split
  · exact .refused _ _
  · split
    · rcases importOn (Text.trim (Scan.splitComment ['#'] text).1) with
        fault | statement
      · exact .refused _ _
      · simp only [ok_bind]
        split
        · split
          · exact .removeLine here there
          · exact .setLine here there _
        · exact .refused _ _
    · exact .refused _ _

/-- A fix of a single line reads no other, unless it is an import in a block. -/
theorem apply_alike {fix : Fix} (addressed : fix.isLineAddressed = true)
    (unindented : fix = .removeUnusedImport → Text.indent text = [])
    (keepPackageFiles : Bool) (issue : Issue) :
    Alike buffer other number place
      (fix.apply keepPackageFiles { issue with line := number } buffer)
      (fix.apply keepPackageFiles { issue with line := place } other) := by
  cases fix with
  | removeUnusedImport =>
      exact dropImport_alike here there (unindented rfl) _ _ _
  | plainStringLiteral | noneIdentityComparison | boolIdentityComparison =>
      exact changeCode_alike here there _ _
  | stripTrailingWhitespace => exact stripTrailing_alike here there
  | splitStatements => exact splitLine_alike here there
  | removeUselessSemicolon => exact dropFinalSemicolon_alike here there
  | preferConst => exact letToConst_alike here there
  | removeExtraSemicolon => exact dropExtraSemicolon_alike here there
  | ensureFinalNewline | trimTrailingBlankLines => cases addressed

end

/-- The same fix where its line has another number. -/
def moveTo (number : Nat) (step : Issue × Fix) : Issue × Fix :=
  ({ step.1 with line := number }, step.2)

variable {step : Issue × Fix} {buffer : Buffer} {number : Nat}
  {keepPackageFiles : Bool}

/-- A fix leaves of a line in a file what it leaves of the line on its own. -/
theorem attempt_alone (addressed : step.2.isLineAddressed = true)
    {front behind : List Line} {line : Line}
    (unindented : step.2 = .removeUnusedImport → Text.indent line.text = [])
    (whole : buffer.lines = front ++ line :: behind)
    (place : number = front.length + 1) :
    attempt keepPackageFiles buffer (moveTo number step) =
      { buffer with
        lines := front ++
          (attempt keepPackageFiles line.alone (moveTo 1 step)).lines ++
          behind } := by
  have here : buffer.line? number = some line.text := by
    rw [place]
    exact Buffer.line?_of_getElem? (Nat.succ_ne_zero _) (by simp [whole])
  have there : line.alone.line? 1 = some line.text := rfl
  have alike :=
    apply_alike here there addressed unindented keepPackageFiles step.1
  simp only [attempt, moveTo]
  generalize step.2.apply keepPackageFiles
    { step.1 with line := number } buffer = result
    at alike ⊢
  generalize step.2.apply keepPackageFiles
    { step.1 with line := 1 } line.alone = result
    at alike ⊢
  cases alike with
  | refused => simp [Line.alone, ← whole]
  | spliced inFile alone =>
      rw [place] at inFile
      have only : line.alone.lines = [] ++ line :: [] := rfl
      rw [inFile.eq_of_lines whole, alone.eq_of_lines only]
      simp

/-- There is nothing to fix where there is no line. -/
theorem attempt_outside (addressed : step.2.isLineAddressed = true)
    (outside : number = 0 ∨ buffer.lineCount < number) :
    attempt keepPackageFiles buffer (moveTo number step) = buffer := by
  simp only [attempt]
  split
  · next applied =>
      obtain ⟨_, _, spliced⟩ := apply_spliced addressed applied
      have start : number ≠ 0 := spliced.start
      have inside : number ≤ buffer.lineCount := spliced.inside
      omega
  · rfl

end Fix

end LintMend
