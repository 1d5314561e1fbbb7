import Mathlib.Data.Prod.Lex
import LintMend.Proofs.Buffer.Surroundings
import LintMend.Proofs.Fix.Cleaning
import LintMend.Proofs.Fix.Weight

/-!
# Mechanical fixes never lead back

Every mechanical fix that is made lowers the rank of a buffer: it makes the
lines lighter, or ends the last line, which is never taken back, or takes blanks
away. So however many are made, in whatever order, what is written in the end is
not what was read.
-/

namespace LintMend

open Text (weight weight_append)

variable {buffer fixed : Buffer} {number : Nat} {text : Text}

namespace Buffer

instance (buffer : Buffer) : Decidable buffer.Ended :=
  inferInstanceAs (Decidable (_ ∨ _))

/-- What falls with a mechanical fix: first the weight of the lines, then
whether the last one is not ended, then the length of what is written. -/
def rank (buffer : Buffer) : Nat ×ₗ Nat ×ₗ Nat :=
  toLex (weight (buffer.lines.map Line.text).flatten,
    toLex (if buffer.Ended then 0 else 1, buffer.render.length))

theorem rank_lt_iff : fixed.rank < buffer.rank ↔
    weight (fixed.lines.map Line.text).flatten <
      weight (buffer.lines.map Line.text).flatten ∨
      weight (fixed.lines.map Line.text).flatten =
        weight (buffer.lines.map Line.text).flatten ∧
        ((fixed.Ended ∧ ¬ buffer.Ended) ∨
          (fixed.Ended ↔ buffer.Ended) ∧
          fixed.render.length < buffer.render.length) := by
  simp only [rank, Prod.Lex.toLex_lt_toLex]
  by_cases ended : fixed.Ended <;> by_cases old : buffer.Ended <;>
    simp [ended, old]

theorem Lightened.rank_lt (lightened : buffer.Lightened number fixed) :
    fixed.rank < buffer.rank := by
  obtain ⟨text, texts, found, spliced, less⟩ := lightened
  obtain ⟨front, line, behind, whole, rfl, rfl⟩ := lines_of_line? found
  rw [spliced.eq_of_lines whole]
  apply rank_lt_iff.mpr
  left
  rw [whole]
  have same : (texts.map fun text =>
    (⟨text, line.ending⟩ : Line)).map Line.text = texts := by
    simp [Function.comp_def]
  simp only [List.map_append, List.map_cons, List.flatten_append,
    List.flatten_cons, same, weight_append]
  omega

/-- Lines are written the same, whatever lines the buffer has. -/
theorem renderLines_with (buffer : Buffer) (others lines : List Line) :
    Buffer.renderLines { buffer with lines := others } lines =
      buffer.renderLines lines := by
  induction lines with
  | nil => rfl
  | cons line rest induction =>
      cases rest with
      | nil => rfl
      | cons next rest =>
          have several : next :: rest ≠ [] := List.cons_ne_nil next rest
          rw [renderLines_cons (.inr several), renderLines_cons (.inr several),
            induction]
          rfl

/-- All that is written but the text of one line does not depend on that
text. -/
theorem renderLines_middle (buffer : Buffer) (front : List Line)
    (ending : Ending) (behind : List Line) :
    ∃ before after, ∀ text,
      buffer.renderLines (front ++ ⟨text, ending⟩ :: behind) =
        before ++ text ++ after := by
  induction front with
  | nil =>
      cases behind with
      | nil =>
          exact
            ⟨[],
              if buffer.endsLine then (ending.orElse buffer.fallback).text
              else [],
              fun text => rfl⟩
      | cons next behind =>
          refine ⟨[], (ending.orElse buffer.fallback).text ++
            buffer.renderLines (next :: behind), fun text => ?_⟩
          rw [List.nil_append,
            renderLines_cons (.inr (List.cons_ne_nil next behind)),
            List.append_assoc]
          rfl
  | cons line front induction =>
      obtain ⟨before, after, written⟩ := induction
      refine ⟨line.text ++ (buffer.endingOf line).text ++ before, after,
        fun text => ?_⟩
      rw [List.cons_append, renderLines_cons (.inr (by simp)), written]
      simp

/-- A shorter text in the place of a line makes the file shorter. -/
theorem length_render_setLine (found : buffer.line? number = some text)
    {changed : Text} (shorter : changed.length < text.length) :
    (buffer.setLine number changed).buffer.render.length <
      buffer.render.length := by
  obtain ⟨front, line, behind, whole, rfl, rfl⟩ := lines_of_line? found
  have fixed := (spliced_setLine found changed).eq_of_lines whole
  obtain ⟨before, after, written⟩ :=
    renderLines_middle buffer front line.ending behind
  have old : buffer.render = before ++ line.text ++ after := by
    rw [render, whole]
    exact written line.text
  have new : (buffer.setLine (front.length + 1) changed).buffer.render =
      before ++ changed ++ after := by
    rw [fixed, render, renderLines_with]
    simpa using written changed
  rw [old, new]
  simp only [List.length_append]
  omega

/-- A buffer that ends its last line writes less if lines at its end are left
out. -/
theorem length_renderLines (whole : buffer.Whole)
    (endsLine : buffer.endsLine = true) (kept : List Line) {behind : List Line}
    (some : behind ≠ []) :
    (buffer.renderLines kept).length <
      (buffer.renderLines (kept ++ behind)).length := by
  induction kept with
  | nil =>
      obtain ⟨line, rest, rfl⟩ := List.exists_cons_of_ne_nil some
      rw [List.nil_append, renderLines_cons (.inl endsLine)]
      cases ending : buffer.endingOf line with
      | none => exact absurd ending (endingOf_ne_none whole.ended line)
      | lf | crlf => simp [renderLines]
  | cons line kept induction =>
      rw [List.cons_append, renderLines_cons (.inl endsLine),
        renderLines_cons (.inl endsLine)]
      simp only [List.length_append] at induction ⊢
      omega

/-- A file that is written with a lower rank is another one. -/
theorem render_ne_of_rank_lt {content : Text} (whole : fixed.Whole)
    (less : fixed.rank < (ofText content).rank) : fixed.render ≠ content := by
  -- line ends weigh nothing, so what is written weighs what the lines do
  have weight_render {buffer : Buffer} (whole : buffer.Whole) :
      weight (buffer.lines.map Line.text).flatten = weight buffer.render := by
    apply Text.weight_eq_of_visible
    rw [← Text.visible_lines buffer.render, (tidied_render whole).visible_eq]
  intro same
  rw [rank_lt_iff, weight_render whole, weight_render (ofText_whole content),
    render_ofText, same] at less
  rcases less with lighter | ⟨-, ⟨ended, unended⟩ | ⟨-, shorter⟩⟩
  · exact Nat.lt_irrefl _ lighter
  · rcases getLast?_render whole.ended ended with none | feed
    · rw [same] at none
      exact unended (.inl (by rw [none]; rfl))
    · rw [same] at feed
      exact unended (.inr (decide_eq_true feed))
  · exact Nat.lt_irrefl _ shorter

end Buffer

namespace Fix

theorem stripTrailing_rank_lt
    (applied : stripTrailing buffer number = .ok fixed) :
    fixed.rank < buffer.rank := by
  obtain ⟨text, found, changed, rfl⟩ := stripTrailing_eq_ok applied
  obtain ⟨front, line, behind, whole, rfl, rfl⟩ := Buffer.lines_of_line? found
  have shorter : (Text.trimEnd line.text).length < line.text.length := by
    have isPrefix := Text.trimEnd_isPrefix line.text
    apply Nat.lt_of_le_of_ne isPrefix.length_le
    exact fun same => changed (isPrefix.eq_of_length same)
  have edited :=
    (Buffer.spliced_setLine found (Text.trimEnd line.text)).eq_of_lines whole
  rw [Buffer.rank_lt_iff]
  right
  refine ⟨?_, .inr ⟨?_, Buffer.length_render_setLine found shorter⟩⟩
  · rw [edited, whole]
    simp
  · rw [edited, Buffer.Ended, Buffer.Ended, whole]
    simp

theorem endLastLine_rank_lt (applied : endLastLine buffer = .ok fixed) :
    fixed.rank < buffer.rank := by
  unfold endLastLine at applied
  split at applied
  · cases applied
  · next unended =>
      cases applied
      rw [Buffer.rank_lt_iff]
      exact .inr ⟨rfl, .inl ⟨.inr rfl, unended⟩⟩

theorem trimTail_rank_lt (whole : buffer.Whole)
    (applied : trimTail buffer = .ok fixed) :
    fixed.rank < buffer.rank := by
  obtain ⟨fewer, rfl⟩ := trimTail_eq_ok applied
  obtain ⟨behind, lines⟩ := dropBlankTail_isPrefix buffer.lines
  have some : behind ≠ [] := by
    rintro rfl
    rw [List.append_nil] at lines
    exact fewer (congrArg List.length lines)
  have weights := (tidied_rdropWhile buffer.lines).visible_eq
  rw [← Buffer.dropBlankTail_eq_rdropWhile] at weights
  rw [Buffer.rank_lt_iff]
  right
  refine ⟨Text.weight_eq_of_visible weights, ?_⟩
  by_cases ended : buffer.Ended
  · right
    have endsLine : buffer.endsLine = true := by
      refine ended.resolve_left fun none => some ?_
      rw [none] at lines
      exact (List.append_eq_nil_iff.mp lines).2
    refine ⟨iff_of_true (.inr rfl) ended, ?_⟩
    have shorter :=
      Buffer.length_renderLines whole endsLine
        (Buffer.dropBlankTail buffer.lines) some
    have kept : buffer.trimBlankTail.setEndsLine true =
        { buffer with lines := Buffer.dropBlankTail buffer.lines } := by
      rw [Buffer.trimBlankTail, Buffer.setEndsLine, ← endsLine]
    rwa [lines, ← Buffer.renderLines_with, ← kept] at shorter
  · exact .inl ⟨.inr rfl, ended⟩

/-- Every mechanical fix that is made lowers the rank. -/
theorem apply_rank_lt {fix : Fix} (whole : buffer.Whole)
    {keepPackageFiles : Bool} {issue : Issue}
    (applied : fix.apply keepPackageFiles issue buffer = .ok fixed) :
    fixed.rank < buffer.rank := by
  cases more : fix.isWhitespaceOnly with
  | false => exact (apply_lightened more applied).rank_lt
  | true =>
      cases fix with
      | stripTrailingWhitespace => exact stripTrailing_rank_lt applied
      | ensureFinalNewline => exact endLastLine_rank_lt applied
      | trimTrailingBlankLines => exact trimTail_rank_lt whole applied
      | _ => cases more

end Fix

end LintMend
