import LintMend.Scan
import LintMend.Proofs.Scan.Reading
import LintMend.Proofs.Text.Joining
import LintMend.Proofs.Text.Trim

/-!
# Pieces of a text

Whatever a line is cut into, every character of a piece is one of the line: its
code and its comment, the stretches in and out of literals, what stands between
separators, and what is left when blanks at the ends are dropped.
-/

namespace LintMend

namespace Text

theorem trim_subset (text : Text) : trim text ⊆ text :=
  fun _ member =>
    (List.dropWhile_suffix _).subset ((trimEnd_isPrefix _).subset member)

theorem cut?_eq_some {word text front behind : Text}
    (cut : cut? word text = some (front, behind)) :
    text = front ++ word ++ behind := by
  induction text generalizing front behind with
  | nil =>
      rw [cut?] at cut
      split at cut
      · next empty =>
          cases cut
          simpa using empty
      · cases cut
  | cons c rest induction =>
      rw [cut?] at cut
      split at cut
      · next after =>
          cases cut
          exact after?_eq_some.mp after
      · obtain ⟨⟨inside, later⟩, found, same⟩ := Option.map_eq_some_iff.mp cut
        cases same
        rw [induction found]
        rfl

end Text

namespace Scan

@[simp]
theorem splitComment_append (marker line : Text) :
    (splitComment marker line).1 ++ (splitComment marker line).2 = line := by
  have every (place : Quoting) : (splitCommentFrom marker place line).1 ++
      (splitCommentFrom marker place line).2 = line := by
    induction line generalizing place with
    | nil => rfl
    | cons c rest induction =>
        rw [splitCommentFrom]
        split
        · rfl
        · exact congrArg (c :: ·) (induction (place.step c))
  exact every .code

theorem append_of_splitComment {marker line code comment : Text}
    (split : splitComment marker line = (code, comment)) :
    code ++ comment = line := by
  have whole := splitComment_append marker line
  rwa [split] at whole

theorem code_subset (marker line : Text) :
    (splitComment marker line).1 ⊆ line := by
  intro c member
  rw [← splitComment_append marker line]
  exact List.mem_append_left _ member

/-- A comment is kept away from code that ends in no blank. -/
theorem withComment_of_trimmed {code : Text} (some : code ≠ [])
    (trimmed : Text.trimEnd code = code) (comment : Text) :
    withComment code comment = code ++
      (if comment = [] then [] else [' ', ' ']) ++ comment := by
  unfold withComment
  split
  · next none => rw [none, List.append_nil, List.append_nil]
  · split
    · next blank =>
        rw [← Text.trimEnd_eq_nil_iff, trimmed] at blank
        exact absurd blank some
    · rw [trimmed]

@[simp]
theorem visible_withComment (code comment : Text) :
    Text.visible (withComment code comment) =
      Text.visible code ++ Text.visible comment := by
  unfold withComment
  split
  · next none =>
      rw [none]
      exact (List.append_nil _).symm
  · split
    · exact Text.visible_append code comment
    · rw [Text.visible_append, Text.visible_append, Text.visible_trimEnd]
      exact congrArg (· ++ _) (List.append_nil _)

private theorem consSegment_text {c : Char} {segments : List Segment}
    (several : segments ≠ []) :
    (consSegment c segments).flatMap Segment.text =
      c :: segments.flatMap Segment.text := by
  cases segments with
  | nil => exact absurd rfl several
  | cons segment segments => cases segment <;> rfl

private theorem consSegment_ne_nil {c : Char} {segments : List Segment}
    (several : segments ≠ []) :
    consSegment c segments ≠ [] := by
  cases segments with
  | nil => exact absurd rfl several
  | cons segment segments => exact List.cons_ne_nil _ _

private theorem segmentsFrom_text (place : Quoting) (line : Text) :
    segmentsFrom place line ≠ [] ∧
    (segmentsFrom place line).flatMap Segment.text = line := by
  induction line generalizing place with
  | nil => cases place <;> exact ⟨List.cons_ne_nil _ _, rfl⟩
  | cons c rest induction =>
      obtain ⟨several, whole⟩ := induction (place.step c)
      have longer : (consSegment c (segmentsFrom (place.step c) rest)).flatMap
            Segment.text =
          c :: rest := by
        rw [consSegment_text several, whole]
      cases place with
      | code =>
          rw [segmentsFrom]
          split
          · exact ⟨List.cons_ne_nil _ _, by rw [List.flatMap_cons, longer]; rfl⟩
          · exact ⟨consSegment_ne_nil several, longer⟩
      | literal quote escaped =>
          rw [segmentsFrom]
          split
          · exact ⟨List.cons_ne_nil _ _, by rw [List.flatMap_cons, whole]; rfl⟩
          · exact ⟨consSegment_ne_nil several, longer⟩

@[simp]
theorem segments_text (line : Text) :
    (segments line).flatMap Segment.text = line :=
  (segmentsFrom_text .code line).2

theorem segment_subset {line : Text} {segment : Segment}
    (member : segment ∈ segments line) :
    segment.text ⊆ line := by
  intro c inside
  rw [← segments_text line]
  exact List.mem_flatMap.mpr ⟨segment, member, inside⟩

theorem cutAtMarks_subset (text : Text) (marks : List Bool) :
    ∀ piece ∈ cutAtMarks text marks, piece ⊆ text := by
  induction text generalizing marks with
  | nil => simp [cutAtMarks]
  | cons c rest induction =>
      cases marks with
      | nil => exact Text.subset_of_modifyHead (induction [])
      | cons mark marks =>
          rw [cutAtMarks]
          split
          · exact Text.subset_of_cut (induction marks)
          · exact Text.subset_of_modifyHead (induction marks)

theorem splitTopLevel_subset (separator : Char) (marker line : Text) :
    ∀ piece ∈ splitTopLevel separator marker line, piece ⊆ line :=
  cutAtMarks_subset line _

end Scan

end LintMend
