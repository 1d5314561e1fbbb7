import LintMend.Assist.Reply
import LintMend.Proofs.Fix.Locality
import LintMend.Proofs.Scan.Reading
import LintMend.Proofs.Text.Lines

/-!
# Replies that delete a line

A suggestion of blanks deletes the line it is for. Besides a blank reply and a
block with a blank body, a fence without a line feed behind it comes to that:
all that follows on its line is dropped as the name of a language.
-/

namespace LintMend

namespace Reply

theorem isBlank_of_isNewline (c : Char) (newline : isNewline c = true) :
    Text.isBlank c = true := by
  rw [beq_iff_eq.mp newline]
  rfl

/-- A block whose body is blank: the line of the opening fence, blanks and the
closing fence. -/
def IsEmptyBlock (reply : Text) : Prop :=
  ∃ tag body, reply = fence ++ tag ++ '\n' :: (body ++ fence) ∧ '\n' ∉ tag ∧
    Text.blank body = true

/-- A fence with all that follows on its line. -/
def IsFenceLine (reply : Text) : Prop :=
  fence <+: reply ∧ '\n' ∉ reply

variable {raw text tag : Text}

@[simp]
theorem blank_plainBody (raw : Text) :
    Text.blank (plainBody raw) = Text.blank raw := by
  rw [plainBody, Text.trimEnd, Text.blank_dropEndWhile fun _ => id,
    Text.blank_dropEndWhile isBlank_of_isNewline,
    Text.blank_dropWhile isBlank_of_isNewline]

theorem afterFirstLine_of_unbroken (unbroken : '\n' ∉ text) :
    afterFirstLine text = [] := by
  have all : text.dropWhile (fun c => !isNewline c) = [] := by
    rw [List.dropWhile_eq_nil_iff]
    intro c member
    have other : c ≠ '\n' := fun same => unbroken (same ▸ member)
    simp [isNewline, other]
  rw [afterFirstLine, all]
  rfl

theorem afterFirstLine_of_tag (unbroken : '\n' ∉ tag) (text : Text) :
    afterFirstLine (tag ++ '\n' :: text) = text := by
  have all : ∀ c ∈ tag, (!isNewline c) = true := by
    intro c member
    have other : c ≠ '\n' := fun same => unbroken (same ▸ member)
    simp [isNewline, other]
  rw [afterFirstLine, List.dropWhile_append_of_pos all]
  rfl

theorem blank_fencedBody_of_unbroken (unbroken : '\n' ∉ text) :
    Text.blank (fencedBody text) = true := by
  rw [fencedBody, afterFirstLine_of_unbroken unbroken]
  rfl

/-- What follows the line of the opening fence is blank only up to a closing
fence. -/
theorem blank_fencedBody_iff (unbroken : '\n' ∉ tag)
    (trimmed : Text.trimEnd text = text) (some : text ≠ []) :
    Text.blank (fencedBody (tag ++ '\n' :: text)) = true ↔
      ∃ body, text = body ++ fence ∧ Text.blank body = true := by
  rw [fencedBody, afterFirstLine_of_tag unbroken,
    Text.blank_dropEndWhile isBlank_of_isNewline, withoutClosingFence, trimmed]
  split
  · next closed =>
      obtain ⟨body, rfl⟩ := List.isSuffixOf_iff_suffix.mp closed
      rw [List.length_append, Nat.add_sub_cancel, List.take_left]
      constructor
      · exact fun blank => ⟨body, rfl, blank⟩
      · rintro ⟨other, same, blank⟩
        rwa [List.append_cancel_right same]
  · next unclosed =>
      refine iff_of_false (fun blank => ?_) ?_
      · rw [← Text.trimEnd_eq_nil_iff, trimmed] at blank
        exact some blank
      · rintro ⟨body, rfl, -⟩
        exact unclosed
          (List.isSuffixOf_iff_suffix.mpr (List.suffix_append body fence))

/-- A trimmed reply is trimmed behind its first line too. -/
theorem trimmed_behind {front : Text}
    (trimmed : Text.trimEnd (front ++ '\n' :: text) = front ++ '\n' :: text) :
    Text.trimEnd text = text ∧ text ≠ [] := by
  by_cases some : Text.trimEnd text = []
  · have blank := Text.trimEnd_eq_nil_iff.mp some
    have all : ∀ c ∈ '\n' :: text, Text.isBlank c = true :=
      List.forall_mem_cons.mpr ⟨rfl, List.all_eq_true.mp blank⟩
    have shorter := (Text.trimEnd_isPrefix front).length_le
    rw [Text.trimEnd_of_blank all] at trimmed
    rw [trimmed, List.length_append, List.length_cons] at shorter
    omega
  · have kept := Text.trimEnd_append some (front ++ ['\n'])
    rw [List.append_assoc, List.singleton_append, trimmed, List.append_assoc,
      List.append_cancel_left_eq] at kept
    have same : Text.trimEnd text = text := (List.cons.inj kept).2.symm
    exact ⟨same, same ▸ some⟩

theorem body_of_fence {rest : Text} (fenced : Text.trim raw = fence ++ rest) :
    body raw = fencedBody rest := by
  rw [body, Text.after?_eq_some.mpr fenced]

theorem body_of_plain (plain : ¬ fence <+: Text.trim raw) :
    body raw = plainBody raw := by
  rw [body]
  split
  · next rest after =>
      exact absurd ⟨rest, (Text.after?_eq_some.mp after).symm⟩ plain
  · rfl

theorem IsEmptyBlock.fenced (empty : IsEmptyBlock text) : fence <+: text := by
  obtain ⟨tag, body, rfl, -⟩ := empty
  rw [List.append_assoc]
  exact List.prefix_append _ _

/-- Which replies come to a blank suggestion. -/
theorem blank_body_iff :
    Text.blank (body raw) = true ↔
      Text.blank raw = true ∨ IsEmptyBlock (Text.trim raw) ∨
      IsFenceLine (Text.trim raw) := by
  by_cases fenced : fence <+: Text.trim raw
  · obtain ⟨rest, whole⟩ := fenced
    have visible : ¬ Text.blank raw = true := by
      rw [← Text.blank_trim, ← whole, Text.blank_append]
      nofun
    rw [body_of_fence whole.symm, or_iff_right visible, ← whole]
    by_cases broken : '\n' ∈ rest
    · obtain ⟨tag, text, rfl, unbroken⟩ := List.eq_append_cons_of_mem broken
      have trimmed : Text.trimEnd (fence ++ tag ++ '\n' :: text) =
          fence ++ tag ++ '\n' :: text := by
        rw [List.append_assoc, whole, Text.trim, Text.trimEnd_trimEnd]
      obtain ⟨trimmedBehind, some⟩ := trimmed_behind trimmed
      have noLine : ¬ IsFenceLine (fence ++ (tag ++ '\n' :: text)) :=
        fun line => line.2 (by simp)
      rw [blank_fencedBody_iff unbroken trimmedBehind some, or_iff_left noLine]
      constructor
      · rintro ⟨body, rfl, blank⟩
        exact ⟨tag, body, (List.append_assoc ..).symm, unbroken, blank⟩
      · rintro ⟨other, body, same, alsoUnbroken, blank⟩
        rw [List.append_assoc, List.append_cancel_left_eq] at same
        have behind := congrArg afterFirstLine same
        rw [afterFirstLine_of_tag unbroken,
          afterFirstLine_of_tag alsoUnbroken] at behind
        exact ⟨body, behind, blank⟩
    · have apart : '\n' ∉ fence := by decide
      exact iff_of_true (blank_fencedBody_of_unbroken broken)
        (.inr ⟨List.prefix_append _ _, List.not_mem_append apart broken⟩)
  · rw [body_of_plain fenced, blank_plainBody]
    refine (or_iff_left ?_).symm
    rintro (empty | line)
    · exact fenced empty.fenced
    · exact fenced line.1

@[simp]
theorem blank_refusalMarker : Text.blank refusalMarker = false :=
  rfl

theorem cleanSuggestion_blank_iff :
    (∃ suggestion, cleanSuggestion raw = .ok suggestion ∧
      Text.blank suggestion = true) ↔
      Text.blank raw = true ∨ IsEmptyBlock (Text.trim raw) ∨
      IsFenceLine (Text.trim raw) := by
  rw [← blank_body_iff]
  constructor
  · rintro ⟨suggestion, cleaned, blank⟩
    simp only [cleanSuggestion] at cleaned
    split at cleaned
    · cases cleaned
    · split at cleaned
      · cases cleaned
      · cases cleaned
        exact blank
  · intro blank
    have noMarker : Text.trim (body raw) ≠ refusalMarker := by
      intro marker
      have shown := Text.blank_trim (body raw)
      rw [marker, blank, blank_refusalMarker] at shown
      cases shown
    have noRefusal : Text.trim raw ≠ refusalMarker := by
      intro marker
      have plain : ¬ fence <+: Text.trim raw := by
        rw [marker]
        decide
      rw [body_of_plain plain, blank_plainBody, ← Text.blank_trim, marker,
        blank_refusalMarker]
        at blank
      cases blank
    refine ⟨body raw, ?_, blank⟩
    simp only [cleanSuggestion, if_neg noRefusal, if_neg noMarker]

/-- A suggestion deletes the line if it is blank, and only then. -/
theorem applySuggestion_deletes_iff {buffer : Buffer} {number : Nat}
    {current suggestion : Text} (found : buffer.line? number = some current) :
    (∃ fixed, Fix.applySuggestion suggestion buffer number = .ok fixed ∧
      buffer.Spliced number [] fixed) ↔ Text.blank suggestion = true := by
  constructor
  · rintro ⟨fixed, applied, deleted⟩
    by_contra visible
    obtain ⟨text, there, applied⟩ := Fix.lineOf_bind applied
    simp only [if_neg visible] at applied
    split at applied
    · cases applied
    · cases applied
      have none : Text.lines suggestion = [] :=
        (Buffer.spliced_spliceLine there _).texts_unique deleted
      have seen := Text.visible_lines suggestion
      rw [none] at seen
      refine visible (Text.blank_of_all fun c member => ?_)
      simpa using List.filter_eq_nil_iff.mp seen.symm c member
  · intro blank
    refine ⟨_, ?_, Buffer.spliced_spliceLine found []⟩
    simp [Fix.applySuggestion, Fix.lineOf_bind_eq found, if_pos blank]

/-- A reply comes to a blank suggestion, and so deletes the line it is for, if
it is blank, or a block with a blank body, or if it begins with a fence and has
no line feed behind it. -/
theorem reply_deletes_iff (raw : Text) :
    ((∃ suggestion, cleanSuggestion raw = .ok suggestion ∧
        Text.blank suggestion = true) ↔
      Text.blank raw = true ∨ IsEmptyBlock (Text.trim raw) ∨
      IsFenceLine (Text.trim raw)) ∧
    ∀ (buffer : Buffer) (number : Nat) (current : Text),
      buffer.line? number = some current →
      ((∃ suggestion fixed, cleanSuggestion raw = .ok suggestion ∧
          Fix.applySuggestion suggestion buffer number = .ok fixed ∧
          buffer.Spliced number [] fixed) ↔
        Text.blank raw = true ∨ IsEmptyBlock (Text.trim raw) ∨
        IsFenceLine (Text.trim raw)) := by
  refine ⟨cleanSuggestion_blank_iff, fun buffer number current found => ?_⟩
  rw [← cleanSuggestion_blank_iff]
  refine exists_congr fun suggestion => ?_
  rw [exists_and_left, applySuggestion_deletes_iff found]

/-- Code between two fences on one line. -/
def fencedLine : Text :=
  "```x = 1```".toList

theorem fencedLine_deletes :
    ¬ (Text.blank fencedLine = true ∨ IsEmptyBlock (Text.trim fencedLine)) ∧
    ∃ suggestion fixed, cleanSuggestion fencedLine = .ok suggestion ∧
      Fix.applySuggestion suggestion (.ofText "x = None\ny = 2\n".toList) 1 =
        .ok fixed ∧
      fixed = .ofText "y = 2\n".toList := by
  have trimmed : Text.trim fencedLine = fencedLine := rfl
  have unbroken : '\n' ∉ fencedLine := by decide
  constructor
  · rintro (blank | empty)
    · cases blank
    · rw [trimmed] at empty
      obtain ⟨tag, body, whole, -⟩ := empty
      exact unbroken (by simp [whole])
  · have found : (Buffer.ofText "x = None\ny = 2\n".toList).line? 1 =
        some "x = None".toList := rfl
    have line : IsFenceLine (Text.trim fencedLine) := by
      rw [trimmed]
      exact ⟨by decide, unbroken⟩
    obtain ⟨suggestion, fixed, cleaned, applied, deleted⟩ :=
      ((reply_deletes_iff fencedLine).2 _ 1 _ found).mpr (.inr (.inr line))
    exact ⟨suggestion, fixed, cleaned, applied,
      deleted.unique (Buffer.spliced_removeLine found)⟩

end Reply

end LintMend
