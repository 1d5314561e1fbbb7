import LintMend.Proofs.Assist.Deletion

/-!
# Replies that carry a replacement

A model writes the replacement of a line into a block between two fences, or as
it is. Both ways are undone: the body of a block loses the line feeds at
its end, a reply without fences those in front and the blanks behind, and
nothing else of the text is lost.
-/

namespace LintMend

namespace Reply

variable {raw tag : Text}

/-- A body between two fences, each on a line of its own. The first one names
the language. -/
def block (tag body : Text) : Text :=
  fence ++ tag ++ '\n' :: (body ++ '\n' :: fence)

@[simp]
theorem trimEnd_fence (text : Text) :
    Text.trimEnd (text ++ fence) = text ++ fence :=
  have visible : Text.isBlank '\x60' = false := by decide
  calc
    Text.trimEnd (text ++ fence)
      = Text.trimEnd (text ++ ['\x60', '\x60'] ++ ['\x60']) := by
          rw [List.append_assoc]; rfl
    _ = text ++ ['\x60', '\x60'] ++ ['\x60'] := Text.trimEnd_visible visible _
    _ = text ++ fence := by rw [List.append_assoc]; rfl

theorem block_eq (tag body : Text) :
    block tag body = fence ++ (tag ++ '\n' :: (body ++ ['\n'])) ++ fence := by
  simp [block]

@[simp]
theorem trim_block (tag body : Text) :
    Text.trim (block tag body) = block tag body := by
  have start : Text.trimStart (block tag body) = block tag body :=
    Text.trimStart_cons (by decide) _
  rw [Text.trim, start, block_eq, trimEnd_fence]

@[simp]
theorem withoutClosingFence_append (body : Text) :
    withoutClosingFence (body ++ fence) = body := by
  have closed : Text.endsWith (body ++ fence) fence = true :=
    List.isSuffixOf_iff_suffix.mpr (List.suffix_append body fence)
  rw [withoutClosingFence, trimEnd_fence]
  simp only [closed, if_true]
  rw [List.length_append, Nat.add_sub_cancel, List.take_left]

/-- The body of a block comes out without the line feeds at its end, whatever
else it holds. -/
theorem fencedBody_block (unbroken : '\n' ∉ tag) (body : Text) :
    fencedBody (tag ++ '\n' :: (body ++ '\n' :: fence)) =
      Text.dropEndWhile isNewline body := by
  have newline : isNewline '\n' = true := rfl
  rw [fencedBody, afterFirstLine_of_tag unbroken, ← List.singleton_append,
    ← List.append_assoc, withoutClosingFence_append,
    Text.dropEndWhile_concat newline]

theorem body_block (unbroken : '\n' ∉ tag) {front behind : Text}
    (blankFront : Text.blank front = true)
    (blankBehind : Text.blank behind = true) (text : Text) :
    body (front ++ block tag text ++ behind) =
      Text.dropEndWhile isNewline text := by
  have fenced : Text.trim (front ++ block tag text ++ behind) =
      fence ++ (tag ++ '\n' :: (text ++ '\n' :: fence)) := by
    rw [Text.trim_of_blank (List.all_eq_true.mp blankBehind),
      Text.trim_append_of_blank (List.all_eq_true.mp blankFront),
      trim_block, block, List.append_assoc]
  rw [body_of_fence fenced, fencedBody_block unbroken]

theorem plainBody_eq (raw : Text) :
    plainBody raw = Text.trimEnd (raw.dropWhile isNewline) :=
  Text.trimEnd_dropEndWhile isBlank_of_isNewline _

@[simp]
theorem trim_plainBody (raw : Text) :
    Text.trim (plainBody raw) = Text.trim raw := by
  rw [plainBody_eq, Text.trim_trimEnd, Text.trim_dropWhile isBlank_of_isNewline]

/-- A refusal shows in what is left of the reply, with fences around it or
not. -/
theorem cleanSuggestion_eq (raw : Text) :
    cleanSuggestion raw =
      if Text.trim (body raw) = refusalMarker then .error .refused
      else .ok (body raw) := by
  by_cases refused : Text.trim raw = refusalMarker
  · have plain : ¬ fence <+: Text.trim raw := by
      rw [refused]
      decide
    have shown : Text.trim (body raw) = refusalMarker := by
      rw [body_of_plain plain, trim_plainBody, refused]
    rw [cleanSuggestion, if_pos refused, if_pos shown]
  · rw [cleanSuggestion, if_neg refused]

theorem cleanSuggestion_block (unbroken : '\n' ∉ tag) {front behind : Text}
    (blankFront : Text.blank front = true)
    (blankBehind : Text.blank behind = true) (text : Text) :
    cleanSuggestion (front ++ block tag text ++ behind) =
      if Text.trim text = refusalMarker then .error .refused
      else .ok (Text.dropEndWhile isNewline text) := by
  rw [cleanSuggestion_eq, body_block unbroken blankFront blankBehind,
    Text.trim_dropEndWhile isBlank_of_isNewline]

theorem cleanSuggestion_plain (plain : ¬ fence <+: Text.trim raw) :
    cleanSuggestion raw =
      if Text.trim raw = refusalMarker then .error .refused
      else .ok (Text.trimEnd (raw.dropWhile isNewline)) := by
  rw [cleanSuggestion_eq, body_of_plain plain, trim_plainBody, plainBody_eq]

/-- A replacement that can be written with fences and without. -/
structure IsReplacement (text : Text) : Prop where
  unfenced : ¬ fence <:+: text
  begins : Text.blank ((Text.lines text).headD []) = false
  trimmed : Text.trimEnd text = text
  accepted : Text.trim text ≠ refusalMarker

namespace IsReplacement

variable {text front behind : Text}

theorem starts (replacement : IsReplacement text) :
    ∃ c rest, text = c :: rest ∧ isNewline c = false := by
  have begins := replacement.begins
  cases text with
  | nil => cases begins
  | cons c rest =>
      refine ⟨c, rest, rfl, Bool.eq_false_iff.mpr fun newline => ?_⟩
      obtain rfl := beq_iff_eq.mp newline
      cases begins

theorem dropEndWhile_eq (replacement : IsReplacement text) :
    Text.dropEndWhile isNewline text = text := by
  rw [Text.dropEndWhile_eq_self_iff]
  intro c last
  have visible := Text.dropEndWhile_eq_self_iff.mp replacement.trimmed c last
  exact Bool.eq_false_iff.mpr fun newline =>
    Bool.eq_false_iff.mp visible (isBlank_of_isNewline c newline)

/-- Blanks around a replacement make no fence. -/
theorem plain (replacement : IsReplacement text)
    (blankFront : ∀ c ∈ front, Text.isBlank c = true)
    (blankBehind : ∀ c ∈ behind, Text.isBlank c = true) :
    ¬ fence <+: Text.trim (front ++ text ++ behind) := by
  rw [Text.trim_of_blank blankBehind, Text.trim_append_of_blank blankFront]
  intro fenced
  obtain ⟨start, rear, whole, -⟩ := Text.exists_trim text
  have inside : fence <:+: start ++ Text.trim text ++ rear :=
    fenced.isInfix.trans (List.infix_append start (Text.trim text) rear)
  exact replacement.unfenced (whole ▸ inside)

theorem dropWhile_eq (replacement : IsReplacement text)
    (feeds : ∀ c ∈ front, isNewline c = true) :
    (front ++ text ++ behind).dropWhile isNewline = text ++ behind := by
  obtain ⟨c, rest, rfl, stays⟩ := replacement.starts
  rw [List.append_assoc, List.dropWhile_append_of_pos feeds, List.cons_append]
  exact List.dropWhile_cons_of_neg (Bool.eq_false_iff.mp stays)

theorem cleanSuggestion_surrounded (replacement : IsReplacement text)
    (feeds : ∀ c ∈ front, isNewline c = true)
    (blankBehind : Text.blank behind = true) :
    cleanSuggestion (front ++ text ++ behind) = .ok text := by
  have blankFront : ∀ c ∈ front, Text.isBlank c = true := fun c member =>
    isBlank_of_isNewline c (feeds c member)
  have allBehind := List.all_eq_true.mp blankBehind
  have accepted : Text.trim (front ++ text ++ behind) ≠ refusalMarker := by
    rw [Text.trim_of_blank allBehind, Text.trim_append_of_blank blankFront]
    exact replacement.accepted
  rw [cleanSuggestion_plain (replacement.plain blankFront allBehind),
    if_neg accepted, replacement.dropWhile_eq feeds,
    Text.trimEnd_of_blank allBehind, replacement.trimmed]

end IsReplacement

/-- Cleaning a reply undoes what a model puts around its text. From a block with
any body and any surroundings comes the body without the line feeds at its end.
From a reply that begins with no fence comes all from the first line that is not
empty, with its indentation, up to the blanks at the end. The marker alone is a
refusal in both. So a replacement that could be written either way comes out the
same. -/
theorem suggestions_carry_replies :
    (∀ front behind tag text : Text, Text.blank front = true →
      Text.blank behind = true →
      '\n' ∉ tag →
        cleanSuggestion
        (front ++ (fence ++ tag ++ '\n' :: (text ++ '\n' :: fence)) ++ behind) =
          if Text.trim text = refusalMarker then .error .refused
          else .ok (text.rdropWhile isNewline)) ∧
    (∀ raw : Text, ¬ fence <+: Text.trim raw →
      (cleanSuggestion raw =
        if Text.trim raw = refusalMarker then .error .refused
        else .ok ((raw.dropWhile isNewline).rdropWhile Text.isBlank)) ∧
      ∀ suggestion, cleanSuggestion raw = .ok suggestion →
      Text.blank raw = false →
        Text.indent suggestion = Text.indent (raw.dropWhile isNewline)) ∧
    ∀ front behind tag feeds text : Text,
      Text.blank front = true → Text.blank behind = true →
      '\n' ∉ tag → (∀ c ∈ feeds, isNewline c = true) → IsReplacement text →
        cleanSuggestion (front ++
            (fence ++ tag ++ '\n' :: (text ++ '\n' :: fence)) ++ behind) =
          .ok text ∧
        cleanSuggestion (feeds ++ text ++ behind) = .ok text := by
  refine ⟨?fenced, ?plain, ?both⟩
  case fenced =>
    intro front behind tag text blankFront blankBehind unbroken
    rw [← Text.dropEndWhile_eq_rdropWhile]
    exact cleanSuggestion_block unbroken blankFront blankBehind text
  case plain =>
    intro raw plain
    have cleaned := cleanSuggestion_plain plain
    rw [← Text.trimEnd_eq_rdropWhile]
    refine ⟨cleaned, fun suggestion given visible => ?_⟩
    rw [cleaned] at given
    split at given
    · cases given
    · cases given
      rw [Text.indent_trimEnd]
      rwa [Text.blank_dropWhile isBlank_of_isNewline]
  case both =>
    intro front behind tag feeds text blankFront blankBehind unbroken allFeeds
      replacement
    refine ⟨?_, replacement.cleanSuggestion_surrounded allFeeds blankBehind⟩
    rw [← block, cleanSuggestion_block unbroken blankFront blankBehind,
      if_neg replacement.accepted, replacement.dropEndWhile_eq]

/-- Two indented lines with an empty one between them. -/
def indentedLines : Text :=
  "    if x:\n\n        y = '``'".toList

theorem indentedLines_isReplacement : IsReplacement indentedLines where
  unfenced inside := absurd (inside.sublist.count_le '\x60') (by decide)
  begins := by decide
  trimmed := by decide
  accepted := by decide

theorem indentedLines_carried :
    cleanSuggestion
      "\n ```python\n    if x:\n\n        y = '``'\n```\r\n".toList =
        .ok indentedLines ∧
      cleanSuggestion "\n\n    if x:\n\n        y = '``' \n".toList =
        .ok indentedLines ∧
      cleanSuggestion "```\nNO_FIX \n\n```".toList = .error .refused ∧
      cleanSuggestion "\n\n    y = ``` \n".toList =
        .ok "    y = ```".toList := by
  obtain ⟨fenced, plain, both⟩ := suggestions_carry_replies
  have fencedLines :
      "\n ```python\n    if x:\n\n        y = '``'\n```\r\n".toList =
        "\n ".toList ++ (fence ++ "python".toList ++ '\n' ::
            (indentedLines ++ '\n' :: fence)) ++
          "\r\n".toList := rfl
  have bareLines : "\n\n    if x:\n\n        y = '``' \n".toList =
      "\n\n".toList ++ indentedLines ++ " \n".toList := rfl
  have marker : "```\nNO_FIX \n\n```".toList =
      [] ++ (fence ++ [] ++ '\n' :: ("NO_FIX \n".toList ++ '\n' :: fence)) ++
      [] := rfl
  have feeds : ∀ c ∈ "\n\n".toList, isNewline c = true :=
    List.all_eq_true.mp (by decide)
  refine ⟨?_, ?_, ?_, ?_⟩
  · rw [fencedLines]
    exact (both _ _ _ _ _ (by decide) (by decide) (by decide) feeds
      indentedLines_isReplacement).1
  · rw [bareLines]
    exact (both [] _ [] _ _ (by decide) (by decide) (by decide) feeds
      indentedLines_isReplacement).2
  · rw [marker, fenced _ _ _ _ (by decide) (by decide) (by decide),
      if_pos (by decide)]
  · rw [(plain _ (by decide)).1, if_neg (by decide)]
    decide

end Reply

end LintMend
