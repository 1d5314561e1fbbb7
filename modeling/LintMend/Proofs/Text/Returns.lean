import LintMend.Proofs.Text.Lines

/-!
# Texts with carriage returns

A text whose line feeds all get a carriage return in front has the same lines as
before, and the blanks at its ends stay where they are. Only a reader that looks
for bare line feeds tells the two texts apart.
-/

namespace LintMend.Text

/-- The text with a carriage return in front of every line feed. -/
def withReturns (text : Text) : Text :=
  text.flatMap fun c => if c = '\n' then ['\r', '\n'] else [c]

variable {text word : Text} {c : Char}

@[simp]
theorem withReturns_nil : withReturns [] = [] :=
  rfl

@[simp]
theorem withReturns_append (front rest : Text) :
    withReturns (front ++ rest) = withReturns front ++ withReturns rest :=
  List.flatMap_append

@[simp]
theorem withReturns_feed (rest : Text) :
    withReturns ('\n' :: rest) = '\r' :: '\n' :: withReturns rest :=
  rfl

theorem withReturns_cons (other : c ≠ '\n') (rest : Text) :
    withReturns (c :: rest) = c :: withReturns rest := by
  simp [withReturns, other]

theorem withReturns_of_unbroken (unbroken : '\n' ∉ text) :
    withReturns text = text := by
  induction text with
  | nil => rfl
  | cons c rest induction =>
      have ⟨here, behind⟩ := List.ne_and_not_mem_of_not_mem_cons unbroken
      rw [withReturns_cons here.symm, induction behind]

@[simp]
theorem feed_mem_withReturns : '\n' ∈ withReturns text ↔ '\n' ∈ text := by
  rw [withReturns, List.mem_flatMap]
  constructor
  · rintro ⟨c, member, shown⟩
    split at shown
    · next feed => exact feed ▸ member
    · exact List.mem_singleton.mp shown ▸ member
  · exact fun member => ⟨'\n', member, by simp⟩

/-! ## Words without line feeds -/

theorem prefix_withReturns_iff (unbroken : '\n' ∉ word) (plain : '\r' ∉ word) :
    word <+: withReturns text ↔ word <+: text := by
  induction word generalizing text with
  | nil => simp
  | cons w word induction =>
      have ⟨here, behind⟩ := List.ne_and_not_mem_of_not_mem_cons unbroken
      have ⟨hereToo, behindToo⟩ := List.ne_and_not_mem_of_not_mem_cons plain
      cases text with
      | nil => simp
      | cons c rest =>
          by_cases feed : c = '\n'
          · subst feed
            rw [withReturns_feed, List.cons_prefix_cons, List.cons_prefix_cons]
            exact iff_of_false (fun same => hereToo same.1.symm) (fun same =>
              here same.1.symm)
          · rw [withReturns_cons feed, List.cons_prefix_cons,
              List.cons_prefix_cons, induction behind behindToo]

theorem suffix_withReturns_iff (unbroken : '\n' ∉ word) :
    word <:+ withReturns text ↔ word <:+ text := by
  induction text with
  | nil => rw [withReturns_nil]
  | cons c rest induction =>
      rw [List.suffix_cons_iff (a := c)]
      by_cases feed : c = '\n'
      · subst feed
        rw [withReturns_feed, List.suffix_cons_iff, List.suffix_cons_iff,
          induction]
        have apart {other : Text} (broken : '\n' ∈ other) : word ≠ other :=
          fun same => unbroken (same ▸ broken)
        rw [or_iff_right (apart (by simp)), or_iff_right (apart (by simp)),
          or_iff_right (apart (by simp))]
      · rw [withReturns_cons feed, List.suffix_cons_iff, induction]
        refine or_congr_left ⟨?_, ?_⟩ <;>
          · rintro rfl
            have behind := (List.ne_and_not_mem_of_not_mem_cons unbroken).2
            rw [withReturns_of_unbroken]
            simpa only [feed_mem_withReturns] using behind

theorem withReturns_eq_iff (unbroken : '\n' ∉ word) :
    withReturns text = word ↔ text = word := by
  constructor
  · rintro rfl
    exact (withReturns_of_unbroken (fun feed =>
      unbroken (feed_mem_withReturns.mpr feed))).symm
  · rintro rfl
    exact withReturns_of_unbroken unbroken

/-! ## Blanks at the ends -/

@[simp]
theorem blank_withReturns (text : Text) :
    blank (withReturns text) = blank text := by
  induction text with
  | nil => rfl
  | cons c rest induction =>
      by_cases feed : c = '\n'
      · subst feed
        exact induction
      · rw [withReturns_cons feed]
        exact congrArg (isBlank c && ·) induction

@[simp]
theorem trimStart_withReturns (text : Text) :
    trimStart (withReturns text) = withReturns (trimStart text) := by
  induction text with
  | nil => rfl
  | cons c rest induction =>
      by_cases feed : c = '\n'
      · subst feed
        exact induction
      · cases blank : isBlank c with
        | true =>
            rw [withReturns_cons feed, trimStart,
              List.dropWhile_cons_of_pos blank, trimStart,
              List.dropWhile_cons_of_pos blank]
            exact induction
        | false =>
            rw [withReturns_cons feed, trimStart_cons blank,
              trimStart_cons blank, withReturns_cons feed]

@[simp]
theorem trimEnd_withReturns (text : Text) :
    trimEnd (withReturns text) = withReturns (trimEnd text) := by
  obtain ⟨behind, whole, allBlank⟩ := exists_trimEnd text
  have behindBlank : ∀ c ∈ withReturns behind, isBlank c = true := by
    have shown := blank_withReturns behind
    rw [blank, blank, List.all_eq_true.mpr allBlank] at shown
    exact List.all_eq_true.mp shown
  have trimmed : trimEnd (trimEnd text) = trimEnd text := trimEnd_trimEnd text
  rw [whole, withReturns_append, trimEnd_of_blank behindBlank,
    trimEnd_of_blank allBlank, trimmed]
  rcases List.eq_nil_or_concat' (trimEnd text) with none | ⟨front, c, last⟩
  · rw [none]
    rfl
  · have visible : isBlank c = false := by
      rw [Bool.eq_false_iff]
      exact fun blank => ne_concat_of_trimmed trimmed blank front last
    have other : c ≠ '\n' := by
      rintro rfl
      cases visible
    rw [last, withReturns_append, withReturns_cons other, withReturns_nil]
    exact dropEndWhile_append visible _ []

@[simp]
theorem trim_withReturns (text : Text) :
    trim (withReturns text) = withReturns (trim text) := by
  rw [trim, trimStart_withReturns, trimEnd_withReturns, trim]

/-! ## Lines -/

theorem mem_of_mem_lines {line : Text}
    (member : line ∈ lines text) : line ⊆ text := by
  intro c inside
  obtain ⟨whole, there, rfl⟩ := List.mem_map.mp member
  rw [← Line.flatMap_ofText text, List.mem_flatMap]
  exact ⟨whole, there, List.mem_append_left _ inside⟩

/-- The first line holds the first character, unless that one ends it. -/
theorem lines_cons (feed : c ≠ '\n') (plain : c ≠ '\r') (rest : Text) :
    lines (c :: rest) = (c :: (lines rest).headD []) :: (lines rest).tail := by
  rw [lines, Line.ofText_cons feed (fun returns => absurd returns plain), lines]
  cases Line.ofText rest <;> rfl

@[simp]
theorem lines_return_feed (rest : Text) :
    lines ('\r' :: '\n' :: rest) = [] :: lines rest :=
  rfl

theorem lines_withReturns (plain : '\r' ∉ text) :
    lines (withReturns text) = lines text := by
  induction text with
  | nil => rfl
  | cons c rest induction =>
      have ⟨here, behind⟩ := List.ne_and_not_mem_of_not_mem_cons plain
      by_cases feed : c = '\n'
      · subst feed
        exact congrArg ([] :: ·) (induction behind)
      · rw [withReturns_cons feed, lines_cons feed here.symm,
          lines_cons feed here.symm, induction behind]

/-- A carriage return that no line feed follows ends the last line. -/
theorem lines_concat_return (text : Text) :
    ∃ front last, lines (text ++ ['\r']) = front ++ [last ++ ['\r']] := by
  let plain (c : Char) : Bool := c != '\n'
  have whole : text.rdropWhile plain ++ text.rtakeWhile plain = text :=
    List.rdropWhile_append_rtakeWhile
  have ended : ∀ c ∈ (text.rdropWhile plain).getLast?, c = '\n' := by
    intro c last
    obtain ⟨some, rfl⟩ := List.mem_getLast?_eq_getLast last
    simpa [plain] using List.rdropWhile_last_not plain text some
  have unbroken : '\n' ∉ text.rtakeWhile plain ++ ['\r'] := by
    refine List.not_mem_append (fun inside => ?_) (by decide)
    exact absurd (List.mem_rtakeWhile_imp inside) (by decide)
  refine ⟨lines (text.rdropWhile plain), text.rtakeWhile plain, ?_⟩
  conv => lhs; rw [← whole]
  rw [List.append_assoc, lines, Line.ofText_append ended,
    Line.ofText_plain unbroken,
    if_neg (List.append_ne_nil_of_right_ne_nil _ (List.cons_ne_nil _ _)),
    List.map_append, lines]
  rfl

end LintMend.Text
