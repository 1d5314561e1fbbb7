import LintMend.Proofs.Fix.Locality
import LintMend.Proofs.Scan.Levels
import LintMend.Proofs.Scan.Pieces

/-!
# Semicolons at the end of a line

Two fixes take semicolons away from the end of a line's code. They take nothing
but semicolons and blanks, and the comment stays. One application is not always
enough: blanks between the last semicolons hide those in front, and repeated
semicolons behind a brace leave the one that the other branch of the fix
removes.
-/

namespace LintMend

/-! ## What is read behind shortened code -/

/-- Code that loses a part of its end without quotes is read with the same
comment. Blanks may come between. The sign of the comment must not begin at
the end of the code. -/
theorem Scan.splitComment_shortened
    {marker text kept dropped gap comment : Text}
    (split : splitComment marker text = (kept ++ dropped, comment))
    (some : marker ≠ []) (ends : ∀ c ∈ kept.getLast?, c ∉ marker.dropLast)
    (droppedUnquoted : ∀ c ∈ dropped, Quoting.isQuote c = false)
    (gapUnquoted : ∀ c ∈ gap, Quoting.isQuote c = false)
    (apart : ∀ c ∈ gap, c ∉ marker) :
    splitComment marker (kept ++ gap ++ comment) = (kept ++ gap, comment) := by
  obtain ⟨-, unsigned, signed⟩ := splitComment_eq_iff.mp split
  refine splitComment_eq_iff.mpr ⟨rfl, ?_, fun more => ?_⟩
  · intro front c rest whole inCode begins
    have noGap : c ∉ gap := by
      intro inGap
      obtain ⟨d, marker, rfl⟩ := List.exists_cons_of_ne_nil some
      obtain ⟨rfl, -⟩ := List.cons_prefix_cons.mp begins
      exact apart d inGap List.mem_cons_self
    rcases List.append_eq_append_iff.mp whole with
      ⟨later, rfl, same⟩ | ⟨later, rfl, same⟩
    · exact noGap (same ▸ List.mem_append_right later List.mem_cons_self)
    · cases later with
      | nil =>
          rw [List.nil_append] at same
          exact noGap (same ▸ List.mem_cons_self)
      | cons d later =>
          obtain ⟨rfl, rfl⟩ := List.cons.inj same
          have further : marker <+: c :: later ++ (gap ++ comment) := by
            rwa [List.cons_append, ← List.append_assoc, ← List.cons_append]
          have inside : marker <+: c :: later := by
            rcases List.prefix_or_prefix_of_prefix further
              (List.prefix_append _ _) with
                inside | ⟨beyond, longer⟩
            · exact inside
            · cases beyond with
              | nil =>
                  simp [← longer]
              | cons e beyond =>
                  -- the sign would begin in the code and go on behind it
                  have last : (front ++ c :: later).getLast? =
                      Option.some
                      ((c :: later).getLast (List.cons_ne_nil c later)) := by
                    rw [List.getLast?_append_of_ne_nil _
                      (List.cons_ne_nil c later), List.getLast?_eq_some_getLast]
                  refine absurd ?_ (ends _ last)
                  rw [← longer,
                    List.dropLast_append_of_ne_nil (List.cons_ne_nil e beyond)]
                  exact List.mem_append_left _ (List.getLast_mem _)
          refine unsigned front c (later ++ dropped) (by simp) inCode ?_
          exact (inside.trans (List.prefix_append _ dropped)).trans
            (List.prefix_append _ comment)
  · obtain ⟨closed, marked⟩ := signed more
    refine ⟨?_, marked⟩
    have quoted : (Quoting.after .code kept).WellQuoted :=
      Quoting.WellQuoted.code.after kept
    rw [Quoting.after_append, quoted.after_eq_code_iff droppedUnquoted]
      at closed
    rw [Quoting.after_append, quoted.after_eq_code_iff gapUnquoted, closed]

namespace Fix

theorem endsWith_iff {text ending : Text} :
    Text.endsWith text ending = true ↔ ending <:+ text :=
  List.isSuffixOf_iff_suffix

/-! ## The last semicolons -/

theorem trimEnd_semicolons {count : Nat} (positive : 0 < count) (front : Text) :
    Text.trimEnd (front ++ List.replicate count ';') =
      front ++ List.replicate count ';' := by
  obtain ⟨more, rfl⟩ := Nat.exists_eq_add_of_le' positive
  have stays : Text.isBlank ';' = false := rfl
  rw [List.replicate_succ', ← List.append_assoc, Text.trimEnd,
    Text.dropEndWhile_append stays]
  rfl

/-- The code ends in semicolons with blanks behind the last one. In front of the
semicolons stands the text, which ends in none. -/
structure FinalSemicolons (code front : Text) (count : Nat)
    (blanks : Text) : Prop where
  whole : code = front ++ List.replicate count ';' ++ blanks
  positive : 0 < count
  last : ∀ c ∈ front.getLast?, isSemicolon c = false
  blank : ∀ c ∈ blanks, Text.isBlank c = true

theorem exists_finalSemicolons {code : Text}
    (ends : Text.endsWith (Text.trimEnd code) [';'] = true) :
    ∃ front count blanks, FinalSemicolons code front count blanks := by
  obtain ⟨blanks, whole, blank⟩ := Text.exists_trimEnd code
  obtain ⟨semicolons, trimmed, all⟩ :=
    Text.exists_dropEndWhile isSemicolon (Text.trimEnd code)
  have same : semicolons = List.replicate semicolons.length ';' :=
    List.eq_replicate_iff.mpr ⟨rfl, fun c member =>
      beq_iff_eq.mp (all c member)⟩
  have last :
      ∀ c ∈ (Text.dropEndWhile isSemicolon (Text.trimEnd code)).getLast?,
      isSemicolon c = false :=
    Text.dropEndWhile_eq_self_iff.mp (Text.dropEndWhile_dropEndWhile _ _)
  refine ⟨_, semicolons.length, blanks, ?_, ?_, last, blank⟩
  · rw [← same, ← trimmed, ← whole]
  · rw [List.length_pos_iff]
    rintro rfl
    obtain ⟨front, ended⟩ := endsWith_iff.mp ends
    rw [List.append_nil] at trimmed
    rw [← trimmed, ← ended] at last
    cases last ';' (by simp)

namespace FinalSemicolons

variable {code front blanks : Text} {count : Nat}
  (final : FinalSemicolons code front count blanks)

include final

theorem trimEnd : Text.trimEnd code = front ++ List.replicate count ';' := by
  rw [final.whole, Text.trimEnd_of_blank final.blank,
    trimEnd_semicolons final.positive]

theorem dropEndWhile :
    Text.dropEndWhile isSemicolon (Text.trimEnd code) = front := by
  have all : ∀ c ∈ List.replicate count ';', isSemicolon c = true := by
    intro c member
    rw [List.eq_of_mem_replicate member]
    rfl
  rw [final.trimEnd, Text.dropEndWhile_append_of_all all]
  exact Text.dropEndWhile_eq_self_iff.mpr final.last

theorem unique {other : Text} {more : Nat} {later : Text}
    (also : FinalSemicolons code other more later) :
    front = other ∧ count = more ∧ blanks = later := by
  have same : front = other := final.dropEndWhile.symm.trans also.dropEndWhile
  have trimmed := final.trimEnd.symm.trans also.trimEnd
  rw [same, List.append_cancel_left_eq] at trimmed
  have counts := congrArg List.length trimmed
  rw [List.length_replicate, List.length_replicate] at counts
  refine ⟨same, counts, ?_⟩
  have whole := final.whole.symm.trans also.whole
  rwa [same, counts, List.append_cancel_left_eq] at whole

theorem endsWith_one : Text.endsWith (Text.trimEnd code) [';'] = true := by
  obtain ⟨more, rfl⟩ :=
    Nat.exists_eq_succ_of_ne_zero (Nat.pos_iff_ne_zero.mp final.positive)
  rw [endsWith_iff, final.trimEnd, List.replicate_succ', ← List.append_assoc]
  exact List.suffix_append _ _

theorem endsWith_two : Text.endsWith (Text.trimEnd code) [';', ';'] = true ↔
    2 ≤ count := by
  rw [endsWith_iff, final.trimEnd]
  constructor
  · rintro ⟨other, same⟩
    by_contra few
    obtain rfl : count = 1 := by
      have positive := final.positive
      omega
    rw [List.append_cons] at same
    have front := List.append_cancel_right same
    cases final.last ';' (by simp [← front])
  · intro several
    obtain ⟨more, rfl⟩ := Nat.exists_eq_add_of_le' several
    rw [← List.replicate_append_replicate, ← List.append_assoc]
    exact List.suffix_append _ _

theorem endsWith_brace (one : count = 1) :
    Text.endsWith (Text.trimEnd code) ['}', ';'] = true ↔
      front.getLast? = some '}' := by
  rw [endsWith_iff, final.trimEnd, one]
  constructor
  · rintro ⟨other, same⟩
    rw [List.append_cons] at same
    rw [← List.append_cancel_right same]
    simp
  · intro brace
    obtain ⟨other, rfl⟩ := List.getLast?_eq_some_iff.mp brace
    rw [List.append_assoc]
    exact List.suffix_append _ _

theorem trim_eq : Text.trim code = [';'] ↔
    count = 1 ∧ Text.blank front = true := by
  have positive := final.positive
  rw [final.whole, Text.trim_of_blank final.blank, Text.trim]
  by_cases blank : Text.blank front = true
  · have visible : Text.trimStart (List.replicate count ';') =
        List.replicate count ';' := by
      obtain ⟨more, rfl⟩ := Nat.exists_eq_add_of_le' positive
      exact Text.trimStart_cons rfl _
    have kept := trimEnd_semicolons positive []
    rw [List.nil_append] at kept
    rw [Text.trimStart_of_blank (List.all_eq_true.mp blank), visible, kept,
      and_iff_left blank]
    have single : [';'] = List.replicate 1 ';' := rfl
    rw [single, List.replicate_inj]
    simp
  · have some : Text.trimStart front ≠ [] := by
      intro none
      exact blank (List.all_eq_true.mpr (List.dropWhile_eq_nil_iff.mp none))
    rw [Text.trimStart_append some, trimEnd_semicolons positive]
    refine iff_of_false (fun same => ?_) (fun only => blank only.2)
    have length := congrArg List.length same
    have longer := List.length_pos_iff.mpr some
    rw [List.length_append, List.length_replicate,
      List.length_singleton] at length
    omega

theorem drop : code.drop (Text.trimEnd code).length = blanks := by
  rw [final.trimEnd, final.whole, List.drop_left]

end FinalSemicolons

/-! ## What the fixes make of a line -/

variable {buffer : Buffer} {number count : Nat}
  {text code comment front blanks : Text}

theorem dropFinalSemicolon_of_final (found : buffer.line? number = some text)
    (split : Scan.splitComment ['#'] text = (code, comment))
    (final : FinalSemicolons code front count blanks) :
    dropFinalSemicolon buffer number =
      .ok (buffer.setLine number
          (Scan.withComment (Text.trimEnd front) comment)) := by
  simp only [dropFinalSemicolon, lineOf_bind_eq found, split,
    if_pos final.endsWith_one, final.dropEndWhile]

theorem dropFinalSemicolon_of_none (found : buffer.line? number = some text)
    (split : Scan.splitComment ['#'] text = (code, comment))
    (none : ¬ Text.endsWith (Text.trimEnd code) [';'] = true) :
    dropFinalSemicolon buffer number = .error .noFinalSemicolon := by
  simp only [dropFinalSemicolon, lineOf_bind_eq found, split, if_neg none]

theorem dropExtraSemicolon_of_final (found : buffer.line? number = some text)
    (split : Scan.splitComment ['/', '/'] text = (code, comment))
    (final : FinalSemicolons code front count blanks) :
    dropExtraSemicolon buffer number =
      if (count = 1 ∧ Text.blank front = true) ∧ comment = [] then
      .ok (buffer.removeLine number)
      else if 2 ≤ count then
      .ok (buffer.setLine number (front ++ [';'] ++ (blanks ++ comment)))
      else if front.getLast? = some '}' then
        .ok (buffer.setLine number (front ++ (blanks ++ comment)))
      else .error .noRedundantSemicolon := by
  simp only [dropExtraSemicolon, lineOf_bind_eq found, split, final.trim_eq,
    final.endsWith_two, final.dropEndWhile, final.drop]
  split
  · rfl
  · split
    · rfl
    · next few =>
        have one : count = 1 := by
          have positive := final.positive
          omega
        have kept : (Text.trimEnd code).dropLast = front := by
          rw [final.trimEnd, one]
          exact List.dropLast_concat
        simp only [final.endsWith_brace one, kept]

theorem dropExtraSemicolon_of_none (found : buffer.line? number = some text)
    (split : Scan.splitComment ['/', '/'] text = (code, comment))
    (none : ¬ Text.endsWith (Text.trimEnd code) [';'] = true) :
    dropExtraSemicolon buffer number = .error .noRedundantSemicolon := by
  rw [endsWith_iff] at none
  have noTwo : ¬ Text.endsWith (Text.trimEnd code) [';', ';'] = true :=
    fun two => none ((List.suffix_cons ';' [';']).trans (endsWith_iff.mp two))
  have noBrace : ¬ Text.endsWith (Text.trimEnd code) ['}', ';'] = true :=
    fun brace =>
      none ((List.suffix_cons '}' [';']).trans (endsWith_iff.mp brace))
  have noLine : ¬ (Text.trim code = [';'] ∧ comment = []) := by
    rintro ⟨alone, -⟩
    have some : Text.trimEnd (Text.trimStart code) ≠ [] := by
      rw [← Text.trim, alone]
      exact List.cons_ne_nil _ _
    have ended : Text.trimEnd code = Text.indent code ++ [';'] :=
      calc
        Text.trimEnd code
          = Text.trimEnd (Text.indent code ++ Text.trimStart code) := by
              rw [Text.indent_append_trimStart]
        _ = Text.indent code ++ Text.trim code := Text.trimEnd_append some _
        _ = Text.indent code ++ [';'] := by rw [alone]
    exact none ⟨_, ended.symm⟩
  simp only [dropExtraSemicolon, lineOf_bind_eq found, split, if_neg noLine,
    if_neg noTwo, if_neg noBrace]

/-- The code of the line loses semicolons and blanks at its end, and its comment
stays. -/
inductive Shortened (marker : Text) : Text → Text → Prop
  | intro {text line kept dropped gap comment : Text} :
      Scan.splitComment marker text = (kept ++ dropped, comment) →
      Scan.splitComment marker line = (kept ++ gap, comment) →
      (∀ c ∈ dropped, c = ';' ∨ Text.isBlank c = true) → ';' ∈ dropped →
      (∀ c ∈ gap, Text.isBlank c = true) → Shortened marker text line

/-- Lines that one application does not rid of all semicolons that the fix
removes. -/
inductive Stepwise : Fix → Text → Prop
  /-- Blanks stand between the last semicolons. -/
  | spaced {text code comment front blanks behind : Text} {count : Nat} :
      Scan.splitComment ['#'] text = (code, comment) →
      (∀ c ∈ blanks, Text.isBlank c = true) →
      FinalSemicolons code (front ++ ';' :: blanks) count behind →
      Stepwise removeUselessSemicolon text
  /-- Several semicolons stand behind a closing brace. -/
  | braced {text code comment front behind : Text} {count : Nat} :
      Scan.splitComment ['/', '/'] text = (code, comment) →
      FinalSemicolons code (front ++ ['}']) count behind → 2 ≤ count →
      Stepwise removeExtraSemicolon text
  /-- Several semicolons are all there is on the line. -/
  | alone {text code blanks behind : Text} {count : Nat} :
      Scan.splitComment ['/', '/'] text = (code, []) →
      (∀ c ∈ blanks, Text.isBlank c = true) →
      FinalSemicolons code blanks count behind → 2 ≤ count →
      Stepwise removeExtraSemicolon text

variable {fixed : Buffer}

theorem unquoted_of_dropped {c : Char}
    (dropped : c = ';' ∨ Text.isBlank c = true) :
    Quoting.isQuote c = false := by
  rcases dropped with rfl | blank
  · rfl
  · exact Scan.isQuote_of_isBlank blank

theorem dropped_of_blank (count : Nat)
    (blank : ∀ c ∈ blanks, Text.isBlank c = true) :
    ∀ c ∈ List.replicate count ';' ++ blanks,
      c = ';' ∨ Text.isBlank c = true := by
  intro c member
  rcases List.mem_append.mp member with semicolon | behind
  · exact .inl (List.eq_of_mem_replicate semicolon)
  · exact .inr (blank c behind)

theorem visible_slashes : ∀ c ∈ ['/', '/'], Text.isBlank c = false :=
  List.forall_mem_cons.mpr ⟨rfl, List.forall_mem_singleton.mpr rfl⟩

/-- Before a comment, blanks at the end of code neither are quotes nor begin the
comment. -/
theorem shortened {marker kept dropped gap : Text}
    (split : Scan.splitComment marker text = (kept ++ dropped, comment))
    (some : marker ≠ []) (visible : ∀ c ∈ marker, Text.isBlank c = false)
    (ends : ∀ c ∈ kept.getLast?, c ∉ marker.dropLast)
    (all : ∀ c ∈ dropped, c = ';' ∨ Text.isBlank c = true)
    (semicolon : ';' ∈ dropped) (blank : ∀ c ∈ gap, Text.isBlank c = true) :
    Scan.splitComment marker (kept ++ gap ++ comment) = (kept ++ gap, comment) ∧
      Shortened marker text (kept ++ gap ++ comment) := by
  have splitAgain := Scan.splitComment_shortened split some ends
    (fun c member => unquoted_of_dropped (all c member))
    (fun c member => Scan.isQuote_of_isBlank (blank c member))
    fun c member inMarker => by
      have shown := visible c inMarker
      rw [blank c member] at shown
      cases shown
  exact ⟨splitAgain, .intro split splitAgain all semicolon blank⟩

theorem exists_gap {code : Text} (trimmed : Text.trimEnd code = code)
    (comment : Text) :
    ∃ gap, Scan.withComment code comment = code ++ gap ++ comment ∧
      ∀ c ∈ gap, Text.isBlank c = true := by
  by_cases none : code = []
  · refine ⟨[], ?_, List.forall_mem_nil _⟩
    rw [none, Scan.withComment]
    split
    · next bare => rw [bare, List.append_nil, List.append_nil]
    · rfl
  · refine ⟨if comment = [] then [] else [' ', ' '],
      Scan.withComment_of_trimmed none trimmed comment, ?_⟩
    split
    · exact List.forall_mem_nil _
    · exact List.all_eq_true.mp rfl

theorem dropFinalSemicolon_again (found : buffer.line? number = some text)
    (applied : dropFinalSemicolon buffer number = .ok fixed) :
    ∃ line, buffer.Spliced number [line] fixed ∧ Shortened ['#'] text line ∧
      ((∃ refusal, dropFinalSemicolon fixed number = .error refusal) ↔
        ¬ Stepwise removeUselessSemicolon text) := by
  rcases split : Scan.splitComment ['#'] text with ⟨code, comment⟩
  by_cases ends : Text.endsWith (Text.trimEnd code) [';'] = true
  · obtain ⟨front, count, blanks, final⟩ := exists_finalSemicolons ends
    rw [dropFinalSemicolon_of_final found split final] at applied
    cases applied
    obtain ⟨gap, written, blankGap⟩ :=
      exists_gap (Text.trimEnd_trimEnd front) comment
    obtain ⟨later, same, blankLater⟩ := Text.exists_trimEnd front
    have whole : code = Text.trimEnd front ++
        (later ++ (List.replicate count ';' ++ blanks)) := by
      rw [← List.append_assoc, ← same, ← List.append_assoc, ← final.whole]
    have parted := split
    rw [whole] at parted
    obtain ⟨splitAgain, short⟩ := shortened parted (List.cons_ne_nil '#' [])
      (List.forall_mem_singleton.mpr rfl) (fun c _ => List.not_mem_nil) (by
        intro c member
        rcases List.mem_append.mp member with inside | last
        · exact .inr (blankLater c inside)
        · exact dropped_of_blank count final.blank c last)
      (by simp [final.positive.ne']) blankGap
    rw [written]
    have there :=
      Buffer.line?_setLine found (Text.trimEnd front ++ gap ++ comment)
    refine ⟨_, Buffer.spliced_setLine found _, short, ?_⟩
    have trimmed : Text.trimEnd (Text.trimEnd front ++ gap) =
        Text.trimEnd front := by
      rw [Text.trimEnd_of_blank blankGap, Text.trimEnd_trimEnd]
    by_cases again : Text.endsWith (Text.trimEnd front) [';'] = true
    · -- a semicolon was hidden behind blanks
      refine iff_of_false ?_ fun once => ?_
      · rintro ⟨refusal, refused⟩
        rw [← trimmed] at again
        obtain ⟨_, _, _, more⟩ := exists_finalSemicolons again
        rw [dropFinalSemicolon_of_final there splitAgain more] at refused
        cases refused
      · obtain ⟨inside, ended⟩ := endsWith_iff.mp again
        rw [← ended, List.append_assoc] at same
        rw [same] at final
        exact once (.spaced split blankLater final)
    · rw [← trimmed] at again
      refine iff_of_true ⟨_, dropFinalSemicolon_of_none there splitAgain again⟩
        fun stepwise => ?_
      rw [trimmed] at again
      cases stepwise with
      | @spaced _ _ _ inside spaces _ _ alsoSplit blank alsoFinal =>
          cases split.symm.trans alsoSplit
          obtain ⟨rfl, -⟩ := final.unique alsoFinal
          have stays : Text.isBlank ';' = false := rfl
          refine again (endsWith_iff.mpr ⟨inside, ?_⟩)
          rw [Text.trimEnd, Text.dropEndWhile_append stays, ← Text.trimEnd,
            Text.trimEnd_eq_nil_iff.mpr (List.all_eq_true.mpr blank)]
  · rw [dropFinalSemicolon_of_none found split ends] at applied
    cases applied

theorem stepwise_extra_iff
    (split : Scan.splitComment ['/', '/'] text = (code, comment))
    (final : FinalSemicolons code front count blanks) :
    Stepwise removeExtraSemicolon text ↔
      2 ≤ count ∧ ((Text.blank front = true ∧ comment = []) ∨
          front.getLast? = some '}') := by
  constructor
  · intro stepwise
    cases stepwise with
    | braced alsoSplit alsoFinal several =>
        cases split.symm.trans alsoSplit
        obtain ⟨rfl, rfl, -⟩ := final.unique alsoFinal
        exact ⟨several, .inr List.getLast?_concat⟩
    | alone alsoSplit blank alsoFinal several =>
        cases split.symm.trans alsoSplit
        obtain ⟨rfl, rfl, -⟩ := final.unique alsoFinal
        exact ⟨several, .inl ⟨List.all_eq_true.mpr blank, rfl⟩⟩
  · rintro ⟨several, ⟨blank, rfl⟩ | brace⟩
    · exact .alone split (List.all_eq_true.mp blank) final several
    · obtain ⟨inside, rfl⟩ := List.getLast?_eq_some_iff.mp brace
      exact .braced split final several

/-- Repeated semicolons become one, which goes too if it is alone or stands
behind a brace. -/
theorem collapsed_again (found : buffer.line? number = some text)
    (split : Scan.splitComment ['/', '/'] text = (code, comment))
    (final : FinalSemicolons code front count blanks) (several : 2 ≤ count) :
    Shortened ['/', '/'] text (front ++ [';'] ++ blanks ++ comment) ∧
      ((∃ refusal, dropExtraSemicolon
          (buffer.setLine number (front ++ [';'] ++ blanks ++ comment)) number =
          .error refusal) ↔
        ¬ Stepwise removeExtraSemicolon text) := by
  rw [stepwise_extra_iff split final, and_iff_right several]
  obtain ⟨more, rfl⟩ := Nat.exists_eq_add_of_le' several
  have parted := split
  have whole : code = front ++ [';'] ++
      (List.replicate (more + 1) ';' ++ blanks) := by
    rw [final.whole, List.replicate_succ]
    simp
  rw [whole] at parted
  obtain ⟨splitAgain, short⟩ :=
    shortened parted (List.cons_ne_nil '/' ['/']) visible_slashes
    (by simp) (dropped_of_blank _ final.blank) (by simp) final.blank
  refine ⟨short, ?_⟩
  have there := Buffer.line?_setLine found (front ++ [';'] ++ blanks ++ comment)
  have one : FinalSemicolons (front ++ [';'] ++ blanks) front 1 blanks :=
    { whole := rfl
      positive := Nat.one_pos
      last := final.last
      blank := final.blank }
  rw [dropExtraSemicolon_of_final there splitAgain one]
  by_cases alone : Text.blank front = true ∧ comment = []
  · rw [if_pos ⟨⟨rfl, alone.1⟩, alone.2⟩]
    exact iff_of_false nofun fun once => once (.inl alone)
  · rw [if_neg fun all => alone ⟨all.1.2, all.2⟩, if_neg (by decide)]
    split
    · next brace => exact iff_of_false nofun fun once => once (.inr brace)
    · next noBrace => exact iff_of_true ⟨_, rfl⟩ (not_or.mpr ⟨alone, noBrace⟩)

/-- Behind a brace the only semicolon goes. -/
theorem unbraced_again (found : buffer.line? number = some text)
    (split : Scan.splitComment ['/', '/'] text = (code, comment))
    (final : FinalSemicolons code front 1 blanks)
    (brace : front.getLast? = some '}') :
    Shortened ['/', '/'] text (front ++ blanks ++ comment) ∧
      ((∃ refusal, dropExtraSemicolon
            (buffer.setLine number (front ++ blanks ++ comment)) number =
          .error refusal) ↔
        ¬ Stepwise removeExtraSemicolon text) := by
  have parted := split
  rw [final.whole, List.append_assoc] at parted
  obtain ⟨splitAgain, short⟩ :=
    shortened parted (List.cons_ne_nil '/' ['/']) visible_slashes
    (by simp [brace]) (dropped_of_blank _ final.blank) (by simp) final.blank
  refine ⟨short, ?_⟩
  have there := Buffer.line?_setLine found (front ++ blanks ++ comment)
  obtain ⟨inside, rfl⟩ := List.getLast?_eq_some_iff.mp brace
  have stays : Text.isBlank '}' = false := rfl
  have none : ¬ Text.endsWith (Text.trimEnd (inside ++ ['}'] ++ blanks)) [';'] =
      true := by
    rw [Text.trimEnd_of_blank final.blank, Text.trimEnd,
      Text.dropEndWhile_append stays, endsWith_iff]
    rintro ⟨other, same⟩
    cases List.append_inj_right' same rfl
  rw [stepwise_extra_iff split final]
  exact iff_of_true ⟨_, dropExtraSemicolon_of_none there splitAgain none⟩
    fun several => by
      cases several.1 with
      | step none => cases none

theorem dropExtraSemicolon_again (found : buffer.line? number = some text)
    (applied : dropExtraSemicolon buffer number = .ok fixed) :
    (Text.trim text = [';'] ∧ buffer.Spliced number [] fixed) ∨
      ∃ line, buffer.Spliced number [line] fixed ∧
      Shortened ['/', '/'] text line ∧
        ((∃ refusal, dropExtraSemicolon fixed number = .error refusal) ↔
          ¬ Stepwise removeExtraSemicolon text) := by
  rcases split : Scan.splitComment ['/', '/'] text with ⟨code, comment⟩
  by_cases ends : Text.endsWith (Text.trimEnd code) [';'] = true
  · obtain ⟨front, count, blanks, final⟩ := exists_finalSemicolons ends
    rw [dropExtraSemicolon_of_final found split final] at applied
    split at applied
    · next alone =>
        cases applied
        obtain ⟨single, rfl⟩ := alone
        have whole := Scan.append_of_splitComment split
        rw [List.append_nil] at whole
        rw [← whole, final.trim_eq]
        exact .inl ⟨single, Buffer.spliced_removeLine found⟩
    · next notAlone =>
        right
        split at applied
        · next several =>
            cases applied
            rw [← List.append_assoc]
            exact ⟨_, Buffer.spliced_setLine found _,
              collapsed_again found split final several⟩
        · next few =>
            split at applied
            · next brace =>
                cases applied
                obtain rfl : count = 1 := by
                  have positive := final.positive
                  omega
                rw [← List.append_assoc]
                exact ⟨_, Buffer.spliced_setLine found _,
                  unbraced_again found split final brace⟩
            · cases applied
  · rw [dropExtraSemicolon_of_none found split ends] at applied
    cases applied

/-- The sign that begins a comment where a fix of semicolons works. -/
def commentSign : Fix → Text
  | removeExtraSemicolon => ['/', '/']
  | _ => ['#']

/-- A fix of semicolons takes nothing but semicolons and blanks from the end of
the code and keeps the comment, or removes a line that is one semicolon. Made
again it is refused, except on the lines where blanks or a brace keep a
semicolon for the next time. -/
theorem apply_drops_semicolons {fix : Fix}
    (drops : fix = removeUselessSemicolon ∨ fix = removeExtraSemicolon)
    {keepPackageFiles : Bool} {issue : Issue}
    (applied : fix.apply keepPackageFiles issue buffer = .ok fixed) :
    ∃ text, buffer.line? issue.line = some text ∧
      ((fix = removeExtraSemicolon ∧ Text.trim text = [';'] ∧
          buffer.Spliced issue.line [] fixed) ∨
        ∃ line, buffer.Spliced issue.line [line] fixed ∧
          Shortened fix.commentSign text line ∧
          ((∃ refusal, fix.apply keepPackageFiles issue fixed =
              .error refusal) ↔
            ¬ Stepwise fix text)) := by
  rcases drops with rfl | rfl
  · obtain ⟨text, _, _, _, found, -⟩ := dropFinalSemicolon_eq_ok applied
    exact ⟨text, found, .inr (dropFinalSemicolon_again found applied)⟩
  · obtain ⟨text, _, _, found, -⟩ := dropExtraSemicolon_eq_ok applied
    refine ⟨text, found, ?_⟩
    rcases dropExtraSemicolon_again found applied with removed | shortened
    · exact .inl ⟨rfl, removed⟩
    · exact .inr shortened

/-- A finding on the first line. -/
def semicolonIssue : Issue :=
  { file := ⟨"a.py"⟩, line := 1, code := "E703", message := "",
    language := .python }

def spacedLine : Text :=
  "x = 1; ;".toList

def bracedLine : Text :=
  ['}', ';', ';']

/-- On both lines the first application leaves a semicolon that the second one
takes. -/
theorem spacedLine_and_bracedLine_shortened_twice :
    (∃ fixed, removeUselessSemicolon.apply true semicolonIssue
      (.ofText spacedLine) = .ok fixed ∧
      fixed.line? 1 = some "x = 1;".toList ∧
      ¬ ∃ refusal, removeUselessSemicolon.apply true semicolonIssue fixed =
        .error refusal) ∧
    ∃ fixed, removeExtraSemicolon.apply true semicolonIssue
      (.ofText bracedLine) = .ok fixed ∧
      fixed.line? 1 = some ['}', ';'] ∧
      ¬ ∃ refusal, removeExtraSemicolon.apply true semicolonIssue fixed =
        .error refusal := by
  have spaced :
      removeUselessSemicolon.apply true semicolonIssue (.ofText spacedLine) =
        .ok (.ofText "x = 1;".toList) := rfl
  have braced :
      removeExtraSemicolon.apply true semicolonIssue (.ofText bracedLine) =
        .ok (.ofText ['}', ';']) := rfl
  have spacedThere : (Buffer.ofText spacedLine).line? semicolonIssue.line =
      some spacedLine := rfl
  have bracedThere : (Buffer.ofText bracedLine).line? semicolonIssue.line =
      some bracedLine := rfl
  refine ⟨⟨_, spaced, rfl, ?_⟩, ⟨_, braced, rfl, ?_⟩⟩
  · obtain ⟨text, found, ⟨other, -⟩ | ⟨line, -, -, once⟩⟩ :=
      apply_drops_semicolons (.inl rfl) spaced
    · cases other
    · cases spacedThere.symm.trans found
      have final :
          FinalSemicolons spacedLine ("x = 1".toList ++ ';' :: [' ']) 1 [] :=
        { whole := rfl
          positive := Nat.one_pos
          last := by simp [isSemicolon]
          blank := List.forall_mem_nil _ }
      have split : Scan.splitComment ['#'] spacedLine = (spacedLine, []) := rfl
      exact fun refused => once.mp refused
        (.spaced split (List.forall_mem_singleton.mpr rfl) final)
  · obtain ⟨text, found, ⟨-, other, -⟩ | ⟨line, -, -, once⟩⟩ :=
      apply_drops_semicolons (.inr rfl) braced
    · cases bracedThere.symm.trans found
      cases other
    · cases bracedThere.symm.trans found
      have final : FinalSemicolons bracedLine ([] ++ ['}']) 2 [] :=
        { whole := rfl
          positive := Nat.two_pos
          last := by simp [isSemicolon]
          blank := List.forall_mem_nil _ }
      have split : Scan.splitComment ['/', '/'] bracedLine = (bracedLine, []) :=
        rfl
      exact fun refused => once.mp refused (.braced split final (Nat.le_refl 2))

end Fix

end LintMend
