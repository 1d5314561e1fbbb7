import LintMend.Proofs.Fix.Locality
import LintMend.Proofs.Text.Lines

/-!
# What surrounds an edited line

A buffer is written back as it was read, and an edit of one of its lines changes
no character in front of the line or behind it. `Line.StandsIn` takes a text
apart at a line without reading it into a buffer; the texts that come of an edit
are made of these parts. Only a last line without an ending needs something
else: an ending between the lines that take its place, or, if none does, the end
of the file in front of the ending before it.
-/

namespace LintMend

/-- The text without a line feed at its end, or a carriage return and a line
feed. -/
def Text.unended (text : Text) : Text :=
  if endsWith text ['\r', '\n'] then text.dropLast.dropLast
  else if endsWith text ['\n'] then text.dropLast
  else text

theorem Text.unended_append {kept : Text} {ending : Ending}
    (ended : ending ≠ .none)
    (returns : ending = .lf → kept.getLast? ≠ some '\r') :
    unended (kept ++ ending.text) = kept := by
  cases ending with
  | none => exact absurd rfl ended
  | crlf => simp [unended, endsWith]
  | lf =>
      have apart : ¬ ['\r', '\n'] <:+ kept ++ ['\n'] := by
        rintro ⟨front, same⟩
        have whole : front ++ ['\r'] = kept :=
          List.append_inj_left'
            ((List.append_cons front '\r' ['\n']).symm.trans same) rfl
        exact returns rfl (whole ▸ List.getLast?_concat)
      simp [unended, endsWith, apart]

namespace Line

/-- The line with its ending, as it stands in the text. -/
def whole (line : Line) : Text :=
  line.text ++ line.ending.text

/-- In the text, the line of a number stands between a front and what is behind
it. -/
structure StandsIn (content : Text) (number : Nat) (front : Text) (line : Line)
    (behind : Text) : Prop where
  content : content = front ++ line.text ++ line.ending.text ++ behind
  number : number = front.count '\n' + 1
  begins : ∀ c ∈ front.getLast?, c = '\n'
  plain : '\n' ∉ line.text
  /-- A carriage return in front of the feed is part of the ending. -/
  returns : line.ending = .lf → line.text.getLast? ≠ some '\r'
  /-- Only the last line can be without an ending, and then it holds
  something. -/
  last : line.ending = .none → line.text ≠ [] ∧ behind = []

/-! ## Lines and the text they were read from -/

@[simp]
theorem flatMap_whole (content : Text) :
    (ofText content).flatMap whole = content :=
  flatMap_ofText content

/-- Where a text is at its beginning or behind a line feed, all lines in front
are ended. -/
theorem ended_of_mem_ofText {front : Text}
    (begins : ∀ c ∈ front.getLast?, c = '\n') :
    ∀ line ∈ ofText front, line.ending ≠ .none := by
  intro line member unended
  obtain ⟨index, there⟩ := List.mem_iff_getElem?.mp member
  obtain ⟨-, same⟩ := ofText_endsIn front index line there unended
  cases ends : front.getLast? with
  | none =>
      rw [List.getLast?_eq_none_iff.mp ends] at there
      cases there
  | some c =>
      obtain rfl := begins c ends
      rw [ends] at same
      exact not_mem_of_mem_ofText line member (List.mem_of_getLast? same.symm)

theorem count_whole {line : Line} (plain : '\n' ∉ line.text)
    (ended : line.ending ≠ .none) :
    line.whole.count '\n' = 1 := by
  rw [whole, List.count_append, List.count_eq_zero.mpr plain]
  cases kind : line.ending with
  | none => exact absurd kind ended
  | lf | crlf => rfl

/-- Each line that is ended has one line feed. -/
theorem count_flatMap_whole {lines : List Line}
    (plain : ∀ line ∈ lines, '\n' ∉ line.text)
    (ended : ∀ line ∈ lines, line.ending ≠ .none) :
    (lines.flatMap whole).count '\n' = lines.length := by
  have one : ∀ line ∈ lines, (List.count '\n' ∘ whole) line = 1 :=
    fun line member => count_whole (plain line member) (ended line member)
  rw [List.count_flatMap, List.map_congr_left (g := fun _ => 1) one]
  simp

/-- Behind lines that are ended stands a line feed. -/
theorem getLast?_flatMap_whole {lines : List Line}
    (ended : ∀ line ∈ lines, line.ending ≠ .none) :
    ∀ c ∈ (lines.flatMap whole).getLast?, c = '\n' := by
  rcases List.eq_nil_or_concat lines with rfl | ⟨front, last, rfl⟩
  · nofun
  · have feed : last.whole.getLast? = some '\n' := by
      cases kind : last.ending with
      | none => exact absurd kind (ended last (by simp))
      | lf | crlf => simp [whole, kind]
    simp [feed]

namespace StandsIn

variable {content front behind : Text} {number : Nat} {line : Line}

theorem ofText_eq (stands : StandsIn content number front line behind) :
    ofText content = ofText front ++ line :: ofText behind := by
  rw [stands.content, List.append_assoc, List.append_assoc,
    ofText_append stands.begins]
  congr 1
  obtain ⟨text, ending⟩ := line
  cases ending with
  | lf => simpa using ofText_lf stands.plain (stands.returns rfl) behind
  | crlf => simpa using ofText_crlf stands.plain behind
  | none =>
      obtain ⟨some, rfl⟩ := stands.last rfl
      simpa [some, ofText] using ofText_plain stands.plain

/-- The text ends in a line feed if its last line is ended. -/
theorem feed_iff (stands : StandsIn content number front line behind)
    (last : behind = []) :
    content.getLast? = some '\n' ↔ line.ending ≠ .none := by
  rw [stands.content, last, List.append_nil]
  cases kind : line.ending with
  | none =>
      have some := (stands.last kind).1
      rw [Ending.text, List.append_nil, List.getLast?_append_of_ne_nil _ some]
      simpa using fun feed => stands.plain (List.mem_of_getLast? feed)
  | lf | crlf => simp

theorem number_eq (stands : StandsIn content number front line behind) :
    number = (ofText front).length + 1 := by
  have plain : ∀ other ∈ ofText front, '\n' ∉ other.text :=
    not_mem_of_mem_ofText
  have feeds := count_flatMap_whole plain (ended_of_mem_ofText stands.begins)
  rw [stands.number, ← feeds, flatMap_whole]

end StandsIn

/-- No line but the last is without an ending. -/
theorem ended_of_front {content : Text} {before after : List Line} {line : Line}
    (read : ofText content = before ++ line :: after) :
    ∀ earlier ∈ before, earlier.ending ≠ .none := by
  intro earlier inFront unended
  obtain ⟨index, there⟩ := List.mem_iff_getElem?.mp inFront
  have bound := (List.getElem?_eq_some_iff.mp there).1
  have found : (ofText content)[index]? = some earlier := by
    rw [read, List.getElem?_append_left bound, there]
  have last := (ofText_endsIn content index earlier found unended).1
  rw [read, List.length_append, List.length_cons] at last
  omega

/-- The front and the text behind a line that was read. -/
theorem standsIn_of_ofText {content : Text} {before after : List Line}
    {line : Line} (read : ofText content = before ++ line :: after) :
    StandsIn content (before.length + 1) (before.flatMap whole) line
      (after.flatMap whole) := by
  have member : line ∈ ofText content := by simp [read]
  have inFront : ∀ earlier ∈ before, earlier ∈ ofText content := by
    intro earlier inFront
    simp [read, inFront]
  have ended := ended_of_front read
  refine
    { content := ?_
      number := ?_
      begins := getLast?_flatMap_whole ended
      plain := not_mem_of_mem_ofText line member
      returns := getLast?_of_lf line member
      last := ?_ }
  · rw [← flatMap_whole content, read]
    simp [whole]
  · rw [count_flatMap_whole (fun earlier inside => ?_) ended]
    exact not_mem_of_mem_ofText earlier (inFront earlier inside)
  · intro unended
    have found : (ofText content)[before.length]? = some line := by simp [read]
    obtain ⟨last, same⟩ :=
      ofText_endsIn content before.length line found unended
    rw [read, List.length_append, List.length_cons] at last
    obtain rfl : after = [] := List.length_eq_zero_iff.mp (by omega)
    refine ⟨?_, rfl⟩
    intro empty
    rw [empty, List.getLast?_nil, List.getLast?_eq_none_iff] at same
    rw [same] at member
    cases member

end Line

/-! ## Writing lines -/

namespace Buffer

variable {buffer : Buffer}

theorem endingOf_of_ended {line : Line} (ended : line.ending ≠ .none) :
    buffer.endingOf line = line.ending := by
  rw [endingOf]
  cases kind : line.ending with
  | none => exact absurd kind ended
  | lf | crlf => rfl

/-- Lines that are ended are written as they stand in a text. -/
theorem renderLines_append {front rest : List Line}
    (ended : ∀ line ∈ front, line.ending ≠ .none)
    (closed : buffer.endsLine = true ∨ rest ≠ []) :
    buffer.renderLines (front ++ rest) =
      front.flatMap Line.whole ++ buffer.renderLines rest := by
  induction front with
  | nil => rfl
  | cons line front induction =>
      obtain ⟨here, behind⟩ := List.forall_mem_cons.mp ended
      have open' : buffer.endsLine = true ∨ front ++ rest ≠ [] :=
        closed.imp_right fun some none =>
          some (List.append_eq_nil_iff.mp none).2
      rw [List.cons_append, renderLines_cons open', induction behind,
        endingOf_of_ended here, List.flatMap_cons, Line.whole,
        List.append_assoc (_ ++ _)]

/-- Lines without an ending are written with the same one between them. -/
theorem renderLines_unended (endsLine : buffer.endsLine = false)
    (texts : List Text) :
    buffer.renderLines (texts.map fun text => ⟨text, .none⟩) =
      buffer.fallback.text.intercalate texts := by
  induction texts with
  | nil => rfl
  | cons text texts induction =>
      cases texts with
      | nil => simp [renderLines, endsLine]
      | cons next texts =>
          rw [List.map_cons, renderLines_cons (.inr (by simp)), induction,
            List.intercalate_cons_cons]
          rfl

/-- A buffer that knows how a text ends writes the lines that were read from it
as the text. -/
theorem renderLines_ofText {content : Text}
    (ends : content ≠ [] →
      (buffer.endsLine = true ↔ content.getLast? = some '\n')) :
    buffer.renderLines (Line.ofText content) = content := by
  rcases List.eq_nil_or_concat (Line.ofText content) with
    none | ⟨front, last, read⟩
  · have nothing := Line.flatMap_whole content
    rw [none] at nothing ⊢
    exact nothing
  · rw [List.concat_eq_append] at read
    have stands := Line.standsIn_of_ofText read
    have some : content ≠ [] := by
      rintro rfl
      simp [Line.ofText] at read
    have feeds := (ends some).trans (stands.feed_iff rfl)
    rw [read, renderLines_append (Line.ended_of_front read)
      (.inr (List.cons_ne_nil _ _)), renderLines]
    rw [stands.content]
    cases kind : last.ending with
    | none =>
        have open' : ¬ buffer.endsLine = true :=
          fun closed => feeds.mp closed kind
        simp [open']
    | lf | crlf =>
        have ended : last.ending ≠ .none := by simp [kind]
        simp [feeds.mpr ended, endingOf_of_ended ended, kind]

@[simp]
theorem render_ofText (content : Text) : (ofText content).render = content :=
  renderLines_ofText fun _ => decide_eq_true_iff

/-- Lines up to a line feed are written without it where the buffer does not end
its last line. -/
theorem renderLines_front (endsLine : buffer.endsLine = false) {front : Text}
    (begins : ∀ c ∈ front.getLast?, c = '\n') :
    buffer.renderLines (Line.ofText front) = front.unended := by
  rcases List.eq_nil_or_concat (Line.ofText front) with
    none | ⟨earlier, last, read⟩
  · have nothing := Line.flatMap_whole front
    rw [none] at nothing ⊢
    rw [← nothing]
    rfl
  · rw [List.concat_eq_append] at read
    have stands := Line.standsIn_of_ofText read
    have ended : last.ending ≠ .none :=
      Line.ended_of_mem_ofText begins last (by simp [read])
    have returns : last.ending = .lf →
        (earlier.flatMap Line.whole ++ last.text).getLast? ≠ some '\r' := by
      intro feed
      by_cases empty : last.text = []
      · rw [empty, List.append_nil]
        intro back
        cases stands.begins _ back
      · rw [List.getLast?_append_of_ne_nil _ empty]
        exact stands.returns feed
    have whole := stands.content
    rw [List.flatMap_nil, List.append_nil] at whole
    rw [whole, Text.unended_append ended returns, ← whole, read,
      renderLines_append (Line.ended_of_front read)
        (.inr (List.cons_ne_nil _ _)), renderLines,
      endsLine]
    simp

/-! ## Edited lines -/

section

variable {content front behind : Text} {number : Nat} {line : Line}
  {texts : List Text} {fixed : Buffer}

theorem Spliced.eq_of_standsIn
    (spliced : (ofText content).Spliced number texts fixed)
    (stands : line.StandsIn content number front behind) :
    fixed = { ofText content with
      lines :=
        Line.ofText front ++ (texts.map fun text => ⟨text, line.ending⟩) ++
        Line.ofText behind } := by
  rw [stands.number_eq] at spliced
  exact spliced.eq_of_lines stands.ofText_eq

/-- The flag of the buffer tells whether the text ends in a line feed. -/
theorem Spliced.endsLine_iff
    (spliced : (ofText content).Spliced number texts fixed) :
    fixed.endsLine = true ↔ content.getLast? = some '\n' := by
  obtain ⟨-, -, line, -, rfl⟩ := spliced
  exact decide_eq_true_iff

/-- Lines that take the place of a line with an ending are ended as it was. -/
theorem Spliced.render_of_ended
    (spliced : (ofText content).Spliced number texts fixed)
    (stands : line.StandsIn content number front behind)
    (ended : line.ending ≠ .none) :
    fixed.render = front ++ texts.flatMap (· ++ line.ending.text) ++
      behind := by
  have lines := congrArg Buffer.lines (spliced.eq_of_standsIn stands)
  have allEnded :
      ∀ other ∈ Line.ofText front ++ texts.map fun text => ⟨text, line.ending⟩,
        other.ending ≠ .none := by
    intro other member
    rcases List.mem_append.mp member with inFront | written
    · exact Line.ended_of_mem_ofText stands.begins other inFront
    · obtain ⟨text, -, rfl⟩ := List.mem_map.mp written
      exact ended
  have closed : fixed.endsLine = true ∨ Line.ofText behind ≠ [] := by
    by_cases last : behind = []
    · exact .inl (spliced.endsLine_iff.mpr ((stands.feed_iff last).mpr ended))
    · exact .inr fun none =>
        last (by rw [← Line.flatMap_whole behind, none]; rfl)
  have rest : fixed.renderLines (Line.ofText behind) = behind := by
    apply renderLines_ofText
    intro some
    rw [spliced.endsLine_iff, stands.content,
      List.getLast?_append_of_ne_nil _ some]
  rw [render, lines, renderLines_append allEnded closed, rest,
    List.flatMap_append, Line.flatMap_whole, List.flatMap_map]
  rfl

/-- Lines that take the place of a last line without an ending have the ending
of the first line between them. Where none does, the text loses the ending in
front. -/
theorem Spliced.render_of_unended
    (spliced : (ofText content).Spliced number texts fixed)
    (stands : line.StandsIn content number front behind)
    (unended : line.ending = .none) :
    fixed.render =
      if texts = [] then front.unended
      else front ++ (ofText content).fallback.text.intercalate texts := by
  have result := spliced.eq_of_standsIn stands
  obtain ⟨-, rfl⟩ := stands.last unended
  have lines := congrArg Buffer.lines result
  have fallback := congrArg Buffer.fallback result
  have open' : fixed.endsLine = false := by
    rw [← Bool.not_eq_true, spliced.endsLine_iff, stands.feed_iff rfl]
    exact not_not.mpr unended
  rw [render, lines, Line.ofText, List.append_nil, unended]
  by_cases none : texts = []
  · rw [if_pos none, none, List.map_nil, List.append_nil]
    exact renderLines_front open' stands.begins
  · rw [if_neg none, renderLines_append (Line.ended_of_mem_ofText stands.begins)
      (.inr (by simpa using none)), Line.flatMap_whole,
      renderLines_unended open', fallback]

theorem mem_range_iff :
    (1 ≤ number ∧ number ≤ (ofText content).lineCount) ↔
      ∃ (front : Text) (line : Line) (behind : Text),
        line.StandsIn content number front behind := by
  constructor
  · intro ⟨start, inside⟩
    have below : number < 1 + (Line.ofText content).length := by
      change number ≤ (Line.ofText content).length at inside
      omega
    obtain ⟨before, line, after, read, rfl⟩ := exists_middle start below
    rw [Nat.add_comm]
    exact ⟨_, line, _, Line.standsIn_of_ofText read⟩
  · rintro ⟨front, line, behind, stands⟩
    change 1 ≤ number ∧ number ≤ (Line.ofText content).length
    rw [stands.number_eq, stands.ofText_eq, List.length_append,
      List.length_cons]
    omega

/-- An edit of a line that is there says so. -/
theorem inRange_of_line {text : Text}
    (found : buffer.line? number = some text) :
    (∀ changed, (buffer.setLine number changed).inRange = true) ∧
      (∀ texts, (buffer.spliceLine number texts).inRange = true) ∧
      (buffer.removeLine number).inRange = true := by
  obtain ⟨-, -, place, line, there, -⟩ := line?_eq_some found
  obtain ⟨bound, -⟩ := List.getElem?_eq_some_iff.mp there
  have split := List.drop_eq_getElem_cons bound
  refine ⟨fun _ => ?_, fun _ => ?_, ?_⟩
  · rw [setLine, place]
  · rw [spliceLine, place]
    simp only [split]
  · rw [removeLine, place]

/-- An edit of a line that is not there says so and changes nothing. -/
theorem edits_of_outside (outside : number = 0 ∨ buffer.lineCount < number) :
    (∀ text, buffer.setLine number text = ⟨false, buffer⟩) ∧
      (∀ texts, buffer.spliceLine number texts = ⟨false, buffer⟩) ∧
      buffer.removeLine number = ⟨false, buffer⟩ := by
  have none : buffer.index? number = none := if_pos outside
  simp [setLine, spliceLine, removeLine, none]

theorem line?_of_standsIn (stands : line.StandsIn content number front behind) :
    (ofText content).line? number = some line.text := by
  apply line?_of_getElem? (by rw [stands.number_eq]; omega)
  change (Line.ofText content)[number - 1]? = some line
  rw [stands.number_eq, stands.ofText_eq]
  simp

/-- Lines without an ending get the one of the first line, or a line feed if it
has none. -/
theorem fallback_eq {first : Line} {rest : Text}
    (stands : first.StandsIn content 1 [] rest) :
    (ofText content).fallback = first.ending.orElse .lf := by
  change (((Line.ofText content).head?.map Line.ending).getD .lf).orElse .lf = _
  rw [stands.ofText_eq]
  rfl

end

/-- A buffer is faithful to the text it was read from. Without an edit the text
is written back. Take the text apart at one of its lines, which are those with a
number from one to the line count. A text that is set, or lines that take the
line's place, are written with its ending between the front and the text behind;
in the place of a last line that has no ending, the lines have the first line's
ending between them, or a line feed if it has none. Without the line, the front
and the text behind are written; a last line that has no ending goes with the
ending in front of it. Such an edit answers that the line was there. No line has
another number; an edit of one answers that it was not, and leaves the buffer as
it is. -/
theorem edits_keep_surroundings (content : Text) :
    let buffer := ofText content
    buffer.render = content ∧
    (∀ number, (1 ≤ number ∧ number ≤ buffer.lineCount) ↔
      ∃ (front : Text) (line : Line) (behind : Text),
        line.StandsIn content number front behind) ∧
    (∀ (number : Nat) (front : Text) (line : Line) (behind : Text),
      line.StandsIn content number front behind →
      buffer.line? number = some line.text ∧
      (∀ text, (buffer.setLine number text).inRange = true ∧
        (buffer.setLine number text).buffer.render =
          front ++ text ++ line.ending.text ++ behind) ∧
      (∀ texts, (buffer.spliceLine number texts).inRange = true ∧
        (texts ≠ [] → ∀ (first : Line) (rest : Text),
          first.StandsIn content 1 [] rest →
          (buffer.spliceLine number texts).buffer.render =
            front ++
              (if line.ending = .none then
                (first.ending.orElse .lf).text.intercalate texts
              else texts.flatMap (· ++ line.ending.text)) ++
              behind)) ∧
      (buffer.removeLine number).inRange = true ∧
      (buffer.removeLine number).buffer.render =
        if line.ending = .none then front.unended else front ++ behind) ∧
    (∀ number, number = 0 ∨ buffer.lineCount < number →
      (∀ text, buffer.setLine number text = ⟨false, buffer⟩) ∧
      (∀ texts, buffer.spliceLine number texts = ⟨false, buffer⟩) ∧
      buffer.removeLine number = ⟨false, buffer⟩) := by
  intro buffer
  refine ⟨render_ofText content, fun number => mem_range_iff, ?_, ?_⟩
  · intro number front line behind stands
    have found := line?_of_standsIn stands
    have set (text : Text) := spliced_setLine found text
    have splices (texts : List Text) := spliced_spliceLine found texts
    have removes := spliced_removeLine found
    obtain ⟨setThere, splicedThere, removedThere⟩ := inRange_of_line found
    refine ⟨found, fun text => ⟨setThere text, ?_⟩,
      fun texts => ⟨splicedThere texts, fun some first rest firstStands => ?_⟩,
      removedThere, ?_⟩
    · by_cases unended : line.ending = .none
      · rw [(set text).render_of_unended stands unended, unended,
          (stands.last unended).2]
        simp
      · rw [(set text).render_of_ended stands unended]
        simp
    · by_cases unended : line.ending = .none
      · rw [(splices texts).render_of_unended stands unended, if_neg some,
          if_pos unended, (stands.last unended).2, fallback_eq firstStands,
          List.append_nil]
      · rw [(splices texts).render_of_ended stands unended, if_neg unended]
    · by_cases unended : line.ending = .none
      · rw [removes.render_of_unended stands unended, if_pos rfl,
          if_pos unended]
      · rw [removes.render_of_ended stands unended, if_neg unended]
        simp
  · exact fun number outside => edits_of_outside outside

/-- Without a last line that is not ended, the text is not ended either. -/
example : ((ofText ['a', '\r', '\n', 'b']).removeLine 2).buffer.render =
    ['a'] := by
  decide

end Buffer

end LintMend
