import LintMend.Proofs.Text.Trim
import LintMend.Buffer

/-!
# Lines and the texts they are written as

Cutting a text into lines and writing lines as a text fit together: a line that
is written with an ending is read as one line again. It reads as it was, up to a
carriage return at its end that has become part of the ending. So a buffer is
read back up to blanks at the ends of its lines and an empty line at its end
(`Buffer.tidied_render`), and exactly if its lines are trimmed and the last one
is ended (`Buffer.lines_render`).
-/

namespace LintMend

namespace Ending

@[simp]
theorem text_none : none.text = [] :=
  rfl

@[simp]
theorem text_lf : lf.text = ['\n'] :=
  rfl

@[simp]
theorem text_crlf : crlf.text = ['\r', '\n'] :=
  rfl

@[simp]
theorem visible_text (ending : Ending) : Text.visible ending.text = [] := by
  cases ending <;> decide

end Ending

namespace Line

/-- A character that ends no line goes in front of the first one. -/
theorem ofText_cons {c : Char} {rest : Text} (plain : c ≠ '\n')
    (apart : c = '\r' → rest.head? ≠ some '\n') :
    ofText (c :: rest) =
      match ofText rest with
      | [] => [⟨[c], .none⟩]
      | line :: lines => line.cons c :: lines := by
  apply ofText.eq_4 c rest plain
  rintro behind rfl rfl
  exact apart rfl rfl

/-- Nothing of a text is lost when it is cut into lines. -/
@[simp]
theorem flatMap_ofText (content : Text) :
    (ofText content).flatMap (fun line => line.text ++ line.ending.text) =
      content := by
  induction content using ofText.induct with
  | case1 => rfl
  | case2 rest induction | case3 rest induction =>
      rw [ofText, List.flatMap_cons, induction]
      rfl
  | case4 c rest feed pair empty induction =>
      rw [ofText.eq_4 c rest feed pair]
      rw [empty] at induction ⊢
      simp [← induction]
  | case5 c rest feed pair line lines found induction =>
      rw [ofText.eq_4 c rest feed pair]
      rw [found] at induction ⊢
      rw [← induction]
      simp [Line.cons]

theorem not_mem_of_mem_ofText {content : Text} :
    ∀ line ∈ ofText content, '\n' ∉ line.text := by
  induction content using ofText.induct with
  | case1 => simp [ofText]
  | case2 rest induction => simpa [ofText] using induction
  | case3 rest induction => simpa [ofText] using induction
  | case4 c rest feed pair empty induction =>
      rw [ofText.eq_4 c rest feed pair, empty]
      simpa using fun same => feed same.symm
  | case5 c rest feed pair line lines found induction =>
      rw [ofText.eq_4 c rest feed pair, found]
      rw [found] at induction
      have ⟨here, behind⟩ := List.forall_mem_cons.mp induction
      change ∀ other ∈ line.cons c :: lines, '\n' ∉ other.text
      refine List.forall_mem_cons.mpr ⟨?_, behind⟩
      simpa [Line.cons, here] using fun same => feed same.symm

variable {text : Text}

/-- A text without a line feed is one line, if it is anything. -/
theorem ofText_plain (plain : '\n' ∉ text) :
    ofText text = if text = [] then [] else [⟨text, .none⟩] := by
  induction text with
  | nil => rfl
  | cons c rest induction =>
      have ⟨here, behind⟩ := List.ne_and_not_mem_of_not_mem_cons plain
      rw [ofText_cons (Ne.symm here), induction behind]
      · cases rest <;> rfl
      · rintro - next
        exact behind (List.mem_of_mem_head? next)

theorem ofText_crlf (plain : '\n' ∉ text) (rest : Text) :
    ofText (text ++ '\r' :: '\n' :: rest) = ⟨text, .crlf⟩ :: ofText rest := by
  induction text with
  | nil => rfl
  | cons c text induction =>
      have ⟨here, behind⟩ := List.ne_and_not_mem_of_not_mem_cons plain
      rw [List.cons_append, ofText_cons (Ne.symm here), induction behind]
      · rfl
      · rintro - next
        cases text with
        | nil => cases next
        | cons d text =>
            cases next
            exact behind List.mem_cons_self

theorem ofText_lf (plain : '\n' ∉ text) (apart : text.getLast? ≠ some '\r')
    (rest : Text) :
    ofText (text ++ '\n' :: rest) = ⟨text, .lf⟩ :: ofText rest := by
  induction text with
  | nil => rfl
  | cons c text induction =>
      have ⟨here, behind⟩ := List.ne_and_not_mem_of_not_mem_cons plain
      cases text with
      | nil =>
          rw [List.cons_append, ofText_cons (Ne.symm here)]
          · rfl
          · rintro rfl
            exact absurd rfl apart
      | cons d text =>
          rw [List.getLast?_cons_cons] at apart
          rw [List.cons_append, ofText_cons (Ne.symm here),
            induction behind apart]
          · rfl
          · rintro - next
            cases next
            exact behind List.mem_cons_self

/-- What follows a line feed is cut into lines on its own. -/
theorem ofText_append {front : Text} (ended : ∀ c ∈ front.getLast?, c = '\n')
    (rest : Text) :
    ofText (front ++ rest) = ofText front ++ ofText rest := by
  induction front using ofText.induct with
  | case1 => rfl
  | case2 front induction | case3 front induction =>
      have behind : ∀ c ∈ front.getLast?, c = '\n' := by
        cases front with
        | nil => simp
        | cons d front => simpa using ended
      simp [ofText, induction behind]
  | case4 c front feed pair empty induction =>
      -- a text that has no line holds nothing, and `c` alone would not be ended
      cases front with
      | nil => exact absurd (ended c rfl) (fun same => feed same)
      | cons d front =>
          have whole := flatMap_ofText (d :: front)
          rw [empty] at whole
          cases whole
  | case5 c front feed pair line lines found induction =>
      have some : front ≠ [] := by
        rintro rfl
        cases found
      obtain ⟨d, front, rfl⟩ := List.exists_cons_of_ne_nil some
      have behind := induction (by simpa using ended)
      rw [found] at behind
      rw [ofText.eq_4 c _ feed pair, found, List.cons_append,
        ofText_cons (fun same => feed same) (fun back next =>
          pair front back (by
          cases next
          rfl)), behind]
      rfl

/-- A line that is written with an ending is read as one line. A carriage return
at its end may have become part of the ending. -/
theorem ofText_written {ending : Ending} (plain : '\n' ∉ text)
    (ended : ending ≠ .none) (rest : Text) :
    ∃ line, ofText (text ++ ending.text ++ rest) = line :: ofText rest ∧
      (line.text = text ∨ ending = .lf ∧ text = line.text ++ ['\r']) := by
  cases ending with
  | none => exact absurd rfl ended
  | crlf =>
      refine ⟨⟨text, .crlf⟩, ?_, .inl rfl⟩
      simpa using ofText_crlf plain rest
  | lf =>
      by_cases returns : text.getLast? = some '\r'
      · obtain ⟨front, rfl⟩ := List.getLast?_eq_some_iff.mp returns
        refine ⟨⟨front, .crlf⟩, ?_, .inr ⟨rfl, rfl⟩⟩
        rw [List.mem_append, not_or] at plain
        simpa using ofText_crlf plain.1 rest
      · refine ⟨⟨text, .lf⟩, ?_, .inl rfl⟩
        simpa using ofText_lf plain returns rest

theorem ofText_ended {ending : Ending} (plain : '\n' ∉ text)
    (ended : ending ≠ .none) (rest : Text) :
    ∃ line, ofText (text ++ ending.text ++ rest) = line :: ofText rest ∧
      Text.trimEnd line.text = Text.trimEnd text ∧
      (Text.trimEnd text = text → line.text = text) := by
  have blank : Text.isBlank '\r' = true := by decide
  obtain ⟨line, read, rfl | ⟨-, returns⟩⟩ := ofText_written plain ended rest
  · exact ⟨line, read, rfl, fun _ => rfl⟩
  · refine ⟨line, read, ?_, fun trimmed => ?_⟩
    · rw [returns, Text.trimEnd_concat blank]
    · exact absurd returns (Text.ne_concat_of_trimmed trimmed blank line.text)

/-! ### The ends of lines that are read -/

theorem getLast?_of_lf {content : Text} :
    ∀ line ∈ ofText content, line.ending = .lf →
      line.text.getLast? ≠ some '\r' := by
  induction content using ofText.induct with
  | case1 => simp [ofText]
  | case2 rest induction => simpa [ofText] using induction
  | case3 rest induction => simpa [ofText] using induction
  | case4 c rest feed pair empty induction =>
      rw [ofText.eq_4 c rest feed pair, empty]
      simp
  | case5 c rest feed pair line lines found induction =>
      rw [ofText.eq_4 c rest feed pair, found]
      rw [found] at induction
      have ⟨here, behind⟩ := List.forall_mem_cons.mp induction
      change ∀ other ∈ line.cons c :: lines, _
      refine List.forall_mem_cons.mpr ⟨fun feeds => ?_, behind⟩
      obtain ⟨text, ending⟩ := line
      obtain rfl : ending = .lf := feeds
      cases text with
      | nil =>
          -- the feed stands right behind `c`, so `c` is no carriage return
          have whole := flatMap_ofText rest
          rw [found] at whole
          rintro ⟨⟩
          exact pair _ rfl whole.symm
      | cons d text =>
          rw [cons, List.getLast?_cons_cons]
          exact here rfl

/-- The text that a line without an ending is the end of. -/
def EndsIn (content : Text) (lines : List Line) : Prop :=
  ∀ (index : Nat) (line : Line), lines[index]? = some line →
    line.ending = .none →
    index + 1 = lines.length ∧ content.getLast? = line.text.getLast?

private theorem EndsIn.cons {rest : Text} {lines : List Line}
    (ends : EndsIn rest lines) (several : lines ≠ [] → rest ≠ []) (front : Text)
    {first : Line} (ended : first.ending ≠ .none) :
    EndsIn (front ++ rest) (first :: lines) := by
  intro index line there unended
  cases index with
  | zero =>
      cases there
      exact absurd unended ended
  | succ index =>
      have some : lines ≠ [] := by
        rintro rfl
        cases there
      obtain ⟨last, same⟩ := ends index line there unended
      refine ⟨congrArg (· + 1) last, ?_⟩
      rw [List.getLast?_append_of_ne_nil front (several some), same]

/-- Only a last line can be without an ending, and the text ends as it does. -/
theorem ofText_endsIn (content : Text) : EndsIn content (ofText content) := by
  have filled {rest : Text} (some : ofText rest ≠ []) : rest ≠ [] := by
    rintro rfl
    exact some rfl
  induction content using ofText.induct with
  | case1 => nofun
  | case2 rest induction => exact induction.cons filled ['\n'] nofun
  | case3 rest induction => exact induction.cons filled ['\r', '\n'] nofun
  | case4 c rest feed pair empty induction =>
      have whole := flatMap_ofText rest
      rw [empty] at whole
      obtain rfl : [] = rest := whole
      rw [ofText.eq_4 c [] feed pair, empty]
      intro index line there _
      cases index with
      | zero =>
          cases there
          exact ⟨rfl, rfl⟩
      | succ index => cases there
  | case5 c rest feed pair first lines found induction =>
      rw [ofText.eq_4 c rest feed pair, found]
      rw [found] at induction
      have several : rest ≠ [] := filled (by simp [found])
      have last : (c :: rest).getLast? = rest.getLast? :=
        List.getLast?_append_of_ne_nil [c] several
      intro index line there unended
      cases index with
      | zero =>
          cases there
          obtain ⟨only, same⟩ := induction 0 first rfl unended
          have some : first.text ≠ [] := by
            intro empty
            rw [empty, List.getLast?_nil, List.getLast?_eq_none_iff] at same
            exact several same
          refine ⟨only, last.trans (same.trans ?_)⟩
          exact (List.getLast?_append_of_ne_nil [c] some).symm
      | succ index =>
          obtain ⟨only, same⟩ := induction (index + 1) line there unended
          exact ⟨only, last.trans same⟩

end Line

namespace Text

/-- All characters of a text but blanks stand in its lines. -/
@[simp]
theorem visible_lines (text : Text) :
    visible (lines text).flatten = visible text := by
  have written (cut : List Line) :
      visible (cut.flatMap fun line => line.text ++ line.ending.text) =
        visible (cut.map Line.text).flatten := by
    induction cut with
    | nil => rfl
    | cons line cut induction =>
        simp [induction]
  rw [lines, ← written, Line.flatMap_ofText]

/-! ## Lines up to blanks -/

/-- The new lines are the old ones, up to blanks at their ends and blank lines
at the end. -/
def Tidied (old new : List Text) : Prop :=
  ∃ missing, old.map trimEnd = new.map trimEnd ++ missing ∧
    ∀ line ∈ missing, line = []

namespace Tidied

variable {old middle new : List Text}

theorem of_map_eq (equal : old.map trimEnd = new.map trimEnd) :
    Tidied old new :=
  ⟨[], by simpa using equal, by simp⟩

theorem trans (first : Tidied old middle) (second : Tidied middle new) :
    Tidied old new := by
  obtain ⟨behind, oldLines, behindEmpty⟩ := first
  obtain ⟨missing, middleLines, missingEmpty⟩ := second
  refine ⟨missing ++ behind, by
    rw [oldLines, middleLines, List.append_assoc], ?_⟩
  intro line member
  rcases List.mem_append.mp member with inMissing | inBehind
  · exact missingEmpty line inMissing
  · exact behindEmpty line inBehind

theorem cons (tidied : Tidied old new) {first other : Text}
    (equal : trimEnd first = trimEnd other) :
    Tidied (first :: old) (other :: new) := by
  obtain ⟨missing, lines, empty⟩ := tidied
  exact ⟨missing, by simp [lines, equal], empty⟩

/-- Blank lines at the end may be left out. -/
theorem of_blank (front : List Text) {rest : List Text}
    (blank : ∀ line ∈ rest, Text.blank line = true) :
    Tidied (front ++ rest) front := by
  refine ⟨rest.map trimEnd, List.map_append, ?_⟩
  intro line member
  obtain ⟨whole, inside, rfl⟩ := List.mem_map.mp member
  exact trimEnd_eq_nil_iff.mpr (blank whole inside)

theorem visible_eq (tidied : Tidied old new) :
    visible new.flatten = visible old.flatten := by
  obtain ⟨missing, lines, empty⟩ := tidied
  have trimmed (lines : List Text) :
      visible (lines.map trimEnd).flatten = visible lines.flatten := by
    induction lines with
    | nil => rfl
    | cons line lines induction =>
        simp [induction]
  have nothing : missing.flatten = [] := List.flatten_eq_nil_iff.mpr empty
  rw [← trimmed old, ← trimmed new, lines, List.flatten_append, nothing,
    List.append_nil]

theorem length_le (tidied : Tidied old new) : new.length ≤ old.length := by
  obtain ⟨missing, lines, _⟩ := tidied
  have many := congrArg List.length lines
  rw [List.length_append, List.length_map, List.length_map] at many
  omega

theorem map_take (tidied : Tidied old new) :
    new.map trimEnd = (old.take new.length).map trimEnd := by
  obtain ⟨missing, lines, _⟩ := tidied
  rw [List.map_take, lines, List.take_append_of_le_length (by simp),
    List.take_of_length_le (by simp)]

theorem blank_of_mem_drop (tidied : Tidied old new) :
    ∀ line ∈ old.drop new.length, Text.blank line = true := by
  obtain ⟨missing, lines, empty⟩ := tidied
  intro line member
  have dropped : (old.drop new.length).map trimEnd = missing := by
    rw [List.map_drop, lines, List.drop_append_of_le_length (by simp),
      List.drop_of_length_le (by simp), List.nil_append]
  apply trimEnd_eq_nil_iff.mp
  apply empty
  rw [← dropped]
  exact List.mem_map_of_mem member

end Tidied

end Text

/-! ## Written buffers -/

namespace Buffer

/-- No line holds a line feed, and there is an ending for a line without one. -/
structure Whole (buffer : Buffer) : Prop where
  plain : ∀ line ∈ buffer.lines, '\n' ∉ line.text
  ended : buffer.fallback ≠ .none

theorem ofText_whole (content : Text) : (ofText content).Whole := by
  constructor
  · exact Line.not_mem_of_mem_ofText
  · simp only [ofText]
    cases ((Line.ofText content).head?.map Line.ending).getD .lf <;>
      simp [Ending.orElse]

variable {buffer : Buffer}

theorem endingOf_ne_none (fallback : buffer.fallback ≠ .none) (line : Line) :
    buffer.endingOf line ≠ .none := by
  rw [endingOf]
  cases line.ending with
  | none => exact fallback
  | lf | crlf => nofun

/-- Every line but a last one that is not ended is written with its ending. -/
theorem renderLines_cons {line : Line} {rest : List Line}
    (ended : buffer.endsLine = true ∨ rest ≠ []) :
    buffer.renderLines (line :: rest) =
      line.text ++ (buffer.endingOf line).text ++ buffer.renderLines rest := by
  cases rest with
  | nil =>
      rcases ended with endsLine | present
      · simp [renderLines, endsLine]
      · exact absurd rfl present
  | cons next rest =>
      rw [renderLines]
      exact List.cons_ne_nil next rest

private theorem tidied_renderLines (fallback : buffer.fallback ≠ .none)
    {lines : List Line} (plain : ∀ line ∈ lines, '\n' ∉ line.text) :
    Text.Tidied (lines.map Line.text)
      (Text.lines (buffer.renderLines lines)) := by
  induction lines with
  | nil => exact .of_map_eq rfl
  | cons line rest induction =>
      have ⟨here, behind⟩ := List.forall_mem_cons.mp plain
      by_cases ended : buffer.endsLine = true ∨ rest ≠ []
      · obtain ⟨shown, read, equal, _⟩ := Line.ofText_ended here
          (endingOf_ne_none fallback line) (buffer.renderLines rest)
        rw [renderLines_cons ended, Text.lines, read]
        exact (induction behind).cons equal.symm
      · -- A last line that is empty and not ended does not show.
        obtain ⟨notEnded, last⟩ := not_or.mp ended
        obtain rfl := not_not.mp last
        rw [renderLines, if_neg notEnded, List.append_nil, Text.lines,
          Line.ofText_plain here]
        by_cases empty : line.text = []
        · rw [if_pos empty]
          exact .of_blank [] (by simp [empty, Text.blank])
        · rw [if_neg empty]
          exact .of_map_eq rfl

/-- What is written is read back up to blanks. -/
theorem tidied_render (whole : buffer.Whole) :
    Text.Tidied (buffer.lines.map Line.text) (Text.lines buffer.render) :=
  tidied_renderLines whole.ended whole.plain

private theorem line_of_renderLines (fallback : buffer.fallback ≠ .none)
    {lines : List Line} (plain : ∀ line ∈ lines, '\n' ∉ line.text) {index : Nat}
    {line : Line} (there : lines[index]? = some line) :
    let shown := ((Text.lines (buffer.renderLines lines))[index]?).getD []
    shown = line.text ∨ buffer.endingOf line = .lf ∧
    line.text = shown ++ ['\r'] := by
  induction lines generalizing index with
  | nil => cases there
  | cons first rest induction =>
      have ⟨here, behind⟩ := List.forall_mem_cons.mp plain
      by_cases ended : buffer.endsLine = true ∨ rest ≠ []
      · obtain ⟨shown, read, same⟩ := Line.ofText_written here
          (endingOf_ne_none fallback first) (buffer.renderLines rest)
        rw [renderLines_cons ended, Text.lines, read]
        cases index with
        | zero =>
            cases there
            exact same
        | succ index => exact induction behind there
      · -- A last line that is empty and not ended does not show.
        obtain ⟨notEnded, last⟩ := not_or.mp ended
        obtain rfl := not_not.mp last
        obtain ⟨rfl, rfl⟩ : index = 0 ∧ first = line := by
          cases index with
          | zero => exact ⟨rfl, Option.some.inj there⟩
          | succ index => cases there
        rw [renderLines, if_neg notEnded, List.append_nil, Text.lines,
          Line.ofText_plain here]
        by_cases empty : first.text = []
        · simp [empty]
        · simp [empty]

/-- A line of a buffer is read back in its place, at most without a carriage
return at its end that has become part of the ending. -/
theorem line_of_render (whole : buffer.Whole) {index : Nat} {line : Line}
    (there : buffer.lines[index]? = some line) :
    let shown := ((Text.lines buffer.render)[index]?).getD []
    shown = line.text ∨ buffer.endingOf line = .lf ∧
    line.text = shown ++ ['\r'] :=
  line_of_renderLines whole.ended whole.plain there

private theorem lines_renderLines (fallback : buffer.fallback ≠ .none)
    (endsLine : buffer.endsLine = true) {lines : List Line}
    (plain : ∀ line ∈ lines, '\n' ∉ line.text)
    (trimmed : ∀ line ∈ lines, Text.trimEnd line.text = line.text) :
    Text.lines (buffer.renderLines lines) = lines.map Line.text := by
  induction lines with
  | nil => rfl
  | cons line rest induction =>
      have ⟨here, behind⟩ := List.forall_mem_cons.mp plain
      have ⟨hereTrimmed, behindTrimmed⟩ := List.forall_mem_cons.mp trimmed
      obtain ⟨shown, read, _, equal⟩ := Line.ofText_ended here
        (endingOf_ne_none fallback line) (buffer.renderLines rest)
      have later : (Line.ofText (buffer.renderLines rest)).map Line.text =
          rest.map Line.text :=
        induction behind behindTrimmed
      rw [renderLines_cons (.inl endsLine), Text.lines, read, List.map_cons,
        List.map_cons, later, equal hereTrimmed]

/-- Trimmed lines that are all ended are read back as they are. -/
theorem lines_render (whole : buffer.Whole) (endsLine : buffer.endsLine = true)
    (trimmed : ∀ line ∈ buffer.lines, Text.trimEnd line.text = line.text) :
    Text.lines buffer.render = buffer.lines.map Line.text :=
  lines_renderLines whole.ended endsLine whole.plain trimmed

end Buffer

end LintMend
