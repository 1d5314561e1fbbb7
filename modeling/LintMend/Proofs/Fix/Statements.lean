import LintMend.Proofs.Fix.Imports
import LintMend.Proofs.Scan.Levels
import LintMend.Proofs.Text.Letters

/-!
# Several statements on a line

A line of several statements gives way to one line for each of them, in order,
with the indent of the line, and the last one has the comment. None of these
lines has a semicolon that parts two statements, so there is nothing left to
split. The header of a compound statement keeps what follows it on its line.
-/

namespace LintMend

namespace Scan

theorem unsigned_iff_nowhere {sign : Char} {code behind : Text} :
    Unsigned [sign] .code code behind ↔
      Nowhere sign (·.place = .code) code := by
  have marked (c : Char) (rest : Text) :
      [sign] <+: c :: rest ++ behind ↔ c = sign := by
    rw [List.cons_append, List.cons_prefix_cons]
    simp [eq_comm]
  constructor
  · intro unsigned front rest whole inCode
    rw [Level.place_after] at inCode
    exact unsigned front sign rest whole inCode ((marked sign rest).mpr rfl)
  · intro nowhere front c rest whole inCode here
    obtain rfl := (marked c rest).mp here
    exact nowhere front rest whole ((Level.place_after .top front).trans inCode)

/-- Code in which no comment begins stays the code of a line, whatever comment
follows it. -/
theorem splitComment_of_nowhere {sign : Char} {code comment : Text}
    (nowhere : Nowhere sign (·.place = .code) code)
    (signed : comment ≠ [] → Quoting.after .code code = .code ∧
      [sign] <+: comment) :
    splitComment [sign] (code ++ comment) = (code, comment) :=
  splitComment_eq_iff.mpr ⟨rfl, unsigned_iff_nowhere.mpr nowhere, signed⟩

theorem nowhere_line {c : Char} {there : Level → Prop} {indent piece : Text}
    (blank : ∀ d ∈ indent, Text.isBlank d = true)
    (visible : Text.isBlank c = false) (nowhere : Nowhere c there piece) :
    Nowhere c there (indent ++ Text.trim piece) := by
  have apart {front : Text} (blank : ∀ d ∈ front, Text.isBlank d = true) : c ∉
      front := by
    intro member
    rw [blank c member] at visible
    cases visible
  obtain ⟨front, behind, whole, before, -⟩ := Text.exists_trim piece
  rw [whole] at nowhere
  have trimmed :=
    (nowhere_append_iff (outside_of_blank before) (apart before)).mp
    (nowhere.of_prefix (List.prefix_append _ behind))
  exact (nowhere_append_iff (outside_of_blank blank) (apart blank)).mpr trimmed

/-- Blanks around a statement do not decide whether its literals are closed. -/
theorem after_line {indent piece : Text}
    (blank : ∀ d ∈ indent, Text.isBlank d = true)
    (closed : Quoting.after .code piece = .code) :
    Quoting.after .code (indent ++ Text.trim piece) = .code := by
  have unquoted {text : Text} (blank : ∀ c ∈ text, Text.isBlank c = true) :
      ∀ c ∈ text, Quoting.isQuote c = false := fun c member =>
    isQuote_of_isBlank (blank c member)
  have stays {text : Text} (blank : ∀ c ∈ text, Text.isBlank c = true) :
      Quoting.after .code text = .code :=
    (Quoting.WellQuoted.after_eq_code_iff .code (unquoted blank)).mpr rfl
  obtain ⟨front, behind, whole, before, later⟩ := Text.exists_trim piece
  have quoted : (Quoting.after .code (front ++ Text.trim piece)).WellQuoted :=
    Quoting.WellQuoted.code.after _
  rw [whole, Quoting.after_append, quoted.after_eq_code_iff (unquoted later),
    Quoting.after_append, stays before] at closed
  rw [Quoting.after_append, stays blank, closed]

end Scan

namespace Fix

/-! ## Headers of compound statements -/

/-- The code begins with the word, behind its indent, and the word is not
continued. -/
def BeginsWith (word code : Text) : Prop :=
  ∃ indent rest, code = indent ++ word ++ rest ∧
    (∀ c ∈ indent, Text.isBlank c = true) ∧
    ∀ c ∈ rest.head?, (Text.isAlphanumeric c || c == '_') = false

/-- The code begins with a word of compound statements, and a colon stands
outside literals and brackets. -/
def IsHeader (code : Text) : Prop :=
  (∃ word ∈ compoundKeywords, BeginsWith word.toList code) ∧
    ∃ front rest, code = front ++ ':' :: rest ∧ Scan.Outside front

variable {code : Text}

/-- The words are letters and nothing else. -/
theorem compoundKeywords_letters : ∀ word ∈ compoundKeywords, word.toList ≠ [] ∧
    ∀ c ∈ word.toList, c.isAlpha = true := by
  simp [compoundKeywords]

theorem firstWord_eq_iff {word : Text} (some : word ≠ [])
    (letters : ∀ c ∈ word, c.isAlpha = true) :
    firstWord code = word ↔ BeginsWith word code := by
  constructor
  · intro first
    refine ⟨Text.indent code, (Text.trimStart code).dropWhile fun c =>
      Text.isAlphanumeric c || c == '_', ?_, Text.blank_indent code, ?_⟩
    · rw [← first, List.append_assoc, firstWord,
        List.takeWhile_append_dropWhile, Text.indent_append_trimStart]
    · intro c here
      have stops :=
        List.head?_dropWhile_not (fun c => Text.isAlphanumeric c || c == '_')
        (Text.trimStart code)
      rwa [Option.mem_def.mp here] at stops
  · rintro ⟨indent, behind, rfl, blank, stops⟩
    have none : behind.takeWhile (fun c =>
      Text.isAlphanumeric c || c == '_') = [] := by
      cases behind with
      | nil => rfl
      | cons d behind =>
          exact List.takeWhile_cons_of_neg (by simp [stops d rfl])
    obtain ⟨c, rest, rfl⟩ := List.exists_cons_of_ne_nil some
    rw [firstWord, List.append_assoc, Text.trimStart_of_blank blank,
      List.cons_append,
      Text.trimStart_cons
        (Text.isBlank_of_isAlpha (letters c List.mem_cons_self)),
      ← List.cons_append, List.takeWhile_append_of_pos, none, List.append_nil]
    intro d member
    rw [Text.isAlphanumeric_of_isAlpha (letters d member), Bool.true_or]

theorem isCompoundHeader_iff (unsigned : Scan.Unsigned ['#'] .code code []) :
    isCompoundHeader code = true ↔ IsHeader code := by
  have plain : Scan.isPlain ':' = true := rfl
  rw [isCompoundHeader, Bool.and_eq_true, List.contains_iff_mem,
    Scan.hasTopLevel_iff plain unsigned]
  refine and_congr_left' ?_
  constructor
  · intro member
    refine ⟨_, member, ?_⟩
    obtain ⟨some, letters⟩ := compoundKeywords_letters _ member
    refine (firstWord_eq_iff some letters).mp ?_
    rw [String.toList_ofList]
  · rintro ⟨word, member, begins⟩
    obtain ⟨some, letters⟩ := compoundKeywords_letters word member
    rw [(firstWord_eq_iff some letters).mpr begins, String.ofList_toList]
    exact member

/-! ## The lines that come out -/

/-- The lines that a line of several statements gives way to. There is one for
each piece between its semicolons that holds more than blanks. -/
inductive Parted (text : Text) : List Text → Prop
  | lines {code comment : Text} {pieces front : List Text} {last : Text} :
      Scan.splitComment ['#'] text = (code, comment) → ¬ IsHeader code →
      Scan.Divides ';' .top code pieces →
      (pieces.map Text.trim).filter (· ≠ []) = front ++ [last] → front ≠ [] →
      Parted text
        ((front ++ [last ++ gapBefore comment ++ comment]).map
          (Text.indent text ++ ·))

theorem statements_eq (indent code : Text) :
    statements indent code =
      (((Scan.splitTopLevel ';' ['#'] code).map Text.trim).filter
      (· ≠ [])).map (indent ++ ·) := by
  rw [statements]
  induction (Scan.splitTopLevel ';' ['#'] code).map Text.trim with
  | nil => rfl
  | cons piece pieces induction =>
      rw [List.filterMap_cons, induction]
      by_cases empty : piece = [] <;> simp [empty]

@[simp]
theorem commentLast_concat (comment : Text) (front : List Text) (last : Text) :
    commentLast comment (front ++ [last]) =
      front ++ [Scan.withComment last comment] := by
  induction front with
  | nil => rfl
  | cons line front induction =>
      cases front with
      | nil => rfl
      | cons next front =>
          rw [List.cons_append, List.cons_append, commentLast]
          · rw [← List.cons_append, induction]
            rfl
          · exact List.cons_ne_nil _ _

/-- A statement behind its indent is trimmed at its end, so the comment goes
behind it. -/
theorem withComment_line {last : Text} (some : last ≠ [])
    (trimmed : Text.trim last = last) (indent comment : Text) :
    Scan.withComment (indent ++ last) comment =
      indent ++ (last ++ gapBefore comment ++ comment) := by
  have ended : Text.trimEnd (indent ++ last) = indent ++ last := by
    have same := Text.trimEnd_of_trimmed trimmed
    rw [Text.trimEnd_append (by rwa [same]), same]
  rw [Scan.withComment_of_trimmed (by simp [some]) ended, gapBefore]
  simp

section

variable {text comment : Text} {texts pieces front : List Text} {last : Text}

theorem mem_kept {line : Text}
    (member : line ∈ (pieces.map Text.trim).filter (· ≠ [])) :
    line ≠ [] ∧ ∃ piece ∈ pieces, Text.trim piece = line := by
  obtain ⟨inside, some⟩ := List.mem_filter.mp member
  exact ⟨by simpa using some, List.mem_map.mp inside⟩

theorem commentLast_statements
    (kept : ((Scan.splitTopLevel ';' ['#'] code).map Text.trim).filter
      (· ≠ []) = front ++ [last]) (indent comment : Text) :
    commentLast comment (statements indent code) =
      (front ++ [last ++ gapBefore comment ++ comment]).map (indent ++ ·) := by
  have member : last ∈ front ++ [last] :=
    List.mem_append_right _ List.mem_cons_self
  rw [← kept] at member
  obtain ⟨some, piece, -, rfl⟩ := mem_kept member
  rw [statements_eq, kept, List.map_append, List.map_singleton,
    commentLast_concat, withComment_line some (Text.trim_trim piece),
    List.map_append, List.map_singleton]

/-- Which lines are parted, and how, as it is computed. -/
theorem parted_iff :
    Parted text texts ↔
      isCompoundHeader (Scan.splitComment ['#'] text).1 = false ∧
      2 ≤ (statements (Text.indent text)
          (Scan.splitComment ['#'] text).1).length ∧
        texts = commentLast (Scan.splitComment ['#'] text).2
          (statements (Text.indent text) (Scan.splitComment ['#'] text).1) := by
  have plain : Scan.isPlain ';' = true := rfl
  have unsigned := Scan.unsigned_splitComment ['#'] text
  rcases split : Scan.splitComment ['#'] text with ⟨code, comment⟩
  rw [split] at unsigned
  have divides := Scan.divides_splitTopLevel plain unsigned
  have header : ¬ IsHeader code ↔ isCompoundHeader code = false := by
    rw [← isCompoundHeader_iff unsigned, Bool.not_eq_true]
  constructor
  · intro parted
    cases parted with
    | lines alsoSplit noHeader cut kept several =>
        cases split.symm.trans alsoSplit
        cases cut.unique plain divides
        refine ⟨header.mp noHeader, ?_, (commentLast_statements kept _ _).symm⟩
        have some := List.length_pos_iff.mpr several
        rw [statements_eq, kept, List.length_map, List.length_append,
          List.length_singleton]
        omega
  · rintro ⟨noHeader, several, rfl⟩
    rw [statements_eq, List.length_map] at several
    obtain none | ⟨front, last, kept⟩ := List.eq_nil_or_concat
      (((Scan.splitTopLevel ';' ['#'] code).map Text.trim).filter (· ≠ []))
    · rw [none] at several
      cases several
    · rw [List.concat_eq_append] at kept
      have more : front ≠ [] := by
        rintro rfl
        rw [kept, List.nil_append, List.length_singleton] at several
        omega
      rw [commentLast_statements kept]
      exact .lines split (header.mpr noHeader) divides kept more

end

variable {buffer fixed : Buffer} {number : Nat} {text : Text}

theorem splitLine_eq_ok_iff :
    splitLine buffer number = .ok fixed ↔
      ∃ text texts, buffer.line? number = some text ∧ Parted text texts ∧
        buffer.Spliced number texts fixed := by
  constructor
  · intro applied
    obtain ⟨text, found, applied⟩ := lineOf_bind applied
    simp only at applied
    split at applied
    · cases applied
    · next noHeader =>
        split at applied
        · cases applied
        · next several =>
            cases applied
            have parts := parted_iff.mpr
              ⟨Bool.eq_false_iff.mpr noHeader, Nat.not_lt.mp several, rfl⟩
            exact ⟨text, _, found, parts, Buffer.spliced_spliceLine found _⟩
  · rintro ⟨text, texts, found, parted, spliced⟩
    obtain ⟨noHeader, several, rfl⟩ := parted_iff.mp parted
    rw [spliced.unique (Buffer.spliced_spliceLine found _)]
    simp only [splitLine, lineOf_bind_eq found]
    rw [if_neg (by simp [noHeader]), if_neg (Nat.not_lt.mpr several)]

/-! ## What the lines are read as -/

/-- A line that has no semicolon outside literals and brackets is not split. -/
theorem splitLine_refused (found : buffer.line? number = some text)
    (nowhere : Scan.Nowhere ';' (· = .top) (Scan.splitComment ['#'] text).1) :
    ∃ refusal, splitLine buffer number = .error refusal := by
  have plain : Scan.isPlain ';' = true := rfl
  cases applied : splitLine buffer number with
  | error refusal => exact ⟨refusal, rfl⟩
  | ok fixed =>
      obtain ⟨line, texts, there, parted, -⟩ := splitLine_eq_ok_iff.mp applied
      cases found.symm.trans there
      have several := (parted_iff.mp parted).2.1
      have single := (Scan.divides_splitTopLevel plain
        (Scan.unsigned_splitComment ['#'] text)).eq_singleton nowhere
      have few := List.length_filterMap_le (fun piece =>
        if piece = [] then none else some (Text.indent text ++ piece))
        ((Scan.splitTopLevel ';' ['#'] (Scan.splitComment ['#'] text).1).map
          Text.trim)
      rw [← statements, List.length_map, single, List.length_singleton] at few
      omega

/-- The scanners find in a line of its own what they found in the line it comes
from. -/
structure ReadApart (comment line : Text) : Prop where
  unsigned : Scan.Nowhere '#' (·.place = .code) line
  undivided : Scan.Nowhere ';' (· = .top) line
  closed : comment ≠ [] → Quoting.after .code line = .code

theorem readApart {code comment : Text} {pieces : List Text}
    (split : Scan.splitComment ['#'] text = (code, comment))
    (divides : Scan.Divides ';' .top code pieces) {piece : Text}
    (member : piece ∈ pieces) :
    ReadApart comment (Text.indent text ++ Text.trim piece) := by
  have plain : Scan.isPlain ';' = true := rfl
  have blank := Text.blank_indent text
  obtain ⟨-, unsigned, signed⟩ := Scan.splitComment_eq_iff.mp split
  have signs :=
    divides.nowhere_of_line plain member (Scan.unsigned_iff_nowhere.mp unsigned)
  refine ⟨Scan.nowhere_line blank (by decide) signs,
    Scan.nowhere_line blank (by decide) (divides.nowhere plain member),
    fun some => ?_⟩
  apply Scan.after_line blank
  -- behind the last piece the reader may be in a literal, unless a comment
  -- begins there
  obtain ⟨front, behind, place⟩ := List.append_of_mem member
  by_cases last : behind = []
  · rw [last] at place
    have same := congrArg Scan.Level.place (divides.after_last plain place)
    rw [Scan.Level.place_after, Scan.Level.place_after] at same
    exact same.trans (signed some).1
  · have outside := congrArg Scan.Level.place (divides.outside plain place last)
    rwa [Scan.Level.place_after] at outside

theorem ReadApart.splitComment {comment line : Text}
    (alone : ReadApart comment line) :
    Scan.splitComment ['#'] line = (line, []) := by
  have split :=
    Scan.splitComment_of_nowhere alone.unsigned (fun none => absurd rfl none)
  rwa [List.append_nil] at split

theorem ReadApart.splitComment_signed {comment line : Text}
    (alone : ReadApart comment line)
    (signed : comment ≠ [] → ['#'] <+: comment) :
    Scan.splitComment ['#'] (line ++ gapBefore comment ++ comment) =
      (line ++ gapBefore comment, comment) := by
  have apart : '#' ∉ gapBefore comment :=
    fun member => by cases isBlank_of_mem_gap '#' member
  refine Scan.splitComment_of_nowhere (alone.unsigned.append apart) fun some =>
    ⟨?_, signed some⟩
  have stays : Quoting.after .code (gapBefore comment) = .code := by
    rw [gapBefore, if_neg some]
    rfl
  rw [Quoting.after_append, alone.closed some, stays]

/-- Each of the lines has no semicolon left to split it at, and the last one
alone has a comment, that of the line they come from. -/
theorem Parted.read {texts : List Text} (parted : Parted text texts) :
    2 ≤ texts.length ∧ ∀ offset line, texts[offset]? = some line →
      Scan.Nowhere ';' (· = .top) (Scan.splitComment ['#'] line).1 ∧
        (Scan.splitComment ['#'] line).2 =
          if offset + 1 = texts.length then (Scan.splitComment ['#'] text).2
          else [] := by
  cases parted with
  | @lines code comment pieces front last split noHeader divides kept several =>
      have some := List.length_pos_iff.mpr several
      have alone {line : Text} (member : line ∈ front ++ [last]) :
          ReadApart comment (Text.indent text ++ line) := by
        rw [← kept] at member
        obtain ⟨-, piece, inside, rfl⟩ := mem_kept member
        exact readApart split divides inside
      have count : ((front ++ [last ++ gapBefore comment ++ comment]).map
          (Text.indent text ++ ·)).length = front.length + 1 := by simp
      rw [count]
      refine ⟨by omega, fun offset line there => ?_⟩
      rw [List.getElem?_map, Option.map_eq_some_iff] at there
      obtain ⟨line, there, rfl⟩ := there
      rcases Nat.lt_or_ge offset front.length with before | behind
      · rw [List.getElem?_append_left before] at there
        have alone :=
          alone (List.mem_append_left _ (List.mem_of_getElem? there))
        rw [alone.splitComment, if_neg (by omega)]
        exact ⟨alone.undivided, rfl⟩
      · rw [List.getElem?_append_right behind, List.getElem?_singleton] at there
        split at there
        · next here =>
            cases there
            have alone := alone (List.mem_append_right front List.mem_cons_self)
            have signed := (Scan.splitComment_eq_iff.mp split).2.2
            have read := alone.splitComment_signed fun some => (signed some).2
            rw [List.append_assoc, List.append_assoc] at read
            have apart : ';' ∉ gapBefore comment :=
              fun member => by cases isBlank_of_mem_gap ';' member
            rw [List.append_assoc, read, split, if_pos (by omega)]
            exact ⟨by simpa using alone.undivided.append apart, rfl⟩
        · cases there

/-- A line of several statements gives way to two or more lines, one for each
statement between the semicolons that stand outside literals and brackets. They
have the indent of the line, the last one has its comment, and all other lines
stay. None of them is split again, and the header of a compound statement is not
split at all. -/
theorem splitLine_parts_statements (buffer : Buffer) (number : Nat) :
    (∀ fixed, splitLine buffer number = .ok fixed ↔
      ∃ text texts, buffer.line? number = some text ∧ Parted text texts ∧
        buffer.Spliced number texts fixed) ∧
    (∀ text texts, Parted text texts → 2 ≤ texts.length ∧
      ∀ offset line, texts[offset]? = some line →
        Scan.Nowhere ';' (· = .top) (Scan.splitComment ['#'] line).1 ∧
        (Scan.splitComment ['#'] line).2 =
          (if offset + 1 = texts.length then (Scan.splitComment ['#'] text).2
            else []) ∧
        ∀ fixed, buffer.Spliced number texts fixed →
          ∃ refusal, splitLine fixed (number + offset) = .error refusal) ∧
    ∀ text, buffer.line? number = some text →
      IsHeader (Scan.splitComment ['#'] text).1 →
      splitLine buffer number = .error .compoundHeader := by
  refine ⟨fun fixed => splitLine_eq_ok_iff, ?_, ?_⟩
  · intro text texts parted
    obtain ⟨several, read⟩ := parted.read
    refine ⟨several, fun offset line there => ?_⟩
    obtain ⟨undivided, commented⟩ := read offset line there
    exact ⟨undivided, commented, fun fixed spliced =>
      splitLine_refused (spliced.line?_eq there) undivided⟩
  · intro text found header
    rw [← isCompoundHeader_iff (Scan.unsigned_splitComment ['#'] text)]
      at header
    simp only [splitLine, lineOf_bind_eq found]
    rw [if_pos header]

example : splitLine (.ofText "  a = 1; b = f(';');  # end\n".toList) 1 =
    .ok (.ofText "  a = 1\n  b = f(';')  # end\n".toList) := by cbv

end Fix

end LintMend
