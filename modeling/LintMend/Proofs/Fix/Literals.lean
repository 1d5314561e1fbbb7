import Mathlib
import LintMend.Proofs.Fix.Comparisons

/-!
# Literals under fixes

Comparisons are rewritten in the code between literals, and statements are
parted at semicolons of the code. On a line that quotes alone tell apart neither
touches a literal or the comment: the lines that come out read the same
literals, in order.
-/

namespace LintMend

theorem Scan.isCode_of_isBlank {c : Char} (blank : Text.isBlank c = true) :
    isCode c = true := by
  simp only [isCode, Quoting.isQuote, Bool.and_eq_true, Bool.not_eq_true',
    bne_iff_ne, Bool.or_eq_false_iff, beq_eq_false_iff_ne]
  refine ⟨⟨⟨?_, ?_⟩, ?_⟩, ?_⟩ <;>
    · rintro rfl
      exact absurd blank (by decide)

theorem Literal.isBlank_of_isQuote {quote : Char}
    (isQuote : isQuote quote = true) :
    Text.isBlank quote = false := by
  rw [Bool.eq_false_iff]
  intro blank
  have code := Scan.isQuote_of_isCode (Scan.isCode_of_isBlank blank)
  rw [isQuote] at code
  cases code

theorem Literal.Fits.ends {literal : Literal} {rest : Text}
    (fits : literal.Fits rest) :
    ∃ quote inside, literal.text = quote :: inside ++ [quote] ∧
      isQuote quote = true := by
  cases fits with
  | @single quote body _ isQuote => exact ⟨quote, body, rfl, isQuote⟩
  | @triple quote body _ isQuote =>
      exact ⟨quote, [quote, quote] ++ body ++ [quote, quote], by
        simp [text], isQuote⟩

namespace Spelled

variable {text : Text} {literals : List Literal}

theorem literals_of_nil (spelled : Spelled [] literals) : literals = [] := by
  generalize empty : ([] : Text) = text at spelled
  cases spelled with
  | nil => rfl
  | code => cases empty
  | literal fits =>
      exact absurd (List.append_eq_nil_iff.mp empty.symm).1 fits.text_ne_nil

theorem trimStart (spelled : Spelled text literals) :
    Spelled (Text.trimStart text) literals := by
  unfold Text.trimStart
  induction spelled with
  | nil => exact .nil
  | code isCode spelled induction =>
      rw [List.dropWhile_cons]
      split
      · exact induction
      · exact .code isCode spelled
  | literal fits spelled _ =>
      obtain ⟨quote, inside, whole, isQuote⟩ := fits.ends
      have kept := Spelled.literal fits spelled
      rw [whole] at kept ⊢
      rwa [List.cons_append, List.cons_append,
        List.dropWhile_cons_of_neg
          (by simp [Literal.isBlank_of_isQuote isQuote])]

theorem trimEnd (spelled : Spelled text literals) :
    Spelled (Text.trimEnd text) literals := by
  unfold Text.trimEnd
  induction spelled with
  | nil => exact .nil
  | code isCode _ induction =>
      rw [Text.dropEndWhile]
      split
      · next none =>
          rw [none] at induction
          split
          · exact induction
          · exact .code isCode induction
      · exact .code isCode induction
  | @literal literal rest _ fits _ induction =>
      obtain ⟨quote, inside, whole, isQuote⟩ := fits.ends
      have stillFits :=
        fits.of_prefix (Text.dropEndWhile_prefix Text.isBlank rest)
      have kept := Spelled.literal stillFits induction
      rw [whole] at kept ⊢
      rw [List.append_assoc, List.singleton_append] at kept ⊢
      rwa [Text.dropEndWhile_append (Literal.isBlank_of_isQuote isQuote)]

theorem code_append {run : Text} (code : ∀ c ∈ run, Scan.isCode c = true)
    (spelled : Spelled text literals) : Spelled (text ++ run) literals := by
  induction spelled with
  | nil =>
      have whole := Spelled.nil.append_code code
      rwa [List.append_nil] at whole
  | code isCode _ induction => exact .code isCode induction
  | @literal literal rest _ fits _ induction =>
      rw [List.append_assoc]
      refine .literal (fits.append fun quote isQuote here => ?_) induction
      have isCode :=
        Scan.isQuote_of_isCode (code quote (List.mem_of_head? here))
      rw [isQuote] at isCode
      cases isCode

end Spelled

namespace Fix

open Scan (isCode)

/-! ## Statements -/

/-- Statements that are empty have no literals, so none is lost with them. -/
private theorem spelled_pieces {indent : Text}
    (code : ∀ c ∈ indent, isCode c = true) {pieces : List Text}
    {parts : List (List Literal)}
    (spelled : List.Forall₂ Spelled pieces parts) :
    ∃ kept, List.Forall₂ Spelled
        ((pieces.map Text.trim).filterMap fun piece =>
          if piece = [] then none else some (indent ++ piece)) kept ∧
      kept.flatten = parts.flatten := by
  induction spelled with
  | nil => exact ⟨[], .nil, rfl⟩
  | @cons piece part pieces parts first _ induction =>
      obtain ⟨kept, others, same⟩ := induction
      have trimmed : Spelled (Text.trim piece) part := first.trimStart.trimEnd
      rw [List.map_cons, List.filterMap_cons]
      split
      · next dropped =>
          have empty : Text.trim piece = [] := by simpa using dropped
          rw [empty] at trimmed
          rw [trimmed.literals_of_nil]
          exact ⟨kept, others, same⟩
      · next line found =>
          split at found
          · cases found
          · cases found
            refine ⟨part :: kept, .cons (trimmed.append_code code) others, ?_⟩
            rw [List.flatten_cons, List.flatten_cons, same]

theorem spelled_statements {indent text : Text} {literals : List Literal}
    (blank : ∀ c ∈ indent, Text.isBlank c = true)
    (spelled : Spelled text literals) :
    ∃ parts, List.Forall₂ Spelled (statements indent text) parts ∧
      parts.flatten = literals := by
  obtain ⟨parts, pieces, whole⟩ := spelled.splitTopLevel ';'
  obtain ⟨kept, lines, same⟩ :=
    spelled_pieces (fun c member =>
      Scan.isCode_of_isBlank (blank c member)) pieces
  exact ⟨kept, lines, same.trans whole⟩

theorem spelled_withComment {line : Text} {part : List Literal}
    (spelled : Spelled line part) (comment : Text) :
    ∃ code, Scan.withComment line comment = code ++ comment ∧
      Spelled code part := by
  unfold Scan.withComment
  split
  · next none => exact ⟨line, by rw [none, List.append_nil], spelled⟩
  · split
    · exact ⟨line, rfl, spelled⟩
    · exact ⟨_, rfl, spelled.trimEnd.code_append (List.all_eq_true.mp rfl)⟩

end Fix

/-- Lines that are read with the given literals, parted among them in order, and
of which only the last one has the comment. -/
def ReadTogether (texts : List Text) (literals : List Literal)
    (comment : Text) : Prop :=
  ∃ front last, texts.map LineReading.ofText? = (front ++ [last]).map some ∧
    (front ++ [last]).flatMap LineReading.literals = literals ∧
    (∀ reading ∈ front, reading.comment = []) ∧ last.comment = comment

theorem Spelled.readTogether {text : Text} {literals : List Literal}
    (spelled : Spelled text literals) {comment : Text}
    (signed : Scan.IsComment comment) :
    ReadTogether [text ++ comment] literals comment := by
  obtain ⟨code, read⟩ := spelled.reading signed
  refine ⟨[], { code, literals, comment }, ?_, ?_, nofun, rfl⟩
  · rw [List.map_singleton, read]
    rfl
  · rw [List.nil_append, List.flatMap_singleton]

theorem ReadTogether.cons {text : Text} {part : List Literal}
    (spelled : Spelled text part) {texts : List Text} {literals : List Literal}
    {comment : Text} (others : ReadTogether texts literals comment) :
    ReadTogether (text :: texts) (part ++ literals) comment := by
  obtain ⟨front, last, reads, whole, bare, same⟩ := others
  obtain ⟨code, read⟩ := spelled.reading (.inl (rfl : ([] : Text) = []))
  rw [List.append_nil] at read
  refine ⟨{ code, literals := part, comment := [] } :: front, last, ?_,
    ?_, ?_, same⟩
  · rw [List.map_cons, read, reads]
    rfl
  · rw [List.cons_append, List.flatMap_cons, whole]
  · rw [List.forall_mem_cons]
    exact ⟨rfl, bare⟩

namespace Fix

theorem readTogether_commentLast {comment : Text}
    (signed : Scan.IsComment comment) {lines : List Text}
    (several : lines ≠ []) {parts : List (List Literal)}
    (spelled : List.Forall₂ Spelled lines parts) :
    ReadTogether (commentLast comment lines) parts.flatten comment := by
  induction spelled with
  | nil => exact absurd rfl several
  | @cons line part lines parts first others induction =>
      cases others with
      | nil =>
          obtain ⟨text, whole, commented⟩ := spelled_withComment first comment
          simp only [commentLast, whole, List.flatten_singleton]
          exact commented.readTogether signed
      | cons => exact .cons first (induction (List.cons_ne_nil _ _))

/-! ## The fixes -/

variable {buffer fixed : Buffer} {number : Nat} {text comment : Text}
  {literals : List Literal}

theorem changeCode_readTogether {change : Text → Text}
    (keeps : Scan.KeepsCode change) {nothing : Refusal}
    (applied : changeCode (Scan.mapUnquoted change) nothing buffer number =
      .ok fixed) (found : buffer.line? number = some (text ++ comment))
    (spelled : Spelled text literals) (signed : Scan.IsComment comment) :
    ∃ texts, buffer.Spliced number texts fixed ∧
      ReadTogether texts literals comment := by
  obtain ⟨line, code, ended, there, split, -, rfl⟩ := changeCode_eq_ok applied
  cases found.symm.trans there
  cases (spelled.splitComment signed).symm.trans split
  exact ⟨_, Buffer.spliced_setLine found _,
    (spelled.mapUnquoted keeps).readTogether signed⟩

theorem splitLine_readTogether (applied : splitLine buffer number = .ok fixed)
    (found : buffer.line? number = some (text ++ comment))
    (spelled : Spelled text literals) (signed : Scan.IsComment comment) :
    ∃ texts, buffer.Spliced number texts fixed ∧
      ReadTogether texts literals comment := by
  obtain ⟨line, code, ended, there, split, several, rfl⟩ :=
    splitLine_eq_ok applied
  cases found.symm.trans there
  cases (spelled.splitComment signed).symm.trans split
  have blank : ∀ c ∈ Text.indent (text ++ comment), Text.isBlank c = true :=
    List.all_eq_true.mp List.all_takeWhile
  obtain ⟨parts, lines, whole⟩ := spelled_statements blank spelled
  refine ⟨_, Buffer.spliced_spliceLine found _, ?_⟩
  rw [← whole]
  have nonempty : statements (Text.indent (text ++ comment)) text ≠ [] :=
    List.ne_nil_of_length_pos (Nat.lt_of_lt_of_le Nat.zero_lt_two several)
  exact readTogether_commentLast signed nonempty lines

/-- Comparisons are rewritten and statements parted without a change to the
literals of a line or to its comment. The lines that take the place of a line
have its literals, in order, and the last one its comment, if every literal of
the line ends on it and no literal in three quotes has its quote in the body,
except behind backslashes. Code without a grave accent is all code: no token of
the language but a literal or a comment has one. -/
theorem apply_keeps_literals {fix : Fix}
    (rewrites : fix ∈ [noneIdentityComparison, boolIdentityComparison,
      splitStatements])
    {keepPackageFiles : Bool} {issue : Issue}
    (applied : fix.apply keepPackageFiles issue buffer = .ok fixed)
    {line : Text} (found : buffer.line? issue.line = some line)
    {reading : LineReading} (read : LineReading.ofText? line = some reading)
    (noAccent : Quoting.graveAccent ∉ reading.code)
    (plain : ∀ literal ∈ reading.literals,
      literal.isTriple = true → literal.isPlain = true) :
    ∃ texts, buffer.Spliced issue.line texts fixed ∧
      ReadTogether texts reading.literals reading.comment := by
  obtain ⟨text, rfl, spelled, signed⟩ := LineReading.spelled read noAccent plain
  simp only [List.mem_cons, List.not_mem_nil, or_false] at rewrites
  rcases rewrites with rfl | rfl | rfl
  · have keeps : Scan.KeepsCode (identityComparisons ["None".toList]) :=
      keepsCode_identityComparisons _
    exact changeCode_readTogether keeps applied found spelled signed
  · have keeps : Scan.KeepsCode
        (identityComparisons ["True".toList, "False".toList]) :=
      keepsCode_identityComparisons _
    exact changeCode_readTogether keeps applied found spelled signed
  · exact splitLine_readTogether applied found spelled signed

/-- A finding on the first line of a file. -/
def firstLine : Issue :=
  { file := ⟨"a.py"⟩, line := 1, code := "E702", message := "",
    language := .python }

def hiddenQuote : Text :=
  "x = y; z = \"\"\"a\\\"b\"\"\"  # c".toList

def bareQuote : Text :=
  "x = \"\"\" \";\" \"\"\"".toList

/-- A quote behind a backslash does no harm. Bare quotes in a literal in three
quotes make code of what is between them, and the literal is torn apart. -/
theorem hiddenQuote_kept_bareQuote_torn :
    (∃ fixed texts,
      splitStatements.apply true firstLine (.ofText (hiddenQuote ++ ['\n'])) =
        .ok fixed ∧
          (Buffer.ofText (hiddenQuote ++ ['\n'])).Spliced 1 texts fixed ∧
            ReadTogether texts [⟨"\"\"\"".toList, "a\\\"b".toList⟩]
            "# c".toList) ∧
    (LineReading.ofText? bareQuote).map LineReading.literals =
      some [⟨"\"\"\"".toList, " \";\" ".toList⟩] ∧
    splitStatements.apply true firstLine (.ofText (bareQuote ++ ['\n'])) =
      .ok (.ofText "x = \"\"\" \"\n\" \"\"\"\n".toList) := by
  have read : LineReading.ofText? hiddenQuote =
      some
        { code := "x = y; z =   ".toList
          literals := [⟨"\"\"\"".toList, "a\\\"b".toList⟩]
          comment := "# c".toList } := by cbv
  have applied :
      splitStatements.apply true firstLine (.ofText (hiddenQuote ++ ['\n'])) =
        .ok (.ofText "x = y\nz = \"\"\"a\\\"b\"\"\"  # c\n".toList) := rfl
  have found : (Buffer.ofText (hiddenQuote ++ ['\n'])).line? firstLine.line =
      some hiddenQuote :=
    rfl
  obtain ⟨texts, spliced, kept⟩ :=
    apply_keeps_literals (by decide) applied found read (by decide) (by decide)
  exact ⟨⟨_, texts, applied, spliced, kept⟩, by cbv, rfl⟩

end Fix

end LintMend
