import LintMend.Proofs.Assist.Recovery
import LintMend.Proofs.Scan.Pieces
import LintMend.Proofs.Text.Returns

/-!
# Replies with carriage returns

A model may end its lines with a carriage return and a line feed. The blanks and
the marker of a refusal are found all the same, but line feeds are also dropped
by themselves: in front of a reply without fences, and in front of the fence
that closes a block. There the carriage return stays behind. It becomes the end
of the last line of a block, and it keeps empty lines in front of other replies.
-/

namespace LintMend

namespace Fix

/-- The lines that a suggestion puts in the place of one. -/
def replacement (suggestion : Text) : List Text :=
  if Text.blank suggestion then [] else Text.lines suggestion

variable {buffer : Buffer} {number : Nat} {current : Text}

theorem applySuggestion_eq (found : buffer.line? number = some current)
    (suggestion : Text) :
    applySuggestion suggestion buffer number =
      if replacement suggestion = [current] then .error .sameLine
      else .ok (buffer.spliceLine number (replacement suggestion)) := by
  rw [applySuggestion, lineOf_eq found]
  rfl

theorem applySuggestion_of_missing (missing : buffer.line? number = none)
    (suggestion : Text) :
    applySuggestion suggestion buffer number = .error (.outOfRange number) := by
  rw [applySuggestion, lineOf, missing]
  rfl

/-- Suggestions for a line tell themselves apart by the lines that they
bring. -/
theorem applySuggestion_eq_iff (found : buffer.line? number = some current)
    {first second : Text} :
    applySuggestion first buffer number = applySuggestion second buffer number ↔
      replacement first = replacement second := by
  rw [applySuggestion_eq found, applySuggestion_eq found]
  constructor
  · intro same
    split at same
    · next unchanged =>
        split at same
        · next alsoUnchanged => rw [unchanged, alsoUnchanged]
        · cases same
    · split at same
      · cases same
      · have spliced := Buffer.spliced_spliceLine found (replacement second)
        rw [← Except.ok.inj same] at spliced
        exact (Buffer.spliced_spliceLine found (replacement first)).texts_unique
          spliced
  · intro same
    rw [same]

end Fix

namespace Reply

open Text (withReturns)

variable {raw text tag : Text}

/-- A body between two fences, with blanks around them. -/
def IsBlock (raw : Text) : Prop :=
  ∃ tag text, '\n' ∉ tag ∧ Text.trim raw = block tag text

/-- A reply without fences that begins with an empty line. -/
def BeginsWithFeed (raw : Text) : Prop :=
  ¬ fence <+: Text.trim raw ∧ raw.head? = some '\n'

/-- A suggestion comes from the reply, and it does not delete the line. -/
def Carries (raw : Text) : Prop :=
  ∃ suggestion, cleanSuggestion raw = .ok suggestion ∧
    Text.blank suggestion = false

/-! ## What is left of a reply -/

@[simp]
theorem afterFirstLine_withReturns (text : Text) :
    afterFirstLine (withReturns text) = withReturns (afterFirstLine text) := by
  by_cases broken : '\n' ∈ text
  · obtain ⟨tag, rest, rfl, unbroken⟩ := List.eq_append_cons_of_mem broken
    have stillUnbroken : '\n' ∉ tag ++ ['\r'] :=
      List.not_mem_append unbroken (by decide)
    rw [Text.withReturns_append, Text.withReturns_of_unbroken unbroken,
      Text.withReturns_feed, afterFirstLine_of_tag unbroken, List.append_cons,
      afterFirstLine_of_tag stillUnbroken]
  · rw [Text.withReturns_of_unbroken broken, afterFirstLine_of_unbroken broken]
    rfl

theorem fence_unbroken : '\n' ∉ fence := by decide

@[simp]
theorem withoutClosingFence_withReturns (text : Text) :
    withoutClosingFence (withReturns text) =
      withReturns (withoutClosingFence text) := by
  have closed : Text.endsWith (Text.trimEnd (withReturns text)) fence =
      Text.endsWith (Text.trimEnd text) fence := by
    rw [Bool.eq_iff_iff, Text.endsWith, Text.endsWith,
      List.isSuffixOf_iff_suffix, List.isSuffixOf_iff_suffix,
      Text.trimEnd_withReturns, Text.suffix_withReturns_iff fence_unbroken]
  simp only [withoutClosingFence, closed]
  split
  · next ends =>
      obtain ⟨body, whole⟩ := List.isSuffixOf_iff_suffix.mp ends
      rw [Text.trimEnd_withReturns, ← whole, Text.withReturns_append,
        Text.withReturns_of_unbroken fence_unbroken]
      simp
  · rfl

theorem fencedBody_withReturns (text : Text) :
    fencedBody (withReturns text) =
      Text.dropEndWhile isNewline
        (withReturns (withoutClosingFence (afterFirstLine text))) := by
  rw [fencedBody, afterFirstLine_withReturns, withoutClosingFence_withReturns]

theorem trim_withReturns_of_fence {rest : Text}
    (fenced : Text.trim raw = fence ++ rest) :
    Text.trim (withReturns raw) = fence ++ withReturns rest := by
  rw [Text.trim_withReturns, fenced, Text.withReturns_append,
    Text.withReturns_of_unbroken fence_unbroken]

theorem plain_withReturns (plain : ¬ fence <+: Text.trim raw) :
    ¬ fence <+: Text.trim (withReturns raw) := by
  rwa [Text.trim_withReturns,
    Text.prefix_withReturns_iff fence_unbroken (by decide)]

/-- The carriage return in front of the closing fence is taken for the end of
the body. -/
theorem body_withReturns_of_block (unbroken : '\n' ∉ tag)
    (isBlock : Text.trim raw = block tag text) :
    body raw = Text.dropEndWhile isNewline text ∧
      body (withReturns raw) = withReturns text ++ ['\r'] := by
  have fenced : Text.trim raw = fence ++
      (tag ++ '\n' :: (text ++ '\n' :: fence)) := by
    rw [isBlock, block, List.append_assoc]
  have newline : isNewline '\n' = true := rfl
  have stays : isNewline '\r' = false := rfl
  have inner : withoutClosingFence (text ++ '\n' :: fence) =
      text ++ ['\n'] := by
    rw [List.append_cons, withoutClosingFence_append]
  refine ⟨by rw [body_of_fence fenced, fencedBody_block unbroken], ?_⟩
  rw [body_of_fence (trim_withReturns_of_fence fenced), fencedBody_withReturns,
    afterFirstLine_of_tag unbroken, inner, Text.withReturns_append,
    Text.withReturns_feed, List.append_cons, Text.withReturns_nil,
    Text.dropEndWhile_concat newline, Text.dropEndWhile_append stays]
  rfl

/-- Line feeds behind carriage returns are not dropped in front of a reply. -/
theorem body_withReturns_of_feed (begins : BeginsWithFeed raw) :
    body raw = Text.trimEnd (raw.dropWhile isNewline) ∧
      body (withReturns raw) = withReturns (Text.trimEnd raw) := by
  obtain ⟨plain, first⟩ := begins
  obtain ⟨rest, rfl⟩ := List.head?_eq_some_iff.mp first
  refine ⟨by rw [body_of_plain plain, plainBody_eq], ?_⟩
  rw [body_of_plain (plain_withReturns plain), plainBody_eq,
    Text.withReturns_feed, List.dropWhile_cons_of_neg (by decide),
    ← Text.withReturns_feed, Text.trimEnd_withReturns]

theorem isBlock_of_fence {rest : Text} (fenced : Text.trim raw = fence ++ rest)
    (ends : (withoutClosingFence (afterFirstLine rest)).getLast? = some '\n') :
    IsBlock raw := by
  obtain ⟨text, inner⟩ := List.getLast?_eq_some_iff.mp ends
  by_cases broken : '\n' ∈ rest
  · obtain ⟨tag, behind, rfl, unbroken⟩ := List.eq_append_cons_of_mem broken
    have trimmed : Text.trimEnd (fence ++ tag ++ '\n' :: behind) =
        fence ++ tag ++ '\n' :: behind := by
      rw [List.append_assoc, ← fenced, Text.trim, Text.trimEnd_trimEnd]
    have trimmedBehind := (trimmed_behind trimmed).1
    rw [afterFirstLine_of_tag unbroken, withoutClosingFence,
      trimmedBehind] at inner
    split at inner
    · next closed =>
        obtain ⟨body, rfl⟩ := List.isSuffixOf_iff_suffix.mp closed
        rw [List.length_append, Nat.add_sub_cancel, List.take_left] at inner
        refine ⟨tag, text, unbroken, ?_⟩
        rw [fenced, inner, block]
        simp
    · exact absurd inner (Text.ne_concat_of_trimmed trimmedBehind rfl text)
  · rw [afterFirstLine_of_unbroken broken] at inner
    cases text <;> cases inner

theorem dropEndWhile_withReturns (ends : text.getLast? ≠ some '\n') :
    Text.dropEndWhile isNewline text = text ∧
      Text.dropEndWhile isNewline (withReturns text) = withReturns text := by
  rcases List.eq_nil_or_concat' text with rfl | ⟨front, c, rfl⟩
  · exact ⟨rfl, rfl⟩
  · have other : c ≠ '\n' := by
      rintro rfl
      exact ends List.getLast?_concat
    have stays : isNewline c = false := beq_eq_false_iff_ne.mpr other
    rw [Text.withReturns_append, Text.withReturns_cons other]
    exact ⟨Text.dropEndWhile_append stays front [],
      Text.dropEndWhile_append stays _ []⟩

/-- All other replies are read as if their lines ended in line feeds. -/
theorem body_withReturns (noBlock : ¬ IsBlock raw)
    (noFeed : ¬ BeginsWithFeed raw) :
    body (withReturns raw) = withReturns (body raw) := by
  by_cases fenced : fence <+: Text.trim raw
  · obtain ⟨rest, whole⟩ := fenced
    obtain ⟨kept, keptWithReturns⟩ := dropEndWhile_withReturns fun ends =>
      noBlock (isBlock_of_fence whole.symm ends)
    rw [body_of_fence (trim_withReturns_of_fence whole.symm),
      fencedBody_withReturns, body_of_fence whole.symm, fencedBody, kept,
      keptWithReturns]
  · rw [body_of_plain (plain_withReturns fenced), body_of_plain fenced,
      plainBody_eq, plainBody_eq]
    cases raw with
    | nil => rfl
    | cons c rest =>
        have other : c ≠ '\n' := by
          rintro rfl
          exact noFeed ⟨fenced, rfl⟩
        have stays : ¬ isNewline c = true := by simpa [isNewline] using other
        rw [List.dropWhile_cons_of_neg stays, Text.withReturns_cons other,
          List.dropWhile_cons_of_neg stays, ← Text.withReturns_cons other,
          Text.trimEnd_withReturns]

/-! ## Refusals and deletions -/

@[simp]
theorem trim_body_withReturns (raw : Text) :
    Text.trim (body (withReturns raw)) =
      withReturns (Text.trim (body raw)) := by
  have feeds := isBlank_of_isNewline
  by_cases isBlock : IsBlock raw
  · obtain ⟨tag, text, unbroken, isBlock⟩ := isBlock
    obtain ⟨before, after⟩ := body_withReturns_of_block unbroken isBlock
    have blank : ∀ c ∈ ['\r'], Text.isBlank c = true :=
      List.forall_mem_singleton.mpr rfl
    rw [before, after, Text.trim_of_blank blank, Text.trim_dropEndWhile feeds,
      Text.trim_withReturns]
  · by_cases begins : BeginsWithFeed raw
    · obtain ⟨before, after⟩ := body_withReturns_of_feed begins
      rw [before, after, Text.trim_withReturns, Text.trim_trimEnd,
        Text.trim_trimEnd, Text.trim_dropWhile feeds]
    · rw [body_withReturns isBlock begins, Text.trim_withReturns]

theorem cleanSuggestion_withReturns (raw : Text) :
    cleanSuggestion (withReturns raw) =
      if Text.trim (body raw) = refusalMarker then .error .refused
      else .ok (body (withReturns raw)) := by
  have unbroken : '\n' ∉ refusalMarker := by decide
  simp [cleanSuggestion_eq (withReturns raw), Text.withReturns_eq_iff unbroken]

@[simp]
theorem blank_body_withReturns (raw : Text) :
    Text.blank (body (withReturns raw)) = Text.blank (body raw) := by
  rw [← Text.blank_trim, trim_body_withReturns, Text.blank_withReturns,
    Text.blank_trim]

theorem carries_iff :
    Carries raw ↔
      Text.trim (body raw) ≠ refusalMarker ∧
        Text.blank (body raw) = false := by
  rw [Carries, cleanSuggestion_eq]
  split
  · next refused => simp [refused]
  · next accepted => simp [accepted]

/-! ## Lines -/

theorem body_subset (raw : Text) : body raw ⊆ raw := by
  by_cases fenced : fence <+: Text.trim raw
  · obtain ⟨rest, whole⟩ := fenced
    have inside : rest ⊆ raw := fun c member =>
      Text.trim_subset raw (whole ▸ List.mem_append_right fence member)
    have behind : afterFirstLine rest ⊆ rest := fun c member =>
      (List.dropWhile_suffix _).subset (List.mem_of_mem_drop member)
    have opened (text : Text) : withoutClosingFence text ⊆ text := by
      rw [withoutClosingFence]
      split
      · exact fun c member =>
          (Text.trimEnd_isPrefix text).subset (List.mem_of_mem_take member)
      · exact fun c => id
    rw [body_of_fence whole.symm, fencedBody]
    exact fun c member =>
      inside (behind (opened _ ((Text.dropEndWhile_prefix _ _).subset member)))
  · rw [body_of_plain fenced, plainBody_eq]
    exact fun c member =>
      (List.dropWhile_suffix _).subset ((Text.trimEnd_isPrefix _).subset member)

/-- Only blocks leave a carriage return behind that no line feed follows. -/
theorem exists_body_withReturns (plain : '\r' ∉ raw) (noBlock : ¬ IsBlock raw) :
    ∃ text, '\r' ∉ text ∧ body (withReturns raw) = withReturns text := by
  by_cases begins : BeginsWithFeed raw
  · refine ⟨Text.trimEnd raw, fun inside =>
      plain ?_, (body_withReturns_of_feed begins).2⟩
    exact (Text.trimEnd_isPrefix raw).subset inside
  · exact ⟨body raw, fun inside =>
      plain (body_subset raw inside), body_withReturns noBlock begins⟩

theorem getLast?_of_lines (plain : '\r' ∉ text) :
    ∀ line ∈ Text.lines text, line.getLast? ≠ some '\r' := fun _ member last =>
  plain (Text.mem_of_mem_lines member (List.mem_of_getLast? last))

theorem lines_body_withReturns_of_block (isBlock : IsBlock raw) :
    ∃ line ∈ Text.lines (body (withReturns raw)),
      line.getLast? = some '\r' := by
  obtain ⟨tag, text, unbroken, isBlock⟩ := isBlock
  obtain ⟨front, last, lines⟩ := Text.lines_concat_return (withReturns text)
  rw [(body_withReturns_of_block unbroken isBlock).2, lines]
  exact ⟨last ++ ['\r'], by simp, List.getLast?_concat⟩

theorem lines_body_withReturns_of_feed (plain : '\r' ∉ raw)
    (begins : BeginsWithFeed raw) (visible : Text.blank (body raw) = false) :
    Text.lines (body (withReturns raw)) ≠ Text.lines (body raw) := by
  obtain ⟨before, after⟩ := body_withReturns_of_feed begins
  obtain ⟨rest, rfl⟩ := List.head?_eq_some_iff.mp begins.2
  have plainBody : '\r' ∉ body ('\n' :: rest) :=
    fun inside => plain (body_subset _ inside)
  have longer : Text.trimEnd ('\n' :: rest) = '\n' :: Text.trimEnd rest := by
    refine Text.trimEnd_append (fun none => ?_) ['\n']
    rw [body_of_plain begins.1, blank_plainBody] at visible
    have blank : Text.blank rest = true := Text.trimEnd_eq_nil_iff.mp none
    exact Bool.eq_false_iff.mp visible blank
  rw [after, longer, Text.withReturns_feed, Text.lines_return_feed]
  cases shown : body ('\n' :: rest) with
  | nil =>
      rw [shown] at visible
      cases visible
  | cons c more =>
      have starts := List.head?_dropWhile_not isNewline ('\n' :: rest)
      obtain ⟨behind, whole⟩ :=
        Text.trimEnd_isPrefix (('\n' :: rest).dropWhile isNewline)
      rw [← before, shown] at whole
      rw [← whole] at starts
      have feed : c ≠ '\n' := beq_eq_false_iff_ne.mp starts
      have notReturn : c ≠ '\r' := by
        rintro rfl
        exact plainBody (by simp [shown])
      rw [Text.lines_cons feed notReturn]
      exact fun same => List.cons_ne_nil _ _ (List.cons.inj same).1.symm

theorem replacement_withReturns_iff (plain : '\r' ∉ raw) :
    Fix.replacement (body (withReturns raw)) = Fix.replacement (body raw) ↔
      Text.blank (body raw) = true ∨ ¬ (IsBlock raw ∨ BeginsWithFeed raw) := by
  have plainBody : '\r' ∉ body raw :=
    fun inside => plain (body_subset raw inside)
  simp only [Fix.replacement, blank_body_withReturns]
  split
  · next blank => simp [blank]
  · next visible =>
    rw [or_iff_right visible]
    constructor
    · rintro same (isBlock | begins)
      · obtain ⟨line, member, returns⟩ :=
          lines_body_withReturns_of_block isBlock
        rw [same] at member
        exact getLast?_of_lines plainBody line member returns
      · exact lines_body_withReturns_of_feed plain begins
          (Bool.eq_false_iff.mpr visible) same
    · intro neither
      obtain ⟨noBlock, noFeed⟩ := not_or.mp neither
      rw [body_withReturns noBlock noFeed, Text.lines_withReturns plainBody]

theorem lines_body_withReturns (plain : '\r' ∉ raw) :
    (∃ line ∈ Text.lines (body (withReturns raw)), line.getLast? = some '\r') ↔
      IsBlock raw := by
  constructor
  · rintro ⟨line, member, last⟩
    by_contra noBlock
    obtain ⟨text, plainText, same⟩ := exists_body_withReturns plain noBlock
    rw [same, Text.lines_withReturns plainText] at member
    exact getLast?_of_lines plainText line member last
  · exact lines_body_withReturns_of_block

/-- A carriage return gets to the end of a line exactly if a block brings the
line. -/
theorem return_inserted_iff (plain : '\r' ∉ raw) :
    (∃ suggestion, cleanSuggestion (withReturns raw) = .ok suggestion ∧
      ∃ line ∈ Fix.replacement suggestion, line.getLast? = some '\r') ↔
      Carries raw ∧ IsBlock raw := by
  rw [carries_iff, ← lines_body_withReturns plain, cleanSuggestion_withReturns]
  constructor
  · rintro ⟨suggestion, cleaned, line, member, last⟩
    split at cleaned
    · cases cleaned
    · next accepted =>
        cases cleaned
        rw [Fix.replacement] at member
        split at member
        · cases member
        · next visible =>
            rw [blank_body_withReturns, Bool.not_eq_true] at visible
            exact ⟨⟨accepted, visible⟩, line, member, last⟩
  · rintro ⟨⟨accepted, visible⟩, inserted⟩
    rw [if_neg accepted]
    refine ⟨_, rfl, ?_⟩
    rwa [Fix.replacement, blank_body_withReturns, visible,
      if_neg Bool.false_ne_true]

/-- A reply and the same reply with carriage returns are refused together. In
all other cases both do the same to every line of every buffer, unless the reply
carries a text, in a block or behind an empty line: then they always do
different things to it. The one thing that gets into the lines of a buffer is a
carriage return at the end of a line, and only blocks bring it there. -/
theorem returns_matter_iff (plain : '\r' ∉ raw) :
    (∀ fault, cleanSuggestion (withReturns raw) = .error fault ↔
      cleanSuggestion raw = .error fault) ∧
    (∀ (buffer : Buffer) (number : Nat),
      ((cleanSuggestion (withReturns raw)).map
        (Fix.applySuggestion · buffer number) =
          (cleanSuggestion raw).map (Fix.applySuggestion · buffer number) ↔
        buffer.line? number = none ∨
        ¬ (Carries raw ∧ (IsBlock raw ∨ BeginsWithFeed raw)))) ∧
    ((∃ suggestion, cleanSuggestion (withReturns raw) = .ok suggestion ∧
        ∃ line ∈ Fix.replacement suggestion, line.getLast? = some '\r') ↔
      Carries raw ∧ IsBlock raw) := by
  refine ⟨?refusals, ?outcomes, return_inserted_iff plain⟩
  case refusals =>
    intro fault
    rw [cleanSuggestion_withReturns, cleanSuggestion_eq]
    split
    · exact Iff.rfl
    · exact iff_of_false nofun nofun
  case outcomes =>
    intro buffer number
    rw [cleanSuggestion_withReturns, cleanSuggestion_eq, carries_iff]
    split
    · next refused => simp [refused]
    · next accepted =>
        simp only [map_ok, Except.ok.injEq]
        cases found : buffer.line? number with
        | none =>
            rw [Fix.applySuggestion_of_missing found,
              Fix.applySuggestion_of_missing found]
            simp
        | some current =>
            rw [Fix.applySuggestion_eq_iff found,
              replacement_withReturns_iff plain,
              or_iff_right (Option.some_ne_none current), not_and_or,
              not_and_or, or_iff_right (not_not.mpr accepted),
              Bool.not_eq_false]

/-- Two lines in a block. -/
def fencedLines : Text :=
  "```\nif x:\n    y = 1\n```".toList

theorem fencedLines_differ_with_returns :
    let buffer := Buffer.ofText "if x: y = 1\nz = 2\n".toList
    withReturns fencedLines = "```\r\nif x:\r\n    y = 1\r\n```".toList ∧
      (cleanSuggestion (withReturns fencedLines)).map
          (Fix.applySuggestion · buffer 1) ≠
        (cleanSuggestion fencedLines).map (Fix.applySuggestion · buffer 1) ∧
      ∃ suggestion, cleanSuggestion (withReturns fencedLines) = .ok suggestion ∧
        ∃ line ∈ Fix.replacement suggestion, line.getLast? = some '\r' := by
  intro buffer
  have unbroken : '\n' ∉ ([] : Text) := List.not_mem_nil
  have trimmed : Text.trim fencedLines =
      block [] "if x:\n    y = 1".toList := by decide
  have isBlock : IsBlock fencedLines := ⟨_, _, unbroken, trimmed⟩
  have carries : Carries fencedLines := by
    rw [carries_iff, (body_withReturns_of_block unbroken trimmed).1]
    decide
  have plain : '\r' ∉ fencedLines := by decide
  obtain ⟨-, outcomes, inserted⟩ := returns_matter_iff plain
  have there : buffer.line? 1 ≠ none := by decide
  refine ⟨by decide, fun same => ?_, inserted.mpr ⟨carries, isBlock⟩⟩
  rcases (outcomes buffer 1).mp same with missing | neither
  · exact there missing
  · exact neither ⟨carries, .inl isBlock⟩

end Reply

end LintMend
