import LintMend.Proofs.Fix.Imports
import LintMend.Proofs.Fix.Tidying
import LintMend.Proofs.Fix.Tokens

/-!
# No fix breaks a line

A fix writes its lines with characters of the line it replaces and a few of its
own, and none of these is a line feed; a suggestion is cut at its line feeds. So
a buffer whose lines hold no line feed stays such a buffer, and what is written
of it has a line for each of its lines.
-/

namespace LintMend

variable {buffer fixed : Buffer} {number : Nat} {text : Text}

/-! ## Buffers -/

namespace Buffer

theorem Whole.not_mem (whole : buffer.Whole)
    (found : buffer.line? number = some text) :
    '\n' ∉ text := by
  obtain ⟨-, -, -, line, there, rfl⟩ := line?_eq_some found
  exact whole.plain line (List.mem_of_getElem? there)

/-- Lines that take the place of a line hold no line feed if their texts do
not. -/
theorem Spliced.whole {texts : List Text}
    (spliced : buffer.Spliced number texts fixed)
    (plain : ∀ text ∈ texts, '\n' ∉ text)
    (whole : buffer.Whole) : fixed.Whole := by
  obtain ⟨start, inside, line, -, rfl⟩ := spliced
  refine ⟨?_, whole.ended⟩
  intro other member
  simp only [splice_of_inside start inside, List.mem_append] at member
  rcases member with (before | written) | behind
  · exact whole.plain other (List.mem_of_mem_take before)
  · obtain ⟨text, inside, rfl⟩ := List.mem_map.mp written
    exact plain text inside
  · exact whole.plain other (List.mem_of_mem_drop behind)

theorem Whole.setLine (whole : buffer.Whole)
    (found : buffer.line? number = some text) {changed : Text}
    (plain : '\n' ∉ changed) : (buffer.setLine number changed).buffer.Whole :=
  (spliced_setLine found changed).whole (by simpa using plain) whole

theorem Whole.removeLine (whole : buffer.Whole)
    (found : buffer.line? number = some text) :
    (buffer.removeLine number).buffer.Whole :=
  (spliced_removeLine found).whole (by simp) whole

theorem Whole.spliceLine (whole : buffer.Whole)
    (found : buffer.line? number = some text) {texts : List Text}
    (plain : ∀ text ∈ texts, '\n' ∉ text) :
    (buffer.spliceLine number texts).buffer.Whole :=
  (spliced_spliceLine found texts).whole plain whole

end Buffer

/-! ## What the fixes write -/

theorem Scan.not_mem_mapUnquoted {change : Text → Text}
    (keeps : ∀ code, '\n' ∉ code → '\n' ∉ change code) (plain : '\n' ∉ text) :
    '\n' ∉ mapUnquoted change text := by
  intro feed
  obtain ⟨segment, member, inside⟩ := List.mem_flatMap.mp feed
  have whole : '\n' ∉ segment.text :=
    fun feed => plain (segment_subset member feed)
  cases segment with
  | code code => exact keeps code whole inside
  | literal literal => exact whole inside

theorem Scan.not_mem_withComment {code comment : Text} (codePlain : '\n' ∉ code)
    (commentPlain : '\n' ∉ comment) : '\n' ∉ withComment code comment := by
  have trimmed : '\n' ∉ Text.trimEnd code :=
    fun feed => codePlain ((Text.trimEnd_isPrefix code).subset feed)
  unfold withComment
  split
  · exact codePlain
  · split <;> simp [codePlain, commentPlain, trimmed]

namespace Fix

/-- The parts that a fix takes a line apart into. -/
theorem not_mem_parts {marker code comment : Text}
    (split : Scan.splitComment marker text = (code, comment))
    (plain : '\n' ∉ text) :
    '\n' ∉ Text.indent text ∧ '\n' ∉ code ∧ '\n' ∉ comment := by
  refine ⟨fun feed => plain ((List.takeWhile_prefix _).subset feed), ?_⟩
  rw [← Scan.append_of_splitComment split, List.mem_append, not_or] at plain
  exact plain

/-! Comparisons -/

theorem not_mem_identityComparisons (singletons : List Text)
    (plain : '\n' ∉ text) :
    '\n' ∉ identityComparisons singletons text := by
  have sign (operator : Equality) : '\n' ∉ operator.identity := by
    cases operator <;> decide
  have kept : ∀ c ∈ identityComparisons singletons text, c ≠ '\n' :=
    forall_mem_identityComparisons singletons (by decide)
      (fun operator c member same => sign operator (same ▸ member))
      fun c member same => plain (same ▸ member)
  exact fun feed => kept '\n' feed rfl

/-! Literals -/

theorem Token.plain_subset (token : Token) : token.plain.text ⊆ token.text := by
  cases token with
  | code code => exact List.Subset.refl _
  | literal lead mark body =>
      rw [Token.plain]
      split
      · intro c member
        simp only [Token.text_literal, List.append_assoc, List.nil_append]
          at member ⊢
        exact List.mem_append_right _ member
      · exact List.Subset.refl _

theorem not_mem_plainLiterals (plain : '\n' ∉ text) :
    '\n' ∉ plainLiterals text := by
  intro feed
  obtain ⟨changed, inside, feed⟩ := List.mem_flatMap.mp feed
  obtain ⟨token, member, rfl⟩ := List.mem_map.mp inside
  apply plain
  rw [← tokens_text text]
  exact List.mem_flatMap.mpr ⟨token, member, token.plain_subset feed⟩

/-! Statements -/

theorem not_mem_statements {indent code : Text} (indentPlain : '\n' ∉ indent)
    (plain : '\n' ∉ code) : ∀ line ∈ statements indent code, '\n' ∉ line := by
  intro line member
  obtain ⟨piece, inside, kept⟩ := List.mem_filterMap.mp member
  obtain ⟨whole, cut, rfl⟩ := List.mem_map.mp inside
  split at kept
  · cases kept
  · cases kept
    rw [List.mem_append, not_or]
    refine ⟨indentPlain, fun feed => plain ?_⟩
    exact Scan.splitTopLevel_subset ';' ['#'] code whole cut
      (Text.trim_subset whole feed)

theorem not_mem_commentLast {comment : Text} (commentPlain : '\n' ∉ comment)
    {lines : List Text} (plain : ∀ line ∈ lines, '\n' ∉ line) :
    ∀ line ∈ commentLast comment lines, '\n' ∉ line := by
  induction lines with
  | nil => exact plain
  | cons line lines induction =>
      obtain ⟨here, behind⟩ := List.forall_mem_cons.mp plain
      cases lines with
      | nil =>
          simpa [commentLast] using Scan.not_mem_withComment here commentPlain
      | cons next lines =>
          exact List.forall_mem_cons.mpr ⟨here, induction behind⟩

/-! Declarations -/

theorem trimStart_of_afterLet? {code rest : Text}
    (declared : afterLet? code = some rest) :
    Text.trimStart code = ['l', 'e', 't'] ++ rest := by
  unfold afterLet? at declared
  split at declared
  · next after =>
      split at declared
      · cases declared
        exact Text.after?_eq_some.mp after
      · cases declared
  · cases declared

theorem afterLet?_suffix {code rest : Text}
    (declared : afterLet? code = some rest) :
    rest <:+ code := by
  have behind := List.suffix_append ['l', 'e', 't'] rest
  rw [← trimStart_of_afterLet? declared] at behind
  exact behind.trans (List.dropWhile_suffix _)

/-! Imports -/

theorem not_mem_importCode {statement : Import} {items : List ImportItem}
    {code : Text} (indentPlain : '\n' ∉ Text.indent text)
    (codePlain : '\n' ∉ code) (read : Import.ofCode? code = some statement)
    (fewer : items ⊆ statement.items) :
    '\n' ∉ importCode text statement items := by
  have keywords : '\n' ∉ "from import, ".toList := by decide
  rw [importCode, List.append_assoc]
  refine List.not_mem_append indentPlain fun feed => ?_
  rcases List.mem_append.mp (Import.written_subset read fewer feed) with
    own | old
  · exact keywords own
  · exact codePlain old

/-! ## Fixes -/

theorem changeCode_whole {change : Text → Text}
    (keeps : ∀ code, '\n' ∉ code → '\n' ∉ change code) {nothing : Refusal}
    (whole : buffer.Whole)
    (applied : changeCode change nothing buffer number = .ok fixed) :
    fixed.Whole := by
  obtain ⟨text, code, comment, found, split, -, rfl⟩ := changeCode_eq_ok applied
  obtain ⟨-, codePlain, commentPlain⟩ :=
    not_mem_parts split (whole.not_mem found)
  exact whole.setLine found
    (List.not_mem_append (keeps code codePlain) commentPlain)

theorem stripTrailing_whole (whole : buffer.Whole)
    (applied : stripTrailing buffer number = .ok fixed) : fixed.Whole := by
  obtain ⟨text, found, -, rfl⟩ := stripTrailing_eq_ok applied
  apply whole.setLine found
  exact fun feed =>
    whole.not_mem found ((Text.trimEnd_isPrefix text).subset feed)

theorem splitLine_whole (whole : buffer.Whole)
    (applied : splitLine buffer number = .ok fixed) :
    fixed.Whole := by
  obtain ⟨text, code, comment, found, split, -, rfl⟩ := splitLine_eq_ok applied
  obtain ⟨indentPlain, codePlain, commentPlain⟩ :=
    not_mem_parts split (whole.not_mem found)
  exact whole.spliceLine found
    (not_mem_commentLast commentPlain
      (not_mem_statements indentPlain codePlain))

theorem dropFinalSemicolon_whole (whole : buffer.Whole)
    (applied : dropFinalSemicolon buffer number = .ok fixed) : fixed.Whole := by
  obtain ⟨text, code, comment, front, found, split, ended, rfl⟩ :=
    dropFinalSemicolon_eq_ok applied
  obtain ⟨-, codePlain, commentPlain⟩ :=
    not_mem_parts split (whole.not_mem found)
  refine whole.setLine found
    (Scan.not_mem_withComment (fun feed => codePlain ?_) commentPlain)
  have kept := (Text.dropEndWhile_prefix isSemicolon front).subset
    ((Text.trimEnd_isPrefix _).subset feed)
  apply (Text.trimEnd_isPrefix code).subset
  rw [ended]
  exact List.mem_append_left _ kept

theorem letToConst_whole (whole : buffer.Whole)
    (applied : letToConst buffer number = .ok fixed) :
    fixed.Whole := by
  obtain ⟨text, code, comment, rest, found, split, declared, -, rfl⟩ :=
    letToConst_eq_ok applied
  obtain ⟨-, codePlain, commentPlain⟩ :=
    not_mem_parts split (whole.not_mem found)
  have restPlain : '\n' ∉ rest :=
    fun feed => codePlain ((afterLet?_suffix declared).subset feed)
  have indentPlain : '\n' ∉ Text.indent code :=
    fun feed => codePlain ((List.takeWhile_prefix _).subset feed)
  have word : '\n' ∉ "const".toList := by decide
  exact whole.setLine found (List.not_mem_append
    (List.not_mem_append (List.not_mem_append indentPlain word) restPlain)
    commentPlain)

theorem dropExtraSemicolon_whole (whole : buffer.Whole)
    (applied : dropExtraSemicolon buffer number = .ok fixed) : fixed.Whole := by
  obtain ⟨text, code, comment, found, split, rfl | ⟨kept, front, -, rfl⟩⟩ :=
    dropExtraSemicolon_eq_ok applied
  · exact whole.removeLine found
  · obtain ⟨-, codePlain, commentPlain⟩ :=
      not_mem_parts split (whole.not_mem found)
    have keptPlain : '\n' ∉ kept :=
      fun feed =>
        codePlain ((Text.trimEnd_isPrefix code).subset (front.subset feed))
    have behindPlain : '\n' ∉ code.drop (Text.trimEnd code).length :=
      fun feed => codePlain (List.mem_of_mem_drop feed)
    exact whole.setLine found
      (List.not_mem_append keptPlain
        (List.not_mem_append behindPlain commentPlain))

theorem dropImport_whole {keepPackageFiles : Bool} {path : Path}
    {message : Text} (whole : buffer.Whole)
    (applied : dropImport keepPackageFiles path message buffer number =
      .ok fixed) :
    fixed.Whole := by
  obtain ⟨-, text, _, statement, index, found, -, read, -, edit⟩ :=
    dropImport_eq_ok_iff.mp applied
  have split : Scan.splitComment ['#'] text =
      ((Scan.splitComment ['#'] text).1, (Scan.splitComment ['#'] text).2) :=
    rfl
  obtain ⟨indentPlain, codePlain, commentPlain⟩ :=
    not_mem_parts split (whole.not_mem found)
  have fewer : statement.items.eraseIdx index ⊆ statement.items :=
    List.eraseIdx_subset
  generalize statement.items.eraseIdx index = items at edit fewer
  cases edit with
  | removed => exact whole.removeLine found
  | passed =>
      have word : '\n' ∉ "pass".toList := by decide
      exact whole.setLine found (List.not_mem_append indentPlain word)
  | shortened =>
      have trimmed : '\n' ∉ Text.trim (Scan.splitComment ['#'] text).1 :=
        fun feed => codePlain (Text.trim_subset _ feed)
      have code :=
        not_mem_importCode indentPlain trimmed (importOn_eq_ok read) fewer
      exact whole.setLine found (Scan.not_mem_withComment code commentPlain)

theorem dropBlankTail_isPrefix (lines : List Line) :
    Buffer.dropBlankTail lines <+: lines := by
  rw [Buffer.dropBlankTail_eq_rdropWhile]
  exact List.rdropWhile_prefix Line.isBlank lines

/-- A fix that is made leaves no line feed in a line. -/
theorem apply_whole {fix : Fix} {keepPackageFiles : Bool} {issue : Issue}
    (whole : buffer.Whole)
    (applied : fix.apply keepPackageFiles issue buffer = .ok fixed) :
    fixed.Whole := by
  cases fix with
  | removeUnusedImport => exact dropImport_whole whole applied
  | removeExtraSemicolon => exact dropExtraSemicolon_whole whole applied
  | splitStatements => exact splitLine_whole whole applied
  | plainStringLiteral =>
      exact changeCode_whole (fun _ => not_mem_plainLiterals) whole applied
  | noneIdentityComparison | boolIdentityComparison =>
      exact changeCode_whole
        (fun _ => Scan.not_mem_mapUnquoted fun _ =>
          not_mem_identityComparisons _) whole applied
  | removeUselessSemicolon => exact dropFinalSemicolon_whole whole applied
  | preferConst => exact letToConst_whole whole applied
  | stripTrailingWhitespace => exact stripTrailing_whole whole applied
  | ensureFinalNewline =>
      obtain ⟨-, rfl⟩ := endLastLine_eq_ok applied
      exact ⟨whole.plain, whole.ended⟩
  | trimTrailingBlankLines =>
      obtain ⟨-, rfl⟩ := trimTail_eq_ok applied
      refine ⟨fun line member => ?_, whole.ended⟩
      exact whole.plain line
        ((dropBlankTail_isPrefix buffer.lines).subset member)

/-- A suggestion is cut into lines before it is written, and they are not the
old line. -/
theorem applySuggestion_eq_ok {suggestion : Text}
    (applied : applySuggestion suggestion buffer number = .ok fixed) :
    ∃ text texts, buffer.line? number = some text ∧
      (∀ text ∈ texts, '\n' ∉ text) ∧
      texts ≠ [text] ∧ fixed = buffer.spliceLine number texts := by
  obtain ⟨text, found, applied⟩ := lineOf_bind applied
  have plain :
      ∀ line ∈ if Text.blank suggestion then [] else Text.lines suggestion,
      '\n' ∉ line := by
    split
    · simp
    · exact List.forall_mem_map.mpr Line.not_mem_of_mem_ofText
  simp only at applied
  generalize (if Text.blank suggestion then [] else Text.lines suggestion) =
    texts at applied plain
  split at applied
  · cases applied
  · next changed =>
      cases applied
      exact ⟨text, texts, found, plain, changed, rfl⟩

theorem applySuggestion_spliced {suggestion : Text}
    (applied : applySuggestion suggestion buffer number = .ok fixed) :
    ∃ texts, (∀ text ∈ texts, '\n' ∉ text) ∧
      buffer.Spliced number texts fixed := by
  obtain ⟨text, texts, found, plain, -, rfl⟩ := applySuggestion_eq_ok applied
  exact ⟨texts, plain, Buffer.spliced_spliceLine found texts⟩

end Fix

end LintMend
