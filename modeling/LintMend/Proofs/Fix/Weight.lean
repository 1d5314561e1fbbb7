import LintMend.Proofs.Fix.Comparisons
import LintMend.Proofs.Fix.Feeds
import LintMend.Proofs.Fix.Statements
import LintMend.Proofs.Text.Weight

/-!
# Fixes make lines lighter

A mechanical fix that takes away more than blanks leaves lines that weigh less
together than the line that its issue names. What it writes it has read there,
but for the words of an operator, a keyword or an empty block, and they weigh
less than what they stand for.
-/

namespace LintMend

open Text (weight weight_append weight_cons weight_nil Lighter)

variable {buffer fixed : Buffer} {number : Nat} {text : Text}

/-- The line gives way to lines that weigh less together. -/
def Buffer.Lightened (buffer : Buffer) (number : Nat) (fixed : Buffer) : Prop :=
  ∃ text texts, buffer.line? number = some text ∧
    buffer.Spliced number texts fixed ∧
    weight texts.flatten < weight text

theorem Buffer.lightened_setLine (found : buffer.line? number = some text)
    {changed : Text} (less : weight changed < weight text) :
    buffer.Lightened number (buffer.setLine number changed) :=
  ⟨text, [changed], found, spliced_setLine found changed, by simpa using less⟩

theorem Buffer.lightened_removeLine (found : buffer.line? number = some text)
    (some : 0 < weight text) :
    buffer.Lightened number (buffer.removeLine number) :=
  ⟨text, [], found, spliced_removeLine found, some⟩

theorem Scan.weight_splitComment {marker code comment : Text}
    (split : Scan.splitComment marker text = (code, comment)) :
    weight text = weight code + weight comment := by
  rw [← Scan.append_of_splitComment split, weight_append]

@[simp]
theorem Scan.weight_withComment (code comment : Text) :
    weight (Scan.withComment code comment) = weight code + weight comment := by
  rw [← weight_append]
  apply Text.weight_eq_of_visible
  rw [Scan.visible_withComment, Text.visible_append]

theorem Scan.lighter_mapUnquoted {change : Text → Text}
    (each : ∀ code, Lighter (change code) code) (text : Text) :
    Lighter (Scan.mapUnquoted change text) text := by
  have segments : Lighter (Scan.mapUnquoted change text)
      ((Scan.segments text).flatMap Scan.Segment.text) := by
    apply Lighter.flatMap
    intro segment _
    cases segment with
    | code code => exact each code
    | literal literal => exact .refl literal
  rwa [Scan.segments_text] at segments

namespace Fix

/-! ## Code that is changed -/

theorem changeCode_lightened {change : Text → Text} {nothing : Refusal}
    (each : ∀ code, Lighter (change code) code)
    (applied : changeCode change nothing buffer number = .ok fixed) :
    buffer.Lightened number fixed := by
  obtain ⟨text, code, comment, found, split, changed, rfl⟩ :=
    changeCode_eq_ok applied
  apply Buffer.lightened_setLine found
  have less := (each code).lt_of_ne changed
  rw [Scan.weight_splitComment split, weight_append]
  omega

theorem Equality.weight_identity (operator : Equality) :
    weight operator.identity < weight operator.sign := by
  cases operator <;> decide

section

variable {words : List Text} {read? : Option Char → Text → Option (Text × Text)}
  {before : Option Char} {out : Text}

/-- Where all that is written is lighter than what was read, the text gets
lighter. -/
theorem Replaced.lighter
    (less : ∀ {before text written behind},
      read? before text = some (written, behind) →
      weight (written ++ behind) < weight text)
    (replaced : Replaced read? before text out) : Lighter out text := by
  induction replaced with
  | nil => exact .refl []
  | @copied _ c _ _ _ _ induction => exact (Lighter.refl [c]).append induction
  | written _ read _ induction =>
      right
      have here := less read
      have behind := induction.le
      simp only [weight_append] at here ⊢
      omega

theorem rightSide?_lighter {written behind : Text}
    (read : rightSide? words before text = some (written, behind)) :
    weight (written ++ behind) < weight text := by
  obtain ⟨front, operator, blanks, word, rfl, -, -, -, -, rfl⟩ :=
    rightSide?_eq_some read
  have less := operator.weight_identity
  have space : Text.charWeight ' ' = 0 := rfl
  simp only [weight_append, weight_cons, weight_nil, space]
  omega

theorem leftSide?_lighter {written behind : Text}
    (read : leftSide? words before text = some (written, behind)) :
    weight (written ++ behind) < weight text := by
  obtain ⟨word, blanks, operator, later, rfl, -, -, -, -, rfl⟩ :=
    leftSide?_eq_some read
  have less := operator.weight_identity
  have space : Text.charWeight ' ' = 0 := rfl
  simp only [weight_append, weight_cons, weight_nil, space]
  omega

theorem lighter_identityComparisons (words : List Text) (code : Text) :
    Lighter (identityComparisons words code) code :=
  (((readsWords_leftSide words).replaced none _).lighter
    leftSide?_lighter).trans
    (((readsWords_rightSide words).replaced none code).lighter
      rightSide?_lighter)

end

theorem Token.lighter_plain (token : Token) :
    Lighter token.plain.text token.text := by
  cases token with
  | code code => exact .refl code
  | literal lead mark body =>
      rw [Token.plain]
      split
      · next plain =>
          right
          have some : 0 < weight lead := by
            rcases plain.2.1 with rfl | rfl <;> decide
          simp only [Token.text_literal, weight_append, weight_nil]
          omega
      · exact .refl _

theorem lighter_plainLiterals (code : Text) :
    Lighter (plainLiterals code) code := by
  have tokens :
      Lighter (plainLiterals code) ((tokens code).flatMap Token.text) := by
    rw [plainLiterals, List.flatMap_map]
    exact Lighter.flatMap fun token _ => token.lighter_plain
  rwa [tokens_text] at tokens

/-! ## Declarations -/

theorem letToConst_lightened (applied : letToConst buffer number = .ok fixed) :
    buffer.Lightened number fixed := by
  obtain ⟨text, code, comment, rest, found, split, declared, -, rfl⟩ :=
    letToConst_eq_ok applied
  apply Buffer.lightened_setLine found
  have keyword : weight "const".toList < weight ['l', 'e', 't'] := by decide
  have start := congrArg weight (Text.indent_append_trimStart code)
  rw [trimStart_of_afterLet? declared] at start
  simp only [weight_append] at start
  rw [Scan.weight_splitComment split]
  simp only [weight_append]
  omega

/-! ## Semicolons -/

theorem dropFinalSemicolon_lightened
    (applied : dropFinalSemicolon buffer number = .ok fixed) :
    buffer.Lightened number fixed := by
  obtain ⟨text, code, comment, front, found, split, ended, rfl⟩ :=
    dropFinalSemicolon_eq_ok applied
  apply Buffer.lightened_setLine found
  have kept :=
    Text.weight_le_of_prefix (Text.dropEndWhile_prefix isSemicolon front)
  have whole := congrArg weight ended
  have semicolon : Text.charWeight ';' = 1 := rfl
  rw [Text.weight_trimEnd] at whole
  rw [Scan.weight_withComment, Text.weight_trimEnd,
    Scan.weight_splitComment split, whole]
  simp only [weight_append, weight_cons, weight_nil, semicolon]
  omega

/-- Only a line with a semicolon is changed. -/
theorem semicolon_of_dropExtraSemicolon
    (found : buffer.line? number = some text)
    (applied : dropExtraSemicolon buffer number = .ok fixed) : ';' ∈ text := by
  apply Scan.code_subset ['/', '/'] text
  have inCode : ';' ∈ Text.trimEnd (Scan.splitComment ['/', '/'] text).1 →
      ';' ∈ (Scan.splitComment ['/', '/'] text).1 :=
    fun member => (Text.trimEnd_isPrefix _).subset member
  simp only [dropExtraSemicolon, lineOf_bind_eq found] at applied
  split at applied
  · next single => exact Text.trim_subset _ (by simp [single.1])
  · split at applied
    · next ends =>
        exact inCode ((List.isSuffixOf_iff_suffix.mp ends).subset (by simp))
    · split at applied
      · next ends =>
          exact inCode ((List.isSuffixOf_iff_suffix.mp ends).subset (by simp))
      · cases applied

theorem dropExtraSemicolon_lightened
    (applied : dropExtraSemicolon buffer number = .ok fixed) :
    buffer.Lightened number fixed := by
  obtain ⟨text, code, comment, found, split, rfl |
      ⟨kept, front, shorter, rfl⟩⟩ :=
    dropExtraSemicolon_eq_ok applied
  · have visible : Text.isBlank ';' = false := rfl
    exact Buffer.lightened_removeLine found
      (Text.weight_pos (semicolon_of_dropExtraSemicolon found applied) visible)
  · apply Buffer.lightened_setLine found
    have less :=
      Text.weight_lt_of_prefix (Text.trimEnd_trimEnd code) front shorter
    have whole := congrArg weight
      (List.prefix_iff_eq_append.mp (Text.trimEnd_isPrefix code))
    rw [Scan.weight_splitComment split]
    simp only [weight_append] at whole ⊢
    omega

/-! ## Statements -/

theorem weight_statements {indent : Text}
    (blank : ∀ c ∈ indent, Text.isBlank c = true) (code : Text) :
    weight (statements indent code).flatten =
      weight (Scan.splitTopLevel ';' ['#'] code).flatten := by
  rw [statements_eq, Text.weight_flatten, List.map_map]
  have unindented : weight ∘ (indent ++ ·) = weight := by
    funext piece
    simp [Text.weight_of_blank blank]
  have untrimmed : weight ∘ Text.trim = weight := funext Text.weight_trim
  rw [unindented, ← Text.weight_flatten, List.flatten_filter_ne_nil,
    Text.weight_flatten, List.map_map, untrimmed, Text.weight_flatten]

theorem weight_commentLast (comment : Text) {lines : List Text}
    (some : lines ≠ []) :
    weight (commentLast comment lines).flatten =
      weight lines.flatten + weight comment := by
  obtain ⟨front, last, rfl⟩ := (List.eq_nil_or_concat' lines).resolve_left some
  rw [commentLast_concat]
  simp [Nat.add_assoc]

/-- The semicolons between the statements are not written again. -/
theorem splitLine_lightened (applied : splitLine buffer number = .ok fixed) :
    buffer.Lightened number fixed := by
  obtain ⟨text, code, comment, found, split, several, rfl⟩ :=
    splitLine_eq_ok applied
  refine ⟨text, _, found, Buffer.spliced_spliceLine found _, ?_⟩
  have some : statements (Text.indent text) code ≠ [] := by
    rw [← List.length_pos_iff]
    omega
  have plain : Scan.isPlain ';' = true := rfl
  have unsigned := Scan.unsigned_splitComment ['#'] text
  rw [split] at unsigned
  have divides :
      Scan.Divides ';' .top code (Scan.splitTopLevel ';' ['#'] code) :=
    Scan.divides_splitTopLevel plain unsigned
  -- the code is its parts and one semicolon less than there are parts
  have whole := @Text.weight_intercalate [';'] _ divides.some
  have semicolon : weight [';'] = 1 := rfl
  rw [divides.whole, semicolon, Nat.mul_one] at whole
  have count : (statements (Text.indent text) code).length ≤
      (Scan.splitTopLevel ';' ['#'] code).length := by
    rw [statements_eq, List.length_map]
    exact (List.length_filter_le _ _).trans (Nat.le_of_eq (List.length_map _))
  rw [weight_commentLast comment some,
    weight_statements (Text.blank_indent text), Scan.weight_splitComment split]
  omega

/-! ## Imports -/

section

variable {code : Text} {statement : Import} {items : List ImportItem}

theorem ImportItem.flatten_list (text : Text) :
    ((ImportItem.list text).map ImportItem.text).flatten =
      ((text.splitOn ',').map Text.trim).flatten := by
  have same : ImportItem.text ∘ ImportItem.ofText = id :=
    funext ImportItem.ofText_text
  rw [ImportItem.list, List.map_map, same, List.map_id,
    List.flatten_filter_ne_nil]

/-- Commas part the items that are read. -/
theorem ImportItem.weight_list (text : Text) :
    weight ((ImportItem.list text).map ImportItem.text).flatten +
      (ImportItem.list text).length ≤
      weight text + 1 := by
  have whole := @Text.weight_intercalate [','] _ (List.splitOn_ne_nil ',' text)
  have comma : weight [','] = 1 := rfl
  rw [List.intercalate_splitOn, comma, Nat.mul_one,
    Text.weight_flatten] at whole
  have untrimmed : weight ∘ Text.trim = weight := funext Text.weight_trim
  have count : (ImportItem.list text).length ≤ (text.splitOn ',').length := by
    rw [ImportItem.list, List.length_map]
    exact (List.length_filter_le _ _).trans (Nat.le_of_eq (List.length_map _))
  rw [ImportItem.flatten_list, Text.weight_flatten, List.map_map, untrimmed]
  omega

theorem ImportItem.weight_joined (several : items ≠ []) :
    weight (ImportItem.joined items) + 1 =
      weight (items.map ImportItem.text).flatten + items.length := by
  have whole := @Text.weight_intercalate [',',
    ' '] (items.map ImportItem.text) (by simpa using several)
  have comma : weight [',', ' '] = 1 := rfl
  rwa [comma, Nat.mul_one, List.length_map] at whole

/-- Without one of the items, fewer are to be written and parted. -/
theorem weight_eraseIdx (items : List ImportItem) {index : Nat}
    (bound : index < items.length) :
    weight ((items.eraseIdx index).map ImportItem.text).flatten +
      (items.eraseIdx index).length <
      weight (items.map ImportItem.text).flatten + items.length := by
  have count := List.length_eraseIdx_of_lt bound
  have whole := List.eraseIdx_eq_take_drop_succ items index
  have same : items = items.take index ++ items[index] ::
      items.drop (index + 1) := by
    rw [← List.drop_eq_getElem_cons bound, List.take_append_drop]
  have weights :=
    congrArg (fun items => weight (items.map ImportItem.text).flatten) same
  simp only [List.map_append, List.map_cons, List.flatten_append,
    List.flatten_cons, weight_append] at weights
  rw [count, whole]
  simp only [List.map_append, List.flatten_append, weight_append]
  omega

theorem Import.weight_afterKeyword? {keyword rest : Text}
    (found : Import.afterKeyword? keyword text = some rest) :
    weight keyword + weight rest ≤ weight text := by
  obtain ⟨middle, after, blanks⟩ := Option.bind_eq_some_iff.mp found
  have behind := Text.weight_le_of_suffix (Import.afterBlanks?_suffix blanks)
  rw [Text.after?_eq_some.mp after, weight_append]
  omega

/-- A statement weighs no less than what it is written with. -/
theorem Import.weight_opening (read : Import.ofCode? code = some statement) :
    weight "import".toList ≤ weight statement.opening ∧
      weight statement.opening +
        weight (statement.items.map ImportItem.text).flatten +
        statement.items.length ≤ weight code + 1 := by
  rcases Option.or_eq_some_iff.mp read with found | ⟨-, found⟩
  · obtain ⟨rest, behind, list, from', blanks, keyword, rfl⟩ :=
      Import.ofFrom?_eq_some found
    have start := Import.weight_afterKeyword? from'
    have named := congrArg weight (List.prefix_iff_eq_append.mp
      (List.takeWhile_prefix (l := rest) fun c => !Text.isBlank c))
    have later := Text.weight_le_of_suffix (Import.afterBlanks?_suffix blanks)
    have last := Import.weight_afterKeyword? keyword
    have items := ImportItem.weight_list list
    have front : weight "from ".toList = weight "from".toList := rfl
    have middle : weight " import ".toList = weight "import".toList := rfl
    rw [weight_append] at named
    generalize rest.takeWhile (fun c => !Text.isBlank c) = module
      at named later ⊢
    have opening : weight (Import.opening { module := some module
                                            items := ImportItem.list list }) =
        weight "from".toList + weight module + weight "import".toList := by
      rw [← front, ← middle, ← weight_append, ← weight_append]
      rfl
    rw [opening]
    dsimp only
    omega
  · obtain ⟨list, keyword, rfl⟩ := Import.ofPlain?_eq_some found
    have start := Import.weight_afterKeyword? keyword
    have items := ImportItem.weight_list list
    have opening : weight
          (Import.opening { module := none, items := ImportItem.list list }) =
        weight "import".toList := rfl
    rw [opening]
    dsimp only
    omega

/-- The line loses a name at least, or all but a word that is shorter than its
keyword. -/
theorem ImportEdit.lightened {index : Nat}
    (edit : ImportEdit buffer number text statement
      (statement.items.eraseIdx index) fixed)
    (found : buffer.line? number = some text)
    (read : Import.ofCode? (Text.trim (Scan.splitComment ['#'] text).1) =
      some statement)
    (bound : index < statement.items.length) :
    buffer.Lightened number fixed := by
  obtain ⟨keyword, written⟩ := Import.weight_opening read
  have fewer := weight_eraseIdx statement.items bound
  have import' : weight "import".toList = 6 := rfl
  have code : weight (Scan.splitComment ['#'] text).1 +
      weight (Scan.splitComment ['#'] text).2 =
      weight text := by
    rw [← weight_append, Scan.splitComment_append]
  have indent := Text.weight_of_blank (Text.blank_indent text)
  rw [Text.weight_trim] at written
  generalize statement.items.eraseIdx index = items at edit fewer
  cases edit with
  | removed =>
      apply Buffer.lightened_removeLine found
      omega
  | passed =>
      apply Buffer.lightened_setLine found
      have pass : weight "pass".toList = 4 := rfl
      rw [weight_append, indent, pass]
      omega
  | @shortened item items =>
      apply Buffer.lightened_setLine found
      have joined := ImportItem.weight_joined (List.cons_ne_nil item items)
      rw [importLine, Scan.weight_withComment, importCode, weight_append,
        weight_append, indent]
      omega

theorem dropImport_lightened {keepPackageFiles : Bool} {path : Path}
    {message : Text}
    (applied : dropImport keepPackageFiles path message buffer number =
      .ok fixed) :
    buffer.Lightened number fixed := by
  obtain ⟨-, text, name, statement, index, found, -, read, place, edit⟩ :=
    dropImport_eq_ok_iff.mp applied
  exact edit.lightened found (importOn_eq_ok read)
    (List.findIdx?_eq_some_iff_getElem.mp place).1

/-- A fix that takes away more than blanks makes the line of its issue
lighter. -/
theorem apply_lightened {fix : Fix} (more : fix.isWhitespaceOnly = false)
    {keepPackageFiles : Bool} {issue : Issue}
    (applied : fix.apply keepPackageFiles issue buffer = .ok fixed) :
    buffer.Lightened issue.line fixed := by
  cases fix with
  | removeUnusedImport => exact dropImport_lightened applied
  | plainStringLiteral =>
      exact changeCode_lightened lighter_plainLiterals applied
  | splitStatements => exact splitLine_lightened applied
  | removeUselessSemicolon => exact dropFinalSemicolon_lightened applied
  | noneIdentityComparison | boolIdentityComparison =>
      exact changeCode_lightened
        (Scan.lighter_mapUnquoted (lighter_identityComparisons _)) applied
  | preferConst => exact letToConst_lightened applied
  | removeExtraSemicolon => exact dropExtraSemicolon_lightened applied
  | stripTrailingWhitespace | ensureFinalNewline | trimTrailingBlankLines =>
      cases more

end

end Fix

end LintMend
