import LintMend.Proofs.Fix.Feeds
import LintMend.Run.Execute

/-!
# Fixes that are made change the buffer

A fix counts as made exactly if it leaves another buffer behind. Most fixes
write a line anew, and each has its own reason why that is not the old line: it
has one semicolon less, or is longer, or begins with another word, or is read as
another import. Nothing a refused fix does can be seen.
-/

namespace LintMend

variable {buffer fixed : Buffer} {number : Nat} {text : Text}

namespace Buffer

/-- Other texts in the place of a line make another buffer. -/
theorem Spliced.ne {texts : List Text}
    (spliced : buffer.Spliced number texts fixed)
    (found : buffer.line? number = some text) (other : texts ≠ [text]) :
    fixed ≠ buffer := by
  obtain ⟨front, line, behind, whole, rfl, rfl⟩ := lines_of_line? found
  intro same
  have lines :=
    congrArg Buffer.lines ((spliced.eq_of_lines whole).symm.trans same)
  rw [whole, List.append_assoc, List.append_cancel_left_eq] at lines
  have one : texts.map (fun text => (⟨text, line.ending⟩ : Line)) = [line] :=
    List.append_cancel_right (lines : _ = [line] ++ behind)
  apply other
  simpa [Function.comp_def] using congrArg (List.map Line.text) one

theorem setLine_ne (found : buffer.line? number = some text) {changed : Text}
    (other : changed ≠ text) : buffer.setLine number changed ≠ buffer :=
  (spliced_setLine found changed).ne found fun same =>
    other (List.singleton_inj.mp same)

theorem removeLine_ne (found : buffer.line? number = some text) :
    buffer.removeLine number ≠ buffer :=
  (spliced_removeLine found).ne found nofun

theorem spliceLine_ne (found : buffer.line? number = some text)
    {texts : List Text} (other : texts ≠ [text]) :
    buffer.spliceLine number texts ≠ buffer :=
  (spliced_spliceLine found texts).ne found other

end Buffer

namespace Fix

theorem changeCode_ne {change : Text → Text} {nothing : Refusal}
    (applied : changeCode change nothing buffer number = .ok fixed) :
    fixed ≠ buffer := by
  obtain ⟨text, code, comment, found, split, changed, rfl⟩ :=
    changeCode_eq_ok applied
  refine Buffer.setLine_ne found fun same => changed ?_
  exact List.append_cancel_right
    (same.trans (Scan.append_of_splitComment split).symm)

theorem stripTrailing_ne (applied : stripTrailing buffer number = .ok fixed) :
    fixed ≠ buffer := by
  obtain ⟨text, found, changed, rfl⟩ := stripTrailing_eq_ok applied
  exact Buffer.setLine_ne found changed

theorem endLastLine_ne (applied : endLastLine buffer = .ok fixed) :
    fixed ≠ buffer := by
  obtain ⟨unended, rfl⟩ := endLastLine_eq_ok applied
  intro same
  have ended : true = buffer.endsLine := congrArg Buffer.endsLine same
  rw [unended] at ended
  cases ended

theorem trimTail_ne (applied : trimTail buffer = .ok fixed) :
    fixed ≠ buffer := by
  obtain ⟨fewer, rfl⟩ := trimTail_eq_ok applied
  intro same
  have count := congrArg Buffer.lineCount same
  exact fewer count

theorem splitLine_ne (applied : splitLine buffer number = .ok fixed) :
    fixed ≠ buffer := by
  obtain ⟨text, code, comment, found, -, several, rfl⟩ :=
    splitLine_eq_ok applied
  refine Buffer.spliceLine_ne found fun one => ?_
  have count := congrArg List.length one
  rw [length_commentLast, List.length_singleton] at count
  omega

/-- The characters of the line that are no blanks get fewer. -/
theorem dropFinalSemicolon_ne
    (applied : dropFinalSemicolon buffer number = .ok fixed) :
    fixed ≠ buffer := by
  obtain ⟨text, code, comment, front, found, split, ended, rfl⟩ :=
    dropFinalSemicolon_eq_ok applied
  refine Buffer.setLine_ne found fun same => ?_
  have seen :=
    congrArg Text.visible (same.trans (Scan.append_of_splitComment split).symm)
  rw [Scan.visible_withComment, Text.visible_append,
    List.append_cancel_right_eq, Text.visible_trimEnd,
    ← Text.visible_trimEnd code, ended, Text.visible_append] at seen
  have kept := Text.dropEndWhile_prefix isSemicolon front
  have fewer : (Text.visible (Text.dropEndWhile isSemicolon front)).length ≤
      (Text.visible front).length :=
    (kept.filter fun c => !Text.isBlank c).length_le
  have count : (Text.visible front ++ [';']).length ≤
      (Text.visible front).length := by
    rw [seen] at fewer
    exact fewer
  simp at count

theorem letToConst_ne (applied : letToConst buffer number = .ok fixed) :
    fixed ≠ buffer := by
  obtain ⟨text, code, comment, rest, found, split, declared, -, rfl⟩ :=
    letToConst_eq_ok applied
  refine Buffer.setLine_ne found fun same => ?_
  have written := List.append_cancel_right
    (same.trans (Scan.append_of_splitComment split).symm)
  have start := Text.indent_append_trimStart code
  rw [trimStart_of_afterLet? declared] at start
  have keyword : "const".toList ++ rest = ['l', 'e', 't'] ++ rest := by
    apply List.append_cancel_left
    rw [← List.append_assoc]
    exact written.trans start.symm
  cases keyword

/-- A part of the trimmed code is too short for the line. -/
theorem dropExtraSemicolon_ne
    (applied : dropExtraSemicolon buffer number = .ok fixed) :
    fixed ≠ buffer := by
  obtain ⟨text, code, comment, found, split, rfl | ⟨kept, -, shorter, rfl⟩⟩ :=
    dropExtraSemicolon_eq_ok applied
  · exact Buffer.removeLine_ne found
  · refine Buffer.setLine_ne found fun same => ?_
    have whole : Text.trimEnd code ++
        (code.drop (Text.trimEnd code).length ++ comment) = text := by
      rw [← List.append_assoc,
        List.prefix_iff_eq_append.mp (Text.trimEnd_isPrefix code),
        Scan.append_of_splitComment split]
    have same := List.append_cancel_right (same.trans whole.symm)
    rw [same] at shorter
    exact Nat.lt_irrefl _ shorter

/-- What is written is read as another import, or not as an import. -/
theorem ImportEdit.ne {statement : Import} {items : List ImportItem}
    (edit : ImportEdit buffer number text statement items fixed)
    (found : buffer.line? number = some text)
    (read : Import.ofCode? (Text.trim (Scan.splitComment ['#'] text).1) =
      some statement)
    (fewer : items ⊆ statement.items) (other : items ≠ statement.items) :
    fixed ≠ buffer := by
  cases edit with
  | removed => exact Buffer.removeLine_ne found
  | passed =>
      refine Buffer.setLine_ne found fun same => ?_
      obtain ⟨c, rest, begins, keyword⟩ := begins_of_import read
      rw [← same, Text.trimStart_of_blank (Text.blank_indent text)] at begins
      obtain rfl : 'p' = c := (List.cons.inj begins).1
      rcases keyword with impossible | impossible <;> cases impossible
  | @shortened item items =>
      -- a line that is written the same would be read as the statement with all
      -- items
      refine Buffer.setLine_ne found fun same => other ?_
      have several : item :: items ≠ [] := List.cons_ne_nil item items
      have readable := Import.readable_of_ofCode? read
      have listed : ∀ one ∈ item :: items, one.Listed :=
        fun one member => readable.listed one (fewer member)
      have code := List.append_cancel_right
        (((importLine_eq text statement listed several).symm.trans same).trans
          (Scan.splitComment_append ['#'] text).symm)
      have again := Import.ofCode?_written readable fewer several
      rw [← trim_importCode text listed several,
        ← Text.trim_of_blank isBlank_of_mem_gap, code, read] at again
      exact congrArg Import.items (Option.some.inj again).symm

theorem dropImport_ne {keepPackageFiles : Bool} {path : Path} {message : Text}
    (applied : dropImport keepPackageFiles path message buffer number =
      .ok fixed) :
    fixed ≠ buffer := by
  obtain ⟨-, text, name, statement, index, found, -, read, place, edit⟩ :=
    dropImport_eq_ok_iff.mp applied
  refine edit.ne found (importOn_eq_ok read) List.eraseIdx_subset fun same => ?_
  have bound := (List.findIdx?_eq_some_iff_getElem.mp place).1
  have count := congrArg List.length same
  rw [List.length_eraseIdx_of_lt bound] at count
  omega

theorem apply_ne {fix : Fix} {keepPackageFiles : Bool} {issue : Issue}
    (applied : fix.apply keepPackageFiles issue buffer = .ok fixed) :
    fixed ≠ buffer := by
  cases fix with
  | removeUnusedImport => exact dropImport_ne applied
  | plainStringLiteral | noneIdentityComparison | boolIdentityComparison =>
      exact changeCode_ne applied
  | stripTrailingWhitespace => exact stripTrailing_ne applied
  | ensureFinalNewline => exact endLastLine_ne applied
  | trimTrailingBlankLines => exact trimTail_ne applied
  | splitStatements => exact splitLine_ne applied
  | removeUselessSemicolon => exact dropFinalSemicolon_ne applied
  | preferConst => exact letToConst_ne applied
  | removeExtraSemicolon => exact dropExtraSemicolon_ne applied

theorem applySuggestion_ne {suggestion : Text}
    (applied : applySuggestion suggestion buffer number = .ok fixed) :
    fixed ≠ buffer := by
  obtain ⟨text, texts, found, -, changed, rfl⟩ := applySuggestion_eq_ok applied
  exact Buffer.spliceLine_ne found changed

/-! ## Calls -/

/-- What a call tells and the buffer it leaves. The blank lines at the end of a
file are taken away before it is known whether there are any; all other fixes
decide first. -/
def call (keepPackageFiles : Bool) (issue : Issue) (buffer : Buffer) :
    Fix → Outcome × Buffer
  | trimTrailingBlankLines =>
    let trimmed := buffer.trimBlankTail
    if trimmed.lineCount = buffer.lineCount then
      (.skipped Refusal.noBlankTail.message, trimmed)
    else (.fixed, trimmed.setEndsLine true)
  | fix => Run.outcomeOf buffer (fix.apply keepPackageFiles issue buffer)

/-- Where no line goes, the blank tail is empty. -/
theorem trimBlankTail_eq_self
    (all : buffer.trimBlankTail.lineCount = buffer.lineCount) :
    buffer.trimBlankTail = buffer := by
  have same : Buffer.dropBlankTail buffer.lines = buffer.lines :=
    (dropBlankTail_isPrefix buffer.lines).eq_of_length all
  rw [Buffer.trimBlankTail, same]

/-- The buffer that a refused fix leaves is the one that a run goes on with. -/
theorem call_eq_outcomeOf (keepPackageFiles : Bool) (issue : Issue)
    (buffer : Buffer) (fix : Fix) :
    call keepPackageFiles issue buffer fix =
      Run.outcomeOf buffer (fix.apply keepPackageFiles issue buffer) := by
  cases fix with
  | trimTrailingBlankLines =>
      simp only [call, apply, trimTail]
      split
      · next all =>
          rw [trimBlankTail_eq_self all]
          rfl
      · rfl
  | _ => rfl

/-- The outcome tells whether the buffer has changed. -/
def Tells (buffer : Buffer) (called : Outcome × Buffer) : Prop :=
  (called.1 = .fixed ↔ called.2 ≠ buffer) ∧
  (called.1 ≠ .fixed → called.2 = buffer)

theorem tells_outcomeOf {result : Result}
    (changes : ∀ fixed, result = .ok fixed → fixed ≠ buffer) :
    Tells buffer (Run.outcomeOf buffer result) := by
  cases result with
  | ok fixed => exact ⟨iff_of_true rfl (changes fixed rfl), fun refused =>
    absurd rfl refused⟩
  | error refusal =>
      exact ⟨iff_of_false nofun fun changed => changed rfl, fun _ => rfl⟩

/-- A fix or a suggestion counts as made exactly if it leaves another buffer,
and one that is refused leaves the buffer as it was. -/
theorem call_tells (keepPackageFiles : Bool) (issue : Issue) (buffer : Buffer) :
    (∀ fix, Tells buffer (call keepPackageFiles issue buffer fix)) ∧
      ∀ number suggestion,
        Tells buffer
        (Run.outcomeOf buffer (applySuggestion suggestion buffer number)) := by
  constructor
  · intro fix
    rw [call_eq_outcomeOf]
    exact tells_outcomeOf fun fixed => apply_ne
  · intro number suggestion
    exact tells_outcomeOf fun fixed => applySuggestion_ne

end Fix

end LintMend
