import LintMend.Proofs.Fix.Comparisons
import LintMend.Proofs.Fix.Feeds

/-!
# Fixes that are made a second time

A fix that edits a line or the end of the file in place leaves nothing behind
that it would edit again. For the comparisons that is a fact about what is
written next to what stays; the other fixes bring the place they edit into a
form that they refuse.
-/

namespace LintMend.Fix

variable {buffer fixed : Buffer} {number : Nat}

/-- What a fix that edits in place says where it finds nothing to edit. -/
def nothing? : Fix → Option Refusal
  | stripTrailingWhitespace => some .noTrailingWhitespace
  | ensureFinalNewline => some .endsWithNewline
  | trimTrailingBlankLines => some .noBlankTail
  | noneIdentityComparison => some .noNoneComparison
  | boolIdentityComparison => some .noBoolComparison
  | preferConst => some .notSingleLet
  | _ => none

/-- The words that a fix leaves no comparison by value to. -/
def comparedWords : Fix → List Text
  | noneIdentityComparison => ["None".toList]
  | boolIdentityComparison => ["True".toList, "False".toList]
  | _ => []

theorem stripTrailing_again
    (applied : stripTrailing buffer number = .ok fixed) :
    stripTrailing fixed number = .error .noTrailingWhitespace := by
  obtain ⟨text, found, -, rfl⟩ := stripTrailing_eq_ok applied
  have there := Buffer.line?_setLine found (Text.trimEnd text)
  simp [stripTrailing, lineOf_bind_eq there]

theorem endLastLine_again (applied : endLastLine buffer = .ok fixed) :
    endLastLine fixed = .error .endsWithNewline := by
  obtain ⟨-, rfl⟩ := endLastLine_eq_ok applied
  have ended : (buffer.setEndsLine true).endsLine = true := rfl
  rw [endLastLine, if_pos (.inr ended)]

theorem trimTail_again (applied : trimTail buffer = .ok fixed) :
    trimTail fixed = .error .noBlankTail := by
  obtain ⟨-, rfl⟩ := trimTail_eq_ok applied
  have same : (buffer.trimBlankTail.setEndsLine true).trimBlankTail.lineCount =
      (buffer.trimBlankTail.setEndsLine true).lineCount := by
    simp only [Buffer.lineCount, Buffer.trimBlankTail, Buffer.setEndsLine,
      Buffer.dropBlankTail_eq_rdropWhile, List.rdropWhile_idempotent]
  simp only [trimTail, if_pos same]

/-- A line that begins with another word declares nothing that could be
constant. -/
theorem letToConst_again (applied : letToConst buffer number = .ok fixed) :
    letToConst fixed number = .error .notSingleLet := by
  obtain ⟨text, code, comment, rest, found, -, -, -, rfl⟩ :=
    letToConst_eq_ok applied
  have there := Buffer.line?_setLine found
    (Text.indent code ++ "const".toList ++ rest ++ comment)
  revert there
  generalize whole : Text.indent code ++ "const".toList ++ rest ++
    comment = line
  intro there
  have refused : afterLet? (Scan.splitComment ['/', '/'] line).1 = none := by
    rw [Option.eq_none_iff_forall_ne_some]
    intro behind declared
    have start := trimStart_of_afterLet? declared
    have begins : Text.trimStart line = _ :=
      congrArg Text.trimStart (Scan.splitComment_append ['/', '/'] line).symm
    rw [Text.trimStart_append (by simp [start]), start, ← whole,
      List.append_assoc, List.append_assoc,
      Text.trimStart_of_blank (Text.blank_indent code)] at begins
    cases begins
  simp only [letToConst, lineOf_bind_eq there, refused]

/-- A fix that edits in place and is made has nothing to do when it is made
again. After a comparison is rewritten, no code of the line outside literals
compares the words by value, on either side. -/
theorem apply_again {fix : Fix} {refusal : Refusal}
    (inPlace : fix.nothing? = some refusal) {keepPackageFiles : Bool}
    {issue : Issue}
    (applied : fix.apply keepPackageFiles issue buffer = .ok fixed) :
    fix.apply keepPackageFiles issue fixed = .error refusal ∧
      (fix.comparedWords ≠ [] → ∃ line, fixed.line? issue.line = some line ∧
        ∀ run, .code run ∈ Scan.segments (Scan.splitComment ['#'] line).1 →
          ComparesNone fix.comparedWords run) := by
  cases fix with
  | stripTrailingWhitespace =>
      cases inPlace
      exact ⟨stripTrailing_again applied, fun some => absurd rfl some⟩
  | ensureFinalNewline =>
      cases inPlace
      exact ⟨endLastLine_again applied, fun some => absurd rfl some⟩
  | trimTrailingBlankLines =>
      cases inPlace
      exact ⟨trimTail_again applied, fun some => absurd rfl some⟩
  | preferConst =>
      cases inPlace
      exact ⟨letToConst_again applied, fun some => absurd rfl some⟩
  | noneIdentityComparison =>
      cases inPlace
      obtain ⟨refused, left⟩ := singletons_none.changeCode_again applied
      exact ⟨refused, fun _ => left⟩
  | boolIdentityComparison =>
      cases inPlace
      obtain ⟨refused, left⟩ := singletons_bool.changeCode_again applied
      exact ⟨refused, fun _ => left⟩
  | removeUnusedImport | plainStringLiteral | splitStatements
  | removeUselessSemicolon
  | removeExtraSemicolon => cases inPlace

/-- A word with a comparison on either side. -/
def comparedOnBothSides : Text :=
  "ok = x == None != y # z == None".toList

def comparedIssue : Issue :=
  { file := ⟨"a.py"⟩, line := 1, code := "E711", message := "",
    language := .python }

theorem comparedOnBothSides_again :
    ∃ fixed, noneIdentityComparison.apply true comparedIssue
        (.ofText (comparedOnBothSides ++ ['\n'])) = .ok fixed ∧
      fixed = .ofText "ok = x is None is not y # z == None\n".toList ∧
      noneIdentityComparison.apply true comparedIssue fixed =
        .error .noNoneComparison := by
  have applied : noneIdentityComparison.apply true comparedIssue
      (.ofText (comparedOnBothSides ++ ['\n'])) =
        .ok (.ofText "ok = x is None is not y # z == None\n".toList) := by cbv
  have inPlace : noneIdentityComparison.nothing? = some .noNoneComparison := rfl
  exact ⟨_, applied, rfl, (apply_again inPlace applied).1⟩

end LintMend.Fix
