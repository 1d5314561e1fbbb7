import LintMend.Proofs.Glob.Matching
import LintMend.Proofs.Path.Steps

/-!
# Patterns that go on below

A pattern that matches a directory also skips what is below it, if it ends in a
star, or if all of it but the stars in front stays within one step. In the first
case it matches everything that goes on behind the directory; in the second it
matches the last step of the directory, and the path below still takes that
step.
-/

namespace LintMend

namespace Glob

/-- The last token stands for any text. -/
def isOpen : Glob → Bool
  | [] => false
  | [token] => token.isStar
  | _ :: glob => isOpen glob

/-- No token may stand for a slash. -/
def staysInStep (glob : Glob) : Bool :=
  glob.all fun token => !token.isStar && !token.fits '/'

/-- What is below a directory that the pattern matches is skipped as well. -/
def isInherited (glob : Glob) : Bool :=
  glob.isOpen || staysInStep (glob.dropWhile GlobToken.isStar)

/-- An open pattern matches on. -/
theorem Matches.append {glob : Glob} {text : Text} (matched : glob.Matches text)
    (isOpen : glob.isOpen = true) (more : Text) :
    glob.Matches (text ++ more) := by
  induction matched with
  | nil => cases isOpen
  | @single token glob c rest fits behind induction =>
      cases glob with
      | nil =>
          rw [Glob.isOpen, GlobToken.isStar_of_fits fits] at isOpen
          cases isOpen
      | cons next glob => exact .single fits (induction isOpen)
  | @sequence glob rest front behind induction =>
      cases glob with
      | nil =>
          cases behind
          have all := Matches.sequence (front ++ [] ++ more) .nil
          rwa [List.append_nil] at all
      | cons next glob =>
          rw [List.append_assoc]
          exact .sequence front (induction isOpen)
  | @noSteps glob text behind induction =>
      cases glob with
      | nil =>
          cases behind
          exact .toEnd _ .nil
      | cons next glob => exact .noSteps (induction isOpen)
  | @steps glob rest front behind induction =>
      cases glob with
      | nil =>
          cases behind
          exact .toEnd _ .nil
      | cons next glob =>
          rw [List.append_assoc]
          exact .steps front (induction isOpen)
  | toEnd text behind => exact .toEnd _ behind

theorem Matches.slash_not_mem {glob : Glob} {text : Text}
    (matched : glob.Matches text)
    (stays : glob.staysInStep = true) : '/' ∉ text := by
  induction matched with
  | nil => exact List.not_mem_nil
  | single fits behind induction =>
      simp only [staysInStep, List.all_cons, Bool.and_eq_true,
        Bool.not_eq_true'] at stays
      rw [List.mem_cons, not_or]
      refine ⟨?_, induction stays.2⟩
      rintro rfl
      rw [stays.1.2] at fits
      cases fits
  | sequence | noSteps | steps | toEnd => cases stays

/-- Behind the stars in front, a pattern that stays in one step matches the last
one. -/
theorem Matches.afterLast {glob : Glob} {text : Text}
    (matched : glob.Matches text)
    (stays : staysInStep (glob.dropWhile GlobToken.isStar) = true) :
    glob.Matches (Text.afterLast '/' text) := by
  induction matched with
  | nil => exact .nil
  | @single token glob c rest fits behind induction =>
      rw [List.dropWhile_cons_of_neg (by simp [GlobToken.isStar_of_fits fits])]
        at stays
      have whole := Matches.single fits behind
      rwa [Text.afterLast_of_not_mem (whole.slash_not_mem stays)]
  | @sequence glob rest front behind induction =>
      have inner := induction stays
      obtain ⟨none, whole | ⟨before, cut⟩⟩ := Text.afterLast_spec '/' rest
      · rw [← whole] at none
        rw [Text.afterLast_append_of_not_mem none]
        exact .sequence _ behind
      · rw [cut, ← List.append_assoc, Text.afterLast_append,
          Text.afterLast_of_not_mem none]
        exact .sequence [] inner
  | noSteps behind induction => exact .noSteps (induction stays)
  | steps front behind induction =>
      rw [Text.afterLast_append]
      exact .noSteps (induction stays)
  | toEnd text behind => exact .toEnd _ behind

end Glob

end LintMend
