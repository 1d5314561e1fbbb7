import Mathlib
import LintMend.Text.Basic
import LintMend.Text.Letter

/-!
# Letters and blanks

The letters from `A` to `Z` and from `a` to `z` are in the tables of word
characters, and no blank is.
-/

namespace LintMend.Text

variable {c : Char}

theorem range_of_isAlpha (letter : c.isAlpha = true) :
    (0x41 ≤ c.toNat ∧ c.toNat ≤ 0x5A) ∨ (0x61 ≤ c.toNat ∧ c.toNat ≤ 0x7A) := by
  simpa [Char.isAlpha, Char.isUpper, Char.isLower, UInt32.le_iff_toNat_le]
    using letter

theorem isAlphanumeric_of_isAlpha (letter : c.isAlpha = true) :
    isAlphanumeric c = true := by
  have table : alphabetic = (0x41, 0x5A) :: (0x61, 0x7A) :: alphabetic.drop 2 :=
    rfl
  rw [isAlphanumeric, Bool.or_eq_true, table]
  left
  rcases range_of_isAlpha letter with ⟨low, high⟩ | ⟨low, high⟩
  · rw [inRanges, if_neg (by omega), decide_eq_true high, Bool.true_or]
  · rw [inRanges, inRanges, if_neg (by omega), if_neg (by omega),
      decide_eq_true high, Bool.true_or, Bool.or_true]

theorem isBlank_of_isAlpha (letter : c.isAlpha = true) : isBlank c = false := by
  have range := range_of_isAlpha letter
  rw [Bool.eq_false_iff]
  intro blank
  simp only [isBlank, Bool.or_eq_true, Bool.and_eq_true, decide_eq_true_iff,
    beq_iff_eq] at blank
  omega

/-- The code points of the blanks. -/
def blanks : List Nat :=
  List.range' 9 5 ++ [0x20, 0x85, 0xA0, 0x1680] ++ List.range' 0x2000 11 ++
    [0x2028, 0x2029, 0x202F, 0x205F, 0x3000]

theorem mem_blanks (blank : isBlank c = true) : c.toNat ∈ blanks := by
  simp only [isBlank, Bool.or_eq_true, Bool.and_eq_true, decide_eq_true_iff,
    beq_iff_eq] at blank
  simp only [blanks, List.mem_append, List.mem_range'_1, List.mem_cons,
    List.not_mem_nil, or_false]
  omega

theorem isWord_of_isBlank (blank : isBlank c = true) : isWord c = false := by
  have apart : ∀ point ∈ blanks,
      (inRanges point alphabetic || inRanges point wordMarks) = false := by
    decide +kernel
  exact apart c.toNat (mem_blanks blank)

end LintMend.Text
