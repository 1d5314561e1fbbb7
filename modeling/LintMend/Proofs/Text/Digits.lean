import Mathlib.Data.List.Basic
import Mathlib.Tactic.IntervalCases
import Mathlib.Tactic.Linarith
import Mathlib.Tactic.Ring
import LintMend.Text.Basic

/-!
# Digits

Runs of decimal digits and the numbers that they stand for. A number is written
with its digits alone, or with zeros in front of them; either way its digits add
up to it again.
-/

namespace LintMend.Text

/-- A run of decimal digits, and the number that it stands for. -/
structure Digits (text : Text) (n : Nat) : Prop where
  digits : ∀ c ∈ text, c.isDigit = true
  value : Nat.ofDigitChars 10 text 0 = n

/-- What comes behind a run of digits does not go on with it. -/
def EndsDigits (behind : Text) : Prop :=
  ∀ c ∈ behind.head?, c.isDigit = false

theorem endsDigits_cons {c : Char} (plain : c.isDigit = false) (rest : Text) :
    EndsDigits (c :: rest) := by
  simpa [EndsDigits] using plain

variable {text : Text} {n : Nat}

theorem takeWhile_isDigit {behind : Text}
    (digits : ∀ c ∈ text, c.isDigit = true) (ended : EndsDigits behind) :
    (text ++ behind).takeWhile Char.isDigit = text := by
  rw [List.takeWhile_append_of_pos digits]
  cases behind with
  | nil => simp
  | cons c rest => simp [ended c rfl]

theorem dropWhile_isDigit {behind : Text}
    (digits : ∀ c ∈ text, c.isDigit = true) (ended : EndsDigits behind) :
    (text ++ behind).dropWhile Char.isDigit = behind := by
  rw [List.dropWhile_append_of_pos digits]
  cases behind with
  | nil => rfl
  | cons c rest => simp [ended c rfl]

/-- The digits are added up from the left. -/
theorem foldl_digits (text : Text) (start : Nat) :
    text.foldl (fun n c => n * 10 + (c.toNat - 48)) start =
      Nat.ofDigitChars 10 text start := by
  simp only [Nat.ofDigitChars, Nat.mul_comm]
  rfl

theorem ofDigitChars_start (text : Text) (start : Nat) :
    Nat.ofDigitChars 10 text start = start * 10 ^ text.length +
      Nat.ofDigitChars 10 text 0 := by
  induction text generalizing start with
  | nil => simp
  | cons c rest induction =>
      rw [Nat.ofDigitChars_cons, Nat.ofDigitChars_cons, induction,
        induction (10 * 0 + _), List.length_cons, Nat.pow_succ]
      ring

theorem toNat_lt_of_isDigit {c : Char} (digit : c.isDigit = true) :
    c.toNat - 48 < 10 := by
  simp only [Char.isDigit, Bool.and_eq_true, decide_eq_true_eq] at digit
  have high : c.val.toNat ≤ 57 := digit.2
  have same : c.toNat = c.val.toNat := rfl
  omega

theorem isBlank_of_isDigit {c : Char} (digit : c.isDigit = true) :
    isBlank c = false := by
  simp only [Char.isDigit, Bool.and_eq_true, decide_eq_true_eq] at digit
  have low : 48 ≤ c.val.toNat := digit.1
  have high : c.val.toNat ≤ 57 := digit.2
  have same : c.toNat = c.val.toNat := rfl
  simp only [isBlank, same]
  interval_cases c.val.toNat <;> rfl

theorem ofDigitChars_lt (digits : ∀ c ∈ text, c.isDigit = true) :
    Nat.ofDigitChars 10 text 0 < 10 ^ text.length := by
  induction text with
  | nil => simp
  | cons c rest induction =>
      have first := toNat_lt_of_isDigit (digits c List.mem_cons_self)
      have later := induction fun d member =>
        digits d (List.mem_cons_of_mem c member)
      have zero : '0'.toNat = 48 := rfl
      rw [Nat.ofDigitChars_cons, ofDigitChars_start, List.length_cons,
        Nat.pow_succ, zero]
      nlinarith

theorem Digits.lt (run : Digits text n) : n < 10 ^ text.length :=
  run.value ▸ ofDigitChars_lt run.digits

theorem Digits.append {other : Text} {m : Nat} (first : Digits text n)
    (second : Digits other m) :
    Digits (text ++ other) (n * 10 ^ other.length + m) where
  digits c member :=
    (List.mem_append.mp member).elim (first.digits c) (second.digits c)
  value := by
    rw [Nat.ofDigitChars_append, first.value, ofDigitChars_start, second.value]

theorem digits_toDigits (n : Nat) : Digits (Nat.toDigits 10 n) n where
  digits _ member := Nat.isDigit_of_mem_toDigits (by decide) (by decide) member
  value := Nat.ofDigitChars_toDigits (by decide) (by decide)

theorem digits_zeros (count : Nat) : Digits (List.replicate count '0') 0 where
  digits c member := by
    rw [List.eq_of_mem_replicate member]
    rfl
  value := by simp

/-- A number is not written with a zero in front, unless it is zero. -/
theorem head_toDigits_ne {n : Nat} (positive : 0 < n) :
    (Nat.toDigits 10 n).head? ≠ some '0' := by
  induction n using Nat.strongRecOn with
  | ind n induction =>
      rw [Nat.toDigits_eq_if (by decide)]
      split
      next small =>
        interval_cases n <;> decide
      next large =>
        have front := induction (n / 10) (by omega) (by omega)
        rwa [List.head?_append_of_ne_nil _ Nat.toDigits_ne_nil]

end LintMend.Text
