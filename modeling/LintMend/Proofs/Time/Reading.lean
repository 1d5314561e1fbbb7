import Mathlib.Data.List.TakeWhile
import Mathlib.Tactic.IntervalCases
import LintMend.Proofs.Except
import LintMend.Proofs.Text.Digits
import LintMend.Proofs.Text.Trim
import LintMend.Proofs.Time.Calendar

/-!
# Instants read back

An instant of the calendar is read back from the text that it is written as, to
the nanosecond and in a leap second too. Whatever text is read as an instant,
the instant lies in the calendar.
-/

namespace LintMend.Instant

/-- An instant within the years of the calendar, whose nanoseconds run on only
in the last second of a minute. -/
structure Valid (instant : Instant) : Prop where
  inYears : isYear (dateOf (instant.second.fdiv secondsPerDay)).1 = true
  inSecond : instant.nano < 2 * nanosPerSecond
  atMinute : instant.isLeap = true → instant.clock % 60 = 59

/-! ## Numbers -/

section

variable {digits : Text} {n : Nat}

theorem number_digits (most : Nat) (rest : Text) (run : Text.Digits digits n)
    (some : digits ≠ [])
    (fits : digits.length ≤ most)
    (ended : digits.length = most ∨ Text.EndsDigits rest) :
    number most (digits ++ rest) = .ok (n, rest) := by
  have taken : ((digits ++ rest).takeWhile Char.isDigit).take most =
      digits := by
    rcases ended with full | ended
    · rw [List.takeWhile_append_of_pos run.digits,
        List.take_append_of_le_length (by omega), List.take_of_length_le fits]
    · rw [Text.takeWhile_isDigit run.digits ended, List.take_of_length_le fits]
  have shown : (digits ++ rest).isEmpty = false := by simp [some]
  simp [number, taken, shown, List.isEmpty_eq_false_iff.mpr some,
    Text.foldl_digits, run.value]

theorem isDigit_head {c : Char} {rest behind : Text}
    (run : Text.Digits digits n) (some : digits ≠ [])
    (same : digits ++ rest = c :: behind) : c.isDigit = true := by
  obtain ⟨first, digits, rfl⟩ := List.exists_cons_of_ne_nil some
  obtain rfl : first = c := (List.cons.inj same).1
  exact run.digits first List.mem_cons_self

theorem trimStart_digits (run : Text.Digits digits n) (some : digits ≠ [])
    (rest : Text) :
    Text.trimStart (digits ++ rest) = digits ++ rest := by
  obtain ⟨c, digits, rfl⟩ := List.exists_cons_of_ne_nil some
  exact Text.trimStart_cons
    (Text.isBlank_of_isDigit (run.digits c List.mem_cons_self)) _

theorem digits_padded (width n : Nat) :
    Text.Digits (padded width n).toList n := by
  have digits := (Text.digits_zeros (width - (Nat.toDigits 10 n).length)).append
    (Text.digits_toDigits n)
  rw [Nat.zero_mul, Nat.zero_add] at digits
  simpa [padded, ← String.length_toList] using digits

theorem length_padded {width n : Nat} (some : 0 < width)
    (small : n < 10 ^ width) :
    (padded width n).toList.length = width := by
  have short := (Nat.length_toDigits_le_iff (by decide : 1 < 10) some).mpr small
  simp [padded, ← String.length_toList]
  omega

theorem padded_ne_nil (width n : Nat) : (padded width n).toList ≠ [] := by
  simp [padded]

/-- A number of two digits, of which nothing but the range is asked. -/
theorem field_padded (low high : Nat) (inside : low ≤ n ∧ n ≤ high)
    (small : high < 100) (rest : Text) :
    field low high ((padded 2 n).toList ++ rest) = .ok (n, rest) := by
  have length : (padded 2 n).toList.length = 2 :=
    length_padded (by decide) (show n < 10 ^ 2 by omega)
  rw [field, trimStart_digits (digits_padded 2 n) (padded_ne_nil 2 n),
    number_digits 2 rest (digits_padded 2 n) (padded_ne_nil 2 n) length.le
      (.inl length)]
  exact if_pos inside

end

theorem mark_cons {c : Char} (plain : Text.isBlank c = false) (rest : Text) :
    mark c (c :: rest) = .ok rest := by
  rw [mark, Text.trimStart_cons plain]
  exact if_pos rfl

/-! ## Years -/

theorem yearText_cases (y : Int) :
    (0 ≤ y ∧ y ≤ 9999 ∧ (yearText y).toList = (padded 4 y.natAbs).toList) ∨
      (yearText y).toList = (if y < 0 then '-' else '+') ::
        (padded 4 y.natAbs).toList := by
  unfold yearText
  split
  next short =>
    rw [show y.toNat = y.natAbs by omega]
    exact .inl ⟨short.1, short.2, rfl⟩
  next =>
    right
    by_cases negative : y < 0 <;> simp [negative]

theorem isYear_iff {y : Int} : isYear y = true ↔ minYear ≤ y ∧ y ≤ maxYear := by
  simp [isYear]

theorem readableYear_of_isYear {y : Int} (inYears : isYear y = true) :
    readableYear y = .ok y := by
  have bounds := isYear_iff.mp inYears
  have limit : (twoTo 31 : Int) = 2147483648 := rfl
  simp only [minYear, maxYear] at bounds
  exact if_pos (by omega)

theorem year_yearText {y : Int} (inYears : isYear y = true) (rest : Text) :
    year ((yearText y).toList ++ '-' :: rest) = .ok (y, '-' :: rest) := by
  have readable := readableYear_of_isYear inYears
  have digits := digits_padded 4 y.natAbs
  have some := padded_ne_nil 4 y.natAbs
  rcases yearText_cases y with ⟨low, high, text⟩ | text
  · have length : (padded 4 y.natAbs).toList.length = 4 :=
      length_padded (by decide) (show y.natAbs < 10 ^ 4 by omega)
    have number :=
      number_digits 4 ('-' :: rest) digits some length.le (.inl length)
    rw [text, year, trimStart_digits digits some]
    split
    next same => exact absurd (isDigit_head digits some same) (by decide)
    next same => exact absurd (isDigit_head digits some same) (by decide)
    next =>
      simp only [number, map_ok, ok_bind, show (y.natAbs : Int) = y by omega,
        readable]
      rfl
  · have number :=
      number_digits ((padded 4 y.natAbs).toList ++ '-' :: rest).length
      ('-' :: rest) digits some (by simp) (.inr (Text.endsDigits_cons rfl _))
    by_cases negative : y < 0
    · rw [text, if_pos negative, year, List.cons_append,
        Text.trimStart_cons rfl]
      simp only [number, map_ok, ok_bind, show -(y.natAbs : Int) = y by omega,
        readable]
      rfl
    · rw [text, if_neg negative, year, List.cons_append,
        Text.trimStart_cons rfl]
      simp only [number, map_ok, ok_bind, show (y.natAbs : Int) = y by omega,
        readable]
      rfl

/-! ## Fractions -/

/-- A fraction of some digits is filled up to nine. -/
theorem fraction_digits {digits : Text} {n : Nat} {rest : Text}
    (run : Text.Digits digits n) (some : digits ≠ []) (fits : digits.length ≤ 9)
    (ended : Text.EndsDigits rest) :
    fraction ('.' :: (digits ++ rest)) =
      .ok (n * 10 ^ (9 - digits.length), rest) := by
  have filled : (digits ++ List.replicate 9 '0').take 9 =
      digits ++ List.replicate (9 - digits.length) '0' := by
    rw [List.take_append, List.take_of_length_le fits, List.take_replicate,
      Nat.min_eq_left (by omega)]
  have value := (run.append (Text.digits_zeros (9 - digits.length))).value
  rw [List.length_replicate, Nat.add_zero] at value
  simp only [fraction, number_digits 9 rest run some fits (.inr ended), ok_bind,
    Text.takeWhile_isDigit run.digits ended, filled, Text.foldl_digits, value,
    List.drop_left]
  rfl

theorem fraction_fractionText {nano : Nat} (small : nano < nanosPerSecond) :
    fraction ((fractionText nano).toList ++ ['Z']) = .ok (nano, ['Z']) := by
  have ended : Text.EndsDigits ['Z'] := Text.endsDigits_cons rfl []
  have written (width unit : Nat) (some : 0 < width) (fits : width ≤ 9)
      (whole : unit * 10 ^ (9 - width) = nano) :
      fraction (("." ++ padded width unit).toList ++ ['Z']) =
        .ok (nano, ['Z']) := by
    have length : (padded width unit).toList.length = width := by
      apply length_padded some
      by_contra large
      have : 10 ^ width * 10 ^ (9 - width) ≤ unit * 10 ^ (9 - width) :=
        Nat.mul_le_mul_right _ (Nat.le_of_not_lt large)
      rw [whole, ← Nat.pow_add, Nat.add_sub_of_le fits] at this
      simp only [nanosPerSecond] at small
      omega
    have read :=
      fraction_digits (digits_padded width unit) (padded_ne_nil width unit)
      (by omega) ended
    rw [length, whole] at read
    rw [String.toList_append]
    exact read
  unfold fractionText
  split_ifs with none three six
  · rw [none]
    rfl
  · exact written 3 _ (by decide) (by decide) (by omega)
  · exact written 6 _ (by decide) (by decide) (by omega)
  · exact written 9 _ (by decide) (by decide) (by omega)

/-! ## Whole texts -/

theorem text_eq (instant : Instant) {y : Int} {month day : Nat}
    (date : dateOf (instant.second.fdiv secondsPerDay) = (y, month, day)) :
    instant.text.toList =
      (yearText y).toList ++ '-' :: ((padded 2 month).toList
        ++ '-' :: ((padded 2 day).toList
        ++ 'T' :: ((padded 2 (instant.clock / 3600)).toList
        ++ ':' :: ((padded 2 (instant.clock / 60 % 60)).toList
        ++ ':' :: ((padded 2
            (instant.clock % 60 + if instant.isLeap then 1 else 0)).toList
        ++ ((fractionText (instant.nano % nanosPerSecond)).toList
        ++ ['Z'])))))) := by
  simp [text, dateText, clockText, date]

@[simp]
theorem offset_universal : offset ['Z'] = .ok (0, []) :=
  rfl

/-- The second of the day, and the day. -/
theorem clock_spec (instant : Instant) : instant.clock < 86400 ∧
    instant.second = instant.second.fdiv secondsPerDay * secondsPerDay +
      instant.clock := by
  have day : (secondsPerDay : Int) = 86400 := rfl
  simp only [clock, day,
    Int.fmod_eq_emod_of_nonneg _ (by decide : (0 : Int) ≤ 86400),
    Int.fdiv_eq_ediv_of_nonneg _ (by decide : (0 : Int) ≤ 86400)]
  omega

theorem daysInMonth_le (y : Int) (month : Nat) : daysInMonth y month ≤ 31 := by
  unfold daysInMonth
  split_ifs <;> decide

@[simp]
theorem separator_title (rest : Text) : separator ('T' :: rest) = .ok rest :=
  rfl

/-- The second that is written in a minute. -/
def shownSecond (instant : Instant) : Nat :=
  instant.clock % 60 + if instant.isLeap then 1 else 0

theorem shownSecond_spec {instant : Instant} (valid : instant.Valid) :
    instant.shownSecond ≤ 60 ∧ (instant.shownSecond == 60) = instant.isLeap ∧
      (if instant.isLeap then 59 else instant.shownSecond) =
        instant.clock % 60 ∧
      (if instant.isLeap then instant.nano % nanosPerSecond + nanosPerSecond
        else instant.nano % nanosPerSecond) = instant.nano := by
  have inSecond := valid.inSecond
  have atMinute := valid.atMinute
  have billion : nanosPerSecond = 1000000000 := rfl
  cases leap : instant.isLeap with
  | true =>
      have late : nanosPerSecond ≤ instant.nano := by simpa [isLeap] using leap
      simp only [shownSecond, leap, if_true, atMinute leap, beq_self_eq_true,
        true_and, le_refl]
      rw [billion] at inSecond late ⊢
      omega
  | false =>
      have early : instant.nano < nanosPerSecond := by simpa [isLeap] using leap
      simp only [shownSecond, leap, Bool.false_eq_true, if_false, Nat.add_zero,
        beq_eq_false_iff_ne, Nat.mod_eq_of_lt early, and_true]
      omega

/-- An instant of the calendar is read back from its text. -/
theorem ofText_text {instant : Instant} (valid : instant.Valid) :
    ofText instant.text.toList = .ok instant := by
  obtain ⟨y, month, day, date⟩ : ∃ y month day,
      dateOf (instant.second.fdiv secondsPerDay) = (y, month, day) :=
    ⟨_, _, _, rfl⟩
  obtain ⟨⟨inYear, inMonth⟩, sameDay⟩ := dayNumber_dateOf date
  have longest := daysInMonth_le y month
  have inYears : isYear y = true := by
    have inYears := valid.inYears
    rwa [date] at inYears
  obtain ⟨inDay, whole⟩ := clock_spec instant
  obtain ⟨inMinute, sixty, steady, nano⟩ := shownSecond_spec valid
  have small : instant.nano % nanosPerSecond < nanosPerSecond :=
    Nat.mod_lt _ (by decide)
  rw [text_eq instant date, ← shownSecond, ofText, year_yearText inYears]
  simp only [ok_bind, mark_cons (show Text.isBlank '-' = false from rfl),
    mark_cons (show Text.isBlank ':' = false from rfl), separator_title,
    field_padded 1 12 inYear (by decide),
    field_padded 1 31 ⟨inMonth.1, inMonth.2.trans longest⟩ (by decide),
    field_padded 0 23 ⟨Nat.zero_le _, (by omega : instant.clock / 3600 ≤ 23)⟩
      (by decide),
    field_padded 0 59 ⟨Nat.zero_le _, (by omega : instant.clock / 60 % 60 ≤ 59)⟩
      (by decide),
    field_padded 0 60 ⟨Nat.zero_le _, inMinute⟩ (by decide),
    fraction_fractionText small,
    Text.trimStart_cons (show Text.isBlank 'Z' = false from rfl),
    offset_universal, sixty, steady, nano]
  have parts : ((instant.clock / 3600 : Nat) : Int) * 3600 +
      (instant.clock / 60 % 60 : Nat) * 60
      + (instant.clock % 60 : Nat) = instant.clock := by
    omega
  rw [sameDay, parts, ← whole, Int.sub_zero, date, if_neg (by decide),
    if_neg (by simp [inYears, inMonth.2]), if_pos inYears]
  rfl

/-! ## Texts that are instants -/

theorem field_inside {low high n : Nat} {text rest : Text}
    (read : field low high text = .ok (n, rest)) : low ≤ n ∧ n ≤ high := by
  obtain ⟨⟨found, behind⟩, -, checked⟩ := bind_eq_ok_iff.mp read
  simp only at checked
  split at checked
  next inside =>
    obtain ⟨rfl, -⟩ := Prod.mk.inj (Except.ok.inj checked)
    exact inside
  next => cases checked

theorem fraction_lt {nano : Nat} {text rest : Text}
    (read : fraction text = .ok (nano, rest)) :
    nano < nanosPerSecond := by
  unfold fraction at read
  split at read
  next digits =>
    obtain ⟨_, -, read⟩ := bind_eq_ok_iff.mp read
    obtain ⟨rfl, -⟩ := Prod.mk.inj (Except.ok.inj read)
    rw [Text.foldl_digits]
    have nine : ((digits.takeWhile Char.isDigit ++ List.replicate 9 '0').take
          9).length = 9 := by
      simp
    refine (Text.ofDigitChars_lt fun c member =>
      ?_).trans_eq (by rw [nine]; rfl)
    rcases List.mem_append.mp (List.mem_of_mem_take member) with found | filled
    · exact List.mem_takeWhile_imp found
    · rw [List.eq_of_mem_replicate filled]
      rfl
  next =>
    obtain ⟨rfl, -⟩ := Prod.mk.inj (Except.ok.inj read)
    decide

theorem offset_minutes {seconds : Int} {text rest : Text}
    (read : offset text = .ok (seconds, rest)) : seconds % 60 = 0 := by
  unfold offset at read
  split at read
  next => cases read
  next sign behind =>
    split_ifs at read with universal named signed east
    · obtain ⟨rfl, -⟩ := Prod.mk.inj (Except.ok.inj read)
      rfl
    · obtain ⟨rfl, -⟩ := Prod.mk.inj (Except.ok.inj read)
      rfl
    all_goals
      obtain ⟨⟨hours, _⟩, -, read⟩ := bind_eq_ok_iff.mp read
      obtain ⟨⟨minutes, _⟩, -, read⟩ := bind_eq_ok_iff.mp read
      obtain ⟨rfl, -⟩ := Prod.mk.inj (Except.ok.inj read)
      omega

/-- Whatever is read as an instant lies in the calendar. -/
theorem valid_of_ofText {text : Text} {instant : Instant}
    (read : ofText text = .ok instant) :
    instant.Valid := by
  obtain ⟨⟨y, _⟩, -, read⟩ := bind_eq_ok_iff.mp read
  obtain ⟨_, -, read⟩ := bind_eq_ok_iff.mp read
  obtain ⟨⟨month, _⟩, -, read⟩ := bind_eq_ok_iff.mp read
  obtain ⟨_, -, read⟩ := bind_eq_ok_iff.mp read
  obtain ⟨⟨day, _⟩, -, read⟩ := bind_eq_ok_iff.mp read
  obtain ⟨_, -, read⟩ := bind_eq_ok_iff.mp read
  obtain ⟨⟨hour, _⟩, -, read⟩ := bind_eq_ok_iff.mp read
  obtain ⟨_, -, read⟩ := bind_eq_ok_iff.mp read
  obtain ⟨⟨minute, _⟩, -, read⟩ := bind_eq_ok_iff.mp read
  obtain ⟨_, -, read⟩ := bind_eq_ok_iff.mp read
  obtain ⟨⟨second, _⟩, secondRead, read⟩ := bind_eq_ok_iff.mp read
  obtain ⟨⟨nano, _⟩, nanoRead, read⟩ := bind_eq_ok_iff.mp read
  obtain ⟨⟨offset, _⟩, offsetRead, read⟩ := bind_eq_ok_iff.mp read
  have inMinute := field_inside secondRead
  have inSecond := fraction_lt nanoRead
  have minutes := offset_minutes offsetRead
  simp only at read
  have billion : nanosPerSecond = 1000000000 := rfl
  split_ifs at read with trailing outOfRange sixty inYears inYears
  · obtain rfl := Except.ok.inj read
    refine ⟨inYears, by simp only [billion] at inSecond ⊢; omega, fun _ => ?_⟩
    simp only [clock, show (secondsPerDay : Int) = 86400 from rfl,
      Int.fmod_eq_emod_of_nonneg _ (by decide : (0 : Int) ≤ 86400)]
    omega
  · obtain rfl := Except.ok.inj read
    refine ⟨inYears, by simp only [billion] at inSecond ⊢; omega,
      fun leap => ?_⟩
    simp only [isLeap, decide_eq_true_eq] at leap
    omega

end LintMend.Instant
