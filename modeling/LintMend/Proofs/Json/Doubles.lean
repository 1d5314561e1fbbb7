import LintMend.Proofs.Decimal.Shortest
import LintMend.Proofs.Json.Reading

/-!
# Doubles read back

The text of a finite double is read as a number, never as one that is too large.
-/

namespace LintMend.JsonText

variable {decimal : Decimal}

theorem scale_eq_some {digits : Nat} {exponent : Int}
    (fits : 0 ≤ exponent → exponent ≤ 308 ∧
      Decimal.nearest digits * Decimal.nearest (tenTo exponent.toNat) <
        Decimal.doubleLimit) :
    ∃ x, scale digits exponent = some x := by
  unfold scale
  by_cases down : exponent < 0
  · exact ⟨_, if_pos down⟩
  · obtain ⟨low, below⟩ := fits (by omega)
    by_cases zero : digits = 0
    · exact ⟨_, (if_neg down).trans (if_pos zero)⟩
    · refine ⟨digits.toUInt64.toFloat *
        Float.ofScientific 1 false exponent.toNat, ?_⟩
      simp only
      rw [if_neg down, if_neg zero, if_neg (by omega),
        if_neg (Nat.not_le.mpr below)]

@[simp]
theorem foldl_digitsOf (text : Text) :
    (digitsOf text).foldl (fun n digit => n * 10 + digit) 0 =
      Nat.ofDigitChars 10 text 0 := by
  rw [digitsOf, List.foldl_map, Text.foldl_digits]

/-- What the sign and the digits of an exponent are worth. -/
def powerOf : Option (Bool × Text) → Int
  | none => 0
  | some (true, power) => -(Nat.ofDigitChars 10 power 0 : Int)
  | some (false, power) => Nat.ofDigitChars 10 power 0

/-- A numeral of few digits is worth them, scaled by its point and its
exponent. -/
theorem Figures.data_eq (negative : Bool) {figures : Figures} {digits : Nat}
    {exponent : Int} (apart : figures.fraction ≠ none ∨ figures.exponent ≠ none)
    (value : Nat.ofDigitChars 10 (figures.whole ++ figures.fraction.getD []) 0 =
      digits) (word : digits < wordLimit)
    (place : exponent = powerOf figures.exponent -
      ((figures.fraction.getD []).length : Int))
    (low : powerOf figures.exponent < twoTo 31)
    (fits : 0 ≤ exponent → exponent ≤ 308 ∧
      Decimal.nearest digits * Decimal.nearest (tenTo exponent.toNat) <
        Decimal.doubleLimit) :
    ∃ x, (figures.numeral negative).data = .float x := by
  obtain ⟨x, scaled⟩ := scale_eq_some fits
  obtain ⟨whole, fraction, power⟩ := figures
  simp only at apart value place low
  rw [Nat.ofDigitChars_append] at value
  have front : Nat.ofDigitChars 10 whole 0 < wordLimit := by
    have grows :=
      Text.ofDigitChars_start (fraction.getD []) (Nat.ofDigitChars 10 whole 0)
    have scale := Nat.le_mul_of_pos_right (Nat.ofDigitChars 10 whole 0)
      (Nat.pow_pos (n := (fraction.getD []).length) (by decide : 0 < 10))
    omega
  have behind : (fraction.map digitsOf).getD [] =
      digitsOf (fraction.getD []) := by
    cases fraction <;> rfl
  have length : (digitsOf (fraction.getD [])).length =
      (fraction.getD []).length :=
    List.length_map _
  have gathered :=
    @gather_digitsOf (fraction.getD []) (Nat.ofDigitChars 10 whole 0)
    (value ▸ word)
  simp only [Figures.numeral, Numeral.data, gather_digitsOf front, behind,
    gathered, value, length]
  cases power with
  | none =>
      have some : (fraction.map digitsOf).isNone = false := by
        cases fraction <;> simp_all
      have same : ((0 : Nat) : Int) - ((fraction.getD []).length - 0 : Nat) =
          exponent := by
        rw [place, powerOf]
        omega
      simp only [some, Option.map_none, List.length_nil, same, scaled,
        Bool.and_false, Bool.false_and, Bool.false_eq_true, if_false]
      exact ⟨_, rfl⟩
  | some found =>
      obtain ⟨down, power⟩ := found
      simp only [Option.map_some, Option.isNone_some, Bool.and_false,
        Bool.false_eq_true, if_false, List.length_nil, foldl_digitsOf]
      by_cases near : Nat.ofDigitChars 10 power 0 < twoTo 31
      · have same : (if down = true then
            ((0 : Nat) : Int) - ((fraction.getD []).length - 0 : Nat) -
              Nat.ofDigitChars 10 power 0
          else ((0 : Nat) : Int) - ((fraction.getD []).length - 0 : Nat) +
            Nat.ofDigitChars 10 power 0) = exponent := by
          cases down <;> simp only [powerOf] at place <;>
            simp only [if_true, if_false,
            Bool.false_eq_true] <;> omega
        simp only [near, if_true, same, scaled]
        exact ⟨_, rfl⟩
      · rw [if_neg near]
        cases down with
        | true => exact ⟨_, if_neg (by simp)⟩
        | false =>
            rw [powerOf] at low
            omega

/-! ## The figures of a decimal -/

theorem data_wholeNumber (negative : Bool) (whole : 0 ≤ decimal.exponent)
    (short : leadingPower decimal < 16) :
    ∃ x, ((Figures.wholeNumber decimal).numeral negative).data = .float x := by
  have run := ((Text.digits_toDigits decimal.digits).append
    (Text.digits_zeros decimal.exponent.toNat)).append (Text.digits_zeros 1)
  refine @Figures.data_eq negative (Figures.wholeNumber decimal) _ (-1)
    (.inl (by simp
    [Figures.wholeNumber])) run.value ?_ rfl
      (show (0 : Int) < twoTo 31 by decide) (by omega)
  have few := Nat.length_toDigits_pos (b := 10) (n := decimal.digits)
  rw [leadingPower] at short
  have length : (Nat.toDigits 10 decimal.digits ++
        List.replicate decimal.exponent.toNat '0' ++
      List.replicate 1 '0').length ≤ 17 := by
    simp only [List.length_append, List.length_replicate]
    omega
  calc _ < 10 ^ _ := run.lt
    _ ≤ 10 ^ 17 := Nat.pow_le_pow_right (by decide) length
    _ < wordLimit := by decide

theorem data_broken (negative : Bool) (readable : decimal.Readable)
    (fraction : decimal.exponent < 0) :
    ∃ x, ((Figures.broken decimal).numeral negative).data = .float x := by
  have longer := length_paddedDigits decimal
  refine @Figures.data_eq negative (Figures.broken decimal) decimal.digits
    decimal.exponent
    (.inl (by simp [Figures.broken])) ?_ readable.word ?_
      (show (0 : Int) < twoTo 31 by decide) (by omega)
  · simp only [Figures.broken, Option.getD_some, List.take_append_drop]
    exact (digits_paddedDigits decimal).value
  · simp only [Figures.broken, Option.getD_some, List.length_drop,
      pointPlace, powerOf]
    omega

theorem powerOf_leading (power : Int) :
    powerOf (some (decide (power < 0), Nat.toDigits 10 power.natAbs)) =
      power := by
  by_cases down : power < 0
  · simp only [down, decide_true, powerOf, (Text.digits_toDigits _).value]
    omega
  · simp only [down, decide_false, powerOf, (Text.digits_toDigits _).value]
    omega

theorem data_scientific (negative : Bool) (readable : decimal.Readable) :
    ∃ x, ((Figures.scientific decimal).numeral negative).data = .float x := by
  have some := Nat.length_toDigits_pos (b := 10) (n := decimal.digits)
  have later : (laterDigits decimal).getD [] =
      (Nat.toDigits 10 decimal.digits).drop 1 := by
    unfold laterDigits
    split
    next none => exact none.symm
    next => rfl
  have leading := readable.leading
  have power : powerOf (Figures.scientific decimal).exponent =
      leadingPower decimal :=
    powerOf_leading _
  refine @Figures.data_eq negative (Figures.scientific decimal) decimal.digits
    decimal.exponent
    (.inr (by simp [Figures.scientific])) ?_ readable.word ?_ ?_
    readable.product
  · simp only [Figures.scientific, later, List.take_append_drop]
    exact (Text.digits_toDigits _).value
  · rw [power]
    simp only [Figures.scientific, later, leadingPower, List.length_drop]
    omega
  · have room : (310 : Int) < twoTo 31 := by decide
    rw [power, leadingPower]
    omega

theorem data_ofDecimal (negative : Bool) (readable : decimal.Readable) :
    ∃ x, ((Figures.ofDecimal decimal).numeral negative).data = .float x := by
  unfold Figures.ofDecimal
  split_ifs with zero written whole
  · exact @Figures.data_eq negative ⟨['0'], some ['0'], none⟩ 0 (-1)
      (.inl (by simp)) rfl
      (by decide) rfl (by decide) (by omega)
  · exact data_wholeNumber negative whole written.2
  · exact data_broken negative readable (by omega)
  · exact data_scientific negative readable

theorem decode_floatText_eq (x : Float) :
    decode Decoder.real (Json.floatText x).toList =
      Decoder.real (Json.floatData x) := by
  have read :=
    decode_of_reads Decoder.real [] [] (Json.reads_float x) (by simp) (by simp)
  rwa [List.append_nil, List.nil_append] at read

/-- The text of a finite double is read as a number. -/
theorem decode_floatText {x : Float} {negative : Bool} {magnitude : Binary}
    (finite : FloatParts.ofFloat x = .finite negative magnitude) :
    ∃ y, decode Decoder.real (Json.floatText x).toList = .ok y := by
  obtain ⟨y, data⟩ := data_ofDecimal negative
    (Decimal.readable_shortest (Decimal.ofDouble_of_ofFloat finite))
  refine ⟨y, ?_⟩
  rw [decode_floatText_eq, Json.floatData, finite]
  simp only [data]
  rfl

end LintMend.JsonText
