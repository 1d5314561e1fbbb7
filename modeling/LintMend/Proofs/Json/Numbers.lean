import LintMend.Proofs.Json.Scalars

/-!
# Numbers read back

Whole numbers that fit into a word are read as they are. The text of a double is
a numeral, written out or with an exponent, or a word where it is no number.
-/

namespace LintMend.JsonText

theorem isWhole_toDigits (n : Nat) : IsWhole (Nat.toDigits 10 n) := by
  refine ⟨⟨Nat.toDigits_ne_nil, (Text.digits_toDigits n).digits⟩,
    fun zero => ?_⟩
  rcases Nat.eq_zero_or_pos n with rfl | positive
  · rfl
  · exact absurd zero (Text.head_toDigits_ne positive)

/-- Digits that fit into a word are all taken in. -/
theorem gather_digitsOf {text : Text} {start : Nat}
    (small : Nat.ofDigitChars 10 text start < wordLimit) :
    gather start (digitsOf text) = (Nat.ofDigitChars 10 text start, []) := by
  induction text generalizing start with
  | nil => rfl
  | cons c text induction =>
      rw [Nat.ofDigitChars_cons, Nat.mul_comm 10 start] at small ⊢
      have grows :=
        Text.ofDigitChars_start text (start * 10 + (c.toNat - '0'.toNat))
      have within : ¬ maxWord < start * 10 + (c.toNat - '0'.toNat) := by
        have := Nat.le_mul_of_pos_right (start * 10 + (c.toNat - '0'.toNat))
          (Nat.pow_pos (n := text.length) (by decide : 0 < 10))
        simp only [maxWord]
        omega
      rw [digitsOf, List.map_cons, gather]
      exact (if_neg within).trans (induction small)

/-! ## Integers -/

/-- The integers that are kept exactly. -/
def IsWord (value : Int) : Prop :=
  -(signedLimit : Int) ≤ value ∧ value < wordLimit

def Figures.ofNat (n : Nat) : Figures :=
  { whole := Nat.toDigits 10 n, fraction := none, exponent := none }

theorem Figures.proper_ofNat (n : Nat) : (ofNat n).Proper where
  whole := isWhole_toDigits n
  fraction := by simp [ofNat]
  exponent := by simp [ofNat]

theorem toList_toString_int (value : Int) :
    (toString value).toList =
      (Figures.ofNat value.natAbs).text (decide (value < 0)) := by
  rw [Int.toString_eq_repr, Int.repr_eq_if, Figures.text]
  by_cases negative : value < 0
  · rw [if_neg (by omega), String.toList_append, Nat.toList_repr,
      show (-value).toNat = value.natAbs by omega]
    simp [negative, Figures.ofNat, fractionText, exponentText]
  · rw [if_pos (by omega), Nat.toList_repr,
      show value.toNat = value.natAbs by omega]
    simp [negative, Figures.ofNat, fractionText, exponentText]

theorem data_integer {value : Int} (word : IsWord value) :
    ((Figures.ofNat value.natAbs).numeral (decide (value < 0))).data =
      .integer value := by
  obtain ⟨low, high⟩ := word
  have half : signedLimit < wordLimit := by decide
  have small : Nat.ofDigitChars 10 (Nat.toDigits 10 value.natAbs) 0 <
      wordLimit := by
    rw [(Text.digits_toDigits _).value]
    omega
  simp only [Figures.numeral, Figures.ofNat, Numeral.data,
    gather_digitsOf small, (Text.digits_toDigits _).value, Option.map_none]
  by_cases negative : value < 0
  · have positive : 0 < value.natAbs := by omega
    have within : value.natAbs ≤ signedLimit := by omega
    simp only [List.isEmpty_nil, Option.isNone_none, Bool.and_self,
      if_true, negative, decide_true, Bool.not_true, Bool.false_eq_true,
      if_false, positive, within]
    rw [show -(value.natAbs : Int) = value by omega]
  · simp only [List.isEmpty_nil, Option.isNone_none, Bool.and_self,
      if_true, negative, decide_false, Bool.not_false]
    rw [show (value.natAbs : Int) = value by omega]

/-! ## Doubles -/

section

variable (decimal : Decimal)

/-- The digits of a decimal with a fraction, with zeros in front so that the
point stands behind a digit. -/
def paddedDigits : Text :=
  List.replicate ((-decimal.exponent).toNat + 1 -
      (Nat.toDigits 10 decimal.digits).length) '0'
    ++ Nat.toDigits 10 decimal.digits

/-- How many of the padded digits stand in front of the point. -/
def pointPlace : Nat :=
  (paddedDigits decimal).length - (-decimal.exponent).toNat

/-- The digits behind the first one, where there are any. -/
def laterDigits : Option Text :=
  if (Nat.toDigits 10 decimal.digits).drop 1 = [] then none
  else some ((Nat.toDigits 10 decimal.digits).drop 1)

/-- The power of ten of the first digit. -/
def leadingPower : Int :=
  decimal.exponent + (Nat.toDigits 10 decimal.digits).length - 1

/-- The figures of a whole number with a point. -/
def Figures.wholeNumber : Figures where
  whole :=
    Nat.toDigits 10 decimal.digits ++ List.replicate decimal.exponent.toNat '0'
  fraction := some ['0']
  exponent := none

/-- The figures of a decimal with digits behind its point. -/
def Figures.broken : Figures where
  whole := (paddedDigits decimal).take (pointPlace decimal)
  fraction := some ((paddedDigits decimal).drop (pointPlace decimal))
  exponent := none

/-- The figures of a decimal with an exponent. -/
def Figures.scientific : Figures where
  whole := (Nat.toDigits 10 decimal.digits).take 1
  fraction := laterDigits decimal
  exponent :=
    some (decide (leadingPower decimal < 0),
        Nat.toDigits 10 (leadingPower decimal).natAbs)

/-- How a decimal is written for a double. -/
def Figures.ofDecimal : Figures :=
  if decimal.digits = 0 then
    { whole := ['0'], fraction := some ['0'], exponent := none }
  else if -5 ≤ leadingPower decimal ∧ leadingPower decimal < 16 then
    if 0 ≤ decimal.exponent then wholeNumber decimal else broken decimal
  else scientific decimal

end

variable {decimal : Decimal}

theorem Figures.proper_wholeNumber (positive : 0 < decimal.digits) :
    (wholeNumber decimal).Proper where
  whole := by
    refine ⟨⟨by simp [wholeNumber], ?_⟩, fun zero => ?_⟩
    · exact ((Text.digits_toDigits _).append (Text.digits_zeros _)).digits
    · rw [wholeNumber, List.head?_append_of_ne_nil _ Nat.toDigits_ne_nil]
        at zero
      exact absurd zero (Text.head_toDigits_ne positive)
  fraction := by
    rintro digits ⟨⟩
    exact ⟨List.cons_ne_nil _ _, List.forall_mem_singleton.mpr rfl⟩
  exponent := by simp [wholeNumber]

theorem digits_paddedDigits (decimal : Decimal) :
    Text.Digits (paddedDigits decimal) decimal.digits := by
  have padded := (Text.digits_zeros ((-decimal.exponent).toNat + 1
    - (Nat.toDigits 10 decimal.digits).length)).append
    (Text.digits_toDigits decimal.digits)
  rwa [Nat.zero_mul, Nat.zero_add] at padded

theorem length_paddedDigits (decimal : Decimal) :
    (-decimal.exponent).toNat < (paddedDigits decimal).length := by
  rw [paddedDigits, List.length_append, List.length_replicate]
  omega

theorem Figures.proper_broken (positive : 0 < decimal.digits)
    (fraction : decimal.exponent < 0) :
    (broken decimal).Proper where
  whole := by
    have longer := length_paddedDigits decimal
    refine ⟨⟨?_, fun c member => ?_⟩, fun zero => ?_⟩
    · rw [broken, pointPlace, ne_eq, List.take_eq_nil_iff,
        ← List.length_eq_zero_iff]
      omega
    · exact (digits_paddedDigits decimal).digits c (List.mem_of_mem_take member)
    · -- A zero in front is one of those put there, and the last of them stands
      -- behind the point.
      rw [broken, List.head?_take, pointPlace, if_neg (by omega)] at zero
      have short : (Nat.toDigits 10 decimal.digits).length <
          (-decimal.exponent).toNat + 1 := by
        by_contra long
        rw [paddedDigits, Nat.sub_eq_zero_of_le (by omega)] at zero
        exact Text.head_toDigits_ne positive zero
      simp only [broken, pointPlace, List.length_take, paddedDigits,
        List.length_append, List.length_replicate]
      omega
  fraction := by
    rintro digits ⟨⟩
    have longer := length_paddedDigits decimal
    refine ⟨?_, fun c member =>
      (digits_paddedDigits decimal).digits c (List.mem_of_mem_drop member)⟩
    rw [ne_eq, List.drop_eq_nil_iff, pointPlace]
    omega
  exponent := by simp [broken]

theorem Figures.proper_scientific (decimal : Decimal) :
    (scientific decimal).Proper where
  whole := by
    have some := Nat.length_toDigits_pos (b := 10) (n := decimal.digits)
    refine ⟨⟨?_, fun c member => ?_⟩, fun _ => ?_⟩
    · rw [scientific, ne_eq, List.take_eq_nil_iff]
      simp
    · exact (Text.digits_toDigits _).digits c (List.mem_of_mem_take member)
    · rw [scientific, List.length_take]
      omega
  fraction := by
    intro digits member
    simp only [scientific, laterDigits, Option.mem_def,
      Option.ite_none_left_eq_some, Option.some.injEq] at member
    obtain ⟨some, rfl⟩ := member
    exact ⟨some, fun c later =>
      (Text.digits_toDigits _).digits c (List.mem_of_mem_drop later)⟩
  exponent := by
    rintro found ⟨⟩
    exact ⟨Nat.toDigits_ne_nil, (Text.digits_toDigits _).digits⟩

theorem Figures.proper_ofDecimal (decimal : Decimal) :
    (ofDecimal decimal).Proper := by
  unfold ofDecimal
  split_ifs with zero written whole
  · refine ⟨⟨⟨List.cons_ne_nil _ _, List.forall_mem_singleton.mpr rfl⟩, by
      decide⟩, ?_, by simp⟩
    rintro digits ⟨⟩
    exact ⟨List.cons_ne_nil _ _, List.forall_mem_singleton.mpr rfl⟩
  · exact proper_wholeNumber (Nat.pos_of_ne_zero zero)
  · exact proper_broken (Nat.pos_of_ne_zero zero) (by omega)
  · exact proper_scientific decimal

theorem positional_of_nonneg (whole : 0 ≤ decimal.exponent) :
    (decimal.positional ++ ".0").toList =
      (Figures.wholeNumber decimal).text false := by
  simp [Decimal.positional, whole, Figures.text, Figures.wholeNumber,
    fractionText, exponentText]

theorem positional_of_neg (fraction : decimal.exponent < 0) :
    decimal.positional.toList = (Figures.broken decimal).text false := by
  have broken : ¬ 0 ≤ decimal.exponent := by omega
  simp [Decimal.positional, broken, Figures.text, Figures.broken, fractionText,
    exponentText, paddedDigits, pointPlace, ← String.length_toList]

@[simp]
private theorem length_toString (n : Nat) :
    (toString n).length = (Nat.toDigits 10 n).length := by
  rw [← String.length_toList, Nat.toString_eq_repr, Nat.toList_repr]

theorem toList_scientific (decimal : Decimal) :
    decimal.scientific.toList = (Figures.scientific decimal).text false := by
  have digits : (toString decimal.digits).toList =
      Nat.toDigits 10 decimal.digits :=
    Nat.toList_repr
  have power : decimal.exponent + ((toString decimal.digits).length : Int) - 1 =
      leadingPower decimal := by
    rw [leadingPower, length_toString]
  have empty : ((toString decimal.digits).drop 1).isEmpty = true ↔
      (Nat.toDigits 10 decimal.digits).drop 1 = [] := by
    rw [← String.Slice.isEmpty_copy, ← digits, ← String.toList_copy_drop,
      String.isEmpty_iff, String.toList_eq_nil_iff]
  have fraction : (if ((toString decimal.digits).drop 1).isEmpty then ""
      else "." ++ ((toString decimal.digits).drop 1).toString).toList =
        fractionText (laterDigits decimal) := by
    by_cases none : (Nat.toDigits 10 decimal.digits).drop 1 = []
    · rw [if_pos (empty.mpr none), laterDigits, if_pos none]
      rfl
    · rw [if_neg (fun found => none (empty.mp found)), laterDigits, if_neg none]
      simp [fractionText]
  have mark : (if leadingPower decimal < 0 then "e-" else "e+").toList =
      ['e', if decide (leadingPower decimal < 0) then '-' else '+'] := by
    by_cases down : leadingPower decimal < 0 <;> simp [down]
  simp only [Decimal.scientific, power, String.toList_append, fraction, mark]
  simp [Figures.text, Figures.scientific, exponentText]

/-- The sign stands in front of the figures. -/
theorem text_signed (negative : Bool) (figures : Figures) :
    (if negative then "-" else "").toList ++ figures.text false =
      figures.text negative := by
  cases negative <;> rfl

theorem toList_floatText {x : Float} {negative : Bool} {magnitude : Binary}
    (finite : FloatParts.ofFloat x = .finite negative magnitude) :
    (Json.floatText x).toList =
      (Figures.ofDecimal (Decimal.shortest magnitude)).text negative := by
  simp only [Json.floatText, finite, length_toString]
  rw [← leadingPower, ← text_signed, Figures.ofDecimal]
  generalize (if negative = true then "-" else "") = sign
  split_ifs with zero written whole
  · simp [Figures.text, fractionText, exponentText]
  · rw [String.append_assoc, String.toList_append, positional_of_nonneg whole]
  · rw [String.append_empty, String.toList_append, positional_of_neg (by omega)]
  · rw [String.toList_append, toList_scientific]

end LintMend.JsonText
