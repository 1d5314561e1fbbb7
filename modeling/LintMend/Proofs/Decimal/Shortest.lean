import Mathlib.Tactic.SplitIfs
import LintMend.Decimal.Shortest
import LintMend.Proofs.Decimal.Nearest

/-!
# What the shortest decimal of a double is like

It has few enough digits for a word, it is hardly larger than the double,
and where it is written as a whole number it is still below the limit of the
doubles when it is read back in two rounded factors.
-/

namespace LintMend.Decimal

/-! ## The leading digit -/

/-- A number below `y * 10 ^ e`. -/
def Below (x y : Nat) (e : Int) : Prop :=
  x * tenTo (-e).toNat < y * tenTo e.toNat

theorem tenTo_add (m n : Nat) : tenTo (m + n) = tenTo m * tenTo n :=
  Nat.pow_add 10 m n

/-- Some of the power may stand on the other side. -/
theorem Below.shift {x y count : Nat} {e : Int}
    (below : Below x y (e + count)) :
    x * tenTo (-e).toNat < tenTo count * (y * tenTo e.toNat) := by
  obtain ⟨gap, left, right⟩ : ∃ gap, (-e).toNat = (-(e + count)).toNat + gap ∧
      (e + count).toNat + gap = count + e.toNat :=
    ⟨(-e).toNat - (-(e + count)).toNat, by omega, by omega⟩
  calc x * tenTo (-e).toNat
      = x * tenTo (-(e + count)).toNat * tenTo gap := by
          rw [left, tenTo_add, Nat.mul_assoc]
    _ < y * tenTo (e + count).toNat * tenTo gap :=
      Nat.mul_lt_mul_of_pos_right below (tenTo_pos gap)
    _ = tenTo count * (y * tenTo e.toNat) := by
      rw [Nat.mul_assoc, ← tenTo_add, right, tenTo_add]
      exact Nat.mul_left_comm _ _ _

theorem lt_tenTo_length (n : Nat) : n < tenTo (Nat.toDigits 10 n).length :=
  (Nat.length_toDigits_le_iff (by decide) Nat.length_toDigits_pos).mp le_rfl

theorem tenTo_length_le {n : Nat} (positive : 0 < n) :
    tenTo ((Nat.toDigits 10 n).length - 1) ≤ n := by
  rcases Nat.eq_zero_or_pos ((Nat.toDigits 10 n).length - 1) with
    single | several
  · rw [single]
    exact positive
  · by_contra small
    have short := (Nat.length_toDigits_le_iff (by decide) several).mpr
      (Nat.lt_of_not_le small)
    omega

variable {numerator denominator : Nat}

theorem below_leadingExponent (positive : 0 < denominator) :
    Below numerator denominator
      (leadingExponent numerator denominator + 1) := by
  unfold leadingExponent
  simp only
  split
  next below =>
    rw [Int.sub_add_cancel]
    exact below
  next =>
    have high := lt_tenTo_length numerator
    have low := tenTo_length_le positive
    have some : 0 < (Nat.toDigits 10 denominator).length :=
      Nat.length_toDigits_pos
    generalize (Nat.toDigits 10 numerator).length = many at *
    generalize (Nat.toDigits 10 denominator).length = few at *
    generalize exponent : (many : Int) - few + 1 = e
    calc numerator * tenTo (-e).toNat
        < tenTo many * tenTo (-e).toNat :=
      Nat.mul_lt_mul_of_pos_right high (tenTo_pos _)
      _ = tenTo (few - 1) * tenTo e.toNat := by
        rw [← tenTo_add, ← tenTo_add]
        congr 1
        omega
      _ ≤ denominator * tenTo e.toNat := Nat.mul_le_mul_right _ low

theorem tenTo_leadingExponent_le (positive : 0 < numerator)
    (whole : 0 ≤ leadingExponent numerator denominator) :
    denominator * tenTo (leadingExponent numerator denominator).toNat ≤
      numerator := by
  unfold leadingExponent at *
  simp only at *
  split at whole
  next below =>
    have low := tenTo_length_le positive
    have high := lt_tenTo_length denominator
    rw [if_pos below]
    generalize (Nat.toDigits 10 numerator).length = many at *
    generalize (Nat.toDigits 10 denominator).length = few at *
    have power : many - 1 = few + ((many : Int) - few - 1).toNat := by omega
    calc denominator * tenTo ((many : Int) - few - 1).toNat
        ≤ tenTo few * tenTo ((many : Int) - few - 1).toNat :=
          Nat.mul_le_mul_right _ (Nat.le_of_lt high)
      _ = tenTo (many - 1) := by rw [power, tenTo_add]
      _ ≤ numerator := low
  next reached =>
    rw [if_neg reached]
    generalize ((Nat.toDigits 10 numerator).length : Int) -
        (Nat.toDigits 10 denominator).length =
      guess at *
    rw [show (-guess).toNat = 0 by omega] at reached
    have := Nat.le_of_not_lt reached
    simpa [tenTo] using this

/-! ## The search -/

variable {low value high : Nat} {ends : Bool} {e leading : Int}
  {fuel count : Nat}

/-- A hit lies in the interval, and is one of the two neighbours of the
value. -/
theorem onGrid?_eq_some {digits : Nat}
    (hit : onGrid? low value high denominator ends e = some digits) :
    0 < digits ∧ digits ≤ value * tenTo (-e).toNat /
      (denominator * tenTo e.toNat) + 1 ∧
      between low high denominator ends digits e = true := by
  unfold onGrid? at hit
  simp only at hit
  split_ifs at hit with both near below above
  · obtain rfl := Option.some.inj hit
    simp only [Bool.and_eq_true, decide_eq_true_eq] at both
    exact ⟨both.1.1, Nat.le_succ _, both.1.2⟩
  · obtain rfl := Option.some.inj hit
    simp only [Bool.and_eq_true] at both
    exact ⟨Nat.succ_pos _, le_rfl, both.2⟩
  · obtain rfl := Option.some.inj hit
    simp only [Bool.and_eq_true, decide_eq_true_eq] at below
    exact ⟨below.1, Nat.le_succ _, below.2⟩
  · obtain rfl := Option.some.inj hit
    exact ⟨Nat.succ_pos _, le_rfl, above⟩

/-- An interval that is wider than the grid is hit. -/
theorem onGrid?_ne_none {power : Nat} (some : tenTo power ≤ value)
    (inside : low < value ∧ value < high) (wide : low + tenTo power < high) :
    onGrid? low value high 1 ends power ≠ none := by
  have positive : 0 < value / tenTo power := Nat.div_pos some (tenTo_pos power)
  have split := Nat.div_add_mod value (tenTo power)
  have small := Nat.mod_lt value (tenTo_pos power)
  have scaled (c : Nat) : between low high 1 ends c power = true ↔
      if ends = true then low ≤ c * tenTo power ∧ c * tenTo power ≤ high
      else low < c * tenTo power ∧ c * tenTo power < high := by
    cases ends <;> simp [between, tenTo]
  intro missed
  have neither : between low high 1 ends (value / tenTo power) power ≠ true ∧
      between low high 1 ends (value / tenTo power + 1) power ≠ true := by
    have here : value * tenTo (-(power : Int)).toNat /
          (1 * tenTo (power : Int).toNat) =
        value / tenTo power := by
      simp [tenTo]
    unfold onGrid? at missed
    simp only [here] at missed
    split_ifs at missed with both near below above
    exact ⟨by simpa [positive] using below, above⟩
  rw [ne_eq, ne_eq, scaled, scaled, Nat.add_mul, Nat.one_mul,
    Nat.mul_comm (value / _)] at neither
  split_ifs at neither <;> omega

/-- The search ends at the first count of digits that hits the interval, or
behind the last. -/
theorem search_cases :
    (∃ found digits, count ≤ found ∧ found < count + fuel ∧
      onGrid? low value high denominator ends (leading + 1 - found) =
        some digits ∧
      search low value high denominator ends leading fuel count =
        ⟨digits, leading + 1 - found⟩) ∨
    ((∀ tried, count ≤ tried → tried < count + fuel →
        onGrid? low value high denominator ends (leading + 1 - tried) = none) ∧
      search low value high denominator ends leading fuel count =
        ⟨value * tenTo (-(leading - (count + fuel))).toNat /
            (denominator * tenTo (leading - (count + fuel)).toNat),
            leading - (count + fuel)⟩) := by
  induction fuel generalizing count with
  | zero =>
      refine .inr ⟨fun tried low high => by omega, ?_⟩
      simp [search]
  | succ fuel induction =>
      rw [search]
      cases hit : onGrid? low value high denominator ends
        (leading + 1 - count) with
      | some digits =>
          exact .inl ⟨count, digits, le_rfl, by omega, hit, rfl⟩
      | none =>
          simp only
          rcases @induction (count + 1) with
            ⟨found, digits, low, high, hits, result⟩ | ⟨missed, result⟩
          · exact .inl ⟨found, digits, by omega, by omega, hits, result⟩
          · right
            refine ⟨fun tried low high => ?_, ?_⟩
            · rcases Nat.eq_or_lt_of_le low with rfl | later
              · exact hit
              · exact missed tried later (by omega)
            · rw [result]
              congr 1 <;> push_cast <;> ring_nf

/-- What taking off a zero keeps, taking off zeros keeps. -/
theorem stripZeros_keeps {holds : Decimal → Prop}
    (keeps : ∀ decimal, decimal.digits ≠ 0 → decimal.digits % 10 = 0 →
      holds decimal →
      holds ⟨decimal.digits / 10, decimal.exponent + 1⟩) (fuel : Nat)
    {decimal : Decimal} (held : holds decimal) :
    holds (stripZeros fuel decimal) := by
  induction fuel generalizing decimal with
  | zero => exact held
  | succ fuel induction =>
      rw [stripZeros]
      split
      next zero => exact induction (keeps decimal zero.1 zero.2 held)
      next => exact held

/-- A decimal of at most nineteen digits that does not go beyond the power of
ten behind the leading one. -/
def Within (leading : Int) (decimal : Decimal) : Prop :=
  ∃ count : Nat, count ≤ 19 ∧ decimal.digits ≤ tenTo count ∧
    decimal.exponent + count = leading + 1

theorem within_search (below : Below value denominator (leading + 1)) :
    Within leading (search low value high denominator ends leading 17 1) := by
  have few (count : Nat) : value * tenTo (-(leading + 1 - count)).toNat /
      (denominator * tenTo (leading + 1 - count).toNat) < tenTo count := by
    have shifted := @Below.shift value denominator count (leading + 1 - count)
      (by rwa [Int.sub_add_cancel])
    exact Nat.div_lt_of_lt_mul (shifted.trans_eq (Nat.mul_comm _ _))
  rcases @search_cases denominator low value high ends leading 17 1 with
    ⟨found, digits, -, last, hit, result⟩ | ⟨-, result⟩
  · obtain ⟨-, near, -⟩ := onGrid?_eq_some hit
    have bound := few found
    rw [result]
    exact ⟨found, by omega, by simp only; omega, by simp only; omega⟩
  · have bound := few 19
    rw [result]
    refine ⟨19, le_rfl, ?_, by simp only; omega⟩
    rw [show leading - ((1 : Nat) + (17 : Nat)) = leading + 1 - (19 : Nat) by
      omega]
    exact Nat.le_of_lt bound

theorem Within.stripZeros {decimal : Decimal} (within : Within leading decimal)
    (fuel : Nat) :
    Within leading (decimal.stripZeros fuel) := by
  refine stripZeros_keeps (fun decimal some zero within => ?_) fuel within
  obtain ⟨count, few, bound, place⟩ := within
  cases count with
  | zero =>
      have : decimal.digits ≤ 1 := bound
      omega
  | succ count =>
      refine ⟨count, by omega, ?_, by simp only; omega⟩
      rw [tenTo_add, show tenTo 1 = 10 from rfl] at bound
      simp only
      omega

/-! ## Doubles -/

/-- The magnitudes of the finite doubles. -/
structure OfDouble (magnitude : Binary) : Prop where
  mantissa : magnitude.mantissa < 2 ^ 53
  exponent : magnitude.exponent ≤ 971
  lopsided : magnitude.lopsided = true → magnitude.mantissa = 2 ^ 52

theorem ofDouble_of_ofFloat {x : Float} {negative : Bool} {magnitude : Binary}
    (finite : FloatParts.ofFloat x = .finite negative magnitude) :
    OfDouble magnitude := by
  have small (bits : Nat) : bits % twoTo 52 < 2 ^ 52 := Nat.mod_lt _ (by decide)
  have field (bits : Nat) : bits / twoTo 52 % twoTo 11 < 2048 :=
    Nat.mod_lt _ (by decide)
  unfold FloatParts.ofFloat FloatParts.ofBits at finite
  generalize x.toBits.toNat = bits at finite
  have fraction := small bits
  have biased := field bits
  have power : twoTo 52 = 2 ^ 52 := rfl
  simp only at finite
  split_ifs at finite with special zero subnormal
  · obtain ⟨-, rfl⟩ := FloatParts.finite.inj finite
    exact ⟨by simp only; omega, by simp, by simp⟩
  · obtain ⟨-, rfl⟩ := FloatParts.finite.inj finite
    refine ⟨by simp only; omega, by simp only; omega, fun lopsided => ?_⟩
    simp only [Bool.and_eq_true, decide_eq_true_eq] at lopsided
    simp only
    omega

/-- A decimal that is read back as a number. -/
structure Readable (decimal : Decimal) : Prop where
  word : decimal.digits < wordLimit
  leading : decimal.exponent + (Nat.toDigits 10 decimal.digits).length ≤ 310
  product : 0 ≤ decimal.exponent → decimal.exponent ≤ 308 ∧
    nearest decimal.digits * nearest (tenTo decimal.exponent.toNat) <
      doubleLimit

theorem Within.word {decimal : Decimal} (within : Within leading decimal) :
    decimal.digits < wordLimit := by
  obtain ⟨count, few, bound, -⟩ := within
  calc decimal.digits ≤ tenTo count := bound
    _ ≤ tenTo 19 := tenTo_le few
    _ < wordLimit := by decide

theorem Within.length_le {decimal : Decimal} (within : Within leading decimal)
    (low : leading ≤ 308) :
    decimal.exponent + (Nat.toDigits 10 decimal.digits).length ≤ 310 := by
  obtain ⟨count, -, bound, place⟩ := within
  have length : (Nat.toDigits 10 decimal.digits).length ≤ count + 1 := by
    rw [Nat.length_toDigits_le_iff (by decide) (Nat.succ_pos count)]
    exact Nat.lt_of_le_of_lt bound
      (Nat.pow_lt_pow_right (by decide) (Nat.lt_succ_self count))
  omega

theorem Within.readable {decimal : Decimal} (within : Within leading decimal)
    (low : leading ≤ 307) : decimal.Readable := by
  refine ⟨within.word, within.length_le (by omega), fun whole => ?_⟩
  obtain ⟨count, -, bound, place⟩ := within
  refine ⟨by omega, product_lt_of_moderate ?_⟩
  calc decimal.digits * tenTo decimal.exponent.toNat
      ≤ tenTo count * tenTo decimal.exponent.toNat :=
    Nat.mul_le_mul_right _ bound
    _ = tenTo (count + decimal.exponent.toNat) := (tenTo_add _ _).symm
    _ ≤ tenTo 308 := tenTo_le (by omega)

/-- A decimal beside the largest doubles that has at most seventeen digits. -/
structure Large (decimal : Decimal) : Prop where
  some : 0 < decimal.digits
  few : 292 ≤ decimal.exponent
  below : decimal.digits * tenTo decimal.exponent.toNat ≤
    twoTo 1024 - 3 * twoTo 970

theorem Large.stripZeros {decimal : Decimal} (large : Large decimal)
    (fuel : Nat) :
    Large (decimal.stripZeros fuel) := by
  refine stripZeros_keeps (fun decimal some zero large => ?_) fuel large
  obtain ⟨-, few, below⟩ := large
  refine ⟨by simp only; omega, by simp only; omega, ?_⟩
  have power : (decimal.exponent + 1).toNat = 1 + decimal.exponent.toNat := by
    omega
  have split : decimal.digits / 10 * tenTo 1 = decimal.digits :=
    Nat.div_mul_cancel (Nat.dvd_of_mod_eq_zero zero)
  simp only [power, tenTo_add]
  rwa [← Nat.mul_assoc, split]

theorem Large.readable {decimal : Decimal} (large : Large decimal)
    (within : Within 308 decimal) : decimal.Readable := by
  refine ⟨within.word, within.length_le le_rfl, fun _ => ⟨?_, ?_⟩⟩
  · by_contra beyond
    have power : tenTo 309 ≤ tenTo decimal.exponent.toNat := tenTo_le (by omega)
    have whole : tenTo decimal.exponent.toNat ≤
        decimal.digits * tenTo decimal.exponent.toNat :=
      Nat.le_mul_of_pos_left _ large.some
    have room : twoTo 1024 - 3 * twoTo 970 < tenTo 309 := by decide +kernel
    exact absurd (power.trans (whole.trans large.below)) (Nat.not_le.mpr room)
  · exact product_lt_of_large (by have := large.few; omega) large.below

/-- Among the largest doubles the search ends with at most seventeen digits. -/
theorem large_search (some : tenTo 308 ≤ value)
    (inside : low < value ∧ value < high) (wide : low + tenTo 292 < high)
    (below : high ≤ twoTo 1024 - 3 * twoTo 970) :
    Large (search low value high 1 ends 308 17 1) := by
  rcases @search_cases 1 low value high ends 308 17 1 with
    ⟨found, digits, -, last, hit, result⟩ | ⟨missed, -⟩
  · obtain ⟨positive, -, fits⟩ := onGrid?_eq_some hit
    rw [result]
    refine ⟨positive, by simp only; omega, ?_⟩
    rw [between, show (-(308 + 1 - (found : Int))).toNat = 0 by omega] at fits
    refine le_trans ?_ below
    cases ends <;> simp [tenTo] at fits ⊢ <;> omega
  · exact absurd (missed 17 (by decide) (by decide))
      (onGrid?_ne_none ((tenTo_le (by decide)).trans some) inside wide)

theorem readable_largest : (shortest ⟨2 ^ 53 - 1, 971, false⟩).Readable := by
  have digits : shortest ⟨2 ^ 53 - 1, 971, false⟩ =
      ⟨17976931348623157, 292⟩ := by
    decide +kernel
  rw [digits]
  exact ⟨by decide, by decide +kernel, fun _ => ⟨by decide, by decide +kernel⟩⟩

/-- What the search is for, and in which interval. -/
theorem shortest_eq {magnitude : Binary} (some : magnitude.mantissa ≠ 0) :
    shortest magnitude =
      let value := 4 * magnitude.mantissa * twoTo (magnitude.exponent - 2).toNat
      let denominator := twoTo (-(magnitude.exponent - 2)).toNat
      let unit := value / (4 * magnitude.mantissa)
      stripZeros 20
      (search (value - (if magnitude.lopsided then 1 else 2) * unit) value
        (value + 2 * unit) denominator (magnitude.mantissa % 2 == 0)
        (leadingExponent value denominator) 17 1) :=
  if_neg some

theorem readable_top {mantissa : Nat} (below : mantissa < 2 ^ 53 - 1)
    (top : tenTo 308 ≤ 4 * mantissa * twoTo 969)
    (leading : leadingExponent (4 * mantissa * twoTo 969) 1 = 308) :
    (shortest ⟨mantissa, 971, false⟩).Readable := by
  have some : 0 < mantissa := by
    by_contra zero
    rw [Nat.eq_zero_of_not_pos zero] at top
    exact absurd top (by decide +kernel)
  rw [shortest_eq (Nat.ne_of_gt some)]
  simp only [show ((971 : Int) - 2).toNat = 969 from rfl,
    show (-((971 : Int) - 2)).toNat = 0 from rfl, show twoTo 0 = 1 from
      rfl, leading,
    Nat.mul_div_cancel_left _ (show 0 < 4 * mantissa by omega),
    Bool.false_eq_true, if_false]
  have distance : (4 * mantissa + 2) * twoTo 969 ≤
      twoTo 1024 - 3 * twoTo 970 := by
    calc (4 * mantissa + 2) * twoTo 969 ≤ (4 * (2 ^ 53 - 2) + 2) * twoTo 969 :=
          Nat.mul_le_mul_right _ (by omega)
      _ = twoTo 1024 - 3 * twoTo 970 := by decide +kernel
  have grid : tenTo 292 < 4 * twoTo 969 := by decide +kernel
  have unit : 0 < twoTo 969 := by decide +kernel
  have room : 2 * twoTo 969 ≤ 4 * mantissa * twoTo 969 :=
    Nat.mul_le_mul_right _ (by omega)
  rw [Nat.add_mul] at distance
  have belowPower : Below (4 * mantissa * twoTo 969) 1 (308 + 1) := by
    rw [← leading]
    exact below_leadingExponent (by decide)
  generalize 4 * mantissa * twoTo 969 = value at *
  generalize twoTo 969 = unit at *
  exact ((large_search top (by omega) (by omega) distance).stripZeros
      20).readable
    ((within_search belowPower).stripZeros 20)

/-- Only the largest doubles have a digit at `10 ^ 308`. -/
theorem largest_of_leading {magnitude : Binary} (double : OfDouble magnitude)
    (top : tenTo 308 ≤ 4 * magnitude.mantissa *
      twoTo (magnitude.exponent - 2).toNat) :
    magnitude = ⟨magnitude.mantissa, 971, false⟩ := by
  obtain ⟨mantissa, exponent, lopsided⟩ := magnitude
  obtain ⟨small, low, apart⟩ := double
  simp only at small low apart top
  have room : 4 * 2 ^ 53 * twoTo 968 < tenTo 308 := by decide +kernel
  have last : exponent = 971 := by
    by_contra other
    have power : twoTo (exponent - 2).toNat ≤ twoTo 968 := twoTo_le (by omega)
    have bound : 4 * mantissa * twoTo (exponent - 2).toNat ≤
        4 * 2 ^ 53 * twoTo 968 :=
      Nat.mul_le_mul (by omega) power
    exact absurd (top.trans bound) (Nat.not_le.mpr room)
  subst last
  cases lopsided with
  | false => rfl
  | true =>
      rw [apart rfl, show ((971 : Int) - 2).toNat = 969 from rfl] at top
      exact absurd top (by decide +kernel)

/-- The shortest decimal of a double is read back as a number. -/
theorem readable_shortest {magnitude : Binary} (double : OfDouble magnitude) :
    (shortest magnitude).Readable := by
  rcases Nat.eq_zero_or_pos magnitude.mantissa with zero | some
  · rw [shortest, if_pos zero]
    exact ⟨by decide, by decide, fun _ => ⟨by decide, by decide +kernel⟩⟩
  · have below := @below_leadingExponent
      (4 * magnitude.mantissa * twoTo (magnitude.exponent - 2).toNat) _
      (twoTo_pos (-(magnitude.exponent - 2)).toNat)
    have reached :=
      @tenTo_leadingExponent_le _ (twoTo (-(magnitude.exponent - 2)).toNat)
      (Nat.mul_pos (by omega) (twoTo_pos (magnitude.exponent - 2).toNat) :
        0 < 4 * magnitude.mantissa * twoTo (magnitude.exponent - 2).toNat)
    generalize place : leadingExponent (4 * magnitude.mantissa *
      twoTo (magnitude.exponent - 2).toNat)
      (twoTo (-(magnitude.exponent - 2)).toNat) = leading
      at below reached
    rcases Int.lt_or_le leading 308 with moderate | large
    · rw [shortest_eq (Nat.ne_of_gt some)]
      simp only [place]
      exact ((within_search below).stripZeros 20).readable (by omega)
    · have high :=
        (Nat.le_mul_of_pos_left _ (twoTo_pos _)).trans (reached (by omega))
      have same := largest_of_leading double ((tenTo_le (by omega)).trans high)
      have small := double.mantissa
      generalize magnitude.mantissa = mantissa at *
      subst same
      have last : leading = 308 := by
        by_contra other
        have bound : 4 * mantissa * twoTo 969 ≤ 4 * 2 ^ 53 * twoTo 969 :=
          Nat.mul_le_mul_right _ (by omega)
        have room : 4 * 2 ^ 53 * twoTo 969 < tenTo 309 := by decide +kernel
        exact absurd ((tenTo_le (by omega)).trans (high.trans bound))
          (Nat.not_le.mpr room)
      subst last
      rcases Nat.eq_or_lt_of_le (Nat.le_sub_one_of_lt small) with
        greatest | less
      · rw [greatest]
        exact readable_largest
      · exact readable_top less high place

end LintMend.Decimal
