import LintMend.Decimal.Binary

/-!
# The shortest decimal that reads back

Of all decimals that are nearer to a binary number than to its neighbours, the
one with the fewest digits, and of those the nearest one. Digits are tried one
count after another: if a decimal with that many digits lies in the interval, so
does one of the two next to the number.
-/

namespace LintMend

/-- A decimal magnitude: `digits * 10 ^ exponent`. -/
structure Decimal where
  digits : Nat
  exponent : Int
  deriving DecidableEq, Repr

namespace Decimal

/-- Takes zeros off the end of the digits, at most as many as the fuel. -/
def stripZeros : Nat → Decimal → Decimal
  | 0, decimal => decimal
  | fuel + 1, decimal =>
    if decimal.digits ≠ 0 ∧ decimal.digits % 10 = 0 then
      stripZeros fuel ⟨decimal.digits / 10, decimal.exponent + 1⟩
    else decimal

/-- Whether `c * 10 ^ e` lies between two quotients of one denominator, whose
ends count or not. -/
def between (low high denominator : Nat) (ends : Bool) (c : Nat)
    (e : Int) : Bool :=
  let scaled := c * tenTo e.toNat * denominator
  let low := low * tenTo (-e).toNat
  let high := high * tenTo (-e).toNat
  if ends then decide (low ≤ scaled) && decide (scaled ≤ high)
  else decide (low < scaled) && decide (scaled < high)

/-- The exponent of ten of the leading digit of a positive quotient. -/
def leadingExponent (numerator denominator : Nat) : Int :=
  let guess : Int :=
    (Nat.toDigits 10 numerator).length - (Nat.toDigits 10 denominator).length
  if numerator * tenTo (-guess).toNat < denominator * tenTo guess.toNat then
    guess - 1
  else guess

/-- The better of the two neighbours on the grid of `10 ^ e`, if one lies in the
interval. -/
def onGrid? (low value high denominator : Nat) (ends : Bool)
    (e : Int) : Option Nat :=
  let numerator := value * tenTo (-e).toNat
  let unit := denominator * tenTo e.toNat
  let below := numerator / unit
  let above := below + 1
  let hitsBelow := 0 < below && between low high denominator ends below e
  let hitsAbove := between low high denominator ends above e
  let remainder := numerator % unit
  if hitsBelow && hitsAbove then
    if 2 * remainder < unit ∨ (2 * remainder = unit ∧ below % 2 = 0) then
      some below
    else some above
  else if hitsBelow then some below
  else if hitsAbove then some above
  else none

/-- Tries digit counts from `count` on. -/
def search (low value high denominator : Nat) (ends : Bool) (leading : Int) :
    Nat → Nat → Decimal
  | 0, count =>
    let e := leading - count
    ⟨value * tenTo (-e).toNat / (denominator * tenTo e.toNat), e⟩
  | fuel + 1, count =>
    let e := leading + 1 - count
    match onGrid? low value high denominator ends e with
    | some digits => ⟨digits, e⟩
    | none => search low value high denominator ends leading fuel (count + 1)

/-- The shortest decimal for a magnitude; zero has no digits. -/
def shortest (magnitude : Binary) : Decimal :=
  if magnitude.mantissa = 0 then ⟨0, 0⟩
  else
    let (value, denominator) := (Binary.mk (4 * magnitude.mantissa)
      (magnitude.exponent - 2) magnitude.lopsided).quotient
    let unit := value / (4 * magnitude.mantissa)
    let low := value - (if magnitude.lopsided then 1 else 2) * unit
    let high := value + 2 * unit
    let ends := magnitude.mantissa % 2 == 0
    let found := search low value high denominator ends
      (leadingExponent value denominator) 17 1
    stripZeros 20 found

/-- The decimal written out, with a point where it has a fraction. -/
def positional (decimal : Decimal) : String :=
  let digits := toString decimal.digits
  if 0 ≤ decimal.exponent then
    digits ++ String.ofList (List.replicate decimal.exponent.toNat '0')
  else
    let places := (-decimal.exponent).toNat
    let padded :=
      List.replicate (places + 1 - digits.length) '0' ++ digits.toList
    String.ofList (padded.take (padded.length - places)) ++ "."
      ++ String.ofList (padded.drop (padded.length - places))

/-- One digit in front of the point, the others behind it, and the exponent with
its sign. -/
def scientific (decimal : Decimal) : String :=
  let digits := toString decimal.digits
  let exponent : Int := decimal.exponent + digits.length - 1
  let fraction := digits.drop 1
  let mark := if exponent < 0 then "e-" else "e+"
  (digits.take 1).toString
    ++ (if fraction.isEmpty then "" else "." ++ fraction.toString) ++ mark
    ++ toString exponent.natAbs

/-- The shortest text of a double in running text: always written out, whole
numbers without a point. -/
def plain (x : Float) : String :=
  match FloatParts.ofFloat x with
  | .finite negative magnitude =>
    (if negative then "-" else "") ++ (shortest magnitude).positional
  | .infinite negative => if negative then "-inf" else "inf"
  | .notANumber => "NaN"

end Decimal

end LintMend
