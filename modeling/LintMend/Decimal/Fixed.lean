import LintMend.Decimal.Binary

/-!
# Decimals with a fixed number of places

The exact value of a double, rounded to the nearest multiple of a power of ten;
a half goes to the even neighbour.
-/

namespace LintMend.Decimal

/-- The nearest integer to a quotient, the even one of two. -/
def roundDiv (numerator denominator : Nat) : Nat :=
  let below := numerator / denominator
  let twice := 2 * (numerator % denominator)
  if twice < denominator ∨ (twice = denominator ∧ below % 2 = 0) then below
  else below + 1

/-- A whole number to the 53 bits of a double, as if doubles went on
without end. -/
def nearest (n : Nat) : Nat :=
  let step := twoTo (n.log2 - 52)
  roundDiv n step * step

/-- The first number that no double is nearest to: halfway from the largest
double to the next power of two. -/
def doubleLimit : Nat :=
  twoTo 1024 - twoTo 970

/-- A count of `10 ^ -places`, written with that many places. -/
def placesText (places count : Nat) : String :=
  let digits := (toString count).toList
  let padded := List.replicate (places + 1 - digits.length) '0' ++ digits
  let whole := padded.take (padded.length - places)
  let fraction := padded.drop (padded.length - places)
  String.ofList (if places = 0 then whole else whole ++ '.' :: fraction)

/-- The text of a double with a fixed number of places. -/
def fixed (places : Nat) (x : Float) : String :=
  match FloatParts.ofFloat x with
  | .finite negative magnitude =>
    let (numerator, denominator) := magnitude.quotient
    (if negative then "-" else "")
      ++ placesText places (roundDiv (numerator * tenTo places) denominator)
  | .infinite negative => if negative then "-inf" else "inf"
  | .notANumber => "NaN"

end LintMend.Decimal
