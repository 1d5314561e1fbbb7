import LintMend.Arithmetic

/-!
# Binary numbers taken apart

A double is a sign and a magnitude `mantissa * 2 ^ exponent`, or no number at
all. Everything that writes a double starts from these parts, in exact
arithmetic.
-/

namespace LintMend

/-- A finite magnitude: `mantissa * 2 ^ exponent`. -/
structure Binary where
  mantissa : Nat
  exponent : Int
  /-- Whether the next smaller number is half as far away as the next larger
  one. -/
  lopsided : Bool
  deriving DecidableEq, Repr

inductive FloatParts
  | finite (negative : Bool) (magnitude : Binary)
  | infinite (negative : Bool)
  | notANumber
  deriving DecidableEq, Repr

namespace FloatParts

def ofBits (bits : Nat) : FloatParts :=
  let negative := decide (signedLimit ≤ bits)
  let biased : Nat := bits / twoTo 52 % twoTo 11
  let fraction : Nat := bits % twoTo 52
  if biased = 2047 then
    if fraction = 0 then infinite negative else notANumber
  else if biased = 0 then finite negative ⟨fraction, -1074, false⟩
  else
    finite negative
      ⟨fraction + twoTo 52, (biased : Int) - 1075,
        fraction = 0 && decide (1 < biased)⟩

def ofFloat (x : Float) : FloatParts :=
  ofBits x.toBits.toNat

end FloatParts

namespace Binary

/-- The value as a quotient of naturals. -/
def quotient (magnitude : Binary) : Nat × Nat :=
  (magnitude.mantissa * twoTo magnitude.exponent.toNat,
    twoTo (-magnitude.exponent).toNat)

end Binary

/-- The place of a double in the total order of bit patterns, where minus zero
comes before zero. -/
def Binary.orderKey (x : Float) : Int :=
  let bits := x.toBits.toNat
  if bits < signedLimit then (bits : Int)
  else -((bits - signedLimit : Nat) : Int) - 1

end LintMend
