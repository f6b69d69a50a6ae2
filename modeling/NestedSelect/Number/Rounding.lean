import NestedSelect.Number.Power

/-!
Rounding a positive quotient to the nearest number of 53 significant bits.

The result is a whole number of grid steps, and the grid step is a power of two: as small as 53
bits allow, but never below `2 ^ leastExponent`. A tie goes to the even multiple.
-/

namespace NestedSelect.Number

structure Magnitude where
  mantissa : Nat
  exponent : Int
  deriving DecidableEq

def leastExponent : Int := -1074

/-- The quotient `num / (den * 2 ^ exponent)` as two whole numbers. -/
def overPower (num den : Nat) (exponent : Int) : Nat × Nat :=
  if 0 ≤ exponent then (num, den * twoTo exponent.toNat)
  else (num * twoTo (-exponent).toNat, den)

def roundEven (num den : Nat) : Nat :=
  let whole := num / den
  let rest := num % den
  if 2 * rest < den then whole
  else if den < 2 * rest then whole + 1
  else if whole % 2 = 0 then whole else whole + 1

def gridExponent (num den : Nat) : Int :=
  let guess : Int := (num.log2 : Int) - (den.log2 : Int) - 52
  let scaled := overPower num den guess
  max leastExponent (if scaled.1 / scaled.2 < twoTo 52 then guess - 1 else guess)

def nearest (num den : Nat) : Magnitude :=
  let exponent := gridExponent num den
  let scaled := overPower num den exponent
  ⟨roundEven scaled.1 scaled.2, exponent⟩

def Magnitude.floor (x : Magnitude) : Nat :=
  if 0 ≤ x.exponent then x.mantissa * twoTo x.exponent.toNat
  else x.mantissa / twoTo (-x.exponent).toNat

def Magnitude.ceil (x : Magnitude) : Nat :=
  if 0 ≤ x.exponent then x.mantissa * twoTo x.exponent.toNat
  else (x.mantissa + (twoTo (-x.exponent).toNat - 1)) / twoTo (-x.exponent).toNat

def Magnitude.overflows (x : Magnitude) : Bool := twoTo 1024 ≤ x.floor

end NestedSelect.Number
