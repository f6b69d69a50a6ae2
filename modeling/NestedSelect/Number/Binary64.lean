import NestedSelect.Number.Rounding

/-!
Doubles as their 64 bits, with exact arithmetic on what the bits stand for.
-/

namespace NestedSelect.Number

/-- A double-precision number, given by its bits. -/
structure Binary64 where
  bits : UInt64
  deriving DecidableEq

namespace Binary64

inductive Meaning where
  | notANumber
  | infinite (negative : Bool)
  | finite (negative : Bool) (magnitude : Magnitude)
  deriving DecidableEq

def meaning (x : Binary64) : Meaning :=
  let code : Nat := x.bits.toNat
  let negative := code / twoTo 63 == 1
  let biased : Nat := code / twoTo 52 % 2048
  let fraction : Nat := code % twoTo 52
  if biased == 2047 then
    if fraction == 0 then .infinite negative else .notANumber
  else if biased == 0 then .finite negative ⟨fraction, leastExponent⟩
  else .finite negative ⟨twoTo 52 + fraction, (biased : Int) - 1075⟩

private def signed (negative : Bool) (code : Nat) : Binary64 :=
  ⟨UInt64.ofNat (code + if negative then twoTo 63 else 0)⟩

def notANumber : Binary64 := signed false 0x7FF8000000000000

def infinite (negative : Bool) : Binary64 := signed negative 0x7FF0000000000000

/-- The double of a rounded magnitude; infinity if it is too large. -/
def ofMagnitude (negative : Bool) (x : Magnitude) : Binary64 :=
  if x.overflows then infinite negative
  else if x.mantissa == 0 then signed negative 0
  else signed negative ((x.exponent - leastExponent).toNat * twoTo 52 + x.mantissa)

/-- The double nearest to `digits * 10 ^ exponent`. Far exponents are decided by their size. -/
def ofDecimal (negative : Bool) (digits : Nat) (exponent : Int) : Binary64 :=
  if digits == 0 then signed negative 0
  else
    let size : Int := (Nat.toDigits 10 digits).length + exponent
    if 310 < size then infinite negative
    else if size < -330 then signed negative 0
    else if 0 ≤ exponent then ofMagnitude negative (nearest (digits * tenTo exponent.toNat) 1)
    else ofMagnitude negative (nearest digits (tenTo (-exponent).toNat))

def isZero (x : Binary64) : Bool :=
  match x.meaning with
  | .finite _ magnitude => magnitude.mantissa == 0
  | _ => false

/-- Whether two doubles are the same number; a not-a-number is no number. -/
def isSame (x y : Binary64) : Bool :=
  match x.meaning with
  | .notANumber => false
  | _ => x == y || (x.isZero && y.isZero)

def isInteger (x : Binary64) (n : Int) : Bool :=
  match x.meaning with
  | .finite negative magnitude =>
      magnitude.floor == magnitude.ceil && magnitude.floor == n.natAbs &&
        (n == 0 || negative == decide (n < 0))
  | _ => false

/-- Whether a whole number is greater than a double; never of a not-a-number. -/
def below (x : Binary64) (n : Int) : Bool :=
  match x.meaning with
  | .notANumber => false
  | .infinite negative => negative
  | .finite negative magnitude =>
      let sign : Int := if negative then -1 else 1
      let scaled := overPower magnitude.mantissa 1 (-magnitude.exponent)
      sign * scaled.1 < n * scaled.2

end Binary64

end NestedSelect.Number
