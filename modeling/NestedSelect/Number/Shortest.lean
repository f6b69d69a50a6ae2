import NestedSelect.Number.Binary64

/-!
The shortest decimal that reads back as a given double, and how it is written.

For one digit, two digits and so on the two neighbours of the value on that decimal grid are
tried; the first grid with a neighbour inside the rounding interval wins, and of two such
neighbours the nearer.
-/

namespace NestedSelect.Number

structure Decimal where
  digits : Nat
  exponent : Int
  deriving DecidableEq

/-- The values that round to one double: from `low` to `high` around `value`, all over `den`. -/
structure Interval where
  low : Nat
  value : Nat
  high : Nat
  den : Nat
  closed : Bool

/-- The rounding interval of a magnitude that is not zero. Below a power of two the grid is twice
as fine. -/
def Interval.of (x : Magnitude) : Interval :=
  let narrow := x.mantissa == twoTo 52 && x.exponent != leastExponent
  let scale (n : Nat) : Nat := n * twoTo x.exponent.toNat
  { low := scale (4 * x.mantissa - if narrow then 1 else 2)
    value := scale (4 * x.mantissa)
    high := scale (4 * x.mantissa + 2)
    den := 4 * twoTo (-x.exponent).toNat
    closed := x.mantissa % 2 == 0 }

def Interval.contains (i : Interval) (num den : Nat) : Bool :=
  let point := num * i.den
  if i.closed then i.low * den ≤ point && point ≤ i.high * den
  else i.low * den < point && point < i.high * den

def leadingPower (num den : Nat) : Int :=
  if den ≤ num then ((Nat.toDigits 10 (num / den)).length : Int) - 1
  else
    let length := (Nat.toDigits 10 (den / num)).length
    if den ≤ num * tenTo (length - 1) then -((length : Int) - 1) else -(length : Int)

/-- The candidate of the interval on the grid of `10 ^ exponent`, if there is one. -/
def Interval.candidate? (i : Interval) (exponent : Int) : Option Decimal :=
  let up := tenTo exponent.toNat
  let down := tenTo (-exponent).toNat
  -- the value is `num / den` grid steps
  let num := i.value * down
  let den := i.den * up
  let lower := num / den
  let upper := lower + 1
  let inside (steps : Nat) : Bool := i.contains (steps * up) down
  let distanceBelow := num - lower * den
  let distanceAbove := upper * den - num
  match inside lower && 0 < lower, inside upper with
  | true, true =>
      if distanceBelow < distanceAbove then some ⟨lower, exponent⟩
      else if distanceAbove < distanceBelow then some ⟨upper, exponent⟩
      else some ⟨if lower % 2 == 0 then lower else upper, exponent⟩
  | true, false => some ⟨lower, exponent⟩
  | false, true => some ⟨upper, exponent⟩
  | false, false => none

private def searchFrom (i : Interval) (leading : Int) : Nat → Option Decimal
  | 0 => none
  | grids + 1 =>
      match i.candidate? (leading - (16 - grids : Int)) with
      | some found => some found
      | none => searchFrom i leading grids

private def dropZeros (exponent : Int) : List Char → Decimal
  | [] => ⟨0, exponent⟩
  | digits =>
      let zeros := (digits.reverse.takeWhile (· == '0')).length
      ⟨(digits.take (digits.length - zeros)).foldl (fun n c => 10 * n + (c.toNat - 48)) 0,
        exponent + zeros⟩

/-- The shortest decimal that rounds to the magnitude, without trailing zeros. Seventeen digits
are always enough. -/
def shortest (x : Magnitude) : Decimal :=
  let i := Interval.of x
  match searchFrom i (leadingPower i.value i.den) 17 with
  | some found => dropZeros found.exponent (Nat.toDigits 10 found.digits)
  | none => ⟨0, 0⟩

/-- How numbers are written: the least and the greatest power of ten of a leading digit that is
written without an exponent, and the least number of digits of an exponent. -/
structure FloatFormat where
  leastPlain : Int
  greatestPlain : Int
  exponentDigits : Nat

/-- Positional from `10 ^ -4` up to `10 ^ 15`, an exponent of two digits or more beyond. -/
def plainFormat : FloatFormat := ⟨-4, 15, 2⟩

private def zeros (count : Int) : List Char := List.replicate count.toNat '0'

/-- A positive decimal in the given format; a whole number keeps one decimal place. -/
def Decimal.write (format : FloatFormat) (d : Decimal) : List Char :=
  let digits := Nat.toDigits 10 d.digits
  let point : Int := digits.length + d.exponent
  if format.leastPlain ≤ point - 1 && point - 1 ≤ format.greatestPlain then
    if point ≤ 0 then '0' :: '.' :: zeros (-point) ++ digits
    else if 0 ≤ d.exponent then digits ++ zeros d.exponent ++ ['.', '0']
    else digits.take point.toNat ++ '.' :: digits.drop point.toNat
  else
    let power := point - 1
    let written := Nat.toDigits 10 power.natAbs
    let fraction := if digits.length ≤ 1 then [] else '.' :: digits.drop 1
    digits.take 1 ++ fraction ++ 'e' :: (if power < 0 then '-' else '+') ::
      (zeros ((format.exponentDigits : Int) - written.length) ++ written)

def Binary64.text (x : Binary64) : String :=
  match x.meaning with
  | .notANumber => "nan"
  | .infinite negative => if negative then "-inf" else "inf"
  | .finite negative magnitude =>
      let body :=
        if magnitude.mantissa == 0 then ['0', '.', '0'] else (shortest magnitude).write plainFormat
      String.ofList (if negative then '-' :: body else body)

end NestedSelect.Number
