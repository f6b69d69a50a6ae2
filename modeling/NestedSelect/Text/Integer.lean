import NestedSelect.Number.Power
import NestedSelect.Text.Blank
import NestedSelect.Text.DecimalDigit

/-!
Integers written as text.

A reading accepts blanks around the number, one sign, digits of any script, and single low
lines between digits. A number of more than `integerDigitLimit` digits is refused.
-/

namespace NestedSelect.Text

def integerDigitLimit : Nat := 4300

/-- Blanks that may stand around a number: the separators U+001C to U+001F may not. -/
def isBlankAroundNumber (c : Char) : Bool :=
  isBlank c && !(0x1C ≤ c.toNat && c.toNat ≤ 0x1F)

def digitSequence? (digitOf : Char → Option Nat) : List Char → Option (List Nat)
  | [] => none
  | [c] => (digitOf c).map ([·])
  | c :: '_' :: rest => do
      let value ← digitOf c
      (digitSequence? digitOf rest).map (value :: ·)
  | c :: rest => do
      let value ← digitOf c
      (digitSequence? digitOf rest).map (value :: ·)

/-- The number that decimal digits stand for, most significant first. -/
def numberOfDigits (digits : List Nat) : Nat :=
  digits.foldl (fun number digit => 10 * number + digit) 0

private def unsigned? (digitOf : Char → Option Nat) (cs : List Char) : Option Nat := do
  let digits ← digitSequence? digitOf cs
  if digits.length ≤ integerDigitLimit then some (numberOfDigits digits) else none

private def signed? (digitOf : Char → Option Nat) : List Char → Option Int
  | '+' :: cs => (unsigned? digitOf cs).map Int.ofNat
  | '-' :: cs => (unsigned? digitOf cs).map (- Int.ofNat ·)
  | cs => (unsigned? digitOf cs).map Int.ofNat

private def between (blank : Char → Bool) (cs : List Char) : List Char :=
  ((cs.dropWhile blank).reverse.dropWhile blank).reverse

def integer? (s : String) : Option Int :=
  signed? digitValue? (between isBlankAroundNumber s.toList)

/-- The integer that a byte string stands for: only the digits and blanks of ASCII count. -/
def integerOfBytes? (bytes : List UInt8) : Option Int :=
  let ascii (p : Char → Bool) (c : Char) := c.toNat < 128 && p c
  signed? (fun c => if ascii Char.isDigit c then some (c.toNat - 48) else none)
    (between (ascii isBlankAroundNumber) (bytes.map (fun byte => Char.ofNat byte.toNat)))

def isWritable (n : Int) : Bool := n.natAbs < Number.tenTo integerDigitLimit

theorem isWritable_of_le {n m : Int} (smaller : n.natAbs ≤ m.natAbs)
    (few : isWritable m = true) : isWritable n = true := by
  unfold isWritable at few ⊢
  rw [decide_eq_true_iff] at few ⊢
  exact Nat.lt_of_le_of_lt smaller few

end NestedSelect.Text
