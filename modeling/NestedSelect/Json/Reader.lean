import NestedSelect.Number.Binary64
import NestedSelect.Record
import NestedSelect.Text.Integer
import NestedSelect.Value.Basic

/-!
Reading JSON text.

Beside standard JSON the words `NaN`, `Infinity` and `-Infinity` are numbers. A number without a
fraction and an exponent is an integer of at most `Text.integerDigitLimit` digits, any other is
the nearest double. Of equal names in an object the last counts. Half of a surrogate pair that
stands alone is read as the replacement character.
-/

namespace NestedSelect.Json

def isBlank (c : Char) : Bool := c == ' ' || c == '\t' || c == '\n' || c == '\r'

private def skipBlanks (cs : List Char) : List Char := cs.dropWhile isBlank

def hexDigit? (c : Char) : Option Nat :=
  if '0' ≤ c && c ≤ '9' then some (c.toNat - 48)
  else if 'a' ≤ c && c ≤ 'f' then some (c.toNat - 87)
  else if 'A' ≤ c && c ≤ 'F' then some (c.toNat - 55)
  else none

private def hexNumber? (digits : List Char) : Option Nat :=
  digits.foldl (fun number c => do some (16 * (← number) + (← hexDigit? c))) (some 0)

private def isHighHalf (code : Nat) : Bool := 0xD800 ≤ code && code < 0xDC00

private def isLowHalf (code : Nat) : Bool := 0xDC00 ≤ code && code < 0xE000

private def scalarOf (code : Nat) : Char :=
  if code.isValidChar then Char.ofNat code else Char.ofNat 0xFFFD

private def joinHalves (high low : Nat) : Char :=
  scalarOf (0x10000 + (high - 0xD800) * 0x400 + (low - 0xDC00))

private def shortEscape? : Char → Option Char
  | '"' => some '"'
  | '\\' => some '\\'
  | '/' => some '/'
  | 'b' => some (Char.ofNat 8)
  | 'f' => some (Char.ofNat 12)
  | 'n' => some '\n'
  | 'r' => some '\r'
  | 't' => some '\t'
  | _ => none

/-- The rest of a string after its opening quote. `pending` is the first half of a surrogate
pair whose second half may follow, `read` what has been read, last character first. -/
def readStringAfter (pending : Option Nat) (read : List Char) :
    List Char → Option (List Char × List Char)
  | [] => none
  | '"' :: rest => some ((settle pending read).reverse, rest)
  | '\\' :: 'u' :: a :: b :: c :: d :: rest => do
      let code ← hexNumber? [a, b, c, d]
      match pending with
      | some high =>
          if isLowHalf code then readStringAfter none (joinHalves high code :: read) rest
          else if isHighHalf code then readStringAfter (some code) (settle pending read) rest
          else readStringAfter none (scalarOf code :: settle pending read) rest
      | none =>
          if isHighHalf code then readStringAfter (some code) read rest
          else readStringAfter none (scalarOf code :: read) rest
  | '\\' :: c :: rest => do
      let escaped ← shortEscape? c
      readStringAfter none (escaped :: settle pending read) rest
  | c :: rest =>
      if c == '\\' || c.toNat < 0x20 then none
      else readStringAfter none (c :: settle pending read) rest
where
  settle (pending : Option Nat) (read : List Char) : List Char :=
    match pending with
    | some _ => Char.ofNat 0xFFFD :: read
    | none => read

def digitRun (cs : List Char) : List Nat × List Char :=
  ((cs.takeWhile Char.isDigit).map (fun c => c.toNat - 48), cs.dropWhile Char.isDigit)

private def wholeDigits? : List Char → Option (List Nat × List Char)
  | '0' :: rest => some ([0], rest)
  | cs => match digitRun cs with
      | ([], _) => none
      | run => some run

private def fractionDigits : List Char → List Nat × List Char
  | '.' :: rest => match digitRun rest with
      | ([], _) => ([], '.' :: rest)
      | run => run
  | cs => ([], cs)

private def exponentOf? (negative : Bool) (cs : List Char) : Option (Int × List Char) :=
  match digitRun cs with
  | ([], _) => none
  | (digits, rest) =>
      let size : Int := Text.numberOfDigits digits
      some (if negative then -size else size, rest)

private def exponent? : List Char → Option (Int × List Char)
  | mark :: rest =>
      if mark == 'e' || mark == 'E' then
        match rest with
        | '-' :: rest => exponentOf? true rest
        | '+' :: rest => exponentOf? false rest
        | rest => exponentOf? false rest
      else none
  | [] => none

private def readUnsigned? (negative : Bool) (cs : List Char) : Option (Value × List Char) := do
  let (whole, rest) ← wholeDigits? cs
  let (fraction, rest) := fractionDigits rest
  match fraction, exponent? rest with
  | [], none =>
      if Text.integerDigitLimit < whole.length then none
      else
        let size : Int := Text.numberOfDigits whole
        some (.int (if negative then -size else size), rest)
  | _, power =>
      let (exponent, rest) := power.getD (0, rest)
      some (.float (.ofDecimal negative (Text.numberOfDigits (whole ++ fraction))
        (exponent - fraction.length)), rest)

def readNumber? : List Char → Option (Value × List Char)
  | '-' :: cs => readUnsigned? true cs
  | cs => readUnsigned? false cs

private def words : List (List Char × Value) :=
  [("null".toList, .null), ("true".toList, .bool true), ("false".toList, .bool false),
    ("NaN".toList, .float .notANumber), ("Infinity".toList, .float (.infinite false)),
    ("-Infinity".toList, .float (.infinite true))]

private def readWord? (cs : List Char) : Option (Value × List Char) :=
  (words.find? (fun word => word.1.isPrefixOf cs)).map
    (fun word => (word.2, cs.drop word.1.length))

mutual

def readValue? : (fuel : Nat) → List Char → Option (Value × List Char)
  | 0, _ => none
  | fuel + 1, cs =>
      match cs with
      | '"' :: rest => (readStringAfter none [] rest).map
          (fun read => (.text (String.ofList read.1), read.2))
      | '[' :: rest =>
          match skipBlanks rest with
          | ']' :: rest => some (.list [], rest)
          | rest => readItems? fuel [] rest
      | '\x7b' :: rest =>
          match skipBlanks rest with
          | '\x7d' :: rest => some (.record [], rest)
          | rest => readMembers? fuel [] rest
      | cs => match readWord? cs with
          | some found => some found
          | none => readNumber? cs

/-- The items of an array from the next one on; `read` holds those before, last one first. -/
def readItems? : (fuel : Nat) → List Value → List Char → Option (Value × List Char)
  | 0, _, _ => none
  | fuel + 1, read, cs => do
      let (value, rest) ← readValue? fuel cs
      match skipBlanks rest with
      | ',' :: rest => readItems? fuel (value :: read) (skipBlanks rest)
      | ']' :: rest => some (.list (value :: read).reverse, rest)
      | _ => none

/-- The members of an object from the next one on; `read` holds those before, last one first. -/
def readMembers? : (fuel : Nat) → List (String × Value) → List Char → Option (Value × List Char)
  | 0, _, _ => none
  | fuel + 1, read, cs =>
      match cs with
      | '"' :: rest => do
          let (name, rest) ← readStringAfter none [] rest
          match skipBlanks rest with
          | ':' :: rest => do
              let (value, rest) ← readValue? fuel (skipBlanks rest)
              let read := (String.ofList name, value) :: read
              match skipBlanks rest with
              | ',' :: rest => readMembers? fuel read (skipBlanks rest)
              | '\x7d' :: rest => some (.record (Record.ofPairs read.reverse), rest)
              | _ => none
          | _ => none
      | _ => none

end

theorem readValue?_word {c : Char} {cs rest : List Char} {value : Value} (fuel : Nat)
    (word : readWord? (c :: cs) = some (value, rest)) (text : c ≠ '"') (list : c ≠ '[')
    (record : c ≠ '\x7b') : readValue? (fuel + 1) (c :: cs) = some (value, rest) := by
  unfold readValue?
  split
  · rename_i same
    exact absurd (List.cons.inj same).1 text
  · rename_i same
    exact absurd (List.cons.inj same).1 list
  · rename_i same
    exact absurd (List.cons.inj same).1 record
  · rw [word]

/-- The value of a JSON text. Two steps for each character are more than a reading takes. -/
def readChars? (cs : List Char) : Option Value := do
  let (value, rest) ← readValue? (2 * cs.length + 2) (skipBlanks cs)
  if (skipBlanks rest).isEmpty then some value else none

def read? (s : String) : Option Value := readChars? s.toList

theorem read?_null : read? "null" = some .null := by
  have blank : skipBlanks ['n', 'u', 'l', 'l'] = ['n', 'u', 'l', 'l'] := by rfl
  have word : readWord? ['n', 'u', 'l', 'l'] = some (.null, []) := by rfl
  have value := readValue?_word 9 word (by decide) (by decide) (by decide)
  have letters : "null".toList = ['n', 'u', 'l', 'l'] := by rfl
  simp only [read?, readChars?, letters, blank, List.length_cons, List.length_nil]
  rw [value]
  rfl

end NestedSelect.Json
