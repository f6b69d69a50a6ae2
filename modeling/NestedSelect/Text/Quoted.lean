import NestedSelect.Text.Printable

/-!
Quoted text, as error messages show it.

A text stands in single quotes, or in double quotes if it holds a single quote and no double
one. What has no visible form is written as an escape.
-/

namespace NestedSelect.Text

/-- A number in lower-case hexadecimal with at least `width` digits. -/
def hexadecimal (width value : Nat) : List Char :=
  let digits := Nat.toDigits 16 value
  List.replicate (width - digits.length) '0' ++ digits

def quoteFor (cs : List Char) : Char :=
  if cs.contains '\'' && !cs.contains '"' then '"' else '\''

private def escapeNamed? (quote c : Char) : Option (List Char) :=
  if c == quote || c == '\\' then some ['\\', c]
  else if c == '\t' then some ['\\', 't']
  else if c == '\n' then some ['\\', 'n']
  else if c == '\r' then some ['\\', 'r']
  else none

def quotedChar (quote c : Char) : List Char :=
  match escapeNamed? quote c with
  | some escape => escape
  | none =>
      if isPrintable c then [c]
      else if c.toNat ≤ 0xFF then '\\' :: 'x' :: hexadecimal 2 c.toNat
      else if c.toNat ≤ 0xFFFF then '\\' :: 'u' :: hexadecimal 4 c.toNat
      else '\\' :: 'U' :: hexadecimal 8 c.toNat

def quoted (s : String) : String :=
  let cs := s.toList
  let quote := quoteFor cs
  String.ofList (quote :: cs.flatMap (quotedChar quote) ++ [quote])

def quotedByte (quote : Char) (byte : UInt8) : List Char :=
  let c := Char.ofNat byte.toNat
  match escapeNamed? quote c with
  | some escape => escape
  | none =>
      if 0x20 ≤ byte.toNat && byte.toNat < 0x7F then [c]
      else '\\' :: 'x' :: hexadecimal 2 byte.toNat

def quotedBytes (bytes : List UInt8) : String :=
  let quote := quoteFor (bytes.map (fun byte => Char.ofNat byte.toNat))
  String.ofList ('b' :: quote :: bytes.flatMap (quotedByte quote) ++ [quote])

end NestedSelect.Text
