import NestedSelect.Calendar.IsoReader
import NestedSelect.Json.Reader
import NestedSelect.Schema.Model
import NestedSelect.Text.Utf8
import NestedSelect.Value.Conversion

/-!
Making values of what a database delivers as text.

Main statement: nothing but ill-formed UTF-8 makes the decoding of JSON fail; other texts that are
no JSON are handed back.
-/

namespace NestedSelect.Hydration

inductive Decoded where
  | value (v : Value)
  | undecoded (v : Value)

def Decoded.payload : Decoded → Value
  | .value v => v
  | .undecoded v => v

def Decoded.isValue : Decoded → Bool
  | .value _ => true
  | .undecoded _ => false

def decodeText (s : String) : Decoded :=
  match Json.read? s with
  | some v => .value v
  | none => .undecoded (.text s)

/-- The value that JSON text stands for. Bytes are UTF-8, and what is no text is itself. -/
def decodeJson : Value → Outcome Decoded
  | .text s => .ok (decodeText s)
  | .bytes data =>
      match Text.decodeUtf8? data with
      | some cs => .ok (decodeText (String.ofList cs))
      | none => misused .notUtf8
  | v => .ok (.value v)

theorem exists_decodeJson_eq_ok_iff {v : Value} :
    (∃ decoded, decodeJson v = .ok decoded) ↔
      ∀ data, v = .bytes data → (Text.decodeUtf8? data).isSome = true := by
  cases v with
  | bytes data =>
      cases read : Text.decodeUtf8? data with
      | none => simp [decodeJson, read, misused]
      | some cs => simp [decodeJson, read]
  | _ => simp [decodeJson]

/-- A number of rows. Null counts as none, and what is no number is itself. -/
def asCount : Value → Outcome Value
  | .null => .ok (.int 0)
  | v =>
      match v.toInt with
      | .ok n => .ok (.int n)
      | .error (.misuse .tooLarge) => misused .tooLarge
      | .error _ => .ok v

/-- A final Z, and every other one along with it, spelled out as an offset of zero. -/
def spellZulu (s : String) : String :=
  let cs := s.toList
  if cs.getLast? = some 'Z' then
    String.ofList (cs.flatMap (fun c => if c == 'Z' then "+00:00".toList else [c]))
  else s

def coerceDateTime (zoned : Bool) (s : String) : Value :=
  match Calendar.DateTime.ofIso? (spellZulu s) with
  | none => .text s
  | some d => .datetime (if zoned then d else d.withoutOffset)

def coerceDate (s : String) : Value :=
  match Calendar.Date.ofIso? (String.ofList (s.toList.take 10)) with
  | none => .text s
  | some d => .date d

/-- A value of the type of its column, as far as texts and integers tell. -/
def coerce : Option ColumnType → Value → Value
  | some (.datetime zoned), .text s => coerceDateTime zoned s
  | some .date, .text s => coerceDate s
  | some .boolean, .int n => .bool (n != 0)
  | _, v => v

end NestedSelect.Hydration
