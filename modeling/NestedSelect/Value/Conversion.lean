import NestedSelect.Fault
import NestedSelect.Text.Integer
import NestedSelect.Value.Basic

/-!
Conversions of values: to an integer, to a sequence of items, and comparison with an integer.
-/

namespace NestedSelect.Value

def wholePart (x : Number.Binary64) : Outcome Int :=
  match x.meaning with
  | .notANumber => misused .wrongValue
  | .infinite _ => misused .tooLarge
  | .finite negative magnitude =>
      .ok (if negative then -(magnitude.floor : Int) else (magnitude.floor : Int))

def toInt : Value → Outcome Int
  | bool b => .ok (if b then 1 else 0)
  | int n => .ok n
  | float x => wholePart x
  | text s => match Text.integer? s with
      | some n => .ok n
      | none => misused .wrongValue
  | bytes data => match Text.integerOfBytes? data with
      | some n => .ok n
      | none => misused .wrongValue
  | _ => misused .wrongType

/-- The items of a value that has items: the characters of a text, the names of a record. -/
def items : Value → Outcome (List Value)
  | text s => .ok (s.toList.map (fun c => text (String.singleton c)))
  | bytes data => .ok (data.map (fun byte => int byte.toNat))
  | list items => .ok items
  | tuple items => .ok items
  | record entries => .ok (entries.map (fun entry => text entry.1))
  | _ => misused .wrongType

def itemsOrNone (value : Value) : Outcome (List Value) :=
  if value.isTruthy then value.items else .ok []

/-- Whether a value that has items has a text among them, or is a text of which it is a part. -/
def holds (part : Char) : Value → Outcome Bool
  | text s => .ok (s.toList.contains part)
  | bytes _ => misused .wrongType
  | value => do
      .ok ((← value.items).any (fun item => item.text? == some (String.singleton part)))

def texts : List Value → Outcome (List String)
  | [] => .ok []
  | text s :: rest => do .ok (s :: (← texts rest))
  | _ :: _ => misused .wrongType

def exceededBy (value : Value) (n : Int) : Outcome Bool :=
  match value with
  | bool b => .ok ((if b then 1 else 0) < n)
  | int greatest => .ok (greatest < n)
  | float x => .ok (x.below n)
  | _ => misused .wrongType

end NestedSelect.Value
