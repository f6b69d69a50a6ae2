import NestedSelect.Value.Basic

/-!
Values as keys: which values can be one, and which are the same key.

Numbers of the same size are the same key, whatever their kind. A key keeps the form in which it
was written first.
-/

namespace NestedSelect.Value

mutual

def isKey : Value → Bool
  | list _ | record _ | entity _ _ => false
  | tuple items => areKeys items
  | _ => true

def areKeys : List Value → Bool
  | [] => true
  | value :: rest => isKey value && areKeys rest

end

def whole? : Value → Option Int
  | bool b => some (if b then 1 else 0)
  | int n => some n
  | _ => none

mutual

def sameKey : Value → Value → Bool
  | null, null => true
  | text s, text t => s == t
  | bytes data, bytes other => data == other
  | date d, date e => d == e
  | datetime d, datetime e => d.isSame e
  | tuple items, tuple others => sameKeys items others
  | float x, float y => x.isSame y
  | float x, v => (whole? v).any x.isInteger
  | v, float y => (whole? v).any y.isInteger
  | v, w => (whole? v).isSome && whole? v == whole? w

def sameKeys : List Value → List Value → Bool
  | [], [] => true
  | v :: rest, w :: others => sameKey v w && sameKeys rest others
  | _, _ => false

end

/-- Write a value under a key, in place of what stands under the same key. -/
def putKey (key value : Value) : List (Value × Value) → List (Value × Value)
  | [] => [(key, value)]
  | entry :: rest =>
      if sameKey entry.1 key then (entry.1, value) :: rest else entry :: putKey key value rest

end NestedSelect.Value
