import NestedSelect.Calendar.DateTime
import NestedSelect.Number.Binary64

/-!
Values: what callers pass, what rows hold and what statements are bound to.
-/

namespace NestedSelect

/-- A value of any kind. A tuple differs from a list only in how it is shown; a `member` is a
constant of a named enumeration; an `entity` is an instance of a mapped model with the attributes
that were set on it. -/
inductive Value where
  | null
  | bool (b : Bool)
  | int (n : Int)
  | float (x : Number.Binary64)
  | text (s : String)
  | bytes (data : List UInt8)
  | date (d : Calendar.Date)
  | datetime (d : Calendar.DateTime)
  | list (items : List Value)
  | tuple (items : List Value)
  | record (entries : List (String × Value))
  | member (enumeration name : String) (value : Value)
  | entity (model : String) (attributes : List (String × Value))
  deriving Inhabited

abbrev Row : Type := List (String × Value)

namespace Value

/-- Whether a value counts as a yes: null, zero and everything empty count as a no. -/
def isTruthy : Value → Bool
  | null => false
  | bool b => b
  | int n => n != 0
  | float x => !x.isZero
  | text s => !s.isEmpty
  | bytes data => !data.isEmpty
  | list items => !items.isEmpty
  | tuple items => !items.isEmpty
  | record entries => !entries.isEmpty
  | _ => true

def isNull : Value → Bool
  | null => true
  | _ => false

def orElse (value fallback : Value) : Value := if value.isTruthy then value else fallback

def text? : Value → Option String
  | text s => some s
  | _ => none

end Value

end NestedSelect
