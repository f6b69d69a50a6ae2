import NestedSelect.Number.Binary64
import NestedSelect.Value.Conversion
import NestedSelect.Value.Key

/-!
Pages of rows.

The last page is the quotient of rows and rows per page, rounded to a double and then up.
-/

namespace NestedSelect

structure Page where
  items : List Value
  total : Int
  page : Int
  perPage : Int

namespace Page

def ceiling (negative : Bool) (magnitude : Number.Magnitude) : Outcome Int :=
  if magnitude.overflows then misused .tooLarge
  else if negative then .ok (-(magnitude.floor : Int))
  else .ok (magnitude.ceil : Int)

/-- The least integer that is not less than a quotient, which is rounded to a double first. -/
def roundedCeiling (numerator denominator : Int) : Outcome Int :=
  ceiling (decide (numerator < 0) != decide (denominator < 0))
    (Number.nearest numerator.natAbs denominator.natAbs)

def ceilingOfDoubles (numerator denominator : Number.Binary64) : Outcome Int :=
  match numerator.meaning, denominator.meaning with
  | .finite negative above, .finite turned below =>
      let scaled := Number.overPower above.mantissa below.mantissa (below.exponent - above.exponent)
      ceiling (negative != turned) (Number.nearest scaled.1 scaled.2)
  | .finite _ _, .infinite _ => .ok 0
  | .infinite _, .finite _ _ => misused .tooLarge
  | _, _ => misused .wrongValue

def doubleOf (n : Int) : Outcome Number.Binary64 :=
  let magnitude := Number.nearest n.natAbs 1
  if magnitude.overflows then misused .tooLarge
  else .ok (.ofMagnitude (decide (n < 0)) magnitude)

/-- The last page for values of any kind: integers divide exactly, a double takes the other
number with it. -/
def lastPageOf (total perPage : Value) : Outcome Int :=
  if !perPage.isTruthy then .ok 1
  else do
    let ceiled ← match total, perPage, total.whole?, perPage.whole? with
      | _, _, some n, some m => roundedCeiling n m
      | .float x, .float y, _, _ => ceilingOfDoubles x y
      | .float x, _, _, some m => do ceilingOfDoubles x (← doubleOf m)
      | _, .float y, some n, _ => do ceilingOfDoubles (← doubleOf n) y
      | _, _, _, _ => misused .wrongType
    .ok (max 1 ceiled)

def lastPage (p : Page) : Outcome Int :=
  if p.perPage = 0 then .ok 1
  else do .ok (max 1 (← roundedCeiling p.total p.perPage))

def hasMore (p : Page) : Outcome Bool := do
  .ok (decide (p.page < (← p.lastPage)))

private def recordOf (items : List Value) (total page perPage : Value) (last : Int)
    (more : Bool) : Value :=
  .record
    [("items", .list items), ("total", total), ("page", page), ("per_page", perPage),
      ("last_page", .int last), ("has_more", .bool more)]

def toRecord (p : Page) : Outcome Value := do
  let last ← p.lastPage
  let more ← p.hasMore
  .ok (recordOf p.items (.int p.total) (.int p.page) (.int p.perPage) last more)

def describe (total page perPage : Value) : Outcome Value := do
  let last ← lastPageOf total perPage
  let more ← page.exceededBy last
  .ok (recordOf [] total page perPage last more)

end Page

/-- The number that the first column of the first row holds; no rows and every no count as none.
A first row without columns has no such number. -/
def scalarCount : List Row → Outcome Int
  | [] => .ok 0
  | [] :: _ => misused .noItem
  | ((_, value) :: _) :: _ => if value.isTruthy then value.toInt else .ok 0

end NestedSelect
