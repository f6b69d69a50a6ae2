import NestedSelect.Identifier
import NestedSelect.Value.Shown

/-!
Filters and orders of a query. The value of a filter is bound, never written into a statement.
-/

namespace NestedSelect

structure Filter where
  column : String
  operator : String
  value : Value

structure OrderTerm where
  column : String
  direction : String
  deriving DecidableEq

def directions : List String := ["asc", "desc"]

def normalizeOperator (operator : Value) : Outcome String := do
  let shown ← operator.displayed
  let name := Text.lower (Text.trim shown)
  if name ∈ allowedOperators then .ok name else .error (.operatorNotAllowed shown)

def Filter.make (column operator value : Value) : Outcome Filter := do
  let column ← Identifier.ensure column
  let operator ← normalizeOperator operator
  .ok ⟨column, operator, value⟩

private def constantValue : Value → Value
  | .member _ _ value => value
  | value => value

/-- An order with its column and direction checked. A constant stands for its value. -/
def OrderTerm.make (column : Value) (direction : Value := .text "asc") : Outcome OrderTerm := do
  let column ← Identifier.ensure column
  let shown ← ((constantValue direction).orElse (.text "")).displayed
  let name := Text.lower (Text.trim shown)
  if name ∈ directions then .ok ⟨column, name⟩
  else do .error (.badDirection (← direction.displayed))

end NestedSelect
