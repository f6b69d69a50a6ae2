import NestedSelect.Query.Criteria
import NestedSelect.Text.Integer
import NestedSelect.Value.Conversion

/-!
Select statements, put together from their parts.

Values are bound by position and stand in a statement as question marks only.
-/

namespace NestedSelect.Sql

def condition (source : String) (filter : Filter) : String :=
  Identifier.qualify filter.column source ++ " " ++ Text.upper filter.operator ++ " ?"

def conditions (filters : List Filter) (source : String) : String :=
  String.intercalate " AND " (filters.map (condition source))

def conditionValues (filters : List Filter) : List Value := filters.map Filter.value

def ordering (source : String) (order : OrderTerm) : String :=
  Identifier.qualify order.column source ++ " " ++ Text.upper order.direction

def orderings (orders : List OrderTerm) (source : String) : String :=
  String.intercalate ", " (orders.map (ordering source))

/-- Which of the rows are wanted. Null stands for no limit and no offset. -/
structure Window where
  limit : Value
  offset : Value

/-- The limit that is written: with an offset alone it is the one that the dialect asks for. -/
def Window.effectiveLimit (window : Window) (offsetOnlyLimit : Value) : Value :=
  if window.limit.isNull && !window.offset.isNull then offsetOnlyLimit else window.limit

/-- An integer in decimal digits; one with too many digits is refused. -/
def numeral (value : Value) : Outcome String := do
  let n ← value.toInt
  if Text.isWritable n then .ok (toString n) else misused .wrongValue

/-- A keyword and a number on a line of their own; nothing for null. -/
def numberLine (keyword : String) (value : Value) : Outcome String :=
  if value.isNull then .ok ""
  else do
    let digits ← numeral value
    .ok ("\n" ++ keyword ++ " " ++ digits)

def clauseLine (keyword clause : String) : String :=
  if clause = "" then "" else "\n" ++ keyword ++ clause

def assemble (selectList source joins condition order : String) (window : Window)
    (offsetOnlyLimit : Value) : Outcome String := do
  let limit ← numberLine "LIMIT" (window.effectiveLimit offsetOnlyLimit)
  let offset ← numberLine "OFFSET" window.offset
  .ok ("SELECT " ++ selectList ++ " FROM " ++ source ++ clauseLine "" joins ++
    clauseLine "WHERE " condition ++ clauseLine "ORDER BY " order ++ limit ++ offset)

end NestedSelect.Sql
