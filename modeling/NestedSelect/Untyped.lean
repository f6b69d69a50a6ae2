import NestedSelect.Identifier
import NestedSelect.Record
import NestedSelect.Sql.Statement
import NestedSelect.Sql.TableName
import NestedSelect.Value.Conversion

/-!
Functions that take values of any kind where they are asked for texts, and what they make of them.

What a function cannot take is a misuse.
-/

namespace NestedSelect.Untyped

/-- A checked name. What is named may be said by a value of any kind, which has to be a text if
the name is empty. -/
def ensureIdentifier (value what : Value) : Outcome String :=
  match Identifier.ensure value what.display, what with
  | .error (.emptyName shown), .text _ => .error (.emptyName shown)
  | .error (.emptyName _), _ => misused .missingPart
  | outcome, _ => outcome

def qualify (column source : Value) : Outcome Value := do
  if ← column.holds '.' then .ok column
  else .ok (.text ((← source.displayed) ++ "." ++ (← column.displayed)))

/-- A table as a schema and a bare name. Other values that have items are taken as they are,
unless a dot is among the items. -/
def splitTable (table : Value) : Outcome Value := do
  let dotted ← table.holds '.'
  match table with
  | .text s =>
      let parts := Sql.splitTable s
      .ok (.list [(parts.1.map Value.text).getD .null, .text parts.2])
  | other => if dotted then misused .missingPart else .ok (.list [.null, other])

private def capitals : Value → Outcome String
  | .text s => .ok (Text.upper s)
  | _ => misused .missingPart

def condition (source column operator : Value) : Outcome String := do
  let left ← qualify column source
  let operator ← capitals operator
  .ok ((← left.displayed) ++ " " ++ operator ++ " ?")

def ordering (source column direction : Value) : Outcome String := do
  let left ← qualify column source
  let direction ← capitals direction
  .ok ((← left.displayed) ++ " " ++ direction)

def filterParts (filter : Value) : Outcome (Value × Value × Value) := do
  match ← filter.items with
  | [column, operator, value] => .ok (column, operator, value)
  | _ => misused .wrongType

def orderParts (order : Value) : Outcome (Value × Value) := do
  match ← order.items with
  | [column] => .ok (column, .text "asc")
  | [column, direction] => .ok (column, direction)
  | _ => misused .wrongType

/-- Filters as one condition, with the values that it is bound to. -/
def conditions (filters source : Value) : Outcome Value := do
  let parts ← (← filters.items).mapM filterParts
  let written ← parts.mapM (fun part => condition source part.1 part.2.1)
  .ok (.list [.text (String.intercalate " AND " written), .list (parts.map (·.2.2))])

def orderings (orders source : Value) : Outcome Value := do
  let parts ← (← orders.items).mapM orderParts
  let written ← parts.mapM (fun part => ordering source part.1 part.2)
  .ok (.text (String.intercalate ", " written))

def statementParts : List String :=
  ["joins", "where", "order_by", "limit", "offset", "offset_only_limit"]

private def clause (parts : List (String × Value)) (name : String) : Outcome String :=
  match (Record.get? name parts).getD .null with
  | .text s => .ok s
  | other => if other.isTruthy then misused .wrongType else .ok ""

/-- A select statement with some of the parts that may be left out, by name. -/
def assemble (selectList source : Value) (parts : List (String × Value)) : Outcome Value := do
  if parts.any (fun part => !statementParts.contains part.1) then misused .wrongType
  else do
    let selected ← selectList.displayed
    let origin ← source.displayed
    let joins ← clause parts "joins"
    let condition ← clause parts "where"
    let order ← clause parts "order_by"
    let number (name : String) : Value := (Record.get? name parts).getD .null
    let text ← Sql.assemble selected origin joins condition order
      ⟨number "limit", number "offset"⟩ (number "offset_only_limit")
    .ok (.text text)

end NestedSelect.Untyped
