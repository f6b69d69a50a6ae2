import NestedSelect.Dialect.Basic
import NestedSelect.Fault
import NestedSelect.Number.Power
import NestedSelect.Query.Criteria
import NestedSelect.Schema.Handle
import NestedSelect.Value.Conversion
import NestedSelect.Value.Shown

/-!
Base queries: statements whose rows take the place of the root table.

A base query is a text, a text with the values that it is bound to, or a selection of columns of
a mapped model, which is written for the dialect at hand.
-/

namespace NestedSelect

inductive Comparison where
  | compare (column operator : String) (value : Value)
  | isOneOf (column : String) (values : List Value)

structure Selection where
  model : String
  /-- The columns; none stands for all of them. -/
  columns : Option (List String)
  comparisons : List Comparison
  orders : List OrderTerm

inductive BaseQuery where
  | value (v : Value)
  | selection (s : Selection)

namespace Sql

/-- A statement with the values that its placeholders are bound to, in order. -/
structure BoundStatement where
  text : String
  values : List Value

/-- The families of types. A value of the family of its column takes the type of the column. -/
inductive Family where
  | integer
  | string
  | boolean
  | float
  | binary
  | date
  | datetime
  deriving DecidableEq

namespace Family

def ofColumn : ColumnType → Family
  | .integer => integer
  | .string => string
  | .boolean => boolean
  | .float => float
  | .date => date
  | .datetime _ => datetime

def ofValue? : Value → Option Family
  | .bool _ => some boolean
  | .int _ => some integer
  | .float _ => some float
  | .text _ => some string
  | .bytes _ => some binary
  | .date _ => some date
  | .datetime _ => some datetime
  | _ => none

end Family

def pointInTime (zoned : Bool) : String :=
  if zoned then "TIMESTAMP WITH TIME ZONE" else "TIMESTAMP WITHOUT TIME ZONE"

/-- The type to which values of a column are cast. Some need no cast. -/
def castOfColumn? : ColumnType → Option String
  | .integer => some "INTEGER"
  | .string => some "VARCHAR"
  | .date => some "DATE"
  | .datetime zoned => some (pointInTime zoned)
  | .boolean | .float => none

/-- The type to which a value is cast that differs from its column. An integer of more than 31
bits is a large one. -/
def castOfValue? : Value → Option String
  | .int n => some (if n.natAbs < Number.twoTo 31 then "INTEGER" else "BIGINT")
  | .text _ => some "VARCHAR"
  | .date _ => some "DATE"
  | .datetime d => some (pointInTime d.offset.isSome)
  | _ => none

def castName? (type? : Option ColumnType) (value : Value) : Option String :=
  match type?, Family.ofValue? value with
  | some type, none => castOfColumn? type
  | some type, some family =>
      if Family.ofColumn type = family then castOfColumn? type else castOfValue? value
  | none, _ => castOfValue? value

namespace Selection

structure Target where
  grammar : Grammar
  model : Model

namespace Target

variable (target : Target)

def table : String :=
  let bare := target.grammar.name (target.model.table.getD "")
  match target.model.tableSchema with
  | some area => target.grammar.name area ++ "." ++ bare
  | none => bare

def column (name : String) : String := target.table ++ "." ++ target.grammar.name name

private def columnType? (name : String) : Option ColumnType :=
  (target.model.storedColumns.find? (fun column => column.name == name)).map Column.type

def placeholder (column : String) (value : Value) : String :=
  if target.grammar.hasCasts then
    match castName? (target.columnType? column) value with
    | some type => "?::" ++ type
    | none => "?"
  else "?"

/-- The choice from some values. All of them are cast as the first one is. -/
def choice (column : String) : List Value → String
  | [] => target.grammar.emptyChoice
  | first :: rest =>
      String.intercalate ", "
        ((first :: rest).map (fun _ => target.placeholder column first))

/-- A comparison as a condition. Null and truth values are written out, and can only be equal or
not. -/
def condition : Comparison → Outcome String
  | .compare column operator value =>
      let left := target.column column
      match operator, value with
      | "=", .null => .ok (left ++ " IS NULL")
      | "!=", .null => .ok (left ++ " IS NOT NULL")
      | "=", .bool b => .ok (left ++ " = " ++ target.grammar.truth b)
      | "!=", .bool b => .ok (left ++ " != " ++ target.grammar.truth b)
      | _, .null | _, .bool _ => misused .notComparable
      | _, _ => .ok (left ++ " " ++ operator ++ " " ++ target.placeholder column value)
  | .isOneOf column values =>
      .ok (target.column column ++ " IN (" ++ target.choice column values ++ ")")

def conditions : List Comparison → Outcome (List String)
  | [] => .ok []
  | comparison :: rest => do
      let first ← target.condition comparison
      let others ← conditions rest
      .ok (first :: others)

/-- The start of the names that are given to a column when it is selected again. Each run of
characters that would be read as a part of a template becomes a low line. -/
def repeatedStem (name : String) : String :=
  String.ofList (go false name.toList) ++ "__"
where
  /-- Characters that a template would take for its own. -/
  isSpecial (c : Char) : Bool := c == '%' || c == '(' || c == ')' || c == ' ' || c == '$'
  /-- The characters of a name, given whether a run of special ones is being read. -/
  go (inRun : Bool) : List Char → List Char
    | [] => []
    | c :: rest =>
        if isSpecial c then if inRun then go true rest else '_' :: go true rest
        else c :: go false rest

/-- The select items of columns. A column that is there already gets a name of its own: a stem
with a number that tells apart all columns with this stem. `stems` are those used before. -/
def items (earlier stems : List String) : List String → List String
  | [] => []
  | name :: rest =>
      if earlier.contains name then
        let stem := repeatedStem name
        let given := stem ++ toString (stems.count stem + 1)
        (target.column name ++ " AS " ++ target.grammar.name given) ::
          items earlier (stem :: stems) rest
      else target.column name :: items (name :: earlier) stems rest

end Target

def boundValues : Comparison → List Value
  | .compare _ _ .null | .compare _ _ (.bool _) => []
  | .compare _ _ value => [value]
  | .isOneOf _ values => values

private def listed (keyword separator : String) (parts : List String) : String :=
  if parts.isEmpty then "" else keyword ++ String.intercalate separator parts

/-- A selection written out. The table is named only if a column or a condition needs it. -/
def write (target : Target) (s : Selection) : Outcome BoundStatement := do
  let columns := s.columns.getD (target.model.storedColumns.map Column.name)
  let conditions ← target.conditions s.comparisons
  let source :=
    if columns.isEmpty && s.comparisons.isEmpty then "" else " \nFROM " ++ target.table
  let orders := s.orders.map (fun order =>
    target.column order.column ++ " " ++ Text.upper order.direction)
  .ok ⟨"SELECT" ++ listed " " ", " (target.items [] [] columns) ++ source ++
      listed " \nWHERE " " AND " conditions ++ listed " ORDER BY " ", " orders,
    s.comparisons.flatMap boundValues⟩

end Selection

private def boundText : Value → Option (String × Value)
  | .list [.text statement, values] => some (statement, values)
  | .tuple [.text statement, values] => some (statement, values)
  | _ => none

def renderBaseQuery (schema : Schema) (dialect : Dialect) : BaseQuery → Outcome BoundStatement
  | .selection s =>
      match schema.mapped? s.model, dialect.grammar? with
      | none, _ => misused .missingPart
      | some _, none => misused .notImplemented
      | some model, some grammar => Selection.write ⟨grammar, model⟩ s
  | .value (.text statement) => .ok ⟨statement, []⟩
  | .value other =>
      match boundText other with
      | some (statement, values) => do .ok ⟨statement, ← values.itemsOrNone⟩
      | none => do .error (.unsupportedBaseQuery (← other.inspected))

end Sql

end NestedSelect
