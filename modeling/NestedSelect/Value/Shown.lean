import NestedSelect.Calendar.IsoText
import NestedSelect.Fault
import NestedSelect.Number.Shortest
import NestedSelect.Text.Integer
import NestedSelect.Text.Quoted
import NestedSelect.Value.Basic

/-!
How values are shown in statements and messages.

`inspect` marks the kind of a value: texts are quoted and points in time name their fields.
`display` is the plain form: a text is itself and a point in time is its ISO text with a blank
between date and time. Inside lists and records every value is inspected. An integer with too many
digits refuses to be shown (`inspected`, `displayed`).
-/

namespace NestedSelect

open Calendar

private def commaSeparated (parts : List String) : String := String.intercalate ", " parts

private def callOf (name : String) (arguments : List String) : String :=
  name ++ "(" ++ commaSeparated arguments ++ ")"

/-- A length of time as days, seconds and microseconds of which only the days can be negative. -/
private def inspectDuration (microseconds : Int) : String :=
  let days := microseconds.fdiv dayMicroseconds
  let rest := microseconds - days * dayMicroseconds
  let seconds := rest / 1000000
  let left := rest % 1000000
  let part (name : String) (n : Int) : List String :=
    if n == 0 then [] else [name ++ "=" ++ toString n]
  let parts := part "days" days ++ part "seconds" seconds ++ part "microseconds" left
  callOf "datetime.timedelta" (if parts.isEmpty then ["0"] else parts)

private def inspectOffset (o : Offset) : String :=
  if o.microseconds == 0 then "datetime.timezone.utc"
  else callOf "datetime.timezone" [inspectDuration o.microseconds]

private def inspectDate (d : Date) : String :=
  callOf "datetime.date" [toString d.year, toString d.month, toString d.day]

private def inspectDateTime (d : DateTime) : String :=
  let seconds :=
    if d.time.microsecond != 0 then [toString d.time.second, toString d.time.microsecond]
    else if d.time.second != 0 then [toString d.time.second] else []
  let offset := match d.offset with
    | none => []
    | some o => ["tzinfo=" ++ inspectOffset o]
  callOf "datetime.datetime"
    ([toString d.date.year, toString d.date.month, toString d.date.day, toString d.time.hour,
      toString d.time.minute] ++ seconds ++ offset)

namespace Value

mutual

def inspect : Value → String
  | null => "None"
  | bool b => if b then "True" else "False"
  | int n => toString n
  | float x => x.text
  | text s => Text.quoted s
  | bytes data => Text.quotedBytes data
  | date d => inspectDate d
  | datetime d => inspectDateTime d
  | list items => "[" ++ commaSeparated (inspectAll items) ++ "]"
  | tuple [item] => "(" ++ inspect item ++ ",)"
  | tuple items => "(" ++ commaSeparated (inspectAll items) ++ ")"
  | record entries => "\x7b" ++ commaSeparated (inspectEntries entries) ++ "\x7d"
  | member enumeration name value =>
      "<" ++ enumeration ++ "." ++ name ++ ": " ++ inspect value ++ ">"
  | entity model _ => "<" ++ model ++ " entity>"

def inspectAll : List Value → List String
  | [] => []
  | value :: rest => inspect value :: inspectAll rest

def inspectEntries : List (String × Value) → List String
  | [] => []
  | (name, value) :: rest => (Text.quoted name ++ ": " ++ inspect value) :: inspectEntries rest

end

def display : Value → String
  | text s => s
  | date d => d.iso
  | datetime d => String.ofList (d.isoChars ' ')
  | member enumeration name _ => enumeration ++ "." ++ name
  | value => inspect value

def typeName : Value → String
  | null => "NoneType"
  | bool _ => "bool"
  | int _ => "int"
  | float _ => "float"
  | text _ => "str"
  | bytes _ => "bytes"
  | date _ => "date"
  | datetime _ => "datetime"
  | list _ => "list"
  | tuple _ => "tuple"
  | record _ => "dict"
  | member enumeration _ _ => enumeration
  | entity model _ => model

mutual

/-- Whether every integer that shows in an inspected value has few enough digits. -/
def isInspectable : Value → Bool
  | int n => Text.isWritable n
  | list items => areInspectable items
  | tuple items => areInspectable items
  | record entries => areEntriesInspectable entries
  | member _ _ value => isInspectable value
  | _ => true

def areInspectable : List Value → Bool
  | [] => true
  | value :: rest => isInspectable value && areInspectable rest

def areEntriesInspectable : List (String × Value) → Bool
  | [] => true
  | (_, value) :: rest => isInspectable value && areEntriesInspectable rest

end

def isDisplayable : Value → Bool
  | member _ _ _ => true
  | value => isInspectable value

theorem isDisplayable_int (n : Int) : isDisplayable (int n) = Text.isWritable n := rfl

def inspected (value : Value) : Outcome String :=
  if value.isInspectable then .ok value.inspect else misused .wrongValue

def displayed (value : Value) : Outcome String :=
  if value.isDisplayable then .ok value.display else misused .wrongValue

theorem isDisplayable_of_displayed {value : Value} {shown : String}
    (done : value.displayed = .ok shown) : value.isDisplayable = true := by
  unfold displayed at done
  split at done
  · assumption
  · cases done

end Value

end NestedSelect
