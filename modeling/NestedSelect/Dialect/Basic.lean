import NestedSelect.Dialect.Grammar
import NestedSelect.Value.Basic

/-!
Dialects: what differs between databases in the statements that are built here.
-/

namespace NestedSelect

/-- A dialect. Its functions and literals are values, since dialects can be registered with
attributes of any kind. `offsetOnlyLimit` is the limit that has to be written where only an offset
is asked for, or null where an offset may stand alone. Selections of the mapping can be written
only if `grammar?` is known. -/
structure Dialect where
  className : String
  name : Value
  jsonObject : Value
  jsonArrayAgg : Value
  emptyArray : Value
  batchIntrospection : Value
  offsetOnlyLimit : Value
  grammar? : Option Grammar

namespace Dialect

def base (className : String) : Dialect :=
  { className := className
    name := .text "base"
    jsonObject := .text ""
    jsonArrayAgg := .text ""
    emptyArray := .text ""
    batchIntrospection := .bool false
    offsetOnlyLimit := .null
    grammar? := none }

/-- MySQL looks up columns table by table, and has no offset without a limit. -/
def mysql : Dialect :=
  { className := "MySQLGenerator"
    name := .text "mysql"
    jsonObject := .text "JSON_OBJECT"
    jsonArrayAgg := .text "JSON_ARRAYAGG"
    emptyArray := .text "JSON_ARRAY()"
    batchIntrospection := .bool false
    offsetOnlyLimit := .int 18446744073709551615
    grammar? := some .mysql }

def postgres : Dialect :=
  { className := "PostgresGenerator"
    name := .text "pgsql"
    jsonObject := .text "json_build_object"
    jsonArrayAgg := .text "json_agg"
    emptyArray := .text "'[]'::json"
    batchIntrospection := .bool true
    offsetOnlyLimit := .null
    grammar? := some .postgres }

def sqlite : Dialect :=
  { className := "SQLiteGenerator"
    name := .text "sqlite"
    jsonObject := .text "json_object"
    jsonArrayAgg := .text "json_group_array"
    emptyArray := .text "json_array()"
    batchIntrospection := .bool false
    offsetOnlyLimit := .int (-1)
    grammar? := some .sqlite }

/-- The dialects that are known from the start, by the names under which they are registered. -/
def builtin : List (String × Dialect) :=
  [("mysql", mysql), ("pgsql", postgres), ("sqlite", sqlite)]

/-- What all dialects have in common; it has no functions of its own. -/
def common : Dialect := base "SqlGenerator"

end Dialect

end NestedSelect
