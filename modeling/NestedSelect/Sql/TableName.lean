/-!
Table names with the schema in front.
-/

namespace NestedSelect.Sql

/-- The schema and the bare name of a table; a name without a dot has no schema. -/
def splitTable (table : String) : Option String × String :=
  let cs := table.toList
  match cs.dropWhile (· != '.') with
  | [] => (none, table)
  | _ :: name => (some (String.ofList (cs.takeWhile (· != '.'))), String.ofList name)

end NestedSelect.Sql
