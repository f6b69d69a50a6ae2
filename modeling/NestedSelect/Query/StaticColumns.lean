import NestedSelect.Config.Basic
import NestedSelect.Schema.Handle

/-!
The columns of a table as far as they are known without asking a database.
-/

namespace NestedSelect

/-- The columns that a mapped model declares, or else the ones configured for the table; none if
there are neither. -/
def staticColumns (schema : Schema) (handle : Handle) (table : String) (config : Option Config) :
    Option (List Value) :=
  match handle.declaredColumns schema with
  | [] => config.bind (fun options => options.columnsFor table)
  | names => some (names.map Value.text)

end NestedSelect
