import NestedSelect.Fault
import NestedSelect.Schema.Model
import NestedSelect.Text.Case

/-!
What a handle says about its table, its keys and its columns.

A handle that names no mapped model has a table at most: its primary key is the fallback and it
declares no columns.
-/

namespace NestedSelect.Handle

def mapped? (schema : Schema) : Handle → Option Model
  | model name => schema.mapped? name
  | table _ => none
  | nothing => none

def model? : Handle → Option String
  | model name => some name
  | table _ => none
  | nothing => none

def owner : Handle → String
  | model name => name
  | table name => name
  | nothing => "None"

def tableName (schema : Schema) : Handle → Outcome String
  | table name => .ok name
  | model name =>
      match schema.model? name with
      | some found => found.tableName
      | none => .error (.unknownTable name)
  | nothing => .error (.unknownTable "None")

def primaryKey? (schema : Schema) (handle : Handle) : Option String :=
  (handle.mapped? schema).bind (fun found => found.primaryKey.head?)

/-- The first primary key column of a mapped model; `fallback` for all else. -/
def primaryKey (schema : Schema) (handle : Handle) (fallback : String := "id") : String :=
  (handle.primaryKey? schema).getD fallback

def separateCapitals (cs : List Char) : List Char :=
  cs.flatMap (fun c => if c.isUpper then ['_', c] else [c])

def snakeCase (name : String) : String :=
  match name.toList with
  | [] => ""
  | c :: rest => Text.lower (String.ofList (c :: separateCapitals rest))

def keyPrefix (handle : Handle) : String := snakeCase handle.owner

/-- Names of columns with those that are stored added to them, each once. -/
def listColumns (listed : List String) : List Column → List String
  | [] => listed
  | column :: rest =>
      if column.isStored && !listed.contains column.name then
        listColumns (listed ++ [column.name]) rest
      else listColumns listed rest

theorem mem_listColumns {name : String} {listed : List String} {columns : List Column} :
    name ∈ listColumns listed columns ↔
      name ∈ listed ∨ ∃ column ∈ columns, column.isStored = true ∧ column.name = name := by
  induction columns generalizing listed with
  | nil => simp [listColumns]
  | cons first rest ih =>
      unfold listColumns
      split
      · rename_i added
        have stored : first.isStored = true := (Bool.and_eq_true_iff.1 added).1
        rw [ih, List.mem_append, List.mem_singleton]
        constructor
        · rintro ((before | rfl) | ⟨column, inside, found⟩)
          · exact .inl before
          · exact .inr ⟨first, List.mem_cons_self, stored, rfl⟩
          · exact .inr ⟨column, List.mem_cons_of_mem first inside, found⟩
        · rintro (before | ⟨column, inside, found, rfl⟩)
          · exact .inl (.inl before)
          · rcases List.mem_cons.1 inside with rfl | later
            · exact .inl (.inr rfl)
            · exact .inr ⟨column, later, found, rfl⟩
      · rename_i kept
        have already : first.isStored = true → first.name ∈ listed := by simpa using kept
        rw [ih]
        constructor
        · rintro (before | ⟨column, inside, found⟩)
          · exact .inl before
          · exact .inr ⟨column, List.mem_cons_of_mem first inside, found⟩
        · rintro (before | ⟨column, inside, stored, rfl⟩)
          · exact .inl before
          · rcases List.mem_cons.1 inside with rfl | later
            · exact .inl (already stored)
            · exact .inr ⟨column, later, stored, rfl⟩

/-- The columns that a mapped model declares, primary key first; none of other handles. -/
def declaredColumns (schema : Schema) (handle : Handle) : List String :=
  match handle.mapped? schema with
  | none => []
  | some found => listColumns found.primaryKey found.columns

end NestedSelect.Handle
