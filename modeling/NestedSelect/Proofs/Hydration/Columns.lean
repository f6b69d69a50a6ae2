import Mathlib.Data.List.Nodup
import NestedSelect.Proofs.Hydration.Entity

/-!
The columns that a wildcard stands for are the ones that an instance is built of.

A statement names columns, an instance has attributes, and the two tell each other's names by lists
of their own: the declared columns, primary key first, and what is stored under each name. If no
two columns have the same name and no expression has the name of one, both lists cover the same
columns. So the values of a row of all columns go to the attributes of the mapping, each to the one
of its column, and nowhere else.
-/

namespace NestedSelect

variable {schema : Schema} {handle : Handle} {m : Model} {column : Column} {values : Row}

/-! ### What is declared -/

theorem Handle.listColumns_eq {listed : List String} {columns : List Column}
    (distinct : ((columns.filter Column.isStored).map Column.name).Nodup) :
    listColumns listed columns = listed ++
      ((columns.filter Column.isStored).map Column.name).filter
        (fun name => !listed.contains name) := by
  induction columns generalizing listed with
  | nil => exact (List.append_nil listed).symm
  | cons first rest ih =>
      unfold listColumns
      by_cases stored : first.isStored = true
      · rw [List.filter_cons_of_pos stored, List.map_cons] at distinct ⊢
        obtain ⟨fresh, others⟩ := List.nodup_cons.1 distinct
        by_cases known : listed.contains first.name = true
        · rw [List.filter_cons_of_neg (by simp only [known, Bool.not_true, Bool.false_eq_true,
            not_false_eq_true]), stored, known]
          exact ih others
        · rw [Bool.not_eq_true] at known
          rw [List.filter_cons_of_pos (by rw [known, Bool.not_false]), stored, known]
          -- The rest has no other column of the name, so only what was listed before is left out.
          have same : ((rest.filter Column.isStored).map Column.name).filter
              (fun name => !(listed ++ [first.name]).contains name) =
                ((rest.filter Column.isStored).map Column.name).filter
                  (fun name => !listed.contains name) := by
            refine List.filter_congr fun name inside => ?_
            have other : name ≠ first.name := fun equal => fresh (equal ▸ inside)
            simp only [List.contains_eq_mem, List.mem_append, List.mem_singleton, other, or_false]
          exact (ih others).trans (by rw [same, List.append_assoc, List.singleton_append])
      · rw [List.filter_cons_of_neg stored] at distinct ⊢
        rw [Bool.not_eq_true] at stored
        rw [stored]
        exact ih distinct

/-- What the library of the mapping sees to: every column of a table has a name, and the primary key
is some of them, each once. -/
structure Model.Coherent (m : Model) : Prop where
  named : ∀ column ∈ m.storedColumns, column.name ≠ ""
  keyed : ∀ name ∈ m.primaryKey, name ∈ m.storedColumns.map Column.name
  once : m.primaryKey.Nodup

/-- No two columns have the same name, and no expression has the name of one. -/
structure Model.Distinct (m : Model) : Prop where
  columns : (m.storedColumns.map Column.name).Nodup
  expressions : ∀ expression ∈ m.columns, expression.isStored = false →
    expression.name ∉ m.storedColumns.map Column.name

theorem Handle.declaredColumns_eq (found : handle.mapped? schema = some m)
    (distinct : m.Distinct) :
    handle.declaredColumns schema = m.primaryKey ++
      (m.storedColumns.map Column.name).filter (fun name => !m.primaryKey.contains name) := by
  unfold declaredColumns
  rw [found]
  exact listColumns_eq distinct.columns

theorem Handle.mem_declaredColumns_iff (found : handle.mapped? schema = some m)
    (coherent : m.Coherent) {name : String} :
    name ∈ handle.declaredColumns schema ↔ name ∈ m.storedColumns.map Column.name := by
  unfold declaredColumns
  rw [found, mem_listColumns]
  simp only [Model.storedColumns, List.mem_map, List.mem_filter, and_assoc]
  constructor
  · rintro (primary | stored)
    · simpa only [Model.storedColumns, List.mem_map, List.mem_filter, and_assoc] using
        coherent.keyed name primary
    · exact stored
  · exact .inr

theorem Handle.declaredColumns_nodup (found : handle.mapped? schema = some m)
    (coherent : m.Coherent) (distinct : m.Distinct) :
    (handle.declaredColumns schema).Nodup := by
  rw [declaredColumns_eq found distinct, List.nodup_append]
  refine ⟨coherent.once, distinct.columns.filter _, ?_⟩
  intro primary inside other kept same
  obtain ⟨_, free⟩ := List.mem_filter.1 kept
  rw [← same, List.contains_iff_mem.2 inside] at free
  cases free

/-! ### What is stored -/

theorem Model.find?_column (coherent : m.Coherent) (distinct : m.Distinct)
    (inside : column ∈ m.storedColumns) :
    m.columns.find? (fun other => other.name == column.name && other.name != "") = some column := by
  obtain ⟨listed, stored⟩ := List.mem_filter.1 inside
  have matching : (column.name == column.name && column.name != "") = true := by
    rw [beq_self_eq_true, Bool.true_and, bne_iff_ne]
    exact coherent.named column inside
  cases found : m.columns.find? (fun other => other.name == column.name && other.name != "") with
  | none => exact absurd matching (List.find?_eq_none.1 found column listed)
  | some other =>
      have member := List.mem_of_find?_eq_some found
      have same : other.name = column.name := by
        have tested := List.find?_some (p := fun other : Column =>
          other.name == column.name && other.name != "") found
        exact beq_iff_eq.1 (Bool.and_eq_true_iff.1 tested).1
      cases computed : other.isStored with
      | false =>
          have named := List.mem_map_of_mem (f := Column.name) inside
          exact absurd (same ▸ named) (distinct.expressions other member computed)
      | true =>
          have also : other ∈ m.storedColumns := List.mem_filter.2 ⟨member, computed⟩
          rw [List.inj_on_of_nodup_map distinct.columns also inside same]

theorem Model.storage?_column (coherent : m.Coherent) (distinct : m.Distinct)
    (inside : column ∈ m.storedColumns) :
    m.storage? column.name = some (column.attributeName, column.type) := by
  rw [storage?, find?_column coherent distinct inside, Option.map_some]

namespace Hydration

/-- What a row of columns leaves in an instance: the attributes of the columns, each once. An
attribute that no other column has holds the value of its column. -/
structure Filled (m : Model) (values fields : Row) : Prop where
  once : (Record.names fields).Nodup
  names : ∀ name, name ∈ Record.names fields ↔ name ∈ m.storedColumns.map Column.attributeName
  value : ∀ column ∈ m.storedColumns,
    (∀ other ∈ m.storedColumns, other.attributeName = column.attributeName → other = column) →
    ∃ value, Record.get? column.name values = some value ∧
      Record.get? column.attributeName fields = some (coerce (some column.type) value)

theorem exists_column (complete : (Record.names values).Perm (m.storedColumns.map Column.name))
    {entry : String × Value} (inside : entry ∈ values) :
    ∃ column ∈ m.storedColumns, column.name = entry.1 :=
  List.mem_map.1 (complete.subset (List.mem_map_of_mem inside))

section

variable {tools : Instrumentation} {stored fields : Row} (coherent : m.Coherent)
  (distinct : m.Distinct)
include coherent distinct

theorem placeOf_column (inside : column ∈ m.storedColumns) :
    placeOf (some m) column.name = column.attributeName := by
  simp only [placeOf, Option.bind_some, Model.storage?_column coherent distinct inside,
    Option.map_some, Option.getD_some]

theorem storedAs_column (inside : column ∈ m.storedColumns) (value : Value) :
    storedAs tools (some m) column.name value = .ok (coerce (some column.type) value) := by
  simp only [storedAs, Option.bind_some, Model.storage?_column coherent distinct inside]

variable (complete : (Record.names values).Perm (m.storedColumns.map Column.name))
include complete

theorem exists_builtFields_of_columns :
    ∃ fields, builtFields tools (some m) values = .ok fields := by
  rw [exists_builtFields_eq_ok_iff]
  intro entry inside
  obtain ⟨column, known, named⟩ := exists_column complete inside
  rw [← named]
  exact ⟨_, storedAs_column coherent distinct known entry.2⟩

theorem mem_names_builtFields_iff (each : Stores tools (some m) values stored) {name : String} :
    name ∈ Record.names (Record.ofPairs stored) ↔
      name ∈ m.storedColumns.map Column.attributeName := by
  have places : m.storedColumns.map Column.attributeName =
      (m.storedColumns.map Column.name).map (placeOf (some m)) := by
    rw [List.map_map]
    exact List.map_congr_left fun column inside => (placeOf_column coherent distinct inside).symm
  rw [Record.mem_names_ofPairs, each.names, places, ← (complete.map _).mem_iff]

/-- Two values of one attribute are of one column, so the order of the row does not matter. -/
theorem get?_builtFields_column (each : Stores tools (some m) values stored)
    (inside : column ∈ m.storedColumns)
    (own : ∀ other ∈ m.storedColumns,
      other.attributeName = column.attributeName → other = column) :
    ∃ value, Record.get? column.name values = some value ∧
      Record.get? column.attributeName (Record.ofPairs stored) =
        some (coerce (some column.type) value) := by
  obtain ⟨value, found⟩ :=
    Record.mem_names_iff.1 (complete.symm.subset (List.mem_map_of_mem inside))
  -- Whatever is stored in this place is stored of the value that the row has for the column.
  have agree : ∀ held, (column.attributeName, held) ∈ stored →
      held = coerce (some column.type) value := by
    intro held listed
    obtain ⟨entry, member, placed, kept⟩ := each.exists_entry listed
    obtain ⟨other, known, named⟩ := exists_column complete member
    rw [← named, placeOf_column coherent distinct known] at placed
    cases own other known placed
    have again := Record.get?_of_mem (complete.nodup_iff.2 distinct.columns) member
    rw [← named, found] at again
    rw [← named, storedAs_column coherent distinct inside, ← Option.some.inj again] at kept
    exact (Except.ok.inj kept).symm
  refine ⟨value, found, ?_⟩
  have placed : column.attributeName ∈ Record.names (Record.ofPairs stored) :=
    (mem_names_builtFields_iff coherent distinct complete each).2 (List.mem_map_of_mem inside)
  rw [Record.mem_names_ofPairs] at placed
  obtain ⟨field, listed, same⟩ := List.mem_map.1 placed
  have here : (column.attributeName, field.2) ∈ stored := same ▸ listed
  exact Record.get?_ofPairs_of_agree (agree field.2 here ▸ here) agree

theorem filled_builtFields (built : builtFields tools (some m) values = .ok fields) :
    Filled m values fields := by
  obtain ⟨stored, each, rfl⟩ := builtFields_mapped built
  exact {
    once := Record.nodup_names_ofPairs stored
    names := fun _ => mem_names_builtFields_iff coherent distinct complete each
    value := fun _ inside own =>
      get?_builtFields_column coherent distinct complete each inside own }

end

end Hydration

end NestedSelect
