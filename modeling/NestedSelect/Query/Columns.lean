import NestedSelect.Identifier

/-!
The columns that a relation asks for.

Columns are the wildcard alone or names. Main statement: `distinct` keeps every name and repeats
none (`mem_distinct`, `nodup_distinct`).
-/

namespace NestedSelect

/-- Columns as a caller hands them over: one text, a list, or something else that may have items.
The text `*` asks for every column; any other text stands for its characters. -/
inductive Columns where
  | text (s : String)
  | listed (names : List Value)
  | unlisted (v : Value)

namespace Columns

def wildcard : Columns := .text "*"

def ofValue : Value → Columns
  | .text s => .text s
  | .list names => .listed names
  | v => .unlisted v

def toValue : Columns → Value
  | .text s => .text s
  | .listed names => .list names
  | .unlisted v => v

def isWildcard : Columns → Bool
  | .text s => s == "*"
  | .listed _ | .unlisted _ => false

def items (columns : Columns) : Outcome (List Value) := columns.toValue.items

def distinct : List String → List String
  | [] => []
  | name :: rest => name :: (distinct rest).filter (· != name)

@[simp] theorem mem_distinct {name : String} {names : List String} :
    name ∈ distinct names ↔ name ∈ names := by
  induction names with
  | nil => simp [distinct]
  | cons first rest ih =>
      by_cases same : name = first
      · simp [distinct, same]
      · simp [distinct, same, ih]

theorem nodup_distinct (names : List String) : (distinct names).Nodup := by
  induction names with
  | nil => exact List.nodup_nil
  | cons first rest ih =>
      have apart : first ∉ (distinct rest).filter (· != first) := by simp
      exact List.nodup_cons.2 ⟨apart, ih.filter _⟩

def ensureNames : List Value → Outcome (List String)
  | [] => .ok []
  | value :: rest => do
      let name ← Identifier.ensure value
      let names ← ensureNames rest
      .ok (name :: names)

private def isStar : Value → Bool
  | .text s => s == "*"
  | _ => false

theorem any_isStar_iff {items : List Value} :
    items.any isStar = true ↔ Value.text "*" ∈ items := by
  rw [List.any_eq_true]
  constructor
  · rintro ⟨item, inside, star⟩
    unfold isStar at star
    split at star
    · rw [← beq_iff_eq.1 star]
      exact inside
    · cases star
  · intro inside
    exact ⟨_, inside, rfl⟩

/-- The items that columns are asked for with; a text is a single one. -/
def askedItems : Value → Outcome (List Value)
  | .text s => .ok [.text s]
  | other => other.itemsOrNone

/-- The columns that items stand for: the wildcard alone, or one or more names. -/
def ofItems (relation : String) (items : List Value) : Outcome Columns :=
  if items.isEmpty then .error (.emptyColumns relation)
  else if items.any isStar then
    if 1 < items.length then .error (.wildcardNotAlone relation) else .ok wildcard
  else do
    let names ← ensureNames items
    .ok (.listed ((distinct names).map Value.text))

def ensure (columns : Value) (relation : String) : Outcome Columns := do
  ofItems relation (← askedItems columns)

end Columns

end NestedSelect
