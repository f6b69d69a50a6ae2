/-!
Records: named values in the order in which the names were first written.

`put` replaces a value in place or appends it, so a record built by `ofPairs` has each name once
and keeps the last value given for it. Main statements: what `get?` finds after a `put`, a `merge`
and a `remove`, that `put` adds a name at the end or not at all, when the order of two of them
matters, and that no name is there twice.
-/

namespace NestedSelect.Record

variable {α : Type}

def get? (name : String) : List (String × α) → Option α
  | [] => none
  | entry :: rest => if entry.1 = name then some entry.2 else get? name rest

def put (name : String) (value : α) : List (String × α) → List (String × α)
  | [] => [(name, value)]
  | entry :: rest => if entry.1 = name then (name, value) :: rest else entry :: put name value rest

def ofPairs (pairs : List (String × α)) : List (String × α) :=
  pairs.foldl (fun record pair => put pair.1 pair.2 record) []

def merge (record : List (String × α)) (more : List (String × α)) : List (String × α) :=
  more.foldl (fun record pair => put pair.1 pair.2 record) record

def names (record : List (String × α)) : List String := record.map (·.1)

def has (name : String) (record : List (String × α)) : Bool := (get? name record).isSome

def remove (name : String) (record : List (String × α)) : List (String × α) :=
  record.filter (fun entry => entry.1 != name)

theorem mem_of_get? {name : String} {value : α} {record : List (String × α)}
    (found : get? name record = some value) : (name, value) ∈ record := by
  induction record with
  | nil => cases found
  | cons entry rest ih =>
      unfold get? at found
      split at found
      · rename_i same
        cases found
        rw [← same]
        exact List.mem_cons_self
      · exact List.mem_cons_of_mem entry (ih found)

@[simp] theorem get?_put_self (name : String) (value : α) (record : List (String × α)) :
    get? name (put name value record) = some value := by
  induction record with
  | nil => simp [put, get?]
  | cons entry rest ih =>
      by_cases same : entry.1 = name
      · simp [put, get?, same]
      · simp [put, get?, same, ih]

theorem get?_put_of_ne {name other : String} (different : other ≠ name) (value : α)
    (record : List (String × α)) : get? other (put name value record) = get? other record := by
  induction record with
  | nil => simp [put, get?, Ne.symm different]
  | cons entry rest ih =>
      by_cases same : entry.1 = name
      · have apart : ¬ entry.1 = other := fun equal => different (equal.symm.trans same)
        simp [put, get?, same, Ne.symm different]
      · by_cases here : entry.1 = other
        · simp [put, get?, here, different]
        · simp [put, get?, same, here, ih]

theorem put_of_get? {name : String} {value : α} {record : List (String × α)}
    (found : get? name record = some value) : put name value record = record := by
  induction record with
  | nil => simp [get?] at found
  | cons entry rest ih =>
      by_cases same : entry.1 = name
      · simp only [get?, same, if_true, Option.some.injEq] at found
        simp [put, same, ← found]
        simp [← same]
      · simp only [get?, same, if_false] at found
        simp [put, same, ih found]

theorem get?_merge (name : String) (record more : List (String × α)) :
    get? name (merge record more) = (get? name (merge [] more)).or (get? name record) := by
  induction more generalizing record with
  | nil => simp [merge, get?]
  | cons entry rest ih =>
      have unfolded (start : List (String × α)) :
          merge start (entry :: rest) = merge (put entry.1 entry.2 start) rest := rfl
      rw [unfolded, unfolded, ih (put _ _ record), ih (put _ _ []), Option.or_assoc]
      by_cases same : name = entry.1
      · simp [same]
      · simp [get?_put_of_ne same, get?]

theorem names_put (name : String) (value : α) (record : List (String × α)) :
    names (put name value record) =
      if name ∈ names record then names record else names record ++ [name] := by
  induction record with
  | nil => simp [put, names]
  | cons entry rest ih =>
      by_cases same : entry.1 = name
      · simp [put, names, same]
      · have apart : ¬ name = entry.1 := fun equal => same equal.symm
        simp only [names] at ih
        by_cases inside : name ∈ List.map (·.1) rest
        · simp [put, names, same, apart, ih, inside]
        · simp [put, names, same, apart, ih, inside]

theorem get?_merge_of_notMem {name : String} {more : List (String × α)}
    (absent : ∀ value, (name, value) ∉ more) (record : List (String × α)) :
    get? name (merge record more) = get? name record := by
  induction more generalizing record with
  | nil => rfl
  | cons entry rest ih =>
      have apart : name ≠ entry.1 := fun same => absent entry.2 (same ▸ List.mem_cons_self)
      have later (value : α) : (name, value) ∉ rest :=
        fun inside => absent value (List.mem_cons_of_mem entry inside)
      exact (ih later _).trans (get?_put_of_ne apart entry.2 record)

theorem get?_remove_self (name : String) (record : List (String × α)) :
    get? name (remove name record) = none := by
  induction record with
  | nil => rfl
  | cons entry rest ih =>
      unfold remove at ih ⊢
      by_cases same : entry.1 = name
      · simp [same, ih]
      · simp [get?, same, ih]

theorem get?_remove_of_ne {name other : String} (different : other ≠ name)
    (record : List (String × α)) : get? other (remove name record) = get? other record := by
  induction record with
  | nil => rfl
  | cons entry rest ih =>
      unfold remove at ih ⊢
      by_cases same : entry.1 = name
      · have apart : ¬ entry.1 = other := fun equal => different (equal.symm.trans same)
        simp [get?, same, Ne.symm different, ih]
      · simp [get?, same, ih]

theorem mem_put {name : String} {value : α} {record : List (String × α)} {entry : String × α}
    (inside : entry ∈ put name value record) : entry = (name, value) ∨ entry ∈ record := by
  induction record with
  | nil => exact .inl (List.mem_singleton.1 inside)
  | cons first rest ih =>
      unfold put at inside
      split at inside
      · rcases List.mem_cons.1 inside with here | later
        · exact .inl here
        · exact .inr (List.mem_cons_of_mem first later)
      · rcases List.mem_cons.1 inside with here | later
        · exact .inr (here ▸ List.mem_cons_self)
        · exact (ih later).imp_right (List.mem_cons_of_mem first)

theorem mem_names_iff {name : String} {record : List (String × α)} :
    name ∈ names record ↔ ∃ value, get? name record = some value := by
  induction record with
  | nil => simp [names, get?]
  | cons entry rest ih =>
      by_cases same : entry.1 = name
      · simp [names, get?, same]
      · have apart : ¬ name = entry.1 := fun equal => same equal.symm
        simp only [names] at ih
        simp [names, get?, same, apart, ih]

theorem put_put_self (name : String) (value other : α) (record : List (String × α)) :
    put name value (put name other record) = put name value record := by
  induction record with
  | nil => simp [put]
  | cons entry rest ih =>
      by_cases same : entry.1 = name
      · simp [put, same]
      · simp [put, same, ih]

/-- One of the names must be there already, as otherwise both are added and the order shows. -/
theorem put_comm {name other : String} (different : other ≠ name) {record : List (String × α)}
    (inside : name ∈ names record) (value more : α) :
    put other more (put name value record) = put name value (put other more record) := by
  induction record with
  | nil => simp [names] at inside
  | cons entry rest ih =>
      by_cases same : entry.1 = name
      · have apart : ¬ entry.1 = other := fun equal => different (equal.symm.trans same)
        simp [put, same, Ne.symm different]
      · have later : name ∈ names rest := by
          rcases List.mem_cons.1 inside with here | later
          · exact absurd here.symm same
          · exact later
        by_cases here : entry.1 = other
        · simp [put, here, different]
        · simp [put, same, here, ih later]

theorem filter_put (keep : String → Bool) {name : String} (dropped : keep name = false) (value : α)
    (record : List (String × α)) :
    (put name value record).filter (fun entry => keep entry.1) =
      record.filter (fun entry => keep entry.1) := by
  induction record with
  | nil => simp [put, dropped]
  | cons entry rest ih =>
      by_cases same : entry.1 = name
      · simp [put, same, dropped]
      · simp [put, same, List.filter_cons, ih]

theorem get?_filter_of_kept (keep : String → Bool) {name : String} (kept : keep name = true)
    (record : List (String × α)) :
    get? name (record.filter (fun entry => keep entry.1)) = get? name record := by
  induction record with
  | nil => rfl
  | cons entry rest ih =>
      by_cases same : entry.1 = name
      · simp [get?, same, kept]
      · rw [List.filter_cons]
        split
        · simp [get?, same, ih]
        · simp [get?, same, ih]

theorem get?_append (name : String) (record more : List (String × α)) :
    get? name (record ++ more) = (get? name record).or (get? name more) := by
  induction record with
  | nil => rfl
  | cons entry rest ih =>
      by_cases same : entry.1 = name
      · simp [get?, same]
      · simp [get?, same, ih]

theorem get?_merge_reverse (name : String) (record more : List (String × α)) :
    get? name (merge record more) = get? name (more.reverse ++ record) := by
  induction more generalizing record with
  | nil => rfl
  | cons entry rest ih =>
      have unfolded : merge record (entry :: rest) = merge (put entry.1 entry.2 record) rest := rfl
      rw [unfolded, ih, List.reverse_cons, List.append_assoc, get?_append, get?_append]
      by_cases same : name = entry.1
      · simp [get?, same]
      · have apart : ¬ entry.1 = name := fun equal => same equal.symm
        simp [get?, apart, get?_put_of_ne same]

theorem get?_ofPairs (name : String) (pairs : List (String × α)) :
    get? name (ofPairs pairs) = get? name pairs.reverse :=
  (get?_merge_reverse name [] pairs).trans (by rw [List.append_nil])

theorem mem_names_ofPairs {name : String} {pairs : List (String × α)} :
    name ∈ names (ofPairs pairs) ↔ name ∈ names pairs := by
  rw [mem_names_iff, get?_ofPairs, ← mem_names_iff]
  simp only [names, List.map_reverse, List.mem_reverse]

theorem nodup_names_put {record : List (String × α)} (distinct : (names record).Nodup)
    (name : String) (value : α) : (names (put name value record)).Nodup := by
  rw [names_put]
  split
  · exact distinct
  · rename_i absent
    rw [List.nodup_append]
    refine ⟨distinct, List.nodup_cons.2 ⟨List.not_mem_nil, List.nodup_nil⟩, ?_⟩
    intro other inside last final same
    rw [List.mem_singleton.1 final] at same
    exact absent (same ▸ inside)

theorem nodup_names_merge {record : List (String × α)} (distinct : (names record).Nodup)
    (more : List (String × α)) : (names (merge record more)).Nodup := by
  induction more generalizing record with
  | nil => exact distinct
  | cons entry rest ih => exact ih (nodup_names_put distinct entry.1 entry.2)

theorem nodup_names_ofPairs (pairs : List (String × α)) : (names (ofPairs pairs)).Nodup := by
  have none : (names ([] : List (String × α))).Nodup := List.nodup_nil
  exact nodup_names_merge none pairs

theorem get?_ofPairs_of_agree {name : String} {value : α} {pairs : List (String × α)}
    (inside : (name, value) ∈ pairs) (agree : ∀ other, (name, other) ∈ pairs → other = value) :
    get? name (ofPairs pairs) = some value := by
  obtain ⟨other, found⟩ := mem_names_iff.1 (mem_names_ofPairs.2 (List.mem_map_of_mem inside))
  rw [get?_ofPairs] at found
  rw [get?_ofPairs, found, agree other (List.mem_reverse.1 (mem_of_get? found))]

theorem get?_of_mem {name : String} {value : α} {record : List (String × α)}
    (distinct : (names record).Nodup) (inside : (name, value) ∈ record) :
    get? name record = some value := by
  induction record with
  | nil => cases inside
  | cons entry rest ih =>
      obtain ⟨first, others⟩ := List.nodup_cons.1 distinct
      rcases List.mem_cons.1 inside with rfl | later
      · simp only [get?, if_true]
      · have apart : ¬ entry.1 = name := by
          rintro rfl
          exact first (List.mem_map_of_mem (f := (·.1)) later)
        rw [get?, if_neg apart, ih others later]

end NestedSelect.Record
