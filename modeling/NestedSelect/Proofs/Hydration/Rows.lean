import Mathlib.Data.List.Forall2
import NestedSelect.Proofs.Hydration.Decoding

/-!
Rows, one by one, and the turns of requests.

In the generic form the requests take turns at one record: each reads what is under its output key
by then and writes what it makes of it in the same place. A request whose key no other one has reads
what the row has there.
-/

namespace NestedSelect.Hydration

variable {schema : Schema} {form : Form} {requests before after : List Request} {request : Request}
  {root : Handle} {rows : List Row} {row record : Row} {records : List Value} {raw : Value}

/-! ### All rows -/

theorem hydrate_eq_ok_iff :
    hydrate schema form requests root rows = .ok records ↔
      List.Forall₂ (fun row record => hydrateRow schema form requests root row = .ok record)
        rows records := by
  induction rows generalizing records with
  | nil =>
      rw [List.forall₂_nil_left_iff]
      constructor
      · intro done
        cases done
        rfl
      · rintro rfl
        rfl
  | cons row rest ih =>
      constructor
      · intro done
        obtain ⟨record, first, done⟩ := Outcome.bind_eq_ok done
        obtain ⟨others, later, done⟩ := Outcome.bind_eq_ok done
        cases done
        exact .cons first (ih.1 later)
      · intro hydrated
        cases hydrated with
        | cons first later =>
            exact (Outcome.bind_of_ok first).trans (Outcome.bind_of_ok (ih.2 later))

theorem exists_hydrate_eq_ok_iff :
    (∃ records, hydrate schema form requests root rows = .ok records) ↔
      ∀ row ∈ rows, ∃ record, hydrateRow schema form requests root row = .ok record := by
  induction rows with
  | nil => exact iff_of_true ⟨[], rfl⟩ (fun _ inside => absurd inside List.not_mem_nil)
  | cons row rest ih =>
      rw [List.forall_mem_cons, ← ih]
      constructor
      · rintro ⟨records, done⟩
        obtain ⟨record, first, done⟩ := Outcome.bind_eq_ok done
        obtain ⟨others, later, _⟩ := Outcome.bind_eq_ok done
        exact ⟨⟨record, first⟩, others, later⟩
      · rintro ⟨⟨record, first⟩, others, later⟩
        exact ⟨record :: others, (Outcome.bind_of_ok first).trans (Outcome.bind_of_ok later)⟩

/-! ### Turns of requests -/

theorem genericRecord_absent (absent : Record.get? request.outputKey row = none)
    (rest : List Request) : genericRecord (request :: rest) row = genericRecord rest row := by
  simp only [genericRecord, absent]

theorem genericRecord_present (present : Record.get? request.outputKey row = some raw)
    (rest : List Request) :
    genericRecord (request :: rest) row = (do
      let value ← decodeRelation request.mode raw
      genericRecord rest (Record.put request.outputKey value row)) := by
  simp only [genericRecord, present]

theorem genericRecord_append (before rest : List Request) (row : Row) :
    genericRecord (before ++ rest) row = genericRecord before row >>= genericRecord rest := by
  induction before generalizing row with
  | nil => rfl
  | cons first others ih =>
      rw [List.cons_append]
      cases present : Record.get? first.outputKey row with
      | none => rw [genericRecord_absent present, genericRecord_absent present, ih]
      | some raw =>
          rw [genericRecord_present present, genericRecord_present present]
          cases decodeRelation first.mode raw with
          | error fault => rfl
          | ok value => exact ih _

theorem names_genericRecord (done : genericRecord requests row = .ok record) :
    Record.names record = Record.names row := by
  induction requests generalizing row with
  | nil =>
      cases done
      rfl
  | cons first rest ih =>
      cases present : Record.get? first.outputKey row with
      | none =>
          rw [genericRecord_absent present] at done
          exact ih done
      | some raw =>
          rw [genericRecord_present present] at done
          obtain ⟨value, _, done⟩ := Outcome.bind_eq_ok done
          have inside : first.outputKey ∈ Record.names row := Record.mem_names_iff.2 ⟨raw, present⟩
          rw [ih done, Record.names_put, if_pos inside]

theorem get?_genericRecord_of_absent {name : String} (absent : Record.get? name row = none)
    (done : genericRecord requests row = .ok record) : Record.get? name record = none := by
  cases found : Record.get? name record with
  | none => rfl
  | some value =>
      have named : name ∈ Record.names row := by
        rw [← names_genericRecord done]
        exact Record.mem_names_iff.2 ⟨value, found⟩
      obtain ⟨other, present⟩ := Record.mem_names_iff.1 named
      cases absent.symm.trans present

theorem get?_genericRecord_of_notMem {name : String}
    (apart : name ∉ requests.map Request.outputKey)
    (done : genericRecord requests row = .ok record) :
    Record.get? name record = Record.get? name row := by
  induction requests generalizing row with
  | nil =>
      cases done
      rfl
  | cons first rest ih =>
      rw [List.map_cons, List.mem_cons, not_or] at apart
      cases present : Record.get? first.outputKey row with
      | none =>
          rw [genericRecord_absent present] at done
          exact ih apart.2 done
      | some raw =>
          rw [genericRecord_present present] at done
          obtain ⟨value, _, done⟩ := Outcome.bind_eq_ok done
          rw [ih apart.2 done, Record.get?_put_of_ne apart.1]

/-- After the turns of the requests before it, a request finds the value under its output key. -/
def Meets (before : List Request) (row : Row) (request : Request) (raw : Value) : Prop :=
  ∃ standing, genericRecord before row = .ok standing ∧
    Record.get? request.outputKey standing = some raw

theorem meets_iff_of_notMem {standing : Row} (done : genericRecord before row = .ok standing)
    (apart : request.outputKey ∉ before.map Request.outputKey) :
    Meets before row request raw ↔ Record.get? request.outputKey row = some raw := by
  rw [← get?_genericRecord_of_notMem apart done]
  constructor
  · rintro ⟨other, same, found⟩
    cases done.symm.trans same
    exact found
  · intro found
    exact ⟨standing, done, found⟩

theorem meets_cons_of_absent {first : Request}
    (absent : Record.get? first.outputKey row = none) (met : Meets before row request raw) :
    Meets (first :: before) row request raw := by
  unfold Meets
  rw [genericRecord_absent absent]
  exact met

theorem meets_cons_of_present {first : Request} {read value : Value}
    (present : Record.get? first.outputKey row = some read)
    (decoded : decodeRelation first.mode read = .ok value)
    (met : Meets before (Record.put first.outputKey value row) request raw) :
    Meets (first :: before) row request raw := by
  unfold Meets
  rw [genericRecord_present present, Outcome.bind_of_ok decoded]
  exact met

/-- There is a record exactly if every request can read what it meets. -/
theorem exists_genericRecord_eq_ok_iff :
    (∃ record, genericRecord requests row = .ok record) ↔
      ∀ before request after, requests = before ++ request :: after →
        ∀ raw, Meets before row request raw → ¬ Unreadable request.mode raw := by
  constructor
  · rintro ⟨record, done⟩ before request after rfl raw ⟨standing, stands, found⟩
    rw [genericRecord_append, Outcome.bind_of_ok stands, genericRecord_present found] at done
    obtain ⟨value, decoded, _⟩ := Outcome.bind_eq_ok done
    exact exists_decodeRelation_eq_ok_iff.1 ⟨value, decoded⟩
  · -- What the rest meets after the turn of the first one, the whole list meets in this row.
    intro readable
    induction requests generalizing row with
    | nil => exact ⟨row, rfl⟩
    | cons first rest ih =>
        cases present : Record.get? first.outputKey row with
        | none =>
            rw [genericRecord_absent present]
            apply ih
            intro before request after same raw met
            apply readable (first :: before) request after
            · rw [same, List.cons_append]
            · exact meets_cons_of_absent present met
        | some raw =>
            have met : Meets [] row first raw := ⟨row, rfl, present⟩
            obtain ⟨value, decoded⟩ :=
              exists_decodeRelation_eq_ok_iff.2 (readable [] first rest rfl raw met)
            rw [genericRecord_present present, Outcome.bind_of_ok decoded]
            apply ih
            intro before request after same raw met
            apply readable (first :: before) request after
            · rw [same, List.cons_append]
            · exact meets_cons_of_present present decoded met

theorem get?_genericRecord_last (done : genericRecord (before ++ request :: after) row = .ok record)
    (last : request.outputKey ∉ after.map Request.outputKey) (met : Meets before row request raw) :
    ∃ value, decodeRelation request.mode raw = .ok value ∧
      Record.get? request.outputKey record = some value := by
  obtain ⟨standing, stands, found⟩ := met
  rw [genericRecord_append, Outcome.bind_of_ok stands, genericRecord_present found] at done
  obtain ⟨value, decoded, done⟩ := Outcome.bind_eq_ok done
  refine ⟨value, decoded, ?_⟩
  rw [get?_genericRecord_of_notMem last done, Record.get?_put_self]

/-! ### Requests with keys of their own -/

theorem apart_of_distinct
    (distinct : ((before ++ request :: after).map Request.outputKey).Nodup) :
    request.outputKey ∉ before.map Request.outputKey ∧
      request.outputKey ∉ after.map Request.outputKey := by
  rw [List.map_append, List.map_cons] at distinct
  rw [List.nodup_append] at distinct
  obtain ⟨_, others, disjoint⟩ := distinct
  constructor
  · intro inside
    exact disjoint _ inside _ List.mem_cons_self rfl
  · exact (List.nodup_cons.1 others).1

theorem get?_genericRecord_of_distinct (distinct : (requests.map Request.outputKey).Nodup)
    (done : genericRecord requests row = .ok record) (inside : request ∈ requests)
    (found : Record.get? request.outputKey row = some raw) :
    ∃ value, decodeRelation request.mode raw = .ok value ∧
      Record.get? request.outputKey record = some value := by
  obtain ⟨before, after, rfl⟩ := List.append_of_mem inside
  obtain ⟨first, last⟩ := apart_of_distinct distinct
  rw [genericRecord_append] at done
  obtain ⟨standing, stands, _⟩ := Outcome.bind_eq_ok done
  rw [← genericRecord_append] at done
  exact get?_genericRecord_last done last ((meets_iff_of_notMem stands first).2 found)

theorem exists_genericRecord_of_distinct (distinct : (requests.map Request.outputKey).Nodup)
    (readable : ∀ request ∈ requests, ∀ raw, Record.get? request.outputKey row = some raw →
      ¬ Unreadable request.mode raw) :
    ∃ record, genericRecord requests row = .ok record := by
  rw [exists_genericRecord_eq_ok_iff]
  rintro before request after rfl raw ⟨standing, stands, found⟩
  have met :=
    (meets_iff_of_notMem stands (apart_of_distinct distinct).1).1 ⟨standing, stands, found⟩
  apply readable request _ raw met
  exact List.mem_append_right before List.mem_cons_self

end NestedSelect.Hydration
