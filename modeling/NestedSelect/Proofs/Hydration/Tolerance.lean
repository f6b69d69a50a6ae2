import NestedSelect.Proofs.Hydration.Entity

/-!
Bad data and what hydration makes of them.

Texts that are no JSON and counts that are no numbers come through, or leave an empty place. Bytes
that are no UTF-8 do not, and neither does an infinite count: one of them in one row and there are
no records at all. Neither does a nested record with a value that an attribute of a related instance
refuses. Which values a request reads is what the requests before it have left.
-/

namespace NestedSelect.Hydration

variable {schema : Schema} {requests before after : List Request} {request : Request}
  {root : Handle} {rows : List Row} {row record : Row} {raw left : Value} {mode : RequestMode}

/-- Null, as it is or spelled, or a text that is no JSON. -/
inductive Vacant : Value → Prop where
  | null : Vacant .null
  | spelled {raw : Value} {s : String} (spells : Spells raw s)
      (read : Json.read? s = some .null) : Vacant raw
  | unread {raw : Value} {s : String} (spells : Spells raw s)
      (unread : Json.read? s = none) : Vacant raw

/-- What a request leaves of bad data: for an object the failed text in some form, for a collection
no items, for a count what it was. -/
structure Tolerated (failed : String → Value) (mode : RequestMode) (raw left : Value) : Prop where
  single : mode = .single → ∀ s, Spells raw s → Json.read? s = none → left = failed s
  collection : mode = .collection → Vacant raw → left = .list []
  count : mode = .count → raw ≠ .null → (∀ n, raw.toInt ≠ .ok n) → left = raw

/-! ### The generic form -/

theorem collection_of_vacant (vacant : Vacant raw) :
    ∃ decoded, decodeJson raw = .ok decoded ∧ decoded.collection = .list [] ∧
      objectsOf decoded.payload = [] := by
  cases vacant with
  | null => exact ⟨.value .null, rfl, rfl, rfl⟩
  | spelled spells read =>
      refine ⟨.value .null, ?_, rfl, rfl⟩
      rw [decodeJson_of_spells spells, decodeText_of_read read]
  | @unread _ s spells unread =>
      refine ⟨.undecoded (.text s), ?_, rfl, rfl⟩
      rw [decodeJson_of_spells spells, decodeText_of_unread unread]

theorem decodeRelation_tolerates (done : decodeRelation mode raw = .ok left) :
    Tolerated .text mode raw left where
  single isSingle s spells unread := by
    rw [isSingle, decodeRelation_single, decodeJson_of_spells spells,
      decodeText_of_unread unread] at done
    cases done
    rfl
  collection isCollection vacant := by
    obtain ⟨decoded, read, empty, _⟩ := collection_of_vacant vacant
    rw [isCollection, decodeRelation_collection, Outcome.map_of_ok read, empty] at done
    cases done
    rfl
  count isCount given noNumber := by
    have readable := exists_decodeRelation_eq_ok_iff.1 ⟨left, done⟩
    rw [isCount] at done readable
    have counted : asCount raw = .ok left := done
    rw [asCount_of_not_toInt given noNumber readable] at counted
    cases counted
    rfl

theorem exists_hydrateRow_generic_iff :
    (∃ answer, hydrateRow schema .generic requests root row = .ok answer) ↔
      ∃ record, genericRecord requests row = .ok record := by
  constructor
  · rintro ⟨answer, done⟩
    obtain ⟨record, made, _⟩ := Outcome.bind_eq_ok done
    exact ⟨record, made⟩
  · rintro ⟨record, made⟩
    exact ⟨_, Outcome.bind_of_ok made⟩

/-! ### The entity form of a root without a mapping -/

theorem exists_entityOf_unmapped_iff (plain : root.mapped? schema = none) :
    (∃ answer, entityOf schema root requests row = .ok answer) ↔
      ∀ request ∈ requests, Attachable schema row request := by
  rw [entityOf_eq, Outcome.exists_map_eq_ok_iff, Outcome.bind_of_ok (rootFields_unmapped plain),
    plain, exists_placeRelations_eq_ok_iff]
  apply forall_congr'
  intro request
  apply imp_congr_right
  intro _
  rw [attached_unmapped, exists_attachment_eq_ok_iff]

theorem attachment_tolerates (done : attachment schema row request = .ok left) :
    Tolerated (fun _ => .null) request.mode (received row request) left where
  single isSingle s spells unread := by
    obtain ⟨decoded, read, made⟩ := (attachment_single isSingle).1 done
    rw [decodeJson_of_spells spells, decodeText_of_unread unread] at read
    cases read
    cases made
    rfl
  collection isCollection vacant := by
    obtain ⟨decoded, read, _, empty⟩ := collection_of_vacant vacant
    obtain ⟨other, again, built, each, rfl⟩ := (attachment_collection isCollection).1 done
    cases read.symm.trans again
    rw [empty] at each
    cases each
    rfl
  count isCount given noNumber := by
    have readable := (exists_attachment_eq_ok_iff.1 ⟨left, done⟩).readable
    rw [isCount] at readable
    rw [attachment_count isCount, asCount_of_not_toInt given noNumber readable] at done
    cases done
    rfl

/-! ### All rows -/

/-- The generic form gives records exactly if every request can read what it meets, and the entity
form of a root without a mapping exactly if every request can read what its row has for it and store
the records in it. Then what the last request of a key leaves there of bad data is the text or null,
no items, or the count as it was. -/
theorem hydrate_tolerates_readable (schema : Schema) (requests : List Request) (root : Handle)
    (rows : List Row) :
    ((∃ records, hydrate schema .generic requests root rows = .ok records) ↔
      ∀ row ∈ rows, ∀ before request after, requests = before ++ request :: after →
        ∀ raw, Meets before row request raw → ¬ Unreadable request.mode raw) ∧
    (∀ records, hydrate schema .generic requests root rows = .ok records →
      List.Forall₂ (fun row answer => ∃ record, answer = .record record ∧
        ∀ before request after, requests = before ++ request :: after →
          request.outputKey ∉ after.map Request.outputKey →
          ∀ raw, Meets before row request raw →
            ∃ left, Record.get? request.outputKey record = some left ∧
              Tolerated .text request.mode raw left) rows records) ∧
    (root.mapped? schema = none →
      ((∃ records, hydrate schema .entity requests root rows = .ok records) ↔
        ∀ row ∈ rows, ∀ request ∈ requests, Attachable schema row request) ∧
      ∀ records, hydrate schema .entity requests root rows = .ok records →
        List.Forall₂ (fun row answer => ∃ record, answer = .record record ∧
          ∀ before request after, requests = before ++ request :: after →
            request.outputKey ∉ after.map Request.outputKey →
            ∃ left, Record.get? request.outputKey record = some left ∧
              Tolerated (fun _ => .null) request.mode (received row request) left)
          rows records) := by
  refine ⟨?_, ?_, ?_⟩
  · rw [exists_hydrate_eq_ok_iff]
    apply forall_congr'
    intro row
    rw [exists_hydrateRow_generic_iff, exists_genericRecord_eq_ok_iff]
  · intro records done
    apply (hydrate_eq_ok_iff.1 done).imp
    intro row answer hydrated
    obtain ⟨record, made, hydrated⟩ := Outcome.bind_eq_ok hydrated
    cases hydrated
    refine ⟨record, rfl, ?_⟩
    rintro before request after rfl last raw met
    obtain ⟨left, decoded, stands⟩ := get?_genericRecord_last made last met
    exact ⟨left, stands, decodeRelation_tolerates decoded⟩
  · intro plain
    constructor
    · rw [exists_hydrate_eq_ok_iff]
      apply forall_congr'
      intro row
      apply imp_congr_right
      intro _
      exact exists_entityOf_unmapped_iff plain
    · intro records done
      apply (hydrate_eq_ok_iff.1 done).imp
      intro row answer hydrated
      obtain ⟨fields, record, _, placed, same⟩ := entityOf_eq_ok_iff.1 hydrated
      rw [plain] at placed same
      refine ⟨record, same, ?_⟩
      rintro before request after rfl last
      obtain ⟨left, holds, stands⟩ := get?_placeRelations_last placed last
      rw [attached_unmapped] at holds
      exact ⟨left, stands, attachment_tolerates holds⟩

theorem hydrate_tolerates_readable_row :
    let profile : Relation :=
      ⟨"profile", .belongsToOne, "profiles", "profile", none, "profile_id", "id", some "id", none⟩
    let codes : Relation :=
      ⟨"codes", .hasMany, "codes", "codes", none, "partner_id", "id", none, some "id"⟩
    let requests : List Request := [⟨"profile", .single, profile, .wildcard⟩,
      ⟨"codes", .collection, codes, .wildcard⟩, ⟨"codes", .count, codes, .wildcard⟩]
    let row : Row := [("profile", .text "\""), ("codes", .bytes [0x22]), ("codes_count", .text "")]
    let records : List Value :=
      [.record [("profile", .null), ("codes", .list []), ("codes_count", .text "")]]
    Handle.mapped? ⟨[], .ofLists⟩ (.table "partners") = none ∧
      hydrate ⟨[], .ofLists⟩ .generic requests (.table "partners") [row] =
        .ok [.record [("profile", .text "\""), ("codes", .list []), ("codes_count", .text "")]] ∧
      hydrate ⟨[], .ofLists⟩ .entity requests (.table "partners") [row] = .ok records ∧
      (∀ request ∈ requests, Attachable ⟨[], .ofLists⟩ row request) ∧
      List.Forall₂ (fun row answer => ∃ record, answer = .record record ∧
        ∀ before request after, requests = before ++ request :: after →
          request.outputKey ∉ after.map Request.outputKey →
          ∃ left, Record.get? request.outputKey record = some left ∧
            Tolerated (fun _ => .null) request.mode (received row request) left)
        [row] records := by
  intro profile codes requests row records
  have generic : hydrate ⟨[], .ofLists⟩ .generic requests (.table "partners") [row] =
      .ok [.record [("profile", .text "\""), ("codes", .list []), ("codes_count", .text "")]] := by
    rfl
  have entity : hydrate ⟨[], .ofLists⟩ .entity requests (.table "partners") [row] =
      .ok records := by
    rfl
  obtain ⟨_, _, unmapped⟩ :=
    hydrate_tolerates_readable ⟨[], .ofLists⟩ requests (.table "partners") [row]
  obtain ⟨readable, tolerated⟩ := unmapped rfl
  exact ⟨rfl, generic, entity, readable.1 ⟨records, entity⟩ row List.mem_cons_self,
    tolerated records entity⟩

/-- One byte that is no UTF-8 in one row, and neither form gives records. -/
theorem illFormed_bytes_not_tolerated :
    let profile : Relation :=
      ⟨"profile", .belongsToOne, "profiles", "profile", none, "profile_id", "id", some "id", none⟩
    let requests : List Request := [⟨"profile", .single, profile, .wildcard⟩]
    let rows : List Row := [[("id", .int 1), ("profile", .bytes [0xff])]]
    ¬ ((∃ records,
        hydrate ⟨[], .ofLists⟩ .generic requests (.table "partners") rows = .ok records) ∨
      ∃ records,
        hydrate ⟨[], .ofLists⟩ .entity requests (.table "partners") rows = .ok records) := by
  rintro profile requests rows (⟨records, done⟩ | ⟨records, done⟩)
  · cases done
  · cases done

end NestedSelect.Hydration
