import Mathlib
import NestedSelect.Proofs.Hydration.Entity

/-!
JSON in the forms in which databases deliver it.

An array, an object or null is the same to both forms of hydration whether it comes read already, as
a text or as the bytes of a text. This is so under the keys of objects and collections; a count
takes null for zero and the text of null for a text.
-/

namespace NestedSelect.Hydration

variable {schema : Schema} {form : Form} {requests : List Request} {request : Request}
  {root : Handle} {rows others : List Row} {row other : Row} {model : Option Model}
  {raw again value : Value} {key : String}

inductive Nested : Value → Prop where
  | null : Nested .null
  | list (items : List Value) : Nested (.list items)
  | record (entries : Row) : Nested (.record entries)

/-- A value delivered: as it is, or as a text that reads as the value, or as the bytes of one. -/
inductive Delivers (value : Value) : Value → Prop where
  | asItIs : Delivers value value
  | spelled {raw : Value} {s : String} (spells : Spells raw s) (read : Json.read? s = some value) :
      Delivers value raw

/-- Some request has the output key, and all that have it are for objects or collections. -/
def NestedKey (requests : List Request) (key : String) : Prop :=
  key ∈ requests.map Request.outputKey ∧
    ∀ request ∈ requests, request.outputKey = key → request.mode ≠ .count

/-- Rows that differ only in how they deliver values under keys of objects and collections. -/
inductive Redelivers (requests : List Request) (row : Row) : Row → Prop where
  | refl : Redelivers requests row row
  | step {other : Row} {key : String} {value raw again : Value}
      (before : Redelivers requests row other) (nested : NestedKey requests key)
      (shape : Nested value) (found : Record.get? key other = some raw)
      (delivers : Delivers value raw) (redelivers : Delivers value again) :
      Redelivers requests row (Record.put key again other)

theorem decodeJson_of_delivers (shape : Nested value) (delivers : Delivers value raw) :
    decodeJson raw = .ok (.value value) := by
  cases delivers with
  | asItIs => cases shape <;> rfl
  | spelled spells read => rw [decodeJson_of_spells spells, decodeText_of_read read]

/-! ### The generic form -/

theorem decodeRelation_redelivered {mode : RequestMode} (nested : mode ≠ .count)
    (shape : Nested value) (delivers : Delivers value raw) (redelivers : Delivers value again) :
    decodeRelation mode again = decodeRelation mode raw := by
  have first := decodeJson_of_delivers shape delivers
  have second := decodeJson_of_delivers shape redelivers
  cases mode with
  | count => exact absurd rfl nested
  | single => rw [decodeRelation_single, decodeRelation_single, first, second]
  | collection => rw [decodeRelation_collection, decodeRelation_collection, first, second]

theorem NestedKey.tail {first : Request} {rest : List Request} (different : first.outputKey ≠ key)
    (nested : NestedKey (first :: rest) key) : NestedKey rest key := by
  obtain ⟨inside, modes⟩ := nested
  rw [List.map_cons, List.mem_cons] at inside
  constructor
  · rcases inside with same | later
    · exact absurd same.symm different
    · exact later
  · intro request later
    exact modes request (List.mem_cons_of_mem first later)

/-- The first request of the key takes both values for the same, and those before it do not see
them. -/
theorem genericRecord_redelivered (nested : NestedKey requests key) (shape : Nested value)
    (found : Record.get? key row = some raw) (delivers : Delivers value raw)
    (redelivers : Delivers value again) :
    genericRecord requests (Record.put key again row) = genericRecord requests row := by
  induction requests generalizing row with
  | nil => cases nested.1
  | cons first rest ih =>
      by_cases same : first.outputKey = key
      · have mode : first.mode ≠ .count := nested.2 first List.mem_cons_self same
        subst same
        rw [genericRecord_present found, genericRecord_present (Record.get?_put_self _ _ _),
          decodeRelation_redelivered mode shape delivers redelivers]
        simp only [Record.put_put_self]
      · have kept := Record.get?_put_of_ne same again row
        cases present : Record.get? first.outputKey row with
        | none =>
            rw [genericRecord_absent present, genericRecord_absent (kept.trans present)]
            exact ih (nested.tail same) found
        | some read =>
            rw [genericRecord_present present, genericRecord_present (kept.trans present)]
            cases decodeRelation first.mode read with
            | error fault => rfl
            | ok decoded =>
                have inside : key ∈ Record.names row := Record.mem_names_iff.2 ⟨raw, found⟩
                have still : Record.get? key (Record.put first.outputKey decoded row) = some raw :=
                  (Record.get?_put_of_ne (Ne.symm same) decoded row).trans found
                rw [Outcome.bind_of_ok rfl, Outcome.bind_of_ok rfl,
                  Record.put_comm same inside again decoded]
                exact ih (nested.tail same) still

/-! ### The entity form -/

theorem rootFields_put (inside : key ∈ requests.map Request.outputKey) (value : Value) (row : Row) :
    rootFields schema root requests (Record.put key value row) =
      rootFields schema root requests row := by
  let free : String → Bool := fun name => !(requests.map Request.outputKey).contains name
  have dropped : free key = false := by
    simp only [free, List.contains_iff_mem.2 inside, Bool.not_true]
  exact congrArg (builtFields schema.instrumentation (root.mapped? schema))
    (Record.filter_put free dropped value row)

theorem attachment_congr (same : received other request = received row request) :
    attachment schema other request = attachment schema row request := by
  unfold attachment
  rw [same]

theorem attachment_redelivered (nested : NestedKey requests key) (shape : Nested value)
    (found : Record.get? key row = some raw) (delivers : Delivers value raw)
    (redelivers : Delivers value again) (inside : request ∈ requests) :
    attachment schema (Record.put key again row) request = attachment schema row request := by
  by_cases same : request.outputKey = key
  · have mode : request.mode ≠ .count := nested.2 request inside same
    subst same
    have first : decodeJson (received row request) = .ok (.value value) := by
      rw [received, found]
      exact decodeJson_of_delivers shape delivers
    have second : decodeJson (received (Record.put request.outputKey again row) request) =
        .ok (.value value) := by
      rw [received, Record.get?_put_self]
      exact decodeJson_of_delivers shape redelivers
    rw [attachment_nested mode, attachment_nested mode, first, second]
  · apply attachment_congr
    rw [received, received, Record.get?_put_of_ne same]

theorem entityOf_redelivered (nested : NestedKey requests key) (shape : Nested value)
    (found : Record.get? key row = some raw) (delivers : Delivers value raw)
    (redelivers : Delivers value again) :
    entityOf schema root requests (Record.put key again row) =
      entityOf schema root requests row := by
  rw [entityOf_eq, entityOf_eq, rootFields_put nested.1]
  congr 2
  funext fields
  apply placeRelations_congr
  intro request inside
  rw [attached, attached, attachment_redelivered nested shape found delivers redelivers inside]

/-! ### All rows -/

theorem hydrateRow_redelivered (alike : Redelivers requests row other) :
    hydrateRow schema form requests root other = hydrateRow schema form requests root row := by
  induction alike with
  | refl => rfl
  | step _ nested shape found delivers redelivers ih =>
      rw [← ih]
      cases form with
      | generic =>
          simp only [hydrateRow, genericRecord_redelivered nested shape found delivers redelivers]
      | entity => exact entityOf_redelivered nested shape found delivers redelivers

/-- Both forms answer rows the same, or fail the same, however arrays, objects and nulls under the
keys of objects and collections are delivered. -/
theorem hydrate_redelivered (schema : Schema) (form : Form) (requests : List Request)
    (root : Handle) (rows others : List Row)
    (alike : List.Forall₂ (Redelivers requests) rows others) :
    hydrate schema form requests root others = hydrate schema form requests root rows := by
  induction alike with
  | nil => rfl
  | cons first _ ih => rw [hydrate, hydrate, hydrateRow_redelivered first, ih]

theorem hydrate_redelivered_codes :
    let profile : Relation :=
      ⟨"profile", .belongsToOne, "profiles", "profile", none, "profile_id", "id", some "id", none⟩
    let codes : Relation :=
      ⟨"codes", .hasMany, "codes", "codes", none, "partner_id", "id", none, some "id"⟩
    let requests : List Request :=
      [⟨"profile", .single, profile, .wildcard⟩, ⟨"codes", .collection, codes, .wildcard⟩]
    let row : Row := [("id", .int 1), ("profile", .record [("name", .text "Zoë")]),
      ("codes", .list [.record [("code", .text "ë")]])]
    let other : Row := [("id", .int 1), ("profile", .text "\x7b\"name\": \"Zo\\u00eb\"\x7d"),
      ("codes", .bytes [0x5b, 0x7b, 0x22, 0x63, 0x6f, 0x64, 0x65, 0x22, 0x3a, 0x22, 0xc3, 0xab,
        0x22, 0x7d, 0x5d])]
    List.Forall₂ (Redelivers requests) [row] [other] ∧
      hydrate ⟨[], .ofLists⟩ .entity requests (.table "partners") [row] = .ok [.record row] ∧
      hydrate ⟨[], .ofLists⟩ .entity requests (.table "partners") [other] =
        hydrate ⟨[], .ofLists⟩ .entity requests (.table "partners") [row] := by
  intro profile codes requests row other
  have encoded : Text.encodeUtf8 "[\x7b\"code\":\"ë\"\x7d]".toList = [0x5b, 0x7b, 0x22, 0x63, 0x6f,
      0x64, 0x65, 0x22, 0x3a, 0x22, 0xc3, 0xab, 0x22, 0x7d, 0x5d] := by decide
  have spells : Spells (.bytes [0x5b, 0x7b, 0x22, 0x63, 0x6f, 0x64, 0x65, 0x22, 0x3a, 0x22, 0xc3,
      0xab, 0x22, 0x7d, 0x5d]) "[\x7b\"code\":\"ë\"\x7d]" := by
    rw [← encoded]
    exact .bytes _
  have listed : Json.read? "[\x7b\"code\":\"ë\"\x7d]" =
      some (.list [.record [("code", .text "ë")]]) := by cbv
  have named : Json.read? "\x7b\"name\": \"Zo\\u00eb\"\x7d" =
      some (.record [("name", .text "Zoë")]) := by cbv
  have profiles : NestedKey requests "profile" := by
    refine ⟨by decide, ?_⟩
    decide
  have lists : NestedKey requests "codes" := by
    refine ⟨by decide, ?_⟩
    decide
  have alike : Redelivers requests row other :=
    .step (.step .refl profiles (.record _) rfl .asItIs (.spelled (.text _) named)) lists (.list _)
      rfl .asItIs (.spelled spells listed)
  have rows : List.Forall₂ (Redelivers requests) [row] [other] := .cons alike .nil
  exact ⟨rows, rfl, hydrate_redelivered ⟨[], .ofLists⟩ .entity requests _ [row] [other] rows⟩

/-- A count and an object under one key: null is counted first, the text of null is not. -/
theorem delivery_shows_under_count_key :
    let codes : Relation :=
      ⟨"codes", .hasMany, "codes", "codes", none, "partner_id", "id", none, some "id"⟩
    let code : Relation :=
      ⟨"codes_count", .hasOne, "codes", "code", none, "partner_id", "id", none, some "id"⟩
    let requests : List Request :=
      [⟨"codes", .count, codes, .wildcard⟩, ⟨"codes_count", .single, code, .wildcard⟩]
    ¬ ∀ raw, Delivers .null raw →
      hydrate ⟨[], .ofLists⟩ .generic requests .nothing [[("codes_count", raw)]] =
        hydrate ⟨[], .ofLists⟩ .generic requests .nothing [[("codes_count", .null)]] := by
  intro codes code requests same
  have spelled := same (.text "null") (.spelled (.text "null") Json.read?_null)
  have counted : hydrate ⟨[], .ofLists⟩ .generic requests .nothing [[("codes_count", .null)]] =
      .ok [.record [("codes_count", .int 0)]] := by rfl
  have read : decodeJson (.text "null") = .ok (.value .null) :=
    decodeJson_of_delivers .null (.spelled (.text "null") Json.read?_null)
  have decoded : decodeRelation .single (.text "null") = .ok .null := by
    rw [decodeRelation_single, read]
    rfl
  have kept : hydrate ⟨[], .ofLists⟩ .generic requests .nothing [[("codes_count", .text "null")]] =
      .ok [.record [("codes_count", .null)]] := by
    apply hydrate_eq_ok_iff.2
    refine .cons ?_ .nil
    have counted : genericRecord requests [("codes_count", .text "null")] =
        genericRecord [⟨"codes_count", .single, code, .wildcard⟩]
          [("codes_count", .text "null")] := by rfl
    have made : genericRecord requests [("codes_count", .text "null")] =
        .ok [("codes_count", .null)] := by
      rw [counted, genericRecord_present rfl, Outcome.bind_of_ok decoded]
      rfl
    exact Outcome.bind_of_ok made
  rw [counted, kept] at spelled
  cases spelled

end NestedSelect.Hydration
