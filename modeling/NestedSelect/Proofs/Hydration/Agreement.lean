import Mathlib
import NestedSelect.Proofs.Hydration.Shapes
import NestedSelect.Proofs.Query.Matching

/-!
Where both forms of hydration give the same records.

Without mappings the two forms do the same work on different fields: the generic form starts from
the whole row, the entity form from what is under no output key, and both put what each request
reads of the row in its place (`genericRecord_eq`). What was there before is lost, so the records
are the same if the requests read the same. They do exactly if what a row has for an object is an
object or null, and what it has for a collection is objects, null or a text that is no JSON.
-/

namespace NestedSelect.Hydration

variable {schema : Schema} {requests : List Request} {request : Request} {root : Handle}
  {row fields others record : Row} {rows : List Row} {given : Request → Outcome Value}
  {mode : RequestMode} {raw value : Value} {decoded : Decoded}

inductive Shaped : RequestMode → Decoded → Prop where
  | null {mode : RequestMode} : Shaped mode (.value .null)
  | object (entries : Row) : Shaped .single (.value (.record entries))
  | objects (entries : List Row) : Shaped .collection (.value (.list (entries.map .record)))
  | unread (s : String) : Shaped .collection (.undecoded (.text s))

/-- A row with every output key, and under those of objects and collections with nothing that can
be read but is not shaped for it. -/
def Fits (requests : List Request) (row : Row) : Prop :=
  ∀ request ∈ requests, ∃ raw, Record.get? request.outputKey row = some raw ∧
    (request.mode ≠ .count → ∀ decoded, decodeJson raw = .ok decoded → Shaped request.mode decoded)

/-! ### One request -/

theorem text_of_undecoded (read : decodeJson raw = .ok (.undecoded value)) :
    ∃ s, value = .text s := by
  have spelled {s : String} (read : decodeText s = .undecoded value) : value = .text s := by
    unfold decodeText at read
    split at read
    · cases read
    · cases read
      rfl
  cases raw with
  | text s => exact ⟨s, spelled (Except.ok.inj read)⟩
  | bytes data =>
      unfold decodeJson at read
      simp only at read
      split at read
      · exact ⟨_, spelled (Except.ok.inj read)⟩
      · cases read
  | _ => cases read

theorem objectsOf_records (entries : List Row) :
    objectsOf (.list (entries.map .record)) = entries := by
  rw [objectsOf, List.filterMap_map]
  exact List.filterMap_some

theorem relatedInstance_bare (bare : (handleOf request.relation.model?).mapped? schema = none)
    (entries : Row) : relatedInstance schema request entries = .ok (.record entries) := by
  rw [relatedInstance, build_eq, bare]
  rfl

theorem attachment_single_bare
    (bare : (handleOf request.relation.model?).mapped? schema = none)
    (single : request.mode = .single) :
    attachment schema row request = (decodeJson (received row request)).map (fun decoded =>
      ((entries? decoded.payload).map Value.record).getD .null) := by
  rw [attachment_nested (by rw [single]; decide)]
  cases decodeJson (received row request) with
  | error fault => rfl
  | ok decoded =>
      apply (relatedValue_single single).2
      dsimp only
      cases entries? decoded.payload with
      | none => exact .null
      | some entries => exact .built (relatedInstance_bare bare entries)

theorem attachment_collection_bare
    (bare : (handleOf request.relation.model?).mapped? schema = none)
    (collection : request.mode = .collection) :
    attachment schema row request = (decodeJson (received row request)).map (fun decoded =>
      .list ((objectsOf decoded.payload).map .record)) := by
  rw [attachment_nested (by rw [collection]; decide)]
  cases decodeJson (received row request) with
  | error fault => rfl
  | ok decoded =>
      refine (relatedValue_collection collection).2 ⟨_, ?_, rfl⟩
      rw [Instances, List.forall₂_map_right_iff, List.forall₂_same]
      exact fun entries _ => relatedInstance_bare bare entries

theorem single_alike_iff (read : decodeJson raw = .ok decoded) :
    ((entries? decoded.payload).map Value.record).getD .null = decoded.payload ↔
      Shaped .single decoded := by
  constructor
  · intro same
    cases decoded with
    | undecoded v =>
        obtain ⟨s, rfl⟩ := text_of_undecoded read
        cases same
    | value v =>
        cases v with
        | null => exact .null
        | record entries => exact .object entries
        | _ => cases same
  · intro shaped
    cases shaped with
    | null => rfl
    | object entries => rfl

theorem collection_alike_iff (read : decodeJson raw = .ok decoded) :
    Value.list ((objectsOf decoded.payload).map .record) = decoded.collection ↔
      Shaped .collection decoded := by
  constructor
  · intro same
    cases decoded with
    | undecoded v =>
        obtain ⟨s, rfl⟩ := text_of_undecoded read
        exact .unread s
    | value v =>
        cases v with
        | null => exact .null
        | list items =>
            have listed : (objectsOf (.list items)).map .record = items := Value.list.inj same
            rw [← listed]
            exact .objects _
        | _ => cases same
  · intro shaped
    cases shaped with
    | null => rfl
    | objects entries =>
        change Value.list ((objectsOf (.list (entries.map .record))).map .record) = _
        rw [objectsOf_records]
        rfl
    | unread s => rfl

theorem attachment_eq_iff (bare : (handleOf request.relation.model?).mapped? schema = none) :
    attachment schema row request = decodeRelation request.mode (received row request) ↔
      (request.mode ≠ .count → ∀ decoded, decodeJson (received row request) = .ok decoded →
        Shaped request.mode decoded) := by
  cases mode : request.mode with
  | count =>
      rw [attachment_count mode]
      exact iff_of_true rfl (fun nested => absurd rfl nested)
  | single =>
      rw [attachment_single_bare bare mode, decodeRelation_single, Outcome.map_eq_map_iff]
      constructor
      · intro same _ decoded read
        exact (single_alike_iff read).1 (same decoded read)
      · intro shaped decoded read
        exact (single_alike_iff read).2 (shaped (by decide) decoded read)
  | collection =>
      rw [attachment_collection_bare bare mode, decodeRelation_collection, Outcome.map_eq_map_iff]
      constructor
      · intro same _ decoded read
        exact (collection_alike_iff read).1 (same decoded read)
      · intro shaped decoded read
        exact (collection_alike_iff read).2 (shaped (by decide) decoded read)

/-! ### One row -/

/-- Requests with keys of their own that find all of them read the row as it was at first. -/
theorem genericRecord_eq (distinct : (requests.map Request.outputKey).Nodup)
    (found : ∀ request ∈ requests, Record.get? request.outputKey fields =
      some (received row request)) :
    genericRecord requests fields =
      placeRelations (fun request => decodeRelation request.mode (received row request))
        requests fields := by
  induction requests generalizing fields with
  | nil => rfl
  | cons first rest ih =>
      rw [List.map_cons, List.nodup_cons] at distinct
      rw [genericRecord_present (found first List.mem_cons_self), placeRelations]
      cases decodeRelation first.mode (received row first) with
      | error fault => rfl
      | ok value =>
          rw [Outcome.bind_of_ok rfl, Outcome.bind_of_ok rfl]
          apply ih distinct.2
          intro request inside
          have different : request.outputKey ≠ first.outputKey := by
            intro same
            exact distinct.1 (same ▸ List.mem_map_of_mem inside)
          rw [Record.get?_put_of_ne different]
          exact found request (List.mem_cons_of_mem first inside)

theorem placeRelations_alike (apart : ∀ name, name ∉ requests.map Request.outputKey →
      Record.get? name fields = Record.get? name others) :
    Outcome.Alike (fun record other => ∀ name, Record.get? name record = Record.get? name other)
      (placeRelations given requests fields) (placeRelations given requests others) := by
  induction requests generalizing fields others with
  | nil => exact .ok (fun name => apart name List.not_mem_nil)
  | cons first rest ih =>
      rw [placeRelations, placeRelations]
      apply (Outcome.Alike.refl (given first)).bind
      rintro value _ rfl
      apply ih
      intro name outside
      by_cases key : name = first.outputKey
      · rw [key, Record.get?_put_self, Record.get?_put_self]
      · rw [Record.get?_put_of_ne key, Record.get?_put_of_ne key]
        apply apart
        rw [List.map_cons, List.mem_cons, not_or]
        exact ⟨key, outside⟩

theorem get?_outside {name : String} (apart : name ∉ requests.map Request.outputKey) :
    Record.get? name (outside requests row) = Record.get? name row := by
  apply Record.get?_filter_of_kept (fun other => !(requests.map Request.outputKey).contains other)
  rw [Bool.not_eq_true', List.contains_eq_mem, decide_eq_false_iff_not]
  exact apart

theorem entityOf_plain (plain : root.mapped? schema = none) :
    entityOf schema root requests row = (do
      let fields ← placeRelations (attachment schema row) requests (outside requests row)
      .ok (.record fields)) := by
  rw [entityOf_eq, Outcome.bind_of_ok (rootFields_unmapped plain), plain,
    placeRelations_congr (fun _ _ => attached_unmapped)]
  cases placeRelations (attachment schema row) requests (outside requests row) <;> rfl

theorem genericRecord_alike
    (bare : ∀ request ∈ requests, (handleOf request.relation.model?).mapped? schema = none)
    (distinct : (requests.map Request.outputKey).Nodup) (fits : Fits requests row) :
    Outcome.Alike (fun record other => ∀ name, Record.get? name record = Record.get? name other)
      (genericRecord requests row)
      (placeRelations (attachment schema row) requests (outside requests row)) := by
  have found : ∀ request ∈ requests,
      Record.get? request.outputKey row = some (received row request) := by
    intro request inside
    obtain ⟨raw, present, _⟩ := fits request inside
    rw [received, present, Option.getD_some]
  have attached : ∀ request ∈ requests, attachment schema row request =
      decodeRelation request.mode (received row request) := by
    intro request inside
    obtain ⟨raw, present, shaped⟩ := fits request inside
    rw [found request inside, Option.some.injEq] at present
    subst present
    exact (attachment_eq_iff (bare request inside)).2 shaped
  rw [genericRecord_eq distinct found, placeRelations_congr attached]
  exact placeRelations_alike (fun name apart => (get?_outside apart).symm)

theorem fits_of_same
    (bare : ∀ request ∈ requests, (handleOf request.relation.model?).mapped? schema = none)
    (distinct : (requests.map Request.outputKey).Nodup)
    (made : genericRecord requests row = .ok record)
    (placed : placeRelations (attachment schema row) requests (outside requests row) = .ok fields)
    (same : ∀ name, Record.get? name record = Record.get? name fields) : Fits requests row := by
  intro request inside
  obtain ⟨value, attached, stands⟩ := get?_placeRelations_of_distinct distinct placed inside
  rw [← same] at stands
  cases present : Record.get? request.outputKey row with
  | none =>
      rw [get?_genericRecord_of_absent present made] at stands
      cases stands
  | some raw =>
      refine ⟨raw, rfl, ?_⟩
      obtain ⟨other, decoded, there⟩ := get?_genericRecord_of_distinct distinct made inside present
      obtain rfl : value = other := Option.some.inj (stands.symm.trans there)
      have given : received row request = raw := by
        rw [received, present, Option.getD_some]
      rw [← given] at decoded ⊢
      exact (attachment_eq_iff (bare request inside)).1 (attached.trans decoded.symm)

/-! ### All rows -/

theorem hydrateRow_alike (plain : root.mapped? schema = none)
    (bare : ∀ request ∈ requests, (handleOf request.relation.model?).mapped? schema = none)
    (distinct : (requests.map Request.outputKey).Nodup) (fits : Fits requests row) :
    Outcome.Alike SameRecord (hydrateRow schema .generic requests root row)
      (hydrateRow schema .entity requests root row) := by
  unfold hydrateRow
  rw [entityOf_plain plain]
  exact (genericRecord_alike bare distinct fits).bind (fun _ _ same => .ok (.record same))

theorem hydrate_alike (plain : root.mapped? schema = none)
    (bare : ∀ request ∈ requests, (handleOf request.relation.model?).mapped? schema = none)
    (distinct : (requests.map Request.outputKey).Nodup) (fits : ∀ row ∈ rows, Fits requests row) :
    Outcome.Alike (List.Forall₂ SameRecord) (hydrate schema .generic requests root rows)
      (hydrate schema .entity requests root rows) := by
  induction rows with
  | nil => exact .ok .nil
  | cons row rest ih =>
      rw [List.forall_mem_cons] at fits
      rw [hydrate, hydrate]
      refine (hydrateRow_alike plain bare distinct fits.1).bind ?_
      intro answer other first
      refine (ih fits.2).bind ?_
      intro answers others later
      exact .ok (.cons first later)

theorem fits_of_hydrated (plain : root.mapped? schema = none)
    (bare : ∀ request ∈ requests, (handleOf request.relation.model?).mapped? schema = none)
    (distinct : (requests.map Request.outputKey).Nodup) {answer other : Value}
    (generic : hydrateRow schema .generic requests root row = .ok answer)
    (entity : hydrateRow schema .entity requests root row = .ok other)
    (same : SameRecord answer other) : Fits requests row := by
  obtain ⟨record, made, generic⟩ := Outcome.bind_eq_ok generic
  cases generic
  rw [hydrateRow, entityOf_plain plain] at entity
  obtain ⟨fields, placed, entity⟩ := Outcome.bind_eq_ok entity
  cases entity
  cases same with
  | record same => exact fits_of_same bare distinct made placed same

/-- Without mappings and with output keys that differ: where every row has all output keys, under
those of objects an object or null, and under those of collections objects, null or a text that is
no JSON, both forms give the same records, or fail the same. And they give the same records only
there. -/
theorem forms_agree (schema : Schema) (requests : List Request) (root : Handle) (rows : List Row)
    (plain : root.mapped? schema = none)
    (bare : ∀ request ∈ requests, (handleOf request.relation.model?).mapped? schema = none)
    (distinct : (requests.map Request.outputKey).Nodup) :
    ((∀ row ∈ rows, Fits requests row) →
      Outcome.Alike (List.Forall₂ SameRecord) (hydrate schema .generic requests root rows)
        (hydrate schema .entity requests root rows)) ∧
    ∀ records others, hydrate schema .generic requests root rows = .ok records →
      hydrate schema .entity requests root rows = .ok others →
      List.Forall₂ SameRecord records others → ∀ row ∈ rows, Fits requests row := by
  refine ⟨hydrate_alike plain bare distinct, ?_⟩
  intro records others generic entity same
  have first := hydrate_eq_ok_iff.1 generic
  have second := hydrate_eq_ok_iff.1 entity
  clear generic entity
  induction same generalizing rows with
  | nil =>
      cases first
      exact List.forall_mem_nil _
  | cons same _ ih =>
      cases first with
      | cons made later =>
          cases second with
          | cons built last =>
              rw [List.forall_mem_cons]
              exact ⟨fits_of_hydrated plain bare distinct made built same, ih _ later last⟩

theorem forms_agree_partner :
    let profile : Relation :=
      ⟨"profile", .belongsToOne, "profiles", "profile", none, "profile_id", "id", some "id", none⟩
    let codes : Relation :=
      ⟨"codes", .hasMany, "codes", "codes", none, "partner_id", "id", none, some "id"⟩
    let requests : List Request := [⟨"profile", .single, profile, .wildcard⟩,
      ⟨"codes", .collection, codes, .wildcard⟩, ⟨"codes", .count, codes, .wildcard⟩]
    let row : Row := [("profile", .text "\x7b\"name\": \"a\"\x7d"), ("id", .int 1),
      ("codes", .text "\""), ("codes_count", .text "2")]
    (Handle.table "partners").mapped? ⟨[], .ofLists⟩ = none ∧
      (∀ request ∈ requests, (handleOf request.relation.model?).mapped? ⟨[], .ofLists⟩ = none) ∧
      (requests.map Request.outputKey).Nodup ∧ (∀ other ∈ [row], Fits requests other) ∧
      hydrate ⟨[], .ofLists⟩ .generic requests (.table "partners") [row] =
        .ok [.record [("profile", .record [("name", .text "a")]), ("id", .int 1),
          ("codes", .list []), ("codes_count", .int 2)]] ∧
      Outcome.Alike (List.Forall₂ SameRecord)
        (hydrate ⟨[], .ofLists⟩ .generic requests (.table "partners") [row])
        (hydrate ⟨[], .ofLists⟩ .entity requests (.table "partners") [row]) := by
  intro profile codes requests row
  have named : Json.read? "\x7b\"name\": \"a\"\x7d" = some (.record [("name", .text "a")]) := by cbv
  have bare : ∀ request ∈ requests,
      (handleOf request.relation.model?).mapped? ⟨[], .ofLists⟩ = none := by
    decide
  have distinct : (requests.map Request.outputKey).Nodup := by decide
  have fits : ∀ other ∈ [row], Fits requests other := by
    rw [List.forall_mem_singleton]
    intro request asked
    simp only [requests, List.mem_cons, List.not_mem_nil, or_false] at asked
    rcases asked with rfl | rfl | rfl
    · refine ⟨_, rfl, ?_⟩
      rintro _ decoded read
      rw [decodeJson_of_spells (.text _), decodeText_of_read named] at read
      cases read
      exact .object _
    · refine ⟨_, rfl, ?_⟩
      rintro _ decoded read
      cases read
      exact .unread _
    · exact ⟨_, rfl, fun nested => absurd rfl nested⟩
  have read : decodeRelation .single (.text "\x7b\"name\": \"a\"\x7d") =
      .ok (.record [("name", .text "a")]) := by
    rw [decodeRelation_single, decodeJson_of_spells (.text _), decodeText_of_read named]
    rfl
  have made : genericRecord requests row = .ok [("profile", .record [("name", .text "a")]),
      ("id", .int 1), ("codes", .list []), ("codes_count", .int 2)] := by
    rw [genericRecord_present rfl, Outcome.bind_of_ok read]
    rfl
  exact ⟨rfl, bare, distinct, fits, hydrate_eq_ok_iff.2 (.cons (Outcome.bind_of_ok made) .nil),
    (forms_agree ⟨[], .ofLists⟩ requests (.table "partners") [row] rfl bare distinct).1 fits⟩

end NestedSelect.Hydration
