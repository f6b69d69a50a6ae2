import NestedSelect.Proofs.Hydration.Entity

/-!
The rows and the shapes that hydration keeps.

Requests with output keys of their own do not meet: each leaves its value in its place, and what is
under no output key stays as it is. So there is a record for every row, its shape is that of the
requests, and the order of the requests does not show.

What a row attaches to its instance needs no more than that. What else the row has stays there if no
column of the root is stored under an output key. Under a name under which the mapping holds many
there is a list, whatever is asked for.
-/

namespace NestedSelect

def Model.columnAttributes (m : Model) : List String :=
  m.columns.map Column.attributeName

namespace Hydration

variable {schema : Schema} {form : Form} {requests permuted : List Request} {request : Request}
  {root : Handle} {rows : List Row} {row record fields : Row} {model : Option Model}
  {records : List Value} {given : Request → Outcome Value}

/-! ### The generic form -/

/-- A record has the names of its row, what is under no output key is as it was, and what is under
one is decoded. -/
structure KeepsKeys (requests : List Request) (row record : Row) : Prop where
  names : Record.names record = Record.names row
  unchanged : ∀ name, name ∉ requests.map Request.outputKey →
    Record.get? name record = Record.get? name row
  decoded : ∀ request ∈ requests, ∀ raw, Record.get? request.outputKey row = some raw →
    ∃ value, decodeRelation request.mode raw = .ok value ∧
      Record.get? request.outputKey record = some value
  collections : ∀ request ∈ requests, request.mode = .collection →
    Record.get? request.outputKey record ≠ some .null

theorem genericRecord_keepsKeys (distinct : (requests.map Request.outputKey).Nodup)
    (done : genericRecord requests row = .ok record) : KeepsKeys requests row record where
  names := names_genericRecord done
  unchanged _ apart := get?_genericRecord_of_notMem apart done
  decoded _ inside _ found := get?_genericRecord_of_distinct distinct done inside found
  collections request inside collection := by
    intro isNull
    cases found : Record.get? request.outputKey row with
    | none =>
        rw [get?_genericRecord_of_absent found done] at isNull
        cases isNull
    | some raw =>
        obtain ⟨value, decoded, stands⟩ := get?_genericRecord_of_distinct distinct done inside found
        rw [collection] at decoded
        rw [stands, Option.some.injEq] at isNull
        exact decodeRelation_collection_ne_null decoded isNull

/-! ### The entity form -/

/-- Every request has set its relation, be its key in the row or not: an instance or null for an
object, and nothing but instances for a collection. -/
structure Attaches (schema : Schema) (requests : List Request) (model : Option Model)
    (row fields : Row) : Prop where
  single : ∀ request ∈ requests, request.mode = .single →
    ∃ decoded value, decodeJson (received row request) = .ok decoded ∧
      InstanceOrNull schema request (entries? decoded.payload) value ∧
      (¬ HoldsMany model request.outputKey →
        Record.get? request.outputKey fields = some value) ∧
      (HoldsMany model request.outputKey → Record.get? request.outputKey fields =
        some (.list ((Record.names ((entries? decoded.payload).getD [])).map .text)))
  collection : ∀ request ∈ requests, request.mode = .collection →
    ∃ decoded built, decodeJson (received row request) = .ok decoded ∧
      Instances schema request (objectsOf decoded.payload) built ∧
      Record.get? request.outputKey fields = some (.list built)
  count : ∀ request ∈ requests, request.mode = .count →
    ∃ counted loaded, asCount (received row request) = .ok counted ∧
      held schema.instrumentation.loaded
        (model.bind (fun m => m.relationship? request.outputKey)) counted = .ok loaded ∧
      Record.get? request.outputKey fields = some loaded

/-- The fields have all that the row has under no output key, each in its place, and no more. -/
structure Retains (tools : Instrumentation) (requests : List Request) (model : Option Model)
    (row fields : Row) : Prop where
  kept : ∀ entry ∈ row, entry.1 ∉ requests.map Request.outputKey →
    ∃ last ∈ row, last.1 ∉ requests.map Request.outputKey ∧
      placeOf model last.1 = placeOf model entry.1 ∧
      ∃ value, storedAs tools model last.1 last.2 = .ok value ∧
        Record.get? (placeOf model entry.1) fields = some value
  noMore : ∀ name value, name ∉ requests.map Request.outputKey →
    Record.get? name fields = some value →
    ∃ entry ∈ row, entry.1 ∉ requests.map Request.outputKey ∧
      placeOf model entry.1 = name ∧ storedAs tools model entry.1 entry.2 = .ok value

/-- No column attribute of the model has the name of an output key. -/
def Apart (model : Option Model) (requests : List Request) : Prop :=
  ∀ m, model = some m → ∀ name ∈ m.columnAttributes, name ∉ requests.map Request.outputKey

theorem placeOf_cases (model : Option Model) (name : String) :
    placeOf model name = name ∨ ∃ m, model = some m ∧ placeOf model name ∈ m.columnAttributes := by
  cases model with
  | none => exact .inl rfl
  | some m =>
      cases found : m.storage? name with
      | none =>
          left
          simp only [placeOf, Option.bind_some, found, Option.map_none, Option.getD_none]
      | some storage =>
          right
          refine ⟨m, rfl, ?_⟩
          simp only [placeOf, Option.bind_some, found, Option.map_some, Option.getD_some]
          obtain ⟨column, stored, same⟩ := Option.map_eq_some_iff.1 found
          cases same
          exact List.mem_map_of_mem (List.mem_of_find?_eq_some stored)

theorem placeOf_notMem {name : String} (apart : Apart model requests)
    (outside : name ∉ requests.map Request.outputKey) :
    placeOf model name ∉ requests.map Request.outputKey := by
  rcases placeOf_cases model name with same | ⟨m, mapped, listed⟩
  · rw [same]
    exact outside
  · exact apart m mapped _ listed

theorem mem_outside_iff {entry : String × Value} :
    entry ∈ outside requests row ↔
      entry ∈ row ∧ entry.1 ∉ requests.map Request.outputKey := by
  rw [outside, List.mem_filter, Bool.not_eq_true', List.contains_eq_mem, decide_eq_false_iff_not]

theorem InstanceOrNull.items {decoded : Option Row} {value : Value} {items : List Value}
    (made : InstanceOrNull schema request decoded value) (has : value.itemsOrNone = .ok items) :
    items = (Record.names (decoded.getD [])).map .text := by
  cases made with
  | null =>
      cases has
      rfl
  | @built entries _ made =>
      rw [relatedInstance, build_eq] at made
      obtain ⟨fields, built, rfl⟩ := Outcome.map_eq_ok made
      cases mapped : (handleOf request.relation.model?).mapped? schema with
      | some m =>
          rw [mapped] at has
          cases has
      | none =>
          rw [mapped] at has built
          cases built
          cases entries with
          | nil =>
              cases has
              rfl
          | cons entry rest =>
              cases has
              rw [Option.getD_some, Record.names, List.map_map]
              rfl

theorem single_of_attached (holds : HoldsLoaded schema.instrumentation)
    (single : request.mode = .single) {value : Value}
    (done : attached schema model row request = .ok value) :
    ∃ decoded made, decodeJson (received row request) = .ok decoded ∧
      InstanceOrNull schema request (entries? decoded.payload) made ∧
      (¬ HoldsMany model request.outputKey → value = made) ∧
      (HoldsMany model request.outputKey → value =
        .list ((Record.names ((entries? decoded.payload).getD [])).map .text)) := by
  obtain ⟨made, attaches, held⟩ := Outcome.bind_eq_ok done
  obtain ⟨decoded, read, built⟩ := (attachment_single single).1 attaches
  refine ⟨decoded, made, read, built, ?_, ?_⟩
  · intro one
    rw [held_of_not_holdsMany holds one] at held
    exact (Except.ok.inj held).symm
  · intro many
    rw [held_of_holdsMany holds many] at held
    obtain ⟨items, has, rfl⟩ := Outcome.map_eq_ok held
    rw [built.items has]

theorem collection_of_attached (holds : HoldsLoaded schema.instrumentation)
    (collection : request.mode = .collection) {value : Value}
    (done : attached schema model row request = .ok value) :
    ∃ decoded built, decodeJson (received row request) = .ok decoded ∧
      Instances schema request (objectsOf decoded.payload) built ∧ value = .list built := by
  obtain ⟨made, attaches, held⟩ := Outcome.bind_eq_ok done
  obtain ⟨decoded, read, built, each, rfl⟩ := (attachment_collection collection).1 attaches
  rw [held_list holds] at held
  exact ⟨decoded, built, read, each, (Except.ok.inj held).symm⟩

theorem placeRelations_attaches (holds : HoldsLoaded schema.instrumentation)
    (distinct : (requests.map Request.outputKey).Nodup)
    (done : placeRelations (attached schema model row) requests fields = .ok record) :
    Attaches schema requests model row record where
  single request inside single := by
    obtain ⟨value, gives, found⟩ := get?_placeRelations_of_distinct distinct done inside
    obtain ⟨decoded, made, read, built, one, many⟩ := single_of_attached holds single gives
    refine ⟨decoded, made, read, built, ?_, ?_⟩
    · intro plain
      rw [found, one plain]
    · intro listed
      rw [found, many listed]
  collection request inside collection := by
    obtain ⟨value, gives, found⟩ := get?_placeRelations_of_distinct distinct done inside
    obtain ⟨decoded, built, read, each, same⟩ := collection_of_attached holds collection gives
    exact ⟨decoded, built, read, each, found.trans (congrArg some same)⟩
  count request inside count := by
    obtain ⟨value, gives, found⟩ := get?_placeRelations_of_distinct distinct done inside
    obtain ⟨counted, made, held⟩ := Outcome.bind_eq_ok gives
    rw [attachment_count count] at made
    exact ⟨counted, value, made, held, found⟩

theorem placeRelations_retains (apart : Apart (root.mapped? schema) requests)
    (built : rootFields schema root requests row = .ok fields)
    (done : placeRelations given requests fields = .ok record) :
    Retains schema.instrumentation requests (root.mapped? schema) row record where
  kept entry inside outside := by
    -- The place is no output key either, so no request has written there.
    have place := placeOf_notMem apart outside
    obtain ⟨value, found⟩ := exists_get?_builtFields built (mem_outside_iff.2 ⟨inside, outside⟩)
    obtain ⟨last, listed, same, stored⟩ := exists_of_get?_builtFields built found
    obtain ⟨member, free⟩ := mem_outside_iff.1 listed
    refine ⟨last, member, free, same, value, stored, ?_⟩
    rw [get?_placeRelations_of_notMem place done]
    exact found
  noMore name value outside found := by
    rw [get?_placeRelations_of_notMem outside done] at found
    obtain ⟨entry, listed, same, stored⟩ := exists_of_get?_builtFields built found
    obtain ⟨member, free⟩ := mem_outside_iff.1 listed
    exact ⟨entry, member, free, same, stored⟩

/-! ### The order of the requests -/

/-- Records of the same kind with the same value under every name. -/
inductive SameRecord : Value → Value → Prop where
  | record {fields others : Row}
      (same : ∀ name, Record.get? name fields = Record.get? name others) :
      SameRecord (.record fields) (.record others)
  | entity {model : String} {fields others : Row}
      (same : ∀ name, Record.get? name fields = Record.get? name others) :
      SameRecord (.entity model fields) (.entity model others)

theorem SameRecord.instanceOf {others : Row}
    (same : ∀ name, Record.get? name fields = Record.get? name others) :
    SameRecord (instanceOf model fields) (instanceOf model others) := by
  cases model with
  | none => exact .record same
  | some m => exact .entity same

theorem distinct_of_perm (order : permuted.Perm requests)
    (distinct : (requests.map Request.outputKey).Nodup) :
    (permuted.map Request.outputKey).Nodup :=
  (order.map Request.outputKey).nodup_iff.2 distinct

theorem mem_keys_of_perm (order : permuted.Perm requests) {name : String} :
    name ∈ permuted.map Request.outputKey ↔ name ∈ requests.map Request.outputKey :=
  (order.map Request.outputKey).mem_iff

theorem get?_eq_of_keys (requests : List Request) {other : Row}
    (keys : ∀ request ∈ requests,
      Record.get? request.outputKey record = Record.get? request.outputKey other)
    (apart : ∀ name, name ∉ requests.map Request.outputKey →
      Record.get? name record = Record.get? name other) (name : String) :
    Record.get? name record = Record.get? name other := by
  by_cases key : name ∈ requests.map Request.outputKey
  · obtain ⟨request, inside, rfl⟩ := List.mem_map.1 key
    exact keys request inside
  · exact apart name key

theorem genericRecord_perm (distinct : (requests.map Request.outputKey).Nodup)
    (order : permuted.Perm requests) (done : genericRecord requests row = .ok record) :
    ∃ other, genericRecord permuted row = .ok other ∧
      ∀ name, Record.get? name record = Record.get? name other := by
  have distinct' := distinct_of_perm order distinct
  have readable : ∀ request ∈ permuted, ∀ raw, Record.get? request.outputKey row = some raw →
      ¬ Unreadable request.mode raw := by
    intro request inside raw found
    obtain ⟨value, decoded, _⟩ :=
      get?_genericRecord_of_distinct distinct done (order.mem_iff.1 inside) found
    exact exists_decodeRelation_eq_ok_iff.1 ⟨value, decoded⟩
  obtain ⟨other, again⟩ := exists_genericRecord_of_distinct distinct' readable
  refine ⟨other, again, get?_eq_of_keys requests ?_ ?_⟩
  · intro request inside
    cases found : Record.get? request.outputKey row with
    | some raw =>
        obtain ⟨value, decoded, here⟩ := get?_genericRecord_of_distinct distinct done inside found
        obtain ⟨value', decoded', there⟩ :=
          get?_genericRecord_of_distinct distinct' again (order.mem_iff.2 inside) found
        cases decoded.symm.trans decoded'
        rw [here, there]
    | none =>
        rw [get?_genericRecord_of_absent found done, get?_genericRecord_of_absent found again]
  · intro name key
    have key' := fun inside => key ((mem_keys_of_perm order).1 inside)
    rw [get?_genericRecord_of_notMem key done, get?_genericRecord_of_notMem key' again]

theorem placeRelations_perm (distinct : (requests.map Request.outputKey).Nodup)
    (order : permuted.Perm requests) (done : placeRelations given requests row = .ok record) :
    ∃ other, placeRelations given permuted row = .ok other ∧
      ∀ name, Record.get? name record = Record.get? name other := by
  have all := exists_placeRelations_eq_ok_iff.1 ⟨record, done⟩
  obtain ⟨other, again⟩ := exists_placeRelations_eq_ok_iff.2
    (fun request inside => all request (order.mem_iff.1 inside))
  refine ⟨other, again, get?_eq_of_keys requests ?_ ?_⟩
  · intro request inside
    obtain ⟨value, gives, here⟩ := get?_placeRelations_of_distinct distinct done inside
    obtain ⟨value', gives', there⟩ := get?_placeRelations_of_distinct
      (distinct_of_perm order distinct) again (order.mem_iff.2 inside)
    cases gives.symm.trans gives'
    rw [here, there]
  · intro name key
    have key' := fun inside => key ((mem_keys_of_perm order).1 inside)
    rw [get?_placeRelations_of_notMem key done, get?_placeRelations_of_notMem key' again]

theorem rootFields_perm (order : permuted.Perm requests) :
    rootFields schema root permuted row = rootFields schema root requests row := by
  unfold rootFields outside
  congr 2
  funext entry
  have same : (permuted.map Request.outputKey).contains entry.1 =
      (requests.map Request.outputKey).contains entry.1 := by
    rw [Bool.eq_iff_iff, List.contains_iff_mem, List.contains_iff_mem]
    exact mem_keys_of_perm order
  rw [same]

theorem hydrateRow_perm (distinct : (requests.map Request.outputKey).Nodup)
    (order : permuted.Perm requests) {answer : Value}
    (done : hydrateRow schema form requests root row = .ok answer) :
    ∃ other, hydrateRow schema form permuted root row = .ok other ∧ SameRecord answer other := by
  cases form with
  | generic =>
      obtain ⟨record, made, done⟩ := Outcome.bind_eq_ok done
      cases done
      obtain ⟨other, again, same⟩ := genericRecord_perm distinct order made
      exact ⟨.record other, Outcome.bind_of_ok again, .record same⟩
  | entity =>
      obtain ⟨fields, record, built, placed, rfl⟩ := entityOf_eq_ok_iff.1 done
      obtain ⟨other, again, same⟩ := placeRelations_perm distinct order placed
      rw [← rootFields_perm order] at built
      exact ⟨_, entityOf_eq_ok_iff.2 ⟨fields, other, built, again, rfl⟩, .instanceOf same⟩

theorem hydrate_perm (distinct : (requests.map Request.outputKey).Nodup)
    (order : permuted.Perm requests)
    (done : hydrate schema form requests root rows = .ok records) :
    ∃ others, hydrate schema form permuted root rows = .ok others ∧
      List.Forall₂ SameRecord records others := by
  have each := hydrate_eq_ok_iff.1 done
  clear done
  induction each with
  | nil => exact ⟨[], rfl, .nil⟩
  | cons first _ ih =>
      obtain ⟨other, again, same⟩ := hydrateRow_perm distinct order first
      obtain ⟨others, later, alike⟩ := ih
      refine ⟨other :: others, ?_, .cons same alike⟩
      rw [hydrate_eq_ok_iff] at later ⊢
      exact .cons again later

/-! ### Rows and shapes -/

/-- With output keys that differ: a record for every row, in the order of the rows, whatever the
form and the order of the requests; the same records for every such order; what the generic form
keeps and decodes; what the entity form attaches, where attributes hold what is loaded for them; and
what it retains, if no column of the root is stored under an output key. -/
theorem hydrate_keeps_shapes (schema : Schema) (requests : List Request) (root : Handle)
    (rows : List Row) (distinct : (requests.map Request.outputKey).Nodup) :
    (∀ records, hydrate schema .generic requests root rows = .ok records →
      List.Forall₂ (fun row answer => ∃ record, answer = .record record ∧
        KeepsKeys requests row record) rows records) ∧
    (∀ records, hydrate schema .entity requests root rows = .ok records →
      List.Forall₂ (fun row answer => ∃ fields, answer = instanceOf (root.mapped? schema) fields ∧
        (HoldsLoaded schema.instrumentation →
          Attaches schema requests (root.mapped? schema) row fields) ∧
        (Apart (root.mapped? schema) requests →
          Retains schema.instrumentation requests (root.mapped? schema) row fields))
        rows records) ∧
    (∀ form records permuted, permuted.Perm requests →
      hydrate schema form requests root rows = .ok records →
      ∃ others, hydrate schema form permuted root rows = .ok others ∧
        List.Forall₂ SameRecord records others ∧
        List.Forall₂ (fun row other => hydrateRow schema form permuted root row = .ok other)
          rows others) := by
  refine ⟨?_, ?_, ?_⟩
  · intro records done
    apply (hydrate_eq_ok_iff.1 done).imp
    intro row answer hydrated
    obtain ⟨record, made, hydrated⟩ := Outcome.bind_eq_ok hydrated
    cases hydrated
    exact ⟨record, rfl, genericRecord_keepsKeys distinct made⟩
  · intro records done
    apply (hydrate_eq_ok_iff.1 done).imp
    intro row answer hydrated
    obtain ⟨fields, record, built, placed, same⟩ := entityOf_eq_ok_iff.1 hydrated
    refine ⟨record, same, ?_, ?_⟩
    · intro holds
      exact placeRelations_attaches holds distinct placed
    · intro apart
      exact placeRelations_retains apart built placed
  · intro form records permuted order done
    obtain ⟨others, again, same⟩ := hydrate_perm distinct order done
    exact ⟨others, again, same, hydrate_eq_ok_iff.1 again⟩

theorem hydrate_keeps_shapes_partner :
    let profile : Relation :=
      ⟨"profile", .belongsToOne, "profiles", "profile", none, "profile_id", "id", some "id", none⟩
    let codes : Relation :=
      ⟨"codes", .hasMany, "codes", "codes", some "Code", "partner_id", "id", none, some "id"⟩
    let code : Model := ⟨"Code", "models", some "codes", none, true,
      [⟨"active", "is_active", .boolean, true⟩], ["active"], [], []⟩
    let partner : Model := ⟨"Partner", "models", some "partners", none, true,
      [⟨"id", "id", .integer, true⟩], ["id"],
      [⟨"codes", "Code", .oneToMany, true, none, [("id", "partner_id")]⟩], []⟩
    let schema : Schema := ⟨[partner, code], .ofLists⟩
    let requests : List Request := [⟨"profile", .single, profile, .wildcard⟩,
      ⟨"codes", .collection, codes, .wildcard⟩, ⟨"codes", .count, codes, .wildcard⟩]
    let rows : List Row :=
      [[("id", .int 1), ("profile", .record [("name", .text "a")]),
          ("codes", .list [.record [("active", .int 1)], .int 7]), ("codes_count", .text "2")],
        [("id", .int 2), ("more", .null)]]
    let plain : List Value :=
      [.record [("id", .int 1), ("profile", .record [("name", .text "a")]),
          ("codes", .list [.record [("active", .int 1)], .int 7]), ("codes_count", .int 2)],
        .record [("id", .int 2), ("more", .null)]]
    let instances : List Value :=
      [.entity "Partner" [("id", .int 1), ("profile", .record [("name", .text "a")]),
          ("codes", .list [.entity "Code" [("is_active", .bool true)]]), ("codes_count", .int 2)],
        .entity "Partner" [("id", .int 2), ("more", .null), ("profile", .null),
          ("codes", .list []), ("codes_count", .int 0)]]
    (requests.map Request.outputKey).Nodup ∧ HoldsLoaded schema.instrumentation ∧
      hydrate schema .generic requests (.model "Partner") rows = .ok plain ∧
      hydrate schema .entity requests (.model "Partner") rows = .ok instances ∧
      Apart (some partner) requests ∧ requests.reverse.Perm requests ∧
      List.Forall₂ (fun row answer => ∃ record, answer = .record record ∧
        KeepsKeys requests row record) rows plain ∧
      List.Forall₂ (fun row answer => ∃ fields, answer = instanceOf (some partner) fields ∧
        (HoldsLoaded schema.instrumentation →
          Attaches schema requests (some partner) row fields) ∧
        (Apart (some partner) requests →
          Retains .ofLists requests (some partner) row fields)) rows instances ∧
      ∃ others, hydrate schema .entity requests.reverse (.model "Partner") rows = .ok others ∧
        List.Forall₂ SameRecord instances others ∧
        List.Forall₂ (fun row other =>
          hydrateRow schema .entity requests.reverse (.model "Partner") row = .ok other)
          rows others := by
  intro profile codes code partner schema requests rows plain instances
  have distinct : (requests.map Request.outputKey).Nodup := by decide
  have generic : hydrate schema .generic requests (.model "Partner") rows = .ok plain := by rfl
  have entity : hydrate schema .entity requests (.model "Partner") rows = .ok instances := by rfl
  have apart : Apart (some partner) requests := by
    intro m mapped
    cases mapped
    decide
  have order : requests.reverse.Perm requests := requests.reverse_perm
  obtain ⟨keys, attached, permuted⟩ :=
    hydrate_keeps_shapes schema requests (.model "Partner") rows distinct
  exact ⟨distinct, holdsLoaded_ofLists, generic, entity, apart, order, keys plain generic,
    attached instances entity, permuted .entity instances _ order entity⟩

/-- A single object under a name under which the mapping holds many: neither null nor an
instance. -/
theorem held_list_is_no_single_object :
    let codes : Relation :=
      ⟨"codes", .hasOne, "codes", "codes", some "Code", "partner_id", "id", none, some "id"⟩
    let code : Model := ⟨"Code", "models", some "codes", none, true,
      [⟨"id", "id", .integer, true⟩], ["id"], [], []⟩
    let partner : Model := ⟨"Partner", "models", some "partners", none, true,
      [⟨"id", "id", .integer, true⟩], ["id"],
      [⟨"codes", "Code", .oneToMany, true, none, [("id", "partner_id")]⟩], []⟩
    let schema : Schema := ⟨[partner, code], .ofLists⟩
    let request : Request := ⟨"codes", .single, codes, .wildcard⟩
    ¬ ∀ fields, hydrate schema .entity [request] (.model "Partner")
          [[("id", .int 1), ("codes", .null)]] = .ok [.entity "Partner" fields] →
        ∃ record? value, InstanceOrNull schema request record? value ∧
          Record.get? "codes" fields = some value := by
  intro codes code partner schema request shaped
  obtain ⟨record?, value, made, found⟩ := shaped [("id", .int 1), ("codes", .list [])] rfl
  cases made with
  | null => cases found
  | built made =>
      cases found
      rw [relatedInstance, build_eq] at made
      obtain ⟨fields, _, same⟩ := Outcome.map_eq_ok made
      cases same

end Hydration

end NestedSelect
