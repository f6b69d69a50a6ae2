import NestedSelect.Proofs.Hydration.Rows

/-!
What the entity form makes of a row.

The root is built of what is under no output key. Then every request, in turn, puts what it reads of
the row under its output key, which does not depend on what the others put there. So the whole is a
row of fields, whether the root has a mapping or not (`entityOf_eq`). An attribute of a relationship
may refuse a value; nothing else of a mapping does (`exists_builtFields_eq_ok_iff`).
-/

namespace NestedSelect.Hydration

variable {schema : Schema} {tools : Instrumentation} {requests before after : List Request}
  {request : Request} {root handle : Handle} {row fields record stored : Row} {model : Option Model}
  {m : Model} {raw value : Value}

theorem exists_forall₂_iff {α β : Type} {related : α → β → Prop} {as : List α} :
    (∃ bs, List.Forall₂ related as bs) ↔ ∀ a ∈ as, ∃ b, related a b := by
  induction as with
  | nil => exact iff_of_true ⟨[], .nil⟩ (List.forall_mem_nil _)
  | cons a rest ih =>
      rw [List.forall_mem_cons, ← ih]
      constructor
      · rintro ⟨_, each⟩
        cases each with
        | cons first more => exact ⟨⟨_, first⟩, _, more⟩
      · rintro ⟨⟨b, first⟩, bs, more⟩
        exact ⟨b :: bs, .cons first more⟩

/-! ### Instances -/

/-- Where a value is stored that is known under a name. -/
def placeOf (model : Option Model) (name : String) : String :=
  ((model.bind (fun m => m.storage? name)).map Prod.fst).getD name

/-- What is stored of a value that is known under a name. -/
def storedAs (tools : Instrumentation) (model : Option Model) (name : String) (value : Value) :
    Outcome Value :=
  match model.bind (fun m => m.storage? name) with
  | some (_, type) => .ok (coerce (some type) value)
  | none => held tools.assigned (model.bind (fun m => m.relationship? name)) value

def builtFields (tools : Instrumentation) (model : Option Model) (values : Row) : Outcome Row :=
  match model with
  | none => .ok values
  | some m => storeAll tools m [] values

def instanceOf (model : Option Model) (fields : Row) : Value :=
  match model with
  | none => .record fields
  | some m => .entity m.name fields

theorem build_eq (schema : Schema) (handle : Handle) (values : Row) :
    build schema handle values =
      (builtFields schema.instrumentation (handle.mapped? schema) values).map
        (instanceOf (handle.mapped? schema)) := by
  unfold build builtFields
  cases handle.mapped? schema with
  | none => rfl
  | some m =>
      dsimp only
      cases storeAll schema.instrumentation m [] values <;> rfl

theorem storedAs_unmapped (name : String) (value : Value) :
    storedAs tools none name value = .ok value := rfl

theorem store_eq (m : Model) (attributes : Row) (name : String) (value : Value) :
    store tools m attributes name value =
      (storedAs tools (some m) name value).map
        (fun held => Record.put (placeOf (some m) name) held attributes) := by
  unfold store placeOf storedAs
  rw [Option.bind_some, Option.bind_some]
  cases m.storage? name with
  | none =>
      dsimp only
      cases held tools.assigned (m.relationship? name) value <;> rfl
  | some storage => rfl

def Stores (tools : Instrumentation) (model : Option Model) : Row → Row → Prop :=
  List.Forall₂ (fun entry field =>
    field.1 = placeOf model entry.1 ∧ storedAs tools model entry.1 entry.2 = .ok field.2)

theorem storeAll_eq_ok_iff {attributes : Row} :
    storeAll tools m attributes row = .ok fields ↔
      ∃ stored, Stores tools (some m) row stored ∧ fields = Record.merge attributes stored := by
  induction row generalizing attributes with
  | nil =>
      constructor
      · intro done
        cases done
        exact ⟨[], .nil, rfl⟩
      · rintro ⟨stored, each, rfl⟩
        cases each
        rfl
  | cons entry rest ih =>
      constructor
      · intro done
        obtain ⟨later, first, done⟩ := Outcome.bind_eq_ok done
        rw [store_eq] at first
        obtain ⟨held, holds, rfl⟩ := Outcome.map_eq_ok first
        obtain ⟨stored, each, rfl⟩ := ih.1 done
        exact ⟨(placeOf (some m) entry.1, held) :: stored, .cons ⟨rfl, holds⟩ each, rfl⟩
      · rintro ⟨_, each, rfl⟩
        cases each with
        | @cons _ field _ stored first each =>
            have holds : store tools m attributes entry.1 entry.2 =
                .ok (Record.put field.1 field.2 attributes) := by
              rw [store_eq, Outcome.map_of_ok first.2, first.1]
            exact (Outcome.bind_of_ok holds).trans (ih.2 ⟨stored, each, rfl⟩)

theorem exists_stores_iff :
    (∃ stored, Stores tools model row stored) ↔
      ∀ entry ∈ row, ∃ value, storedAs tools model entry.1 entry.2 = .ok value := by
  unfold Stores
  rw [exists_forall₂_iff]
  apply forall₂_congr
  intro entry _
  constructor
  · rintro ⟨field, _, holds⟩
    exact ⟨field.2, holds⟩
  · rintro ⟨value, holds⟩
    exact ⟨(placeOf model entry.1, value), rfl, holds⟩

theorem Stores.exists_entry (each : Stores tools model row stored) {field : String × Value}
    (inside : field ∈ stored) :
    ∃ entry ∈ row, placeOf model entry.1 = field.1 ∧
      storedAs tools model entry.1 entry.2 = .ok field.2 := by
  induction each with
  | nil => cases inside
  | cons first _ ih =>
      rcases List.mem_cons.1 inside with rfl | later
      · exact ⟨_, List.mem_cons_self, first.1.symm, first.2⟩
      · obtain ⟨entry, member, same⟩ := ih later
        exact ⟨entry, List.mem_cons_of_mem _ member, same⟩

theorem Stores.names (each : Stores tools model row stored) :
    Record.names stored = (Record.names row).map (placeOf model) := by
  induction each with
  | nil => rfl
  | cons first _ ih =>
      simp only [Record.names, List.map_cons, List.map_map, first.1] at ih ⊢
      rw [ih]

theorem builtFields_mapped (built : builtFields tools (some m) row = .ok fields) :
    ∃ stored, Stores tools (some m) row stored ∧ fields = Record.ofPairs stored :=
  storeAll_eq_ok_iff.1 built

theorem exists_builtFields_eq_ok_iff :
    (∃ fields, builtFields tools model row = .ok fields) ↔
      ∀ entry ∈ row, ∃ value, storedAs tools model entry.1 entry.2 = .ok value := by
  cases model with
  | none => exact iff_of_true ⟨row, rfl⟩ (fun entry _ => ⟨entry.2, storedAs_unmapped _ _⟩)
  | some m =>
      rw [← exists_stores_iff]
      constructor
      · rintro ⟨fields, built⟩
        obtain ⟨stored, each, _⟩ := builtFields_mapped built
        exact ⟨stored, each⟩
      · rintro ⟨stored, each⟩
        exact ⟨_, storeAll_eq_ok_iff.2 ⟨stored, each, rfl⟩⟩

theorem exists_of_get?_builtFields {name : String}
    (built : builtFields tools model row = .ok fields)
    (found : Record.get? name fields = some value) :
    ∃ entry ∈ row, placeOf model entry.1 = name ∧
      storedAs tools model entry.1 entry.2 = .ok value := by
  cases model with
  | none =>
      cases built
      exact ⟨(name, value), Record.mem_of_get? found, rfl, storedAs_unmapped _ _⟩
  | some m =>
      obtain ⟨stored, each, rfl⟩ := builtFields_mapped built
      rw [Record.get?_ofPairs] at found
      exact each.exists_entry (List.mem_reverse.1 (Record.mem_of_get? found))

theorem exists_get?_builtFields {entry : String × Value}
    (built : builtFields tools model row = .ok fields) (inside : entry ∈ row) :
    ∃ value, Record.get? (placeOf model entry.1) fields = some value := by
  rw [← Record.mem_names_iff]
  cases model with
  | none =>
      cases built
      exact List.mem_map_of_mem inside
  | some m =>
      obtain ⟨stored, each, rfl⟩ := builtFields_mapped built
      rw [Record.mem_names_ofPairs, each.names]
      exact List.mem_map_of_mem (List.mem_map_of_mem inside)

/-! ### What requests attach -/

def received (row : Row) (request : Request) : Value :=
  (Record.get? request.outputKey row).getD .null

def attachment (schema : Schema) (row : Row) (request : Request) : Outcome Value :=
  match request.mode with
  | .count => asCount (received row request)
  | .single | .collection => do
      relatedValue schema request (← decodeJson (received row request)).payload

def attached (schema : Schema) (model : Option Model) (row : Row) (request : Request) :
    Outcome Value := do
  held schema.instrumentation.loaded (model.bind (fun m => m.relationship? request.outputKey))
    (← attachment schema row request)

/-- Fields with what every request gives put under its output key, one after another. -/
def placeRelations (given : Request → Outcome Value) : List Request → Row → Outcome Row
  | [], fields => .ok fields
  | request :: rest, fields => do
      let value ← given request
      placeRelations given rest (Record.put request.outputKey value fields)

theorem attach_instanceOf (known : ∀ m, model = some m → schema.mapped? m.name = some m)
    (name : String) (value : Value) (fields : Row) :
    attach schema name value (instanceOf model fields) = (do
      let loaded ← held schema.instrumentation.loaded
        (model.bind (fun m => m.relationship? name)) value
      .ok (instanceOf model (Record.put name loaded fields))) := by
  cases model with
  | none => rfl
  | some m =>
      simp only [attach, instanceOf, known m rfl]

theorem outputKey_of_nested (nested : request.mode ≠ .count) :
    request.outputKey = request.name := by
  unfold Request.outputKey
  cases mode : request.mode with
  | count => exact absurd mode nested
  | single => rfl
  | collection => rfl

theorem attached_unmapped : attached schema none row request = attachment schema row request := by
  unfold attached
  cases attachment schema row request <;> rfl

theorem attachRelations_cons (request : Request) (rest : List Request) (built : Value) :
    attachRelations schema row (request :: rest) built = (do
      let value ← attachment schema row request
      let further ← attach schema request.outputKey value built
      attachRelations schema row rest further) := by
  cases mode : request.mode with
  | count => simp only [attachRelations, attachment, received, mode]
  | single =>
      simp only [attachRelations, attachment, received, mode, bind_assoc]
      rw [outputKey_of_nested (by rw [mode]; decide)]
  | collection =>
      simp only [attachRelations, attachment, received, mode, bind_assoc]
      rw [outputKey_of_nested (by rw [mode]; decide)]

theorem attachRelations_eq (known : ∀ m, model = some m → schema.mapped? m.name = some m)
    (requests : List Request) (fields : Row) :
    attachRelations schema row requests (instanceOf model fields) =
      (placeRelations (attached schema model row) requests fields).map (instanceOf model) := by
  induction requests generalizing fields with
  | nil => rfl
  | cons request rest ih =>
      rw [attachRelations_cons, placeRelations, attached]
      cases attachment schema row request with
      | error fault => rfl
      | ok value =>
          rw [Outcome.bind_of_ok rfl, Outcome.bind_of_ok rfl, attach_instanceOf known]
          cases held schema.instrumentation.loaded
              (model.bind (fun m => m.relationship? request.outputKey)) value with
          | error fault => rfl
          | ok loaded => exact ih (Record.put request.outputKey loaded fields)

theorem mapped?_self (found : root.mapped? schema = some m) : schema.mapped? m.name = some m := by
  cases root with
  | table name => cases found
  | nothing => cases found
  | model name =>
      obtain ⟨listed, mapped⟩ := Option.filter_eq_some_iff.1 found
      rw [← Schema.model?_name listed] at found
      exact found

def outside (requests : List Request) (row : Row) : Row :=
  row.filter (fun entry => !(requests.map Request.outputKey).contains entry.1)

def rootFields (schema : Schema) (root : Handle) (requests : List Request) (row : Row) :
    Outcome Row :=
  builtFields schema.instrumentation (root.mapped? schema) (outside requests row)

theorem rootFields_unmapped (plain : root.mapped? schema = none) :
    rootFields schema root requests row = .ok (outside requests row) := by
  rw [rootFields, plain]
  rfl

theorem entityOf_eq (schema : Schema) (root : Handle) (requests : List Request) (row : Row) :
    entityOf schema root requests row =
      (rootFields schema root requests row >>=
        placeRelations (attached schema (root.mapped? schema) row) requests).map
          (instanceOf (root.mapped? schema)) := by
  simp only [entityOf, rootFields, outside, build_eq]
  cases builtFields schema.instrumentation (root.mapped? schema) _ with
  | error fault => rfl
  | ok fields => exact attachRelations_eq (fun m found => mapped?_self found) requests fields

theorem entityOf_eq_ok_iff :
    entityOf schema root requests row = .ok value ↔
      ∃ fields record, rootFields schema root requests row = .ok fields ∧
        placeRelations (attached schema (root.mapped? schema) row) requests fields = .ok record ∧
        value = instanceOf (root.mapped? schema) record := by
  rw [entityOf_eq]
  constructor
  · intro done
    obtain ⟨record, placed, same⟩ := Outcome.map_eq_ok done
    obtain ⟨fields, built, placed⟩ := Outcome.bind_eq_ok placed
    exact ⟨fields, record, built, placed, same⟩
  · rintro ⟨fields, record, built, placed, rfl⟩
    exact Outcome.map_of_ok ((Outcome.bind_of_ok built).trans placed)

/-! ### One after another -/

variable {given : Request → Outcome Value}

theorem exists_placeRelations_eq_ok_iff :
    (∃ record, placeRelations given requests fields = .ok record) ↔
      ∀ request ∈ requests, ∃ value, given request = .ok value := by
  induction requests generalizing fields with
  | nil => exact iff_of_true ⟨fields, rfl⟩ (fun _ inside => absurd inside List.not_mem_nil)
  | cons first rest ih =>
      rw [List.forall_mem_cons]
      constructor
      · rintro ⟨record, done⟩
        obtain ⟨value, gives, done⟩ := Outcome.bind_eq_ok done
        exact ⟨⟨value, gives⟩, ih.1 ⟨record, done⟩⟩
      · rintro ⟨⟨value, gives⟩, others⟩
        obtain ⟨record, done⟩ := ih.2 others
        exact ⟨record, (Outcome.bind_of_ok gives).trans done⟩

theorem get?_placeRelations_of_notMem {name : String}
    (apart : name ∉ requests.map Request.outputKey)
    (done : placeRelations given requests fields = .ok record) :
    Record.get? name record = Record.get? name fields := by
  induction requests generalizing fields with
  | nil =>
      cases done
      rfl
  | cons first rest ih =>
      rw [List.map_cons, List.mem_cons, not_or] at apart
      obtain ⟨value, _, done⟩ := Outcome.bind_eq_ok done
      rw [ih apart.2 done, Record.get?_put_of_ne apart.1]

theorem get?_placeRelations_last
    (done : placeRelations given (before ++ request :: after) fields = .ok record)
    (last : request.outputKey ∉ after.map Request.outputKey) :
    ∃ value, given request = .ok value ∧ Record.get? request.outputKey record = some value := by
  induction before generalizing fields with
  | nil =>
      obtain ⟨value, gives, done⟩ := Outcome.bind_eq_ok done
      refine ⟨value, gives, ?_⟩
      rw [get?_placeRelations_of_notMem last done, Record.get?_put_self]
  | cons first rest ih =>
      obtain ⟨_, _, done⟩ := Outcome.bind_eq_ok done
      exact ih done

theorem get?_placeRelations_of_distinct (distinct : (requests.map Request.outputKey).Nodup)
    (done : placeRelations given requests fields = .ok record) (inside : request ∈ requests) :
    ∃ value, given request = .ok value ∧ Record.get? request.outputKey record = some value := by
  obtain ⟨before, after, rfl⟩ := List.append_of_mem inside
  exact get?_placeRelations_last done (apart_of_distinct distinct).2

theorem placeRelations_congr {others : Request → Outcome Value}
    (same : ∀ request ∈ requests, given request = others request) :
    placeRelations given requests fields = placeRelations others requests fields := by
  induction requests generalizing fields with
  | nil => rfl
  | cons first rest ih =>
      rw [List.forall_mem_cons] at same
      simp only [placeRelations, same.1, ih same.2]

/-! ### What a relation becomes -/

def entries? : Value → Option Row
  | .record entries => some entries
  | _ => none

def objectsOf : Value → List Row
  | .list items => items.filterMap entries?
  | _ => []

def relatedInstance (schema : Schema) (request : Request) (entries : Row) : Outcome Value :=
  build schema (handleOf request.relation.model?) entries

def Instances (schema : Schema) (request : Request) : List Row → List Value → Prop :=
  List.Forall₂ (fun entries built => relatedInstance schema request entries = .ok built)

theorem buildRecords_eq_ok_iff {items built : List Value} :
    buildRecords schema (handleOf request.relation.model?) items = .ok built ↔
      Instances schema request (items.filterMap entries?) built := by
  fun_induction buildRecords schema (handleOf request.relation.model?) items generalizing built with
  | case1 =>
      rw [List.filterMap_nil, Instances, List.forall₂_nil_left_iff]
      constructor
      · intro done
        cases done
        rfl
      · rintro rfl
        rfl
  | case2 entries rest ih =>
      have kept : (Value.record entries :: rest).filterMap entries? =
          entries :: rest.filterMap entries? := rfl
      rw [kept]
      constructor
      · intro done
        obtain ⟨first, made, done⟩ := Outcome.bind_eq_ok done
        obtain ⟨others, more, done⟩ := Outcome.bind_eq_ok done
        cases done
        exact .cons made (ih.1 more)
      · intro each
        cases each with
        | cons made more => exact (Outcome.bind_of_ok made).trans (Outcome.bind_of_ok (ih.2 more))
  | case3 item rest noRecord ih =>
      have skipped : entries? item = none := by
        cases item with
        | record entries => exact absurd rfl (noRecord entries)
        | _ => rfl
      rw [List.filterMap_cons_none skipped]
      exact ih

/-- An instance of a record, or null where there is none. -/
inductive InstanceOrNull (schema : Schema) (request : Request) : Option Row → Value → Prop where
  | built {entries : Row} {value : Value}
      (made : relatedInstance schema request entries = .ok value) :
      InstanceOrNull schema request (some entries) value
  | null : InstanceOrNull schema request none .null

theorem relatedValue_single (single : request.mode = .single) {decoded : Value} :
    relatedValue schema request decoded = .ok value ↔
      InstanceOrNull schema request (entries? decoded) value := by
  have made : relatedValue schema request decoded =
      match entries? decoded with
      | some entries => relatedInstance schema request entries
      | none => .ok .null := by
    unfold relatedValue
    rw [single]
    cases decoded <;> rfl
  rw [made]
  cases entries? decoded with
  | some entries =>
      constructor
      · exact .built
      · rintro ⟨made⟩
        exact made
  | none =>
      constructor
      · intro done
        cases done
        exact .null
      · rintro ⟨⟩
        rfl

theorem relatedValue_collection (collection : request.mode = .collection) {decoded : Value} :
    relatedValue schema request decoded = .ok value ↔
      ∃ built, Instances schema request (objectsOf decoded) built ∧ value = .list built := by
  have made : relatedValue schema request decoded =
      match decoded with
      | .list items => (buildRecords schema (handleOf request.relation.model?) items).map .list
      | _ => .ok (.list []) := by
    unfold relatedValue
    rw [collection]
    cases decoded with
    | list items =>
        dsimp only
        cases buildRecords schema (handleOf request.relation.model?) items <;> rfl
    | _ => rfl
  rw [made]
  cases decoded with
  | list items =>
      constructor
      · intro done
        obtain ⟨built, more, rfl⟩ := Outcome.map_eq_ok done
        exact ⟨built, buildRecords_eq_ok_iff.1 more, rfl⟩
      · rintro ⟨built, each, rfl⟩
        exact Outcome.map_of_ok (buildRecords_eq_ok_iff.2 each)
  | _ =>
      constructor
      · intro done
        cases done
        exact ⟨[], .nil, rfl⟩
      · rintro ⟨built, each, rfl⟩
        cases each
        rfl

theorem attachment_count (count : request.mode = .count) :
    attachment schema row request = asCount (received row request) := by
  simp only [attachment, count]

theorem attachment_nested (nested : request.mode ≠ .count) :
    attachment schema row request = (do
      relatedValue schema request (← decodeJson (received row request)).payload) := by
  cases mode : request.mode with
  | count => exact absurd mode nested
  | single => simp only [attachment, mode]
  | collection => simp only [attachment, mode]

theorem attachment_nested_eq_ok_iff (nested : request.mode ≠ .count) :
    attachment schema row request = .ok value ↔
      ∃ decoded, decodeJson (received row request) = .ok decoded ∧
        relatedValue schema request decoded.payload = .ok value := by
  rw [attachment_nested nested]
  constructor
  · exact Outcome.bind_eq_ok
  · rintro ⟨decoded, read, made⟩
    exact (Outcome.bind_of_ok read).trans made

theorem attachment_single (single : request.mode = .single) :
    attachment schema row request = .ok value ↔
      ∃ decoded, decodeJson (received row request) = .ok decoded ∧
        InstanceOrNull schema request (entries? decoded.payload) value := by
  rw [attachment_nested_eq_ok_iff (by rw [single]; decide)]
  simp only [relatedValue_single single]

theorem attachment_collection (collection : request.mode = .collection) :
    attachment schema row request = .ok value ↔
      ∃ decoded, decodeJson (received row request) = .ok decoded ∧
        ∃ built, Instances schema request (objectsOf decoded.payload) built ∧
          value = .list built := by
  rw [attachment_nested_eq_ok_iff (by rw [collection]; decide)]
  simp only [relatedValue_collection collection]

/-! ### When there is something to attach -/

def recordsIn (mode : RequestMode) (decoded : Value) : List Row :=
  match mode with
  | .count => []
  | .single => (entries? decoded).toList
  | .collection => objectsOf decoded

/-- A record that an instance of what a request leads to can store: no attribute refuses what the
record has for it. -/
def Storable (schema : Schema) (request : Request) (entries : Row) : Prop :=
  ∀ entry ∈ entries, ∃ value, storedAs schema.instrumentation
    ((handleOf request.relation.model?).mapped? schema) entry.1 entry.2 = .ok value

theorem exists_relatedInstance_eq_ok_iff {entries : Row} :
    (∃ built, relatedInstance schema request entries = .ok built) ↔
      Storable schema request entries := by
  rw [relatedInstance, build_eq, Outcome.exists_map_eq_ok_iff]
  exact exists_builtFields_eq_ok_iff

theorem exists_instances_iff {records : List Row} :
    (∃ built, Instances schema request records built) ↔
      ∀ entries ∈ records, Storable schema request entries := by
  unfold Instances
  rw [exists_forall₂_iff]
  exact forall₂_congr (fun entries _ => exists_relatedInstance_eq_ok_iff)

theorem exists_relatedValue_eq_ok_iff (nested : request.mode ≠ .count) {decoded : Value} :
    (∃ value, relatedValue schema request decoded = .ok value) ↔
      ∀ entries ∈ recordsIn request.mode decoded, Storable schema request entries := by
  cases mode : request.mode with
  | count => exact absurd mode nested
  | single =>
      simp only [relatedValue_single mode, recordsIn]
      cases entries? decoded with
      | none => exact iff_of_true ⟨_, .null⟩ (List.forall_mem_nil _)
      | some entries =>
          rw [Option.toList_some, List.forall_mem_singleton, ← exists_relatedInstance_eq_ok_iff]
          constructor
          · rintro ⟨built, made⟩
            cases made with
            | built made => exact ⟨built, made⟩
          · rintro ⟨built, made⟩
            exact ⟨built, .built made⟩
  | collection =>
      simp only [relatedValue_collection mode, recordsIn]
      rw [← exists_instances_iff]
      constructor
      · rintro ⟨_, built, each, _⟩
        exact ⟨built, each⟩
      · rintro ⟨built, each⟩
        exact ⟨_, built, each, rfl⟩

/-- A row from which a request can attach something: its value can be read, and the records in it
can be stored. -/
structure Attachable (schema : Schema) (row : Row) (request : Request) : Prop where
  readable : ¬ Unreadable request.mode (received row request)
  storable : ∀ decoded, decodeJson (received row request) = .ok decoded →
    ∀ entries ∈ recordsIn request.mode decoded.payload, Storable schema request entries

theorem exists_attachment_eq_ok_iff :
    (∃ value, attachment schema row request = .ok value) ↔ Attachable schema row request := by
  by_cases count : request.mode = .count
  · rw [attachment_count count, exists_asCount_eq_ok_iff]
    constructor
    · intro readable
      rw [← count] at readable
      refine ⟨readable, fun decoded _ entries inside => ?_⟩
      rw [count] at inside
      cases inside
    · intro attachable
      rw [← count]
      exact attachable.readable
  · simp only [attachment_nested_eq_ok_iff count]
    constructor
    · rintro ⟨value, decoded, read, made⟩
      refine ⟨(exists_decodeJson_eq_ok_iff_readable count).1 ⟨decoded, read⟩, ?_⟩
      intro other again
      cases read.symm.trans again
      exact (exists_relatedValue_eq_ok_iff count).1 ⟨value, made⟩
    · intro attachable
      obtain ⟨decoded, read⟩ := (exists_decodeJson_eq_ok_iff_readable count).2 attachable.readable
      obtain ⟨value, made⟩ :=
        (exists_relatedValue_eq_ok_iff count).2 (attachable.storable decoded read)
      exact ⟨value, decoded, read, made⟩

/-! ### What a relationship holds of it -/

/-- Under the name, the mapping holds a list of instances. -/
def HoldsMany (model : Option Model) (name : String) : Prop :=
  ∃ r, model.bind (fun m => m.relationship? name) = some r ∧ r.holdsMany = true

/-- Attributes that hold what is loaded for them: one of a relationship to one the value itself, and
one of a relationship to many its items. -/
structure HoldsLoaded (tools : Instrumentation) : Prop where
  one : ∀ r : Relationship, r.holdsMany = false → ∀ value, tools.loaded r value = .ok value
  many : ∀ r : Relationship, r.holdsMany = true →
    ∀ value, tools.loaded r value = value.itemsOrNone.map .list

theorem holdsLoaded_ofLists : HoldsLoaded .ofLists where
  one r plain value := by
    simp only [Instrumentation.ofLists, plain, Bool.false_eq_true, if_false]
  many r many value := by
    simp only [Instrumentation.ofLists, many, if_true]
    cases value.itemsOrNone <;> rfl

section

variable (holds : HoldsLoaded tools) {name : String}

include holds

theorem held_of_not_holdsMany (one : ¬ HoldsMany model name) (value : Value) :
    held tools.loaded (model.bind (fun m => m.relationship? name)) value = .ok value := by
  cases found : model.bind (fun m => m.relationship? name) with
  | none => rfl
  | some r =>
      apply holds.one
      cases many : r.holdsMany with
      | false => rfl
      | true => exact absurd ⟨r, found, many⟩ one

theorem held_of_holdsMany (many : HoldsMany model name) (value : Value) :
    held tools.loaded (model.bind (fun m => m.relationship? name)) value =
      value.itemsOrNone.map .list := by
  obtain ⟨r, found, many⟩ := many
  rw [found]
  exact holds.many r many value

theorem held_list (items : List Value) :
    held tools.loaded (model.bind (fun m => m.relationship? name)) (.list items) =
      .ok (.list items) := by
  by_cases many : HoldsMany model name
  · rw [held_of_holdsMany holds many]
    cases items <;> rfl
  · exact held_of_not_holdsMany holds many _

end

end NestedSelect.Hydration
