import NestedSelect.Proofs.Relation.Resolver

/-!
Relationships put into words.

A relationship that joins one pair of columns says no more than a descriptor with these two columns
for its keys. Which of the two a root has under a name makes no difference to what the name resolves
to, nor to how resolving it fails.
-/

namespace NestedSelect

variable {schema : Schema} {model changed : Model}

/-! ### A model in place of another one -/

def Schema.replace (schema : Schema) (model : Model) : Schema :=
  { schema with
    models := schema.models.map (fun other => if other.name == model.name then model else other) }

namespace Schema

theorem model?_replace (schema : Schema) (model : Model) (name : String) :
    (schema.replace model).model? name =
      (schema.model? name).map
        (fun other => if other.name == model.name then model else other) := by
  have kept : (fun other : Model => other.name == name) ∘
      (fun other => if other.name == model.name then model else other) =
        fun other => other.name == name := by
    funext other
    by_cases same : other.name = model.name
    · simp [same]
    · simp [same]
  unfold model? replace
  rw [List.find?_map, kept]

theorem model?_replace_self (found : schema.model? changed.name = some model) :
    (schema.replace changed).model? changed.name = some changed := by
  rw [model?_replace, found, Option.map_some, model?_name found, beq_self_eq_true, if_pos rfl]

theorem model?_replace_bind {α : Type} {read : Model → Option α}
    (found : schema.model? changed.name = some model) (alike : read changed = read model)
    (name : String) :
    ((schema.replace changed).model? name).bind read = (schema.model? name).bind read := by
  by_cases same : name = changed.name
  · rw [same, model?_replace_self found, found, Option.bind_some, Option.bind_some, alike]
  · rw [model?_replace]
    cases known : schema.model? name with
    | none => rfl
    | some other =>
        have apart : ¬ other.name = changed.name := fun equal =>
          same ((model?_name known).symm.trans equal)
        simp [apart]

end Schema

def Model.keyOf (model : Model) : Option String :=
  if model.isMapped = true then model.primaryKey.head? else none

namespace Handle

theorem primaryKey?_model (schema : Schema) (name : String) :
    (Handle.model name).primaryKey? schema = (schema.model? name).bind Model.keyOf := by
  simp only [primaryKey?, mapped?, Schema.mapped?]
  cases schema.model? name with
  | none => rfl
  | some model =>
      cases isMapped : model.isMapped with
      | true => simp [Option.filter, Model.keyOf, isMapped]
      | false => simp [Option.filter, Model.keyOf, isMapped]

theorem tableName_replace (found : schema.model? changed.name = some model)
    (alike : changed.tableName = model.tableName) (handle : Handle) :
    handle.tableName (schema.replace changed) = handle.tableName schema := by
  cases handle with
  | table name => rfl
  | nothing => rfl
  | model name =>
      have told : ((schema.replace changed).model? name).map Model.tableName =
          (schema.model? name).map Model.tableName := by
        rw [Option.map_eq_bind, Option.map_eq_bind]
        have alike : (some ∘ Model.tableName) changed = (some ∘ Model.tableName) model :=
          congrArg some alike
        exact Schema.model?_replace_bind found alike name
      unfold tableName
      simp only
      cases known : schema.model? name with
      | none => simp only [Schema.model?_replace, known, Option.map_none]
      | some other =>
          rw [Schema.model?_replace, known, Option.map_some] at told ⊢
          exact Option.some.inj told

theorem primaryKey_replace (found : schema.model? changed.name = some model)
    (alike : changed.keyOf = model.keyOf) (handle : Handle) (fallback : String) :
    handle.primaryKey (schema.replace changed) fallback = handle.primaryKey schema fallback := by
  cases handle with
  | table name => rfl
  | nothing => rfl
  | model name =>
      simp only [primaryKey, primaryKey?_model, Schema.model?_replace_bind found alike]

end Handle

/-! ### Spelling a relationship out -/

/-- The words for a relationship that joins column `own` of the root with column `other` of the
target. Where the root belongs to the target, its own column is the foreign key. -/
def Relationship.spelled (relationship : Relationship) (own other : String) : Descriptor :=
  match relationship.direction, relationship.holdsMany with
  | .manyToOne, _ => .belongsTo (.model relationship.target) own other
  | _, false => .hasOne (.model relationship.target) other own
  | _, true => .hasMany (.model relationship.target) other own

variable {relationship : Relationship} {own other : String}

namespace Model

/-- The model with a relationship replaced by an accessor of the same name, which takes no arguments
and gives the words for it. -/
def spelling (model : Model) (relationship : Relationship) (own other : String) : Model :=
  { model with
    relationships := model.relationships.filter (fun kept => kept.name != relationship.name)
    accessors := Record.put relationship.name
      (.callable (some []) (.ok (.descriptor (relationship.spelled own other)))) model.accessors }

/-- No column and no expression is stored under the name. A mapping has one attribute for a name, so
this is so for the names of its relationships. -/
def OnlyRelates (model : Model) (name : String) : Prop :=
  ∀ column ∈ model.columns, column.attributeName ≠ name

theorem isMappedAttribute_spelling (alone : model.OnlyRelates relationship.name) :
    (model.spelling relationship own other).isMappedAttribute relationship.name = false := by
  have columns : model.columns.any
      (fun column => column.attributeName == relationship.name) = false := by
    simpa [OnlyRelates] using alone
  have relationships : (model.relationships.filter (fun kept => kept.name != relationship.name)).any
      (fun kept => kept.name == relationship.name) = false := by
    simp
  simp only [isMappedAttribute, spelling, columns, relationships, Bool.or_false, Bool.and_false]

theorem relationship?_spelling (model : Model) (relationship : Relationship) (own other : String) :
    (model.spelling relationship own other).relationship? relationship.name = none := by
  simp [relationship?, spelling]

theorem attribute?_spelling (alone : model.OnlyRelates relationship.name) :
    (model.spelling relationship own other).attribute? relationship.name =
      some (.callable (some []) (.ok (.descriptor (relationship.spelled own other)))) := by
  unfold attribute?
  rw [isMappedAttribute_spelling alone]
  exact Record.get?_put_self _ _ _

end Model

namespace Relation

theorem given?_some {key : String} (given : key ≠ "") : given? (some key) = some key := by
  simp [given?, given]

/-- The structural matchers give the relationship the kind that its words name, and both are checked
in the same order. -/
theorem ofDescriptor_spelled {matchers : List Matcher}
    (usual : Matcher.effective matchers = Matcher.structural)
    (directed : relationship.direction ≠ .manyToMany) (ownGiven : own ≠ "")
    (otherGiven : other ≠ "") (schema : Schema) (root : Handle) :
    ∃ kind, Matcher.classify? matchers relationship = some kind ∧
      ofDescriptor schema root relationship.name (relationship.spelled own other) =
        ofPair schema relationship kind own other := by
  unfold Matcher.classify? Relationship.spelled
  rw [usual]
  cases direction : relationship.direction with
  | manyToMany => exact absurd direction directed
  | manyToOne =>
      refine ⟨.belongsToOne, ?_, ?_⟩
      · simp [Matcher.structural, RelationshipTest.belongsToOne, direction]
      · simp only [ofDescriptor, Descriptor.belongsTo, RelationKind.ofName?_name,
          given?_some ownGiven, given?_some otherGiven, Option.getD_some]
        rfl
  | oneToMany =>
      cases many : relationship.holdsMany with
      | false =>
          refine ⟨.hasOne, ?_, ?_⟩
          · simp [Matcher.structural, RelationshipTest.belongsToOne, RelationshipTest.hasOne,
              direction, many]
          · simp only [ofDescriptor, Descriptor.hasOne, RelationKind.ofName?_name,
              given?_some ownGiven, given?_some otherGiven, Option.getD_some]
            rfl
      | true =>
          refine ⟨.hasMany, ?_, ?_⟩
          · simp [Matcher.structural, RelationshipTest.belongsToOne, RelationshipTest.hasOne,
              RelationshipTest.hasMany, direction, many]
          · simp only [ofDescriptor, Descriptor.hasMany, RelationKind.ofName?_name,
              given?_some ownGiven, given?_some otherGiven, Option.getD_some]
            rfl

theorem ofPair_replace (found : schema.model? changed.name = some model)
    (named : changed.tableName = model.tableName) (keyed : changed.keyOf = model.keyOf)
    (kind : RelationKind) :
    ofPair (schema.replace changed) relationship kind own other =
      ofPair schema relationship kind own other := by
  simp only [ofPair, Handle.tableName_replace found named, Handle.primaryKey_replace found keyed]

variable {modelName : String} {matchers : List Matcher}

theorem resolve_related (known : schema.model? modelName = some model)
    (mapped : model.isMapped = true)
    (related : model.relationship? relationship.name = some relationship)
    (direct : relationship.secondary = none) (pair : relationship.pairs = [(own, other)])
    {kind : RelationKind} (taken : Matcher.classify? matchers relationship = some kind) :
    resolve schema matchers (.model modelName) relationship.name =
      ofPair schema relationship kind own other := by
  have mappedRoot : (Handle.model modelName).mapped? schema = some model :=
    Option.filter_eq_some_iff.2 ⟨known, mapped⟩
  have relates : relationship? schema (.model modelName) relationship.name = some relationship := by
    rw [relationship?, mappedRoot, Option.bind_some, related]
  simp only [resolve, resolveBy, relates, ofRelationship, direct, taken, pair]

theorem describes_spelling (known : schema.model? modelName = some model)
    (mapped : model.isMapped = true) (alone : model.OnlyRelates relationship.name) :
    Describes (schema.replace (model.spelling relationship own other)) (.model modelName)
      relationship.name (relationship.spelled own other) := by
  have name : model.name = modelName := Schema.model?_name known
  have known' : schema.model? (model.spelling relationship own other).name = some model := by
    rw [← known, ← name]
    rfl
  have found : (schema.replace (model.spelling relationship own other)).model? modelName =
      some (model.spelling relationship own other) := by
    rw [← name]
    exact Schema.model?_replace_self known'
  have mappedRoot : (Handle.model modelName).mapped?
      (schema.replace (model.spelling relationship own other)) =
        some (model.spelling relationship own other) :=
    Option.filter_eq_some_iff.2 ⟨found, mapped⟩
  constructor
  · rw [relationship?, mappedRoot, Option.bind_some, Model.relationship?_spelling]
  · simp only [describe, attribute?, found, Option.bind_some, Model.attribute?_spelling alone]
    rfl

theorem resolve_of_describes {descriptor : Descriptor} {root : Handle} {name : String}
    (describes : Describes schema root name descriptor) :
    resolve schema matchers root name = ofDescriptor schema root name descriptor := by
  simp only [resolve, resolveBy, describes.1]
  exact Outcome.bind_of_ok describes.2

/-- A relationship of a mapped root, many to one or one to many, without a secondary table and with
one pair of columns, and an accessor of the same name in its place, without parameters and with the
words for the relationship as its answer. By the structural matchers both resolve to the same
relation in all its parts, or both fail with the same fault. -/
theorem spelled_relationship_resolves_alike (schema : Schema) (matchers : List Matcher)
    (modelName : String) (model : Model) (relationship : Relationship) (own other : String)
    (usual : Matcher.effective matchers = Matcher.structural)
    (known : schema.model? modelName = some model) (mapped : model.isMapped = true)
    (related : model.relationship? relationship.name = some relationship)
    (alone : model.OnlyRelates relationship.name)
    (directed : relationship.direction ≠ .manyToMany) (direct : relationship.secondary = none)
    (pair : relationship.pairs = [(own, other)]) (ownGiven : own ≠ "") (otherGiven : other ≠ "") :
    resolve (schema.replace (model.spelling relationship own other)) matchers (.model modelName)
        relationship.name =
      resolve schema matchers (.model modelName) relationship.name := by
  have name : model.name = modelName := Schema.model?_name known
  have found : schema.model? (model.spelling relationship own other).name = some model := by
    rw [← known, ← name]
    rfl
  obtain ⟨kind, taken, alike⟩ := ofDescriptor_spelled usual directed ownGiven otherGiven
    (schema.replace (model.spelling relationship own other)) (.model modelName)
  rw [resolve_of_describes (describes_spelling known mapped alone), alike,
    ofPair_replace found rfl rfl,
    resolve_related known mapped related direct pair taken]

theorem spelled_relationship_resolves_alike_staff :
    let manager : Relationship :=
      ⟨"manager", "Staff", .manyToOne, false, none, [("manager_id", "id")]⟩
    let staff : Model := ⟨"Staff", "people", some "staff", none, true,
      [⟨"id", "id", .integer, true⟩, ⟨"manager_id", "manager_id", .integer, true⟩], ["id"],
      [manager], []⟩
    let written : Schema := ⟨[staff], .ofLists⟩
    let spelt : Schema := written.replace (staff.spelling manager "manager_id" "id")
    written.model? "Staff" = some staff ∧ staff.isMapped = true ∧
      staff.relationship? "manager" = some manager ∧ staff.OnlyRelates "manager" ∧
      manager.direction ≠ .manyToMany ∧ manager.secondary = none ∧
      manager.pairs = [("manager_id", "id")] ∧ "manager_id" ≠ "" ∧ "id" ≠ "" ∧
      Describes spelt (.model "Staff") "manager"
        (.belongsTo (.model "Staff") (some "manager_id") (some "id")) ∧
      resolve spelt [] (.model "Staff") "manager" =
        resolve written [] (.model "Staff") "manager" := by
  intro manager staff written spelt
  have alone : staff.OnlyRelates "manager" := by simp [staff, Model.OnlyRelates]
  have described : Describes spelt (.model "Staff") "manager"
      (.belongsTo (.model "Staff") (some "manager_id") (some "id")) :=
    @describes_spelling written staff manager "manager_id" "id" "Staff" rfl rfl alone
  exact ⟨rfl, rfl, rfl, alone, nofun, rfl, rfl, by decide, by decide, described,
    spelled_relationship_resolves_alike written [] "Staff" staff manager "manager_id" "id" rfl rfl
      rfl rfl alone nofun rfl rfl (by decide) (by decide)⟩

end Relation

end NestedSelect
