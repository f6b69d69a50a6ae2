import NestedSelect.Proofs.Identifier
import NestedSelect.Relation.Resolver

/-!
What a resolved relation is like.

Whether it comes from the mapping or from a descriptor, and whatever the matchers say, its texts
are names, it goes by the name it was asked for by, and it has exactly the key that its kind needs.
-/

namespace NestedSelect.Relation

open Identifier (IsSafe)

/-- The keys that a kind needs: the one of the far side where the root holds the foreign key, and
the one of the root otherwise. -/
inductive Keyed : RelationKind → Option String → Option String → Prop where
  | owner {key : String} (safe : IsSafe key) : Keyed .belongsToOne (some key) none
  | one {key : String} (safe : IsSafe key) : Keyed .hasOne none (some key)
  | many {key : String} (safe : IsSafe key) : Keyed .hasMany none (some key)

structure WellFormed (name : String) (relation : Relation) : Prop where
  name_eq : relation.name = name
  label_eq : relation.label = name
  table : IsSafe relation.table
  primaryKey : IsSafe relation.primaryKey
  foreignKey : IsSafe relation.foreignKey
  keyed : Keyed relation.kind relation.ownerKey relation.localKey

variable {schema : Schema} {relation : Relation}

theorem ensured_keys {first second : String} {shape : String → String → Relation}
    (done : (do
      let foreign ← Identifier.ensure (.text first)
      let key ← Identifier.ensure (.text second)
      .ok (shape foreign key)) = .ok relation) :
    ∃ foreign key, IsSafe foreign ∧ IsSafe key ∧ relation = shape foreign key := by
  obtain ⟨foreign, foreignEnsured, done⟩ := Outcome.bind_eq_ok done
  obtain ⟨key, keyEnsured, done⟩ := Outcome.bind_eq_ok done
  cases done
  exact ⟨foreign, key, Identifier.ensure_isSafe foreignEnsured,
    Identifier.ensure_isSafe keyEnsured, rfl⟩

theorem ensured_target {target : Handle} {key : String} {next : String → String → Outcome Relation}
    (done : (do
      let table ← Identifier.ensure (.text (← target.tableName schema)) "table"
      let primary ← Identifier.ensure (.text key)
      next table primary) = .ok relation) :
    ∃ table primary, IsSafe table ∧ IsSafe primary ∧ next table primary = .ok relation := by
  obtain ⟨full, _, done⟩ := Outcome.bind_eq_ok done
  obtain ⟨table, tableEnsured, done⟩ := Outcome.bind_eq_ok done
  obtain ⟨primary, primaryEnsured, done⟩ := Outcome.bind_eq_ok done
  exact ⟨table, primary, Identifier.ensure_isSafe tableEnsured,
    Identifier.ensure_isSafe primaryEnsured, done⟩

theorem ofPair_wellFormed {relationship : Relationship} {kind : RelationKind}
    {ownColumn otherColumn : String}
    (done : ofPair schema relationship kind ownColumn otherColumn = .ok relation) :
    WellFormed relationship.name relation := by
  obtain ⟨table, primary, tableSafe, primarySafe, done⟩ := ensured_target done
  cases kind with
  | belongsToOne =>
      obtain ⟨foreign, key, foreignSafe, keySafe, rfl⟩ := ensured_keys done
      exact ⟨rfl, rfl, tableSafe, primarySafe, foreignSafe, .owner keySafe⟩
  | hasOne =>
      obtain ⟨foreign, key, foreignSafe, keySafe, rfl⟩ := ensured_keys done
      exact ⟨rfl, rfl, tableSafe, primarySafe, foreignSafe, .one keySafe⟩
  | hasMany =>
      obtain ⟨foreign, key, foreignSafe, keySafe, rfl⟩ := ensured_keys done
      exact ⟨rfl, rfl, tableSafe, primarySafe, foreignSafe, .many keySafe⟩

theorem ofRelationship_wellFormed {matchers : List Matcher} {owner : String}
    {relationship : Relationship}
    (done : ofRelationship schema matchers owner relationship = .ok relation) :
    WellFormed relationship.name relation := by
  unfold ofRelationship at done
  split at done
  · cases done
  · split at done
    · cases done
    · split at done
      · exact ofPair_wellFormed done
      · cases done

theorem ofDescriptor_wellFormed {root : Handle} {name : String} {descriptor : Descriptor}
    (done : ofDescriptor schema root name descriptor = .ok relation) :
    WellFormed name relation := by
  unfold ofDescriptor at done
  split at done
  · cases done
  · rename_i kind _
    obtain ⟨table, primary, tableSafe, primarySafe, done⟩ := ensured_target done
    cases kind with
    | belongsToOne =>
        obtain ⟨foreign, key, foreignSafe, keySafe, rfl⟩ := ensured_keys done
        exact ⟨rfl, rfl, tableSafe, primarySafe, foreignSafe, .owner keySafe⟩
    | hasOne =>
        obtain ⟨foreign, key, foreignSafe, keySafe, rfl⟩ := ensured_keys done
        exact ⟨rfl, rfl, tableSafe, primarySafe, foreignSafe, .one keySafe⟩
    | hasMany =>
        obtain ⟨foreign, key, foreignSafe, keySafe, rfl⟩ := ensured_keys done
        exact ⟨rfl, rfl, tableSafe, primarySafe, foreignSafe, .many keySafe⟩

/-! ### Where relations come from -/

def Relates (schema : Schema) (root : Handle) (name : String) (relationship : Relationship) :
    Prop :=
  relationship? schema root name = some relationship

def Describes (schema : Schema) (root : Handle) (name : String) (descriptor : Descriptor) : Prop :=
  relationship? schema root name = none ∧
    describe Accessor.call schema root name = .ok descriptor

variable {matchers : List Matcher} {root : Handle} {name : String} {relationship : Relationship}
  {descriptor : Descriptor}

theorem Relates.name_eq (relates : Relates schema root name relationship) :
    relationship.name = name := by
  obtain ⟨model, _, found⟩ := Option.bind_eq_some_iff.1 relates
  have passed := List.find?_some found
  exact beq_iff_eq.1 passed

theorem Describes.unrelated (describes : Describes schema root name descriptor) :
    ¬ Relates schema root name relationship := by
  intro relates
  exact absurd (relates.symm.trans describes.1) (Option.some_ne_none _)

theorem Describes.unique {other : Descriptor} (describes : Describes schema root name descriptor)
    (also : Describes schema root name other) : other = descriptor :=
  Except.ok.inj (also.2.symm.trans describes.2)

theorem resolve_cases (done : resolve schema matchers root name = .ok relation) :
    (∃ owner relationship, Relates schema root name relationship ∧
      ofRelationship schema matchers owner relationship = .ok relation) ∨
    ∃ descriptor, Describes schema root name descriptor ∧
      ofDescriptor schema root name descriptor = .ok relation := by
  unfold resolve resolveBy at done
  split at done
  · rename_i relationship relates
    exact .inl ⟨root.owner, relationship, relates, done⟩
  · rename_i unrelated
    obtain ⟨descriptor, described, done⟩ := Outcome.bind_eq_ok done
    exact .inr ⟨descriptor, ⟨unrelated, described⟩, done⟩

theorem resolve_wellFormed (done : resolve schema matchers root name = .ok relation) :
    WellFormed name relation := by
  rcases resolve_cases done with ⟨_, relationship, relates, done⟩ | ⟨_, _, done⟩
  · rw [← relates.name_eq]
    exact ofRelationship_wellFormed done
  · exact ofDescriptor_wellFormed done

end NestedSelect.Relation
