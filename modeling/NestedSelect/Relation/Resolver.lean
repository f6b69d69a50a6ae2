import NestedSelect.Identifier
import NestedSelect.Record
import NestedSelect.Relation.Basic
import NestedSelect.Schema.Handle
import NestedSelect.Schema.Inherent
import NestedSelect.Value.Shown

/-!
Finding the relation of a name on a root.

A relationship of the mapping goes first; any other name must lead to a descriptor. Keys that a
descriptor leaves out follow from names: `<relation>_id` on a root that belongs to something,
`<root>_id` on what it has, and primary keys on the other side.
-/

namespace NestedSelect.Relation

private def ensureColumn (name : String) : Outcome String := Identifier.ensure (.text name)

private def ensureTable (name : String) : Outcome String := Identifier.ensure (.text name) "table"

def ofPair (schema : Schema) (relationship : Relationship) (kind : RelationKind)
    (ownColumn otherColumn : String) : Outcome Relation := do
  let target := Handle.model relationship.target
  let table ← ensureTable (← target.tableName schema)
  let primaryKey ← ensureColumn (target.primaryKey schema)
  match kind with
  | .belongsToOne =>
      let foreignKey ← ensureColumn ownColumn
      let ownerKey ← ensureColumn otherColumn
      .ok ⟨relationship.name, kind, table, relationship.name, some relationship.target,
        foreignKey, primaryKey, some ownerKey, none⟩
  | .hasOne | .hasMany =>
      let foreignKey ← ensureColumn otherColumn
      let localKey ← ensureColumn ownColumn
      .ok ⟨relationship.name, kind, table, relationship.name, some relationship.target,
        foreignKey, primaryKey, none, some localKey⟩

/-- The relation of a relationship: one without a secondary table, of a kind that some matcher
gives it, and joined on one pair of columns. -/
def ofRelationship (schema : Schema) (matchers : List Matcher) (owner : String)
    (relationship : Relationship) : Outcome Relation :=
  match relationship.secondary with
  | some table => .error (.secondaryTable relationship.name owner table)
  | none =>
      match Matcher.classify? matchers relationship with
      | none =>
          .error (.unsupportedDirection relationship.name owner relationship.direction.name)
      | some kind =>
          match relationship.pairs with
          | [(ownColumn, otherColumn)] => ofPair schema relationship kind ownColumn otherColumn
          | pairs => .error (.compositeKey relationship.name owner pairs.length)

def given? (key : Option String) : Option String := key.filter (· != "")

/-- The primary key on the far side. A bare table has no mapping, but the owner key of what the
root belongs to is unique on it. -/
def relatedPrimaryKey (schema : Schema) (kind : RelationKind) (d : Descriptor) : String :=
  let told := match d.primaryKey, d.related, kind with
    | none, .table _, .belongsToOne => d.ownerKey
    | key, _, _ => key
  (given? told).getD (d.related.primaryKey schema)

def ofDescriptor (schema : Schema) (root : Handle) (name : String) (d : Descriptor) :
    Outcome Relation :=
  match RelationKind.ofName? d.kind with
  | none => .error (.unsupportedKind name d.kind)
  | some kind => do
      let related := relatedPrimaryKey schema kind d
      let table ← ensureTable (← d.related.tableName schema)
      let primaryKey ← ensureColumn related
      match kind with
      | .belongsToOne =>
          let foreignKey ← ensureColumn ((given? d.foreignKey).getD (name ++ "_id"))
          let ownerKey ← ensureColumn ((given? d.ownerKey).getD related)
          .ok ⟨name, kind, table, name, d.related.model?, foreignKey, primaryKey,
            some ownerKey, none⟩
      | .hasOne | .hasMany =>
          let foreignKey ← ensureColumn ((given? d.foreignKey).getD (root.keyPrefix ++ "_id"))
          let localKey ← ensureColumn ((given? d.localKey).getD (root.primaryKey schema))
          .ok ⟨name, kind, table, name, d.related.model?, foreignKey, primaryKey, none,
            some localKey⟩

def givenBy (name owner : String) : Called → Outcome Descriptor
  | .descriptor descriptor => .ok descriptor
  | .other typeName => .error (.accessorGivesNoDescriptor name owner typeName)

def attribute? (schema : Schema) (root : Handle) (name : String) : Option Accessor :=
  match root with
  | .model modelName => (schema.model? modelName).bind (fun model => model.attribute? name)
  | .table text => Record.get? name (Inherent.ofText text)
  | .nothing => Record.get? name Inherent.ofNull

def relationship? (schema : Schema) (root : Handle) (name : String) : Option Relationship :=
  (root.mapped? schema).bind (fun model => model.relationship? name)

section

variable (call : Accessor → Outcome Called)

/-- The descriptor that an accessor is or gives. It is called unless a parameter has to be given, as
far as its parameters can be read. -/
def descriptorOf (name owner : String) (accessor : Accessor) : Outcome Descriptor :=
  match accessor with
  | .described descriptor => .ok descriptor
  | .constant => .error (.notAnAccessor name owner)
  | .callable none _ => do givenBy name owner (← call accessor)
  | .callable (some parameters) _ =>
      match Parameter.requiredNames parameters with
      | [] => do givenBy name owner (← call accessor)
      | missing => .error (.accessorNeedsArguments name owner missing)

def describe (schema : Schema) (root : Handle) (name : String) : Outcome Descriptor :=
  match attribute? schema root name with
  | none => .error (.relationNotFound name root.owner)
  | some accessor => descriptorOf call name root.owner accessor

/-- Finding a relation, for what accessors give when they are called. -/
def resolveBy (schema : Schema) (matchers : List Matcher) (root : Handle) (name : String) :
    Outcome Relation :=
  match relationship? schema root name with
  | some relationship => ofRelationship schema matchers root.owner relationship
  | none => do ofDescriptor schema root name (← describe call schema root name)

end

def resolve (schema : Schema) (matchers : List Matcher) (root : Handle) (name : String) :
    Outcome Relation :=
  resolveBy Accessor.call schema matchers root name

end NestedSelect.Relation
