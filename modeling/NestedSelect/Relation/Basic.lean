import NestedSelect.Schema.Model

/-!
Relations: what a nested object is taken from and which columns connect it to its root.
-/

namespace NestedSelect

/-- How many things a relation leads to and which side holds the foreign key. -/
inductive RelationKind where
  /-- The root holds the key of one other thing. -/
  | belongsToOne
  /-- One other thing holds the key of the root. -/
  | hasOne
  /-- Any number of things hold the key of the root. -/
  | hasMany
  deriving DecidableEq

namespace RelationKind

def all : List RelationKind := [belongsToOne, hasOne, hasMany]

def name : RelationKind → String
  | belongsToOne => "belongs-to-one"
  | hasOne => "has-one"
  | hasMany => "has-many"

def ofName? (name : String) : Option RelationKind := all.find? (fun kind => kind.name == name)

theorem ofName?_name (kind : RelationKind) : ofName? kind.name = some kind := by
  cases kind <;> decide

end RelationKind

/-! ### Relations in words, with the keys that their kinds know -/

namespace Descriptor

variable (related : Handle)

def belongsTo (foreignKey : Option String := none) (ownerKey : Option String := none) :
    Descriptor :=
  ⟨RelationKind.belongsToOne.name, related, foreignKey, ownerKey, none, none⟩

def hasOne (foreignKey : Option String := none) (localKey : Option String := none) : Descriptor :=
  ⟨RelationKind.hasOne.name, related, foreignKey, none, localKey, none⟩

def hasMany (foreignKey : Option String := none) (localKey : Option String := none) : Descriptor :=
  ⟨RelationKind.hasMany.name, related, foreignKey, none, localKey, none⟩

end Descriptor

/-- A resolved relation. A relation that belongs to one has an owner key, the others have a local
key. Statements call its table by `label`, and `model?` is the model that it leads to, if one is
known. -/
structure Relation where
  name : String
  kind : RelationKind
  table : String
  label : String
  model? : Option String
  foreignKey : String
  primaryKey : String
  ownerKey : Option String
  localKey : Option String
  deriving DecidableEq

def absentKey : String := "None"

namespace Relation

def ownerKeyText (relation : Relation) : String := relation.ownerKey.getD absentKey

def localKeyText (relation : Relation) : String := relation.localKey.getD absentKey

end Relation

/-- A test of relationships. Those below look at the direction and at whether many are held, or at
nothing. -/
def RelationshipTest : Type := Relationship → Bool

namespace RelationshipTest

def belongsToOne : RelationshipTest := fun relationship => relationship.direction == .manyToOne

def hasOne : RelationshipTest := fun relationship =>
  relationship.direction == .oneToMany && !relationship.holdsMany

def hasMany : RelationshipTest := fun relationship =>
  relationship.direction == .oneToMany && relationship.holdsMany

def always : RelationshipTest := fun _ => true

def never : RelationshipTest := fun _ => false

end RelationshipTest

/-- A kind that relationships are given when they pass a test. -/
structure Matcher where
  kind : RelationKind
  test : RelationshipTest

namespace Matcher

def structural : List Matcher :=
  [⟨.belongsToOne, .belongsToOne⟩, ⟨.hasOne, .hasOne⟩, ⟨.hasMany, .hasMany⟩]

/-- The matchers that are used; no matchers at all stand for the structural ones. -/
def effective : List Matcher → List Matcher
  | [] => structural
  | matchers => matchers

/-- The kind of a relationship: that of the first matcher whose test it passes. -/
def classify? (matchers : List Matcher) (relationship : Relationship) : Option RelationKind :=
  ((effective matchers).find? (fun matcher => matcher.test relationship)).map Matcher.kind

end Matcher

end NestedSelect
