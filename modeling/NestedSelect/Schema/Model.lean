import NestedSelect.Fault
import NestedSelect.Record
import NestedSelect.Value.Conversion

/-!
Models: classes of things, most of them mapped to tables.

A mapped model has columns, expressions computed from them and relationships to other models. Any
model, mapped or not, can also have accessors, which describe relations in words of their own.
-/

namespace NestedSelect

/-- The types of columns. Points in time may carry an offset from universal time or not. -/
inductive ColumnType where
  | integer
  | string
  | boolean
  | float
  | date
  | datetime (zoned : Bool)
  deriving DecidableEq

/-- What a mapping has under an attribute: a column that is stored in the table, or an expression
that the database computes. An expression goes by its label, which is empty if it has none. -/
structure Column where
  name : String
  attributeName : String
  type : ColumnType
  isStored : Bool
  deriving DecidableEq

inductive Direction where
  | manyToOne
  | oneToMany
  | manyToMany
  deriving DecidableEq

def Direction.name : Direction → String
  | manyToOne => "MANYTOONE"
  | oneToMany => "ONETOMANY"
  | manyToMany => "MANYTOMANY"

/-- A relationship of a mapped model. Each pair holds a column of the model's own table and the
column of the target's table that it is joined with. -/
structure Relationship where
  name : String
  target : String
  direction : Direction
  holdsMany : Bool
  secondary : Option String
  pairs : List (String × String)
  deriving DecidableEq

inductive Handle where
  | model (name : String)
  /-- A table that no model is known for. -/
  | table (name : String)
  | nothing
  deriving DecidableEq

/-- A relation in words: its kind, what it leads to and its keys as far as they are given. -/
structure Descriptor where
  kind : String
  related : Handle
  foreignKey : Option String
  ownerKey : Option String
  localKey : Option String
  primaryKey : Option String
  deriving DecidableEq

/-- How a parameter is passed and whether it may be left out. -/
inductive ParameterKind where
  | required
  | positionalOnly
  | optional
  | optionalPositional
  | keywordOnly
  | optionalKeyword
  | variadic
  | variadicKeyword
  deriving DecidableEq

def ParameterKind.isRequired : ParameterKind → Bool
  | required | positionalOnly | keywordOnly => true
  | optional | optionalPositional | optionalKeyword | variadic | variadicKeyword => false

structure Parameter where
  name : String
  kind : ParameterKind
  deriving DecidableEq

/-- What a call gives: a descriptor, or something else, of which only the type is told. -/
inductive Called where
  | descriptor (descriptor : Descriptor)
  | other (typeName : String)

inductive Accessor where
  | described (descriptor : Descriptor)
  /-- Something that can be called, with what a call without arguments comes to where it is legal.
  The parameters cannot be read of everything. -/
  | callable (parameters? : Option (List Parameter)) (called : Outcome Called)
  | constant

/-- A class of things. An unmapped model may name a table; it has no columns. The columns stand in
the order of the mapping, and the names of the primary key in an order of their own. Accessors are
all else that is found under a name of the class. -/
structure Model where
  name : String
  moduleName : String
  table : Option String
  tableSchema : Option String
  isMapped : Bool
  columns : List Column
  primaryKey : List String
  relationships : List Relationship
  accessors : List (String × Accessor)

namespace Model

def shown (m : Model) : String := "<class '" ++ m.moduleName ++ "." ++ m.name ++ "'>"

def storedColumns (m : Model) : List Column := m.columns.filter Column.isStored

def relationship? (m : Model) (name : String) : Option Relationship :=
  m.relationships.find? (fun relationship => relationship.name == name)

def isMappedAttribute (m : Model) (name : String) : Bool :=
  m.isMapped &&
    (m.columns.any (fun column => column.attributeName == name) ||
      m.relationships.any (fun relationship => relationship.name == name))

/-- What is found under a name. What the mapping puts there is no accessor, and hides one. -/
def attribute? (m : Model) (name : String) : Option Accessor :=
  if m.isMappedAttribute name then some .constant else Record.get? name m.accessors

def tableName? (m : Model) : Option String :=
  match m.isMapped, m.tableSchema, m.table with
  | true, some area, some table => some (area ++ "." ++ table)
  | _, _, some "" => none
  | _, _, table => table

def tableName (m : Model) : Outcome String :=
  match m.tableName? with
  | some full => .ok full
  | none => .error (.unknownTable m.shown)

/-- Where hydration stores what it finds under the name of a column: the attribute and its type.
The first column of the name counts, and what has no name is never found. -/
def storage? (m : Model) (name : String) : Option (String × ColumnType) :=
  (m.columns.find? (fun column => column.name == name && column.name != "")).map
    (fun column => (column.attributeName, column.type))

end Model

/-- What attributes of relationships do with values, which is up to the library of the mapping: what
they hold of a value that was loaded for them, and of one that is assigned to them. -/
structure Instrumentation where
  loaded : Relationship → Value → Outcome Value
  assigned : Relationship → Value → Outcome Value

/-- What attributes do whose collections are lists: they hold the items of what is loaded, and are
assigned nothing but instances, of which there are none among the values of rows. -/
def Instrumentation.ofLists : Instrumentation where
  loaded relationship value :=
    if relationship.holdsMany then do .ok (.list (← value.itemsOrNone)) else .ok value
  assigned relationship value :=
    match relationship.holdsMany, value with
    | true, .list [] | false, .null => .ok value
    | true, .list _ | false, _ => misused .missingPart
    | true, _ => misused .wrongType

structure Schema where
  models : List Model
  instrumentation : Instrumentation

namespace Schema

def model? (schema : Schema) (name : String) : Option Model :=
  schema.models.find? (fun model => model.name == name)

def mapped? (schema : Schema) (name : String) : Option Model :=
  (schema.model? name).filter Model.isMapped

theorem model?_name {schema : Schema} {name : String} {model : Model}
    (found : schema.model? name = some model) : model.name = name :=
  beq_iff_eq.1 (List.find?_some (p := fun other : Model => other.name == name) found)

end Schema

end NestedSelect
