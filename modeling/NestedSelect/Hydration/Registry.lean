import NestedSelect.Hydration.Hydrate
import NestedSelect.Text.Blank
import NestedSelect.Text.Quoted
import NestedSelect.Value.Shown

/-!
Hydrators: what turns rows into answers, and the handles by which callers choose one.

A handle is a registered name, an import path, a class or an instance. A class that derives from
the base class without saying how to hydrate can be registered but not instantiated.
-/

namespace NestedSelect

open Hydration (Form)

inductive HydrateMember where
  | missing
  /-- Something that cannot be called. -/
  | uncallable
  | answering (form : Form)
  /-- A hydrator of the caller's own. -/
  | custom (answer : List Row → List Request → Handle → Outcome (List Value))

/-- A class of hydrators, with the labels of the class and of its instances in messages. -/
structure HydratorClass where
  name : String
  label : String
  instanceLabel : String
  derives : Bool
  member : HydrateMember

namespace HydratorClass

def generic : HydratorClass :=
  ⟨"GenericHydrator", "<class 'GenericHydrator'>", "<GenericHydrator>", true, .answering .generic⟩

def entity : HydratorClass :=
  ⟨"EntityHydrator", "<class 'EntityHydrator'>", "<EntityHydrator>", true, .answering .entity⟩

def canHydrate (c : HydratorClass) : Bool :=
  match c.member with
  | .answering _ | .custom _ => true
  | .missing | .uncallable => false

def isAbstract (c : HydratorClass) : Bool :=
  c.derives && match c.member with
    | .missing => true
    | .uncallable | .answering _ | .custom _ => false

/-- The class again, if it derives from the base class or can hydrate. -/
def ensureConforming (c : HydratorClass) (label : String) : Outcome HydratorClass :=
  if c.derives || c.canHydrate then .ok c else .error (.hydratorWithoutHydrate label)

def instantiate (c : HydratorClass) : Outcome HydratorClass :=
  if c.isAbstract then misused .wrongType else .ok c

end HydratorClass

inductive HydratorHandle where
  /-- A registered name, an import path or something else. -/
  | value (v : Value)
  | ofClass (c : HydratorClass)
  | ofInstance (c : HydratorClass)

inductive Importable where
  | ofClass (c : HydratorClass)
  /-- Something that is neither a class nor able to hydrate. -/
  | other

abbrev ModuleTable : Type := List (String × List (String × Importable))

/-- A module and a name in it: parted by the first colon, or else by the last dot. -/
def splitImportPath (path : String) : String × String :=
  let cs := path.toList
  match cs.dropWhile (· != ':') with
  | _ :: attributeName => (String.ofList (cs.takeWhile (· != ':')), String.ofList attributeName)
  | [] =>
      let reversed := cs.reverse
      match reversed.dropWhile (· != '.') with
      | _ :: moduleName =>
          (String.ofList moduleName.reverse, String.ofList (reversed.takeWhile (· != '.')).reverse)
      | [] => ("", path)

/-- What an import path leads to. Module names that start with a dot lead nowhere. -/
def importPath (modules : ModuleTable) (path : String) : Outcome Importable :=
  let parts := splitImportPath path
  if parts.1 = "" || parts.2 = "" then .error (.hydratorNotPath path)
  else if parts.1.startsWith "." then misused .wrongType
  else match Record.get? parts.1 modules with
    | none => .error (.hydratorNotImported path ("No module named " ++ Text.quoted parts.1))
    | some names =>
        match Record.get? parts.2 names with
        | none => .error (.hydratorMissing path)
        | some found => .ok found

abbrev HydratorRegistry : Type := List (String × HydratorClass)

namespace HydratorRegistry

def initial : HydratorRegistry :=
  [("generic", .generic), ("array", .generic), ("typed", .entity), ("entity", .entity)]

def key (name : String) : String := Text.lower (Text.trim name)

/-- Register a class under a name. What is no class, or cannot hydrate, is refused. -/
def register (registry : HydratorRegistry) (name : String) (handle : HydratorHandle) :
    Outcome HydratorRegistry :=
  match handle with
  | .ofClass c => do
      let conforming ← c.ensureConforming name
      .ok (Record.put (key name) conforming registry)
  | .value _ | .ofInstance _ => .error (.hydratorNotClass name)

structure Resolved where
  hydrator : HydratorClass
  isHandle : Bool

def resolveClass (c : HydratorClass) (label : String) : Outcome Resolved := do
  let conforming ← c.ensureConforming label
  let made ← conforming.instantiate
  if made.canHydrate then .ok ⟨made, false⟩ else .error (.hydratorWithoutHydrate label)

/-- The hydrator of a handle. Registered names go before import paths. -/
def resolve (registry : HydratorRegistry) (modules : ModuleTable) (handle : HydratorHandle) :
    Outcome Resolved :=
  match handle with
  | .value (.text name) =>
      match Record.get? (key name) registry with
      | some c => do .ok ⟨← c.instantiate, false⟩
      | none => do
          match ← importPath modules name with
          | .ofClass c => resolveClass c name
          | .other => .error (.hydratorWithoutHydrate name)
  | .value v => do .error (.hydratorWithoutHydrate (← v.displayed))
  | .ofClass c => resolveClass c c.label
  | .ofInstance c =>
      if c.canHydrate then .ok ⟨c, true⟩ else .error (.hydratorWithoutHydrate c.instanceLabel)

end HydratorRegistry

namespace Hydration

def answer (schema : Schema) (c : HydratorClass) (requests : List Request) (root : Handle)
    (rows : List Row) : Outcome (List Value) :=
  match c.member with
  | .answering form => hydrate schema form requests root rows
  | .custom answer => answer rows requests root
  | .missing | .uncallable => misused .wrongType

end Hydration

end NestedSelect
