import NestedSelect.Dialect.Generator
import NestedSelect.Log
import NestedSelect.Record
import NestedSelect.Text.Blank
import NestedSelect.Text.Case
import NestedSelect.Value.Key

/-!
The registry of dialects and of the names by which they are asked for.

A name is looked up trimmed, in lower case and without what follows a plus sign.
-/

namespace NestedSelect

/-- Dialects by their registered name, and the spellings that lead to a registered name. -/
structure DialectRegistry where
  dialects : List (String × Dialect)
  aliases : List (String × String)

namespace DialectRegistry

def initial : DialectRegistry :=
  { dialects := Dialect.builtin
    aliases := [("mysql", "mysql"), ("mariadb", "mysql"), ("pgsql", "pgsql"),
      ("postgres", "pgsql"), ("postgresql", "pgsql"), ("sqlite", "sqlite")] }

def spelling (name : String) : String :=
  String.ofList ((Text.lower (Text.trim name)).toList.takeWhile (· != '+'))

def canonicalText? (registry : DialectRegistry) (name : String) : Option String :=
  Record.get? (spelling name) registry.aliases

/-- The registered name that a value leads to; every no counts as the empty name. -/
def canonical (registry : DialectRegistry) (name : Value) : Outcome (Option String) :=
  match name with
  | .text s => .ok (registry.canonicalText? s)
  | .bytes (_ :: _) => misused .wrongType
  | other => if other.isTruthy then misused .missingPart else .ok (registry.canonicalText? "")

/-- What a member of a list of allowed dialects stands for: a registered name, or itself. -/
def allowedMember (registry : DialectRegistry) (name : Value) : Outcome Value := do
  match (← registry.canonical name).filter (· != "") with
  | some registered => .ok (.text registered)
  | none => if name.isKey then .ok name else misused .wrongType

def allowedMembers (registry : DialectRegistry) : List Value → Outcome (List Value)
  | [] => .ok []
  | name :: rest => do
      let member ← registry.allowedMember name
      let members ← allowedMembers registry rest
      .ok (member :: members)

private def sortedNames (names : List String) : List String :=
  names.eraseDups.mergeSort (fun first second => !(second < first))

/-- Whether a registered dialect is among those that are allowed; `asked` is what it was asked
for as. -/
def ensureAllowed (registry : DialectRegistry) (registered asked : String) (supported : Value) :
    Outcome Unit := do
  let members ← registry.allowedMembers (← supported.items)
  let names := members.filterMap Value.text?
  if registered ∈ names then .ok ()
  else if names.length = members.length then .error (.disabledDialect asked (sortedNames names))
  else misused .wrongType

def generator (registry : DialectRegistry) (name : Value) (baseAlias : String)
    (supported : Option Value) : Outcome Generator := do
  let registered? ← registry.canonical name
  match registered?.bind (fun registered =>
    (Record.get? registered registry.dialects).map (fun dialect => (registered, dialect))) with
  | none => .error (.unsupportedDialect name.display)
  | some (registered, dialect) =>
      match supported with
      | none => .ok ⟨dialect, baseAlias⟩
      | some members => do
          registry.ensureAllowed registered name.display members
          .ok ⟨dialect, baseAlias⟩

/-- Register a dialect under a name, as it is, and under further names in lower case. -/
def register (registry : DialectRegistry) (name : String) (dialect : Dialect)
    (aliases : List String) : DialectRegistry :=
  { dialects := Record.put name dialect registry.dialects
    aliases := aliases.foldl (fun known other => Record.put (Text.lower other) name known)
      (Record.put name name registry.aliases) }

def registration (name : String) (dialect : Dialect) (aliases : List String) : LogRecord :=
  .dialectRegistered dialect.className name aliases

end DialectRegistry

end NestedSelect
