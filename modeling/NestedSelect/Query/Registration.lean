import NestedSelect.Query.Basic
import NestedSelect.Relation.Resolver

/-!
Attaching relations to a query, and choosing its rows.

Everything is checked when it is registered. What is refused leaves relations, filters, orders and
the window as they were.
-/

namespace NestedSelect.Query

/-- The columns of a relation that is asked for in a mode; a count has none. -/
def requestedColumns (mode : RequestMode) (columns : Value) (name : String) : Outcome Columns :=
  match mode with
  | .count => .ok (.listed [])
  | .single | .collection => Columns.ensure columns name

/-- The relation of a name. It is resolved once and remembered, also if it is not attached. -/
def resolve (name : String) : Edit Relation := do
  let query ← get
  match Record.get? name query.resolutions with
  | some relation => return relation
  | none => do
      let relation ← query.setup.resolve name
      modify (fun query =>
        { query with resolutions := Record.put name relation query.resolutions })
      return relation

def ensureAdmitted (mode : RequestMode) (name : String) (relation : Relation) : Outcome Unit :=
  if relation.kind ∈ mode.kinds then .ok ()
  else
    .error (.kindMismatch name relation.kind.name mode.name (mode.kinds.map RelationKind.name))

def ensureApart (registered : List Request) (request : Request) : Outcome Unit :=
  if registered.any (fun other => other.outputKey == request.outputKey) then
    .error (.duplicateRelation request.outputKey)
  else .ok ()

def register (mode : RequestMode) (name columns : Value) : Edit Unit := do
  let name ← Identifier.ensureRelation name
  let columns ← requestedColumns mode columns name
  let setup := (← get).setup
  tolerateIf columns.isWildcard setup.config.strictMode (.wildcard name)
  let relation ← resolve name
  ensureAdmitted mode name relation
  let request : Request := ⟨name, mode, relation, columns⟩
  let registered := (← get).relations
  ensureApart registered request
  let total := registered.length + 1
  tolerateAbove setup.config.strictMode setup.config.maxRelations total .tooManyRelations
  modify (fun query =>
    { query with relations := query.relations ++ [request], wildcardsResolved := false })

def filter (column operator value : Value) : Edit Unit := do
  let added ← Filter.make column operator value
  modify (fun query => { query with filters := query.filters ++ [added] })

def orderBy (column direction : Value) : Edit Unit := do
  let added ← OrderTerm.make column direction
  modify (fun query => { query with orders := query.orders ++ [added] })

def ensureNonNegative (label : String) (value : Value) : Outcome Int :=
  match value with
  | .int n => if n < 0 then do .error (.notNonNegative label (← value.inspected)) else .ok n
  | other => do .error (.notNonNegative label (← other.inspected))

def ensureLimit (label : String) (value : Value) : Edit Int := do
  let n ← ensureNonNegative label value
  let config := (← get).setup.config
  tolerateAbove config.strictLimitValidation config.maxLimit n .limitAbove
  return n

def limit (value : Value) : Edit Unit := do
  let n ← ensureLimit "Limit" value
  modify (fun query => { query with limit? := some n })

def offset (value : Value) : Edit Unit := do
  let n ← ensureNonNegative "Offset" value
  modify (fun query => { query with offset? := some n })

end NestedSelect.Query
