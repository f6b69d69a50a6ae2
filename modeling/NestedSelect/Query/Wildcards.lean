import NestedSelect.Connection.Exchange
import NestedSelect.Hydration.Entity
import NestedSelect.Query.Basic
import NestedSelect.Query.StaticColumns

/-!
Finding out the columns that wildcards stand for.

What is known without a database is used first. The tables of the relations that are left are
asked about together or one by one, as the dialect has it.
-/

namespace NestedSelect.Query

abbrev Work (σ α : Type) : Type := ExceptT Fault (StateT Query (StateM σ)) α

def perform {σ α : Type} (exchange : Exchange σ α) : Work σ α :=
  fun query world =>
    let answered := exchange world
    ((answered.1, query), answered.2)

def edit {σ α : Type} (change : Edit α) : Work σ α :=
  fun query world => (change query, world)

/-- The columns of a request's relation, from the listings or from what is known anyway. -/
def knownColumns (setup : QuerySetup) (listings : List (String × List Value)) (request : Request) :
    Option (List Value) :=
  let table := request.relation.table
  match Record.get? table listings with
  | some (column :: rest) => some (column :: rest)
  | _ =>
      staticColumns setup.schema (Hydration.handleOf request.relation.model?) table setup.config

/-- Settle the wildcards whose columns are known, and list those columns under their tables. -/
def settleKnown (setup : QuerySetup) : List Request → List (String × List Value) →
    List Request × List (String × List Value)
  | [], listings => ([], listings)
  | request :: rest, listings =>
      match (if request.isWildcard then knownColumns setup listings request else none) with
      | some columns =>
          let settled := settleKnown setup rest
            (Record.put request.relation.table columns listings)
          ({ request with columns := .listed columns } :: settled.1, settled.2)
      | none =>
          let settled := settleKnown setup rest listings
          (request :: settled.1, settled.2)

def pendingTables (requests : List Request) : List String :=
  ((requests.filter Request.isWildcard).map (fun request => request.relation.table)).eraseDups

/-- Give the wildcards that are left the columns listed for their tables. The first one without
any columns stops this. -/
def applyListings (listings : List (String × List Value)) :
    List Request → List Request × Outcome Unit
  | [] => ([], .ok ())
  | request :: rest =>
      if request.isWildcard then
        let columns := (Record.get? request.relation.table listings).getD []
        match request.resolveColumns (.list columns) with
        | .ok resolved =>
            let applied := applyListings listings rest
            (resolved :: applied.1, applied.2)
        | .error fault => (request :: rest, .error fault)
      else
        let applied := applyListings listings rest
        (request :: applied.1, applied.2)

variable {σ : Type}

/-! ### Callers who do not await -/

def introspectEachNow (introspector : Introspector σ) : List String → Work σ Unit
  | [] => pure ()
  | table :: rest => do
      let columns ← perform (askNow (introspector.columnsOf table))
      modify (fun query => { query with listings := Record.put table columns query.listings })
      introspectEachNow introspector rest

/-- Ask about the tables of the wildcards that are left, if there are any, as the dialect has it,
and list the answers. -/
def introspectNow (introspector? : Option (Introspector σ)) (tables : List String) :
    Work σ Unit :=
  match tables, introspector? with
  | [], _ => pure ()
  | table :: _, none => throw (.noIntrospector table)
  | tables, some introspector => do
      if (← get).setup.generator.dialect.batchIntrospection.isTruthy then
        let found ← perform (askNow (introspector.columnsOfMany tables))
        modify (fun query => { query with listings := Record.merge query.listings found })
      else introspectEachNow introspector tables

def resolveWildcardsNow (introspector? : Option (Introspector σ)) : Work σ Unit := do
  let query ← get
  if query.wildcardsResolved then return
  let settled := settleKnown query.setup query.relations query.listings
  set { query with relations := settled.1, listings := settled.2 }
  introspectNow introspector? (pendingTables settled.1)
  let asked ← get
  let applied := applyListings asked.listings asked.relations
  set { asked with relations := applied.1 }
  applied.2
  modify (fun query => { query with wildcardsResolved := true })

/-! ### Callers who await -/

def introspectEachAwaited (introspector : Introspector σ) : List String → Work σ Unit
  | [] => pure ()
  | table :: rest => do
      let columns ← perform (askAwaited (introspector.columnsOf table))
      modify (fun query => { query with listings := Record.put table columns query.listings })
      introspectEachAwaited introspector rest

def introspectAwaited (introspector? : Option (Introspector σ)) (tables : List String) :
    Work σ Unit :=
  match tables, introspector? with
  | [], _ => pure ()
  | table :: _, none => throw (.noIntrospector table)
  | tables, some introspector => do
      if (← get).setup.generator.dialect.batchIntrospection.isTruthy then
        let found ← perform (askAwaited (introspector.columnsOfMany tables))
        modify (fun query => { query with listings := Record.merge query.listings found })
      else introspectEachAwaited introspector tables

def resolveWildcardsAwaited (introspector? : Option (Introspector σ)) : Work σ Unit := do
  let query ← get
  if query.wildcardsResolved then return
  let settled := settleKnown query.setup query.relations query.listings
  set { query with relations := settled.1, listings := settled.2 }
  introspectAwaited introspector? (pendingTables settled.1)
  let asked ← get
  let applied := applyListings asked.listings asked.relations
  set { asked with relations := applied.1 }
  applied.2
  modify (fun query => { query with wildcardsResolved := true })

/-- Finding out the wildcards' columns, for a caller who awaits or one who does not. -/
def resolveWildcards (awaits : Bool) (introspector? : Option (Introspector σ)) : Work σ Unit :=
  if awaits then resolveWildcardsAwaited introspector? else resolveWildcardsNow introspector?

end NestedSelect.Query
