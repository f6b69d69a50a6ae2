import NestedSelect.Workspace.Call

/-!
A desk: the options in force, what is registered, and the queries that are open, by name.

`step` takes one action. Queries keep the options that were in force when they were opened, and
what they are connected with; all of them share one world.
-/

namespace NestedSelect

/-- An open query with what it is connected with. -/
structure OpenQuery (σ : Type) where
  query : Query
  link : Link σ

structure Desk (σ : Type) where
  schema : Schema
  modules : ModuleTable
  config : Config
  dialects : DialectRegistry
  hydrators : HydratorRegistry
  world : σ
  queries : List (String × OpenQuery σ)

namespace Desk

/-- How a query is to be opened. Options of its own go before those in force. -/
structure Opening where
  root : Handle
  dialect : Value
  generator? : Option Generator
  baseAlias : String
  matchers : List Matcher
  baseQuery? : Option BaseQuery
  config? : Option Value

def Opening.options (opening : Opening) (config : Config) : QueryOptions :=
  { root := opening.root
    dialect := opening.dialect
    generator? := opening.generator?
    baseAlias := opening.baseAlias
    matchers := opening.matchers
    baseQuery? := opening.baseQuery?
    config := config }

inductive Action (σ : Type) where
  | configure (config : Option Value) (overrides : List (String × Value))
  | showConfig
  | resetConfig
  | registerDialect (name : String) (dialect : Dialect) (aliases : List String)
  | showGenerator (name baseAlias : Value) (supported : Option Value)
  | registerHydrator (name : String) (handle : HydratorHandle)
  | resolveHydrator (handle : HydratorHandle)
  | openQuery (id : String) (opening : Opening) (link : Link σ)
  | call (id : String) (call : Call)

/-- What an action brought about. Without an outcome, the query that was called is not open. The
query is shown as it is afterwards. -/
structure Report where
  outcome? : Option (Outcome Answer)
  log : List LogRecord
  query? : Option Query

def Report.plain (outcome : Outcome Answer) : Report := ⟨some outcome, [], none⟩

variable {σ : Type}

def initial (schema : Schema) (modules : ModuleTable) (world : σ) : Desk σ :=
  { schema := schema
    modules := modules
    config := Config.initial
    dialects := DialectRegistry.initial
    hydrators := HydratorRegistry.initial
    world := world
    queries := [] }

def openingConfig (desk : Desk σ) : Option Value → Outcome Config
  | none => .ok desk.config
  | some data => Config.ofRecord data

def configured (desk : Desk σ) (config : Option Value) (overrides : List (String × Value)) :
    Outcome Config := do
  let base ← desk.openingConfig config
  if overrides.isEmpty then .ok base else base.withOverrides overrides

def opened (desk : Desk σ) (opening : Opening) (link : Link σ) : Outcome Query × List LogRecord :=
  match desk.openingConfig opening.config? with
  | .error fault => (.error fault, [])
  | .ok config =>
      Query.start desk.schema desk.dialects (opening.options config)
        (link.executor?.map Executor.dialectName)

/-- Open a query under a name. One that was open under it is dropped. -/
def openQuery (desk : Desk σ) (id : String) (opening : Opening) (link : Link σ) :
    Report × Desk σ :=
  let dropped := { desk with queries := Record.remove id desk.queries }
  match desk.opened opening link with
  | (.error fault, log) => (⟨some (.error fault), log, none⟩, dropped)
  | (.ok query, log) =>
      (⟨some (.ok (.opened query.setup.table query.setup.generator.dialect.name)), log,
          some query⟩,
        { dropped with queries := Record.put id ⟨query, link⟩ dropped.queries })

def call (desk : Desk σ) (id : String) (call : Call) : Report × Desk σ :=
  match Record.get? id desk.queries with
  | none => (⟨none, [], none⟩, desk)
  | some held =>
      let work := Query.answer ⟨desk.hydrators, desk.modules⟩ held.link call
      let ((outcome, query), after) := work.run held.query desk.world
      (⟨some outcome, Query.newRecords held.query query, some query⟩,
        { desk with
          world := after
          queries := Record.put id { held with query := query } desk.queries })

def step (desk : Desk σ) : Action σ → Report × Desk σ
  | .configure config overrides =>
      match desk.configured config overrides with
      | .error fault => (.plain (.error fault), desk)
      | .ok options => (.plain (.ok (.config options)), { desk with config := options })
  | .showConfig => (.plain (.ok (.config desk.config)), desk)
  | .resetConfig => (.plain (.ok (.config Config.initial)), { desk with config := Config.initial })
  | .registerDialect name dialect aliases =>
      (⟨some (.ok .done), [DialectRegistry.registration name dialect aliases], none⟩,
        { desk with dialects := desk.dialects.register name dialect aliases })
  | .showGenerator name baseAlias supported =>
      (.plain ((desk.dialects.generator name baseAlias.display supported).map
        (fun g => .generator g baseAlias)), desk)
  | .registerHydrator name handle =>
      match HydratorRegistry.register desk.hydrators name handle with
      | .error fault => (.plain (.error fault), desk)
      | .ok hydrators => (.plain (.ok .done), { desk with hydrators := hydrators })
  | .resolveHydrator handle =>
      (.plain ((HydratorRegistry.resolve desk.hydrators desk.modules handle).map .hydrator), desk)
  | .openQuery id opening link => desk.openQuery id opening link
  | .call id call => desk.call id call

end Desk

end NestedSelect
