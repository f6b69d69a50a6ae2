import NestedSelect.Query.Wildcards
import NestedSelect.Sql.Statement

/-!
The statements of a query.

A query over its root table has its own order and window; a query over a base query leaves both
to it. The counting statement shares source, joins and conditions with the page it belongs to.
-/

namespace NestedSelect.Query

open Sql (BoundStatement Window)

def source (query : Query) : Outcome BoundStatement :=
  let setup := query.setup
  match setup.baseQuery? with
  | none => .ok ⟨setup.table ++ " " ++ setup.baseAlias, []⟩
  | some base => do
      let rendered ← Sql.renderBaseQuery setup.schema setup.generator.dialect base
      .ok ⟨"(" ++ rendered.text ++ ") " ++ setup.baseAlias, rendered.values⟩

def window (query : Query) : Window :=
  ⟨(query.limit?.map Value.int).getD .null, (query.offset?.map Value.int).getD .null⟩

/-- The select list: all columns of the root and an item for each relation. -/
def selectList (query : Query) : Outcome String :=
  query.setup.generator.selectList [query.setup.baseAlias ++ ".*"] query.relations

def boundValues (query : Query) (sourceValues : List Value) : List Value :=
  sourceValues ++ Sql.conditionValues query.filters

def build (query : Query) (window : Window) : Outcome BoundStatement := do
  let setup := query.setup
  let source ← query.source
  let selectList ← query.selectList
  let joins ← setup.generator.joinList query.relations
  let condition := Sql.conditions query.filters setup.baseAlias
  let isPaged := setup.baseQuery?.isNone
  let order := if isPaged then Sql.orderings query.orders setup.baseAlias else ""
  let window := if isPaged then window else ⟨.null, .null⟩
  let text ← Sql.assemble selectList source.text joins condition order window
    setup.generator.dialect.offsetOnlyLimit
  .ok ⟨text, query.boundValues source.values⟩

def buildCount (query : Query) : Outcome BoundStatement := do
  let setup := query.setup
  let source ← query.source
  let joins ← setup.generator.joinList
    (query.relations.filter (fun request => request.mode == .single))
  let condition := Sql.conditions query.filters setup.baseAlias
  let text ← Sql.assemble "COUNT(*) AS aggregate" source.text joins condition ""
    ⟨.null, .null⟩ .null
  .ok ⟨text, query.boundValues source.values⟩

/-- The values of the statement as it is. Wildcards need not be found out for this. -/
def bindings (query : Query) : Outcome (List Value) := do
  .ok (← query.build query.window).values

variable {σ : Type}

def compileNow (introspector? : Option (Introspector σ)) : Work σ BoundStatement := do
  resolveWildcardsNow introspector?
  let query ← get
  query.build query.window

def compileAwaited (introspector? : Option (Introspector σ)) : Work σ BoundStatement := do
  resolveWildcardsAwaited introspector?
  let query ← get
  query.build query.window

def compile (awaits : Bool) (introspector? : Option (Introspector σ)) : Work σ BoundStatement :=
  if awaits then compileAwaited introspector? else compileNow introspector?

end NestedSelect.Query
