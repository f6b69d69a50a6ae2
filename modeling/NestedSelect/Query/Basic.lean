import NestedSelect.Config.Basic
import NestedSelect.Dialect.Registry
import NestedSelect.Query.Criteria
import NestedSelect.Relation.Request
import NestedSelect.Relation.Resolver
import NestedSelect.Sql.BaseQuery

/-!
Queries: a root, the relations attached to it, filters, orders and a window of rows.
-/

namespace NestedSelect

structure QuerySetup where
  schema : Schema
  root : Handle
  table : String
  baseAlias : String
  generator : Generator
  matchers : List Matcher
  baseQuery? : Option BaseQuery
  config : Config

def QuerySetup.resolve (setup : QuerySetup) (name : String) : Outcome Relation :=
  Relation.resolve setup.schema setup.matchers setup.root name

/-- A query. `resolutions` holds the relations that were resolved so far, `listings` the columns of
tables as far as they were found out, and `wildcardsResolved` says that no relation is waiting for
its columns. -/
structure Query where
  setup : QuerySetup
  relations : List Request := []
  filters : List Filter := []
  orders : List OrderTerm := []
  limit? : Option Int := none
  offset? : Option Int := none
  warnings : List String := []
  resolutions : List (String × Relation) := []
  listings : List (String × List Value) := []
  wildcardsResolved : Bool := false

/-- How a query is opened. A generator goes before a dialect, and a dialect before the one of the
connection. -/
structure QueryOptions where
  root : Handle
  dialect : Value
  generator? : Option Generator
  baseAlias : String
  matchers : List Matcher
  baseQuery? : Option BaseQuery
  config : Config

namespace Query

def defaultAlias : String := "base"

private def fresh (schema : Schema) (options : QueryOptions) (table : String) (g : Generator) :
    Query :=
  { setup :=
      { schema := schema
        root := options.root
        table := table
        baseAlias := options.baseAlias
        generator := g
        matchers := options.matchers
        baseQuery? := options.baseQuery?
        config := options.config } }

/-- Open a query, with what is noted on the way. `connected` is the dialect of the connection. -/
def start (schema : Schema) (dialects : DialectRegistry) (options : QueryOptions)
    (connected : Option String) : Outcome Query × List LogRecord :=
  let generatorFor (name : Value) : Outcome Generator :=
    dialects.generator name options.baseAlias
      (some (.list (options.config.supportedDialects.map Value.text)))
  match options.root.tableName schema with
  | .error fault => (.error fault, [])
  | .ok table =>
      match options.generator?, options.dialect, connected with
      | some g, _, _ => (.ok (fresh schema options table g), [])
      | none, .null, none => (.error .noDialect, [])
      | none, .null, some name =>
          ((generatorFor (.text name)).map (fresh schema options table), [.dialectDetected name])
      | none, dialect, _ => ((generatorFor dialect).map (fresh schema options table), [])

/-- A change of a query. A change that is refused may have noted warnings before. -/
abbrev Edit (α : Type) : Type := ExceptT Fault (StateM Query) α

def tolerate (strict : Value) (v : Violation) : Edit Unit :=
  if strict.isTruthy then throw (.violation v)
  else modify (fun query => { query with warnings := query.warnings ++ [v.message] })

def tolerateIf (present : Bool) (strict : Value) (v : Violation) : Edit Unit :=
  if present then tolerate strict v else pure ()

/-- Refuse or note a number above the greatest one that the options allow. Both numbers are shown
before that, and one that cannot be shown is a failure of its own. -/
def tolerateAbove (strict greatest : Value) (n : Int) (violation : String → String → Violation) :
    Edit Unit := do
  if ← greatest.exceededBy n then
    let shown ← (Value.int n).displayed
    let most ← greatest.displayed
    tolerate strict (violation shown most)

def newRecords (before after : Query) : List LogRecord :=
  if after.setup.config.logFallbacks.isTruthy then
    (after.warnings.drop before.warnings.length).map LogRecord.noted
  else []

end Query

end NestedSelect
