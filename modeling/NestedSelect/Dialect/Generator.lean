import NestedSelect.Dialect.Basic
import NestedSelect.Relation.Request
import NestedSelect.Value.Shown

/-!
The fragments of a statement that attach relations to root rows.

A single object is joined and guarded against a missing row. Collections and counts are
subqueries, so that they never multiply root rows.
-/

namespace NestedSelect

structure Generator where
  dialect : Dialect
  baseAlias : String

namespace Generator

variable (g : Generator)

/-- A column of a JSON object: its name as a key and its value from a source. -/
def jsonPair (source : String) (column : Value) : String :=
  "'" ++ column.display ++ "', " ++ source ++ "." ++ column.display

def jsonObject (source : String) (columns : List Value) : String :=
  g.dialect.jsonObject.display ++ "(" ++
    String.intercalate ", " (columns.map (jsonPair source)) ++ ")"

def jsonArrayAgg (expression : String) : String :=
  g.dialect.jsonArrayAgg.display ++ "(" ++ expression ++ ")"

def jsonArrayCoalesce (expression : String) : String :=
  "COALESCE(" ++ expression ++ ", " ++ g.dialect.emptyArray.display ++ ")"

def correlation (relation : Relation) : String :=
  relation.table ++ "." ++ relation.foreignKey ++ " = " ++
    g.baseAlias ++ "." ++ relation.localKeyText

/-- A joined row as one JSON object, or null where no row was joined. -/
def singleObject (relation : Relation) (columns : List Value) (outputKey : String) : String :=
  "CASE WHEN " ++ relation.label ++ "." ++ relation.primaryKey ++ " IS NULL THEN NULL ELSE " ++
    g.jsonObject relation.label columns ++ " END AS " ++ outputKey

def collection (relation : Relation) (columns : List Value) (outputKey : String) : String :=
  "(SELECT " ++ g.jsonArrayCoalesce (g.jsonArrayAgg (g.jsonObject relation.table columns)) ++
    " FROM " ++ relation.table ++ " WHERE " ++ g.correlation relation ++ ") AS " ++ outputKey

def count (relation : Relation) (outputKey : String) : String :=
  "(SELECT COUNT(*) FROM " ++ relation.table ++ " WHERE " ++ g.correlation relation ++ ") AS " ++
    outputKey

def selectItem (request : Request) : Outcome String :=
  match request.mode with
  | .single => do
      .ok (g.singleObject request.relation (← request.columns.items) request.outputKey)
  | .collection => do
      .ok (g.collection request.relation (← request.columns.items) request.outputKey)
  | .count => .ok (g.count request.relation request.outputKey)

def selectItems : List Request → Outcome (List String)
  | [] => .ok []
  | request :: rest => do
      let item ← g.selectItem request
      let items ← selectItems rest
      .ok (item :: items)

def selectList (root : List String) (requests : List Request) : Outcome String := do
  .ok (String.intercalate ",\n       " (root ++ (← g.selectItems requests)))

def joinCondition (request : Request) : Outcome String :=
  let relation := request.relation
  match relation.kind with
  | .belongsToOne =>
      .ok (relation.label ++ "." ++ relation.ownerKeyText ++ " = " ++
        g.baseAlias ++ "." ++ relation.foreignKey)
  | .hasOne =>
      .ok (relation.label ++ "." ++ relation.foreignKey ++ " = " ++
        g.baseAlias ++ "." ++ relation.localKeyText)
  | .hasMany => .error (.unsupportedJoin relation.kind.name request.name)

def joinClauses : List Request → Outcome (List String)
  | [] => .ok []
  | request :: rest =>
      if request.mode = .single then do
        let condition ← g.joinCondition request
        let clauses ← joinClauses rest
        .ok (("LEFT JOIN " ++ request.relation.table ++ " " ++ request.relation.label ++ " ON " ++
          condition) :: clauses)
      else joinClauses rest

def joinList (requests : List Request) : Outcome String := do
  let clauses ← g.joinClauses requests
  .ok (String.intercalate "\n" clauses)

/-- What is to be known of a generator, with the alias that it was asked for with. -/
def toRecord (baseAlias : Value) : List (String × Value) :=
  [("class", .text g.dialect.className), ("name", g.dialect.name), ("base_alias", baseAlias),
    ("json_object_fn", g.dialect.jsonObject), ("json_array_agg_fn", g.dialect.jsonArrayAgg),
    ("empty_array_literal", g.dialect.emptyArray),
    ("batch_introspection", g.dialect.batchIntrospection),
    ("offset_only_limit", g.dialect.offsetOnlyLimit)]

end Generator

end NestedSelect
