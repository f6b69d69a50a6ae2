import NestedSelect.Proofs.Query.Work
import NestedSelect.Query.Compile

/-!
How the statements of a query are laid out.

A request whose columns are names or a wildcard, and which is joined only where a key says how,
always has its fragments. Statements are then texts put together from these fragments; only a
base query or a number that cannot be written makes building one fail.
-/

namespace NestedSelect

open Sql (BoundStatement Window)

def Request.writtenColumns (request : Request) : List Value :=
  request.columns.items.toOption.getD []

structure Request.Presentable (request : Request) : Prop where
  listed : request.columns.items = .ok request.writtenColumns
  joined : request.mode = .single → request.relation.kind ≠ .hasMany

namespace Generator

variable (g : Generator)

def item (request : Request) : String :=
  match request.mode with
  | .single => g.singleObject request.relation request.writtenColumns request.outputKey
  | .collection => g.collection request.relation request.writtenColumns request.outputKey
  | .count => g.count request.relation request.outputKey

/-- The condition on which the row of a single object is joined: the key of the far side meets
the one of the root. -/
def meeting (relation : Relation) : String :=
  match relation.kind with
  | .belongsToOne =>
      relation.label ++ "." ++ relation.ownerKeyText ++ " = " ++ g.baseAlias ++ "." ++
        relation.foreignKey
  | .hasOne | .hasMany =>
      relation.label ++ "." ++ relation.foreignKey ++ " = " ++ g.baseAlias ++ "." ++
        relation.localKeyText

def join (request : Request) : String :=
  "LEFT JOIN " ++ request.relation.table ++ " " ++ request.relation.label ++ " ON " ++
    g.meeting request.relation

def joins (requests : List Request) : List String :=
  (requests.filter (fun request => request.mode == .single)).map g.join

theorem selectItem_eq {request : Request} (fit : request.Presentable) :
    g.selectItem request = .ok (g.item request) := by
  unfold selectItem item
  cases request.mode with
  | single => exact Outcome.bind_of_ok fit.listed
  | collection => exact Outcome.bind_of_ok fit.listed
  | count => rfl

theorem selectItems_eq {requests : List Request}
    (fit : ∀ request ∈ requests, request.Presentable) :
    g.selectItems requests = .ok (requests.map g.item) := by
  induction requests with
  | nil => rfl
  | cons request rest ih =>
      have first := g.selectItem_eq (fit request List.mem_cons_self)
      have others := ih (fun other inside => fit other (List.mem_cons_of_mem request inside))
      unfold selectItems
      rw [Outcome.bind_of_ok first, Outcome.bind_of_ok others]
      rfl

theorem joinCondition_eq {request : Request} (joined : request.relation.kind ≠ .hasMany) :
    g.joinCondition request = .ok (g.meeting request.relation) := by
  unfold joinCondition meeting
  simp only
  cases kind : request.relation.kind with
  | belongsToOne => rfl
  | hasOne => rfl
  | hasMany => exact absurd kind joined

theorem joinClauses_eq {requests : List Request}
    (fit : ∀ request ∈ requests, request.Presentable) :
    g.joinClauses requests = .ok (g.joins requests) := by
  induction requests with
  | nil => rfl
  | cons request rest ih =>
      have others := ih (fun other inside => fit other (List.mem_cons_of_mem request inside))
      unfold joinClauses
      by_cases isSingle : request.mode = .single
      · have condition := g.joinCondition_eq ((fit request List.mem_cons_self).joined isSingle)
        rw [if_pos isSingle, Outcome.bind_of_ok condition, Outcome.bind_of_ok others]
        simp only [joins, List.filter_cons, isSingle, beq_self_eq_true, if_true, List.map_cons]
        rfl
      · have apart : (request.mode == .single) = false := beq_eq_false_iff_ne.2 isSingle
        rw [if_neg isSingle, others]
        simp only [joins, List.filter_cons, apart, Bool.false_eq_true, if_false]

theorem joins_filter_single (requests : List Request) :
    g.joins (requests.filter (fun request => request.mode == .single)) = g.joins requests := by
  simp only [joins, List.filter_filter, Bool.and_self]

end Generator

namespace Query

variable (query : Query)

def columnsText : String :=
  String.intercalate ",\n       "
    ((query.setup.baseAlias ++ ".*") :: query.relations.map query.setup.generator.item)

/-- What the page and the count of a query have in common: source, joins and conditions. -/
def body (source : String) : String :=
  source
    ++ Sql.clauseLine "" (String.intercalate "\n" (query.setup.generator.joins query.relations))
    ++ Sql.clauseLine "WHERE " (Sql.conditions query.filters query.setup.baseAlias)

def orderText : String :=
  if query.setup.baseQuery?.isNone then
    Sql.clauseLine "ORDER BY " (Sql.orderings query.orders query.setup.baseAlias)
  else ""

def windowText (window : Window) : Outcome String := do
  let shown := if query.setup.baseQuery?.isNone then window else ⟨.null, .null⟩
  let limit ← Sql.numberLine "LIMIT"
    (shown.effectiveLimit query.setup.generator.dialect.offsetOnlyLimit)
  let offset ← Sql.numberLine "OFFSET" shown.offset
  .ok (limit ++ offset)

variable {query}

theorem selectList_eq (fit : ∀ request ∈ query.relations, request.Presentable) :
    query.selectList = .ok query.columnsText := by
  unfold selectList Generator.selectList
  rw [Outcome.bind_of_ok (query.setup.generator.selectItems_eq fit)]
  rfl

theorem joinList_eq (g : Generator) {requests : List Request}
    (fit : ∀ request ∈ requests, request.Presentable) :
    g.joinList requests = .ok (String.intercalate "\n" (g.joins requests)) := by
  unfold Generator.joinList
  rw [Outcome.bind_of_ok (g.joinClauses_eq fit)]

theorem assemble_eq (selectList source joins condition order : String) (window : Window)
    (offsetOnlyLimit : Value) :
    Sql.assemble selectList source joins condition order window offsetOnlyLimit = (do
      let limit ← Sql.numberLine "LIMIT" (window.effectiveLimit offsetOnlyLimit)
      let offset ← Sql.numberLine "OFFSET" window.offset
      .ok ("SELECT " ++ selectList ++ " FROM " ++
        (source ++ Sql.clauseLine "" joins ++ Sql.clauseLine "WHERE " condition) ++
        Sql.clauseLine "ORDER BY " order ++ (limit ++ offset))) := by
  unfold Sql.assemble
  simp only [String.append_assoc]

theorem clauseLine_order :
    Sql.clauseLine "ORDER BY " (if query.setup.baseQuery?.isNone then
      Sql.orderings query.orders query.setup.baseAlias else "") = query.orderText := by
  unfold orderText
  split <;> rfl

theorem build_eq (fit : ∀ request ∈ query.relations, request.Presentable) (window : Window) :
    query.build window = (do
      let source ← query.source
      let lines ← query.windowText window
      .ok ⟨"SELECT " ++ query.columnsText ++ " FROM " ++ query.body source.text ++
        query.orderText ++ lines, query.boundValues source.values⟩) := by
  unfold build
  cases sourced : query.source with
  | error fault => rfl
  | ok source =>
      rw [Outcome.bind_of_ok rfl, Outcome.bind_of_ok (selectList_eq fit),
        Outcome.bind_of_ok (joinList_eq query.setup.generator fit), Outcome.bind_of_ok rfl]
      simp only [assemble_eq, windowText, bind_assoc, clauseLine_order, body]
      rfl

theorem buildCount_eq (fit : ∀ request ∈ query.relations, request.Presentable) :
    query.buildCount = (do
      let source ← query.source
      .ok ⟨"SELECT COUNT(*) AS aggregate FROM " ++ query.body source.text,
        query.boundValues source.values⟩) := by
  unfold buildCount
  cases sourced : query.source with
  | error fault => rfl
  | ok source =>
      have fit : ∀ request ∈ query.relations.filter (fun request => request.mode == .single),
          request.Presentable := fun request inside => fit request ((List.mem_filter.1 inside).1)
      rw [Outcome.bind_of_ok rfl, Outcome.bind_of_ok (joinList_eq query.setup.generator fit),
        Outcome.bind_of_ok rfl, Generator.joins_filter_single]
      simp only [assemble_eq]
      have written (text : String) :
          "SELECT " ++ "COUNT(*) AS aggregate" ++ " FROM " ++ text ++ "" ++ ("" ++ "") =
            "SELECT COUNT(*) AS aggregate FROM " ++ text := by
        rw [String.append_empty, String.append_empty, String.append_empty]
        rfl
      exact congrArg (fun text => Except.ok (BoundStatement.mk text _)) (written _)

end Query

end NestedSelect
