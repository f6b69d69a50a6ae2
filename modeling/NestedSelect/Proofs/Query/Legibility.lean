import NestedSelect.Proofs.Query.Aliases
import NestedSelect.Proofs.Query.Placeholders
import NestedSelect.Proofs.Query.Readings
import NestedSelect.Proofs.Query.Stability

/-!
What the text of a compiled query tells.

Select items, joins, conditions, orders and the window are lists of legible parts, and none of them
begins like another. Two queries over one root that compile to the same text therefore ask for the
same things.
-/

namespace NestedSelect

open Identifier (isRest isSafe)
open Query (HydratorSource)
open Sql (BoundStatement Ends Starts Stops areApart stops_append)

namespace Sql

def numbered (keyword : String) (chosen : Option Int) : String :=
  listed keyword keyword (fun n : Int => toString n) chosen.toList

theorem numberLine_eq {keyword line : String} {chosen : Option Int}
    (written : numberLine keyword ((chosen.map Value.int).getD .null) = .ok line) :
    line = numbered ("\n" ++ keyword ++ " ") chosen := by
  cases chosen with
  | none =>
      cases written
      rfl
  | some n =>
      rw [Option.map_some, Option.getD_some, numberLine_int] at written
      split at written
      · cases written
        simp [numbered, listed]
      · cases written

theorem legible_numbered {keyword r s : String} {first second : Option Int}
    (begins : stopsAt isNumeral keyword = true)
    (after : Stops isNumeral r ∧ ¬ Starts keyword r)
    (also : Stops isNumeral s ∧ ¬ Starts keyword s)
    (same : numbered keyword first ++ r = numbered keyword second ++ s) :
    first = second ∧ r = s := by
  obtain ⟨chosen, tails⟩ := legible_integer.listed (fun t => stops_append begins t)
    (fun _ _ => trivial) (fun _ _ => trivial) ⟨after.1, after.2, after.2⟩ ⟨also.1, also.2, also.2⟩
    same
  rw [List.map_id, List.map_id] at chosen
  refine ⟨?_, tails⟩
  cases first <;> cases second <;> simp_all

end Sql

namespace Query

/-- What the text of a compiled query tells of it. Columns of conditions and orders are told with
the source that they are written with. -/
structure Reading where
  requests : List Request.Reading
  filters : List (String × String)
  orders : List (String × String)
  limit? : Value
  offset? : Option Int

variable (query : Query)

def emittedLimit : Value :=
  query.window.effectiveLimit query.setup.generator.dialect.offsetOnlyLimit

def reading : Reading :=
  let source := query.setup.baseAlias
  { requests := query.relations.map Request.reading
    filters := query.filters.map (fun filter =>
      (Identifier.qualify filter.column source, filter.operator))
    orders := query.orders.map (fun order =>
      (Identifier.qualify order.column source, order.direction))
    limit? := query.emittedLimit
    offset? := query.offset? }

theorem emittedLimit_eq {query : Query}
    (builtin : query.setup.generator.dialect ∈ Dialect.builtin.map Prod.snd) :
    ∃ chosen : Option Int, query.emittedLimit = (chosen.map Value.int).getD .null := by
  have known : query.setup.generator.dialect = .mysql ∨
      query.setup.generator.dialect = .postgres ∨ query.setup.generator.dialect = .sqlite := by
    simpa [Dialect.builtin] using builtin
  unfold emittedLimit
  rcases effectiveLimit_cases query.window query.setup.generator.dialect.offsetOnlyLimit with
    same | same
  · exact ⟨query.limit?, same⟩
  · rw [same]
    rcases known with known | known | known
    · exact ⟨some 18446744073709551615, by rw [known]; rfl⟩
    · exact ⟨none, by rw [known]; rfl⟩
    · exact ⟨some (-1), by rw [known]; rfl⟩

section

variable (limit : Option Int)

def windowLines : String :=
  Sql.numbered "\nLIMIT " limit ++ (Sql.numbered "\nOFFSET " query.offset? ++ "")

def orderLines : String :=
  Sql.listed "\nORDER BY " ", " (Sql.ordering query.setup.baseAlias) query.orders ++
    query.windowLines limit

def conditionLines : String :=
  Sql.listed "\nWHERE " " AND " (Sql.condition query.setup.baseAlias) query.filters ++
    query.orderLines limit

def joinLines : String :=
  Sql.listed "\nLEFT JOIN " "\nLEFT JOIN " query.setup.generator.joinText
    (query.relations.filter (fun request => request.mode == .single)) ++ query.conditionLines limit

def itemLines : String :=
  Sql.listed Sql.itemBreak Sql.itemBreak query.setup.generator.item query.relations ++
    (" FROM " ++ (query.setup.table ++ " " ++ query.setup.baseAlias ++ query.joinLines limit))

end

variable {query} {limit : Option Int} {lead : String}

theorem stops_windowLines {kind : Char → Bool} (atLimit : Sql.stopsAt kind "\nLIMIT " = true)
    (atOffset : Sql.stopsAt kind "\nOFFSET " = true) : Stops kind (query.windowLines limit) :=
  Sql.stops_listed _ _ atLimit _ (Sql.stops_listed _ _ atOffset _ Sql.stops_nothing)

theorem not_starts_windowLines (filled : lead ≠ "") (limited : areApart lead "\nLIMIT " = true)
    (moved : areApart lead "\nOFFSET " = true) : ¬ Starts lead (query.windowLines limit) :=
  Sql.not_starts_listed _ _ limited _
    (Sql.not_starts_listed _ _ moved _ (Sql.not_starts_nothing filled))

theorem not_starts_orderLines (filled : lead ≠ "") (limited : areApart lead "\nLIMIT " = true)
    (moved : areApart lead "\nOFFSET " = true) (ordered : areApart lead "\nORDER BY " = true) :
    ¬ Starts lead (query.orderLines limit) :=
  Sql.not_starts_listed _ _ ordered _ (not_starts_windowLines filled limited moved)

theorem stops_conditionLines : Stops isRest (query.conditionLines limit) :=
  Sql.stops_listed _ _ (by decide) _
    (Sql.stops_listed _ _ (by decide) _ (stops_windowLines (by decide) (by decide)))

theorem not_starts_join : ¬ Starts "\nLEFT JOIN " (query.conditionLines limit) :=
  Sql.not_starts_listed _ _ (by decide +kernel) _
    (not_starts_orderLines (by decide) (by decide +kernel) (by decide +kernel) (by decide +kernel))

section

variable {first second : Query} {also : Option Int}

theorem windowLines_inj (same : first.windowLines limit = second.windowLines also) :
    limit = also ∧ first.offset? = second.offset? := by
  have ends (query : Query) : Stops Sql.isNumeral (Sql.numbered "\nOFFSET " query.offset? ++ "") ∧
      ¬ Starts "\nLIMIT " (Sql.numbered "\nOFFSET " query.offset? ++ "") :=
    ⟨Sql.stops_listed _ _ (by decide) _ Sql.stops_nothing,
      Sql.not_starts_listed _ _ (by decide +kernel) _ (Sql.not_starts_nothing (by decide))⟩
  have nothing : Stops Sql.isNumeral "" ∧ ¬ Starts "\nOFFSET " "" :=
    ⟨Sql.stops_nothing, Sql.not_starts_nothing (by decide)⟩
  obtain ⟨limits, tails⟩ := Sql.legible_numbered (by decide) (ends first) (ends second) same
  obtain ⟨offsets, -⟩ := Sql.legible_numbered (by decide) nothing nothing tails
  exact ⟨limits, offsets⟩

theorem joinLines_inj (spelled : ∀ request ∈ first.relations, request.Spelled)
    (alsoSpelled : ∀ request ∈ second.relations, request.Spelled)
    (generator : first.setup.generator = second.setup.generator)
    (same : first.joinLines limit = second.joinLines also) :
    (first.relations.filter (fun request => request.mode == .single)).map
        (fun request => request.relation.tie) =
      (second.relations.filter (fun request => request.mode == .single)).map
        (fun request => request.relation.tie) ∧
    first.conditionLines limit = second.conditionLines also := by
  have ends (query : Query) (limit : Option Int) :
      Ends (Stops isRest) "\nLEFT JOIN " "\nLEFT JOIN " (query.conditionLines limit) :=
    ⟨stops_conditionLines, not_starts_join, not_starts_join⟩
  unfold joinLines at same
  rw [generator] at same
  exact (Generator.legible_joinText _).listed (fun t => stops_append (by decide) t)
    (fun request inside => spelled request (List.mem_filter.1 inside).1)
    (fun request inside => alsoSpelled request (List.mem_filter.1 inside).1)
    (ends first limit) (ends second also) same

variable (aliased : first.setup.baseAlias = second.setup.baseAlias)
  (base : isSafe second.setup.baseAlias = true) (checked : first.Checked)
  (alsoChecked : second.Checked)

include aliased base checked alsoChecked

theorem orderLines_inj (same : first.orderLines limit = second.orderLines also) :
    first.reading.orders = second.reading.orders ∧ limit = also ∧
      first.offset? = second.offset? := by
  have ends (query : Query) (limit : Option Int) :
      Ends (Stops isRest) "\nORDER BY " ", " (query.windowLines limit) :=
    ⟨stops_windowLines (by decide) (by decide),
      not_starts_windowLines (by decide) (by decide +kernel) (by decide +kernel),
      not_starts_windowLines (by decide) (by decide +kernel) (by decide +kernel)⟩
  unfold orderLines at same
  rw [aliased] at same
  obtain ⟨orders, tails⟩ := (Sql.legible_ordering (Identifier.wide_of_isSafe base)).listed
    (fun t => stops_append (by decide) t) checked.orders alsoChecked.orders (ends first limit)
    (ends second also) same
  obtain ⟨limits, offsets⟩ := windowLines_inj tails
  simp only [reading, aliased]
  exact ⟨orders, limits, offsets⟩

theorem conditionLines_inj (same : first.conditionLines limit = second.conditionLines also) :
    first.reading.filters = second.reading.filters ∧
      first.reading.orders = second.reading.orders ∧ limit = also ∧
      first.offset? = second.offset? := by
  have ends (query : Query) (limit : Option Int) :
      Ends (fun _ => True) "\nWHERE " " AND " (query.orderLines limit) :=
    ⟨trivial, not_starts_orderLines (by decide) (by decide +kernel) (by decide +kernel)
        (by decide +kernel),
      not_starts_orderLines (by decide) (by decide +kernel) (by decide +kernel)
        (by decide +kernel)⟩
  unfold conditionLines at same
  rw [aliased] at same
  obtain ⟨filters, tails⟩ := (Sql.legible_condition (Identifier.wide_of_isSafe base)).listed
    (fun _ => trivial) checked.filters alsoChecked.filters (ends first limit) (ends second also)
    same
  refine ⟨?_, orderLines_inj aliased base checked alsoChecked tails⟩
  simp only [reading, aliased]
  exact filters

variable (spelled : ∀ request ∈ first.relations, request.Spelled)
  (alsoSpelled : ∀ request ∈ second.relations, request.Spelled)
  (generator : first.setup.generator = second.setup.generator)
  (table : first.setup.table = second.setup.table)

include spelled alsoSpelled generator table

theorem itemLines_inj (same : first.itemLines limit = second.itemLines also) :
    first.relations.map Request.reading = second.relations.map Request.reading ∧
      first.reading.filters = second.reading.filters ∧
      first.reading.orders = second.reading.orders ∧ limit = also ∧
      first.offset? = second.offset? := by
  have ends (t : String) : Ends (Stops isRest) Sql.itemBreak Sql.itemBreak (" FROM " ++ t) :=
    ⟨stops_append (by decide) _, Sql.not_starts_append (by decide +kernel) _,
      Sql.not_starts_append (by decide +kernel) _⟩
  unfold itemLines at same
  rw [generator] at same
  obtain ⟨items, tails⟩ := (Generator.legible_item _).listed (fun t => stops_append (by decide) t)
    spelled alsoSpelled (ends _) (ends _) same
  rw [String.append_right_inj, table, aliased, String.append_right_inj] at tails
  obtain ⟨joins, tails⟩ := joinLines_inj spelled alsoSpelled generator tails
  exact ⟨Request.readings_eq items joins, conditionLines_inj aliased base checked alsoChecked tails⟩

end

theorem windowText_eq_lines {lines : String} {limit : Option Int}
    (rooted : query.setup.baseQuery?.isNone = true)
    (chosen : query.emittedLimit = (limit.map Value.int).getD .null)
    (written : query.windowText query.window = .ok lines) : lines = query.windowLines limit := by
  unfold windowText at written
  simp only [rooted, if_true] at written
  obtain ⟨limitLine, limited, written⟩ := Outcome.bind_eq_ok written
  obtain ⟨offsetLine, moved, written⟩ := Outcome.bind_eq_ok written
  cases written
  have emitted : query.window.effectiveLimit query.setup.generator.dialect.offsetOnlyLimit =
      (limit.map Value.int).getD .null := chosen
  rw [emitted] at limited
  rw [Sql.numberLine_eq limited, Sql.numberLine_eq moved, windowLines, String.append_empty]
  rfl

theorem Composed.text_eq {statement : BoundStatement} {limit : Option Int}
    (composed : query.Composed) (rooted : query.setup.baseQuery? = none)
    (chosen : query.emittedLimit = (limit.map Value.int).getD .null)
    (built : query.build query.window = .ok statement) :
    statement.text = "SELECT " ++ (query.setup.baseAlias ++ ".*" ++ query.itemLines limit) := by
  obtain ⟨source, sourced, -, lines, written, text⟩ := composed.build_eq_ok built
  have alone : query.setup.baseQuery?.isNone = true := by rw [rooted, Option.isNone_none]
  have source_eq : source.text = query.setup.table ++ " " ++ query.setup.baseAlias := by
    simp only [Query.source, rooted] at sourced
    cases sourced
    rfl
  have order : query.orderText =
      Sql.listed "\nORDER BY " ", " (Sql.ordering query.setup.baseAlias) query.orders := by
    unfold orderText Sql.orderings
    rw [if_pos alone, Sql.clauseLine_eq_listed]
    · rfl
    · intro order _
      simp [Sql.ordering]
  have condition : Sql.clauseLine "WHERE " (Sql.conditions query.filters query.setup.baseAlias) =
      Sql.listed "\nWHERE " " AND " (Sql.condition query.setup.baseAlias) query.filters := by
    unfold Sql.conditions
    rw [Sql.clauseLine_eq_listed]
    · rfl
    · intro filter _
      simp [Sql.condition]
  rw [text, Sql.intercalate_cons_eq_listed, source_eq, condition, order,
    query.setup.generator.joins_eq_listed, windowText_eq_lines alone chosen written, itemLines,
    joinLines, conditionLines, orderLines]
  simp only [String.append_assoc, Sql.itemBreak]

/-- Cut at the breaks between its items, the select list of a text gives the columns of the root
and an item for each request, in order, with the key under which its value is found at its end. -/
def Itemized (query : Query) (text : String) : Prop :=
  ∃ selectList items rest, query.selectList = .ok selectList ∧
    text = "SELECT " ++ selectList ++ " FROM " ++
      (query.setup.table ++ " " ++ query.setup.baseAlias ++ rest) ∧
    Sql.pieces Sql.itemBreak selectList = (query.setup.baseAlias ++ ".*") :: items ∧
    List.Forall₂ (fun item request => Generator.EndsNamed request.outputKey item) items
      query.relations

theorem Composed.itemized {text : String} {limit : Option Int} (composed : query.Composed)
    (builtin : query.setup.generator.dialect ∈ Dialect.builtin.map Prod.snd)
    (base : isSafe query.setup.baseAlias = true)
    (rootAlias : isSafe query.setup.generator.baseAlias = true)
    (spelled : ∀ request ∈ query.relations, request.Spelled)
    (written : text = "SELECT " ++ (query.setup.baseAlias ++ ".*" ++ query.itemLines limit)) :
    query.Itemized text := by
  have list_eq : query.columnsText = query.setup.baseAlias ++ ".*" ++
      Sql.listed Sql.itemBreak Sql.itemBreak query.setup.generator.item query.relations :=
    Sql.intercalate_cons_eq_listed _ _ _ _
  refine ⟨query.columnsText, query.relations.map query.setup.generator.item, query.joinLines limit,
    selectList_eq composed.presentable, ?_, ?_, ?_⟩
  · rw [written, list_eq, itemLines]
    simp only [String.append_assoc]
  · have all : Sql.Spaced ".*" := by decide
    rw [list_eq]
    exact Sql.pieces_listed
      ((Sql.spaced_of_consists (by decide) (Identifier.wide_of_isSafe base)).append all)
      (fun request inside => Generator.spaced_item builtin rootAlias (spelled request inside))
  · rw [List.forall₂_map_left_iff]
    exact List.forall₂_same.2 (fun request _ => query.setup.generator.item_ends request)

end Query

structure Compilation where
  {σ : Type}
  hydrators : HydratorSource
  link : Link σ
  setup : QuerySetup
  world : σ
  calls : List Call
  awaits : Bool
  statement : BoundStatement
  done : ((Session.opened setup world).run hydrators link calls).outcome hydrators link
    (.compile awaits) = .ok (.statement statement)

namespace Compilation

variable {generator : Generator} {table baseAlias : String} {compiled : Compilation}

def query (compiled : Compilation) : Query :=
  (((Session.opened compiled.setup compiled.world).run compiled.hydrators compiled.link
    compiled.calls).call compiled.hydrators compiled.link (.compile compiled.awaits)).query

/-- Compiled over a root table, with columns that go by safe names. -/
structure Over (generator : Generator) (table baseAlias : String) (compiled : Compilation) :
    Prop where
  generator : compiled.setup.generator = generator
  table : compiled.setup.table = table
  baseAlias : compiled.setup.baseAlias = baseAlias
  rooted : compiled.setup.baseQuery? = none
  columns : ∀ request ∈ compiled.query.relations, ∀ column ∈ request.writtenColumns,
    isSafe column.display = true

theorem setup_eq (compiled : Compilation) : compiled.query.setup = compiled.setup :=
  (Session.setup_kept _ [.compile compiled.awaits]).trans
    (Session.setup_run compiled.hydrators compiled.link compiled.setup compiled.world
      compiled.calls)

theorem composed (compiled : Compilation) : compiled.query.Composed :=
  Session.composed_run (.run compiled.hydrators compiled.link compiled.setup compiled.world
    compiled.calls) [.compile compiled.awaits]

theorem checked (compiled : Compilation) : compiled.query.Checked := by
  have checked := Query.Checked.run compiled.hydrators compiled.link compiled.setup compiled.world
    (compiled.calls ++ [.compile compiled.awaits])
  rwa [Session.run_append] at checked

theorem Over.spelled (fit : compiled.Over generator table baseAlias) :
    ∀ request ∈ compiled.query.relations, request.Spelled := by
  intro request inside
  exact (compiled.composed.registered request inside).spelled (fit.columns request inside)

theorem Over.text_eq (fit : compiled.Over generator table baseAlias)
    (builtin : generator.dialect ∈ Dialect.builtin.map Prod.snd) :
    ∃ limit : Option Int, compiled.query.emittedLimit = (limit.map Value.int).getD .null ∧
      compiled.statement.text =
        "SELECT " ++ (baseAlias ++ ".*" ++ compiled.query.itemLines limit) := by
  obtain ⟨built, -, -⟩ := Session.compiled_build compiled.done
  have dialect : compiled.query.setup.generator.dialect ∈ Dialect.builtin.map Prod.snd := by
    rwa [compiled.setup_eq, fit.generator]
  have rooted : compiled.query.setup.baseQuery? = none := by
    rw [compiled.setup_eq, fit.rooted]
  obtain ⟨limit, chosen⟩ := Query.emittedLimit_eq dialect
  have text := compiled.composed.text_eq rooted chosen built
  rw [compiled.setup_eq, fit.baseAlias] at text
  exact ⟨limit, chosen, text⟩

theorem Over.reading_eq {first second : Compilation} (fit : first.Over generator table baseAlias)
    (also : second.Over generator table baseAlias)
    (builtin : generator.dialect ∈ Dialect.builtin.map Prod.snd) (base : isSafe baseAlias = true)
    (same : first.statement.text = second.statement.text) :
    first.query.reading = second.query.reading := by
  obtain ⟨limit, chosen, text⟩ := fit.text_eq builtin
  obtain ⟨limit', chosen', text'⟩ := also.text_eq builtin
  rw [text, text', String.append_right_inj, String.append_right_inj] at same
  have aliased : first.query.setup.baseAlias = second.query.setup.baseAlias := by
    rw [first.setup_eq, second.setup_eq, fit.baseAlias, also.baseAlias]
  have safe : isSafe second.query.setup.baseAlias = true := by
    rwa [second.setup_eq, also.baseAlias]
  have generators : first.query.setup.generator = second.query.setup.generator := by
    rw [first.setup_eq, second.setup_eq, fit.generator, also.generator]
  have tables : first.query.setup.table = second.query.setup.table := by
    rw [first.setup_eq, second.setup_eq, fit.table, also.table]
  obtain ⟨requests, filters, orders, rfl, offset⟩ := Query.itemLines_inj aliased safe
    first.checked second.checked fit.spelled also.spelled generators tables same
  have limits : first.query.emittedLimit = second.query.emittedLimit := chosen.trans chosen'.symm
  unfold Query.reading at filters orders ⊢
  simp only at filters orders ⊢
  rw [requests, filters, orders, limits, offset]

theorem Over.itemized (fit : compiled.Over generator table baseAlias)
    (builtin : generator.dialect ∈ Dialect.builtin.map Prod.snd) (base : isSafe baseAlias = true)
    (rootAlias : isSafe generator.baseAlias = true) :
    compiled.query.Itemized compiled.statement.text := by
  obtain ⟨limit, -, text⟩ := fit.text_eq builtin
  have same := compiled.setup_eq
  rw [← fit.baseAlias, ← same] at text
  refine compiled.composed.itemized ?_ ?_ ?_ fit.spelled text
  · rwa [same, fit.generator]
  · rwa [same, fit.baseAlias]
  · rwa [same, fit.generator]

end Compilation

/-- The text of a compiled query over a root table tells the query: its relations with their modes,
keys, columns and tables, its filters, orders, limit and offset. It can be decoded, and cutting its
select list gives the items of the relations in order. -/
theorem compiled_text_tells {generator : Generator} {table baseAlias : String}
    (builtin : generator.dialect ∈ Dialect.builtin.map Prod.snd) (base : isSafe baseAlias = true)
    (rootAlias : isSafe generator.baseAlias = true) :
    (∀ first second : Compilation, first.Over generator table baseAlias →
      second.Over generator table baseAlias → first.statement.text = second.statement.text →
        first.query.reading = second.query.reading) ∧
    ∃ decode : String → Option Query.Reading, ∀ compiled : Compilation,
      compiled.Over generator table baseAlias →
        decode compiled.statement.text = some compiled.query.reading ∧
          compiled.query.Itemized compiled.statement.text := by
  have told : ∀ first second : Compilation, first.Over generator table baseAlias →
      second.Over generator table baseAlias → first.statement.text = second.statement.text →
        first.query.reading = second.query.reading :=
    fun _ _ fit also same => fit.reading_eq also builtin base same
  -- Readings depend on texts alone, so they are a function of them.
  have factors : Function.FactorsThrough
      (fun compiled : { compiled : Compilation // compiled.Over generator table baseAlias } =>
        some compiled.1.query.reading)
      (fun compiled => compiled.1.statement.text) :=
    fun first second same => congrArg some (told _ _ first.2 second.2 same)
  obtain ⟨decode, decoded⟩ := (Function.factorsThrough_iff _).1 factors
  refine ⟨told, decode, fun compiled fit => ⟨?_, fit.itemized builtin base rootAlias⟩⟩
  exact (congrFun decoded ⟨compiled, fit⟩).symm

def statementText? : Outcome Answer → Option String
  | .ok (.statement statement) => some statement.text
  | _ => none

theorem exists_of_statementText? {outcome : Outcome Answer} {text : String}
    (shown : statementText? outcome = some text) :
    ∃ statement, outcome = .ok (.statement statement) ∧ statement.text = text := by
  unfold statementText? at shown
  split at shown
  · exact ⟨_, rfl, Option.some.inj shown⟩
  · cases shown

def titledLink : Link Unit := ⟨none, some (.fixed (fun _ => [.text "id", .text "title"]))⟩

/-- Three relations, a filter, an order and a window, with columns that have to be found out. -/
def unnamedCalls : List Call :=
  [.attach .single (.text "profile") (.text "*"),
    .attach .collection (.text "promocodes") (.list [.text "code"]),
    .attach .count (.text "promocodes") .null, .filter (.text "name") (.text "=") (.text "Zoë"),
    .orderBy (.text "name") (.text "desc"), .limit (.int 10), .offset (.int 20)]

def namedCalls : List Call :=
  [.offset (.int 20), .orderBy (.text "base.name") (.text "DESC"),
    .filter (.text "base.name") (.text " = ") (.int 7),
    .attach .single (.text "profile") (.list [.text "id", .text "title"]),
    .attach .collection (.text "promocodes") (.list [.text "code", .text "code"]),
    .attach .count (.text "promocodes") .null, .limit (.int 10)]

def partnersAfter (link : Link Unit) (calls : List Call) : Session Unit :=
  (Session.opened (partnersUnder "base") ()).run ⟨HydratorRegistry.initial, []⟩ link calls

theorem partners_tell {link : Link Unit} {calls : List Call} {awaits : Bool} {text : String}
    (shown : statementText? ((partnersAfter link calls).outcome ⟨HydratorRegistry.initial, []⟩ link
      (.compile awaits)) = some text)
    (safe : ∀ request ∈ ((partnersAfter link calls).call ⟨HydratorRegistry.initial, []⟩ link
      (.compile awaits)).query.relations,
      ∀ column ∈ request.writtenColumns, isSafe column.display = true) :
    ∃ compiled : Compilation, compiled.calls = calls ∧
      compiled.Over ⟨.mysql, "base"⟩ "partners" "base" ∧ compiled.statement.text = text := by
  obtain ⟨statement, done, same⟩ := exists_of_statementText? shown
  exact ⟨⟨⟨HydratorRegistry.initial, []⟩, link, partnersUnder "base", (), calls, awaits, statement,
    done⟩, rfl, ⟨rfl, rfl, rfl, rfl, safe⟩, same⟩

theorem compiled_text_tells_documents :
    ∃ first second : Compilation, first.calls = unnamedCalls ∧ second.calls = namedCalls ∧
      first.Over ⟨.mysql, "base"⟩ "partners" "base" ∧
      second.Over ⟨.mysql, "base"⟩ "partners" "base" ∧
      first.statement.text = second.statement.text ∧
      first.query.reading = second.query.reading := by
  let text := "SELECT base.*,\n       CASE WHEN profile.id IS NULL THEN NULL ELSE " ++
    "JSON_OBJECT('id', profile.id, 'title', profile.title) END AS profile,\n       " ++
    "(SELECT COALESCE(JSON_ARRAYAGG(JSON_OBJECT('code', promocodes.code)), JSON_ARRAY()) FROM " ++
    "promocodes WHERE promocodes.partner_id = base.id) AS promocodes,\n       " ++
    "(SELECT COUNT(*) FROM promocodes WHERE promocodes.partner_id = base.id) AS " ++
    "promocodes_count FROM partners base\nLEFT JOIN profiles profile ON profile.id = " ++
    "base.profile_id\nWHERE base.name = ?\nORDER BY base.name DESC\nLIMIT 10\nOFFSET 20"
  have found : statementText? ((partnersAfter titledLink unnamedCalls).outcome
      ⟨HydratorRegistry.initial, []⟩ titledLink (.compile false)) = some text := by
    decide +kernel
  have named : statementText? ((partnersAfter ⟨none, none⟩ namedCalls).outcome
      ⟨HydratorRegistry.initial, []⟩ ⟨none, none⟩ (.compile true)) = some text := by
    decide +kernel
  obtain ⟨first, made, admitted, same⟩ := partners_tell found (by decide +kernel)
  obtain ⟨second, also, fits, equal⟩ := partners_tell named (by decide +kernel)
  have texts : first.statement.text = second.statement.text := same.trans equal.symm
  exact ⟨first, second, made, also, admitted, fits, texts,
    (compiled_text_tells List.mem_cons_self (by decide) (by decide)).1 _ _ admitted fits texts⟩

end NestedSelect
