import NestedSelect.Connection.Facade
import NestedSelect.Proofs.Query.Fragments
import NestedSelect.Proofs.Query.Recording

/-!
The placeholders of the statements of a query.

What is built of a query over safe names has one value for each placeholder: those of the base
query, and then those of the filters in order. The base query itself has to have its own in order.
-/

namespace NestedSelect

open Sql (BoundStatement Closed LinesUp Plain Window)
open Identifier (IsSafe isSafe)
open Query

variable {σ : Type}

/-- A setup for a built-in dialect whose names are safe. A base query, once it is written out,
ends outside quotes and has a value for each of its placeholders. -/
structure QuerySetup.Plainly (setup : QuerySetup) : Prop where
  builtin : setup.generator.dialect ∈ Dialect.builtin.map Prod.snd
  table : isSafe setup.table = true
  baseAlias : isSafe setup.baseAlias = true
  rootAlias : isSafe setup.generator.baseAlias = true
  based : ∀ base rendered, setup.baseQuery? = some base →
    Sql.renderBaseQuery setup.schema setup.generator.dialect base = .ok rendered →
      Closed rendered.text rendered.values.length

def QuerySetup.baseValues (setup : QuerySetup) : List Value :=
  match setup.baseQuery? with
  | none => []
  | some base =>
      match Sql.renderBaseQuery setup.schema setup.generator.dialect base with
      | .ok rendered => rendered.values
      | .error _ => []

structure Request.PlainTexts (request : Request) : Prop where
  relation : request.relation.PlainTexts
  outputKey : Plain request.outputKey
  columns : ∀ column ∈ request.writtenColumns, Plain column.display

structure Query.Checked (query : Query) : Prop where
  filters : ∀ filter ∈ query.filters, IsSafe filter.column ∧ filter.operator ∈ allowedOperators
  orders : ∀ order ∈ query.orders, IsSafe order.column ∧ order.direction ∈ directions

theorem OrderTerm.make_eq_ok {column direction : Value} {made : OrderTerm}
    (done : OrderTerm.make column direction = .ok made) :
    Identifier.ensure column = .ok made.column ∧ made.direction ∈ directions := by
  obtain ⟨checked, named, done⟩ := Outcome.bind_eq_ok done
  obtain ⟨shown, _, done⟩ := Outcome.bind_eq_ok done
  simp only at done
  split at done
  · rename_i known
    have same := Except.ok.inj done
    subst same
    exact ⟨named, known⟩
  · exact absurd done Outcome.bind_error_ne_ok

namespace Query

variable {link : Link σ} {query later : Query} {world after : σ}

theorem Checked.advance {call : Call} {outcome : Outcome Answer} (checked : query.Checked)
    (step : Advance link query world call outcome later after) : later.Checked := by
  cases step with
  | attached => exact ⟨checked.filters, checked.orders⟩
  | filtered made =>
      refine ⟨?_, checked.orders⟩
      intro filter member
      rcases List.mem_append.1 member with inside | last
      · exact checked.filters filter inside
      · rw [List.mem_singleton.1 last]
        obtain ⟨named, allowed, _⟩ := Filter.make_eq_ok made
        exact ⟨Identifier.ensure_isSafe named, allowed⟩
  | ordered made =>
      refine ⟨checked.filters, ?_⟩
      intro order member
      rcases List.mem_append.1 member with inside | last
      · exact checked.orders order inside
      · rw [List.mem_singleton.1 last]
        obtain ⟨named, known⟩ := OrderTerm.make_eq_ok made
        exact ⟨Identifier.ensure_isSafe named, known⟩
  | limited => exact ⟨checked.filters, checked.orders⟩
  | moved => exact ⟨checked.filters, checked.orders⟩
  | refused => exact ⟨checked.filters, checked.orders⟩
  | read _ done =>
      obtain ⟨_, filters, orders, _⟩ := done.frame
      refine ⟨?_, ?_⟩
      · rw [filters]
        exact checked.filters
      · rw [orders]
        exact checked.orders

theorem Checked.run (hydrators : HydratorSource) (link : Link σ) (setup : QuerySetup) (world : σ)
    (calls : List Call) :
    Checked ((Session.opened setup world).run hydrators link calls).query :=
  Session.run_preserves (fun session => Checked session.query)
    (fun session call checked => checked.advance (session.call_advance call))
    ⟨List.forall_mem_nil _,
      List.forall_mem_nil _⟩ calls

theorem source_values {source : BoundStatement} (sourced : query.source = .ok source) :
    source.values = query.setup.baseValues := by
  unfold Query.source at sourced
  unfold QuerySetup.baseValues
  simp only at sourced
  cases based : query.setup.baseQuery? with
  | none =>
      rw [based] at sourced
      cases sourced
      rfl
  | some base =>
      rw [based] at sourced
      obtain ⟨rendered, written, sourced⟩ := Outcome.bind_eq_ok sourced
      cases sourced
      simp only [written]

theorem drafts_values {statement : BoundStatement} (drafted : query.Drafts statement) :
    statement.values = query.boundValues query.setup.baseValues := by
  cases drafted with
  | page window built =>
      obtain ⟨source, sourced, built⟩ := Outcome.bind_eq_ok built
      obtain ⟨_, _, built⟩ := Outcome.bind_eq_ok built
      obtain ⟨_, _, built⟩ := Outcome.bind_eq_ok built
      obtain ⟨_, _, built⟩ := Outcome.bind_eq_ok built
      cases built
      rw [source_values sourced]
  | count built =>
      obtain ⟨source, sourced, built⟩ := Outcome.bind_eq_ok built
      obtain ⟨_, _, built⟩ := Outcome.bind_eq_ok built
      obtain ⟨_, _, built⟩ := Outcome.bind_eq_ok built
      cases built
      rw [source_values sourced]

theorem closed_source (plainly : query.setup.Plainly) {source : BoundStatement}
    (sourced : query.source = .ok source) : Closed source.text source.values.length := by
  have root := Identifier.plain_of_isSafe plainly.baseAlias
  unfold Query.source at sourced
  simp only at sourced
  cases based : query.setup.baseQuery? with
  | none =>
      rw [based] at sourced
      cases sourced
      have table := Identifier.plain_of_isSafe plainly.table
      exact (table.closed.append Sql.closed_blank).append root.closed
  | some base =>
      rw [based] at sourced
      obtain ⟨rendered, written, sourced⟩ := Outcome.bind_eq_ok sourced
      cases sourced
      have inner := plainly.based base rendered based written
      have open_ : Closed "(" 0 := by decide
      have close : Closed ") " 0 := by decide
      have whole := ((open_.append inner).append close).append root.closed
      simp only [Nat.zero_add, Nat.add_zero] at whole
      exact whole

section

variable (plainly : query.setup.Plainly) (checked : query.Checked)
  (requests : ∀ request ∈ query.relations, request.PlainTexts)

include plainly requests

theorem closed_columnsText : Closed query.columnsText 0 := by
  have items : ∀ part ∈ (query.setup.baseAlias ++ ".*") ::
      query.relations.map query.setup.generator.item, Closed part 0 := by
    intro part member
    rcases List.mem_cons.1 member with rfl | inside
    · have all : Closed ".*" 0 := by decide
      exact (Identifier.plain_of_isSafe plainly.baseAlias).closed.append all
    · obtain ⟨request, there, rfl⟩ := List.mem_map.1 inside
      have texts := requests request there
      exact Generator.closed_item (Dialect.closedTexts plainly.builtin) texts.relation
        (Identifier.plain_of_isSafe plainly.rootAlias) texts.outputKey texts.columns
  have comma : Closed ",\n       " 0 := by decide
  exact comma.intercalate items

theorem closed_joins :
    Closed (String.intercalate "\n" (query.setup.generator.joins query.relations)) 0 := by
  have parts : ∀ part ∈ query.setup.generator.joins query.relations, Closed part 0 := by
    intro part member
    obtain ⟨request, there, rfl⟩ := List.mem_map.1 member
    exact Generator.closed_join (Dialect.closedTexts plainly.builtin)
      (requests request (List.mem_filter.1 there).1).relation
      (Identifier.plain_of_isSafe plainly.rootAlias)
  exact Sql.closed_line.intercalate parts

include checked

theorem closed_body {source : BoundStatement} (sourced : query.source = .ok source) :
    Closed (query.body source.text) (query.boundValues source.values).length := by
  have empty : Closed "" 0 := by decide
  have word : Closed "WHERE " 0 := by decide
  have conditions := Sql.closed_conditions (Identifier.plain_of_isSafe plainly.baseAlias)
    (fun filter inside => ⟨Identifier.plain_of_IsSafe (checked.filters filter inside).1,
      (checked.filters filter inside).2⟩)
  have whole := ((closed_source plainly sourced).append
    (Sql.closed_clauseLine empty (closed_joins plainly requests))).append
    (Sql.closed_clauseLine word conditions)
  rw [boundValues, List.length_append, Sql.conditionValues, List.length_map]
  exact whole

omit requests

theorem closed_orderText : Closed query.orderText 0 := by
  unfold orderText
  split
  · have word : Closed "ORDER BY " 0 := by decide
    exact Sql.closed_clauseLine word
      (Sql.closed_orderings (Identifier.plain_of_isSafe plainly.baseAlias)
        (fun order inside => ⟨Identifier.plain_of_IsSafe (checked.orders order inside).1,
          (checked.orders order inside).2⟩))
  · decide

omit plainly checked

theorem closed_windowText {window : Window} {text : String}
    (written : query.windowText window = .ok text) : Closed text 0 := by
  obtain ⟨limit, first, written⟩ := Outcome.bind_eq_ok written
  obtain ⟨offset, second, written⟩ := Outcome.bind_eq_ok written
  cases written
  have limited : Closed "LIMIT" 0 := by decide
  have moved : Closed "OFFSET" 0 := by decide
  exact (Sql.closed_numberLine limited first).append (Sql.closed_numberLine moved second)

end

theorem closed_drafts {statement : BoundStatement} (plainly : query.setup.Plainly)
    (checked : query.Checked) (requests : ∀ request ∈ query.relations, request.PlainTexts)
    (fit : ∀ request ∈ query.relations, request.Presentable) (drafted : query.Drafts statement) :
    Closed statement.text statement.values.length := by
  cases drafted with
  | page window built =>
      rw [build_eq fit] at built
      obtain ⟨source, sourced, built⟩ := Outcome.bind_eq_ok built
      obtain ⟨lines, written, built⟩ := Outcome.bind_eq_ok built
      cases built
      have select : Closed "SELECT " 0 := by decide
      have from_ : Closed " FROM " 0 := by decide
      have whole := ((((select.append (closed_columnsText plainly requests)).append
        from_).append (closed_body plainly checked requests sourced)).append
        (closed_orderText plainly checked)).append (closed_windowText written)
      simp only [Nat.zero_add, Nat.add_zero] at whole
      exact whole
  | count built =>
      rw [buildCount_eq fit] at built
      obtain ⟨source, sourced, built⟩ := Outcome.bind_eq_ok built
      cases built
      have select : Closed "SELECT COUNT(*) AS aggregate FROM " 0 := by decide
      have whole := select.append (closed_body plainly checked requests sourced)
      rw [Nat.zero_add] at whole
      exact whole

end Query

def Request.FoundSafe (asked : Attachment) (request : Request) : Prop :=
  requestedColumns asked.mode asked.columns request.name = .ok .wildcard →
    ∀ columns, request.columns = .listed columns →
      ∀ column ∈ columns, isSafe column.display = true

theorem Request.AnswersTo.plainTexts {setup : QuerySetup} {asked : Attachment}
    {request : Request} (answers : request.AnswersTo asked) (registered : request.Registered setup)
    (found : request.FoundSafe asked) : request.PlainTexts := by
  have named := Identifier.plain_of_IsSafe registered.named
  refine ⟨registered.wellFormed.plainTexts registered.named, ?_, ?_⟩
  · have count : Plain "_count" := Sql.plain_of_all (by decide)
    unfold outputKey
    split
    · exact named.append count
    · exact named
    · exact named
  · obtain ⟨columns, wanted, form⟩ := answers.columns
    unfold writtenColumns
    generalize given : request.columns = written at form ⊢
    generalize asked.mode = mode at form
    cases form with
    | counted => exact List.forall_mem_nil _
    | @named _ names _ _ _ safe =>
        intro column member
        obtain ⟨name, inside, rfl⟩ := List.mem_map.1 member
        exact Identifier.plain_of_IsSafe (safe name inside)
    | waiting =>
        have star : Plain "*" := Sql.plain_of_all (by decide)
        intro column member
        rw [List.mem_singleton.1 member]
        exact star
    | found _ first rest =>
        intro column member
        exact Identifier.plain_of_isSafe (found wanted _ given column member)

theorem Request.plainTexts_of_answers {setup : QuerySetup} {asked : List Attachment}
    {requests : List Request} (answers : List.Forall₂ (fun asked request => AnswersTo asked request)
      asked requests)
    (found : List.Forall₂ FoundSafe asked requests)
    (registered : ∀ request ∈ requests, request.Registered setup) :
    ∀ request ∈ requests, request.PlainTexts := by
  induction answers with
  | nil => exact List.forall_mem_nil _
  | cons first _ ih =>
      cases found with
      | cons safe others =>
          have rest := ih others
            (fun other there => registered other (List.mem_cons_of_mem _ there))
          intro request member
          rcases List.mem_cons.1 member with rfl | inside
          · exact first.plainTexts (registered _ List.mem_cons_self) safe
          · exact rest request inside

/-- A statement whose values are those of the base query and of some filters, one for each
placeholder. A connection can always run it. -/
structure QuerySetup.Binds (setup : QuerySetup) (filterValues : List Value)
    (statement : BoundStatement) : Prop where
  values_eq : statement.values = setup.baseValues ++ filterValues
  linesUp : LinesUp statement.text statement.values
  runs : ∀ {τ : Type} (connection : Connection τ), ∃ named,
    Sql.nameBinds statement.text statement.values = .ok named ∧
      connection.execute statement.text statement.values = connection.send named

theorem QuerySetup.binds_of_closed {setup : QuerySetup} {filterValues : List Value}
    {statement : BoundStatement} (values_eq : statement.values = setup.baseValues ++ filterValues)
    (closed : Closed statement.text statement.values.length) :
    setup.Binds filterValues statement := by
  have linesUp := Sql.linesUp_of_placeholders closed.placeholders_eq
  refine ⟨values_eq, linesUp, ?_⟩
  intro τ connection
  obtain ⟨named, bound, _⟩ := linesUp.binds
  refine ⟨named, bound, ?_⟩
  unfold Connection.execute
  rw [bound]
  rfl

def Call.showsStatement : Call → Bool
  | .compile _ | .text | .bindings => true
  | _ => false

/-- An answer in which the statement that it shows, in whole or in part, is as it should be. -/
inductive Answer.Shows (fits : BoundStatement → Prop) : Call → Answer → Prop where
  | statement {awaits : Bool} {statement : BoundStatement} (fit : fits statement) :
      Shows fits (.compile awaits) (.statement statement)
  | text {statement : BoundStatement} (fit : fits statement) :
      Shows fits .text (.text statement.text)
  | values {statement : BoundStatement} (fit : fits statement) :
      Shows fits .bindings (.items statement.values)
  | other {call : Call} {answered : Answer} (silent : call.showsStatement = false) :
      Shows fits call answered

theorem Answer.Shows.mono {fits wider : BoundStatement → Prop} {call : Call} {answered : Answer}
    (shows_ : Shows fits call answered)
    (weaken : ∀ statement, fits statement → wider statement) : Shows wider call answered := by
  cases shows_ with
  | statement fit => exact .statement (weaken _ fit)
  | text fit => exact .text (weaken _ fit)
  | values fit => exact .values (weaken _ fit)
  | other silent => exact .other silent

theorem Query.answer_shows {link : Link σ} {hydrators : HydratorSource} {query later : Query}
    {world after : σ} {call : Call} {answered : Answer}
    (done : answer hydrators link call query world = ((.ok answered, later), after)) :
    Answer.Shows later.Drafts call answered := by
  cases call with
  | compile awaits =>
      obtain ⟨result, compiled, same⟩ := work_answered done
      obtain ⟨statement, rfl, rfl⟩ := Outcome.map_eq_ok same.symm
      exact .statement (.page _ (compile_eq_ok compiled).2)
  | text =>
      obtain ⟨result, compiled, same⟩ := work_answered done
      obtain ⟨statement, rfl, rfl⟩ := Outcome.map_eq_ok same.symm
      exact .text (.page _ (compile_eq_ok compiled).2)
  | bindings =>
      obtain ⟨result, bound, same⟩ := work_answered (Work.of_get done)
      obtain ⟨values, rfl, rfl⟩ := Outcome.map_eq_ok same.symm
      obtain ⟨written, rfl, _⟩ := Work.lift_cases bound
      obtain ⟨statement, built, written⟩ := Outcome.bind_eq_ok written
      cases written
      exact .values (.page _ built)
  | attach => exact .other rfl
  | filter => exact .other rfl
  | orderBy => exact .other rfl
  | limit => exact .other rfl
  | offset => exact .other rfl
  | fetch => exact .other rfl
  | first => exact .other rfl
  | paginate => exact .other rfl

theorem Session.outcome_shows {hydrators : HydratorSource} {link : Link σ} (session : Session σ)
    {call : Call} {answered : Answer} (same : session.outcome hydrators link call = .ok answered) :
    Answer.Shows (session.call hydrators link call).query.Drafts call answered := by
  have done := session.answered hydrators link call
  rw [same] at done
  exact answer_shows done

theorem Session.filterValues_run (hydrators : HydratorSource) (link : Link σ)
    (setup : QuerySetup) (world : σ) (calls : List Call) :
    let session := (Session.opened setup world).run hydrators link calls
    session.query.filters.map Filter.value = accepted Call.filterValue? session.history :=
  Session.run_preserves
    (fun session => session.query.filters.map Filter.value =
      accepted Call.filterValue? session.history)
    (fun session call kept => (session.call_advance call).filterValues kept) rfl calls

/-- In every session of a query over safe names, everything that is built of it has one value for
each placeholder, provided that the columns that were found out are safe names. -/
theorem Session.drafts_bind (hydrators : HydratorSource) (link : Link σ) {setup : QuerySetup}
    (plainly : setup.Plainly) (world : σ) (calls : List Call)
    (found : List.Forall₂ Request.FoundSafe
      (accepted Call.attachment? ((opened setup world).run hydrators link calls).history)
      ((opened setup world).run hydrators link calls).query.relations)
    {statement : BoundStatement}
    (drafted : ((opened setup world).run hydrators link calls).query.Drafts statement) :
    setup.Binds
      (accepted Call.filterValue? ((opened setup world).run hydrators link calls).history)
      statement := by
  have same := setup_run hydrators link setup world calls
  have composed := Composed.run hydrators link setup world calls
  have checked := Checked.run hydrators link setup world calls
  have answers := answers_run hydrators link setup world calls
  have values := filterValues_run hydrators link setup world calls
  generalize (opened setup world).run hydrators link calls = session at *
  have requests := Request.plainTexts_of_answers answers found composed.registered
  rw [← same] at plainly ⊢
  have closed := closed_drafts plainly checked requests composed.presentable drafted
  refine QuerySetup.binds_of_closed ?_ closed
  rw [drafts_values drafted, boundValues, Sql.conditionValues, values]

/-- Placeholders and values always line up. In every session of a query over safe names, whatever
was called and whatever came of it: what is built of the query after a call, what is sent during
the call, and what the call shows of a statement has the values of the base query and then those
of the filters in order, one for each placeholder. Running it never fails for want of one. -/
theorem placeholders_line_up (hydrators : HydratorSource) (link : Link σ) (setup : QuerySetup)
    (plainly : setup.Plainly) (world : σ) (calls : List Call) (call : Call)
    (found :
      let next := ((Session.opened setup ⟨world, []⟩).run hydrators (Recorded.link link) calls).call
        hydrators (Recorded.link link) call
      List.Forall₂ Request.FoundSafe (accepted Call.attachment? next.history)
        next.query.relations) :
    let session := (Session.opened setup ⟨world, []⟩).run hydrators (Recorded.link link) calls
    let next := session.call hydrators (Recorded.link link) call
    let binds := setup.Binds (accepted Call.filterValue? next.history)
    (∀ statement, next.query.Drafts statement → binds statement) ∧
    (∃ sent, next.world.sent = session.world.sent ++ sent ∧ ∀ statement ∈ sent, binds statement) ∧
    (∀ answered, session.outcome hydrators (Recorded.link link) call = .ok answered →
      Answer.Shows binds call answered) := by
  intro session next binds
  have reached : next = (Session.opened setup ⟨world, []⟩).run hydrators (Recorded.link link)
      (calls ++ [call]) := (Session.run_append _ calls [call]).symm
  have drafts : ∀ statement, next.query.Drafts statement → binds statement := by
    intro statement drafted
    have fit := Session.drafts_bind hydrators (Recorded.link link) plainly ⟨world, []⟩
      (calls ++ [call])
    rw [← reached] at fit
    exact fit found drafted
  refine ⟨drafts, ?_, ?_⟩
  · have composed : session.query.Composed := .run hydrators (Recorded.link link) setup _ calls
    obtain ⟨sent, grown, drafted, _⟩ :=
      Recorded.sent_advance composed (session.call_advance call)
    exact ⟨sent, grown, fun statement inside => drafts statement (drafted statement inside)⟩
  · intro answered same
    exact (session.outcome_shows same).mono drafts

/-- Partners with their promocodes, which no model is known for, in a setup with a base query. -/
def partnersOverQuery : QuerySetup :=
  { schema := ⟨[⟨"Partner", "shop", some "partners", none, false, [], [], [],
      [("promocodes", .described ⟨"has-many", .table "promocodes", some "partner_id", none,
        some "id", none⟩)]⟩], .ofLists⟩
    root := .model "Partner"
    table := "partners"
    baseAlias := "base"
    generator := ⟨.mysql, "base"⟩
    matchers := []
    baseQuery? := some (.value (.tuple
      [.text "SELECT * FROM partners WHERE note <> '?' AND score > ?", .list [.int 3]]))
    config := { columnCache := [("promocodes", [.text "id", .text "code"])] } }

theorem placeholders_line_up_partners :
    let hydrators : HydratorSource := ⟨HydratorRegistry.initial, []⟩
    let session := (Session.opened partnersOverQuery ⟨(), []⟩).run hydrators
      (Recorded.link ⟨none, none⟩)
      [.attach .collection (.text "promocodes") (.text "*"),
        .filter (.text "status") (.text "=") (.text "new")]
    let next := session.call hydrators (Recorded.link ⟨none, none⟩) (.compile false)
    partnersOverQuery.Plainly ∧
    List.Forall₂ Request.FoundSafe (accepted Call.attachment? next.history) next.query.relations ∧
    ∀ statement, next.query.Drafts statement →
      partnersOverQuery.Binds [.text "new"] statement := by
  intro hydrators session next
  have plainly : partnersOverQuery.Plainly := by
    refine ⟨List.mem_cons_self, by decide, by decide, by decide, ?_⟩
    intro base rendered based written
    cases based
    cases written
    decide
  have found : List.Forall₂ Request.FoundSafe (accepted Call.attachment? next.history)
      next.query.relations := by
    have asked : accepted Call.attachment? next.history =
        [⟨.collection, .text "promocodes", .text "*"⟩] := rfl
    obtain ⟨relation, resolved⟩ : ∃ relation, next.query.relations =
        [⟨"promocodes", .collection, relation, .listed [.text "id", .text "code"]⟩] := ⟨_, rfl⟩
    rw [asked, resolved]
    refine .cons ?_ .nil
    intro _ columns same
    cases same
    decide
  exact ⟨plainly, found, (placeholders_line_up hydrators ⟨none, none⟩ partnersOverQuery plainly ()
    _ _ found).1⟩

end NestedSelect
