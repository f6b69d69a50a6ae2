import NestedSelect.Proofs.Query.Reading
import NestedSelect.Workspace.Call

/-!
Sessions: a query from when it is opened, call after call.

`Advance` says all that one call can do to a query and to the world. What holds in every session
follows from it by induction on the calls (`Session.run_preserves`).
-/

namespace NestedSelect

variable {σ : Type}

def Call.registers : Call → Bool
  | .attach .. | .filter .. | .orderBy .. | .limit .. | .offset .. => true
  | _ => false

def Call.runs : Call → Bool
  | .fetch .. | .first .. | .paginate .. => true
  | _ => false

open Query
open Request (Settles)

def Call.plan? (link : Link σ) : Call → Option (Work σ (Executor σ × List Sql.BoundStatement))
  | .fetch awaits _ | .first awaits _ => some (prepare awaits link rowsDraft)
  | .paginate awaits page perPage _ => some (do
      let window ← edit (pageWindow page perPage)
      prepare awaits link (pageDraft window.1 window.2))
  | _ => none

/-- What is left of a call that is refused, in warnings and in relations that are remembered:
nothing, or what was done before something else was found wrong. -/
inductive Leftover (query : Query) : Call → List String → List (String × Relation) → Prop where
  | nothing {call : Call} : Leftover query call [] query.resolutions
  | wildcard {mode : RequestMode} {name columns : Value} {given : String} {wanted : Columns}
      (named : Identifier.ensureRelation name = .ok given)
      (asked : requestedColumns mode columns given = .ok wanted)
      (wild : wanted.isWildcard = true)
      (lenient : query.setup.config.strictMode.isTruthy = false) :
      Leftover query (.attach mode name columns) [(Violation.wildcard given).message]
        query.resolutions
  | resolved {mode : RequestMode} {name columns : Value} {given : String} {wanted : Columns}
      {relation : Relation} (named : Identifier.ensureRelation name = .ok given)
      (asked : requestedColumns mode columns given = .ok wanted)
      (tolerated : wanted.isWildcard = true → query.setup.config.strictMode.isTruthy = false)
      (found : query.relationNamed given = .ok relation) :
      Leftover query (.attach mode name columns) (notes wanted.isWildcard (.wildcard given))
        (Record.put given relation query.resolutions)

def Query.leaving (query : Query) (warnings : List String) (memory : List (String × Relation)) :
    Query :=
  { query.noting warnings with resolutions := memory }

theorem Query.leaving_leaving (query : Query) (first second : List String)
    (memory later : List (String × Relation)) :
    (query.leaving first memory).leaving second later = query.leaving (first ++ second) later := by
  simp only [leaving, noting, List.append_assoc]

theorem Query.leaving_nil (query : Query) : query.leaving [] query.resolutions = query := by
  rw [leaving, noting_nil]

theorem Leftover.faithful {query : Query} {call : Call} {warnings : List String}
    {memory : List (String × Relation)} (left : Leftover query call warnings memory)
    (faithful : query.Faithful) : (query.leaving warnings memory).Faithful := by
  cases left with
  | nothing => exact faithful
  | wildcard => exact faithful
  | resolved _ _ _ found => exact faithful.put found

/-- All that a call can do, with its outcome: to the query and to the world. -/
inductive Advance (link : Link σ) (query : Query) (world : σ) :
    Call → Outcome Answer → Query → σ → Prop where
  | attached {mode : RequestMode} {name columns : Value} {request : Request}
      (fit : Attachable query mode name columns request) :
      Advance link query world (.attach mode name columns) (.ok .done)
        (query.attaching request (query.remarks request)) world
  | filtered {column operator value : Value} {added : Filter}
      (made : Filter.make column operator value = .ok added) :
      Advance link query world (.filter column operator value) (.ok .done)
        { query with filters := query.filters ++ [added] } world
  | ordered {column direction : Value} {added : OrderTerm}
      (made : OrderTerm.make column direction = .ok added) :
      Advance link query world (.orderBy column direction) (.ok .done)
        { query with orders := query.orders ++ [added] } world
  | limited {value : Value} {n : Int} (admitted : query.Admits "Limit" value n) :
      Advance link query world (.limit value) (.ok .done)
        { query.noting (query.excess n) with limit? := some n } world
  | moved {value : Value} {n : Int} (checked : ensureNonNegative "Offset" value = .ok n) :
      Advance link query world (.offset value) (.ok .done) { query with offset? := some n } world
  | refused {call : Call} {fault : Fault} (warnings : List String)
      (memory : List (String × Relation)) (registers : call.registers = true)
      (left : Leftover query call warnings memory) :
      Advance link query world call (.error fault) (query.leaving warnings memory) world
  | read {call : Call} {outcome : Outcome Answer} {sent : List Sql.BoundStatement}
      {later : Query} {after : σ} (reads : call.registers = false)
      (done : Reads link query world sent later after) :
      Advance link query world call outcome later after

variable {link : Link σ} {query later : Query} {world after : σ}

theorem Advance.refused_unchanged {call : Call} {fault : Fault}
    (registers : call.registers = true) :
    Advance link query world call (.error fault) query world := by
  have step : Advance link query world call (.error fault)
      (query.leaving [] query.resolutions) world := .refused [] _ registers .nothing
  rwa [leaving_nil] at step

theorem edit_answered {change : Edit Unit} {outcome : Outcome Answer}
    (done : (edit change >>= fun _ => pure Answer.done : Work σ Answer) query world =
      ((outcome, later), after)) :
    world = after ∧ ∃ result, change query = (result, later) ∧
      outcome = result.map (fun _ => Answer.done) := by
  rcases Work.edit_cases done with ⟨fault, changed, rfl, rfl⟩ | ⟨_, _, changed, done⟩
  · exact ⟨rfl, .error fault, changed, rfl⟩
  · cases done
    exact ⟨rfl, .ok (), changed, rfl⟩

theorem work_answered {α : Type} {work : Work σ α} {shape : α → Answer}
    {outcome : Outcome Answer}
    (done : (work >>= fun a => pure (shape a)) query world = ((outcome, later), after)) :
    ∃ result, work query world = ((result, later), after) ∧ outcome = result.map shape := by
  rcases Work.bind_cases done with ⟨fault, failed, rfl⟩ | ⟨a, _, _, first, done⟩
  · exact ⟨.error fault, failed, rfl⟩
  · cases done
    exact ⟨.ok a, first, rfl⟩

theorem answered_of_work {α : Type} {work : Work σ α} {result : Outcome α} (shape : α → Answer)
    (done : work query world = ((result, later), after)) :
    (work >>= fun a => pure (shape a)) query world = ((result.map shape, later), after) := by
  cases result with
  | error fault => exact Work.bind_of_error done
  | ok a => exact Work.bind_of_ok done

theorem answer_compile (hydrators : HydratorSource) {awaits : Bool} {found : Outcome Unit}
    (discovery : Discovery awaits link.introspector? query world found later after) :
    answer hydrators link (.compile awaits) query world =
      (((found >>= fun _ => later.build later.window).map Answer.statement, later), after) :=
  answered_of_work Answer.statement (compile_of_discovery discovery)

theorem paginate_answered {hydrators : HydratorSource} {awaits : Bool} {page perPage : Value}
    {handle : HydratorHandle} {outcome : Outcome Answer}
    (done : answer hydrators link (.paginate awaits page perPage handle) query world =
      ((outcome, later), after)) :
    ∃ result, paginate awaits hydrators link page perPage handle query world =
        ((result, later), after) ∧
      outcome = result >>= fun answered => answered.toRecord.map Answer.item := by
  rcases Work.bind_cases done with ⟨fault, failed, rfl⟩ | ⟨answered, _, _, first, done⟩
  · exact ⟨.error fault, failed, rfl⟩
  · obtain ⟨result, shaped, rfl⟩ := work_answered done
    obtain ⟨rfl, rfl, rfl⟩ := Work.lift_cases shaped
    exact ⟨.ok answered, first, rfl⟩

theorem answered_of_paginate {hydrators : HydratorSource} {awaits : Bool} {page perPage : Value}
    {handle : HydratorHandle} {result : Outcome Page}
    (done : paginate awaits hydrators link page perPage handle query world =
      ((result, later), after)) :
    answer hydrators link (.paginate awaits page perPage handle) query world =
      ((result >>= fun answered => answered.toRecord.map Answer.item, later), after) := by
  cases result with
  | error fault => exact Work.bind_of_error done
  | ok answered =>
      refine (Work.bind_of_ok done).trans ?_
      exact answered_of_work Answer.item (Work.lift_apply rfl later after)

theorem answered_of_edit {change : Edit Unit} {outcome : Outcome Unit}
    (changed : change query = (outcome, later)) (world : σ) :
    (edit change >>= fun _ => pure Answer.done : Work σ Answer) query world =
      ((outcome.map (fun _ => Answer.done), later), world) :=
  answered_of_work _ (Work.edit_apply changed world)

theorem answer_advance {hydrators : HydratorSource} {call : Call} {outcome : Outcome Answer}
    (done : answer hydrators link call query world = ((outcome, later), after)) :
    Advance link query world call outcome later after := by
  cases call with
  | attach mode name columns =>
      obtain ⟨rfl, result, changed, rfl⟩ := edit_answered done
      cases register_registers changed with
      | refused fault => exact .refused_unchanged rfl
      | overruled fault named asked wild lenient =>
          exact .refused _ _ rfl (.wildcard named asked wild lenient)
      | resolved fault named asked tolerated found =>
          exact .refused _ _ rfl (.resolved named asked tolerated found)
      | attached fit => exact .attached fit
  | filter column operator value =>
      obtain ⟨rfl, result, changed, rfl⟩ := edit_answered done
      rcases filter_cases changed with ⟨fault, rfl, rfl⟩ | ⟨added, made, rfl, rfl⟩
      · exact .refused_unchanged rfl
      · exact .filtered made
  | orderBy column direction =>
      obtain ⟨rfl, result, changed, rfl⟩ := edit_answered done
      rcases orderBy_cases changed with ⟨fault, rfl, rfl⟩ | ⟨added, made, rfl, rfl⟩
      · exact .refused_unchanged rfl
      · exact .ordered made
  | limit value =>
      obtain ⟨rfl, result, changed, rfl⟩ := edit_answered done
      rcases limit_cases changed with ⟨fault, rfl, rfl⟩ | ⟨n, admitted, rfl, rfl⟩
      · exact .refused_unchanged rfl
      · exact .limited admitted
  | offset value =>
      obtain ⟨rfl, result, changed, rfl⟩ := edit_answered done
      rcases offset_cases changed with ⟨fault, rfl, rfl⟩ | ⟨n, checked, rfl, rfl⟩
      · exact .refused_unchanged rfl
      · exact .moved checked
  | compile awaits =>
      obtain ⟨result, compiled, rfl⟩ := work_answered done
      exact .read rfl (compile_reads compiled)
  | text =>
      obtain ⟨result, compiled, rfl⟩ := work_answered done
      exact .read rfl (compile_reads compiled)
  | bindings =>
      obtain ⟨result, bound, rfl⟩ := work_answered (Work.of_get done)
      obtain ⟨_, rfl, rfl⟩ := Work.lift_cases bound
      exact .read rfl .unchanged
  | fetch awaits handle =>
      obtain ⟨result, fetched, rfl⟩ := work_answered done
      obtain ⟨sent, reads⟩ := fetch_reads fetched
      exact .read rfl reads
  | first awaits handle =>
      obtain ⟨result, fetched, rfl⟩ := work_answered done
      obtain ⟨sent, reads⟩ := fetchFirst_reads fetched
      exact .read rfl reads
  | paginate awaits page perPage handle =>
      obtain ⟨result, paged, _⟩ := paginate_answered done
      obtain ⟨sent, reads⟩ := paginate_reads paged
      exact .read rfl reads

theorem Call.plan?_of_runs {call : Call} (runs : call.runs = true) (link : Link σ) :
    ∃ plan, call.plan? link = some plan := by
  cases call with
  | fetch => exact ⟨_, rfl⟩
  | first => exact ⟨_, rfl⟩
  | paginate => exact ⟨_, rfl⟩
  | _ => cases runs

theorem answer_runs {hydrators : HydratorSource} {call : Call}
    {plan : Work σ (Executor σ × List Sql.BoundStatement)} {outcome : Outcome Answer}
    (planned : call.plan? link = some plan)
    (done : answer hydrators link call query world = ((outcome, later), after)) :
    ∃ sent, Runs plan query world outcome sent later after := by
  cases call with
  | fetch awaits handle =>
      cases planned
      obtain ⟨result, fetched, rfl⟩ := work_answered done
      obtain ⟨sent, goes⟩ := fetch_runs fetched
      exact ⟨sent, goes.map Answer.items⟩
  | first awaits handle =>
      cases planned
      obtain ⟨item, found, rfl⟩ := work_answered done
      obtain ⟨result, fetched, rfl⟩ := fetchFirst_cases found
      obtain ⟨sent, goes⟩ := fetch_runs fetched
      exact ⟨sent, (goes.map _).map Answer.item⟩
  | paginate awaits page perPage handle =>
      cases planned
      obtain ⟨result, paged, rfl⟩ := paginate_answered done
      rcases paginate_runs paged with ⟨fault, refused, rfl, rfl, rfl⟩ |
        ⟨number, size, sent, pages, goes⟩
      · exact ⟨[], .unprepared (Work.bind_of_error (Work.edit_apply refused _))⟩
      · refine ⟨sent, .preceded ?_ (Work.edit_apply (pageWindow_of_pages pages) world)⟩
        exact goes.bind _
  | _ => cases planned

theorem Call.plan_cases {call : Call} {plan : Work σ (Executor σ × List Sql.BoundStatement)}
    {outcome : Outcome (Executor σ × List Sql.BoundStatement)}
    (planned : call.plan? link = some plan)
    (done : plan query world = ((outcome, later), after)) :
    (∃ fault, outcome = .error fault ∧ after = world) ∨
      ∃ awaits warnings found,
        Discovery awaits link.introspector? (query.noting warnings) world found later after ∧
        ∀ executor statements, outcome = .ok (executor, statements) →
          link.executor? = some executor := by
  cases call with
  | fetch awaits =>
      cases planned
      rw [← noting_nil query] at done
      exact (prepare_asks done).imp_right (fun rest => ⟨awaits, [], rest⟩)
  | first awaits =>
      cases planned
      rw [← noting_nil query] at done
      exact (prepare_asks done).imp_right (fun rest => ⟨awaits, [], rest⟩)
  | paginate awaits =>
      cases planned
      rcases Work.edit_cases done with ⟨fault, _, failed, same⟩ | ⟨window, _, checked, done⟩
      · exact .inl ⟨fault, failed, same.symm⟩
      rcases pageWindow_cases checked with ⟨_, impossible, _⟩ | ⟨number, size, _, _, rfl⟩
      · cases impossible
      · exact (prepare_asks done).imp_right (fun rest => ⟨awaits, _, rest⟩)
  | _ => cases planned

theorem Call.plan_executor {call : Call} {plan : Work σ (Executor σ × List Sql.BoundStatement)}
    {executor : Executor σ} {statements : List Sql.BoundStatement}
    (planned : call.plan? link = some plan)
    (ready : plan query world = ((.ok (executor, statements), later), after)) :
    link.executor? = some executor := by
  rcases Call.plan_cases planned ready with ⟨_, impossible, _⟩ | ⟨_, _, _, _, executors⟩
  · cases impossible
  · exact executors executor statements rfl

/-- A call that runs no statements talks to the world only to find out wildcards. -/
theorem answer_silent {hydrators : HydratorSource} {call : Call} {outcome : Outcome Answer}
    (silent : call.runs = false)
    (done : answer hydrators link call query world = ((outcome, later), after)) :
    after = world ∨
      ∃ awaits found, Discovery awaits link.introspector? query world found later after := by
  have compiled {awaits : Bool} {outcome : Outcome Sql.BoundStatement}
      (done : compile awaits link.introspector? query world = ((outcome, later), after)) :
      ∃ awaits found, Discovery awaits link.introspector? query world found later after := by
    rcases compile_cases done with ⟨_, found, _⟩ | ⟨found, _⟩
    · exact ⟨_, _, resolveWildcards_discovery found⟩
    · exact ⟨_, _, resolveWildcards_discovery found⟩
  cases call with
  | attach => exact .inl (edit_answered done).1.symm
  | filter => exact .inl (edit_answered done).1.symm
  | orderBy => exact .inl (edit_answered done).1.symm
  | limit => exact .inl (edit_answered done).1.symm
  | offset => exact .inl (edit_answered done).1.symm
  | compile awaits =>
      obtain ⟨_, done, _⟩ := work_answered done
      exact .inr (compiled done)
  | text =>
      obtain ⟨_, done, _⟩ := work_answered done
      exact .inr (compiled done)
  | bindings =>
      obtain ⟨_, bound, _⟩ := work_answered (Work.of_get done)
      exact .inl (Work.lift_cases bound).2.2.symm
  | fetch => cases silent
  | first => cases silent
  | paginate => cases silent

/-- A query in use: with the world that it is connected with, and the calls made so far with what
was answered to them. -/
structure Session (σ : Type) where
  query : Query
  world : σ
  history : List (Call × Outcome Answer)

namespace Session

def opened (setup : QuerySetup) (world : σ) : Session σ := ⟨{ setup := setup }, world, []⟩

variable (hydrators : HydratorSource) (link : Link σ)

def outcome (session : Session σ) (call : Call) : Outcome Answer :=
  (answer hydrators link call session.query session.world).1.1

def call (session : Session σ) (call : Call) : Session σ :=
  let made := answer hydrators link call session.query session.world
  ⟨made.1.2, made.2, session.history ++ [(call, made.1.1)]⟩

def run (session : Session σ) (calls : List Call) : Session σ :=
  calls.foldl (Session.call hydrators link) session

variable {hydrators link}

theorem answered (hydrators : HydratorSource) (link : Link σ) (session : Session σ)
    (call : Call) :
    answer hydrators link call session.query session.world =
      ((session.outcome hydrators link call, (session.call hydrators link call).query),
        (session.call hydrators link call).world) := rfl

theorem compiled {session : Session σ} {awaits : Bool} {answered : Answer}
    (done : session.outcome hydrators link (.compile awaits) = .ok answered) :
    let next := session.call hydrators link (.compile awaits)
    resolveWildcards awaits link.introspector? session.query session.world =
      ((.ok (), next.query), next.world) ∧
    ∃ statement, answered = .statement statement ∧
      next.query.build next.query.window = .ok statement := by
  have answering := session.answered hydrators link (.compile awaits)
  rw [done] at answering
  obtain ⟨result, compiled, same⟩ := work_answered answering
  obtain ⟨statement, rfl, rfl⟩ := Outcome.map_eq_ok same.symm
  obtain ⟨resolved, built⟩ := compile_eq_ok compiled
  exact ⟨resolved, statement, rfl, built⟩

theorem call_advance (session : Session σ) (call : Call) :
    Advance link session.query session.world call (session.outcome hydrators link call)
      (session.call hydrators link call).query (session.call hydrators link call).world :=
  answer_advance rfl

theorem run_preserves_of_mem (holds : Session σ → Prop) {calls : List Call}
    (step : ∀ session, ∀ call ∈ calls, holds session → holds (session.call hydrators link call))
    {session : Session σ} (start : holds session) : holds (session.run hydrators link calls) := by
  induction calls generalizing session with
  | nil => exact start
  | cons call rest ih =>
      have next := step session call List.mem_cons_self start
      exact ih (fun later other inside => step later other (List.mem_cons_of_mem call inside)) next

/-- What every call preserves holds after any calls. -/
theorem run_preserves (holds : Session σ → Prop)
    (step : ∀ session call, holds session → holds (session.call hydrators link call))
    {session : Session σ} (start : holds session) (calls : List Call) :
    holds (session.run hydrators link calls) :=
  run_preserves_of_mem holds (fun session call _ => step session call) start

theorem run_append (session : Session σ) (calls more : List Call) :
    session.run hydrators link (calls ++ more) =
      (session.run hydrators link calls).run hydrators link more :=
  List.foldl_append

end Session

theorem Filter.make_eq_ok {column operator value : Value} {made : Filter}
    (done : Filter.make column operator value = .ok made) :
    Identifier.ensure column = .ok made.column ∧ made.operator ∈ allowedOperators ∧
      made.value = value := by
  obtain ⟨checked, named, done⟩ := Outcome.bind_eq_ok done
  obtain ⟨allowed, normal, done⟩ := Outcome.bind_eq_ok done
  cases done
  refine ⟨named, ?_, rfl⟩
  unfold normalizeOperator at normal
  obtain ⟨shown, _, normal⟩ := Outcome.bind_eq_ok normal
  simp only at normal
  split at normal
  · rename_i inside
    have same := Except.ok.inj normal
    subst same
    exact inside
  · cases normal

structure Attachment where
  mode : RequestMode
  name : Value
  columns : Value

def Call.attachment? : Call → Option Attachment
  | .attach mode name columns => some ⟨mode, name, columns⟩
  | _ => none

def Call.filterValue? : Call → Option Value
  | .filter _ _ value => some value
  | _ => none

def accepted {α : Type} (pick : Call → Option α) (history : List (Call × Outcome Answer)) :
    List α :=
  history.filterMap (fun made => if made.2.toOption.isSome then pick made.1 else none)

theorem accepted_append {α : Type} (pick : Call → Option α)
    (history more : List (Call × Outcome Answer)) :
    accepted pick (history ++ more) = accepted pick history ++ accepted pick more :=
  List.filterMap_append

theorem accepted_ok {α : Type} (pick : Call → Option α) {call : Call} {a : α}
    (picked : pick call = some a) (history : List (Call × Outcome Answer)) (answered : Answer) :
    accepted pick (history ++ [(call, .ok answered)]) = accepted pick history ++ [a] := by
  have last : accepted pick [(call, .ok answered)] = [a] := by
    simp only [accepted, List.filterMap_cons, List.filterMap_nil, Except.toOption,
      Option.isSome_some, if_true, picked]
  rw [accepted_append, last]

theorem accepted_none {α : Type} {pick : Call → Option α} {call : Call}
    (passed : pick call = none) (history : List (Call × Outcome Answer))
    (outcome : Outcome Answer) :
    accepted pick (history ++ [(call, outcome)]) = accepted pick history := by
  have last : accepted pick [(call, outcome)] = [] := by
    simp only [accepted, List.filterMap_cons, List.filterMap_nil, passed, ite_self]
  rw [accepted_append, last, List.append_nil]

theorem accepted_error {α : Type} (pick : Call → Option α)
    (history : List (Call × Outcome Answer)) (call : Call) (fault : Fault) :
    accepted pick (history ++ [(call, .error fault)]) = accepted pick history := by
  have last : accepted pick [(call, .error fault)] = [] := rfl
  rw [accepted_append, last, List.append_nil]

theorem Call.asks_nothing {call : Call} (reads : call.registers = false) :
    call.attachment? = none ∧ call.filterValue? = none := by
  cases call with
  | attach => cases reads
  | filter => cases reads
  | orderBy => cases reads
  | limit => cases reads
  | offset => cases reads
  | compile => exact ⟨rfl, rfl⟩
  | text => exact ⟨rfl, rfl⟩
  | bindings => exact ⟨rfl, rfl⟩
  | fetch => exact ⟨rfl, rfl⟩
  | first => exact ⟨rfl, rfl⟩
  | paginate => exact ⟨rfl, rfl⟩

/-- A request that came of asking for a relation. Columns may have been found out since. -/
structure Request.ComesOf (fits : TableColumns) (asked : Attachment) (request : Request) :
    Prop where
  named : Identifier.ensureRelation asked.name = .ok request.name
  inMode : request.mode = asked.mode
  settles : ∃ columns, requestedColumns asked.mode asked.columns request.name = .ok columns ∧
    Settles fits { request with columns := columns } request

theorem Request.ComesOf.settle {fits : TableColumns} {asked : Attachment}
    {request settled : Request} (comes : Request.ComesOf fits asked request)
    (step : Settles fits request settled) : Request.ComesOf fits asked settled := by
  obtain ⟨columns, wanted, before⟩ := comes.settles
  obtain ⟨name, mode, relation⟩ := step.keeps
  have same : ({ settled with columns := columns } : Request) =
      { request with columns := columns } := by
    rw [Request.mk.injEq]
    exact ⟨name, mode, relation, rfl⟩
  refine ⟨name ▸ comes.named, mode.trans comes.inMode, columns, name ▸ wanted, ?_⟩
  rw [same]
  exact before.trans step

theorem Query.Attachable.comesOf {query : Query} {mode : RequestMode} {name columns : Value}
    {request : Request} (fits : TableColumns)
    (fit : Attachable query mode name columns request) :
    Request.ComesOf fits ⟨mode, name, columns⟩ request :=
  ⟨fit.named, fit.inMode, request.columns, fit.asked, .kept request⟩

/-- What holds between the relations that were asked for and the requests of a query, in order:
it holds of each request that is attached, and it does not depend on what is found out. -/
theorem Advance.tracks {fits : TableColumns} {tracked : Attachment → Request → Prop} {call : Call}
    {outcome : Outcome Answer} {history : List (Call × Outcome Answer)}
    (step : Advance link query world call outcome later after)
    (attached : ∀ {mode name columns request}, Attachable query mode name columns request →
      tracked ⟨mode, name, columns⟩ request)
    (settling : ∀ awaits warnings found between,
      Discovery awaits link.introspector? (query.noting warnings) world found later between →
        List.Forall₂ (Settles fits) query.relations later.relations)
    (settle : ∀ asked request settled, tracked asked request → Settles fits request settled →
      tracked asked settled)
    (before : List.Forall₂ tracked (accepted Call.attachment? history) query.relations) :
    List.Forall₂ tracked (accepted Call.attachment? (history ++ [(call, outcome)]))
      later.relations := by
  cases step with
  | attached fit =>
      rw [accepted_ok Call.attachment? rfl]
      exact List.rel_append before (.cons (attached fit) .nil)
  | filtered => rwa [accepted_none rfl]
  | ordered => rwa [accepted_none rfl]
  | limited => rwa [accepted_none rfl]
  | moved => rwa [accepted_none rfl]
  | refused => rwa [accepted_error]
  | read reads done =>
      rw [accepted_none (Call.asks_nothing reads).1]
      cases done with
      | idle => exact before
      | stopped discovery => exact forall₂_comp settle before (settling _ _ _ _ discovery)
      | ran _ discovery => exact forall₂_comp settle before (settling _ _ _ _ discovery)

theorem Advance.comesOf {fits : TableColumns} {call : Call} {outcome : Outcome Answer}
    {history : List (Call × Outcome Answer)}
    (step : Advance link query world call outcome later after)
    (settling : ∀ awaits warnings found between,
      Discovery awaits link.introspector? (query.noting warnings) world found later between →
        List.Forall₂ (Settles fits) query.relations later.relations)
    (comes : List.Forall₂ (Request.ComesOf fits) (accepted Call.attachment? history)
      query.relations) :
    List.Forall₂ (Request.ComesOf fits)
      (accepted Call.attachment? (history ++ [(call, outcome)])) later.relations :=
  step.tracks (fun fit => fit.comesOf fits) settling
    (fun _ _ _ before settles => before.settle settles) comes

theorem Advance.listings_cases {call : Call} {outcome : Outcome Answer}
    (step : Advance link query world call outcome later after) :
    later.listings = query.listings ∨ ∃ awaits warnings found between,
      Discovery awaits link.introspector? (query.noting warnings) world found later between := by
  cases step with
  | attached => exact .inl rfl
  | filtered => exact .inl rfl
  | ordered => exact .inl rfl
  | limited => exact .inl rfl
  | moved => exact .inl rfl
  | refused => exact .inl rfl
  | read _ done =>
      cases done with
      | idle => exact .inl rfl
      | stopped discovery => exact .inr ⟨_, _, _, _, discovery⟩
      | ran _ discovery => exact .inr ⟨_, _, _, _, discovery⟩

theorem Query.Reads.frame {sent : List Sql.BoundStatement}
    (done : Reads link query world sent later after) :
    later.setup = query.setup ∧ later.filters = query.filters ∧ later.orders = query.orders ∧
      later.limit? = query.limit? ∧ later.offset? = query.offset? := by
  cases done with
  | idle => exact ⟨rfl, rfl, rfl, rfl, rfl⟩
  | stopped discovery =>
      rw [discovery.frame]
      exact ⟨rfl, rfl, rfl, rfl, rfl⟩
  | ran _ discovery =>
      rw [discovery.frame]
      exact ⟨rfl, rfl, rfl, rfl, rfl⟩

theorem Advance.setup_eq {call : Call} {outcome : Outcome Answer}
    (step : Advance link query world call outcome later after) :
    later.setup = query.setup := by
  cases step with
  | attached => rfl
  | filtered => rfl
  | ordered => rfl
  | limited => rfl
  | moved => rfl
  | refused => rfl
  | read _ done => exact done.frame.1

theorem Advance.filterValues {call : Call} {outcome : Outcome Answer}
    {history : List (Call × Outcome Answer)}
    (step : Advance link query world call outcome later after)
    (kept : query.filters.map Filter.value = accepted Call.filterValue? history) :
    later.filters.map Filter.value =
      accepted Call.filterValue? (history ++ [(call, outcome)]) := by
  cases step with
  | attached => rwa [accepted_none rfl]
  | filtered made =>
      rw [accepted_ok Call.filterValue? rfl, ← kept, ← (Filter.make_eq_ok made).2.2]
      exact List.map_append
  | ordered => rwa [accepted_none rfl]
  | limited => rwa [accepted_none rfl]
  | moved => rwa [accepted_none rfl]
  | refused => rwa [accepted_error]
  | read reads done => rwa [accepted_none (Call.asks_nothing reads).2, done.frame.2.1]

end NestedSelect
