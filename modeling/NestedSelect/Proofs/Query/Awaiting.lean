import NestedSelect.Proofs.Query.Endings
import NestedSelect.Proofs.Query.Paging
import NestedSelect.Proofs.Query.Wildcards

/-!
Calls that await and calls that do not.

The two kinds of a call ask the same questions and run the same statements, in the same order, and
leave the query the same, also where they fail halfway. What an introspector answers at once is as
good for a caller that awaits. They end alike but for one fault, which has another name where it is
awaited: that nothing is left (`Told`). Where it can come from is said for each call.
-/

namespace NestedSelect

variable {σ : Type}

def Executor.flavoured (executor : Executor σ) (awaits : Bool) : Executor σ :=
  { executor with awaits := awaits }

namespace Connection

def flavoured (connection : Connection σ) (awaits : Bool) : Connection σ :=
  { connection with awaits := awaits }

def facade (connection : Connection σ) : Link σ :=
  ⟨some connection.executor, some connection.introspector⟩

end Connection

structure Introspector.Prompt (introspector : Introspector σ) : Prop where
  one : ∀ table world, ∃ result, (introspector.columnsOf table world).1 = .ready result
  many : ∀ tables world, ∃ result, (introspector.columnsOfMany tables world).1 = .ready result

/-- What stands in for an introspector where answers are awaited: the other facade of the same
connection, or the introspector itself if it answers at once. -/
inductive Introspector.Twins : Introspector σ → Introspector σ → Prop where
  | facade (connection : Connection σ) :
      Twins (connection.flavoured false).introspector (connection.flavoured true).introspector
  | prompt {introspector : Introspector σ} (prompt : introspector.Prompt) :
      Twins introspector introspector

inductive Executor.Twins : Executor σ → Executor σ → Prop where
  | flavours (executor : Executor σ) :
      Twins (executor.flavoured false) (executor.flavoured true)

/-- A link for callers that do not await, and its counterpart for those that do. -/
structure Link.Twins (link other : Link σ) : Prop where
  executors : Option.Rel Executor.Twins link.executor? other.executor?
  introspectors : Option.Rel Introspector.Twins link.introspector? other.introspector?

theorem Connection.facade_twins (connection : Connection σ) :
    (connection.flavoured false).facade.Twins (connection.flavoured true).facade :=
  ⟨.some (.flavours connection.executor), .some (.facade connection)⟩

/-- What the first introspector answers at once, the second answers where it is awaited. -/
structure Introspector.Echoes (introspector other : Introspector σ) : Prop where
  one : ∀ table,
    ask true (other.columnsOf table) = (ask false (introspector.columnsOf table)).awaited
  many : ∀ tables,
    ask true (other.columnsOfMany tables) = (ask false (introspector.columnsOfMany tables)).awaited

structure Link.Echoes (link other : Link σ) : Prop where
  executors : Option.Rel Executor.Twins link.executor? other.executor?
  introspectors : Option.Rel Introspector.Echoes link.introspector? other.introspector?

theorem Connection.ask_reply_now {α : Type} {connection : Connection σ}
    (immediate : connection.awaits = false) (exchange : Exchange σ α) :
    ask false (connection.reply exchange) = exchange := by
  unfold ask reply
  rw [immediate]
  rfl

theorem Connection.ask_reply_awaited {α : Type} {connection : Connection σ}
    (awaits : connection.awaits = true) (exchange : Exchange σ α) :
    ask true (connection.reply exchange) = exchange.awaited := by
  unfold ask reply
  rw [awaits]
  rfl

theorem Connection.facade_lasts {connection : Connection σ}
    (sends : ∀ statement, (connection.send statement).Lasts)
    (one : ∀ area name, (connection.columns area name).Lasts)
    (many : ∀ area names, (connection.manyColumns area names).Lasts) :
    ¬ (connection.flavoured false).facade.RunsOut := by
  have named (statement : String) (values : List Value) :
      Lasting (Sql.nameBinds statement values) := by
    unfold Sql.nameBinds
    dsimp only
    split
    · exact .refused nofun
    · split
      · exact .refused nofun
      · exact .ok _
  have listed (schemas : List (Option String × List String)) (listing) :
      ((connection.flavoured false).listSchemas listing schemas).Lasts := by
    induction schemas generalizing listing with
    | nil => exact fun _ => .ok _
    | cons schema rest ih => exact .bind (many _ _) (fun _ => ih _)
  intro out
  cases out with
  | executing there out =>
      cases there
      exact Exchange.Lasts.bind (.lift (named _ _)) (fun _ => sends _) _ out
  | asking there out =>
      cases there
      rw [Introspector.columnsOf, introspector, Connection.ask_reply_now rfl] at out
      exact one _ _ _ out
  | askingMany there out =>
      cases there
      rw [Introspector.columnsOfMany, introspector, Connection.ask_reply_now rfl] at out
      exact listed _ _ _ out

theorem ask_awaited_of_ready {α : Type} {question : StateM σ (Reply σ α)}
    (ready : ∀ world, ∃ result, (question world).1 = .ready result) :
    ask true question = (ask false question).awaited := by
  funext world
  obtain ⟨result, same⟩ := ready world
  have asked : question world = (.ready result, (question world).2) := Prod.ext same rfl
  have now : ask false question world = (Reply.ready result).heard false (question world).2 :=
    ask_apply asked
  refine (ask_apply asked).trans ?_
  unfold Exchange.awaited
  rw [now]
  rfl

theorem Connection.listColumnsOfMany_flavoured (connection : Connection σ) (awaits : Bool)
    (tables : List String) :
    (connection.flavoured awaits).listColumnsOfMany tables =
      connection.listColumnsOfMany tables := by
  have same (schemas : List (Option String × List String)) (listing) :
      (connection.flavoured awaits).listSchemas listing schemas =
        connection.listSchemas listing schemas := by
    induction schemas generalizing listing with
    | nil => rfl
    | cons schema rest ih =>
        unfold listSchemas
        apply bind_congr
        intro found
        exact ih _
  exact same _ _

theorem Introspector.Twins.echoes {introspector other : Introspector σ}
    (twins : introspector.Twins other) : introspector.Echoes other := by
  cases twins with
  | facade connection =>
      constructor
      · intro table
        refine (Connection.ask_reply_awaited (by rfl) _).trans (congrArg Exchange.awaited ?_)
        exact (Connection.ask_reply_now (by rfl) _).symm
      · intro tables
        refine (Connection.ask_reply_awaited (by rfl) _).trans (congrArg Exchange.awaited ?_)
        refine ((Connection.ask_reply_now (by rfl) _).trans ?_).symm
        rw [connection.listColumnsOfMany_flavoured, connection.listColumnsOfMany_flavoured]
  | prompt prompt =>
      exact ⟨fun table => ask_awaited_of_ready (prompt.one table),
        fun tables => ask_awaited_of_ready (prompt.many tables)⟩

theorem Link.Twins.echoes {link other : Link σ} (twins : link.Twins other) : link.Echoes other := by
  exact ⟨twins.executors, rel_imp twins.introspectors (fun _ _ same => same.echoes)⟩

theorem Link.Echoes.questioned {link other : Link σ} (echoes : link.Echoes other) :
    (Questioned.link link).Echoes (Questioned.link other) := by
  constructor
  · apply rel_map echoes.executors
    rintro _ _ ⟨executor⟩
    exact .flavours (Questioned.executor executor)
  · apply rel_map echoes.introspectors
    intro first second same
    constructor
    · intro table
      funext record
      simp only [Questioned.introspector, Questioned.ask_noting, same.one, Exchange.awaited]
    · intro tables
      funext record
      simp only [Questioned.introspector, Questioned.ask_noting, same.many, Exchange.awaited]

theorem Link.Echoes.recorded {link other : Link σ} (echoes : link.Echoes other) :
    (Recorded.link link).Echoes (Recorded.link other) := by
  constructor
  · apply rel_map echoes.executors
    rintro _ _ ⟨executor⟩
    exact .flavours (Recorded.executor executor)
  · apply rel_map echoes.introspectors
    intro first second same
    constructor
    · intro table
      funext recorded
      simp only [Recorded.introspector, Recorded.ask_question, same.one, Exchange.awaited]
    · intro tables
      funext recorded
      simp only [Recorded.introspector, Recorded.ask_question, same.many, Exchange.awaited]

/-! ### Ending alike -/

/-- What comes of two calls is the same; or, for some cause, both end because nothing is left, and
only the name of this fault tells them apart. -/
def Told {α : Type} (cause : Prop) (made twin : (Outcome α × Query) × σ) : Prop :=
  made = twin ∨ cause ∧ ∃ later after, made = ((misused .noItem, later), after) ∧
    twin = ((misused .noItemAwaited, later), after)

namespace Told

open Query

variable {α β : Type} {cause : Prop} {query : Query} {world : σ}

theorem bind {work also : Work σ α} {next second : α → Work σ β}
    (told : Told cause (work query world) (also query world))
    (onward : ∀ a later after, work query world = ((.ok a, later), after) →
      Told cause (next a later after) (second a later after)) :
    Told cause ((work >>= next) query world) ((also >>= second) query world) := by
  rcases told with same | ⟨caused, later, after, failed, refused⟩
  · cases done : work query world with
    | mk answered after =>
      obtain ⟨outcome, later⟩ := answered
      rw [done] at same
      cases outcome with
      | error fault =>
          rw [Work.bind_of_error done, Work.bind_of_error same.symm]
          exact .inl rfl
      | ok a =>
          rw [Work.bind_of_ok done, Work.bind_of_ok same.symm]
          exact onward a later after done
  · exact .inr ⟨caused, later, after, Work.bind_of_error failed, Work.bind_of_error refused⟩

theorem imp {other : Prop} {made twin : (Outcome α × Query) × σ} (told : Told cause made twin)
    (weaker : cause → other) : Told other made twin :=
  told.imp_right (fun both => ⟨weaker both.1, both.2⟩)

/-- Everything is heard alike but for this fault. -/
theorem of_outcome (outcome : Outcome α) (out : outcome = misused .noItem → cause) (query : Query)
    (world : σ) :
    Told cause ((outcome, query), world) ((outcome.mapError Fault.awaited, query), world) := by
  cases outcome with
  | ok a => exact .inl rfl
  | error fault =>
      by_cases none : fault = .misuse .noItem
      · subst none
        exact .inr ⟨out rfl, query, world, rfl, rfl⟩
      · apply Or.inl
        have kept : fault.awaited = fault := by
          unfold Fault.awaited
          split
          · exact absurd rfl none
          · rfl
        simp only [Except.mapError, kept]

theorem heard (outcome : Outcome α) (out : outcome = misused .noItem → cause) (query : Query)
    (world : σ) :
    Told cause ((liftM (NestedSelect.heard false outcome) : Work σ α) query world)
      ((liftM (NestedSelect.heard true outcome) : Work σ α) query world) := by
  rw [Work.lift_apply rfl, Work.lift_apply rfl]
  exact of_outcome outcome out query world

theorem perform {exchange awaited : Exchange σ α} (echo : awaited = exchange.awaited)
    (out : (exchange world).1 = misused .noItem → cause) (query : Query) :
    Told cause (Query.perform exchange query world) (Query.perform awaited query world) := by
  subst echo
  exact of_outcome (exchange world).1 out query (exchange world).2

end Told

namespace Query

open Sql (BoundStatement)

variable {link other : Link σ}

theorem introspectEach_told {introspector second : Introspector σ}
    (there : link.introspector? = some introspector) (echoes : introspector.Echoes second)
    (tables : List String) (query : Query) (world : σ) :
    Told link.RunsOut (introspectEach false introspector tables query world)
      (introspectEach true second tables query world) := by
  induction tables generalizing query world with
  | nil => exact .inl rfl
  | cons table rest ih =>
      refine .bind (.perform (echoes.one table) (.asking there) query) ?_
      intro columns later after _
      exact .bind (.inl rfl) (fun _ _ _ _ => ih _ _)

theorem introspect_told {introspector second : Introspector σ}
    (there : link.introspector? = some introspector) (echoes : introspector.Echoes second)
    (tables : List String) (query : Query) (world : σ) :
    Told link.RunsOut (introspect false introspector tables query world)
      (introspect true second tables query world) := by
  unfold introspect
  rw [Work.get_bind, Work.get_bind]
  split
  · exact .bind (.perform (echoes.many tables) (.askingMany there) query)
      (fun _ _ _ _ => .inl rfl)
  · exact introspectEach_told there echoes tables query world

theorem resolveWildcards_told (echoes : link.Echoes other) (query : Query) (world : σ) :
    Told link.RunsOut (resolveWildcards false link.introspector? query world)
      (resolveWildcards true other.introspector? query world) := by
  have asked (tables : List String) (query : Query) (world : σ) :
      Told link.RunsOut (introspectPending false link.introspector? tables query world)
        (introspectPending true other.introspector? tables query world) := by
    have introspectors := echoes.introspectors
    cases tables with
    | nil => exact .inl rfl
    | cons table rest =>
        cases mine : link.introspector? with
        | none =>
            rw [mine] at introspectors
            cases yours : other.introspector? with
            | none => exact .inl rfl
            | some second =>
                rw [yours] at introspectors
                cases introspectors
        | some introspector =>
            rw [mine] at introspectors
            cases yours : other.introspector? with
            | none =>
                rw [yours] at introspectors
                cases introspectors
            | some second =>
                rw [yours] at introspectors
                cases introspectors with
                | some same => exact introspect_told mine same (table :: rest) query world
  rw [resolveWildcards_eq, resolveWildcards_eq, Work.get_bind, Work.get_bind]
  split
  · exact .inl rfl
  · refine .bind (.inl rfl) (fun _ later after _ => ?_)
    exact .bind (asked _ later after) (fun _ _ _ _ => .inl rfl)

theorem compile_told (echoes : link.Echoes other) (query : Query) (world : σ) :
    Told link.RunsOut (compile false link.introspector? query world)
      (compile true other.introspector? query world) := by
  rw [compile_eq, compile_eq]
  exact .bind (resolveWildcards_told echoes query world) (fun _ _ _ _ => .inl rfl)

theorem requireExecutor_twins (echoes : link.Echoes other) :
    (∃ fault, requireExecutor false link = .error fault ∧
        requireExecutor true other = .error fault) ∨
      ∃ executor : Executor σ, link.executor? = some (executor.flavoured false) ∧
        requireExecutor false link = .ok (executor.flavoured false) ∧
        requireExecutor true other = .ok (executor.flavoured true) := by
  have executors := echoes.executors
  unfold requireExecutor
  generalize link.executor? = executor?, other.executor? = counterpart? at executors ⊢
  cases executors with
  | none => exact .inl ⟨_, rfl, rfl⟩
  | some twins =>
      cases twins with
      | flavours executor => exact .inr ⟨executor, rfl, rfl, rfl⟩

theorem requireExecutor_told {α : Type} {cause : Prop} (echoes : link.Echoes other)
    {next second : Executor σ → Work σ α} (query : Query) (world : σ)
    (onward : ∀ executor : Executor σ, link.executor? = some (executor.flavoured false) →
      requireExecutor false link = .ok (executor.flavoured false) →
      Told cause (next (executor.flavoured false) query world)
        (second (executor.flavoured true) query world)) :
    Told cause ((liftM (requireExecutor false link) >>= next) query world)
      ((liftM (requireExecutor true other) >>= second) query world) := by
  rcases requireExecutor_twins echoes with
    ⟨fault, refused, also⟩ | ⟨executor, there, required, also⟩
  · rw [Work.bind_of_error (Work.lift_apply refused query world),
      Work.bind_of_error (Work.lift_apply also query world)]
    exact .inl rfl
  · rw [Work.bind_of_ok (Work.lift_apply required query world),
      Work.bind_of_ok (Work.lift_apply also query world)]
    exact onward executor there required

theorem run_told {executor : Executor σ} (there : link.executor? = some (executor.flavoured false))
    (statement : BoundStatement) (query : Query) (world : σ) :
    Told link.RunsOut (run false (executor.flavoured false) statement query world)
      (run true (executor.flavoured true) statement query world) :=
  .perform rfl (.executing there) query

theorem setup_of_resolved {awaits : Bool} {query found : Query} {world between : σ}
    {outcome : Outcome Unit}
    (resolved : resolveWildcards awaits link.introspector? query world =
      ((outcome, found), between)) : found.setup = query.setup := by
  rw [(resolveWildcards_discovery resolved).frame]

theorem run_eq_ok {executor : Executor σ} {statement : BoundStatement} {query later : Query}
    {world after : σ} {rows : List Row}
    (ran : run false executor statement query world = ((.ok rows, later), after)) :
    later = query ∧ (executor.execute statement.text statement.values world).1 = .ok rows := by
  have applied : run false executor statement query world =
      ((heard false (executor.execute statement.text statement.values world).1, query),
        (executor.execute statement.text statement.values world).2) := run_apply rfl query
  have done := applied.symm.trans ran
  obtain ⟨same, _⟩ := Prod.mk.inj done
  obtain ⟨answered, kept⟩ := Prod.mk.inj same
  exact ⟨kept.symm, answered⟩

theorem HydratesOut.of_setup {hydrators : HydratorSource} {query later : Query}
    {handle : HydratorHandle} (out : later.HydratesOut hydrators handle)
    (same : later.setup = query.setup) : query.HydratesOut hydrators handle := by
  have chosen : later.chosenHydrator handle = query.chosenHydrator handle := by
    unfold chosenHydrator
    rw [same]
  cases out with
  | own found custom none =>
      rw [chosen] at found
      rw [same] at none
      exact .own found custom none
  | attributes out =>
      rw [same] at out
      exact .attributes out

theorem answers_told {cause : Prop} {query later : Query} {hydrators : HydratorSource}
    {handle : HydratorHandle} (same : later.setup = query.setup)
    (out : query.HydratesOut hydrators handle → cause) (rows : List Row) (world : σ) :
    Told cause
      ((liftM (heard false (later.answers hydrators handle rows)) : Work σ _) later world)
      ((liftM (heard true (later.answers hydrators handle rows)) : Work σ _) later world) :=
  .heard _ (fun none => out ((HydratesOut.of_answers none).of_setup same)) later world

theorem fetch_told (echoes : link.Echoes other) (hydrators : HydratorSource)
    (handle : HydratorHandle) (query : Query) (world : σ) :
    Told (link.RunsOut ∨ query.HydratesOut hydrators handle)
      (fetch false hydrators link handle query world)
      (fetch true hydrators other handle query world) := by
  rw [fetch_eq, fetch_eq]
  refine requireExecutor_told echoes query world (fun executor there _ => ?_)
  refine .bind ((compile_told echoes query world).imp .inl) (fun statement found _ compiled => ?_)
  refine .bind ((run_told there statement found _).imp .inl) (fun rows later after ran => ?_)
  obtain ⟨rfl, _⟩ := run_eq_ok ran
  rw [Work.get_bind, Work.get_bind]
  exact answers_told (setup_of_resolved (compile_eq_ok compiled).1) .inr rows after

theorem fetchFirst_told (echoes : link.Echoes other) (hydrators : HydratorSource)
    (handle : HydratorHandle) (query : Query) (world : σ) :
    Told (link.RunsOut ∨ query.HydratesOut hydrators handle)
      (fetchFirst false hydrators link handle query world)
      (fetchFirst true hydrators other handle query world) := by
  rw [fetchFirst_eq, fetchFirst_eq]
  exact .bind (fetch_told echoes hydrators handle query world) (fun _ _ _ _ => .inl rfl)

/-- A count that is answered with a first row without columns, once the wildcards of a query are
found out. -/
structure HollowCount (link : Link σ) (query : Query) (world : σ) : Prop where
  counted : ∃ executor found between counting rest,
    requireExecutor false link = .ok executor ∧
    resolveWildcards false link.introspector? query world = ((.ok (), found), between) ∧
    found.buildCount = .ok counting ∧
    (executor.execute counting.text counting.values between).1 = .ok ([] :: rest)

theorem scalarCount_runs_out {rows : List Row} (out : scalarCount rows = misused .noItem) :
    ∃ rest, rows = [] :: rest := by
  unfold scalarCount at out
  split at out
  · cases out
  · exact ⟨_, rfl⟩
  · split at out
    · exact absurd out (Hydration.toInt_lasts _)
    · cases out

theorem pageOf_told (echoes : link.Echoes other) (hydrators : HydratorSource)
    (handle : HydratorHandle) (window : Int × Int) (query : Query) (world : σ) :
    Told (link.RunsOut ∨ query.HydratesOut hydrators handle ∨ HollowCount link query world)
      (pageOf false hydrators link handle window query world)
      (pageOf true hydrators other handle window query world) := by
  unfold pageOf
  refine requireExecutor_told echoes query world (fun executor there required => ?_)
  refine .bind ((resolveWildcards_told echoes query world).imp .inl) ?_
  intro _ found between resolved
  rw [Work.get_bind, Work.get_bind]
  refine .bind (.inl rfl) (fun counting middle before built => ?_)
  obtain ⟨counted, rfl, rfl⟩ := Work.lift_cases built
  refine .bind ((run_told there counting found between).imp .inl) (fun rows later after ran => ?_)
  obtain ⟨rfl, answered⟩ := run_eq_ok ran
  refine .bind (.heard _ (fun none => ?_) later after) (fun total later _ counts => ?_)
  · obtain ⟨rest, rfl⟩ := scalarCount_runs_out none
    exact .inr (.inr ⟨_, _, _, _, rest, required, resolved, counted, answered⟩)
  obtain ⟨_, rfl, rfl⟩ := Work.lift_cases counts
  rw [Work.get_bind, Work.get_bind]
  refine .bind (.inl rfl) (fun statement later _ built => ?_)
  obtain ⟨_, rfl, rfl⟩ := Work.lift_cases built
  refine .bind ((run_told there statement _ _).imp .inl) (fun rows later after ran => ?_)
  obtain ⟨rfl, _⟩ := run_eq_ok ran
  rw [Work.get_bind, Work.get_bind]
  have same : later.setup = query.setup := setup_of_resolved resolved
  exact .bind (answers_told same (fun out => .inr (.inl out)) rows after)
    (fun _ _ _ _ => .inl rfl)

end Query

/-- A call, and its counterpart for callers that await. What registers something is the same for
both, and so is reading the values. -/
inductive Call.Twins : Call → Call → Prop where
  | registered {call : Call} (registers : call.registers = true) : Twins call call
  | bindings : Twins .bindings .bindings
  | compile : Twins (.compile false) (.compile true)
  | fetch (handle : HydratorHandle) : Twins (.fetch false handle) (.fetch true handle)
  | first (handle : HydratorHandle) : Twins (.first false handle) (.first true handle)
  | paginate (page perPage : Value) (handle : HydratorHandle) :
      Twins (.paginate false page perPage handle) (.paginate true page perPage handle)

open Query

/-- What can make a call and its awaited counterpart end with two names of one fault: an answer over
the link, a hydrator or an attribute that tells that nothing is left, or a count whose first row has
no columns. -/
inductive Call.RunsOut (link : Link σ) (hydrators : HydratorSource) (query : Query) (world : σ) :
    Call → Prop where
  | linked (out : link.RunsOut) (call : Call) : RunsOut link hydrators query world call
  | fetching {awaits : Bool} {handle : HydratorHandle}
      (out : query.HydratesOut hydrators handle) :
      RunsOut link hydrators query world (.fetch awaits handle)
  | first {awaits : Bool} {handle : HydratorHandle} (out : query.HydratesOut hydrators handle) :
      RunsOut link hydrators query world (.first awaits handle)
  | paging {awaits : Bool} {page perPage : Value} {handle : HydratorHandle}
      (out : query.HydratesOut hydrators handle) :
      RunsOut link hydrators query world (.paginate awaits page perPage handle)
  | counting {awaits : Bool} {page perPage : Value} {handle : HydratorHandle} {number size : Int}
      (pages : query.Pages page perPage number size)
      (hollow : HollowCount link (query.noting (query.excess size)) world) :
      RunsOut link hydrators query world (.paginate awaits page perPage handle)

theorem Query.paginate_told {link other : Link σ} (echoes : link.Echoes other)
    (hydrators : HydratorSource) (page perPage : Value) (handle : HydratorHandle) (query : Query)
    (world : σ) :
    Told ((Call.paginate false page perPage handle).RunsOut link hydrators query world)
      (paginate false hydrators link page perPage handle query world)
      (paginate true hydrators other page perPage handle query world) := by
  cases checked : pageWindow page perPage query with
  | mk outcome later =>
    rcases pageWindow_cases checked with ⟨fault, rfl, rfl⟩ | ⟨number, size, pages, _, _⟩
    · rw [paginate_eq_pageOf, paginate_eq_pageOf,
        Work.bind_of_error (Work.edit_apply checked world),
        Work.bind_of_error (Work.edit_apply checked world)]
      exact .inl rfl
    · rw [paginate_of_pages false hydrators link handle pages,
        paginate_of_pages true hydrators other handle pages]
      refine (pageOf_told echoes hydrators handle _ _ world).imp ?_
      rintro (out | out | hollow)
      · exact .linked out _
      · have same : (query.noting (query.excess size)).setup = query.setup := rfl
        exact .paging (out.of_setup same)
      · exact .counting pages hollow

/-- A call and its counterpart leave the same behind, and end alike. -/
theorem Query.answer_told {link other : Link σ} (echoes : link.Echoes other) {call twin : Call}
    (twins : call.Twins twin) (hydrators : HydratorSource) (query : Query) (world : σ) :
    Told (call.RunsOut link hydrators query world) (answer hydrators link call query world)
      (answer hydrators other twin query world) := by
  cases twins with
  | registered registers =>
      apply Or.inl
      cases call with
      | attach => rfl
      | filter => rfl
      | orderBy => rfl
      | limit => rfl
      | offset => rfl
      | _ => cases registers
  | bindings => exact .inl rfl
  | compile =>
      exact .bind ((compile_told echoes query world).imp (.linked · _)) (fun _ _ _ _ => .inl rfl)
  | fetch handle =>
      refine .bind ((fetch_told echoes hydrators handle query world).imp ?_)
        (fun _ _ _ _ => .inl rfl)
      rintro (out | out)
      · exact .linked out _
      · exact .fetching out
  | first handle =>
      refine .bind ((fetchFirst_told echoes hydrators handle query world).imp ?_)
        (fun _ _ _ _ => .inl rfl)
      rintro (out | out)
      · exact .linked out _
      · exact .first out
  | paginate page perPage handle =>
      exact .bind (paginate_told echoes hydrators page perPage handle query world)
        (fun _ _ _ _ => .inl rfl)

namespace Session

/-- Sessions that have come equally far: their queries and their worlds are the same. -/
structure Level (first second : Session σ) : Prop where
  query : first.query = second.query
  world : first.world = second.world

variable {link other : Link σ} {hydrators : HydratorSource} {first second : Session σ}

theorem Level.call (level : Level first second) (echoes : link.Echoes other) {call twin : Call}
    (twins : call.Twins twin) :
    Level (first.call hydrators link call) (second.call hydrators other twin) ∧
      (first.outcome hydrators link call = second.outcome hydrators other twin ∨
        call.RunsOut link hydrators first.query first.world ∧
          first.outcome hydrators link call = misused .noItem ∧
          second.outcome hydrators other twin = misused .noItemAwaited) := by
  have told := answer_told echoes twins hydrators first.query first.world
  have turned : answer hydrators other twin second.query second.world =
      answer hydrators other twin first.query first.world := by
    rw [level.query, level.world]
  unfold Session.call Session.outcome
  rw [turned]
  rcases told with made | ⟨out, later, after, made, also⟩
  · rw [made]
    exact ⟨⟨rfl, rfl⟩, .inl rfl⟩
  · rw [made, also]
    exact ⟨⟨rfl, rfl⟩, .inr ⟨out, rfl, rfl⟩⟩

theorem Level.run (level : Level first second) (echoes : link.Echoes other)
    {calls also : List Call} (paired : List.Forall₂ Call.Twins calls also) :
    Level (first.run hydrators link calls) (second.run hydrators other also) := by
  induction paired generalizing first second with
  | nil => exact level
  | cons twins _ ih => exact ih (level.call echoes twins).1

end Session

/-- A connection that knows the columns of documents and fails to run statements, and that counts
how often it was talked to. -/
def failingConnection : Connection Nat :=
  { awaits := false
    dialectName := "mysql"
    send := fun _ count => (.error (.statementFailed "gone away"), count + 1)
    columns := fun _ table count => (.ok (documentColumns table), count + 1)
    manyColumns := fun area names count =>
      (.ok (names.map (fun name => ((area, name), documentColumns name))), count + 1) }

def failingLink (awaits : Bool) : Link (Questioned (Recorded Nat)) :=
  Questioned.link (Recorded.link (failingConnection.flavoured awaits).facade)

theorem failingLink_lasts : ¬ (failingLink false).RunsOut := by
  intro out
  have linked : ¬ (failingConnection.flavoured false).facade.RunsOut :=
    Connection.facade_lasts (fun _ _ => .refused nofun) (fun _ _ _ => .ok _)
      (fun _ _ _ => .ok _)
  exact linked out.of_questioned.of_recorded

def documentsWaiting : Session (Questioned (Recorded Nat)) :=
  (Session.opened (documentsSetup Config.initial) ⟨⟨0, []⟩, []⟩).run ⟨HydratorRegistry.initial, []⟩
    (Questioned.link (Recorded.link ⟨none, none⟩)) [.attach .single (.text "raw") (.text "*")]

theorem documentsWaiting_setup :
    documentsWaiting.query.setup = documentsSetup Config.initial := by
  unfold documentsWaiting
  exact Session.setup_run _ _ _ _ _

theorem documentsWaiting_lasts : ¬ documentsWaiting.query.HydratesOut
    ⟨HydratorRegistry.initial, []⟩ (.value .null) := by
  intro out
  have fresh : ({ setup := documentsSetup Config.initial } : Query).HydratesOut
      ⟨HydratorRegistry.initial, []⟩ (.value .null) := out.of_setup documentsWaiting_setup
  cases fresh with
  | own chosen custom =>
      have generic : HydratorRegistry.initial.resolve [] (.value (.text "generic")) =
          .ok ⟨.generic, false⟩ := rfl
      cases generic.symm.trans chosen
      cases custom
  | attributes out => exact Instrumentation.ofLists_lasts out

end NestedSelect
