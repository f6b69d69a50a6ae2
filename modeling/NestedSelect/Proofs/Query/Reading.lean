import Mathlib.Data.List.Induction
import NestedSelect.Proofs.Query.Discovery
import NestedSelect.Proofs.Query.Registration

/-!
What compiling and running a query does to it and to the world.

A call that reads finds out wildcards at most once and then runs statements that are built of the
query as it is from there on (`Reads`). Which statements these are is settled before the first one
is run (`prepare`): it fails then, or it runs them in turn as far as it gets (`Runs`).
-/

namespace NestedSelect

open Sql (BoundStatement Window)

variable {σ : Type}

namespace Query

inductive Drafts (query : Query) (statement : BoundStatement) : Prop where
  | page (window : Window) (built : query.build window = .ok statement) : Drafts query statement
  | count (built : query.buildCount = .ok statement) : Drafts query statement

/-- Statements that are built of a query and run one after another, whatever comes of them. -/
inductive Sends (executor : Executor σ) (query : Query) (world : σ) :
    List BoundStatement → σ → Prop where
  | none : Sends executor query world [] world
  | more {sent : List BoundStatement} {between : σ} (statement : BoundStatement)
      (before : Sends executor query world sent between) (drafted : query.Drafts statement) :
      Sends executor query world (sent ++ [statement])
        (executor.execute statement.text statement.values between).2

/-- What a call that only reads does, with the statements that it runs: it does nothing but note
warnings, or it stops when wildcards have been looked for, or it finds out all wildcards and runs
statements that are built of the query as it is then. -/
inductive Reads (link : Link σ) (query : Query) (world : σ) :
    List BoundStatement → Query → σ → Prop where
  | idle (warnings : List String) (noted : query.PageNotes warnings) :
      Reads link query world [] (query.noting warnings) world
  | stopped {awaits : Bool} {warnings : List String} {found : Outcome Unit} {later : Query}
      {after : σ}
      (discovery : Discovery awaits link.introspector? (query.noting warnings) world found later
        after) (noted : query.PageNotes warnings) : Reads link query world [] later after
  | ran {awaits : Bool} {warnings : List String} {later : Query} {between after : σ}
      {executor : Executor σ} {sent : List BoundStatement}
      (there : link.executor? = some executor)
      (discovery : Discovery awaits link.introspector? (query.noting warnings) world (.ok ()) later
        between)
      (sends : Sends executor later between sent after) (noted : query.PageNotes warnings) :
      Reads link query world sent later after

variable {link : Link σ} {query later : Query} {world after : σ}

theorem Reads.unchanged : Reads link query world [] query world := by
  have idle : Reads link query world [] (query.noting []) world := .idle [] .none
  rwa [noting_nil] at idle

theorem requireExecutor_eq_ok {awaits : Bool} {executor : Executor σ}
    (done : requireExecutor awaits link = .ok executor) : link.executor? = some executor := by
  unfold requireExecutor at done
  split at done
  · cases done
  · rename_i there
    split at done
    · cases done
      exact there
    · cases done

theorem compile_cases {awaits : Bool} {introspector? : Option (Introspector σ)}
    {outcome : Outcome BoundStatement}
    (done : compile awaits introspector? query world = ((outcome, later), after)) :
    (∃ fault, resolveWildcards awaits introspector? query world = ((.error fault, later), after) ∧
      outcome = .error fault) ∨
    (resolveWildcards awaits introspector? query world = ((.ok (), later), after) ∧
      outcome = later.build later.window) := by
  rw [compile_eq] at done
  rcases Work.bind_cases done with ⟨fault, failed, rfl⟩ | ⟨_, _, _, resolved, done⟩
  · exact .inl ⟨fault, failed, rfl⟩
  · obtain ⟨built, rfl, rfl⟩ := Work.lift_cases (Work.of_get done)
    exact .inr ⟨resolved, built.symm⟩

theorem compile_eq_ok {awaits : Bool} {introspector? : Option (Introspector σ)}
    {statement : BoundStatement}
    (done : compile awaits introspector? query world = ((.ok statement, later), after)) :
    resolveWildcards awaits introspector? query world = ((.ok (), later), after) ∧
      later.build later.window = .ok statement := by
  rcases compile_cases done with ⟨_, _, impossible⟩ | ⟨resolved, built⟩
  · cases impossible
  · exact ⟨resolved, built.symm⟩

theorem compile_of_discovery {awaits : Bool} {introspector? : Option (Introspector σ)}
    {found : Outcome Unit} (discovery : Discovery awaits introspector? query world found later
      after) :
    compile awaits introspector? query world =
      ((found >>= fun _ => later.build later.window, later), after) := by
  have resolved := resolveWildcards_of_discovery discovery
  rw [compile_eq]
  cases found with
  | error fault => exact Work.bind_of_error resolved
  | ok _ =>
      refine (Work.bind_of_ok resolved).trans ?_
      exact Work.lift_apply rfl later after

theorem run_cases {α : Type} {awaits : Bool} {executor : Executor σ} {statement : BoundStatement}
    {next : List Row → Work σ α} {outcome : Outcome α}
    (done : (run awaits executor statement >>= next) query world = ((outcome, later), after)) :
    (∃ fault, outcome = .error fault ∧ query = later ∧
      after = (executor.execute statement.text statement.values world).2) ∨
    ∃ rows, next rows query (executor.execute statement.text statement.values world).2 =
      ((outcome, later), after) := by
  have ran : run awaits executor statement query world = _ := run_apply rfl query
  rcases Work.bind_cases done with ⟨fault, failed, rfl⟩ | ⟨rows, _, _, first, done⟩
  · obtain ⟨same, rfl⟩ := Prod.mk.inj (ran.symm.trans failed)
    exact .inl ⟨fault, rfl, (Prod.mk.inj same).2, rfl⟩
  · obtain ⟨same, rfl⟩ := Prod.mk.inj (ran.symm.trans first)
    obtain ⟨_, rfl⟩ := Prod.mk.inj same
    exact .inr ⟨rows, done⟩

/-- The executor of a call and the statements that it is about to run, once all wildcards are found
out. -/
def prepare (awaits : Bool) (link : Link σ) (draft : Query → Outcome (List BoundStatement)) :
    Work σ (Executor σ × List BoundStatement) := do
  let executor ← requireExecutor awaits link
  resolveWildcards awaits link.introspector?
  let statements ← draft (← get)
  return (executor, statements)

def rowsDraft (query : Query) : Outcome (List BoundStatement) := do
  .ok [← query.build query.window]

/-- The statements of a page: the one that counts all rows, and the one that finds those on the
page unless it cannot be built. -/
def pageDraft (number size : Int) (query : Query) : Outcome (List BoundStatement) := do
  .ok ((← query.buildCount) ::
    (query.build ⟨.int size, .int ((number - 1) * size)⟩).toOption.toList)

def executed (executor : Executor σ) (world : σ) (statements : List BoundStatement) : σ :=
  statements.foldl
    (fun between statement => (executor.execute statement.text statement.values between).2) world

/-- How a call goes that prepares statements and runs them: it fails while it prepares them, or it
runs the first of them and as many more as it gets to. -/
inductive Runs {α : Type} (prepared : Work σ (Executor σ × List BoundStatement)) (query : Query)
    (world : σ) : Outcome α → List BoundStatement → Query → σ → Prop where
  | unprepared {fault : Fault} {later : Query} {after : σ}
      (failed : prepared query world = ((.error fault, later), after)) :
      Runs prepared query world (.error fault) [] later after
  | started {executor : Executor σ} {planned sent : List BoundStatement} {outcome : Outcome α}
      {later : Query} {between : σ}
      (ready : prepared query world = ((.ok (executor, planned), later), between))
      (part : sent <+: planned) (some : sent ≠ []) :
      Runs prepared query world outcome sent later (executed executor between sent)

theorem Runs.bind {α β : Type} {prepared : Work σ (Executor σ × List BoundStatement)}
    {outcome : Outcome α} {sent : List BoundStatement} (next : α → Outcome β)
    (goes : Runs prepared query world outcome sent later after) :
    Runs prepared query world (outcome >>= next) sent later after := by
  cases goes with
  | unprepared failed => exact .unprepared failed
  | started ready part some => exact .started ready part some

theorem Runs.map {α β : Type} {prepared : Work σ (Executor σ × List BoundStatement)}
    {outcome : Outcome α} {sent : List BoundStatement} (shape : α → β)
    (goes : Runs prepared query world outcome sent later after) :
    Runs prepared query world (outcome.map shape) sent later after := by
  cases goes with
  | unprepared failed => exact .unprepared failed
  | started ready part some => exact .started ready part some

theorem Runs.preceded {α β : Type} {first : Work σ β}
    {prepared : β → Work σ (Executor σ × List BoundStatement)} {outcome : Outcome α}
    {sent : List BoundStatement} {b : β} {middle : Query} {between : σ}
    (goes : Runs (prepared b) middle between outcome sent later after)
    (done : first query world = ((.ok b, middle), between)) :
    Runs (first >>= prepared) query world outcome sent later after := by
  cases goes with
  | unprepared failed => exact .unprepared ((Work.bind_of_ok done).trans failed)
  | started ready part some => exact .started ((Work.bind_of_ok done).trans ready) part some

theorem prepare_cases {awaits : Bool} {draft : Query → Outcome (List BoundStatement)}
    {outcome : Outcome (Executor σ × List BoundStatement)}
    (done : prepare awaits link draft query world = ((outcome, later), after)) :
    (∃ fault, requireExecutor awaits link = .error fault ∧ outcome = .error fault ∧
      later = query ∧ after = world) ∨
    ∃ executor found, requireExecutor awaits link = .ok executor ∧
      Discovery awaits link.introspector? query world found later after ∧
      outcome = found >>= fun _ => (draft later).map (executor, ·) := by
  unfold prepare at done
  rcases Work.check_cases done with ⟨fault, refused, rfl, rfl, rfl⟩ | ⟨executor, required, done⟩
  · exact .inl ⟨fault, refused, rfl, rfl, rfl⟩
  rcases Work.bind_cases done with ⟨fault, failed, rfl⟩ | ⟨_, _, _, resolved, done⟩
  · exact .inr ⟨executor, .error fault, required, resolveWildcards_discovery failed, rfl⟩
  have discovery := resolveWildcards_discovery resolved
  rcases Work.check_cases (Work.of_get done) with ⟨fault, undrafted, rfl, rfl, rfl⟩ |
    ⟨statements, drafted, done⟩
  · refine .inr ⟨executor, .ok (), required, discovery, ?_⟩
    rw [Outcome.bind_of_ok rfl, undrafted]
    rfl
  · cases done
    refine .inr ⟨executor, .ok (), required, discovery, ?_⟩
    rw [Outcome.bind_of_ok rfl, drafted]
    rfl

theorem prepare_of_refused {awaits : Bool} (draft : Query → Outcome (List BoundStatement))
    {fault : Fault} (refused : requireExecutor awaits link = .error fault) (query : Query)
    (world : σ) : prepare awaits link draft query world = ((.error fault, query), world) := by
  unfold prepare
  exact Work.bind_of_error (Work.lift_apply refused query world)

theorem prepare_of_discovery {awaits : Bool} (draft : Query → Outcome (List BoundStatement))
    {executor : Executor σ} {found : Outcome Unit}
    (required : requireExecutor awaits link = .ok executor)
    (discovery : Discovery awaits link.introspector? query world found later after) :
    prepare awaits link draft query world =
      ((found >>= fun _ => (draft later).map (executor, ·), later), after) := by
  have resolved := resolveWildcards_of_discovery discovery
  unfold prepare
  refine (Work.bind_of_ok (Work.lift_apply required query world)).trans ?_
  cases found with
  | error fault => exact Work.bind_of_error resolved
  | ok _ =>
      refine (Work.bind_of_ok resolved).trans ?_
      rw [Work.get_bind]
      cases drafted : draft later with
      | error fault => exact Work.bind_of_error (Work.lift_apply rfl later after)
      | ok statements => exact Work.bind_of_ok (Work.lift_apply rfl later after)

theorem prepare_asks {awaits : Bool} {draft : Query → Outcome (List BoundStatement)}
    {outcome : Outcome (Executor σ × List BoundStatement)}
    (done : prepare awaits link draft query world = ((outcome, later), after)) :
    (∃ fault, outcome = .error fault ∧ after = world) ∨
      ∃ found, Discovery awaits link.introspector? query world found later after ∧
        ∀ executor statements, outcome = .ok (executor, statements) →
          link.executor? = some executor := by
  rcases prepare_cases done with ⟨fault, _, failed, _, same⟩ |
    ⟨executor, found, required, discovery, came⟩
  · exact .inl ⟨fault, failed, same⟩
  refine .inr ⟨found, discovery, ?_⟩
  rintro _ _ rfl
  obtain ⟨_, rfl, shaped⟩ := Outcome.bind_eq_ok came.symm
  obtain ⟨_, _, same⟩ := Outcome.map_eq_ok shaped
  cases same
  exact requireExecutor_eq_ok required

theorem fetch_runs {awaits : Bool} {hydrators : HydratorSource} {handle : HydratorHandle}
    {outcome : Outcome (List Value)}
    (done : fetch awaits hydrators link handle query world = ((outcome, later), after)) :
    ∃ sent, Runs (prepare awaits link rowsDraft) query world outcome sent later after := by
  rw [fetch_eq] at done
  rcases Work.check_cases done with ⟨fault, refused, rfl, rfl, rfl⟩ | ⟨executor, required, done⟩
  · exact ⟨[], .unprepared (prepare_of_refused rowsDraft refused query world)⟩
  rcases Work.bind_cases done with ⟨fault, failed, rfl⟩ | ⟨statement, _, between, compiled, done⟩
  · rcases compile_cases failed with ⟨_, unresolved, same⟩ | ⟨resolved, unbuilt⟩
    · cases same
      exact ⟨[], .unprepared (prepare_of_discovery rowsDraft required
        (resolveWildcards_discovery unresolved))⟩
    · have ended := prepare_of_discovery rowsDraft required (resolveWildcards_discovery resolved)
      rw [Outcome.bind_of_ok rfl, rowsDraft, ← unbuilt] at ended
      exact ⟨[], .unprepared ended⟩
  rcases compile_cases compiled with ⟨_, _, impossible⟩ | ⟨resolved, built⟩
  · cases impossible
  have ready := prepare_of_discovery rowsDraft required (resolveWildcards_discovery resolved)
  rw [Outcome.bind_of_ok rfl, rowsDraft, ← built] at ready
  refine ⟨[statement], ?_⟩
  rcases run_cases done with ⟨fault, rfl, rfl, rfl⟩ | ⟨rows, done⟩
  · exact .started ready (List.prefix_refl _) (List.cons_ne_nil _ _)
  · obtain ⟨_, rfl, rfl⟩ := Work.lift_cases (Work.of_get done)
    exact .started ready (List.prefix_refl _) (List.cons_ne_nil _ _)

theorem fetchFirst_cases {awaits : Bool} {hydrators : HydratorSource} {handle : HydratorHandle}
    {outcome : Outcome Value}
    (done : fetchFirst awaits hydrators link handle query world = ((outcome, later), after)) :
    ∃ result, fetch awaits hydrators link handle query world = ((result, later), after) ∧
      outcome = result.map (fun items => items.head?.getD .null) := by
  rw [fetchFirst_eq] at done
  rcases Work.bind_cases done with ⟨fault, failed, rfl⟩ | ⟨items, _, _, first, done⟩
  · exact ⟨.error fault, failed, rfl⟩
  · cases done
    exact ⟨.ok items, first, rfl⟩

/-- A page that is not admitted is refused at once. For any other, the counting statement is run
first, and after it the one that finds the rows. -/
theorem paginate_runs {awaits : Bool} {hydrators : HydratorSource} {page perPage : Value}
    {handle : HydratorHandle} {outcome : Outcome Page}
    (done : paginate awaits hydrators link page perPage handle query world =
      ((outcome, later), after)) :
    (∃ fault, pageWindow page perPage query = (.error fault, query) ∧ outcome = .error fault ∧
      later = query ∧ after = world) ∨
    ∃ number size sent, query.Pages page perPage number size ∧
      Runs (prepare awaits link (pageDraft number size)) (query.noting (query.excess size)) world
        outcome sent later after := by
  rw [paginate_eq] at done
  rcases Work.edit_cases done with ⟨fault, checked, rfl, rfl⟩ | ⟨window, _, checked, done⟩
  · rcases pageWindow_cases checked with ⟨_, _, rfl⟩ | ⟨_, _, _, impossible, _⟩
    · exact .inl ⟨fault, checked, rfl, rfl, rfl⟩
    · cases impossible
  rcases pageWindow_cases checked with ⟨_, impossible, _⟩ | ⟨number, size, pages, same, rfl⟩
  · cases impossible
  cases same
  refine .inr ⟨number, size, ?_⟩
  rcases Work.check_cases done with ⟨fault, refused, rfl, rfl, rfl⟩ | ⟨executor, required, done⟩
  · exact ⟨[], pages, .unprepared (prepare_of_refused _ refused _ world)⟩
  rcases Work.bind_cases done with ⟨fault, failed, rfl⟩ | ⟨_, found, between, resolved, done⟩
  · exact ⟨[], pages, .unprepared (prepare_of_discovery _ required
      (resolveWildcards_discovery failed))⟩
  have ready := prepare_of_discovery (pageDraft number size) required
    (resolveWildcards_discovery resolved)
  rw [Outcome.bind_of_ok rfl, pageDraft] at ready
  -- From here on the query stays as it is, and only the executor is talked to.
  rcases Work.check_cases (Work.of_get done) with ⟨fault, unbuilt, rfl, rfl, rfl⟩ |
    ⟨counting, countBuilt, done⟩
  · rw [unbuilt] at ready
    exact ⟨[], pages, .unprepared ready⟩
  rw [countBuilt] at ready
  have counted : Runs (prepare awaits link (pageDraft number size))
      (query.noting (query.excess size)) world outcome [counting] found
      (executed executor between [counting]) :=
    .started ready (List.cons_prefix_cons.2 ⟨rfl, List.nil_prefix⟩) (List.cons_ne_nil _ _)
  rcases run_cases done with ⟨fault, rfl, rfl, rfl⟩ | ⟨rows, done⟩
  · exact ⟨_, pages, counted⟩
  rcases Work.check_cases done with ⟨fault, _, rfl, rfl, rfl⟩ | ⟨total, _, done⟩
  · exact ⟨_, pages, counted⟩
  rcases Work.check_cases (Work.of_get done) with ⟨fault, _, rfl, rfl, rfl⟩ |
    ⟨statement, pageBuilt, done⟩
  · exact ⟨_, pages, counted⟩
  rw [pageBuilt] at ready
  have both : Runs (prepare awaits link (pageDraft number size))
      (query.noting (query.excess size)) world outcome [counting, statement] found
      (executed executor between [counting, statement]) :=
    .started ready (List.prefix_refl _) (List.cons_ne_nil _ _)
  rcases run_cases done with ⟨fault, rfl, rfl, rfl⟩ | ⟨rows, done⟩
  · exact ⟨_, pages, both⟩
  rcases Work.check_cases (Work.of_get done) with ⟨fault, _, rfl, rfl, rfl⟩ | ⟨items, _, done⟩
  · exact ⟨_, pages, both⟩
  cases done
  exact ⟨_, pages, both⟩

theorem drafts_of_rowsDraft {planned : List BoundStatement}
    (drafted : query.rowsDraft = .ok planned) : ∀ statement ∈ planned, query.Drafts statement := by
  obtain ⟨only, built, same⟩ := Outcome.bind_eq_ok drafted
  cases same
  intro statement inside
  rw [List.mem_singleton.1 inside]
  exact .page _ built

theorem mem_pageDraft {number size : Int} {planned : List BoundStatement}
    (drafted : query.pageDraft number size = .ok planned) {statement : BoundStatement}
    (inside : statement ∈ planned) : query.buildCount = .ok statement ∨
      query.build ⟨.int size, .int ((number - 1) * size)⟩ = .ok statement := by
  obtain ⟨counting, counted, same⟩ := Outcome.bind_eq_ok drafted
  cases same
  rcases List.mem_cons.1 inside with rfl | rest
  · exact .inl counted
  · cases paged : query.build ⟨.int size, .int ((number - 1) * size)⟩ with
    | error fault =>
        rw [paged] at rest
        cases rest
    | ok only =>
        rw [paged] at rest
        rw [List.mem_singleton.1 rest]
        exact .inr rfl

theorem drafts_of_pageDraft {number size : Int} {planned : List BoundStatement}
    (drafted : query.pageDraft number size = .ok planned) :
    ∀ statement ∈ planned, query.Drafts statement := by
  intro statement inside
  rcases mem_pageDraft drafted inside with counted | found
  · exact .count counted
  · exact .page _ found

theorem sends_of_drafts {executor : Executor σ} {sent : List BoundStatement}
    (drafted : ∀ statement ∈ sent, query.Drafts statement) :
    Sends executor query world sent (executed executor world sent) := by
  induction sent using List.reverseRecOn with
  | nil => exact .none
  | append_singleton before statement ih =>
      have step := Sends.more statement
        (ih (fun other inside => drafted other (List.mem_append_left _ inside)))
        (drafted statement (List.mem_append_right _ (List.mem_singleton.2 rfl)))
      unfold executed at step ⊢
      rwa [List.foldl_append]

/-- What is run was drafted of the query as it is afterwards, by an executor that is there and after
all wildcards were found out. -/
theorem Runs.started_cases {α : Type} {awaits : Bool}
    {draft : Query → Outcome (List BoundStatement)} {outcome : Outcome α}
    {sent : List BoundStatement}
    (goes : Runs (prepare awaits link draft) query world outcome sent later after) :
    (∃ fault, prepare awaits link draft query world = ((.error fault, later), after) ∧
      outcome = .error fault ∧ sent = []) ∨
    ∃ executor planned between, requireExecutor awaits link = .ok executor ∧
      Discovery awaits link.introspector? query world (.ok ()) later between ∧
      draft later = .ok planned ∧ sent <+: planned ∧ sent ≠ [] ∧
      after = executed executor between sent := by
  cases goes with
  | unprepared failed => exact .inl ⟨_, failed, rfl, rfl⟩
  | started ready part some =>
      rcases prepare_cases ready with ⟨_, _, impossible, _⟩ |
        ⟨executor, found, required, discovery, came⟩
      · cases impossible
      obtain ⟨_, rfl, shaped⟩ := Outcome.bind_eq_ok came.symm
      obtain ⟨planned, drafted, same⟩ := Outcome.map_eq_ok shaped
      cases same
      exact .inr ⟨_, _, _, required, discovery, drafted, part, some, rfl⟩

theorem Runs.planned {α : Type} {awaits : Bool} {draft : Query → Outcome (List BoundStatement)}
    {outcome : Outcome α} {sent : List BoundStatement}
    (goes : Runs (prepare awaits link draft) query world outcome sent later after) :
    sent = [] ∨ ∃ planned, draft later = .ok planned ∧ sent <+: planned := by
  rcases goes.started_cases with ⟨_, _, _, none⟩ | ⟨_, planned, _, _, _, drafted, part, _⟩
  · exact .inl none
  · exact .inr ⟨planned, drafted, part⟩

theorem Runs.reads {α : Type} {awaits : Bool} {draft : Query → Outcome (List BoundStatement)}
    {outcome : Outcome α} {sent : List BoundStatement} {warnings : List String}
    (noted : query.PageNotes warnings)
    (drafts : ∀ found planned, draft found = .ok planned →
      ∀ statement ∈ planned, Drafts found statement)
    (goes : Runs (prepare awaits link draft) (query.noting warnings) world outcome sent later
      after) : Reads link query world sent later after := by
  rcases goes.started_cases with ⟨_, failed, _, rfl⟩ |
    ⟨executor, planned, _, required, discovery, drafted, part, _, rfl⟩
  · rcases prepare_cases failed with ⟨_, _, _, rfl, rfl⟩ | ⟨_, _, _, discovery, _⟩
    · exact .idle warnings noted
    · exact .stopped discovery noted
  · refine .ran (requireExecutor_eq_ok required) discovery (sends_of_drafts ?_) noted
    exact fun statement inside => drafts _ _ drafted statement (part.subset inside)

theorem compile_reads {awaits : Bool} {outcome : Outcome BoundStatement}
    (done : compile awaits link.introspector? query world = ((outcome, later), after)) :
    Reads link query world [] later after := by
  rw [← noting_nil query] at done
  rcases compile_cases done with ⟨fault, found, _⟩ | ⟨found, _⟩
  · exact .stopped (resolveWildcards_discovery found) .none
  · exact .stopped (resolveWildcards_discovery found) .none

theorem fetch_reads {awaits : Bool} {hydrators : HydratorSource} {handle : HydratorHandle}
    {outcome : Outcome (List Value)}
    (done : fetch awaits hydrators link handle query world = ((outcome, later), after)) :
    ∃ sent, Reads link query world sent later after := by
  obtain ⟨sent, goes⟩ := fetch_runs done
  rw [← noting_nil query] at goes
  exact ⟨sent, goes.reads .none (fun _ _ drafted => drafts_of_rowsDraft drafted)⟩

theorem fetchFirst_reads {awaits : Bool} {hydrators : HydratorSource} {handle : HydratorHandle}
    {outcome : Outcome Value}
    (done : fetchFirst awaits hydrators link handle query world = ((outcome, later), after)) :
    ∃ sent, Reads link query world sent later after := by
  obtain ⟨result, fetched, _⟩ := fetchFirst_cases done
  exact fetch_reads fetched

theorem paginate_reads {awaits : Bool} {hydrators : HydratorSource} {page perPage : Value}
    {handle : HydratorHandle} {outcome : Outcome Page}
    (done : paginate awaits hydrators link page perPage handle query world =
      ((outcome, later), after)) : ∃ sent, Reads link query world sent later after := by
  rcases paginate_runs done with ⟨_, _, _, rfl, rfl⟩ | ⟨number, size, sent, pages, goes⟩
  · exact ⟨[], .unchanged⟩
  · exact ⟨sent, goes.reads (.size pages.admitted)
      (fun _ _ drafted => drafts_of_pageDraft drafted)⟩

end Query

end NestedSelect
