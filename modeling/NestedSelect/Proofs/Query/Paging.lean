import NestedSelect.Proofs.Query.Caps
import NestedSelect.Proofs.Query.Framing
import NestedSelect.Proofs.Query.Recording
import NestedSelect.Proofs.Query.Aliases

/-!
The two statements of a page.

The rows are counted by a statement of their own. From its source on it is the statement of the
page, up to where that one orders the rows and takes a window of them, so what is counted is what
the pages are taken from. The count is sent first, and the page only if the count was answered with
a number.
-/

namespace NestedSelect

open Sql (BoundStatement)

variable {σ : Type}

namespace Query

def tableSource (query : Query) : String := query.setup.table ++ " " ++ query.setup.baseAlias

def counting (query : Query) : BoundStatement :=
  ⟨"SELECT COUNT(*) AS aggregate FROM " ++ query.body query.tableSource,
    Sql.conditionValues query.filters⟩

/-- The statement that finds some rows of a query over its root table, after others that are
skipped. -/
def finding (query : Query) (size skipped : Int) : BoundStatement :=
  ⟨"SELECT " ++ query.columnsText ++ " FROM " ++ query.body query.tableSource ++
    Sql.clauseLine "ORDER BY " (Sql.orderings query.orders query.setup.baseAlias) ++
      ("\nLIMIT " ++ toString size ++ ("\nOFFSET " ++ toString skipped)),
    Sql.conditionValues query.filters⟩

variable {query found later : Query} {world between after : σ} {awaits : Bool}

theorem source_of_rooted (rooted : query.setup.baseQuery? = none) :
    query.source = .ok ⟨query.tableSource, []⟩ := by
  simp only [source, rooted]
  rfl

theorem buildCount_of_rooted (composed : query.Composed)
    (rooted : query.setup.baseQuery? = none) : query.buildCount = .ok query.counting := by
  rw [buildCount_eq composed.presentable, Outcome.bind_of_ok (source_of_rooted rooted)]
  rfl

theorem build_of_rooted (composed : query.Composed) (rooted : query.setup.baseQuery? = none)
    (size skipped : Int) :
    query.build ⟨.int size, .int skipped⟩ =
      if Text.isWritable size = true ∧ Text.isWritable skipped = true then
        .ok (query.finding size skipped)
      else misused .wrongValue := by
  have order : query.orderText =
      Sql.clauseLine "ORDER BY " (Sql.orderings query.orders query.setup.baseAlias) := by
    unfold orderText
    rw [rooted]
    rfl
  rw [build_eq composed.presentable, Outcome.bind_of_ok (source_of_rooted rooted),
    windowText_of_ints rooted, order]
  split
  · rfl
  · rfl

theorem run_of_execute (awaits : Bool) (query : Query) {executor : Executor σ}
    {statement : BoundStatement} {result : Outcome (List Row)}
    (ran : (executor.execute statement.text statement.values world).1 = result) :
    run awaits executor statement query world =
      ((heard awaits result, query), executed executor world [statement]) := by
  rw [← ran]
  exact run_apply rfl query

def numberFound (executor : Executor σ) (statement : BoundStatement) (world : σ) : Outcome Int :=
  (executor.execute statement.text statement.values world).1 >>= scalarCount

section

variable {link : Link σ} {hydrators : HydratorSource} {handle : HydratorHandle}
  {executor : Executor σ} {number size : Int} {counting : BoundStatement}

theorem pageOf_counts (required : requireExecutor awaits link = .ok executor)
    (discovery : Discovery awaits link.introspector? query world (.ok ()) found between)
    (counted : found.buildCount = .ok counting) :
    pageOf awaits hydrators link handle (number, size) query world =
      (run awaits executor counting >>= fun counted => do
        let total ← heard awaits (scalarCount counted)
        let statement ← (← get).build ⟨.int size, .int ((number - 1) * size)⟩
        let rows ← run awaits executor statement
        let items ← heard awaits ((← get).answers hydrators handle rows)
        return ⟨items, total, number, size⟩) found between := by
  unfold pageOf
  refine (Work.bind_of_ok (Work.lift_apply required query world)).trans ?_
  refine (Work.bind_of_ok (resolveWildcards_of_discovery discovery)).trans ?_
  rw [Work.get_bind]
  exact Work.bind_of_ok (Work.lift_apply counted found between)

theorem pageOf_uncounted (required : requireExecutor awaits link = .ok executor)
    (discovery : Discovery awaits link.introspector? query world (.ok ()) found between)
    (counted : found.buildCount = .ok counting) {cause : Fault}
    (failed : numberFound executor counting between = .error cause) :
    ∃ fault, pageOf awaits hydrators link handle (number, size) query world =
      ((.error fault, found), executed executor between [counting]) := by
  rw [pageOf_counts required discovery counted]
  unfold numberFound at failed
  cases ran : (executor.execute counting.text counting.values between).1 with
  | error fault =>
      have refused := run_of_execute awaits found ran
      rw [heard_error] at refused
      exact ⟨_, Work.bind_of_error refused⟩
  | ok rows =>
      rw [ran] at failed
      have uncounted : scalarCount rows = .error cause := failed
      have answered := run_of_execute awaits found ran
      rw [heard_ok] at answered
      rw [Work.bind_of_ok answered, uncounted, heard_error]
      exact ⟨_, Work.bind_of_error (Work.lift_apply rfl found _)⟩

theorem pageOf_counted (required : requireExecutor awaits link = .ok executor)
    (discovery : Discovery awaits link.introspector? query world (.ok ()) found between)
    (counted : found.buildCount = .ok counting) {total : Int}
    (came : numberFound executor counting between = .ok total) :
    pageOf awaits hydrators link handle (number, size) query world =
      (do
        let statement ← (← get).build ⟨.int size, .int ((number - 1) * size)⟩
        let rows ← run awaits executor statement
        let items ← heard awaits ((← get).answers hydrators handle rows)
        return ⟨items, total, number, size⟩ : Work σ Page) found
          (executed executor between [counting]) := by
  obtain ⟨rows, ran, scalar⟩ := Outcome.bind_eq_ok came
  have answered := run_of_execute awaits found ran
  rw [heard_ok] at answered
  rw [pageOf_counts required discovery counted, Work.bind_of_ok answered, scalar, heard_ok]
  exact Work.bind_of_ok (Work.lift_apply rfl found _)

theorem pageOf_built (required : requireExecutor awaits link = .ok executor)
    (discovery : Discovery awaits link.introspector? query world (.ok ()) found between)
    (counted : found.buildCount = .ok counting) {total : Int}
    (came : numberFound executor counting between = .ok total) {paged : BoundStatement}
    (built : found.build ⟨.int size, .int ((number - 1) * size)⟩ = .ok paged) :
    ∃ outcome, pageOf awaits hydrators link handle (number, size) query world =
      ((outcome, found), executed executor between [counting, paged]) := by
  rw [pageOf_counted required discovery counted came, Work.get_bind,
    Work.bind_of_ok (Work.lift_apply built found _)]
  cases ran : (executor.execute paged.text paged.values
      (executed executor between [counting])).1 with
  | error fault =>
      have refused := run_of_execute awaits found ran
      rw [heard_error] at refused
      exact ⟨_, Work.bind_of_error refused⟩
  | ok rows =>
      have answered := run_of_execute awaits found ran
      rw [heard_ok] at answered
      rw [Work.bind_of_ok answered, Work.get_bind]
      cases found.answers hydrators handle rows with
      | error fault =>
          rw [heard_error]
          exact ⟨_, Work.bind_of_error (Work.lift_apply rfl found _)⟩
      | ok items =>
          rw [heard_ok]
          exact ⟨_, Work.bind_of_ok (Work.lift_apply rfl found _)⟩

theorem pageOf_unbuilt (required : requireExecutor awaits link = .ok executor)
    (discovery : Discovery awaits link.introspector? query world (.ok ()) found between)
    (counted : found.buildCount = .ok counting) {total : Int}
    (came : numberFound executor counting between = .ok total) {fault : Fault}
    (unbuilt : found.build ⟨.int size, .int ((number - 1) * size)⟩ = .error fault) :
    pageOf awaits hydrators link handle (number, size) query world =
      ((.error fault, found), executed executor between [counting]) := by
  rw [pageOf_counted required discovery counted came, Work.get_bind]
  exact Work.bind_of_error (Work.lift_apply unbuilt found _)

end

/-- What becomes of a page whose wildcards are found out, by what its count comes to. -/
structure Paginates (executor : Executor σ) (found : Query) (between : σ) (number size : Int)
    (outcome : Outcome Answer) (after : σ) : Prop where
  uncounted : ∀ cause, numberFound executor found.counting between = .error cause →
    (∃ fault, outcome = .error fault) ∧ after = executed executor between [found.counting]
  counted : ∀ total, numberFound executor found.counting between = .ok total →
    Text.isWritable size = true → Text.isWritable ((number - 1) * size) = true →
    after = executed executor between
      [found.counting, found.finding size ((number - 1) * size)]
  unwritten : ∀ total, numberFound executor found.counting between = .ok total →
    ¬ (Text.isWritable size = true ∧ Text.isWritable ((number - 1) * size) = true) →
    outcome = misused .wrongValue ∧ after = executed executor between [found.counting]

variable {link : Link σ} {hydrators : HydratorSource} {handle : HydratorHandle}
  {executor : Executor σ} {page perPage : Value} {number size : Int}

theorem Pages.of_setup {other : Query} (pages : query.Pages page perPage number size)
    (same : other.setup = query.setup) : other.Pages page perPage number size := by
  obtain ⟨paged, numbered, sized, whole, compared⟩ := pages
  rw [← same] at paged compared
  exact ⟨paged, numbered, sized, whole, compared⟩

theorem counted_framed (composed : query.Composed) (paged : ensurePaged query.setup = .ok ())
    (discovery : Discovery awaits link.introspector? query world (.ok ()) found between)
    (limit? offset? : Option Int) (warnings : List String) :
    let frame : Query :=
      { query with limit? := limit?, offset? := offset?, warnings := warnings }
    let last : Query := found.within frame
    Discovery awaits link.introspector? frame world (.ok ()) last between ∧ last.Composed ∧
      last.setup.baseQuery? = none ∧ last.buildCount = .ok found.counting := by
  intro frame last
  have alike : frame.setup.FindsAlike query.setup := ⟨rfl, rfl, rfl⟩
  have framed : Discovery awaits link.introspector? frame world (.ok ()) last between :=
    discovery.within alike
  have sound : last.Composed :=
    (show frame.Composed from ⟨composed.apart, composed.registered, composed.resolved,
      composed.faithful⟩).discovery framed
  have rooted : last.setup.baseQuery? = none := ensurePaged_eq_ok paged
  refine ⟨framed, sound, rooted, ?_⟩
  rw [buildCount_of_rooted sound rooted, discovery.frame]
  rfl

/-- A page goes this way whatever limit and offset the query has. -/
theorem paginates (composed : query.Composed) (pages : query.Pages page perPage number size)
    (required : requireExecutor awaits link = .ok executor)
    (discovery : Discovery awaits link.introspector? query world (.ok ()) found between)
    (limit? offset? : Option Int) :
    let made := answer hydrators link (.paginate awaits page perPage handle)
      { query with limit? := limit?, offset? := offset? } world
    Paginates executor found between number size made.1.1 made.2 := by
  let chosen : Query := { query with limit? := limit?, offset? := offset? }
  let frame : Query := chosen.noting (chosen.excess size)
  let last : Query := found.within frame
  have admitted : chosen.Pages page perPage number size := pages.of_setup rfl
  obtain ⟨framed, sound, rooted, counted⟩ :
      Discovery awaits link.introspector? frame world (.ok ()) last between ∧ last.Composed ∧
        last.setup.baseQuery? = none ∧ last.buildCount = .ok found.counting :=
    counted_framed composed pages.paged discovery limit? offset? frame.warnings
  have built : last.build ⟨.int size, .int ((number - 1) * size)⟩ =
      if Text.isWritable size = true ∧ Text.isWritable ((number - 1) * size) = true then
        .ok (found.finding size ((number - 1) * size))
      else misused .wrongValue := by
    rw [build_of_rooted sound rooted, discovery.frame]
    rfl
  -- The call answers what the page came to.
  have answered {result : Outcome Page} {after : σ}
      (ended : pageOf awaits hydrators link handle (number, size) frame world =
        ((result, last), after)) :
      answer hydrators link (.paginate awaits page perPage handle) chosen world =
        ((result >>= fun answered => answered.toRecord.map Answer.item, last), after) :=
    answered_of_paginate
      ((paginate_of_pages awaits hydrators link handle admitted world).trans ended)
  intro made
  constructor
  · intro cause failed
    obtain ⟨fault, ended⟩ := pageOf_uncounted required framed counted failed
    have same : made = _ := answered ended
    rw [same]
    exact ⟨⟨fault, rfl⟩, rfl⟩
  · intro total came few also
    rw [if_pos ⟨few, also⟩] at built
    obtain ⟨outcome, ended⟩ := pageOf_built required framed counted came built
    have same : made = _ := answered ended
    rw [same]
  · intro total came many
    rw [if_neg many] at built
    have same : made = _ := answered (pageOf_unbuilt required framed counted came built)
    rw [same]
    exact ⟨rfl, rfl⟩

end Query

open Query

theorem Session.paginate_refused (hydrators : HydratorSource) (link : Link σ)
    (session : Session σ) (awaits : Bool) (page perPage : Value) (handle : HydratorHandle)
    (refused : (∀ number size, ¬ session.query.Pages page perPage number size) ∨
      ∃ fault, requireExecutor awaits link = .error fault) :
    (session.call hydrators link (.paginate awaits page perPage handle)).world = session.world ∧
      ∃ fault, session.outcome hydrators link (.paginate awaits page perPage handle) =
        .error fault := by
  have ended : ∃ fault later, paginate awaits hydrators link page perPage handle session.query
      session.world = ((.error fault, later), session.world) := by
    cases checked : pageWindow page perPage session.query with
    | mk outcome later =>
        rcases pageWindow_cases checked with ⟨fault, rfl, rfl⟩ | ⟨number, size, pages, _, _⟩
        · rw [paginate_eq_pageOf]
          exact ⟨fault, _, Work.bind_of_error (Work.edit_apply checked session.world)⟩
        · rcases refused with none | ⟨fault, unfit⟩
          · exact absurd pages (none number size)
          · exact ⟨fault, _, (paginate_of_pages awaits hydrators link handle pages
              session.world).trans (Work.bind_of_error (Work.lift_apply unfit _ session.world))⟩
  obtain ⟨fault, later, ended⟩ := ended
  have answered := answered_of_paginate ended
  constructor
  · exact congrArg Prod.snd answered
  · exact ⟨fault, congrArg (fun made => made.1.1) answered⟩

theorem Session.paginates {hydrators : HydratorSource} {link : Link σ} {session : Session σ}
    {awaits : Bool} {page perPage : Value} {handle : HydratorHandle} {executor : Executor σ}
    {number size : Int} {found : Query} {between : σ} (composed : session.query.Composed)
    (pages : session.query.Pages page perPage number size)
    (required : requireExecutor awaits link = .ok executor)
    (discovery : Discovery awaits link.introspector? session.query session.world (.ok ()) found
      between) :
    let call : Call := .paginate awaits page perPage handle
    Paginates executor found between number size (session.outcome hydrators link call)
      (session.call hydrators link call).world :=
  Query.paginates composed pages required discovery session.query.limit? session.query.offset?

def countedLink : Link Unit :=
  ⟨some ⟨false, "mysql", fun _ _ world => (.ok [[("aggregate", .int 3)]], world)⟩, none⟩

def partnersCompiled : Session (Recorded Unit) :=
  (Session.opened (partnersUnder "base") ⟨(), []⟩).run ⟨HydratorRegistry.initial, []⟩
    (Recorded.link countedLink)
    [.attach .single (.text "profile") (.list [.text "name"]), .compile false]

theorem partnersCompiled_pages : partnersCompiled.query.Pages (.int 2) (.int 10) 2 10 := by
  have opened : Pages { setup := partnersUnder "base" } (.int 2) (.int 10) 2 10 :=
    ⟨rfl, rfl, rfl, rfl, false, rfl, fun impossible => absurd impossible Bool.false_ne_true⟩
  exact opened.of_setup (Session.setup_run _ _ _ _ _)

set_option maxRecDepth 4000 in
theorem partnersCompiled_resolved : resolveWildcards false none partnersCompiled.query
    partnersCompiled.world = ((.ok (), partnersCompiled.query), partnersCompiled.world) := rfl

end NestedSelect
