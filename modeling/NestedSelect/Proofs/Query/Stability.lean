import NestedSelect.Proofs.Query.Composition
import NestedSelect.Proofs.Query.Questions
import NestedSelect.Proofs.Query.Wildcards

/-!
What stays of a query once it was compiled.

Compiling marks the wildcards as resolved, and from then on reading finds out nothing. Only an
accepted registration takes the mark away, and it adds its request at the end: requests that were
compiled have their columns and keep them.
-/

namespace NestedSelect

open Query
open Request (Settles)
open Sql (BoundStatement)

variable {σ : Type}

/-- What changes nothing that is compiled: a call that reads, or one that is refused. -/
def Quiet (made : Call × Outcome Answer) : Prop :=
  made.1.registers = true → ∃ fault, made.2 = .error fault

namespace Query

variable {query later : Query} {requests settled kept : List Request}

theorem Discovery.of_resolved {awaits : Bool} {introspector? : Option (Introspector σ)}
    {world after : σ} {found : Outcome Unit}
    (discovery : Discovery awaits introspector? query world found later after)
    (resolved : query.wildcardsResolved = true) :
    found = .ok () ∧ later = query ∧ after = world := by
  cases discovery with
  | known => exact ⟨rfl, rfl, rfl⟩
  | unanswered waiting => simp [resolved] at waiting
  | incomplete waiting => simp [resolved] at waiting
  | complete waiting => simp [resolved] at waiting

theorem Sends.asked_eq {executor : Executor σ} {record after : Questioned σ}
    {sent : List BoundStatement}
    (sends : Sends (Questioned.executor executor) query record sent after) :
    after.asked = record.asked := by
  induction sends with
  | none => rfl
  | more statement before drafted ih => exact ih

theorem Reads.of_resolved {link : Link σ} {record after : Questioned σ}
    {sent : List BoundStatement}
    (done : Reads (Questioned.link link) query record sent later after)
    (resolved : query.wildcardsResolved = true) :
    (∃ warnings memory, later = query.leaving warnings memory) ∧ after.asked = record.asked := by
  cases done with
  | idle warnings => exact ⟨⟨warnings, _, rfl⟩, rfl⟩
  | stopped discovery =>
      obtain ⟨-, rfl, rfl⟩ := discovery.of_resolved resolved
      exact ⟨⟨_, _, rfl⟩, rfl⟩
  | ran there discovery sends =>
      obtain ⟨-, rfl, rfl⟩ := discovery.of_resolved resolved
      obtain ⟨executor, -, rfl⟩ := Option.map_eq_some_iff.1 there
      exact ⟨⟨_, _, rfl⟩, sends.asked_eq⟩

theorem prefix_settles {fits : TableColumns}
    (step : List.Forall₂ (Settles fits) requests settled) (before : kept <+: requests)
    (known : ∀ request ∈ kept, request.isWildcard = false) : kept <+: settled := by
  induction step generalizing kept with
  | nil => exact before
  | @cons request found rest others first _ ih =>
      cases kept with
      | nil => exact List.nil_prefix
      | cons head tail =>
          obtain ⟨rfl, inside⟩ := List.cons_prefix_cons.1 before
          have settledHead := known head List.mem_cons_self
          have next := ih inside (fun other there => known other (List.mem_cons_of_mem head there))
          cases first with
          | kept => exact List.cons_prefix_cons.2 ⟨rfl, next⟩
          | found asked => simp [settledHead] at asked

/-- The text of a query with these select items after the columns of the root, and these joins. -/
def Laid (query : Query) (source : String) (items joins : List String) (text : String) : Prop :=
  ∃ lines, query.windowText query.window = .ok lines ∧
    text = "SELECT " ++
      String.intercalate ",\n       " ((query.setup.baseAlias ++ ".*") :: items) ++ " FROM " ++
        (source ++ Sql.clauseLine "" (String.intercalate "\n" joins) ++
          Sql.clauseLine "WHERE " (Sql.conditions query.filters query.setup.baseAlias)) ++
        query.orderText ++ lines

theorem source_congr (same : query.setup = later.setup) : query.source = later.source := by
  simp only [source, same]

theorem Composed.build_eq_ok {statement : BoundStatement} (composed : query.Composed)
    (done : query.build query.window = .ok statement) :
    ∃ source, query.source = .ok source ∧ statement.values = query.boundValues source.values ∧
      query.Laid source.text (query.relations.map query.setup.generator.item)
        (query.setup.generator.joins query.relations) statement.text := by
  rw [build_eq composed.presentable] at done
  obtain ⟨source, sourced, done⟩ := Outcome.bind_eq_ok done
  obtain ⟨lines, written, done⟩ := Outcome.bind_eq_ok done
  cases done
  exact ⟨source, sourced, rfl, lines, written, rfl⟩

end Query

theorem Generator.joins_append (g : Generator) (requests more : List Request) :
    g.joins (requests ++ more) = g.joins requests ++ g.joins more := by
  simp only [joins, List.filter_append, List.map_append]

namespace Advance

variable {query later : Query} {call : Call} {outcome : Outcome Answer}

theorem of_quiet {link : Link σ} {record after : Questioned σ}
    (step : Advance (Questioned.link link) query record call outcome later after)
    (resolved : query.wildcardsResolved = true) (quiet : Quiet (call, outcome)) :
    (∃ warnings memory, later = query.leaving warnings memory) ∧ after.asked = record.asked := by
  cases step with
  | refused warnings memory => exact ⟨⟨warnings, memory, rfl⟩, rfl⟩
  | read _ done => exact done.of_resolved resolved
  | attached => simp [Quiet, Call.registers] at quiet
  | filtered => simp [Quiet, Call.registers] at quiet
  | ordered => simp [Quiet, Call.registers] at quiet
  | limited => simp [Quiet, Call.registers] at quiet
  | moved => simp [Quiet, Call.registers] at quiet

theorem keeps_requests {link : Link σ} {world after : σ} {kept : List Request}
    (step : Advance link query world call outcome later after) (before : kept <+: query.relations)
    (known : ∀ request ∈ kept, request.isWildcard = false) : kept <+: later.relations := by
  cases step with
  | attached => exact before.trans (List.prefix_append _ _)
  | filtered => exact before
  | ordered => exact before
  | limited => exact before
  | moved => exact before
  | refused => exact before
  | read _ done =>
      cases done with
      | idle => exact before
      | stopped discovery => exact prefix_settles discovery.settles before known
      | ran _ discovery => exact prefix_settles discovery.settles before known

end Advance

namespace Session

variable {hydrators : HydratorSource} {link : Link σ}

def Rests (compiled later : Session (Questioned σ)) : Prop :=
  (∃ warnings memory, later.query = compiled.query.leaving warnings memory) ∧
    later.world.asked = compiled.world.asked

theorem rests_run {compiled : Session (Questioned σ)}
    (resolved : compiled.query.wildcardsResolved = true) (more : List Call) :
    let later := compiled.run hydrators (Questioned.link link) more
    (∀ made ∈ later.history.drop compiled.history.length, Quiet made) →
      compiled.Rests later := by
  intro later
  -- The calls since then are the part of the history that is new, and it grows at its end.
  refine (run_preserves
    (fun later => compiled.history.length ≤ later.history.length ∧
      ((∀ made ∈ later.history.drop compiled.history.length, Quiet made) → compiled.Rests later))
    ?_ ⟨Nat.le_refl _, fun _ => ⟨⟨[], _, (leaving_nil _).symm⟩, rfl⟩⟩ more).2
  intro between call before
  obtain ⟨longer, rests⟩ := before
  have grown : (between.call hydrators (Questioned.link link) call).history =
      between.history ++ [(call, between.outcome hydrators (Questioned.link link) call)] := rfl
  refine ⟨by simp only [grown, List.length_append]; omega, ?_⟩
  rw [grown, List.drop_append_of_le_length longer]
  intro quiet
  obtain ⟨⟨warnings, memory, same⟩, unasked⟩ :=
    rests (fun made inside => quiet made (List.mem_append_left _ inside))
  have stillResolved : between.query.wildcardsResolved = true := by
    rw [same]
    exact resolved
  obtain ⟨⟨noted, remembered, next⟩, silent⟩ := (between.call_advance call).of_quiet stillResolved
    (quiet _ (List.mem_append_right _ List.mem_cons_self))
  refine ⟨⟨warnings ++ noted, remembered, ?_⟩, silent.trans unasked⟩
  rw [next, same, leaving_leaving]

theorem prefix_run {compiled : Session σ} (known : ∀ request ∈ compiled.query.relations,
    request.isWildcard = false) (more : List Call) :
    compiled.query.relations <+: (compiled.run hydrators link more).query.relations :=
  run_preserves (fun later => compiled.query.relations <+: later.query.relations)
    (fun later call before => (later.call_advance call).keeps_requests before known)
    (List.prefix_refl _) more

theorem compiled_build {session : Session σ} {awaits : Bool} {statement : BoundStatement}
    (done : session.outcome hydrators link (.compile awaits) = .ok (.statement statement)) :
    let compiled := (session.call hydrators link (.compile awaits)).query
    compiled.build compiled.window = .ok statement ∧ compiled.wildcardsResolved = true ∧
      Discovery awaits link.introspector? session.query session.world (.ok ()) compiled
        (session.call hydrators link (.compile awaits)).world := by
  obtain ⟨found, later, after, discovery⟩ :=
    exists_discovery awaits link.introspector? session.query session.world
  have answered := answer_compile hydrators discovery
  simp only [outcome, call, answered] at done ⊢
  obtain ⟨built, same, shaped⟩ := Outcome.map_eq_ok done
  obtain ⟨_, rfl, same⟩ := Outcome.bind_eq_ok same
  cases shaped
  exact ⟨same, discovery.marked, discovery⟩

theorem bindings_of_compiled {session : Session σ} {awaits : Bool} {statement : BoundStatement}
    (composed : session.query.Composed)
    (done : session.outcome hydrators link (.compile awaits) = .ok (.statement statement)) :
    session.query.bindings = .ok statement.values := by
  obtain ⟨built, -, discovery⟩ := compiled_build done
  obtain ⟨source, sourced, bound, lines, written, -⟩ :=
    (composed.discovery discovery).build_eq_ok built
  rw [discovery.frame] at sourced bound written
  have sourcedBefore : session.query.source = .ok source := sourced
  have writtenBefore : session.query.windowText session.query.window = .ok lines := written
  have boundBefore : statement.values = session.query.boundValues source.values := bound
  unfold bindings
  rw [build_eq composed.presentable, Outcome.bind_of_ok sourcedBefore,
    Outcome.bind_of_ok writtenBefore, boundBefore]
  rfl

theorem composed_run {session : Session σ} (composed : session.query.Composed)
    (calls : List Call) : (session.run hydrators link calls).query.Composed :=
  run_preserves (fun later => later.query.Composed)
    (fun later call before => before.advance (later.call_advance call)) composed calls

theorem setup_kept (session : Session σ) (calls : List Call) :
    (session.run hydrators link calls).query.setup = session.query.setup :=
  run_preserves (fun later => later.query.setup = session.query.setup)
    (fun later call before => (later.call_advance call).setup_eq.trans before) rfl calls

/-- What is built after further calls begins, in its items and in its joins, with what was built
before them. -/
theorem laid_run {compiled extended : Session σ} {statement last : BoundStatement}
    {more : List Call} (composed : compiled.query.Composed)
    (resolved : compiled.query.wildcardsResolved = true)
    (reached : extended = compiled.run hydrators link more)
    (built : compiled.query.build compiled.query.window = .ok statement)
    (rebuilt : extended.query.build extended.query.window = .ok last) :
    let g := compiled.query.setup.generator
    ∃ added source, extended.query.relations = compiled.query.relations ++ added ∧
      compiled.query.Laid source (compiled.query.relations.map g.item)
        (g.joins compiled.query.relations) statement.text ∧
      extended.query.Laid source (compiled.query.relations.map g.item ++ added.map g.item)
        (g.joins compiled.query.relations ++ g.joins added) last.text := by
  subst reached
  obtain ⟨added, grown⟩ : compiled.query.relations <+:
      (compiled.run hydrators link more).query.relations :=
    prefix_run (composed.resolved resolved) more
  have same : (compiled.run hydrators link more).query.setup = compiled.query.setup :=
    compiled.setup_kept more
  obtain ⟨source, sourced, -, laid⟩ := composed.build_eq_ok built
  obtain ⟨also, alsoSourced, -, laidAgain⟩ := (composed_run composed more).build_eq_ok rebuilt
  rw [source_congr same] at alsoSourced
  cases sourced.symm.trans alsoSourced
  rw [← grown, List.map_append, Generator.joins_append, same] at laidAgain
  exact ⟨added, source.text, grown.symm, laid, laidAgain⟩

theorem compile_of_resolved {later : Session σ} (awaits : Bool)
    (resolved : later.query.wildcardsResolved = true) :
    answer hydrators link (.compile awaits) later.query later.world =
      (((later.query.build later.query.window).map Answer.statement, later.query),
        later.world) :=
  answer_compile hydrators (.known resolved)

end Session

/-- Whatever is called after a query was compiled: while nothing is accepted, compiling again gives
the same statement, asks nothing and finds the query as it was but for warnings and for relations
that are remembered. And whenever compiling succeeds again, select items and joins are those of
before, followed by those of requests that were attached since. The values can be had before
compiling, and without asking. -/
theorem compiled_is_stable (hydrators : HydratorSource) (link : Link σ) (setup : QuerySetup)
    (world : σ) (calls more : List Call) (awaits : Bool) (statement : BoundStatement)
    (done : ((Session.opened setup ⟨world, []⟩).run hydrators (Questioned.link link) calls).outcome
      hydrators (Questioned.link link) (.compile awaits) = .ok (.statement statement)) :
    let link := Questioned.link link
    let session := (Session.opened setup ⟨world, []⟩).run hydrators link calls
    let compiled := session.call hydrators link (.compile awaits)
    let later := compiled.run hydrators link more
    (session.outcome hydrators link .bindings = .ok (.items statement.values) ∧
      (session.call hydrators link .bindings).query = session.query ∧
      (session.call hydrators link .bindings).world = session.world) ∧
    ((∀ made ∈ later.history.drop compiled.history.length, Quiet made) → ∀ again,
      later.outcome hydrators link (.compile again) = .ok (.statement statement) ∧
        (later.call hydrators link (.compile again)).world.asked = compiled.world.asked ∧
        ∃ warnings memory, (later.call hydrators link (.compile again)).query =
          compiled.query.leaving warnings memory) ∧
    ∀ again last, later.outcome hydrators link (.compile again) = .ok (.statement last) →
      let extended := (later.call hydrators link (.compile again)).query
      let g := setup.generator
      ∃ added source, extended.relations = compiled.query.relations ++ added ∧
        compiled.query.Laid source (compiled.query.relations.map g.item)
          (g.joins compiled.query.relations) statement.text ∧
        extended.Laid source (compiled.query.relations.map g.item ++ added.map g.item)
          (g.joins compiled.query.relations ++ g.joins added) last.text := by
  intro link session compiled later
  obtain ⟨built, resolved, discovery⟩ := Session.compiled_build done
  have composed : session.query.Composed := .run hydrators link setup _ calls
  have sound : compiled.query.Composed := composed.discovery discovery
  refine ⟨?values, ?quiet, ?extending⟩
  case values =>
    have answered : answer hydrators link .bindings session.query session.world =
        ((.ok (.items statement.values), session.query), session.world) :=
      answered_of_work Answer.items
        (Work.lift_apply (Session.bindings_of_compiled composed done) _ _)
    simp only [Session.outcome, Session.call, answered, and_self]
  case quiet =>
    intro quiet again
    obtain ⟨⟨warnings, memory, same⟩, unasked⟩ := Session.rests_run resolved more quiet
    have stillResolved : later.query.wildcardsResolved = true := by
      rw [same]
      exact resolved
    have rebuilt : later.query.build later.query.window = .ok statement := by
      rw [same]
      exact built
    simp only [Session.outcome, Session.call, Session.compile_of_resolved again stillResolved,
      rebuilt]
    exact ⟨rfl, unasked, warnings, memory, same⟩
  case extending =>
    intro again last compiledAgain extended g
    obtain ⟨rebuilt, -, -⟩ := Session.compiled_build compiledAgain
    have reached : later.call hydrators link (.compile again) =
        compiled.run hydrators link (more ++ [.compile again]) :=
      (Session.run_append compiled more [.compile again]).symm
    have same : compiled.query.setup = setup :=
      (session.setup_kept [.compile awaits]).trans (Session.setup_run hydrators link setup _ calls)
    have laid := Session.laid_run sound resolved reached built rebuilt
    rwa [same] at laid

theorem compiled_is_stable_partners :
    let hydrators : HydratorSource := ⟨HydratorRegistry.initial, []⟩
    let link : Link Unit := ⟨none, some (Introspector.fixed documentColumns)⟩
    let recorded := Questioned.link link
    let session := (Session.opened (documentsSetup Config.initial) ⟨(), []⟩).run hydrators recorded
      [.attach .single (.text "raw") (.text "*")]
    let compiled := session.call hydrators recorded (.compile false)
    let later := compiled.run hydrators recorded [.text, .attach .count (.text "raw") .null]
    ∃ statement, session.outcome hydrators recorded (.compile false) = .ok (.statement statement) ∧
      (∀ made ∈ later.history.drop compiled.history.length, Quiet made) ∧
      later.outcome hydrators recorded (.compile true) = .ok (.statement statement) := by
  refine ⟨_, rfl, ?quiet, ((compiled_is_stable _ _ _ () _ _ false _ rfl).2.1 ?quiet true).1⟩
  case quiet =>
    intro made inside registers
    rcases List.mem_pair.1 inside with rfl | rfl
    · cases registers
    · exact ⟨_, rfl⟩

end NestedSelect
