import NestedSelect.Proofs.Query.Questions
import NestedSelect.Proofs.Query.Revaluing

/-!
Sessions that differ in values only.

Two sessions make the same calls over the same link but for the values of filters and of the base
query. Call by call their queries stay the same but for these values (`Session.Revalues.call`), so
all that is written of them has the same text, and the same questions are asked. What an executor
makes of other values is its own affair; introspection must not see it.
-/

namespace NestedSelect

open Outcome (Alike)
open Sql (BoundStatement)
open Query

variable {σ β : Type}

inductive Call.Revalues : Call → Call → Prop where
  | same (call : Call) : Revalues call call
  | filter (column operator value other : Value) :
      Revalues (.filter column operator value) (.filter column operator other)

/-- Answers that show the same text, each with values of its own. -/
inductive Answer.Parallel (given other : List Value) : Answer → Answer → Prop where
  | done : Parallel given other .done .done
  | statement {first second : BoundStatement} (same : first.Parallel given other second) :
      Parallel given other (.statement first) (.statement second)
  | text (s : String) : Parallel given other (.text s) (.text s)
  | values : Parallel given other (.items given) (.items other)

def Link.Sees (view : σ → β) (link : Link σ) : Prop :=
  ∀ awaits, Option.Rel
    (Introspector.Agrees awaits awaits (fun world between => view world = view between))
    link.introspector? link.introspector?

def Link.Spares (view : σ → β) (link : Link σ) : Prop :=
  ∀ executor, link.executor? = some executor → ∀ text values world,
    view (executor.execute text values world).2 = view world

theorem Link.sees_all (link : Link σ) : link.Sees id :=
  fun awaits => Introspector.agrees_self awaits link.introspector?

theorem Link.Sees.questioned {view : σ → β} {link : Link σ} (sees : link.Sees view) :
    (Questioned.link link).Sees (fun record => (view record.world, record.asked)) := by
  intro awaits
  apply rel_map (sees awaits)
  intro first second agree
  apply Questioned.agrees _ _ agree
  · intro record other met
    exact congrArg Prod.fst met
  · intro record other world between question met moved
    rw [Prod.mk.injEq] at met ⊢
    exact ⟨moved, congrArg (· ++ [question]) met.2⟩

theorem Link.Sees.recorded {view : σ → β} {link : Link σ} (sees : link.Sees view) :
    (Recorded.link link).Sees (fun recorded => view recorded.world) := by
  intro awaits
  apply rel_map (sees awaits)
  intro first second agree
  exact Recorded.agrees (fun _ _ met => met) (fun _ _ _ _ _ moved => moved) agree

theorem Link.Spares.recorded {view : σ → β} {link : Link σ} (spares : link.Spares view) :
    (Recorded.link link).Spares (fun recorded => view recorded.world) := by
  intro executor there text values recorded
  obtain ⟨inner, given, rfl⟩ := Option.map_eq_some_iff.1 there
  exact spares inner given text values recorded.world

theorem Link.Spares.questioned {view : σ → β} {link : Link σ} (spares : link.Spares view) :
    (Questioned.link link).Spares (fun record => (view record.world, record.asked)) := by
  intro executor there text values record
  obtain ⟨inner, given, rfl⟩ := Option.map_eq_some_iff.1 there
  exact congrArg (·, record.asked) (spares inner given text values record.world)

theorem Questioned.spares_asked (link : Link σ) :
    (Questioned.link link).Spares Questioned.asked := by
  intro executor there text values record
  obtain ⟨inner, _, rfl⟩ := Option.map_eq_some_iff.1 there
  rfl

theorem executed_view (view : σ → β) {executor : Executor σ}
    (spares : ∀ text values world, view (executor.execute text values world).2 = view world)
    (statements : List BoundStatement) (world : σ) :
    view (executed executor world statements) = view world := by
  induction statements generalizing world with
  | nil => rfl
  | cons statement rest ih => exact (ih _).trans (spares _ _ _)

namespace Query

variable {view : σ → β} {link : Link σ} {hydrators : HydratorSource} {call also : Call}
  {query second later since : Query} {world between after turned : σ}

abbrev SameView (view : σ → β) (world between : σ) : Prop := view world = view between

theorem resolve_matches_view (sees : link.Sees view) (given other : List Value) (awaits : Bool) :
    Work.Matches (Parallel given other) (SameView view) Eq
      (resolveWildcards awaits link.introspector?) (resolveWildcards awaits link.introspector?) :=
  resolveWildcards_matches (Parallel.shares given other) (sees awaits)

theorem answer_matches (sees : link.Sees view) (hydrators : HydratorSource)
    (given other : List Value) (silent : call.runs = false) (valueless : call.filterValue? = none) :
    Work.Matches (Parallel given other) (SameView view) (Answer.Parallel given other)
      (answer hydrators link call) (answer hydrators link call) := by
  have builds := Parallel.builds given other
  have checks := Parallel.sharesChecks given other
  have resolved := resolve_matches_view sees given other
  cases call with
  | attach mode name columns =>
      exact .bind (.edit (checks.register_matches mode name columns))
        (fun _ _ _ => .pure .done)
  | filter => cases valueless
  | orderBy column direction =>
      exact .bind (.edit (checks.orderBy_matches column direction))
        (fun _ _ _ => .pure .done)
  | limit value =>
      exact .bind (.edit (checks.limit_matches value)) (fun _ _ _ => .pure .done)
  | offset value =>
      exact .bind (.edit (checks.offset_matches value)) (fun _ _ _ => .pure .done)
  | compile awaits =>
      exact .bind (compile_matches (resolved awaits) builds)
        (fun _ _ same => .pure (.statement same))
  | text =>
      refine .bind (compile_matches (resolved false) builds) ?_
      rintro _ _ ⟨text⟩
      exact .pure (.text text)
  | bindings =>
      apply Work.Matches.get_bind
      intro query second parallel
      refine .bind (.lift parallel.bindings) ?_
      rintro _ _ ⟨rfl, rfl⟩
      exact .pure .values
  | fetch => cases silent
  | first => cases silent
  | paginate => cases silent

theorem filter_answer_matches (hydrators : HydratorSource) (link : Link σ) (view : σ → β)
    (column operator value other : Value) :
    Work.Matches Revalues (SameView view) (fun answered shown => answered = .done ∧ shown = .done)
      (answer hydrators link (.filter column operator value))
      (answer hydrators link (.filter column operator other)) :=
  .bind (.edit (filter_matches column operator value other)) (fun _ _ _ => .pure ⟨rfl, rfl⟩)

theorem plan_matches_of {queries : Query → Query → Prop} {worlds : σ → σ → Prop}
    {statements : BoundStatement → BoundStatement → Prop}
    {plan : Work σ (Executor σ × List BoundStatement)} (builds : Builds queries statements)
    (resolved : ∀ awaits, Work.Matches queries worlds Eq
      (resolveWildcards awaits link.introspector?) (resolveWildcards awaits link.introspector?))
    (windows : ∀ page perPage,
      Edit.Matches queries Eq (pageWindow page perPage) (pageWindow page perPage))
    (planned : call.plan? link = some plan) :
    Work.Matches queries worlds
      (fun ready also => ready.1 = also.1 ∧ List.Forall₂ statements ready.2 also.2) plan plan := by
  cases call with
  | fetch awaits =>
      cases planned
      exact prepare_matches (resolved awaits) (fun _ _ start => builds.rowsDraft start)
  | first awaits =>
      cases planned
      exact prepare_matches (resolved awaits) (fun _ _ start => builds.rowsDraft start)
  | paginate awaits page perPage =>
      cases planned
      refine .bind (.edit (windows page perPage)) ?_
      rintro window _ rfl
      exact prepare_matches (resolved awaits) (fun _ _ start => builds.pageDraft _ _ start)
  | _ => cases planned

theorem plan_matches (sees : link.Sees view) (given other : List Value)
    {plan : Work σ (Executor σ × List BoundStatement)} (planned : call.plan? link = some plan) :
    Work.Matches (Parallel given other) (SameView view)
      (fun ready also => ready.1 = also.1 ∧
        List.Forall₂ (BoundStatement.Parallel given other) ready.2 also.2) plan plan :=
  plan_matches_of (Parallel.builds given other) (resolve_matches_view sees given other)
    (pageWindow_matches given other) planned

/-- What a call that runs nothing comes to with other values. -/
theorem Revalues.answer {outcome result : Outcome Answer} (revalues : query.Revalues second)
    (met : view world = view between) (sees : link.Sees view) (same : call.Revalues also)
    (silent : call.runs = false)
    (done : answer hydrators link call query world = ((outcome, later), after))
    (other : answer hydrators link also second between = ((result, since), turned)) :
    later.Revalues since ∧ view after = view turned ∧
      Alike (Answer.Parallel later.given since.given) outcome result := by
  have filtered {column operator value changed : Value}
      (done : Query.answer hydrators link (.filter column operator value) query world =
        ((outcome, later), after))
      (other : Query.answer hydrators link (.filter column operator changed) second between =
        ((result, since), turned)) :
      later.Revalues since ∧ view after = view turned ∧
        Alike (Answer.Parallel later.given since.given) outcome result := by
    have both := filter_answer_matches hydrators link view column operator value changed query
      second world between revalues met
    rw [done, other] at both
    obtain ⟨same, kept, moved⟩ := both
    refine ⟨kept, moved, ?_⟩
    cases same with
    | error fault => exact .error fault
    | ok shown =>
        obtain ⟨rfl, rfl⟩ := shown
        exact .ok .done
  cases same with
  | filter => exact filtered done other
  | same =>
      by_cases valueless : call.filterValue? = none
      · have both := answer_matches sees hydrators query.given second.given silent valueless query
          second world between ⟨revalues, rfl, rfl⟩ met
        rw [done, other] at both
        obtain ⟨same, kept, moved⟩ := both
        refine ⟨kept.revalues, moved, ?_⟩
        rw [kept.given, kept.other]
        exact same
      · cases call with
        | filter => exact filtered done other
        | _ => exact absurd rfl valueless

/-- What a call that runs statements comes to with other values. -/
theorem Revalues.runs {plan : Work σ (Executor σ × List BoundStatement)}
    {outcome result : Outcome Answer} {sent more : List BoundStatement}
    (revalues : query.Revalues second) (met : view world = view between) (sees : link.Sees view)
    (planned : call.plan? link = some plan)
    (goes : Runs plan query world outcome sent later after)
    (others : Runs plan second between result more since turned) :
    later.Revalues since ∧
    ((∃ fault, outcome = .error fault ∧ result = .error fault ∧ sent = [] ∧ more = [] ∧
        view after = view turned) ∨
      ∃ executor plans changed reached stopped, link.executor? = some executor ∧
        List.Forall₂ (BoundStatement.Parallel later.given since.given) plans changed ∧
        view reached = view stopped ∧
        sent ≠ [] ∧ sent <+: plans ∧ after = executed executor reached sent ∧
        more ≠ [] ∧ more <+: changed ∧ turned = executed executor stopped more) := by
  obtain ⟨kept, ended⟩ := Runs.alike (plan_matches sees query.given second.given planned)
    ⟨revalues, rfl, rfl⟩ met goes others
  refine ⟨kept.revalues, ended.imp_right ?_⟩
  rintro ⟨executor, plans, changed, reached, stopped, ready, parallel, seen, ran⟩
  refine ⟨executor, plans, changed, reached, stopped, Call.plan_executor planned ready, ?_, seen,
    ran⟩
  rw [kept.given, kept.other]
  exact parallel

end Query

/-- Sessions whose queries are the same but for values, in worlds in which the same is in view. -/
structure Session.Revalues (view : σ → β) (session second : Session σ) : Prop where
  query : session.query.Revalues second.query
  world : view session.world = view second.world

namespace Session.Revalues

variable {view : σ → β} {link : Link σ} {session second : Session σ}

theorem call {call also : Call} (start : Session.Revalues view session second)
    (hydrators : HydratorSource) (sees : link.Sees view) (same : call.Revalues also)
    (spares : call.runs = true → link.Spares view) :
    Session.Revalues view (session.call hydrators link call)
      (second.call hydrators link also) := by
  by_cases runs : call.runs = true
  · cases same with
    | filter => cases runs
    | same =>
        obtain ⟨plan, planned⟩ := Call.plan?_of_runs runs link
        obtain ⟨sent, goes⟩ := answer_runs planned (session.answered hydrators link call)
        obtain ⟨more, others⟩ := answer_runs planned (second.answered hydrators link call)
        obtain ⟨query, ended⟩ := start.query.runs start.world sees planned goes others
        refine ⟨query, ?_⟩
        rcases ended with ⟨_, _, _, _, _, met⟩ |
          ⟨executor, _, _, reached, stopped, there, _, met, _, _, ran, _, _, also⟩
        · exact met
        · have kept := executed_view view (spares runs executor there)
          rw [ran, also, kept, kept]
          exact met
  · obtain ⟨query, world, _⟩ := start.query.answer start.world sees same
      (Bool.eq_false_iff.2 runs) (session.answered hydrators link call)
      (second.answered hydrators link also)
    exact ⟨query, world⟩

theorem run {calls others : List Call} (start : Session.Revalues view session second)
    (hydrators : HydratorSource) (sees : link.Sees view)
    (alike : List.Forall₂ Call.Revalues calls others)
    (spares : ∀ call ∈ calls, call.runs = true → link.Spares view) :
    Session.Revalues view (session.run hydrators link calls)
      (second.run hydrators link others) := by
  induction alike generalizing session second with
  | nil => exact start
  | cons same _ ih =>
      have next := start.call hydrators sees same (spares _ List.mem_cons_self)
      exact ih next (fun call inside => spares call (List.mem_cons_of_mem _ inside))

end Session.Revalues

/-- The values that statements are bound to, in terms of the calls that were accepted. -/
theorem Session.given_run (hydrators : HydratorSource) (link : Link σ) (setup : QuerySetup)
    (world : σ) (calls : List Call) :
    let session := (opened setup world).run hydrators link calls
    session.query.given = setup.baseValues ++ accepted Call.filterValue? session.history := by
  intro session
  have same : session.query.setup = setup := setup_run hydrators link setup world calls
  have values : session.query.filters.map Filter.value =
      accepted Call.filterValue? session.history :=
    filterValues_run hydrators link setup world calls
  unfold Query.given boundValues Sql.conditionValues
  rw [same, values]

/-- What is compared when a call is made in two sessions: with what statements in mind it goes, how
much of these it sends, and what it answers if it sends nothing. -/
structure Session.Compared (hydrators : HydratorSource) (link : Link (Recorded σ))
    (given other : List Value) (session second : Session (Recorded σ)) (call also : Call)
    (sent more : List BoundStatement) : Prop where
  sends : (session.call hydrators link call).world.sent = session.world.sent ++ sent
  others : (second.call hydrators link also).world.sent = second.world.sent ++ more
  alike : sent = [] ↔ more = []
  silent : call.runs = false → sent = []
  answers : sent = [] → Alike (Answer.Parallel given other) (session.outcome hydrators link call)
    (second.outcome hydrators link also)
  planned : ∃ plans changed, List.Forall₂ (BoundStatement.Parallel given other) plans changed ∧
    sent <+: plans ∧ more <+: changed

theorem Session.Revalues.compared {view : σ → β} {link : Link σ}
    {session second : Session (Recorded (Questioned σ))} {call also : Call}
    (start : Session.Revalues (fun recorded => (view recorded.world.world, recorded.world.asked))
      session second)
    (hydrators : HydratorSource) (sees : link.Sees view) (same : call.Revalues also) :
    let recorded := Recorded.link (Questioned.link link)
    let next := session.call hydrators recorded call
    let following := second.call hydrators recorded also
    next.query.Revalues following.query ∧
      next.world.world.asked = following.world.world.asked ∧
      ∃ sent more, session.Compared hydrators recorded next.query.given following.query.given second
        call also sent more := by
  intro recorded next following
  have sees := sees.questioned.recorded
  by_cases runs : call.runs = true
  · cases same with
    | filter => cases runs
    | same =>
        obtain ⟨plan, planned⟩ := Call.plan?_of_runs runs recorded
        obtain ⟨sent, goes⟩ := answer_runs planned (session.answered hydrators recorded call)
        obtain ⟨more, others⟩ := answer_runs planned (second.answered hydrators recorded call)
        obtain ⟨query, ended⟩ := start.query.runs start.world sees planned goes others
        have sends := Recorded.sent_runs planned goes
        have also := Recorded.sent_runs planned others
        have running : call.runs = false → sent = [] :=
          fun silent => absurd (runs.symm.trans silent) Bool.noConfusion
        rcases ended with ⟨fault, failed, refused, rfl, rfl, met⟩ |
          ⟨executor, plans, changed, reached, stopped, there, parallel, met, some, part, ran,
            another, rest, turned⟩
        · refine ⟨query, (Prod.mk.inj met).2, [], [], sends, also, Iff.rfl, running, ?_,
            [], [], .nil, List.prefix_refl _, List.prefix_refl _⟩
          intro _
          rw [failed, refused]
          exact .error fault
        · have kept := executed_view
            (fun recorded : Recorded (Questioned σ) => recorded.world.asked)
            ((Questioned.spares_asked link).recorded executor there)
          refine ⟨query, ?_, sent, more, sends, also, iff_of_false some another, running,
            fun none => absurd none some, plans, changed, parallel, part, rest⟩
          have asked := (kept sent reached).trans
            ((Prod.mk.inj met).2.trans (kept more stopped).symm)
          rwa [← ran, ← turned] at asked
  · have silent := Bool.eq_false_iff.2 runs
    have first := session.answered hydrators recorded call
    have last := second.answered hydrators recorded also
    obtain ⟨query, met, outcomes⟩ := start.query.answer start.world sees same silent first last
    have waits : also.runs = false := by
      cases same with
      | same => exact silent
      | filter => rfl
    refine ⟨query, (Prod.mk.inj met).2, [], [], ?_, ?_, Iff.rfl, fun _ => rfl, fun _ => outcomes,
      [], [], .nil, List.prefix_refl _, List.prefix_refl _⟩
    · rw [List.append_nil]
      exact Recorded.sent_silent silent first
    · rw [List.append_nil]
      exact Recorded.sent_silent waits last

/-- Values never influence texts. Two sessions make the same calls, but for the values of filters
and for those that the base query is bound to, of which there are as many. After any calls, and for
any next one: the queries are the same but for these values, and the same questions were asked. Page
and count are built of both alike, with the same text or the same fault, and each is bound to the
values of its own session, in the same places. The next call answers alike if it sends nothing, and
what it sends are the first of statements that have the same text. -/
theorem values_never_written (hydrators : HydratorSource) (link : Link σ) (view : σ → β)
    (sees : link.Sees view) {setup other : QuerySetup} (setups : setup.Revalues other)
    {world since : σ} (met : view world = view since) {calls others : List Call}
    (alike : List.Forall₂ Call.Revalues calls others)
    (spares : ∀ made ∈ calls, made.runs = true → link.Spares view) {call also : Call}
    (same : call.Revalues also) :
    let recorded := Recorded.link (Questioned.link link)
    let session := (Session.opened setup ⟨⟨world, []⟩, []⟩).run hydrators recorded calls
    let second := (Session.opened other ⟨⟨since, []⟩, []⟩).run hydrators recorded others
    let next := session.call hydrators recorded call
    let following := second.call hydrators recorded also
    let given := setup.baseValues ++ accepted Call.filterValue? next.history
    let changed := other.baseValues ++ accepted Call.filterValue? following.history
    next.query.Revalues following.query ∧
      next.world.world.asked = following.world.world.asked ∧
      setup.baseValues.length = other.baseValues.length ∧ given.length = changed.length ∧
      (∀ window, Alike (BoundStatement.Parallel given changed) (next.query.build window)
        (following.query.build window)) ∧
      Alike (BoundStatement.Parallel given changed) next.query.buildCount
        following.query.buildCount ∧
      ∃ sent more, Session.Compared hydrators recorded given changed session second call also sent
        more := by
  intro recorded session second next following given changed
  have started : Session.Revalues (fun recorded : Recorded (Questioned σ) =>
        (view recorded.world.world, recorded.world.asked))
      (Session.opened setup ⟨⟨world, []⟩, []⟩) (Session.opened other ⟨⟨since, []⟩, []⟩) := by
    obtain ⟨based⟩ := setups
    exact ⟨.intro based .nil, congrArg (·, []) met⟩
  have reached := started.run hydrators sees.questioned.recorded alike
    (fun made inside runs => (spares made inside runs).questioned.recorded)
  obtain ⟨query, asked, sent, more, compared⟩ := reached.compared hydrators sees same
  have values : next.query.given = given := by
    have last := Session.given_run hydrators recorded setup ⟨⟨world, []⟩, []⟩ (calls ++ [call])
    rwa [Session.run_append] at last
  have others : following.query.given = changed := by
    have last := Session.given_run hydrators recorded other ⟨⟨since, []⟩, []⟩ (others ++ [also])
    rwa [Session.run_append] at last
  have parallel : Parallel given changed next.query following.query := ⟨query, values, others⟩
  have builds := Parallel.builds given changed
  refine ⟨query, asked, setups.baseValues_length, ?_,
    fun window => builds.build _ _ window parallel,
    builds.buildCount _ _ parallel, sent, more, ?_⟩
  · rw [← values, ← others]
    exact query.given_length
  · rw [← values, ← others]
    exact compared

def partnersOverOther : QuerySetup :=
  { partnersOverQuery with
    baseQuery? := some (.value (.tuple
      [.text "SELECT * FROM partners WHERE note <> '?' AND score > ?", .list [.int 5]])) }

theorem values_never_written_partners :
    let hydrators : HydratorSource := ⟨HydratorRegistry.initial, []⟩
    let link : Link Unit := ⟨some ⟨false, "mysql", fun _ _ => pure []⟩, none⟩
    let recorded := Recorded.link (Questioned.link link)
    let harmful : Value := .text "' OR 1 = 1 --"
    let calls (status : Value) : List Call :=
      [.attach .collection (.text "promocodes") (.text "*"),
        .filter (.text "status") (.text "=") status, .fetch false (.value .null)]
    let session := (Session.opened partnersOverQuery ⟨⟨(), []⟩, []⟩).run hydrators recorded
      (calls (.text "new"))
    let second := (Session.opened partnersOverOther ⟨⟨(), []⟩, []⟩).run hydrators recorded
      (calls harmful)
    partnersOverQuery.Revalues partnersOverOther ∧
      List.Forall₂ Call.Revalues (calls (.text "new")) (calls harmful) ∧
      link.Sees id ∧ link.Spares id ∧ session.world.sent.length = 1 ∧
      Alike (Answer.Parallel [.int 3, .text "new"] [.int 5, harmful])
        (session.outcome hydrators recorded (.compile false))
        (second.outcome hydrators recorded (.compile false)) := by
  intro hydrators link recorded harmful calls
  have setups : partnersOverQuery.Revalues partnersOverOther :=
    ⟨.some (.bound .tupled .tupled (.ok rfl))⟩
  have alike : List.Forall₂ Call.Revalues (calls (.text "new")) (calls harmful) :=
    .cons (.same _) (.cons (.filter _ _ _ _) (.cons (.same _) .nil))
  have sees : link.Sees id := link.sees_all
  have spares : link.Spares id := fun _ _ _ _ _ => rfl
  obtain ⟨_, _, _, _, _, _, sent, more, compared⟩ := values_never_written hydrators link id sees
    setups (rfl : id () = id ()) alike (fun _ _ _ => spares) (.same (.compile false))
  have answers := compared.answers (compared.silent rfl)
  have given : accepted Call.filterValue?
      (((Session.opened partnersOverQuery ⟨⟨(), []⟩, []⟩).run hydrators recorded
        (calls (.text "new"))).call hydrators recorded (.compile false)).history =
      [.text "new"] :=
    (accepted_none rfl _ _).trans ((accepted_none rfl _ _).trans rfl)
  have other : accepted Call.filterValue?
      (((Session.opened partnersOverOther ⟨⟨(), []⟩, []⟩).run hydrators recorded
        (calls harmful)).call hydrators recorded (.compile false)).history = [harmful] :=
    (accepted_none rfl _ _).trans ((accepted_none rfl _ _).trans rfl)
  rw [given, other] at answers
  refine ⟨setups, alike, sees, spares, ?_, answers⟩
  decide +kernel +zetaReduce

end NestedSelect
