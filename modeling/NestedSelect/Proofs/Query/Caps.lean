import NestedSelect.Proofs.Query.Recording
import NestedSelect.Proofs.Query.Wildcards

/-!
The caps of strict options.

Where violations are refused, no call takes a query past a cap: neither an accepted one nor one
that fails half way. `Capped` is what each call keeps. A page is checked when it is asked for, so
its cap is one on what is sent and not on the query.
-/

namespace NestedSelect

open Query
open Request (Settles)
open Sql (BoundStatement Window)

variable {σ : Type}

/-- Violations of the number of relations and wildcards are refused. -/
def Config.IsStrict (config : Config) : Prop := config.strictMode.isTruthy = true

/-- Limits that are too large are refused. -/
def Config.LimitsStrictly (config : Config) : Prop := config.strictLimitValidation.isTruthy = true

theorem Value.le_of_exceededBy {value : Value} {most n : Int} (whole : value.whole? = some most)
    (within : value.exceededBy n = .ok false) : n ≤ most := by
  cases value with
  | bool b =>
      cases whole
      have above : ¬ (if b then 1 else 0 : Int) < n :=
        of_decide_eq_false (Except.ok.inj within)
      omega
  | int greatest =>
      cases whole
      have above : ¬ most < n := of_decide_eq_false (Except.ok.inj within)
      omega
  | _ => cases whole

theorem Value.exceededBy_of_le {value : Value} {most n : Int} (whole : value.whole? = some most)
    (within : n ≤ most) : value.exceededBy n = .ok false := by
  cases value with
  | bool b =>
      cases whole
      exact congrArg Except.ok (decide_eq_false (by omega))
  | int greatest =>
      cases whole
      exact congrArg Except.ok (decide_eq_false (by omega))
  | _ => cases whole

theorem Leftover.strict {query : Query} {call : Call} {warnings : List String}
    {memory : List (String × Relation)} (left : Leftover query call warnings memory)
    (strict : query.setup.config.IsStrict) : warnings = [] := by
  cases left with
  | nothing => rfl
  | wildcard _ _ _ lenient =>
      rw [Config.IsStrict, lenient] at strict
      cases strict
  | @resolved _ _ _ _ wanted _ _ _ tolerated =>
      cases wild : wanted.isWildcard with
      | false => rfl
      | true =>
          rw [Config.IsStrict, tolerated wild] at strict
          cases strict

namespace Query

variable {query later : Query} {world after : σ}

theorem Attachable.strict {mode : RequestMode} {name columns : Value} {request : Request}
    (fit : Attachable query mode name columns request) (strict : query.setup.config.IsStrict) :
    request.columns.isWildcard = false ∧
      query.setup.config.maxRelations.exceededBy (query.relations.length + 1 : Nat) = .ok false ∧
      query.remarks request = [] := by
  have refuses : query.setup.config.strictMode.isTruthy ≠ false := by
    rw [strict]
    decide
  have named : request.columns.isWildcard = false :=
    Bool.eq_false_iff.2 (fun wild => refuses (fit.tolerated wild))
  obtain ⟨exceeded, counted, lenient⟩ := fit.counted
  have fewer : exceeded = false :=
    Bool.eq_false_iff.2 (fun more => refuses (lenient more).lenient)
  subst fewer
  refine ⟨named, counted, ?_⟩
  unfold remarks
  rw [named, surplus_of_exceededBy counted]
  rfl

theorem Admits.strict {label : String} {value : Value} {n : Int}
    (admitted : query.Admits label value n) (strict : query.setup.config.LimitsStrictly) :
    query.setup.config.maxLimit.exceededBy n = .ok false ∧ query.excess n = [] := by
  obtain ⟨exceeded, compared, lenient⟩ := admitted.compared
  have fewer : exceeded = false := by
    rw [Bool.eq_false_iff]
    intro more
    rw [Config.LimitsStrictly, (lenient more).lenient] at strict
    cases strict
  subst fewer
  refine ⟨compared, ?_⟩
  unfold excess
  rw [surplus_of_exceededBy compared]
  rfl

theorem PageNotes.strict {warnings : List String} (noted : query.PageNotes warnings)
    (strict : query.setup.config.LimitsStrictly) : warnings = [] := by
  cases noted with
  | none => rfl
  | size admitted => exact (admitted.strict strict).2

/-- What strict options guarantee of a query: the relations are not more than are allowed, the
limit is not above the greatest one, and nothing was noted. -/
structure Capped (query : Query) : Prop where
  relations : query.setup.config.IsStrict → query.relations ≠ [] →
    query.setup.config.maxRelations.exceededBy query.relations.length = .ok false
  limited : query.setup.config.LimitsStrictly → ∀ n, query.limit? = some n →
    query.setup.config.maxLimit.exceededBy n = .ok false
  silent : query.setup.config.IsStrict → query.setup.config.LimitsStrictly → query.warnings = []

namespace Capped

theorem fresh (setup : QuerySetup) : Capped { setup := setup } := by
  constructor
  · intro _ some
    exact absurd rfl some
  · intro _ n chosen
    cases chosen
  · intro _ _
    rfl

theorem noting {warnings : List String} (capped : query.Capped)
    (noted : query.setup.config.IsStrict → query.setup.config.LimitsStrictly → warnings = []) :
    (query.noting warnings).Capped := by
  refine ⟨capped.relations, capped.limited, ?_⟩
  intro strict limits
  have before := capped.silent strict limits
  have nothing := noted strict limits
  change query.warnings ++ warnings = []
  rw [before, nothing]
  rfl

theorem attaching {mode : RequestMode} {name columns : Value} {request : Request}
    (capped : query.Capped) (fit : Attachable query mode name columns request) :
    (query.attaching request (query.remarks request)).Capped := by
  have noted := capped.noting (fun strict _ => (fit.strict strict).2.2)
  refine ⟨?_, noted.limited, noted.silent⟩
  intro strict _
  have counted := (fit.strict strict).2.1
  change query.setup.config.maxRelations.exceededBy (query.relations ++ [request]).length = _
  rwa [List.length_append, List.length_singleton]

theorem discovery {awaits : Bool} {introspector? : Option (Introspector σ)}
    {found : Outcome Unit} (capped : query.Capped)
    (step : Discovery awaits introspector? query world found later after) : later.Capped := by
  have many : query.relations.length = later.relations.length := step.settles.length_eq
  have frame := step.frame
  rw [frame]
  refine ⟨?_, capped.limited, capped.silent⟩
  intro strict some
  have before : query.relations ≠ [] := by
    intro none
    rw [none] at many
    exact some (List.eq_nil_of_length_eq_zero many.symm)
  change query.setup.config.maxRelations.exceededBy later.relations.length = _
  rw [← many]
  exact capped.relations strict before

/-- No call takes a query past a cap, whatever comes of the call. -/
theorem advance {link : Link σ} {call : Call} {outcome : Outcome Answer} (capped : query.Capped)
    (step : Advance link query world call outcome later after) : later.Capped := by
  cases step with
  | attached fit => exact capped.attaching fit
  | filtered => exact ⟨capped.relations, capped.limited, capped.silent⟩
  | ordered => exact ⟨capped.relations, capped.limited, capped.silent⟩
  | limited admitted =>
      have noted := capped.noting (fun _ limits => (admitted.strict limits).2)
      refine ⟨noted.relations, ?_, noted.silent⟩
      intro limits n chosen
      cases chosen
      exact (admitted.strict limits).1
  | moved => exact ⟨capped.relations, capped.limited, capped.silent⟩
  | refused warnings memory _ left =>
      have noted := capped.noting (fun strict _ => left.strict strict)
      exact ⟨noted.relations, noted.limited, noted.silent⟩
  | read _ done =>
      cases done with
      | idle warnings noted => exact capped.noting (fun _ limits => noted.strict limits)
      | stopped found noted =>
          exact (capped.noting (fun _ limits => noted.strict limits)).discovery found
      | ran _ found _ noted =>
          exact (capped.noting (fun _ limits => noted.strict limits)).discovery found

theorem run (hydrators : HydratorSource) (link : Link σ) (setup : QuerySetup) (world : σ)
    (calls : List Call) :
    Capped ((Session.opened setup world).run hydrators link calls).query :=
  Session.run_preserves (fun session => Capped session.query)
    (fun session call capped => capped.advance (session.call_advance call)) (fresh setup) calls

end Capped

end Query

/-- A request with the columns that it was asked for with, and these are no wildcard. -/
def Request.NamedBy (asked : Attachment) (request : Request) : Prop :=
  requestedColumns asked.mode asked.columns request.name = .ok request.columns ∧
    request.columns.isWildcard = false

theorem Request.NamedBy.settle {fits : TableColumns} {asked : Attachment}
    {request settled : Request} (named : request.NamedBy asked)
    (step : Settles fits request settled) : settled.NamedBy asked := by
  cases step with
  | kept => exact named
  | found wild =>
      rw [isWildcard, named.2, Bool.and_false] at wild
      cases wild

theorem Session.named_run (hydrators : HydratorSource) (link : Link σ) {setup : QuerySetup}
    (strict : setup.config.IsStrict) (world : σ) (calls : List Call) :
    let session := (opened setup world).run hydrators link calls
    List.Forall₂ (fun asked request => Request.NamedBy asked request)
      (accepted Call.attachment? session.history) session.query.relations := by
  refine (run_preserves (fun session => session.query.setup = setup ∧
    List.Forall₂ (fun asked request => Request.NamedBy asked request)
      (accepted Call.attachment? session.history) session.query.relations) ?_ ⟨rfl, .nil⟩
    calls).2
  rintro session call ⟨rfl, before⟩
  have step : Advance link session.query session.world call
      (session.outcome hydrators link call) (session.call hydrators link call).query
      (session.call hydrators link call).world := session.call_advance call
  refine ⟨step.setup_eq, step.tracks ?_ (fun _ _ _ _ found => found.settles) ?_ before⟩
  · intro mode name columns request fit
    exact ⟨fit.asked, (fit.strict strict).1⟩
  · intro asked request settled named settles
    exact named.settle settles

namespace Query

variable {query : Query}

theorem ensurePaged_eq_ok {setup : QuerySetup} (paged : ensurePaged setup = .ok ()) :
    setup.baseQuery? = none := by
  unfold ensurePaged at paged
  split at paged
  · cases paged
  · rename_i rooted
    cases based : setup.baseQuery? with
    | none => rfl
    | some base =>
        rw [based] at rooted
        exact absurd rfl rooted

theorem windowText_of_ints (rooted : query.setup.baseQuery? = none) (size skipped : Int) :
    query.windowText ⟨.int size, .int skipped⟩ =
      if Text.isWritable size = true ∧ Text.isWritable skipped = true then
        .ok ("\nLIMIT " ++ toString size ++ ("\nOFFSET " ++ toString skipped))
      else misused .wrongValue := by
  have lines : query.windowText ⟨.int size, .int skipped⟩ = (do
      let limit ← Sql.numberLine "LIMIT" (.int size)
      let offset ← Sql.numberLine "OFFSET" (.int skipped)
      .ok (limit ++ offset)) := by
    unfold windowText
    rw [rooted]
    rfl
  rw [lines, Sql.numberLine_int, Sql.numberLine_int]
  cases few : Text.isWritable size with
  | false =>
      have unwritten : ¬ (false = true ∧ Text.isWritable skipped = true) := by simp
      rw [if_neg Bool.false_ne_true, if_neg unwritten]
      rfl
  | true =>
      rw [if_pos rfl, Outcome.bind_of_ok rfl]
      cases also : Text.isWritable skipped with
      | false =>
          have unwritten : ¬ (true = true ∧ false = true) := by simp
          rw [if_neg Bool.false_ne_true, if_neg unwritten]
          rfl
      | true =>
          rw [if_pos rfl, if_pos ⟨rfl, rfl⟩, Outcome.bind_of_ok rfl]
          rfl

theorem windowText_ints {size skipped : Int} {text : String}
    (rooted : query.setup.baseQuery? = none)
    (written : query.windowText ⟨.int size, .int skipped⟩ = .ok text) :
    text = "\nLIMIT " ++ toString size ++ ("\nOFFSET " ++ toString skipped) := by
  rw [windowText_of_ints rooted] at written
  split at written
  · cases written
    rfl
  · cases written

/-- A statement that finds a page of a number of rows: it ends in this number and the number of
rows before. -/
def Finds (size : Int) (statement : BoundStatement) : Prop :=
  ∃ head skipped, statement.text =
    head ++ ("\nLIMIT " ++ toString size ++ ("\nOFFSET " ++ toString (skipped : Int)))

theorem finds_of_build {size skipped : Int} {statement : BoundStatement}
    (composed : query.Composed) (rooted : query.setup.baseQuery? = none)
    (built : query.build ⟨.int size, .int skipped⟩ = .ok statement) : Finds size statement := by
  rw [build_eq composed.presentable] at built
  obtain ⟨source, _, built⟩ := Outcome.bind_eq_ok built
  obtain ⟨lines, written, built⟩ := Outcome.bind_eq_ok built
  cases built
  rw [windowText_ints rooted written]
  exact ⟨_, skipped, rfl⟩

end Query

theorem Session.paginate_sends (hydrators : HydratorSource) (link : Link σ)
    {session : Session (Recorded σ)} (composed : session.query.Composed) (awaits : Bool)
    (page perPage : Value) (handle : HydratorHandle) :
    let next := session.call hydrators (Recorded.link link) (.paginate awaits page perPage handle)
    ∃ sent, next.world.sent = session.world.sent ++ sent ∧
      (sent = [] ∨ ∃ number size planned, session.query.Pages page perPage number size ∧
        next.query.pageDraft number size = .ok planned ∧ sent <+: planned) := by
  intro next
  obtain ⟨result, paged, _⟩ := paginate_answered (rfl : answer hydrators (Recorded.link link)
    (.paginate awaits page perPage handle) session.query session.world = _)
  rcases paginate_runs paged with ⟨_, _, _, _, unmoved⟩ | ⟨number, size, sent, pages, goes⟩
  · refine ⟨[], ?_, .inl rfl⟩
    rw [List.append_nil]
    exact congrArg Recorded.sent unmoved
  · have reads := goes.reads (.size pages.admitted) (fun _ _ drafted => drafts_of_pageDraft drafted)
    refine ⟨sent, (Recorded.sent_reads composed reads).1, ?_⟩
    rcases goes.planned with none | ⟨planned, drafted, part⟩
    · exact .inl none
    · exact .inr ⟨number, size, planned, pages, drafted, part⟩

theorem Session.paginate_within (hydrators : HydratorSource) (link : Link σ)
    {session : Session (Recorded σ)} (composed : session.query.Composed)
    (limits : session.query.setup.config.LimitsStrictly) {most : Int}
    (whole : session.query.setup.config.maxLimit.whole? = some most) (awaits : Bool)
    (page perPage : Value) (handle : HydratorHandle) :
    let next := session.call hydrators (Recorded.link link) (.paginate awaits page perPage handle)
    ∃ sent, next.world.sent = session.world.sent ++ sent ∧ ∀ statement ∈ sent,
      next.query.buildCount = .ok statement ∨ ∃ size ≤ most, Finds size statement := by
  intro next
  obtain ⟨sent, grown, planned⟩ :=
    paginate_sends hydrators link composed awaits page perPage handle
  refine ⟨sent, grown, ?_⟩
  intro statement inside
  rcases planned with none | ⟨number, size, planned, pages, drafted, part⟩
  · rw [none] at inside
    cases inside
  have step : Advance (Recorded.link link) session.query session.world
      (.paginate awaits page perPage handle) _ next.query next.world := session.call_advance _
  have rooted : next.query.setup.baseQuery? = none := by
    rw [step.setup_eq]
    exact ensurePaged_eq_ok pages.paged
  rcases mem_pageDraft drafted (part.subset inside) with counted | found
  · exact .inl counted
  · refine .inr ⟨size, ?_, finds_of_build (composed.advance step) rooted found⟩
    exact Value.le_of_exceededBy whole (pages.admitted.strict limits).1

/-- The caps of strict options hold in every session, whatever was called and whatever came of it.
There are no more relations than are allowed, and none was asked for with a wildcard; the limit is
not above the greatest one, and neither is the number of rows on any page that is sent for; and
nothing is ever noted. -/
theorem strict_caps_hold (hydrators : HydratorSource) (link : Link σ) (setup : QuerySetup)
    (world : σ) (calls : List Call) :
    let link := Recorded.link link
    let session := (Session.opened setup ⟨world, []⟩).run hydrators link calls
    let config := setup.config
    (config.IsStrict →
      (config.maxRelations.exceededBy 0 = .ok false →
        config.maxRelations.exceededBy session.query.relations.length = .ok false) ∧
      (∀ most, config.maxRelations.whole? = some most → 0 ≤ most →
        (session.query.relations.length : Int) ≤ most) ∧
      List.Forall₂ (fun asked request => Request.NamedBy asked request)
        (accepted Call.attachment? session.history) session.query.relations) ∧
    (config.LimitsStrictly → ∀ most, config.maxLimit.whole? = some most →
      (∀ n, session.query.limit? = some n → n ≤ most) ∧
      ∀ awaits page perPage handle,
        let next := session.call hydrators link (.paginate awaits page perPage handle)
        ∃ sent, next.world.sent = session.world.sent ++ sent ∧ ∀ statement ∈ sent,
          next.query.buildCount = .ok statement ∨ ∃ size ≤ most, Finds size statement) ∧
    (config.IsStrict → config.LimitsStrictly → session.query.warnings = [] ∧
      ∀ call, newRecords session.query (session.call hydrators link call).query = []) := by
  intro link session config
  have same : session.query.setup = setup := Session.setup_run hydrators link setup _ calls
  have capped : session.query.Capped := .run hydrators link setup _ calls
  have composed : session.query.Composed := .run hydrators link setup _ calls
  refine ⟨?_, ?_, ?_⟩
  · intro strict
    have counted : config.maxRelations.exceededBy 0 = .ok false →
        config.maxRelations.exceededBy session.query.relations.length = .ok false := by
      intro none
      by_cases empty : session.query.relations = []
      · rwa [empty]
      · have within := capped.relations (same ▸ strict) empty
        rwa [same] at within
    refine ⟨counted, ?_, Session.named_run hydrators link strict _ calls⟩
    intro most whole positive
    exact Value.le_of_exceededBy whole (counted (Value.exceededBy_of_le whole positive))
  · intro limits most whole
    have limits : session.query.setup.config.LimitsStrictly := same ▸ limits
    have whole : session.query.setup.config.maxLimit.whole? = some most := same ▸ whole
    refine ⟨?_, ?_⟩
    · intro n chosen
      exact Value.le_of_exceededBy whole (capped.limited limits n chosen)
    · intro awaits page perPage handle
      exact Session.paginate_within hydrators _ composed limits whole awaits page perPage handle
  · intro strict limits
    refine ⟨capped.silent (same ▸ strict) (same ▸ limits), ?_⟩
    intro call
    have step : Advance link session.query session.world call (session.outcome hydrators link call)
        (session.call hydrators link call).query (session.call hydrators link call).world :=
      session.call_advance call
    have silent := (capped.advance step).silent (step.setup_eq ▸ same ▸ strict)
      (step.setup_eq ▸ same ▸ limits)
    unfold newRecords
    rw [silent, List.drop_nil, List.map_nil, ite_self]

theorem strict_caps_hold_documents :
    let config : Config :=
      { strictMode := .bool true, maxRelations := .int 1, strictLimitValidation := .bool true,
        maxLimit := .int 10 }
    let session := (Session.opened (documentsSetup config) ⟨(), []⟩).run
      ⟨HydratorRegistry.initial, []⟩ (Recorded.link ⟨none, none⟩)
      [.attach .single (.text "raw") (.list [.text "id"]),
        .attach .single (.text "doc") (.list [.text "id"]), .limit (.int 5), .limit (.int 11)]
    config.IsStrict ∧ config.LimitsStrictly ∧ session.query.relations.length = 1 ∧
      session.query.limit? = some 5 ∧
      (session.query.relations.length : Int) ≤ 1 ∧
      (∀ n, session.query.limit? = some n → n ≤ 10) ∧ session.query.warnings = [] := by
  intro config session
  have strict : config.IsStrict := rfl
  have limits : config.LimitsStrictly := rfl
  obtain ⟨counted, limited, silent⟩ := strict_caps_hold ⟨HydratorRegistry.initial, []⟩
    ⟨none, none⟩ (documentsSetup config) ()
    [.attach .single (.text "raw") (.list [.text "id"]),
      .attach .single (.text "doc") (.list [.text "id"]), .limit (.int 5), .limit (.int 11)]
  refine ⟨strict, limits, ?_, ?_, ?_, ?_, ?_⟩
  · decide +kernel +zetaReduce
  · decide +kernel +zetaReduce
  · exact (counted strict).2.1 1 rfl (by decide)
  · exact (limited limits 10 rfl).1
  · exact (silent strict limits).1

end NestedSelect
