import Mathlib.Data.List.Induction
import NestedSelect.Proofs.Query.Listing

/-!
Asking about tables together and one by one.

A query is followed twice: with a dialect that asks about all tables together, and with one that
asks about one after another. `Abreast` says what the two have in common: all but what is listed,
and of the listings the columns of every table. Asking keeps this up because an answer says the
same of a table either way. It can fail only for a table without columns, which an answer about
many tables may leave out: then the columns stay listed that a mapped model brought along.
-/

namespace NestedSelect

open Query
open Request (Settles)

variable {σ : Type}

def Generator.batching (g : Generator) (batch : Value) : Generator :=
  { g with dialect := { g.dialect with batchIntrospection := batch } }

def QuerySetup.batching (setup : QuerySetup) (batch : Value) : QuerySetup :=
  { setup with generator := setup.generator.batching batch }

/-- A call that registers something, or a compiling with an introspector that lists columns. -/
inductive Call.Composes (introspector? : Option (Introspector σ)) (tables : String → List Value) :
    Call → Prop where
  | registered {call : Call} (registers : call.registers = true) :
      Composes introspector? tables call
  | compiled (awaits : Bool) (lists : ∀ introspector, introspector? = some introspector →
      introspector.Lists awaits tables) : Composes introspector? tables (.compile awaits)

namespace QuerySetup

/-- Two relations that lead to one table: the columns of the first have to be asked for, those of
the second are known. -/
structure Mixes (setup : QuerySetup) (relation second : Relation) : Prop where
  offered : ∃ name, setup.Offers name relation
  also : ∃ name, setup.Offers name second
  same : second.table = relation.table
  unknown : staticColumns setup.schema (Hydration.handleOf relation.model?) relation.table
    setup.config = none
  known : ∃ columns, staticColumns setup.schema (Hydration.handleOf second.model?) second.table
    setup.config = some columns

def FillsMixed (setup : QuerySetup) (tables : String → List Value) : Prop :=
  ∀ relation second, setup.Mixes relation second → tables relation.table ≠ []

/-- Asking about tables together and one by one comes to the same in every session of registering
and compiling: the same answers to all calls, and the same columns for all requests. -/
def BatchesAlike (setup : QuerySetup) (tables : String → List Value) (together apart : Value)
    (hydrators : HydratorSource) (world : σ) : Prop :=
  ∀ (link : Link σ) calls, (∀ call ∈ calls, call.Composes link.introspector? tables) →
    let first := (Session.opened (setup.batching together) world).run hydrators link calls
    let second := (Session.opened (setup.batching apart) world).run hydrators link calls
    first.history = second.history ∧ first.query.relations = second.query.relations

variable {setup : QuerySetup} {tables : String → List Value} {relation second : Relation}

theorem Offers.batching {name : String} (offered : setup.Offers name relation) (batch : Value) :
    (setup.batching batch).Offers name relation :=
  ⟨offered.named, offered.plain, offered.found⟩

theorem Mixes.batching (mixes : setup.Mixes relation second) (batch : Value) :
    (setup.batching batch).Mixes relation second := by
  obtain ⟨⟨name, offered⟩, ⟨other, also⟩, same, unknown, known⟩ := mixes
  exact ⟨⟨name, offered.batching batch⟩, ⟨other, also.batching batch⟩, same, unknown, known⟩

theorem FillsMixed.batching (fills : setup.FillsMixed tables) (batch : Value) :
    (setup.batching batch).FillsMixed tables := by
  intro relation second mixes
  exact fills relation second (mixes.batching setup.generator.dialect.batchIntrospection)

theorem TakesWildcards.batching (takes : setup.TakesWildcards) (batch : Value) :
    (setup.batching batch).TakesWildcards :=
  ⟨takes.tolerated, takes.counted⟩

end QuerySetup

namespace Generator

variable (g : Generator) (batch : Value)

theorem selectItems_batching (requests : List Request) :
    (g.batching batch).selectItems requests = g.selectItems requests := by
  induction requests with
  | nil => rfl
  | cons request rest ih =>
      unfold selectItems
      rw [ih]
      rfl

theorem joinClauses_batching (requests : List Request) :
    (g.batching batch).joinClauses requests = g.joinClauses requests := by
  induction requests with
  | nil => rfl
  | cons request rest ih =>
      unfold joinClauses
      rw [ih]
      rfl

end Generator

namespace Query

variable {listings others : List (String × List Value)} {tables : String → List Value}
  {awaits : Bool} {query second : Query} {world between : σ}

theorem settled_clear (registered : ∀ request ∈ query.relations, request.Registered query.setup)
    (fills : ∀ request ∈ query.relations, request.isWildcard = true →
      query.setup.FillsMixed tables) :
    ∀ table ∈ pendingTables query.settled.relations, tables table = [] →
      columnsListed query.settled.listings table = [] := by
  intro table pending empty
  obtain ⟨request, left, asked, rfl⟩ := mem_pendingTables pending
  obtain ⟨inside, unknown⟩ := settleKnown_left request left asked
  have unlisted := settleKnown_waiting request left asked
  -- Nothing else can have listed the table: what is known of another relation to it makes the two
  -- mixed, and then the table has columns.
  have strangers : ∀ later ∈ query.relations, later.isWildcard = true →
      later.relation.table = request.relation.table →
        knownColumns query.setup query.listings later = none := by
    intro later there _ same
    rw [Query.knownColumns_eq, isUnlisted, same, unlisted]
    cases known : staticColumnsOf query.setup later with
    | none => rfl
    | some columns =>
        have mixes : query.setup.Mixes request.relation later.relation :=
          ⟨⟨_, (registered request inside).offers⟩, ⟨_, (registered later there).offers⟩, same,
            unknown, columns, known⟩
        exact absurd empty (fills request inside asked _ _ mixes)
  have kept := get?_settleKnown strangers
  unfold columnsListed at unlisted ⊢
  exact (congrArg (Option.getD · []) kept).trans unlisted

/-- A query, and the same one that asks about tables in another way. -/
inductive Abreast (apart : Value) (query : Query) : Query → Prop where
  | intro {listings : List (String × List Value)} (same : SameListed query.listings listings) :
      Abreast apart query
        { query with setup := query.setup.batching apart, listings := listings }

namespace Abreast

variable {apart : Value}

theorem sharesChecks (apart : Value) : SharesChecks (Abreast apart) := by
  constructor
  · rintro query _ ⟨same⟩
    exact ⟨rfl, rfl, rfl, rfl⟩
  · rintro query _ ⟨same⟩
    rfl
  · rintro query _ ⟨same⟩
    rfl
  · rintro query _ warnings ⟨same⟩
    exact ⟨same⟩
  · rintro query _ request ⟨same⟩
    exact ⟨same⟩
  · rintro query _ memory ⟨same⟩
    exact ⟨same⟩
  · rintro query _ added ⟨same⟩
    exact ⟨same⟩
  · rintro query _ n ⟨same⟩
    exact ⟨same⟩
  · rintro query _ n ⟨same⟩
    exact ⟨same⟩

theorem build_eq (abreast : query.Abreast apart second) (window : Sql.Window) :
    query.build window = second.build window := by
  obtain ⟨same⟩ := abreast
  unfold build selectList Generator.selectList Generator.joinList
  simp only [QuerySetup.batching, Generator.selectItems_batching,
    Generator.joinClauses_batching]
  rfl

theorem build_alike (abreast : query.Abreast apart second) :
    query.build query.window = second.build second.window := by
  rw [abreast.build_eq]
  obtain ⟨same⟩ := abreast
  rfl

theorem relations_eq (abreast : query.Abreast apart second) :
    query.relations = second.relations := by
  obtain ⟨same⟩ := abreast
  rfl

theorem same_listed (abreast : query.Abreast apart second) :
    SameListed query.listings second.listings := by
  obtain ⟨same⟩ := abreast
  exact same

theorem listing (abreast : query.Abreast apart second) (same : SameListed listings others) :
    (query.listing listings).Abreast apart (second.listing others) := by
  obtain ⟨_⟩ := abreast
  exact ⟨same⟩

theorem settled (abreast : query.Abreast apart second) :
    query.settled.Abreast apart second.settled := by
  obtain ⟨same⟩ := abreast
  have schema : query.setup.schema = (query.setup.batching apart).schema := rfl
  obtain ⟨relations, listed⟩ := same.settleKnown schema rfl query.relations
  unfold Query.settled
  simp only [← relations]
  exact ⟨listed⟩

theorem listed (abreast : query.Abreast apart second) :
    query.listed.Abreast apart second.listed := by
  obtain ⟨same⟩ := abreast
  unfold Query.listed
  simp only [← same.applyListings]
  exact ⟨same⟩

theorem marked (abreast : query.Abreast apart second) :
    ({ query with wildcardsResolved := true } : Query).Abreast apart
      { second with wildcardsResolved := true } := by
  obtain ⟨same⟩ := abreast
  exact ⟨same⟩

theorem discovery {introspector? : Option (Introspector σ)} (abreast : query.Abreast apart second)
    (lists : ∀ introspector, introspector? = some introspector →
      introspector.Lists awaits tables)
    (registered : ∀ request ∈ query.relations, request.Registered query.setup)
    (fills : ∀ request ∈ query.relations, request.isWildcard = true →
      query.setup.FillsMixed tables) (world between : σ) :
    ∃ found later since after turned,
      Discovery awaits introspector? query world found later after ∧
      Discovery awaits introspector? second between found since turned ∧
      later.Abreast apart since := by
  by_cases resolved : query.wildcardsResolved = true
  · refine ⟨.ok (), query, second, world, between, .known resolved, .known ?_, abreast⟩
    obtain ⟨same⟩ := abreast
    exact resolved
  have waiting : query.wildcardsResolved = false := Bool.eq_false_iff.2 resolved
  have also : second.wildcardsResolved = false := by
    obtain ⟨same⟩ := abreast
    exact waiting
  obtain ⟨result, listings, others, after, turned, asked, alsoAsked, same⟩ :=
    introspectPending_same lists abreast.settled.same_listed (settled_clear registered fills)
      world between
  have relations := abreast.settled.relations_eq
  have given := abreast.settled.listing same
  have applied : applyListings listings query.settled.relations =
      applyListings others second.settled.relations := by
    rw [same.applyListings, relations]
  rw [relations] at alsoAsked
  cases result with
  | error fault =>
      exact ⟨_, _, _, after, turned, .unanswered waiting asked, .unanswered also alsoAsked, given⟩
  | ok _ =>
      cases outcome : (applyListings listings query.settled.relations).2 with
      | error fault =>
          have missing : (applyListings others second.settled.relations).2 = .error fault :=
            applied ▸ outcome
          exact ⟨_, _, _, after, turned, .incomplete waiting asked outcome,
            .incomplete also alsoAsked missing, given.listed⟩
      | ok _ =>
          have enough : (applyListings others second.settled.relations).2 = .ok () :=
            applied ▸ outcome
          exact ⟨_, _, _, after, turned, .complete waiting asked outcome,
            .complete also alsoAsked enough, given.listed.marked⟩

theorem answer_compile {link : Link σ} (abreast : query.Abreast apart second)
    (lists : ∀ introspector, link.introspector? = some introspector →
      introspector.Lists awaits tables)
    (registered : ∀ request ∈ query.relations, request.Registered query.setup)
    (fills : ∀ request ∈ query.relations, request.isWildcard = true →
      query.setup.FillsMixed tables) (hydrators : HydratorSource) (world between : σ) :
    let done := answer hydrators link (.compile awaits) query world
    let also := answer hydrators link (.compile awaits) second between
    done.1.1 = also.1.1 ∧ done.1.2.Abreast apart also.1.2 := by
  obtain ⟨found, later, since, after, turned, discovery, alsoDiscovery, reached⟩ :=
    abreast.discovery lists registered fills world between
  simp only [NestedSelect.answer_compile hydrators discovery,
    NestedSelect.answer_compile hydrators alsoDiscovery, reached.build_alike]
  exact ⟨trivial, reached⟩

theorem filter_matches (apart column operator value : Value) :
    Edit.Matches (Abreast apart) Eq (filter column operator value)
      (filter column operator value) := by
  unfold filter
  refine .bind (.lift (.refl _)) ?_
  rintro added _ rfl
  apply Edit.Matches.modify
  rintro query _ ⟨same⟩
  exact ⟨same⟩

theorem answer_matches (apart : Value) {call : Call} (registers : call.registers = true)
    (hydrators : HydratorSource) (link : Link σ) :
    Work.Matches (Abreast apart) (fun _ _ : σ => True) Eq (answer hydrators link call)
      (answer hydrators link call) := by
  have checks := sharesChecks apart
  cases call with
  | attach mode name columns =>
      exact .bind (.edit (checks.register_matches mode name columns)) (fun _ _ _ => .pure rfl)
  | filter column operator value =>
      exact .bind (.edit (filter_matches apart column operator value)) (fun _ _ _ => .pure rfl)
  | orderBy column direction =>
      exact .bind (.edit (checks.orderBy_matches column direction)) (fun _ _ _ => .pure rfl)
  | limit value => exact .bind (.edit (checks.limit_matches value)) (fun _ _ _ => .pure rfl)
  | offset value => exact .bind (.edit (checks.offset_matches value)) (fun _ _ _ => .pure rfl)
  | _ => cases registers

end Abreast

end Query

theorem Request.Settles.mem_of_isWildcard {fits : TableColumns} {requests settled : List Request}
    (step : List.Forall₂ (Settles fits) requests settled) {request : Request}
    (inside : request ∈ settled) (asked : request.isWildcard = true) : request ∈ requests := by
  induction step with
  | nil => cases inside
  | cons first _ ih =>
      rcases List.mem_cons.1 inside with rfl | later
      · cases first with
        | kept => exact List.mem_cons_self
        | found =>
            rw [Request.isWildcard_listed] at asked
            cases asked
      · exact List.mem_cons_of_mem _ (ih later)

theorem Advance.takesWildcards {link : Link σ} {query later : Query} {world after : σ}
    {call : Call} {outcome : Outcome Answer}
    (step : Advance link query world call outcome later after)
    (before : ∀ request ∈ query.relations, request.isWildcard = true →
      query.setup.TakesWildcards) :
    ∀ request ∈ later.relations, request.isWildcard = true → later.setup.TakesWildcards := by
  have found {awaits : Bool} {warnings : List String} {outcome : Outcome Unit} {between : σ}
      (discovery : Discovery awaits link.introspector? (query.noting warnings) world outcome later
        between) :
      ∀ request ∈ later.relations, request.isWildcard = true → later.setup.TakesWildcards := by
    intro request inside asked
    rw [discovery.frame]
    exact before request (Settles.mem_of_isWildcard discovery.settles inside asked) asked
  cases step with
  | @attached _ _ _ attached fit =>
      intro request inside asked
      rcases List.mem_append.1 inside with earlier | last
      · exact before request earlier asked
      · rw [List.mem_singleton.1 last] at asked
        exact fit.takesWildcards (Bool.and_eq_true_iff.1 asked).2
  | filtered => exact before
  | ordered => exact before
  | limited => exact before
  | moved => exact before
  | refused => exact before
  | read _ done =>
      cases done with
      | idle => exact before
      | stopped discovery => exact found discovery
      | ran _ discovery => exact found discovery

namespace Session

variable {hydrators : HydratorSource} {link : Link σ} {setup : QuerySetup}
  {tables : String → List Value} {together apart : Value}

theorem takesWildcards_run (hydrators : HydratorSource) (link : Link σ) (setup : QuerySetup)
    (world : σ) (calls : List Call) :
    let session := (opened setup world).run hydrators link calls
    ∀ request ∈ session.query.relations, request.isWildcard = true →
      session.query.setup.TakesWildcards :=
  run_preserves (fun session => ∀ request ∈ session.query.relations, request.isWildcard = true →
      session.query.setup.TakesWildcards)
    (fun session call before => (session.call_advance call).takesWildcards before)
    (List.forall_mem_nil _) calls

/-- Sessions in which a query is used that asks about tables in two ways: what was answered is the
same. -/
structure Abreast (apart : Value) (first second : Session σ) : Prop where
  query : first.query.Abreast apart second.query
  history : first.history = second.history

theorem Abreast.call {first second : Session σ} (abreast : Abreast apart first second)
    (composed : first.query.Composed)
    (fills : ∀ request ∈ first.query.relations, request.isWildcard = true →
      first.query.setup.FillsMixed tables) {call : Call}
    (composes : call.Composes link.introspector? tables) (hydrators : HydratorSource) :
    Abreast apart (first.call hydrators link call) (second.call hydrators link call) := by
  have same : (answer hydrators link call first.query first.world).1.1 =
        (answer hydrators link call second.query second.world).1.1 ∧
      (answer hydrators link call first.query first.world).1.2.Abreast apart
        (answer hydrators link call second.query second.world).1.2 := by
    cases composes with
    | registered registers =>
        obtain ⟨same, reached, _⟩ := Query.Abreast.answer_matches apart registers hydrators link
          _ _ first.world second.world abreast.query trivial
        exact ⟨same.eq, reached⟩
    | compiled awaits lists =>
        exact abreast.query.answer_compile lists composed.registered fills hydrators _ _
  refine ⟨same.2, ?_⟩
  unfold Session.call
  simp only [abreast.history, same.1]

/-- Asking about tables together and one by one comes to the same in every session, if tables that
mixed relations lead to have columns. -/
theorem Abreast.run (hydrators : HydratorSource) (together apart : Value)
    (fills : setup.TakesWildcards → setup.FillsMixed tables) (world : σ) (calls : List Call)
    (composes : ∀ call ∈ calls, call.Composes link.introspector? tables) :
    Abreast apart ((opened (setup.batching together) world).run hydrators link calls)
      ((opened (setup.batching apart) world).run hydrators link calls) := by
  -- By the last call: what holds of every session is then known of the one before it.
  induction calls using List.reverseRecOn with
  | nil => exact ⟨⟨fun _ => rfl⟩, rfl⟩
  | append_singleton calls call ih =>
      have before := ih (fun other inside => composes other (List.mem_append_left _ inside))
      have last := composes call (List.mem_append_right _ List.mem_cons_self)
      have same := setup_run hydrators link (setup.batching together) world calls
      rw [run_append, run_append]
      refine before.call (Composed.run hydrators link _ world calls) ?_ last hydrators
      intro request inside asked
      have takes := takesWildcards_run hydrators link _ world calls request inside asked
      rw [same] at takes ⊢
      exact (fills (takes.batching setup.generator.dialect.batchIntrospection)).batching together

end Session

theorem Query.introspectPending_asked {introspector? : Option (Introspector σ)} {awaits : Bool}
    {tables : List String} {query later : Query} {world after : Questioned σ}
    {outcome : Outcome Unit}
    (batches : query.setup.generator.dialect.batchIntrospection.isTruthy = true)
    (done : introspectPending awaits (introspector?.map Questioned.introspector) tables query
      world = ((outcome, later), after)) :
    after.asked = world.asked ∨ ∃ asked, after.asked = world.asked ++ [.many asked] := by
  cases tables with
  | nil =>
      cases done
      exact .inl rfl
  | cons table rest =>
      cases introspector? with
      | none =>
          cases done
          exact .inl rfl
      | some introspector =>
          refine .inr ⟨table :: rest, ?_⟩
          unfold introspectPending introspect at done
          have done := Work.of_get done
          rw [if_pos batches] at done
          rcases Work.perform_cases done with ⟨_, answered, _, _⟩ | ⟨_, _, answered, done⟩
          · simp only [Questioned.introspector, Questioned.ask_noting] at answered
            rw [← (Prod.mk.inj answered).2]
          · cases done
            simp only [Questioned.introspector, Questioned.ask_noting] at answered
            rw [← (Prod.mk.inj answered).2]

theorem Session.compile_asked (hydrators : HydratorSource) (link : Link σ)
    (session : Session (Questioned σ)) (awaits : Bool)
    (batches : session.query.setup.generator.dialect.batchIntrospection.isTruthy = true) :
    let next := session.call hydrators (Questioned.link link) (.compile awaits)
    next.world.asked = session.world.asked ∨
      ∃ asked, next.world.asked = session.world.asked ++ [.many asked] := by
  obtain ⟨found, later, after, discovery⟩ := exists_discovery awaits
    (Questioned.link link).introspector? session.query session.world
  intro next
  have reached : next.world = after :=
    congrArg Prod.snd (answer_compile hydrators discovery)
  rw [reached]
  have batches : session.query.settled.setup.generator.dialect.batchIntrospection.isTruthy = true :=
    batches
  cases discovery with
  | known => exact .inl rfl
  | unanswered _ asked => exact introspectPending_asked batches asked
  | incomplete _ asked => exact introspectPending_asked batches asked
  | complete _ asked => exact introspectPending_asked batches asked

namespace Query

variable {query later : Query} {world after : σ} {awaits : Bool} {found : Outcome Unit}
  {request second : Request} {columns : List Value} {tables : String → List Value}

/-- A query that waits for two wildcards to one table: the columns of the first have to be asked
for, those of the second are known. -/
structure Mixed (query : Query) (request second : Request) (columns : List Value) : Prop where
  waiting : query.wildcardsResolved = false
  unlisted : query.listings = []
  pair : query.relations = [request, second]
  asked : request.isWildcard = true
  also : second.isWildcard = true
  unknown : staticColumnsOf query.setup request = none
  known : staticColumnsOf query.setup second = some columns
  same : second.relation.table = request.relation.table

theorem Mixed.settled (mixed : query.Mixed request second columns) :
    query.settled = { query with
      relations := [request, { second with columns := .listed columns }]
      listings := [(request.relation.table, columns)] } := by
  have waits : knownColumns query.setup [] request = none := mixed.unknown
  have found : knownColumns query.setup [] second = some columns := mixed.known
  unfold Query.settled
  simp only [mixed.pair, mixed.unlisted, settleKnown, mixed.asked, mixed.also, if_true, waits,
    found, Record.put, mixed.same]

/-- If their table has no columns, the first of two mixed wildcards is given those of the second
where tables are asked about together, and is left where they are asked about one by one. -/
theorem Mixed.relations (mixed : query.Mixed request second columns)
    (empty : tables request.relation.table = [])
    (discovery : Discovery awaits (some (Introspector.sparse tables)) query world found later
      after) :
    later.relations =
      if query.setup.generator.dialect.batchIntrospection.isTruthy then
        [{ request with columns := .listed columns }, { second with columns := .listed columns }]
      else [request, { second with columns := .listed columns }] := by
  have pending : pendingTables query.settled.relations = [request.relation.table] := by
    rw [mixed.settled]
    simp [pendingTables, mixed.asked, Request.isWildcard_listed, List.eraseDups_cons]
  have answered := introspectPending_sparse empty awaits query.settled world
  rw [← pending] at answered
  rw [discovery.relations_of_answered mixed.waiting answered, mixed.settled]
  have settled : ∀ other ∈ [{ second with columns := .listed columns }],
      other.isWildcard = false := by
    intro other inside
    rw [List.mem_singleton.1 inside]
    exact Request.isWildcard_listed second columns
  have filled : columns ≠ [] := staticColumns_ne_nil mixed.known
  split
  · have listed : request.isLeft [(request.relation.table, columns)] = false := by
      simp [Request.isLeft, isUnlisted, columnsListed, Record.get?, filled]
    have given : request.given [(request.relation.table, columns)] =
        { request with columns := .listed columns } := by
      simp [Request.given, mixed.asked, isUnlisted, columnsListed, Record.get?, filled]
    rw [applyListings_cons, if_neg (Bool.eq_false_iff.1 listed), applyListings_settled _ settled,
      given]
  · have left : request.isLeft [(request.relation.table, [])] = true := by
      simp [Request.isLeft, mixed.asked, isUnlisted, columnsListed, Record.get?]
    have emptied : Record.put request.relation.table [] [(request.relation.table, columns)] =
        [(request.relation.table, [])] := if_pos rfl
    rw [emptied, applyListings_cons, if_pos left]

end Query

theorem Session.compile_mixed (hydrators : HydratorSource) {session : Session σ}
    {request second : Request} {columns : List Value} {tables : String → List Value}
    (mixed : session.query.Mixed request second columns)
    (empty : tables request.relation.table = []) {link : Link σ}
    (sparse : link.introspector? = some (Introspector.sparse tables)) (awaits : Bool) :
    (session.call hydrators link (.compile awaits)).query.relations =
      if session.query.setup.generator.dialect.batchIntrospection.isTruthy then
        [{ request with columns := .listed columns }, { second with columns := .listed columns }]
      else [request, { second with columns := .listed columns }] := by
  obtain ⟨found, later, after, discovery⟩ :=
    exists_discovery awaits link.introspector? session.query session.world
  have reached : (session.call hydrators link (.compile awaits)).query = later :=
    congrArg (fun made => made.1.2) (answer_compile hydrators discovery)
  rw [reached]
  rw [sparse] at discovery
  exact mixed.relations empty discovery

theorem QuerySetup.Mixes.attach {setup : QuerySetup} {relation second : Relation}
    (mixes : setup.Mixes relation second) (takes : setup.TakesWildcards)
    (hydrators : HydratorSource) (link : Link σ) (world : σ) :
    ∃ request other columns calls, request.relation = relation ∧
      (∀ call ∈ calls, call.registers = true) ∧
      ∀ batch, ((Session.opened (setup.batching batch) world).run hydrators link
        calls).query.Mixed request other columns := by
  obtain ⟨⟨name, offered⟩, ⟨other, also⟩, same, unknown, columns, known⟩ := mixes
  have different : name ≠ other := by
    intro equal
    obtain rfl : relation = second :=
      Except.ok.inj (offered.found.symm.trans (equal ▸ also.found))
    cases unknown.symm.trans known
  obtain ⟨mode, counts, admitted⟩ := relation.kind.exists_mode
  obtain ⟨more, alsoCounts, alsoAdmitted⟩ := second.kind.exists_mode
  refine ⟨⟨name, mode, relation, .wildcard⟩, ⟨other, more, second, .wildcard⟩, columns,
    [.attach mode (.text name) (.text "*"), .attach more (.text other) (.text "*")], rfl, ?_, ?_⟩
  · intro call inside
    rcases List.mem_pair.1 inside with rfl | rfl
    · rfl
    · rfl
  · intro batch
    obtain ⟨warnings, _, _, reached⟩ := (takes.batching batch).attach_pair hydrators link world
      (offered.batching batch) (also.batching batch) different counts admitted alsoCounts
      alsoAdmitted
    rw [reached]
    exact ⟨rfl, rfl, rfl, Request.isWildcard_of_wildcard counts rfl,
      Request.isWildcard_of_wildcard alsoCounts rfl, unknown, known, same⟩

theorem QuerySetup.BatchesAlike.fills {setup : QuerySetup} {tables : String → List Value}
    {together apart : Value} {hydrators : HydratorSource} {world : σ}
    (law : setup.BatchesAlike tables together apart hydrators world)
    (batches : together.isTruthy = true) (single : apart.isTruthy = false)
    (takes : setup.TakesWildcards) : setup.FillsMixed tables := by
  intro relation second mixes empty
  let link : Link σ := ⟨none, some (Introspector.sparse tables)⟩
  obtain ⟨request, other, columns, calls, rfl, registers, mixed⟩ :=
    mixes.attach takes hydrators link world
  have composes : ∀ call ∈ calls ++ [.compile false],
      call.Composes link.introspector? tables := by
    intro call inside
    rcases List.mem_append.1 inside with attached | last
    · exact .registered (registers call attached)
    · rw [List.mem_singleton.1 last]
      apply Call.Composes.compiled
      intro introspector there
      cases there
      exact Introspector.sparse_lists tables false
  have compiled (batch : Value) :
      ((Session.opened (setup.batching batch) world).run hydrators link
        (calls ++ [.compile false])).query.relations =
        if batch.isTruthy then
          [{ request with columns := .listed columns }, { other with columns := .listed columns }]
        else [request, { other with columns := .listed columns }] := by
    have sparse : link.introspector? = some (Introspector.sparse tables) := rfl
    have reached := Session.compile_mixed hydrators (mixed batch) empty sparse false
    rw [Session.setup_run] at reached
    rw [Session.run_append]
    exact reached
  -- On one side the first request has columns, on the other it is still a wildcard.
  have same := (law link (calls ++ [.compile false]) composes).2
  rw [compiled together, compiled apart, if_pos batches,
    if_neg (Bool.eq_false_iff.1 single)] at same
  have settled := Request.isWildcard_listed request columns
  rw [(List.cons.inj same).1, (mixed apart).asked] at settled
  cases settled

/-- Asking about tables together and one by one comes to the same in every session exactly if the
tables have columns that mixed relations lead to, or wildcards can never be attached; and a
compiling asks at most one question where tables are asked about together. -/
theorem batching_agrees_iff (hydrators : HydratorSource) (setup : QuerySetup)
    (tables : String → List Value) (together apart : Value) (world : σ)
    (batches : together.isTruthy = true) (single : apart.isTruthy = false) :
    (setup.BatchesAlike tables together apart hydrators world ↔
      (setup.TakesWildcards → setup.FillsMixed tables)) ∧
    ∀ (link : Link σ) calls awaits,
      let session := (Session.opened (setup.batching together) ⟨world, []⟩).run hydrators
        (Questioned.link link) calls
      let next := session.call hydrators (Questioned.link link) (.compile awaits)
      next.world.asked = session.world.asked ∨
        ∃ asked, next.world.asked = session.world.asked ++ [.many asked] := by
  constructor
  · constructor
    · intro law takes
      exact law.fills batches single takes
    · intro fills link calls composes first second
      have abreast := Session.Abreast.run hydrators together apart fills world calls composes
      exact ⟨abreast.history, abreast.query.relations_eq⟩
  · intro link calls awaits session
    apply Session.compile_asked
    rw [Session.setup_run]
    exact batches

theorem batching_agrees_documents :
    (documentsSetup Config.initial).BatchesAlike documentColumns (.bool true) (.bool false)
      ⟨HydratorRegistry.initial, []⟩ () := by
  refine (batching_agrees_iff _ _ _ _ _ _ rfl rfl).1.2 ?_
  intro _ relation second mixes
  obtain ⟨name, offered⟩ := mixes.offered
  have own := documents_offered offered
  rw [Relation.ownColumns, mixes.unknown, Option.getD_none] at own
  rw [own]
  exact List.cons_ne_nil _ _

/-- If it has none, the bare relation is given the columns of the mapped model where tables are
asked about together, and cannot be compiled where they are asked about one by one. -/
theorem batching_told_documents :
    let hydrators : HydratorSource := ⟨HydratorRegistry.initial, []⟩
    let introspector : Introspector Unit := Introspector.sparse (fun _ => [])
    let attached (batch : Bool) :=
      (Session.opened ((documentsSetup Config.initial).batching (.bool batch)) ()).run hydrators
        ⟨none, some introspector⟩
        [.attach .single (.text "raw") (.text "*"), .attach .single (.text "doc") (.text "*")]
    introspector.Lists false (fun _ => []) ∧
      (∃ statement, (attached true).outcome hydrators ⟨none, some introspector⟩ (.compile false) =
        .ok (.statement statement)) ∧
      (attached false).outcome hydrators ⟨none, some introspector⟩ (.compile false) =
        .error (.columnsNotResolved "raw" "docs") :=
  ⟨Introspector.sparse_lists _ _, ⟨_, rfl⟩, rfl⟩

end NestedSelect
