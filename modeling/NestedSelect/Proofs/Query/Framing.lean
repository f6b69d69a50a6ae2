import NestedSelect.Proofs.Query.Matching
import NestedSelect.Proofs.Query.Reading

/-!
What registering, finding out wildcards and reading rows depend on.

Registering reads the relations of a query, those that it remembers, and of the setup the schema,
the matchers, the root and the options (`SharesChecks`). Finding out wildcards reads the relations,
the listings and the mark of resolved wildcards, and of the setup the schema, the options and the
dialect. So it matches on any queries that share these, with introspectors that give the same
answers (`resolveWildcards_matches`). In particular it goes the same way in any other frame. What
comes after it reads a query only through its statements and the answers it makes of rows.
-/

namespace NestedSelect

variable {σ τ : Type}

structure QuerySetup.FindsAlike (setup other : QuerySetup) : Prop where
  schema : setup.schema = other.schema
  config : setup.config = other.config
  dialect : setup.generator.dialect = other.generator.dialect

structure QuerySetup.ChecksAlike (setup other : QuerySetup) : Prop where
  schema : setup.schema = other.schema
  matchers : setup.matchers = other.matchers
  root : setup.root = other.root
  config : setup.config = other.config

/-- Introspectors that give the same answers to the same questions in worlds that are alike. -/
structure Introspector.Agrees (awaits also : Bool) (worlds : σ → τ → Prop)
    (introspector : Introspector σ) (other : Introspector τ) : Prop where
  one : ∀ table world between, worlds world between →
    let asked := ask awaits (introspector.columnsOf table) world
    let second := ask also (other.columnsOf table) between
    asked.1 = second.1 ∧ worlds asked.2 second.2
  many : ∀ tables world between, worlds world between →
    let asked := ask awaits (introspector.columnsOfMany tables) world
    let second := ask also (other.columnsOfMany tables) between
    asked.1 = second.1 ∧ worlds asked.2 second.2

theorem rel_map {α β γ δ : Type} {alike : α → β → Prop} {same : γ → δ → Prop} {first : α → γ}
    {second : β → δ} {a? : Option α} {b? : Option β} (related : Option.Rel alike a? b?)
    (kept : ∀ a b, alike a b → same (first a) (second b)) :
    Option.Rel same (a?.map first) (b?.map second) := by
  cases related with
  | none => exact .none
  | some like => exact .some (kept _ _ like)

theorem rel_imp {α β : Type} {alike same : α → β → Prop} {a? : Option α} {b? : Option β}
    (related : Option.Rel alike a? b?) (kept : ∀ a b, alike a b → same a b) :
    Option.Rel same a? b? := by
  cases related with
  | none => exact .none
  | some like => exact .some (kept _ _ like)

theorem Introspector.agrees_self (awaits : Bool) (introspector? : Option (Introspector σ)) :
    Option.Rel (Introspector.Agrees awaits awaits Eq) introspector? introspector? := by
  cases introspector? with
  | none => exact .none
  | some introspector =>
      refine .some ⟨?_, ?_⟩
      · rintro table world _ rfl
        exact ⟨rfl, rfl⟩
      · rintro tables world _ rfl
        exact ⟨rfl, rfl⟩

namespace Query

open Outcome (Alike)
open Sql (BoundStatement)

/-- A likeness of queries that covers all that registering reads, and is kept by what it writes. -/
structure SharesChecks (queries : Query → Query → Prop) : Prop where
  setup : ∀ query second, queries query second → query.setup.ChecksAlike second.setup
  relations : ∀ query second, queries query second → query.relations = second.relations
  resolutions : ∀ query second, queries query second → query.resolutions = second.resolutions
  noted : ∀ query second warnings, queries query second →
    queries (query.noting warnings) (second.noting warnings)
  attached : ∀ query second request, queries query second →
    queries { query with relations := query.relations ++ [request], wildcardsResolved := false }
      { second with relations := second.relations ++ [request], wildcardsResolved := false }
  remembered : ∀ query second memory, queries query second →
    queries { query with resolutions := memory } { second with resolutions := memory }
  ordered : ∀ query second added, queries query second →
    queries { query with orders := query.orders ++ [added] }
      { second with orders := second.orders ++ [added] }
  limited : ∀ query second n, queries query second →
    queries { query with limit? := some n } { second with limit? := some n }
  moved : ∀ query second n, queries query second →
    queries { query with offset? := some n } { second with offset? := some n }

namespace SharesChecks

variable {queries : Query → Query → Prop}

theorem tolerateIf_matches (shares : SharesChecks queries) (present : Bool) (strict : Value)
    (v : Violation) :
    Edit.Matches queries Eq (tolerateIf present strict v) (tolerateIf present strict v) := by
  intro query second start
  by_cases refused : present = true ∧ strict.isTruthy = true
  · rw [tolerateIf_refused v query refused.1 refused.2,
      tolerateIf_refused v second refused.1 refused.2]
    exact ⟨.error _, start⟩
  · have lenient : present = true → strict.isTruthy = false := by
      intro there
      exact Bool.eq_false_iff.2 (fun isStrict => refused ⟨there, isStrict⟩)
    rw [tolerateIf_noted v query lenient, tolerateIf_noted v second lenient]
    exact ⟨.ok rfl, shares.noted _ _ _ start⟩

theorem tolerateAbove_matches (shares : SharesChecks queries) (strict greatest : Value) (n : Int)
    (violation : String → String → Violation) :
    Edit.Matches queries Eq (tolerateAbove strict greatest n violation)
      (tolerateAbove strict greatest n violation) := by
  unfold tolerateAbove
  refine .bind (.lift (.refl _)) ?_
  rintro exceeded _ rfl
  cases exceeded with
  | false => exact .lift (.refl (.ok ()))
  | true =>
      refine .bind (.lift (.refl _)) ?_
      rintro shown _ rfl
      refine .bind (.lift (.refl _)) ?_
      rintro most _ rfl
      exact shares.tolerateIf_matches true strict (violation shown most)

theorem resolve_matches (shares : SharesChecks queries) (name : String) :
    Edit.Matches queries Eq (resolve name) (resolve name) := by
  intro query second start
  obtain ⟨schema, matchers, root, _⟩ := shares.setup _ _ start
  have same : query.relationNamed name = second.relationNamed name := by
    unfold relationNamed QuerySetup.resolve
    rw [shares.resolutions _ _ start, schema, matchers, root]
  cases looked : second.relationNamed name with
  | error fault =>
      rw [resolve_of_not_named (same.trans looked), resolve_of_not_named looked]
      exact ⟨.error fault, start⟩
  | ok relation =>
      rw [resolve_of_named (same.trans looked), resolve_of_named looked]
      refine ⟨.ok rfl, ?_⟩
      unfold remembering
      rw [shares.resolutions _ _ start]
      exact shares.remembered _ _ _ start

theorem register_matches (shares : SharesChecks queries) (mode : RequestMode)
    (name columns : Value) :
    Edit.Matches queries Eq (register mode name columns) (register mode name columns) := by
  unfold register
  refine .bind (.lift (.refl _)) ?_
  rintro named _ rfl
  refine .bind (.lift (.refl _)) ?_
  rintro wanted _ rfl
  apply Edit.Matches.get_bind
  intro query second start
  simp only [(shares.setup _ _ start).config]
  refine .bind (shares.tolerateIf_matches _ _ _) (fun _ _ _ => ?_)
  refine .bind (shares.resolve_matches named) ?_
  rintro relation _ rfl
  refine .bind (.lift (.refl _)) (fun _ _ _ => ?_)
  apply Edit.Matches.get_bind
  intro registering other start
  simp only [shares.relations _ _ start]
  refine .bind (.lift (.refl (ensureApart other.relations _))) (fun _ _ _ => ?_)
  refine .bind (shares.tolerateAbove_matches _ _ _ _) (fun _ _ _ => ?_)
  exact .modify (fun _ _ start => shares.attached _ _ _ start)

theorem orderBy_matches (shares : SharesChecks queries) (column direction : Value) :
    Edit.Matches queries Eq (orderBy column direction) (orderBy column direction) := by
  unfold orderBy
  refine .bind (.lift (.refl _)) ?_
  rintro added _ rfl
  exact .modify (fun _ _ start => shares.ordered _ _ added start)

theorem ensureLimit_matches (shares : SharesChecks queries) (label : String) (value : Value) :
    Edit.Matches queries Eq (ensureLimit label value) (ensureLimit label value) := by
  unfold ensureLimit
  refine .bind (.lift (.refl _)) ?_
  rintro n _ rfl
  apply Edit.Matches.get_bind
  intro query second start
  simp only [(shares.setup _ _ start).config]
  refine .bind (shares.tolerateAbove_matches _ _ _ _) (fun _ _ _ => ?_)
  exact .lift (.refl (.ok n))

theorem limit_matches (shares : SharesChecks queries) (value : Value) :
    Edit.Matches queries Eq (limit value) (limit value) := by
  unfold limit
  refine .bind (shares.ensureLimit_matches "Limit" value) ?_
  rintro n _ rfl
  exact .modify (fun _ _ start => shares.limited _ _ n start)

theorem offset_matches (shares : SharesChecks queries) (value : Value) :
    Edit.Matches queries Eq (offset value) (offset value) := by
  unfold offset
  refine .bind (.lift (.refl _)) ?_
  rintro n _ rfl
  exact .modify (fun _ _ start => shares.moved _ _ n start)

end SharesChecks

/-- A likeness of queries that covers all that finding out wildcards reads, and is kept by what it
writes. -/
structure Shares (queries : Query → Query → Prop) : Prop where
  setup : ∀ query second, queries query second → query.setup.FindsAlike second.setup
  relations : ∀ query second, queries query second → query.relations = second.relations
  listings : ∀ query second, queries query second → query.listings = second.listings
  marked : ∀ query second, queries query second →
    query.wildcardsResolved = second.wildcardsResolved
  relate : ∀ query second relations, queries query second →
    queries { query with relations := relations } { second with relations := relations }
  list : ∀ query second listings, queries query second →
    queries { query with listings := listings } { second with listings := listings }
  mark : ∀ query second, queries query second →
    queries { query with wildcardsResolved := true } { second with wildcardsResolved := true }

theorem Shares.self : Shares (Eq : Query → Query → Prop) := by
  constructor
  · rintro query _ rfl
    exact ⟨rfl, rfl, rfl⟩
  · rintro query _ rfl
    rfl
  · rintro query _ rfl
    rfl
  · rintro query _ rfl
    rfl
  · rintro query _ relations rfl
    rfl
  · rintro query _ listings rfl
    rfl
  · rintro query _ rfl
    rfl

def within (query frame : Query) : Query :=
  { frame with
    relations := query.relations
    listings := query.listings
    wildcardsResolved := query.wildcardsResolved }

/-- A query with other warnings and other relations to remember, which no statement shows. -/
def annotated (query : Query) (warnings : List String) (memory : List (String × Relation)) :
    Query :=
  { query with warnings := warnings, resolutions := memory }

variable {query later frame : Query} {world after : σ} {awaits : Bool}

theorem settleKnown_congr {setup other : QuerySetup} (alike : setup.FindsAlike other)
    (requests : List Request) (listings : List (String × List Value)) :
    settleKnown setup requests listings = settleKnown other requests listings := by
  induction requests generalizing listings with
  | nil => rfl
  | cons request rest ih =>
      have known : knownColumns setup listings request = knownColumns other listings request := by
        simp only [knownColumns, alike.schema, alike.config]
      simp only [settleKnown, known, ih]

section

variable {queries : Query → Query → Prop} {worlds : σ → τ → Prop} {also : Bool}

theorem introspectEach_matches (shares : Shares queries) {introspector : Introspector σ}
    {other : Introspector τ} (agree : introspector.Agrees awaits also worlds other)
    (tables : List String) :
    Work.Matches queries worlds Eq (introspectEach awaits introspector tables)
      (introspectEach also other tables) := by
  induction tables with
  | nil => exact .pure rfl
  | cons table rest ih =>
      have asked : Work.Matches queries worlds Eq
          (perform (ask awaits (introspector.columnsOf table)))
          (perform (ask also (other.columnsOf table))) := by
        apply Work.Matches.perform
        intro world between met
        obtain ⟨same, moved⟩ := agree.one table world between met
        rw [same]
        exact ⟨.refl _, moved⟩
      unfold introspectEach
      refine .bind asked ?_
      rintro columns _ rfl
      refine .bind (.modify ?_) (fun _ _ _ => ih)
      intro query second start
      rw [shares.listings query second start]
      exact shares.list query second _ start

theorem introspect_matches (shares : Shares queries) {introspector : Introspector σ}
    {other : Introspector τ} (agree : introspector.Agrees awaits also worlds other)
    (tables : List String) :
    Work.Matches queries worlds Eq (introspect awaits introspector tables)
      (introspect also other tables) := by
  have asked : Work.Matches queries worlds Eq
      (perform (ask awaits (introspector.columnsOfMany tables)))
      (perform (ask also (other.columnsOfMany tables))) := by
    apply Work.Matches.perform
    intro world between met
    obtain ⟨same, moved⟩ := agree.many tables world between met
    rw [same]
    exact ⟨.refl _, moved⟩
  unfold introspect
  apply Work.Matches.get_bind
  intro query second start
  rw [(shares.setup query second start).dialect]
  split
  · refine .bind asked ?_
    rintro found _ rfl
    apply Work.Matches.modify
    intro before other start
    rw [shares.listings before other start]
    exact shares.list before other _ start
  · exact introspectEach_matches shares agree tables

theorem introspectPending_matches (shares : Shares queries)
    {introspector? : Option (Introspector σ)} {other? : Option (Introspector τ)}
    (agree : Option.Rel (Introspector.Agrees awaits also worlds) introspector? other?)
    (tables : List String) :
    Work.Matches queries worlds Eq (introspectPending awaits introspector? tables)
      (introspectPending also other? tables) := by
  cases tables with
  | nil => exact .pure rfl
  | cons table rest =>
      cases agree with
      | none =>
          intro query second world between start met
          exact ⟨.error _, start, met⟩
      | some agree => exact introspect_matches shares agree (table :: rest)

theorem resolveWildcards_matches (shares : Shares queries)
    {introspector? : Option (Introspector σ)} {other? : Option (Introspector τ)}
    (agree : Option.Rel (Introspector.Agrees awaits also worlds) introspector? other?) :
    Work.Matches queries worlds Eq (resolveWildcards awaits introspector?)
      (resolveWildcards also other?) := by
  rw [resolveWildcards_eq, resolveWildcards_eq]
  apply Work.Matches.get_bind
  intro query second start
  have marked := shares.marked query second start
  by_cases resolved : second.wildcardsResolved = true
  · rw [if_pos resolved, if_pos (marked.trans resolved)]
    exact .pure rfl
  rw [if_neg resolved, if_neg (fun early => resolved (marked.symm.trans early))]
  have known : settleKnown query.setup query.relations query.listings =
      settleKnown second.setup second.relations second.listings := by
    rw [settleKnown_congr (shares.setup _ _ start), shares.relations _ _ start,
      shares.listings _ _ start]
  rw [known]
  have settled := shares.relate _ _
    (settleKnown second.setup second.relations second.listings).1
    (shares.list _ _ (settleKnown second.setup second.relations second.listings).2 start)
  refine .bind (.set settled) (fun _ _ _ => ?_)
  refine .bind (introspectPending_matches shares agree _) (fun _ _ _ => ?_)
  apply Work.Matches.get_bind
  intro asked other start
  have applied : applyListings asked.listings asked.relations =
      applyListings other.listings other.relations := by
    rw [shares.relations _ _ start, shares.listings _ _ start]
  rw [applied]
  refine .bind (.set (shares.relate _ _ _ start)) (fun _ _ _ => ?_)
  refine .bind (.lift (.refl _)) (fun _ _ _ => ?_)
  exact .modify shares.mark

end

theorem Discovery.within {introspector? : Option (Introspector σ)} {outcome : Outcome Unit}
    (found : Discovery awaits introspector? query world outcome later after)
    (alike : frame.setup.FindsAlike query.setup) :
    Discovery awaits introspector? (query.within frame) world outcome (later.within frame)
      after := by
  have shares : Shares (fun first second =>
      frame.setup.FindsAlike first.setup ∧ second = first.within frame) := by
    constructor
    · rintro first _ ⟨same, rfl⟩
      exact ⟨same.schema.symm, same.config.symm, same.dialect.symm⟩
    · rintro first _ ⟨_, rfl⟩
      rfl
    · rintro first _ ⟨_, rfl⟩
      rfl
    · rintro first _ ⟨_, rfl⟩
      rfl
    · rintro first _ relations ⟨same, rfl⟩
      exact ⟨same, rfl⟩
    · rintro first _ listings ⟨same, rfl⟩
      exact ⟨same, rfl⟩
    · rintro first _ ⟨same, rfl⟩
      exact ⟨same, rfl⟩
  have both := resolveWildcards_matches shares (Introspector.agrees_self awaits introspector?)
  obtain ⟨result, _, _, done, same, ⟨_, rfl⟩, rfl⟩ :=
    both.follow ⟨alike, rfl⟩ rfl (resolveWildcards_of_discovery found)
  rw [← same.eq] at done
  exact resolveWildcards_discovery done

/-- A likeness of queries of which statements are built that are alike. -/
structure Builds (queries : Query → Query → Prop)
    (statements : BoundStatement → BoundStatement → Prop) : Prop where
  window : ∀ query second, queries query second → query.window = second.window
  build : ∀ query second window, queries query second →
    Alike statements (query.build window) (second.build window)
  buildCount : ∀ query second, queries query second →
    Alike statements query.buildCount second.buildCount

theorem Builds.self : Builds Eq Eq := by
  constructor
  · intro query second same
    rw [same]
  · intro query second window same
    rw [same]
    exact .refl _
  · intro query second same
    rw [same]
    exact .refl _

/-- A likeness of queries that have the same statements, and make the same answers of rows. -/
structure Presents (queries : Query → Query → Prop) : Prop extends Builds queries Eq where
  answers : ∀ query second, queries query second → ∀ hydrators handle rows,
    query.answers hydrators handle rows = second.answers hydrators handle rows

section

variable {queries : Query → Query → Prop} {statements : BoundStatement → BoundStatement → Prop}
  {worlds : σ → σ → Prop} {link : Link σ}

theorem Builds.rowsDraft (builds : Builds queries statements) {query second : Query}
    (start : queries query second) :
    Alike (List.Forall₂ statements) query.rowsDraft second.rowsDraft := by
  unfold Query.rowsDraft
  rw [builds.window _ _ start]
  exact (builds.build _ _ _ start).bind (fun _ _ same => .ok (.cons same .nil))

theorem Builds.pageDraft (builds : Builds queries statements) (number size : Int)
    {query second : Query} (start : queries query second) :
    Alike (List.Forall₂ statements) (query.pageDraft number size)
      (second.pageDraft number size) := by
  have paged := (builds.build _ _ ⟨.int size, .int ((number - 1) * size)⟩ start).toList
  exact (builds.buildCount _ _ start).bind (fun _ _ same => .ok (.cons same paged))

variable (resolved : Work.Matches queries worlds Eq (resolveWildcards awaits link.introspector?)
    (resolveWildcards awaits link.introspector?))

include resolved

theorem compile_matches (builds : Builds queries statements) :
    Work.Matches queries worlds statements (compile awaits link.introspector?)
      (compile awaits link.introspector?) := by
  rw [compile_eq]
  refine .bind resolved (fun _ _ _ => ?_)
  apply Work.Matches.get_bind
  intro query second start
  rw [builds.window _ _ start]
  exact .lift (builds.build _ _ _ start)

theorem prepare_matches {draft : Query → Outcome (List BoundStatement)}
    (drafts : ∀ query second, queries query second →
      Alike (List.Forall₂ statements) (draft query) (draft second)) :
    Work.Matches queries worlds
      (fun ready other => ready.1 = other.1 ∧ List.Forall₂ statements ready.2 other.2)
      (prepare awaits link draft) (prepare awaits link draft) := by
  unfold prepare
  refine .bind (.lift (.refl _)) ?_
  rintro executor _ rfl
  refine .bind resolved (fun _ _ _ => ?_)
  apply Work.Matches.get_bind
  intro query second start
  refine .bind (.lift (drafts query second start)) ?_
  intro planned others same
  exact .pure ⟨rfl, same⟩

end

/-- Two calls that prepare alike go alike. If one fails while it prepares, the other one fails with
the same fault; if one runs statements, so does the other, and both run the first of plans that are
alike, from worlds that are. -/
theorem Runs.alike {α β : Type} {queries : Query → Query → Prop}
    {worlds : σ → σ → Prop} {statements : BoundStatement → BoundStatement → Prop}
    {prepared other : Work σ (Executor σ × List BoundStatement)} {query second later since : Query}
    {world between after turned : σ} {outcome : Outcome α} {result : Outcome β}
    {sent more : List BoundStatement}
    (both : Work.Matches queries worlds
      (fun ready other => ready.1 = other.1 ∧ List.Forall₂ statements ready.2 other.2)
      prepared other)
    (start : queries query second) (met : worlds world between)
    (goes : Runs prepared query world outcome sent later after)
    (also : Runs other second between result more since turned) :
    queries later since ∧
    ((∃ fault, outcome = .error fault ∧ result = .error fault ∧ sent = [] ∧ more = [] ∧
        worlds after turned) ∨
      ∃ executor planned others reached stopped,
        prepared query world = ((.ok (executor, planned), later), reached) ∧
        List.Forall₂ statements planned others ∧ worlds reached stopped ∧
        sent ≠ [] ∧ sent <+: planned ∧ after = executed executor reached sent ∧
        more ≠ [] ∧ more <+: others ∧ turned = executed executor stopped more) := by
  have ended := both query second world between start met
  cases goes with
  | @unprepared fault _ _ failed =>
      rw [failed] at ended
      cases also with
      | unprepared refused =>
          rw [refused] at ended
          obtain ⟨same, kept, moved⟩ := ended
          cases same
          exact ⟨kept, .inl ⟨fault, rfl, rfl, rfl, rfl, moved⟩⟩
      | started ready =>
          rw [ready] at ended
          cases ended.1
  | started ready part some =>
      have reached := ready
      rw [ready] at ended
      cases also with
      | unprepared refused =>
          rw [refused] at ended
          cases ended.1
      | started alsoReady alsoPart alsoSome =>
          rw [alsoReady] at ended
          obtain ⟨same, kept, moved⟩ := ended
          cases same with
          | ok same =>
              obtain ⟨rfl, same⟩ := same
              exact ⟨kept, .inr ⟨_, _, _, _, _, reached, same, moved, some, part, rfl, alsoSome,
                alsoPart, rfl⟩⟩

def pageOf (awaits : Bool) (hydrators : HydratorSource) (link : Link σ) (handle : HydratorHandle)
    (window : Int × Int) : Work σ Page := do
  let executor ← requireExecutor awaits link
  resolveWildcards awaits link.introspector?
  let counting ← (← get).buildCount
  let counted ← run awaits executor counting
  let total ← heard awaits (scalarCount counted)
  let statement ← (← get).build ⟨.int window.2, .int ((window.1 - 1) * window.2)⟩
  let rows ← run awaits executor statement
  let items ← heard awaits ((← get).answers hydrators handle rows)
  return ⟨items, total, window.1, window.2⟩

theorem paginate_eq_pageOf (awaits : Bool) (hydrators : HydratorSource) (link : Link σ)
    (page perPage : Value) (handle : HydratorHandle) :
    paginate awaits hydrators link page perPage handle =
      edit (pageWindow page perPage) >>= pageOf awaits hydrators link handle := by
  rw [paginate_eq]
  rfl

theorem paginate_of_pages {page perPage : Value} {number size : Int} (awaits : Bool)
    (hydrators : HydratorSource) (link : Link σ) (handle : HydratorHandle)
    (pages : query.Pages page perPage number size) (world : σ) :
    paginate awaits hydrators link page perPage handle query world =
      pageOf awaits hydrators link handle (number, size) (query.noting (query.excess size))
        world := by
  rw [paginate_eq_pageOf]
  exact Work.bind_of_ok (Work.edit_apply (pageWindow_of_pages pages) world)

theorem paginate_eq_ok {page perPage : Value} {hydrators : HydratorSource} {link : Link σ}
    {handle : HydratorHandle} {answered : Page}
    (done : paginate awaits hydrators link page perPage handle query world =
      ((.ok answered, later), after)) :
    ∃ number size, query.Pages page perPage number size ∧
      pageOf awaits hydrators link handle (number, size) (query.noting (query.excess size)) world =
        ((.ok answered, later), after) := by
  rw [paginate_eq_pageOf] at done
  rcases Work.edit_cases done with ⟨_, _, impossible, _⟩ | ⟨window, _, checked, paged⟩
  · cases impossible
  rcases pageWindow_cases checked with ⟨_, impossible, _⟩ | ⟨number, size, pages, chosen, rfl⟩
  · cases impossible
  cases chosen
  exact ⟨number, size, pages, paged⟩

section

variable {queries : Query → Query → Prop} (presents : Presents queries)
  {hydrators : HydratorSource} {link : Link σ} {handle : HydratorHandle}
  (resolved : Work.Matches queries Eq Eq (resolveWildcards awaits link.introspector?)
    (resolveWildcards awaits link.introspector?))

include presents resolved

omit resolved in
theorem answers_matches (rows : List Row) :
    Work.Matches queries (Eq : σ → σ → Prop) Eq
      (get >>= fun query => liftM (heard awaits (query.answers hydrators handle rows)))
      (get >>= fun query => liftM (heard awaits (query.answers hydrators handle rows))) := by
  apply Work.Matches.get_bind
  intro query second start
  rw [presents.answers _ _ start]
  exact .lift (.refl _)

omit presents resolved in
theorem run_matches (executor : Executor σ) (statement : BoundStatement) :
    Work.Matches queries Eq Eq (run awaits executor statement) (run awaits executor statement) := by
  rintro query second world _ start rfl
  rw [run_apply rfl, run_apply rfl]
  exact ⟨.refl _, start, rfl⟩

theorem fetch_matches :
    Work.Matches queries Eq Eq (fetch awaits hydrators link handle)
      (fetch awaits hydrators link handle) := by
  rw [fetch_eq]
  refine .bind (.lift (.refl _)) ?_
  rintro executor _ rfl
  refine .bind (compile_matches resolved presents.toBuilds) ?_
  rintro statement _ rfl
  refine .bind (run_matches executor statement) ?_
  rintro rows _ rfl
  exact answers_matches presents rows

theorem fetchFirst_matches :
    Work.Matches queries Eq Eq (fetchFirst awaits hydrators link handle)
      (fetchFirst awaits hydrators link handle) := by
  rw [fetchFirst_eq]
  refine .bind (fetch_matches presents resolved) ?_
  rintro items _ rfl
  exact .pure rfl

theorem pageOf_matches (window : Int × Int) :
    Work.Matches queries Eq Eq (pageOf awaits hydrators link handle window)
      (pageOf awaits hydrators link handle window) := by
  unfold pageOf
  refine .bind (.lift (.refl _)) ?_
  rintro executor _ rfl
  refine .bind resolved (fun _ _ _ => ?_)
  apply Work.Matches.get_bind
  intro query second start
  refine .bind (.lift (presents.buildCount _ _ start)) ?_
  rintro counting _ rfl
  refine .bind (run_matches executor counting) ?_
  rintro counted _ rfl
  refine .bind (.lift (.refl _)) ?_
  rintro total _ rfl
  apply Work.Matches.get_bind
  intro found other start
  refine .bind (.lift (presents.build _ _ _ start)) ?_
  rintro statement _ rfl
  refine .bind (run_matches executor statement) ?_
  rintro rows _ rfl
  apply Work.Matches.get_bind
  intro found other start
  rw [presents.answers _ _ start]
  refine .bind (.lift (.refl _)) ?_
  rintro items _ rfl
  exact .pure rfl

end

end Query

end NestedSelect
