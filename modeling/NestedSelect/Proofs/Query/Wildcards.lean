import NestedSelect.Proofs.Query.Composition

/-!
Whose columns a wildcard stands for.

Listings go by table, and they are looked at before anything that is known of a relation itself.
So relations that lead to one table share columns, and each has its own columns in every session
only if these are the same for all of them.
-/

namespace NestedSelect

open Sql (BoundStatement)
open Query
open Request (Settles)

variable {σ : Type}

/-- An introspector that, whenever it answers, answers with fixed columns for each table, and only
for tables that it is asked about. -/
structure Introspector.Answers (introspector : Introspector σ) (tables : String → List Value) :
    Prop where
  one : ∀ awaits table world columns after,
    ask awaits (introspector.columnsOf table) world = (.ok columns, after) →
      columns = tables table
  many : ∀ awaits asked world found after,
    ask awaits (introspector.columnsOfMany asked) world = (.ok found, after) →
      ∀ entry ∈ found, entry.1 ∈ asked ∧ entry.2 = tables entry.1

/-- An introspector that answers questions about known tables with columns that fit, if with any. -/
structure Introspector.Gives (introspector : Introspector σ) (known : String → Prop)
    (fits : TableColumns) : Prop where
  one : ∀ awaits table, known table → ∀ world columns after,
    ask awaits (introspector.columnsOf table) world = (.ok columns, after) →
      columns ≠ [] → fits table columns
  many : ∀ awaits asked, (∀ table ∈ asked, known table) → ∀ world found after,
    ask awaits (introspector.columnsOfMany asked) world = (.ok found, after) →
      ∀ entry ∈ found, entry.2 ≠ [] → fits entry.1 entry.2

theorem Introspector.Answers.gives {introspector : Introspector σ} {tables : String → List Value}
    (answers : introspector.Answers tables) (fits : TableColumns) :
    introspector.Gives (fun table => tables table ≠ [] → fits table (tables table)) fits := by
  constructor
  · intro awaits table fit world columns after answered filled
    rw [answers.one _ _ _ _ _ answered] at filled ⊢
    exact fit filled
  · intro awaits asked fit world found after answered entry inside filled
    obtain ⟨there, same⟩ := answers.many _ _ _ _ _ answered entry inside
    rw [same] at filled ⊢
    exact fit entry.1 there filled

/-- The columns that a wildcard for a relation is to stand for: the ones that its model declares,
or else the ones that are configured for its table, or else those of the table itself. -/
def Relation.ownColumns (setup : QuerySetup) (tables : String → List Value) (relation : Relation) :
    List Value :=
  (staticColumns setup.schema (Hydration.handleOf relation.model?) relation.table
    setup.config).getD (tables relation.table)

namespace Query

variable {setup : QuerySetup} {tables : String → List Value}

theorem settleKnown_left {requests : List Request} {listings : List (String × List Value)} :
    ∀ request ∈ (settleKnown setup requests listings).1, request.isWildcard = true →
      request ∈ requests ∧ staticColumnsOf setup request = none := by
  induction requests generalizing listings with
  | nil =>
      intro request member
      cases member
  | cons request rest ih =>
      intro other member asked
      unfold settleKnown at member
      split at member
      · rcases List.mem_cons.1 member with rfl | inside
        · rw [Request.isWildcard_listed] at asked
          cases asked
        · obtain ⟨there, unknown⟩ := ih other inside asked
          exact ⟨List.mem_cons_of_mem request there, unknown⟩
      · rename_i unknown
        rcases List.mem_cons.1 member with rfl | inside
        · rw [if_pos asked] at unknown
          unfold knownColumns at unknown
          simp only at unknown
          split at unknown
          · cases unknown
          · exact ⟨List.mem_cons_self, unknown⟩
        · obtain ⟨there, unknown⟩ := ih other inside asked
          exact ⟨List.mem_cons_of_mem request there, unknown⟩

theorem mem_pendingTables {requests : List Request} {table : String}
    (pending : table ∈ pendingTables requests) :
    ∃ request ∈ requests, request.isWildcard = true ∧ request.relation.table = table := by
  obtain ⟨request, inside, same⟩ := List.mem_map.1 (List.mem_eraseDups.1 pending)
  obtain ⟨there, asked⟩ := List.mem_filter.1 inside
  exact ⟨request, there, asked, same⟩

theorem ListingsFit.merge {fits : TableColumns} {listings found : List (String × List Value)}
    (fitting : ListingsFit fits listings)
    (fit : ∀ entry ∈ found, entry.2 ≠ [] → fits entry.1 entry.2) :
    ListingsFit fits (Record.merge listings found) := by
  induction found generalizing listings with
  | nil => exact fitting
  | cons entry rest ih =>
      exact ih (fitting.put (fit entry List.mem_cons_self))
        (fun other inside => fit other (List.mem_cons_of_mem entry inside))

variable {query later : Query} {world after : σ} {awaits : Bool} {fits : TableColumns}

theorem introspectPending_fits {introspector? : Option (Introspector σ)} {asked : List String}
    {known : String → Prop}
    (gives : ∀ introspector, introspector? = some introspector → introspector.Gives known fits)
    (inside : ∀ table ∈ asked, known table) {outcome : Outcome Unit}
    (fitting : ListingsFit fits query.listings)
    (done : introspectPending awaits introspector? asked query world =
      ((outcome, later), after)) : ListingsFit fits later.listings := by
  have preserved : ∀ introspector, introspector? = some introspector →
      Preserves awaits introspector known (fun listings _ => ListingsFit fits listings) := by
    intro introspector there
    have gives := gives introspector there
    constructor
    · intro table known listings between fitting
      cases answered : ask awaits (introspector.columnsOf table) between with
      | mk found _ =>
          cases found with
          | error fault => exact fitting
          | ok columns => exact fitting.put (gives.one _ _ known _ _ _ answered)
    · intro asked known listings between fitting
      cases answered : ask awaits (introspector.columnsOfMany asked) between with
      | mk found _ =>
          cases found with
          | error fault => exact fitting
          | ok entries => exact fitting.merge (gives.many _ _ known _ _ _ answered)
  obtain ⟨listings, rfl, fitting⟩ := introspectPending_preserves preserved inside fitting done
  exact fitting

end Query

namespace QuerySetup

structure Offers (setup : QuerySetup) (name : String) (relation : Relation) : Prop where
  named : Identifier.IsSafe name
  plain : '.' ∉ name.toList
  found : Relation.resolve setup.schema setup.matchers setup.root name = .ok relation

def TablesAgree (setup : QuerySetup) (tables : String → List Value) : Prop :=
  ∀ name relation other second, setup.Offers name relation → setup.Offers other second →
    relation.table = second.table →
      relation.ownColumns setup tables = second.ownColumns setup tables

def OwnFits (setup : QuerySetup) (tables : String → List Value) : TableColumns :=
  fun table columns => ∀ name relation, setup.Offers name relation → relation.table = table →
    columns = relation.ownColumns setup tables

end QuerySetup

theorem Request.Registered.offers {setup : QuerySetup} {request : Request}
    (registered : request.Registered setup) : setup.Offers request.name request.relation :=
  ⟨registered.named, registered.plain, registered.found⟩

theorem QuerySetup.TablesAgree.ownFits {setup : QuerySetup} {tables : String → List Value}
    (agree : setup.TablesAgree tables) {name : String} {relation : Relation}
    (offered : setup.Offers name relation) :
    setup.OwnFits tables relation.table (relation.ownColumns setup tables) := by
  intro other second also same
  exact agree name relation other second offered also same.symm

theorem Query.Discovery.ownFits {query later : Query} {world after : σ} {awaits : Bool}
    {introspector? : Option (Introspector σ)} {found : Outcome Unit}
    {tables : String → List Value}
    (step : Discovery awaits introspector? query world found later after)
    (answers : ∀ introspector, introspector? = some introspector → introspector.Answers tables)
    (agree : query.setup.TablesAgree tables)
    (registered : ∀ request ∈ query.relations, request.Registered query.setup)
    (fitting : ListingsFit (query.setup.OwnFits tables) query.listings) :
    List.Forall₂ (Settles (query.setup.OwnFits tables)) query.relations later.relations ∧
      ListingsFit (query.setup.OwnFits tables) later.listings := by
  refine step.fits fitting ?_ ?_
  · intro request inside _ columns known
    have fit := agree.ownFits (registered request inside).offers
    rw [Relation.ownColumns, show staticColumns _ _ _ _ = some columns from known] at fit
    exact fit
  · intro answer listings fitting asked
    refine introspectPending_fits
      (fun introspector there => (answers introspector there).gives _) ?_ fitting asked
    -- A table that is asked about belongs to a relation of which nothing was known.
    intro table pending _
    obtain ⟨request, there, wildcard, rfl⟩ := mem_pendingTables pending
    obtain ⟨inside, unknown⟩ := settleKnown_left request there wildcard
    have fit := agree.ownFits (registered request inside).offers
    rw [Relation.ownColumns, show staticColumns _ _ _ _ = none from unknown] at fit
    exact fit

def Request.HasOwn (setup : QuerySetup) (tables : String → List Value) (asked : Attachment)
    (request : Request) : Prop :=
  requestedColumns asked.mode asked.columns request.name = .ok .wildcard →
    request.columns = .listed (request.relation.ownColumns setup tables)

theorem Request.isWildcard_of_wildcard {request : Request} (counts : request.mode ≠ .count)
    (asked : request.columns = .wildcard) : request.isWildcard = true := by
  rw [isWildcard, asked, bne_iff_ne.2 counts]
  rfl

theorem Request.ComesOf.hasOwn {setup : QuerySetup} {tables : String → List Value}
    {asked : Attachment} {request : Request}
    (comes : request.ComesOf (setup.OwnFits tables) asked)
    (registered : request.Registered setup) (settled : request.isWildcard = false) :
    request.HasOwn setup tables asked := by
  intro wanted
  obtain ⟨columns, given, settles⟩ := comes.settles
  cases wanted.symm.trans given
  rcases settles.columns_cases with same | ⟨_, first, rest, found, fit⟩
  · have counts : request.mode ≠ .count := by
      intro isCount
      rw [← comes.inMode, isCount] at wanted
      cases wanted
    rw [isWildcard_of_wildcard counts same] at settled
    cases settled
  · rw [found, fit request.name request.relation registered.offers rfl]

/-- A session in which nothing was found out but columns that all relations to a table have. -/
structure Session.FoundOwn (setup : QuerySetup) (tables : String → List Value)
    (session : Session σ) : Prop where
  setup_eq : session.query.setup = setup
  composed : session.query.Composed
  fitting : ListingsFit (setup.OwnFits tables) session.query.listings
  comes : List.Forall₂ (Request.ComesOf (setup.OwnFits tables))
    (accepted Call.attachment? session.history) session.query.relations

namespace Session

variable {hydrators : HydratorSource} {link : Link σ} {setup : QuerySetup}
  {tables : String → List Value}

theorem FoundOwn.call {session : Session σ} (own : session.FoundOwn setup tables)
    (answers : ∀ introspector, link.introspector? = some introspector →
      introspector.Answers tables)
    (agree : setup.TablesAgree tables) (call : Call) :
    (session.call hydrators link call).FoundOwn setup tables := by
  have step : Advance link session.query session.world call
      (session.outcome hydrators link call) (session.call hydrators link call).query
      (session.call hydrators link call).world := session.call_advance call
  have same := own.setup_eq
  subst same
  have found : ∀ awaits warnings found between,
      Discovery awaits link.introspector? (session.query.noting warnings) session.world found
        (session.call hydrators link call).query between → _ :=
    fun _ warnings _ _ discovery =>
      discovery.ownFits answers agree (own.composed.noting warnings).registered own.fitting
  refine ⟨step.setup_eq, own.composed.advance step, ?_, ?_⟩
  · rcases step.listings_cases with same | ⟨_, _, _, _, discovery⟩
    · rw [same]
      exact own.fitting
    · exact (found _ _ _ _ discovery).2
  · exact step.comesOf (fun _ _ _ _ discovery => (found _ _ _ _ discovery).1) own.comes

theorem FoundOwn.run (hydrators : HydratorSource)
    (answers : ∀ introspector, link.introspector? = some introspector →
      introspector.Answers tables)
    (agree : setup.TablesAgree tables) (world : σ) (calls : List Call) :
    ((opened setup world).run hydrators link calls).FoundOwn setup tables := by
  refine run_preserves (FoundOwn setup tables) (fun _ call own => own.call answers agree call)
    ⟨rfl, .fresh setup, ?_, .nil⟩ calls
  intro table first rest impossible
  cases impossible

theorem compiled_cases {session : Session σ} {awaits : Bool} {answered : Answer}
    (composed : session.query.Composed)
    (done : session.outcome hydrators link (.compile awaits) = .ok answered) :
    (∀ request ∈ (session.call hydrators link (.compile awaits)).query.relations,
      request.isWildcard = false) ∧ ∃ source, session.query.source = .ok source := by
  obtain ⟨resolved, statement, _, built⟩ := compiled done
  have discovery := resolveWildcards_discovery resolved
  have sound := composed.discovery discovery
  refine ⟨sound.resolved discovery.marked, ?_⟩
  rw [build_eq sound.presentable] at built
  obtain ⟨source, sourced, _⟩ := Outcome.bind_eq_ok built
  refine ⟨source, ?_⟩
  rw [discovery.frame] at sourced
  exact sourced

end Session

def QuerySetup.Counts (setup : QuerySetup) : Prop :=
  ∃ exceeded, setup.config.maxRelations.exceededBy 1 = .ok exceeded ∧
    (exceeded = true → setup.config.maxRelations.isDisplayable = true)

/-- Wildcards can be compiled at all: they are tolerated, relations can be counted, and the source
of the rows can be written. -/
structure QuerySetup.AdmitsWildcards (setup : QuerySetup) : Prop where
  tolerated : setup.config.strictMode.isTruthy = false
  counted : setup.Counts
  sourced : ∃ source, ({ setup := setup } : Query).source = .ok source

/-- Wildcards can be attached at all: they are tolerated, and relations can be counted. -/
structure QuerySetup.TakesWildcards (setup : QuerySetup) : Prop where
  tolerated : setup.config.strictMode.isTruthy = false
  counted : setup.Counts

theorem QuerySetup.AdmitsWildcards.takes {setup : QuerySetup} (admits : setup.AdmitsWildcards) :
    setup.TakesWildcards :=
  ⟨admits.tolerated, admits.counted⟩

theorem Value.exceededBy_also {value : Value} {n : Int} {exceeded : Bool}
    (counted : value.exceededBy n = .ok exceeded)
    (shown : exceeded = true → value.isDisplayable = true) (positive : 0 ≤ n) {m : Int}
    (few : (Value.int m).isDisplayable = true) :
    ∃ exceeded, value.exceededBy m = .ok exceeded ∧
      (exceeded = true → value.isDisplayable = true) := by
  unfold exceededBy at counted ⊢
  split at counted
  · exact ⟨_, rfl, fun _ => rfl⟩
  · rename_i greatest
    cases counted
    refine ⟨_, rfl, fun more => ?_⟩
    have below : greatest < m := of_decide_eq_true more
    by_cases already : greatest < n
    · exact shown (decide_eq_true already)
    · have smaller : greatest.natAbs ≤ m.natAbs := by omega
      rw [isDisplayable_int] at few ⊢
      exact Text.isWritable_of_le smaller few
  · exact ⟨_, rfl, fun _ => rfl⟩
  · cases counted

theorem Query.Attachable.takesWildcards {query : Query} {mode : RequestMode}
    {name columns : Value} {request : Request} (fit : Attachable query mode name columns request)
    (asked : request.columns.isWildcard = true) : query.setup.TakesWildcards := by
  obtain ⟨exceeded, counted, tolerable⟩ := fit.counted
  have shown (more : exceeded = true) : query.setup.config.maxRelations.isDisplayable = true :=
    (tolerable more).greatestShown
  have one : (Value.int 1).isDisplayable = true := by decide +kernel
  exact ⟨fit.tolerated asked, Value.exceededBy_also counted shown (Int.natCast_nonneg _) one⟩

theorem Session.tolerated_run (hydrators : HydratorSource) (link : Link σ) (setup : QuerySetup)
    (world : σ) (calls : List Call) :
    let session := (opened setup world).run hydrators link calls
    session.query.setup = setup ∧ List.Forall₂ (fun asked request =>
      requestedColumns asked.mode asked.columns request.name = .ok .wildcard →
        setup.TakesWildcards)
      (accepted Call.attachment? session.history) session.query.relations := by
  refine run_preserves (fun session => session.query.setup = setup ∧ List.Forall₂ _
    (accepted Call.attachment? session.history) session.query.relations) ?_ ⟨rfl, .nil⟩ calls
  rintro session call ⟨rfl, before⟩
  have step : Advance link session.query session.world call
      (session.outcome hydrators link call) (session.call hydrators link call).query
      (session.call hydrators link call).world := session.call_advance call
  refine ⟨step.setup_eq, step.tracks ?_ (fun _ _ _ _ found => found.settles) ?_ before⟩
  · intro mode name columns request fit wanted
    have asked : request.columns = .wildcard := Except.ok.inj (fit.asked.symm.trans wanted)
    apply fit.takesWildcards
    rw [asked]
    rfl
  · intro asked request settled before settles wanted
    rw [settles.keeps.1] at wanted
    exact before wanted

theorem Query.requestedColumns_star (name : String) {mode : RequestMode} (counts : mode ≠ .count) :
    requestedColumns mode (.text "*") name = .ok .wildcard := by
  cases mode with
  | count => exact absurd rfl counts
  | single => rfl
  | collection => rfl

theorem Request.outputKey_wildcard (name : String) (relation : Relation) {mode : RequestMode}
    (counts : mode ≠ .count) :
    (⟨name, mode, relation, .wildcard⟩ : Request).outputKey = name := by
  cases mode with
  | count => exact absurd rfl counts
  | single => rfl
  | collection => rfl

namespace QuerySetup.TakesWildcards

variable {query : Query}

theorem attachable (takes : query.setup.TakesWildcards) (faithful : query.Faithful) {name : String}
    {relation : Relation} (offered : query.setup.Offers name relation) {mode : RequestMode}
    (counts : mode ≠ .count) (admitted : relation.kind ∈ mode.kinds)
    (apart : ∀ other ∈ query.relations, other.outputKey ≠ name)
    (few : (Value.int (query.relations.length + 1 : Nat)).isDisplayable = true) :
    Attachable query mode (.text name) (.text "*") ⟨name, mode, relation, .wildcard⟩ := by
  obtain ⟨first, counted, shown⟩ := takes.counted
  obtain ⟨exceeded, counted, shown⟩ := Value.exceededBy_also counted shown (by decide) few
  exact
    { named := Identifier.ensureRelation_of_IsSafe offered.named offered.plain
      inMode := rfl
      asked := requestedColumns_star name counts
      found := (faithful.relationNamed_eq name).trans offered.found
      admitted := admitted
      apart := fun other inside => by
        rw [Request.outputKey_wildcard name relation counts]
        exact apart other inside
      tolerated := fun _ => takes.tolerated
      counted := ⟨exceeded, counted, fun more => ⟨takes.tolerated, few, shown more⟩⟩ }

end QuerySetup.TakesWildcards

theorem RelationKind.exists_mode (kind : RelationKind) :
    ∃ mode : RequestMode, mode ≠ .count ∧ kind ∈ mode.kinds := by
  cases kind with
  | belongsToOne => exact ⟨.single, by decide, by decide⟩
  | hasOne => exact ⟨.single, by decide, by decide⟩
  | hasMany => exact ⟨.collection, by decide, by decide⟩

theorem Session.call_attach (hydrators : HydratorSource) (link : Link σ) {session : Session σ}
    {mode : RequestMode} {name columns : Value} {request : Request}
    (fit : Attachable session.query mode name columns request) :
    ∃ warnings, session.call hydrators link (.attach mode name columns) =
      ⟨session.query.attaching request warnings, session.world,
        session.history ++ [(.attach mode name columns, .ok .done)]⟩ := by
  have answered : answer hydrators link (.attach mode name columns) session.query session.world =
      ((.ok .done, session.query.attaching request (session.query.remarks request)),
        session.world) := answered_of_edit (register_of_attachable fit) session.world
  refine ⟨session.query.remarks request, ?_⟩
  unfold call
  rw [answered]

namespace Query

variable {query later : Query} {world after : σ}

theorem applyListings_settled (listings : List (String × List Value)) {requests : List Request}
    (settled : ∀ request ∈ requests, request.isWildcard = false) :
    applyListings listings requests = (requests, .ok ()) := by
  induction requests with
  | nil => rfl
  | cons request rest ih =>
      have first := settled request List.mem_cons_self
      have others := ih (fun other inside => settled other (List.mem_cons_of_mem request inside))
      simp only [applyListings, first, others, Bool.false_eq_true, if_false]

theorem pendingTables_settled {requests : List Request}
    (settled : ∀ request ∈ requests, request.isWildcard = false) : pendingTables requests = [] := by
  have none : requests.filter Request.isWildcard = [] := by
    rw [List.filter_eq_nil_iff]
    intro request inside asked
    rw [settled request inside] at asked
    cases asked
  unfold pendingTables
  rw [none]
  rfl

theorem Discovery.known_cases {awaits : Bool} {introspector? : Option (Introspector σ)}
    {found : Outcome Unit} (step : Discovery awaits introspector? query world found later after)
    (waiting : query.wildcardsResolved = false)
    (settled : ∀ request ∈ query.settled.relations, request.isWildcard = false) :
    found = .ok () ∧ later.relations = query.settled.relations := by
  have silent := pendingTables_settled settled
  cases step with
  | known resolved => exact absurd (waiting.symm.trans resolved) Bool.false_ne_true
  | unanswered _ asked =>
      rw [silent] at asked
      cases asked
  | incomplete _ _ missing =>
      rw [applyListings_settled _ settled] at missing
      cases missing
  | complete =>
      refine ⟨rfl, ?_⟩
      change (applyListings _ query.settled.relations).1 = _
      rw [applyListings_settled _ settled]

theorem settleKnown_shared {setup : QuerySetup} {first second : Request} {columns : List Value}
    (firstAsked : first.isWildcard = true) (secondAsked : second.isWildcard = true)
    (known : staticColumnsOf setup first = some columns)
    (same : second.relation.table = first.relation.table) :
    (settleKnown setup [first, second] []).1 =
      [{ first with columns := .listed columns }, { second with columns := .listed columns }] := by
  obtain ⟨column, rest, rfl⟩ := List.exists_cons_of_ne_nil (staticColumns_ne_nil known)
  have firstKnown : knownColumns setup [] first = some (column :: rest) := known
  have secondKnown : knownColumns setup [(first.relation.table, column :: rest)] second =
      some (column :: rest) := by
    unfold knownColumns
    simp only [Record.get?, same, if_true]
  simp only [settleKnown, firstAsked, secondAsked, if_true, firstKnown, Record.put, secondKnown]

theorem windowText_unchosen (limit : query.limit? = none) (offset : query.offset? = none) :
    ∃ text, query.windowText query.window = .ok text := by
  unfold windowText window
  rw [limit, offset]
  simp only
  split
  · exact ⟨_, rfl⟩
  · exact ⟨_, rfl⟩

/-- Two relations to one table with no listing yet: compiling succeeds and gives both of them the
columns that are known of the first. -/
theorem compile_shared (composed : query.Composed) (awaits : Bool)
    (introspector? : Option (Introspector σ)) (world : σ) {first second : Request}
    {columns : List Value} {source : BoundStatement} (sourced : query.source = .ok source)
    (waiting : query.wildcardsResolved = false) (unlisted : query.listings = [])
    (limit : query.limit? = none) (offset : query.offset? = none)
    (pair : query.relations = [first, second]) (firstAsked : first.isWildcard = true)
    (secondAsked : second.isWildcard = true)
    (known : staticColumnsOf query.setup first = some columns)
    (same : second.relation.table = first.relation.table) :
    ∃ statement later after,
      compile awaits introspector? query world = ((.ok statement, later), after) ∧
      later.relations = [{ first with columns := .listed columns },
        { second with columns := .listed columns }] := by
  have shared := settleKnown_shared firstAsked secondAsked known same
  rw [← unlisted, ← pair] at shared
  have settled : ∀ request ∈ query.settled.relations, request.isWildcard = false := by
    change ∀ request ∈ (settleKnown _ _ _).1, _
    rw [shared]
    intro request member
    rcases List.mem_pair.1 member with rfl | rfl
    · exact Request.isWildcard_listed first columns
    · exact Request.isWildcard_listed second columns
  obtain ⟨⟨outcome, later⟩, after, done⟩ : ∃ made after,
      compile awaits introspector? query world = (made, after) := ⟨_, _, rfl⟩
  rcases compile_cases done with ⟨fault, failed, _⟩ | ⟨resolved, built⟩
  · have impossible := ((resolveWildcards_discovery failed).known_cases waiting settled).1
    cases impossible
  have discovery := resolveWildcards_discovery resolved
  have relations := (discovery.known_cases waiting settled).2
  have sound := composed.discovery discovery
  have moved : later.source = .ok source ∧ later.limit? = none ∧ later.offset? = none := by
    rw [discovery.frame]
    exact ⟨sourced, limit, offset⟩
  obtain ⟨text, written⟩ := windowText_unchosen moved.2.1 moved.2.2
  rw [build_eq sound.presentable, Outcome.bind_of_ok moved.1, Outcome.bind_of_ok written] at built
  rw [built] at done
  exact ⟨_, later, after, done, relations.trans shared⟩

end Query

/-- After every compiling that succeeds, each relation that was asked for with the wildcard has its
own columns. -/
def QuerySetup.DiscoversOwn (setup : QuerySetup) (tables : String → List Value)
    (hydrators : HydratorSource) (link : Link σ) (world : σ) : Prop :=
  ∀ calls awaits answered,
    let session := (Session.opened setup world).run hydrators link calls
    let next := session.call hydrators link (.compile awaits)
    session.outcome hydrators link (.compile awaits) = .ok answered →
      List.Forall₂ (Request.HasOwn setup tables) (accepted Call.attachment? next.history)
        next.query.relations

theorem QuerySetup.TakesWildcards.attach_pair {setup : QuerySetup}
    (takes : setup.TakesWildcards) (hydrators : HydratorSource) (link : Link σ) (world : σ)
    {name other : String} {relation second : Relation} (offered : setup.Offers name relation)
    (also : setup.Offers other second) (apart : name ≠ other) {mode more : RequestMode}
    (counts : mode ≠ .count) (admitted : relation.kind ∈ mode.kinds) (alsoCounts : more ≠ .count)
    (alsoAdmitted : second.kind ∈ more.kinds) : ∃ warnings memory,
      let session := (Session.opened setup world).run hydrators link
        [.attach mode (.text name) (.text "*"), .attach more (.text other) (.text "*")]
      accepted Call.attachment? session.history =
        [⟨mode, .text name, .text "*"⟩, ⟨more, .text other, .text "*"⟩] ∧
      session.query =
        { setup := setup
          relations := [⟨name, mode, relation, .wildcard⟩, ⟨other, more, second, .wildcard⟩]
          warnings := warnings
          resolutions := memory } := by
  have one : (Value.int 1).isDisplayable = true := by decide +kernel
  have two : (Value.int 2).isDisplayable = true := by decide +kernel
  have fit : Attachable (Session.opened setup world).query mode (.text name) (.text "*")
      ⟨name, mode, relation, .wildcard⟩ :=
    attachable takes (Composed.fresh setup).faithful offered counts admitted
      (List.forall_mem_nil _) one
  obtain ⟨firstWarnings, first⟩ := Session.call_attach hydrators link fit
  have faithful := (Composed.run hydrators link setup world
    [.attach mode (.text name) (.text "*")]).faithful
  have alsoFit : Attachable ((Session.opened setup world).call hydrators link
      (.attach mode (.text name) (.text "*"))).query more (.text other) (.text "*")
      ⟨other, more, second, .wildcard⟩ := by
    change ((Session.opened setup world).call hydrators link
      (.attach mode (.text name) (.text "*"))).query.Faithful at faithful
    rw [first] at faithful ⊢
    refine attachable takes faithful also alsoCounts alsoAdmitted ?_ two
    intro earlier member taken
    rw [List.mem_singleton.1 member, Request.outputKey_wildcard name relation counts] at taken
    exact apart taken
  obtain ⟨secondWarnings, then_⟩ := Session.call_attach hydrators link alsoFit
  rw [first] at then_
  refine ⟨firstWarnings ++ secondWarnings,
    Record.put other second (Record.put name relation []), ?_, ?_⟩
  · change accepted _ (((Session.opened setup world).call _ _ _).call _ _ _).history = _
    rw [first, then_]
    rfl
  · change (((Session.opened setup world).call _ _ _).call _ _ _).query = _
    rw [first, then_]
    rfl

theorem QuerySetup.DiscoversOwn.shared {hydrators : HydratorSource} {link : Link σ} {world : σ}
    {setup : QuerySetup} {tables : String → List Value}
    (law : setup.DiscoversOwn tables hydrators link world) (admits : setup.AdmitsWildcards)
    {name other : String} {relation second : Relation} {columns : List Value}
    (offered : setup.Offers name relation) (also : setup.Offers other second)
    (apart : name ≠ other) (same : second.table = relation.table)
    (known : staticColumns setup.schema (Hydration.handleOf relation.model?) relation.table
      setup.config = some columns) :
    columns = second.ownColumns setup tables := by
  obtain ⟨mode, counts, admitted⟩ := relation.kind.exists_mode
  obtain ⟨more, alsoCounts, alsoAdmitted⟩ := second.kind.exists_mode
  obtain ⟨warnings, memory, asked, reached⟩ := admits.takes.attach_pair hydrators link world
    offered also apart counts admitted alsoCounts alsoAdmitted
  have composed := Composed.run hydrators link setup world
    [.attach mode (.text name) (.text "*"), .attach more (.text other) (.text "*")]
  have own := law [.attach mode (.text name) (.text "*"), .attach more (.text other) (.text "*")]
    false
  generalize (Session.opened setup world).run hydrators link _ = session at *
  obtain ⟨query, world, history⟩ := session
  simp only at asked reached composed
  subst reached
  obtain ⟨source, sourced⟩ := admits.sourced
  obtain ⟨statement, later, after, compiled, relations⟩ := compile_shared composed false
    link.introspector? world sourced rfl rfl rfl rfl rfl
    (Request.isWildcard_of_wildcard counts rfl) (Request.isWildcard_of_wildcard alsoCounts rfl)
    known same
  have answered : answer hydrators link (.compile false) _ world =
      ((.ok (.statement statement), later), after) := Work.bind_of_ok compiled
  have pair := own (.statement statement)
  simp only [Session.outcome, Session.call, answered, relations] at pair
  have silent : (Call.compile false).attachment? = none := rfl
  rw [accepted_none silent, asked] at pair
  cases pair trivial with
  | cons _ rest =>
      cases rest with
      | cons second _ => exact Columns.listed.inj (second (requestedColumns_star other alsoCounts))

/-- With an introspector that answers for each table with fixed columns, wildcards stand for the
own columns of their relations in every session exactly if relations that lead to one table agree
on their columns, or wildcards can never be compiled. -/
theorem wildcards_own_iff (hydrators : HydratorSource) (link : Link σ) (setup : QuerySetup)
    (world : σ) (tables : String → List Value)
    (answers : ∀ introspector, link.introspector? = some introspector →
      introspector.Answers tables) :
    setup.DiscoversOwn tables hydrators link world ↔
      (setup.AdmitsWildcards → setup.TablesAgree tables) := by
  constructor
  · intro law admits name relation other second offered also same
    by_cases apart : name = other
    · subst apart
      rw [Except.ok.inj (offered.found.symm.trans also.found)]
    -- Whichever of the two has columns that are known without asking is attached first.
    cases firstKnown : staticColumns setup.schema (Hydration.handleOf relation.model?)
        relation.table setup.config with
    | some columns =>
        have shared := law.shared admits offered also apart same.symm firstKnown
        rw [← shared, Relation.ownColumns, firstKnown, Option.getD_some]
    | none =>
        cases secondKnown : staticColumns setup.schema (Hydration.handleOf second.model?)
            second.table setup.config with
        | some columns =>
            have shared := law.shared admits also offered (Ne.symm apart) same secondKnown
            rw [← shared, Relation.ownColumns, secondKnown, Option.getD_some]
        | none =>
            rw [Relation.ownColumns, Relation.ownColumns, firstKnown, secondKnown, same]
  · intro agree calls awaits answered session next done
    have composed : session.query.Composed := .run hydrators link setup world calls
    obtain ⟨settled, source, sourced⟩ := Session.compiled_cases composed done
    have reached : next = (Session.opened setup world).run hydrators link
        (calls ++ [.compile awaits]) := (Session.run_append _ calls [.compile awaits]).symm
    have same : session.query.setup = setup := Session.setup_run hydrators link setup world calls
    by_cases admits : setup.AdmitsWildcards
    · have own := Session.FoundOwn.run hydrators answers (agree admits) world
        (calls ++ [.compile awaits])
      rw [← reached] at own
      refine forall₂_imp_of_mem ?_ own.comes
      intro asked request inside comes
      have registered := own.composed.registered request inside
      rw [own.setup_eq] at registered
      exact comes.hasOwn registered (settled request inside)
    · have tolerated := (Session.tolerated_run hydrators link setup world
        (calls ++ [.compile awaits])).2
      rw [← reached] at tolerated
      refine tolerated.imp ?_
      intro asked request accepted_ wanted
      obtain ⟨lenient, counted⟩ := accepted_ wanted
      rw [← same] at lenient counted admits
      exact absurd ⟨lenient, counted, source, sourced⟩ admits

def Introspector.fixed (tables : String → List Value) : Introspector σ :=
  { columnsOf := fun table => pure (.ready (.ok (tables table)))
    columnsOfMany := fun asked =>
      pure (.ready (.ok (asked.map (fun table => (table, tables table))))) }

theorem Introspector.ask_fixed (awaits : Bool) (tables : String → List Value) (table : String)
    (world : σ) :
    ask awaits ((fixed tables).columnsOf table) world = (.ok (tables table), world) :=
  ask_ready awaits _ world

theorem Introspector.ask_fixed_many (awaits : Bool) (tables : String → List Value)
    (asked : List String) (world : σ) :
    ask awaits ((fixed tables).columnsOfMany asked) world =
      (.ok (asked.map (fun table => (table, tables table))), world) :=
  ask_ready awaits _ world

theorem Introspector.fixed_answers (tables : String → List Value) :
    (fixed tables : Introspector σ).Answers tables := by
  constructor
  · intro awaits table world columns after done
    rw [ask_fixed] at done
    cases done
    rfl
  · intro awaits asked world found after done entry inside
    rw [ask_fixed_many] at done
    cases done
    obtain ⟨table, there, rfl⟩ := List.mem_map.1 inside
    exact ⟨there, rfl⟩

/-- Partners that belong to a document in two ways: by a mapped model and by its bare table. -/
def documentsSetup (config : Config) : QuerySetup :=
  { schema := ⟨[
      ⟨"Partner", "shop", some "partners", none, false, [], [], [],
        [("raw", .described ⟨"belongs-to-one", .table "docs", some "raw_id", some "id", none,
            none⟩),
          ("doc", .described ⟨"belongs-to-one", .model "Doc", some "doc_id", some "id", none,
            none⟩)]⟩,
      ⟨"Doc", "shop", some "docs", none, true,
        [⟨"id", "id", .integer, true⟩, ⟨"title", "title", .string, true⟩], ["id"], [], []⟩],
      .ofLists⟩
    root := .model "Partner"
    table := "partners"
    baseAlias := "base"
    generator := ⟨.mysql, "base"⟩
    matchers := []
    baseQuery? := none
    config := config }

def documentColumns (table : String) : List Value :=
  if table = "docs" then [.text "id", .text "title"] else []

theorem documents_offered {name : String} {relation : Relation}
    (offered : (documentsSetup Config.initial).Offers name relation) :
    relation.ownColumns (documentsSetup Config.initial) documentColumns =
      [.text "id", .text "title"] := by
  have found := offered.found
  by_cases raw : name = "raw"
  · subst raw
    cases found
    rfl
  by_cases doc : name = "doc"
  · subst doc
    cases found
    rfl
  · have missing : (documentsSetup Config.initial).resolve name =
        .error (.relationNotFound name "Partner") := by
      simp [QuerySetup.resolve, Relation.resolve, Relation.resolveBy, Relation.relationship?,
        Handle.mapped?, Schema.mapped?, documentsSetup, Schema.model?, Relation.describe,
        Relation.attribute?, Model.attribute?, Record.get?, Model.isMappedAttribute, Ne.symm raw,
        Ne.symm doc, bind, Except.bind, Handle.owner, Option.filter]
    cases missing.symm.trans found

theorem wildcards_own_documents :
    (documentsSetup Config.initial).DiscoversOwn documentColumns ⟨HydratorRegistry.initial, []⟩
      ⟨none, some (Introspector.fixed documentColumns)⟩ () := by
  refine (wildcards_own_iff _ _ _ _ _ ?_).2 ?_
  · intro introspector there
    cases there
    exact Introspector.fixed_answers documentColumns
  · intro _ name relation other second offered also _
    rw [documents_offered offered, documents_offered also]

/-- Columns that are configured for the table are given to the mapped model as well if the bare
table was asked for first. -/
theorem wildcards_not_own_documents :
    ¬ (documentsSetup { columnCache := [("docs", [.text "a", .text "b"])] }).DiscoversOwn
      documentColumns ⟨HydratorRegistry.initial, []⟩
      ⟨none, some (Introspector.fixed documentColumns)⟩ () := by
  intro law
  have pair := law [.attach .single (.text "raw") (.text "*"),
    .attach .single (.text "doc") (.text "*")] false _ rfl
  cases pair with
  | cons _ rest =>
      cases rest with
      | cons second _ =>
          have taken : Columns.listed [.text "a", .text "b"] =
              .listed [.text "id", .text "title"] := second rfl
          simp only [Columns.listed.injEq, List.cons.injEq, Value.text.injEq] at taken
          exact absurd taken.1 (by decide)

end NestedSelect
