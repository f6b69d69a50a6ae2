import Mathlib.Data.List.Find
import NestedSelect.Proofs.Query.Inquiry
import NestedSelect.Proofs.Query.Stability

/-!
Compiling twice in a row.

The second time starts from what the first one left: listings that came in, and requests that were
settled. Wildcards that are left have no columns of their own, so the listings decide whether they
are settled now, and asking about the rest goes as it went before. Only a listing that a mapped
model filled for the table of a wildcard before it makes a difference.
-/

namespace NestedSelect

open Query

variable {σ : Type}

namespace Request

def isLeft (listings : List (String × List Value)) (request : Request) : Bool :=
  request.isWildcard && isUnlisted listings request.relation.table

/-- The request with the columns that are listed for its table, if it is a wildcard. -/
def given (listings : List (String × List Value)) (request : Request) : Request :=
  if request.isWildcard && !isUnlisted listings request.relation.table then
    { request with columns := .listed (columnsListed listings request.relation.table) }
  else request

variable (listings : List (String × List Value)) (request : Request)

theorem isWildcard_given : (request.given listings).isWildcard = request.isLeft listings := by
  unfold given isLeft
  cases asked : request.isWildcard <;> cases listed : isUnlisted listings request.relation.table <;>
    simp [asked, isWildcard_listed]

theorem given_relation : (request.given listings).relation = request.relation := by
  unfold given
  split <;> rfl

theorem given_name : (request.given listings).name = request.name := by
  unfold given
  split <;> rfl

theorem given_of_settled {request : Request} (settled : request.isWildcard = false) :
    request.given listings = request := by
  simp [given, settled]

end Request

namespace Query

variable {setup : QuerySetup} {requests : List Request} {listings : List (String × List Value)}

theorem knownColumns_eq (setup : QuerySetup) (listings : List (String × List Value))
    (request : Request) :
    knownColumns setup listings request =
      if isUnlisted listings request.relation.table then staticColumnsOf setup request
      else some (columnsListed listings request.relation.table) := by
  unfold knownColumns isUnlisted columnsListed
  simp only
  cases Record.get? request.relation.table listings with
  | none => rfl
  | some columns => cases columns <;> rfl

theorem get?_of_listed {table : String} (listed : isUnlisted listings table = false) :
    Record.get? table listings = some (columnsListed listings table) := by
  unfold isUnlisted columnsListed at *
  cases found : Record.get? table listings with
  | none => simp [found] at listed
  | some columns => rfl

theorem settleKnown_given (listings : List (String × List Value))
    (bare : ∀ request ∈ requests, request.isWildcard = true →
      staticColumnsOf setup request = none) :
    settleKnown setup requests listings = (requests.map (Request.given listings), listings) := by
  induction requests with
  | nil => rfl
  | cons request rest ih =>
      have next := ih (fun other inside => bare other (List.mem_cons_of_mem request inside))
      unfold settleKnown
      cases asked : request.isWildcard with
      | false => simp [next, Request.given_of_settled listings asked]
      | true =>
          have unknown := bare request List.mem_cons_self asked
          simp only [if_true, knownColumns_eq, unknown, List.map_cons, Request.given, asked]
          cases listed : isUnlisted listings request.relation.table with
          | true => simp [next]
          | false => simp [Record.put_of_get? (get?_of_listed listed), next]

theorem resolveColumns_wildcard (listings : List (String × List Value)) {request : Request}
    (asked : request.isWildcard = true) :
    request.resolveColumns (.list (columnsListed listings request.relation.table)) =
      if isUnlisted listings request.relation.table then
        .error (.columnsNotResolved request.name request.relation.table)
      else .ok (request.given listings) := by
  unfold Request.resolveColumns Request.given isUnlisted
  cases columnsListed listings request.relation.table with
  | nil => simp [asked, Value.isTruthy]
  | cons first rest => simp [asked, Value.isTruthy]; rfl

theorem applyListings_cons (request : Request) (rest : List Request) :
    applyListings listings (request :: rest) =
      if request.isLeft listings then
        (request :: rest, .error (.columnsNotResolved request.name request.relation.table))
      else
        (request.given listings :: (applyListings listings rest).1,
          (applyListings listings rest).2) := by
  conv_lhs => unfold applyListings
  cases asked : request.isWildcard with
  | false => simp [Request.isLeft, Request.given_of_settled listings asked, asked]
  | true =>
      have resolved := resolveColumns_wildcard listings asked
      unfold columnsListed at resolved
      cases listed : isUnlisted listings request.relation.table <;>
        simp [Request.isLeft, asked, resolved, listed]

theorem applyListings_given (requests : List Request) :
    (applyListings listings requests).1.map (Request.given listings) =
      requests.map (Request.given listings) := by
  induction requests with
  | nil => rfl
  | cons request rest ih =>
      rw [applyListings_cons]
      cases left : request.isLeft listings with
      | true => rfl
      | false =>
          have settled := (Request.isWildcard_given listings request).trans left
          simp [ih, Request.given_of_settled listings settled]

theorem applyListings_outcome (requests : List Request) :
    (applyListings listings requests).2 =
      (requests.find? (Request.isLeft listings)).elim (.ok ()) (fun request =>
        .error (.columnsNotResolved request.name request.relation.table)) := by
  induction requests with
  | nil => rfl
  | cons request rest ih =>
      rw [applyListings_cons, List.find?_cons]
      cases left : request.isLeft listings with
      | true => rfl
      | false => simp [ih]

theorem mem_of_applyListings {request : Request}
    (inside : request ∈ (applyListings listings requests).1) (asked : request.isWildcard = true) :
    request ∈ requests := by
  induction requests with
  | nil => exact inside
  | cons first rest ih =>
      rw [applyListings_cons] at inside
      cases left : first.isLeft listings with
      | true =>
          rw [if_pos left] at inside
          exact inside
      | false =>
          rw [if_neg (Bool.eq_false_iff.1 left)] at inside
          rcases List.mem_cons.1 inside with rfl | later
          · rw [Request.isWildcard_given, left] at asked
            cases asked
          · exact List.mem_cons_of_mem first (ih later)

def wildcardTables (requests : List Request) : List String :=
  (requests.filter Request.isWildcard).map (fun request => request.relation.table)

theorem wildcardTables_given (requests : List Request) :
    wildcardTables (requests.map (Request.given listings)) =
      (wildcardTables requests).filter (isUnlisted listings) := by
  induction requests with
  | nil => rfl
  | cons request rest ih =>
      simp only [wildcardTables, List.map_cons, List.filter_cons, Request.isWildcard_given,
        Request.isLeft] at ih ⊢
      cases asked : request.isWildcard <;>
        cases listed : isUnlisted listings request.relation.table <;>
        simp [listed, Request.given_relation, ih]

theorem knownColumns_put {table : String} {columns : List Value} {request : Request}
    (apart : request.relation.table ≠ table) :
    knownColumns setup (Record.put table columns listings) request =
      knownColumns setup listings request := by
  simp only [knownColumns, Record.get?_put_of_ne apart]

theorem get?_settleKnown {table : String} (unknown : ∀ request ∈ requests,
    request.isWildcard = true → request.relation.table = table →
      knownColumns setup listings request = none) :
    Record.get? table (settleKnown setup requests listings).2 = Record.get? table listings := by
  induction requests generalizing listings with
  | nil => rfl
  | cons request rest ih =>
      unfold settleKnown
      split
      · rename_i columns known
        split at known
        · rename_i asked
          have apart : request.relation.table ≠ table := by
            intro here
            simp [unknown request List.mem_cons_self asked here] at known
          have untouched := Record.get?_put_of_ne (Ne.symm apart) columns listings
          rw [← untouched]
          apply ih
          intro other inside asked here
          rw [knownColumns_put (here ▸ Ne.symm apart)]
          exact unknown other (List.mem_cons_of_mem request inside) asked here
        · cases known
      · apply ih
        intro other inside
        exact unknown other (List.mem_cons_of_mem request inside)

/-- A wildcard that waits for its table to be asked about, and a later one for the same table whose
columns are known. -/
structure Overtaken (setup : QuerySetup) (listings : List (String × List Value))
    (request later : Request) : Prop where
  waits : request.isWildcard = true
  unknown : knownColumns setup listings request = none
  waits_too : later.isWildcard = true
  known : knownColumns setup listings later ≠ none
  same : later.relation.table = request.relation.table

def InTurn (setup : QuerySetup) (listings : List (String × List Value)) (requests : List Request) :
    Prop :=
  requests.Pairwise (fun request later => ¬ Overtaken setup listings request later)

theorem InTurn.put {table : String} {columns : List Value} (filled : columns ≠ [])
    (inTurn : InTurn setup listings requests) :
    InTurn setup (Record.put table columns listings) requests := by
  refine List.Pairwise.imp ?_ inTurn
  intro request later apart overtaken
  obtain ⟨waits, unknown, waitsToo, known, same⟩ := overtaken
  by_cases here : request.relation.table = table
  · simp [knownColumns_eq, isUnlisted, columnsListed, here, filled] at unknown
  · rw [knownColumns_put here] at unknown
    rw [knownColumns_put (same ▸ here)] at known
    exact apart ⟨waits, unknown, waitsToo, known, same⟩

theorem settleKnown_unlisted (inTurn : InTurn setup listings requests) :
    ∀ request ∈ (settleKnown setup requests listings).1, request.isWildcard = true →
      isUnlisted (settleKnown setup requests listings).2 request.relation.table = true := by
  induction requests generalizing listings with
  | nil =>
      intro request member
      cases member
  | cons request rest ih =>
      obtain ⟨ahead, inTurn⟩ := List.pairwise_cons.1 inTurn
      unfold settleKnown
      split
      · rename_i columns known
        intro other member asked
        rcases List.mem_cons.1 member with rfl | inside
        · rw [Request.isWildcard_listed] at asked
          cases asked
        · split at known
          · exact ih (InTurn.put (knownColumns_eq_some known).1 inTurn) other inside asked
          · cases known
      · rename_i unknown
        intro other member asked
        rcases List.mem_cons.1 member with rfl | inside
        · rw [if_pos asked] at unknown
          have behind : ∀ later ∈ rest, later.isWildcard = true →
              later.relation.table = other.relation.table →
                knownColumns setup listings later = none := by
            intro later inside waits same
            by_contra known
            exact ahead later inside ⟨asked, unknown, waits, known, same⟩
          have kept := get?_settleKnown behind
          simp only [isUnlisted, columnsListed, kept]
          by_contra listed
          simp [knownColumns_eq, isUnlisted, columnsListed, listed] at unknown
        · exact ih inTurn other inside asked

theorem applyListings_again {more : List (String × List Value)}
    (still : ∀ table ∈ (wildcardTables requests).filter (isUnlisted listings),
      isUnlisted more table = true) {fault : Fault}
    (missing : (applyListings listings requests).2 = .error fault) :
    (applyListings more (requests.map (Request.given listings))).2 = .error fault := by
  have same : ∀ request ∈ requests,
      (Request.isLeft more ∘ Request.given listings) request = request.isLeft listings := by
    intro request inside
    simp only [Function.comp_apply, Request.isLeft.eq_def more, Request.isWildcard_given,
      Request.given_relation]
    cases left : request.isLeft listings with
    | false => rfl
    | true =>
        obtain ⟨asked, unlisted⟩ := Bool.and_eq_true_iff.1 left
        refine still _ (List.mem_filter.2 ⟨?_, unlisted⟩)
        exact List.mem_map.2 ⟨request, List.mem_filter.2 ⟨inside, asked⟩, rfl⟩
  rw [applyListings_outcome] at missing ⊢
  rw [List.find?_map, List.find?_congr same]
  cases first : requests.find? (Request.isLeft listings) with
  | none => simp [first] at missing
  | some request =>
      rw [first] at missing
      simpa [Request.given_name, Request.given_relation] using missing

def told (query : Query) (answers? : Option TableAnswers) :
    Outcome Unit × List (String × List Value) :=
  TableAnswers.give answers? query.setup.generator.dialect.batchIntrospection.isTruthy
    (wildcardTables query.settled.relations).eraseDups query.settled.listings

namespace Discovery

variable {query later last : Query} {world between after : σ} {awaits : Bool}
  {introspector? : Option (Introspector σ)} {answers : TableAnswers} {found : Outcome Unit}
  {fault : Fault}

theorem outcome_steady (steady : ∀ introspector, introspector? = some introspector →
      introspector.Steady awaits answers) (waiting : query.wildcardsResolved = false)
    (discovery : Discovery awaits introspector? query world found later after) :
    let told := query.told (introspector?.map (fun _ => answers))
    later.listings = told.2 ∧
      found = (told.1 >>= fun _ => (applyListings told.2 query.settled.relations).2) := by
  intro told
  obtain ⟨ended, given⟩ := introspectPending_steady steady
    (pendingTables query.settled.relations) query.settled world
  change _ = ((told.1, query.settled.listing told.2), ended) at given
  have asking : ∀ {answer listings}, introspectPending awaits introspector?
      (pendingTables query.settled.relations) query.settled world =
        ((answer, query.settled.listing listings), after) →
      told.1 = answer ∧ told.2 = listings := by
    intro answer listings asked
    obtain ⟨same, -⟩ := Prod.mk.inj (given.symm.trans asked)
    obtain ⟨outcome, listed⟩ := Prod.mk.inj same
    exact ⟨outcome, congrArg Query.listings listed⟩
  cases discovery with
  | known resolved => simp [waiting] at resolved
  | unanswered _ asked =>
      obtain ⟨outcome, rfl⟩ := asking asked
      rw [outcome]
      exact ⟨rfl, rfl⟩
  | incomplete _ asked missing =>
      obtain ⟨outcome, rfl⟩ := asking asked
      rw [outcome]
      exact ⟨rfl, missing.symm⟩
  | complete _ asked enough =>
      obtain ⟨outcome, rfl⟩ := asking asked
      rw [outcome]
      exact ⟨rfl, enough.symm⟩

/-- What was left by finding out wildcards in vain: the listings settle some of the wildcards that
were left, and no other. -/
theorem settled_again
    (failed : Discovery awaits introspector? query world (.error fault) later between) :
    later.setup = query.setup ∧ later.wildcardsResolved = false ∧
      later.settled.relations = query.settled.relations.map (Request.given later.listings) ∧
      later.settled.listings = later.listings := by
  have bare : ∀ request ∈ query.settled.relations, request.isWildcard = true →
      staticColumnsOf query.setup request = none :=
    fun request inside asked => (settleKnown_left request inside asked).2
  cases failed with
  | @unanswered _ listings _ waiting asked =>
      have again := settleKnown_given listings bare
      exact ⟨rfl, waiting, congrArg Prod.fst again, congrArg Prod.snd again⟩
  | @incomplete _ listings _ waiting asked missing =>
      have still : ∀ request ∈ (applyListings listings query.settled.relations).1,
          request.isWildcard = true → staticColumnsOf query.setup request = none :=
        fun request inside asked => bare request (mem_of_applyListings inside asked) asked
      have again := settleKnown_given listings still
      rw [applyListings_given] at again
      exact ⟨rfl, waiting, congrArg Prod.fst again, congrArg Prod.snd again⟩

/-- Finding out wildcards that failed fails again in the same way, unless a request was
overtaken. -/
theorem repeats (steady : ∀ introspector, introspector? = some introspector →
      introspector.Steady awaits answers)
    (inTurn : InTurn query.setup query.listings query.relations)
    (failed : Discovery awaits introspector? query world (.error fault) later between)
    (again : Discovery awaits introspector? later between found last after) :
    found = .error fault := by
  have waiting : query.wildcardsResolved = false := by
    cases failed with
    | unanswered waiting => exact waiting
    | incomplete waiting => exact waiting
  obtain ⟨sameSetup, waitingAgain, relations, listings⟩ := failed.settled_again
  obtain ⟨listed, failure⟩ := failed.outcome_steady steady waiting
  obtain ⟨-, outcome⟩ := again.outcome_steady steady waitingAgain
  rw [outcome]
  have agree : ∀ given, introspector?.map (fun _ => answers) = some given → ∀ tables found,
      given.many tables = .ok found → ∀ fewer ⊆ tables, fewer ≠ [] → ∃ less,
        given.many fewer = .ok less ∧ ∀ table ∈ fewer,
          Record.get? table (Record.merge [] less) = Record.get? table (Record.merge [] found) := by
    intro given there
    obtain ⟨introspector, present, rfl⟩ := Option.map_eq_some_iff.1 there
    exact (steady introspector present).agree
  generalize introspector?.map (fun _ => answers) = answers? at *
  have clear : ∀ table ∈ wildcardTables query.settled.relations,
      isUnlisted query.settled.listings table = true := by
    intro table inside
    obtain ⟨request, member, rfl⟩ := List.mem_map.1 inside
    obtain ⟨there, asked⟩ := List.mem_filter.1 member
    exact settleKnown_unlisted inTurn request there asked
  have toldAgain : later.told answers? = TableAnswers.give answers?
      query.setup.generator.dialect.batchIntrospection.isTruthy
      ((wildcardTables query.settled.relations).filter (isUnlisted later.listings)).eraseDups
      later.listings := by
    rw [told, relations, wildcardTables_given, listings, sameSetup]
  cases told : query.told answers? with
  | mk answered given =>
      rw [told] at failure listed
      obtain rfl : later.listings = given := listed
      cases answered with
      | error other =>
          cases failure
          rw [toldAgain, TableAnswers.give_again_error clear told]
          rfl
      | ok _ =>
          obtain ⟨fine, still⟩ := TableAnswers.give_again_ok agree told
          rw [← toldAgain] at fine still
          rw [fine, relations]
          exact applyListings_again (fun table inside => still table (List.mem_eraseDups.2 inside))
            failure.symm

end Discovery

end Query

/-- Compiling twice in a row comes to the same outcome, if the introspector gives the same answers
each time: whenever the first compilation succeeds, and also when it fails, unless a wildcard that
waits for its table was attached before one for the same table whose columns are known. -/
theorem compile_repeats (hydrators : HydratorSource) (link : Link σ) (setup : QuerySetup)
    (world : σ) (calls : List Call) (awaits : Bool) (answers : TableAnswers)
    (steady : ∀ introspector, link.introspector? = some introspector →
      introspector.Steady awaits answers) :
    let session := (Session.opened setup world).run hydrators link calls
    (∃ answered, session.outcome hydrators link (.compile awaits) = .ok answered) ∨
        InTurn setup session.query.listings session.query.relations →
      (session.call hydrators link (.compile awaits)).outcome hydrators link (.compile awaits) =
        session.outcome hydrators link (.compile awaits) := by
  intro session holds
  have same : session.query.setup = setup := Session.setup_run hydrators link setup world calls
  obtain ⟨found, later, between, discovery⟩ :=
    exists_discovery awaits link.introspector? session.query session.world
  obtain ⟨again, last, after, discoveryAgain⟩ :=
    exists_discovery awaits link.introspector? later between
  simp only [Session.outcome, Session.call, answer_compile hydrators discovery,
    answer_compile hydrators discoveryAgain] at holds ⊢
  cases found with
  | ok _ =>
      obtain ⟨rfl, rfl, -⟩ := discoveryAgain.of_resolved discovery.marked
      rfl
  | error fault =>
      rcases holds with ⟨_, impossible⟩ | inTurn
      · cases impossible
      · rw [← same] at inTurn
        rw [discovery.repeats steady inTurn discoveryAgain]
        rfl

theorem get?_merge_map {α : Type} (values : String → α) (asked : List String) (table : String) :
    Record.get? table (Record.merge [] (asked.map (fun name => (name, values name)))) =
      if table ∈ asked then some (values table) else none := by
  induction asked with
  | nil => rfl
  | cons first rest ih =>
      have unfolded : Record.merge [] ((first :: rest).map (fun name => (name, values name))) =
          Record.merge (Record.put first (values first) [])
            (rest.map (fun name => (name, values name))) := rfl
      rw [unfolded, Record.get?_merge, ih]
      by_cases here : table = first
      · by_cases later : first ∈ rest <;> simp [here, later]
      · by_cases later : table ∈ rest <;>
          simp [here, later, Record.get?_put_of_ne here, Record.get?]

theorem Introspector.fixed_steady (tables : String → List Value) (awaits : Bool) :
    (fixed tables : Introspector σ).Steady awaits
      ⟨fun table => .ok (tables table),
        fun asked => .ok (asked.map (fun table => (table, tables table)))⟩ := by
  constructor
  · intro table world
    rw [ask_fixed]
  · intro asked world
    rw [ask_fixed_many]
  · intro asked found answered fewer inside _
    cases answered
    refine ⟨_, rfl, ?_⟩
    intro table there
    rw [get?_merge_map, get?_merge_map, if_pos there, if_pos (inside there)]

theorem compile_repeats_documents :
    let hydrators : HydratorSource := ⟨HydratorRegistry.initial, []⟩
    let link : Link Unit := ⟨none, some (Introspector.fixed (fun _ => []))⟩
    let answers : TableAnswers :=
      ⟨fun _ => .ok [], fun asked => .ok (asked.map (fun table => (table, [])))⟩
    let session := (Session.opened (documentsSetup Config.initial) ()).run hydrators link
      [.attach .single (.text "raw") (.text "*")]
    (∀ introspector, link.introspector? = some introspector →
        introspector.Steady false answers) ∧
      InTurn (documentsSetup Config.initial) session.query.listings session.query.relations ∧
      session.outcome hydrators link (.compile false) =
        .error (.columnsNotResolved "raw" "docs") ∧
      (session.call hydrators link (.compile false)).outcome hydrators link (.compile false) =
        .error (.columnsNotResolved "raw" "docs") := by
  have steady : ∀ introspector, some (Introspector.fixed (fun _ => []) : Introspector Unit) =
      some introspector → introspector.Steady false
        ⟨fun _ => .ok [], fun asked => .ok (asked.map (fun table => (table, [])))⟩ := by
    intro introspector there
    cases there
    exact Introspector.fixed_steady (fun _ => []) false
  refine ⟨steady, ?inTurn, rfl,
    (compile_repeats _ _ _ () _ false _ steady (.inr ?inTurn)).trans rfl⟩
  exact List.pairwise_singleton _ _

/-- The bare table of documents cannot be asked about, but it is listed by the mapped model that
comes after it: compiling fails, and then it succeeds. -/
theorem compile_not_repeated_documents :
    let hydrators : HydratorSource := ⟨HydratorRegistry.initial, []⟩
    let link : Link Unit := ⟨none, none⟩
    let session := (Session.opened (documentsSetup Config.initial) ()).run hydrators link
      [.attach .single (.text "raw") (.text "*"), .attach .single (.text "doc") (.text "*")]
    session.outcome hydrators link (.compile false) = .error (.noIntrospector "docs") ∧
      ∃ statement, (session.call hydrators link (.compile false)).outcome hydrators link
        (.compile false) = .ok (.statement statement) :=
  ⟨rfl, _, rfl⟩

end NestedSelect
