import NestedSelect.Proofs.Query.Repetition

/-!
What is listed of tables.

Of the listings only the columns of each table count, not how they came in: what is known of
requests, and what becomes of them, is the same with listings that are the same for every table
(`SameListed`). Where an introspector never fails, the columns of a table after asking are those
that it lists for it, whether tables are asked about together or one by one (`introspect_listed`),
unless a table without columns had some listed before.
-/

namespace NestedSelect

open Query

variable {σ : Type}

/-- An answer about many tables: the columns of those that were asked about. Tables without columns
may be left out. -/
structure AnswersMany (tables : String → List Value) (asked : List String)
    (found : List (String × List Value)) : Prop where
  inside : ∀ table ∈ asked, Record.get? table (Record.merge [] found) = some (tables table) ∨
    (tables table = [] ∧ Record.get? table (Record.merge [] found) = none)
  outside : ∀ table, table ∉ asked → Record.get? table (Record.merge [] found) = none

/-- An introspector that never fails, and always lists the same columns for a table. -/
structure Introspector.Lists (introspector : Introspector σ) (awaits : Bool)
    (tables : String → List Value) : Prop where
  one : ∀ table world,
    (ask awaits (introspector.columnsOf table) world).1 = .ok (tables table)
  many : ∀ asked world, ∃ found,
    (ask awaits (introspector.columnsOfMany asked) world).1 = .ok found ∧
      AnswersMany tables asked found

/-- An introspector that answers at once with fixed columns, and leaves out tables without columns
where it is asked about many. -/
def Introspector.sparse (tables : String → List Value) : Introspector σ :=
  { columnsOf := fun table => pure (.ready (.ok (tables table)))
    columnsOfMany := fun asked => pure (.ready (.ok
      ((asked.filter (fun table => !(tables table).isEmpty)).map
        (fun table => (table, tables table))))) }

theorem Introspector.sparse_lists (tables : String → List Value) (awaits : Bool) :
    (sparse tables : Introspector σ).Lists awaits tables := by
  constructor
  · intro table world
    exact congrArg Prod.fst (ask_ready awaits (tables table) world)
  · intro asked world
    refine ⟨_, congrArg Prod.fst (ask_ready awaits _ world), ?_⟩
    constructor
    · intro table there
      rw [get?_merge_map]
      by_cases empty : tables table = []
      · exact .inr ⟨empty, if_neg (by simp [empty])⟩
      · exact .inl (if_pos (by simp [there, empty]))
    · intro table absent
      rw [get?_merge_map]
      exact if_neg (fun there => absent (List.mem_filter.1 there).1)

namespace Query

def SameListed (listings others : List (String × List Value)) : Prop :=
  ∀ table, columnsListed listings table = columnsListed others table

variable {setup other : QuerySetup} {listings others : List (String × List Value)}
  {requests : List Request} {tables : String → List Value} {asked : List String} {awaits : Bool}
  {query second later : Query} {world between after : σ}
  {introspector? : Option (Introspector σ)} {found : Outcome Unit}

theorem columnsListed_put (table name : String) (columns : List Value)
    (listings : List (String × List Value)) :
    columnsListed (Record.put name columns listings) table =
      if table = name then columns else columnsListed listings table := by
  unfold columnsListed
  by_cases here : table = name
  · rw [if_pos here, here, Record.get?_put_self]
    rfl
  · rw [if_neg here, Record.get?_put_of_ne here]

theorem SameListed.put (same : SameListed listings others) (name : String)
    (columns : List Value) :
    SameListed (Record.put name columns listings) (Record.put name columns others) := by
  intro table
  rw [columnsListed_put, columnsListed_put, same table]

theorem SameListed.knownColumns_eq (same : SameListed listings others)
    (schema : setup.schema = other.schema) (config : setup.config = other.config)
    (request : Request) :
    knownColumns setup listings request = knownColumns other others request := by
  rw [Query.knownColumns_eq, Query.knownColumns_eq]
  unfold isUnlisted staticColumnsOf
  rw [same, schema, config]

theorem SameListed.settleKnown (same : SameListed listings others)
    (schema : setup.schema = other.schema) (config : setup.config = other.config)
    (requests : List Request) :
    (settleKnown setup requests listings).1 = (settleKnown other requests others).1 ∧
      SameListed (settleKnown setup requests listings).2 (settleKnown other requests others).2 := by
  induction requests generalizing listings others with
  | nil => exact ⟨rfl, same⟩
  | cons request rest ih =>
      unfold Query.settleKnown
      rw [same.knownColumns_eq schema config request]
      split
      · rename_i columns _
        obtain ⟨settled, listed⟩ := ih (same.put request.relation.table columns)
        exact ⟨congrArg (_ :: ·) settled, listed⟩
      · obtain ⟨settled, listed⟩ := ih same
        exact ⟨congrArg (_ :: ·) settled, listed⟩

theorem SameListed.applyListings (same : SameListed listings others) (requests : List Request) :
    applyListings listings requests = applyListings others requests := by
  induction requests with
  | nil => rfl
  | cons request rest ih =>
      rw [applyListings_cons, applyListings_cons, ih]
      unfold Request.isLeft Request.given isUnlisted
      rw [same]

theorem settleKnown_waiting : ∀ request ∈ (settleKnown setup requests listings).1,
    request.isWildcard = true → columnsListed listings request.relation.table = [] := by
  induction requests generalizing listings with
  | nil => exact List.forall_mem_nil _
  | cons request rest ih =>
      intro other member asked
      unfold settleKnown at member
      split at member
      · rename_i columns known
        split at known
        · rcases List.mem_cons.1 member with rfl | inside
          · rw [Request.isWildcard_listed] at asked
            cases asked
          · have unlisted := ih other inside asked
            rw [columnsListed_put] at unlisted
            split at unlisted
            · exact absurd unlisted (knownColumns_eq_some known).1
            · exact unlisted
        · cases known
      · rename_i unknown
        rcases List.mem_cons.1 member with rfl | inside
        · rw [if_pos asked, Query.knownColumns_eq] at unknown
          split at unknown
          · rename_i unlisted
            exact List.isEmpty_iff.1 unlisted
          · cases unknown
        · exact ih other inside asked

theorem columnsListed_merge {found : List (String × List Value)}
    (answers : AnswersMany tables asked found)
    (clear : ∀ table ∈ asked, tables table = [] → columnsListed listings table = [])
    (table : String) :
    columnsListed (Record.merge listings found) table =
      if table ∈ asked then tables table else columnsListed listings table := by
  unfold columnsListed at *
  rw [Record.get?_merge]
  by_cases there : table ∈ asked
  · rw [if_pos there]
    rcases answers.inside table there with told | ⟨empty, silent⟩
    · rw [told]
      rfl
    · rw [silent, empty]
      exact clear table there empty
  · rw [if_neg there, answers.outside table there]
    rfl

theorem introspectEach_listed {introspector : Introspector σ}
    (lists : introspector.Lists awaits tables) (asked : List String) (query : Query) (world : σ) :
    ∃ listings after, introspectEach awaits introspector asked query world =
        ((.ok (), query.listing listings), after) ∧
      ∀ table, columnsListed listings table =
        if table ∈ asked then tables table else columnsListed query.listings table := by
  induction asked generalizing query world with
  | nil => exact ⟨query.listings, world, rfl, fun table => rfl⟩
  | cons name rest ih =>
      have told := lists.one name world
      cases answered : ask awaits (introspector.columnsOf name) world with
      | mk result between =>
          rw [answered] at told
          obtain rfl : result = .ok (tables name) := told
          obtain ⟨listings, after, done, listed⟩ :=
            ih (query.listing (Record.put name (tables name) query.listings)) between
          refine ⟨listings, after, ?_, ?_⟩
          · exact (Work.bind_of_ok (Work.perform_apply answered query)).trans done
          · intro table
            have before : columnsListed (query.listing
                (Record.put name (tables name) query.listings)).listings table = _ :=
              columnsListed_put table name (tables name) query.listings
            rw [listed, before]
            by_cases here : table = name
            · simp [here]
            · simp [here]

theorem introspect_listed {introspector : Introspector σ}
    (lists : introspector.Lists awaits tables)
    (clear : ∀ table ∈ asked, tables table = [] → columnsListed query.listings table = [])
    (world : σ) :
    ∃ listings after, introspect awaits introspector asked query world =
        ((.ok (), query.listing listings), after) ∧
      ∀ table, columnsListed listings table =
        if table ∈ asked then tables table else columnsListed query.listings table := by
  unfold introspect
  rw [Work.get_bind]
  split
  · obtain ⟨found, told, answers⟩ := lists.many asked world
    cases answered : ask awaits (introspector.columnsOfMany asked) world with
    | mk result after =>
        rw [answered] at told
        obtain rfl : result = .ok found := told
        exact ⟨_, after, Work.bind_of_ok (Work.perform_apply answered query),
          columnsListed_merge answers clear⟩
  · exact introspectEach_listed lists asked query world

theorem introspectPending_same {introspector? : Option (Introspector σ)}
    (lists : ∀ introspector, introspector? = some introspector →
      introspector.Lists awaits tables)
    (same : SameListed query.listings second.listings)
    (clear : ∀ table ∈ asked, tables table = [] → columnsListed query.listings table = [])
    (world between : σ) : ∃ result listings others after turned,
      introspectPending awaits introspector? asked query world =
        ((result, query.listing listings), after) ∧
      introspectPending awaits introspector? asked second between =
        ((result, second.listing others), turned) ∧ SameListed listings others := by
  cases asked with
  | nil => exact ⟨.ok (), _, _, world, between, rfl, rfl, same⟩
  | cons name rest =>
      cases introspector? with
      | none => exact ⟨.error (.noIntrospector name), _, _, world, between, rfl, rfl, same⟩
      | some introspector =>
          have lists := lists introspector rfl
          obtain ⟨listings, after, done, listed⟩ := introspect_listed lists clear world
          have alsoClear : ∀ table ∈ name :: rest, tables table = [] →
              columnsListed second.listings table = [] := by
            intro table there empty
            rw [← same]
            exact clear table there empty
          obtain ⟨others, turned, also, alsoListed⟩ := introspect_listed lists alsoClear between
          refine ⟨.ok (), listings, others, after, turned, done, also, ?_⟩
          intro table
          rw [listed, alsoListed, same]

theorem introspectPending_sparse {table : String} (empty : tables table = []) (awaits : Bool)
    (query : Query) (world : σ) :
    introspectPending awaits (some (Introspector.sparse tables)) [table] query world =
      ((.ok (), query.listing
        (if query.setup.generator.dialect.batchIntrospection.isTruthy then query.listings
          else Record.put table [] query.listings)), world) := by
  have silent : [table].filter (fun table => !(tables table).isEmpty) = [] := by
    simp [empty]
  have many : ask awaits ((Introspector.sparse tables).columnsOfMany [table]) world =
      (.ok [], world) := by
    unfold Introspector.sparse
    simp only [silent]
    exact ask_ready awaits [] world
  have one : ask awaits ((Introspector.sparse tables).columnsOf table) world =
      (.ok [], world) := by
    unfold Introspector.sparse
    simp only [empty]
    exact ask_ready awaits [] world
  have asked : introspectPending awaits (some (Introspector.sparse tables)) [table] query world =
      introspect awaits (Introspector.sparse tables) [table] query world := rfl
  rw [asked, introspect, Work.get_bind]
  split
  · exact Work.bind_of_ok (Work.perform_apply many query)
  · exact Work.bind_of_ok (Work.perform_apply one query)

theorem Discovery.relations_of_answered
    (discovery : Discovery awaits introspector? query world found later after)
    (waiting : query.wildcardsResolved = false)
    (answered : introspectPending awaits introspector? (pendingTables query.settled.relations)
      query.settled world = ((.ok (), query.settled.listing listings), between)) :
    later.relations = (applyListings listings query.settled.relations).1 := by
  have listed {outcome : Outcome Unit} {others : List (String × List Value)}
      (asked : introspectPending awaits introspector? (pendingTables query.settled.relations)
        query.settled world = ((outcome, query.settled.listing others), after)) :
      outcome = .ok () ∧ others = listings := by
    obtain ⟨same, _⟩ := Prod.mk.inj (asked.symm.trans answered)
    obtain ⟨ended, left⟩ := Prod.mk.inj same
    exact ⟨ended, congrArg Query.listings left⟩
  cases discovery with
  | known resolved => simp [waiting] at resolved
  | unanswered _ asked => cases (listed asked).1
  | incomplete _ asked =>
      rw [← (listed asked).2]
      rfl
  | complete _ asked =>
      rw [← (listed asked).2]
      rfl

end Query

end NestedSelect
