import Mathlib.Data.List.Forall2
import NestedSelect.Proofs.Query.Flavour

/-!
What finding out wildcards does to a query.

It replaces wildcards by columns, lists columns under tables, and touches nothing else. Only when
no wildcard is left do the wildcards count as resolved. `Discovery` names the ways in which it can
end; all that follows is proved from them.
-/

namespace NestedSelect

abbrev TableColumns : Type := String → List Value → Prop

theorem forall₂_comp {α β γ : Type} {first : α → β → Prop} {second : β → γ → Prop}
    {both : α → γ → Prop} (join : ∀ a b c, first a b → second b c → both a c) {as : List α}
    {bs : List β} {cs : List γ} (left : List.Forall₂ first as bs)
    (right : List.Forall₂ second bs cs) : List.Forall₂ both as cs := by
  induction left generalizing cs with
  | nil =>
      cases right
      exact .nil
  | cons head _ ih =>
      cases right with
      | cons next rest => exact .cons (join _ _ _ head next) (ih rest)

theorem forall₂_imp_of_mem {α β : Type} {first second : α → β → Prop} {as : List α} {bs : List β}
    (weaken : ∀ a, ∀ b ∈ bs, first a b → second a b) (all : List.Forall₂ first as bs) :
    List.Forall₂ second as bs := by
  induction all with
  | nil => exact .nil
  | cons head _ ih =>
      exact .cons (weaken _ _ List.mem_cons_self head)
        (ih (fun a b inside => weaken a b (List.mem_cons_of_mem _ inside)))

/-- What becomes of a request when columns are found out: it stays as it is, or it has columns of
its table in place of a wildcard. -/
inductive Request.Settles (fits : TableColumns) : Request → Request → Prop where
  | kept (request : Request) : Settles fits request request
  | found {request : Request} {first : Value} {rest : List Value}
      (asked : request.isWildcard = true) (fit : fits request.relation.table (first :: rest)) :
      Settles fits request { request with columns := .listed (first :: rest) }

namespace Request

variable {fits : TableColumns} {request settled last : Request}

theorem Settles.keeps (step : Settles fits request settled) :
    settled.name = request.name ∧ settled.mode = request.mode ∧
      settled.relation = request.relation := by
  cases step with
  | kept => exact ⟨rfl, rfl, rfl⟩
  | found => exact ⟨rfl, rfl, rfl⟩

theorem Settles.outputKey_eq (step : Settles fits request settled) :
    settled.outputKey = request.outputKey := by
  obtain ⟨name, mode, _⟩ := step.keeps
  simp only [outputKey, name, mode]

theorem Settles.columns_cases (step : Settles fits request settled) :
    settled.columns = request.columns ∨ (request.isWildcard = true ∧ ∃ first rest,
      settled.columns = .listed (first :: rest) ∧ fits request.relation.table (first :: rest)) := by
  cases step with
  | kept => exact .inl rfl
  | found asked fit => exact .inr ⟨asked, _, _, rfl, fit⟩

theorem isWildcard_listed (request : Request) (columns : List Value) :
    ({ request with columns := .listed columns } : Request).isWildcard = false := by
  simp only [isWildcard, Columns.isWildcard, Bool.and_false]

theorem Settles.trans (first : Settles fits request settled)
    (second : Settles fits settled last) : Settles fits request last := by
  cases second with
  | kept => exact first
  | found asked fit =>
      cases first with
      | kept => exact .found asked fit
      | found =>
          rw [isWildcard_listed] at asked
          cases asked

theorem Settles.trans_all {requests middle final : List Request}
    (first : List.Forall₂ (Settles fits) requests middle)
    (second : List.Forall₂ (Settles fits) middle final) :
    List.Forall₂ (Settles fits) requests final := by
  refine forall₂_comp ?_ first second
  intro _ _ _ one two
  exact one.trans two

theorem resolveColumns_eq_ok {columns : List Value}
    (done : request.resolveColumns (.list columns) = .ok settled) :
    request.isWildcard = true ∧ columns ≠ [] ∧
      settled = { request with columns := .listed columns } := by
  refine ⟨isWildcard_of_resolveColumns done, ?_, ?_⟩
  · rintro rfl
    unfold resolveColumns at done
    split at done
    · cases done
    · cases done
  · unfold resolveColumns at done
    split at done
    · cases done
    · split at done
      · cases done
      · cases done
        rfl

end Request

namespace Query

open Request (Settles)

def ListingsFit (fits : TableColumns) (listings : List (String × List Value)) : Prop :=
  ∀ table first rest, Record.get? table listings = some (first :: rest) →
    fits table (first :: rest)

theorem ListingsFit.put {fits : TableColumns} {listings : List (String × List Value)}
    (fitting : ListingsFit fits listings) {table : String} {columns : List Value}
    (fit : columns ≠ [] → fits table columns) :
    ListingsFit fits (Record.put table columns listings) := by
  intro other first rest found
  by_cases same : other = table
  · subst same
    rw [Record.get?_put_self] at found
    cases found
    exact fit (List.cons_ne_nil _ _)
  · rw [Record.get?_put_of_ne same] at found
    exact fitting other first rest found

def staticColumnsOf (setup : QuerySetup) (request : Request) : Option (List Value) :=
  staticColumns setup.schema (Hydration.handleOf request.relation.model?) request.relation.table
    setup.config

theorem staticColumns_ne_nil {schema : Schema} {handle : Handle} {table : String}
    {config : Option Config} {columns : List Value}
    (known : staticColumns schema handle table config = some columns) : columns ≠ [] := by
  unfold staticColumns at known
  split at known
  · cases config with
    | none => cases known
    | some options =>
        have filtered : options.columnsFor table = some columns := known
        unfold Config.columnsFor at filtered
        intro empty
        have kept := (Option.filter_eq_some_iff.1 filtered).2
        rw [empty] at kept
        cases kept
  · rename_i filled
    cases known
    intro empty
    exact filled (List.map_eq_nil_iff.1 empty)

theorem knownColumns_eq_some {setup : QuerySetup} {listings : List (String × List Value)}
    {request : Request} {columns : List Value}
    (known : knownColumns setup listings request = some columns) :
    columns ≠ [] ∧ (Record.get? request.relation.table listings = some columns ∨
      staticColumnsOf setup request = some columns) := by
  unfold knownColumns at known
  simp only at known
  split at known
  · rename_i listed
    cases known
    exact ⟨List.cons_ne_nil _ _, .inl listed⟩
  · exact ⟨staticColumns_ne_nil known, .inr known⟩

theorem settleKnown_fits {fits : TableColumns} {setup : QuerySetup} {requests : List Request}
    {listings : List (String × List Value)} (fitting : ListingsFit fits listings)
    (static : ∀ request ∈ requests, request.isWildcard = true →
      ∀ columns, staticColumnsOf setup request = some columns →
        fits request.relation.table columns) :
    List.Forall₂ (Settles fits) requests (settleKnown setup requests listings).1 ∧
      ListingsFit fits (settleKnown setup requests listings).2 := by
  induction requests generalizing listings with
  | nil => exact ⟨.nil, fitting⟩
  | cons request rest ih =>
      have later := fun other inside => static other (List.mem_cons_of_mem request inside)
      unfold settleKnown
      split
      · rename_i columns known
        split at known
        · rename_i asked
          obtain ⟨filled, source⟩ := knownColumns_eq_some known
          obtain ⟨first, others, rfl⟩ := List.exists_cons_of_ne_nil filled
          have fit : fits request.relation.table (first :: others) := by
            rcases source with listed | found
            · exact fitting _ _ _ listed
            · exact static request List.mem_cons_self asked _ found
          have next := ih (fitting.put (fun _ => fit)) later
          exact ⟨.cons (.found asked fit) next.1, next.2⟩
        · cases known
      · have next := ih fitting later
        exact ⟨.cons (.kept request) next.1, next.2⟩

theorem applyListings_fits {fits : TableColumns} {listings : List (String × List Value)}
    (fitting : ListingsFit fits listings) (requests : List Request) :
    List.Forall₂ (Settles fits) requests (applyListings listings requests).1 := by
  induction requests with
  | nil => exact .nil
  | cons request rest ih =>
      unfold applyListings
      split
      · simp only
        split
        · rename_i settled applied
          obtain ⟨asked, filled, rfl⟩ := Request.resolveColumns_eq_ok applied
          cases listed : Record.get? request.relation.table listings with
          | none =>
              rw [listed] at filled
              exact absurd rfl filled
          | some columns =>
              cases columns with
              | nil =>
                  rw [listed] at filled
                  exact absurd rfl filled
              | cons first others => exact .cons (.found asked (fitting _ _ _ listed)) ih
        · exact List.forall₂_same.2 (fun request _ => .kept request)
      · exact .cons (.kept request) ih

theorem applyListings_complete {listings : List (String × List Value)} {requests : List Request}
    (done : (applyListings listings requests).2 = .ok ()) :
    ∀ request ∈ (applyListings listings requests).1, request.isWildcard = false := by
  induction requests with
  | nil =>
      intro request member
      cases member
  | cons request rest ih =>
      unfold applyListings at done ⊢
      split at done
      · rename_i asked
        simp only at done
        rw [if_pos asked]
        split at done
        · rename_i settled applied
          simp only [applied]
          intro other member
          rcases List.mem_cons.1 member with rfl | inside
          · exact Request.not_isWildcard_of_resolveColumns applied
          · exact ih done other inside
        · cases done
      · rename_i settled
        rw [if_neg settled]
        intro other member
        rcases List.mem_cons.1 member with rfl | inside
        · exact Bool.eq_false_iff.2 settled
        · exact ih done other inside

variable {σ : Type} {query later : Query} {world after : σ}

def listing (query : Query) (listings : List (String × List Value)) : Query :=
  { query with listings := listings }

/-- The listings after an answer: what was answered is kept in them, a failure leaves them as they
are. -/
def listingsAfter {α : Type} (keep : α → List (String × List Value))
    (listings : List (String × List Value)) : Outcome α → List (String × List Value)
  | .ok found => keep found
  | .error _ => listings

/-- What every answer of an introspector to a question about some tables preserves. -/
structure Preserves (awaits : Bool) (introspector : Introspector σ) (tables : String → Prop)
    (holds : List (String × List Value) → σ → Prop) : Prop where
  one : ∀ table, tables table → ∀ listings world, holds listings world →
    let answered := ask awaits (introspector.columnsOf table) world
    holds (listingsAfter (fun columns => Record.put table columns listings) listings answered.1)
      answered.2
  many : ∀ asked, (∀ table ∈ asked, tables table) → ∀ listings world, holds listings world →
    let answered := ask awaits (introspector.columnsOfMany asked) world
    holds (listingsAfter (Record.merge listings) listings answered.1) answered.2

variable {awaits : Bool} {tables : String → Prop}
  {holds : List (String × List Value) → σ → Prop} {asked : List String} {outcome : Outcome Unit}

theorem introspectEach_preserves {introspector : Introspector σ}
    (kept : Preserves awaits introspector tables holds) (fit : ∀ table ∈ asked, tables table)
    (before : holds query.listings world)
    (done : introspectEach awaits introspector asked query world = ((outcome, later), after)) :
    ∃ listings, later = query.listing listings ∧ holds listings after := by
  induction asked generalizing query world with
  | nil =>
      cases done
      exact ⟨_, rfl, before⟩
  | cons table rest ih =>
      have step := kept.one table (fit table List.mem_cons_self) query.listings world before
      unfold introspectEach at done
      rcases Work.perform_cases done with ⟨fault, answered, rfl, rfl⟩ |
        ⟨columns, between, answered, done⟩
      · rw [answered] at step
        exact ⟨query.listings, rfl, step⟩
      · rw [answered] at step
        obtain ⟨listings, rfl, reached⟩ :=
          ih (fun other inside => fit other (List.mem_cons_of_mem table inside)) step
            (Work.of_modify done)
        exact ⟨listings, rfl, reached⟩

theorem introspectPending_preserves {introspector? : Option (Introspector σ)}
    (kept : ∀ introspector, introspector? = some introspector →
      Preserves awaits introspector tables holds)
    (fit : ∀ table ∈ asked, tables table) (before : holds query.listings world)
    (done : introspectPending awaits introspector? asked query world = ((outcome, later), after)) :
    ∃ listings, later = query.listing listings ∧ holds listings after := by
  unfold introspectPending at done
  split at done
  · cases done
    exact ⟨query.listings, rfl, before⟩
  · cases done
    exact ⟨query.listings, rfl, before⟩
  · rename_i introspector _
    have kept := kept introspector rfl
    unfold introspect at done
    have done := Work.of_get done
    split at done
    · have step := kept.many _ fit query.listings world before
      rcases Work.perform_cases done with ⟨fault, answered, rfl, rfl⟩ |
        ⟨found, between, answered, done⟩
      · rw [answered] at step
        exact ⟨query.listings, rfl, step⟩
      · rw [answered] at step
        cases done
        exact ⟨_, rfl, step⟩
    · exact introspectEach_preserves kept fit before done

theorem introspectPending_frame {introspector? : Option (Introspector σ)}
    (done : introspectPending awaits introspector? asked query world = ((outcome, later), after)) :
    ∃ listings, later = query.listing listings := by
  have anything : ∀ introspector, introspector? = some introspector →
      Preserves awaits introspector (fun _ => True) (fun _ _ => True) :=
    fun _ _ => ⟨fun _ _ _ _ _ => trivial, fun _ _ _ _ _ => trivial⟩
  obtain ⟨listings, same, _⟩ :=
    introspectPending_preserves anything (fun _ _ => trivial) trivial done
  exact ⟨listings, same⟩

def settled (query : Query) : Query :=
  { query with
    relations := (settleKnown query.setup query.relations query.listings).1
    listings := (settleKnown query.setup query.relations query.listings).2 }

def listed (query : Query) : Query :=
  { query with relations := (applyListings query.listings query.relations).1 }

/-- The ways in which finding out wildcards ends, with the query and the world at the end. -/
inductive Discovery (awaits : Bool) (introspector? : Option (Introspector σ)) (query : Query)
    (world : σ) : Outcome Unit → Query → σ → Prop where
  /-- Nothing had to be found out. -/
  | known (resolved : query.wildcardsResolved = true) :
      Discovery awaits introspector? query world (.ok ()) query world
  /-- Nobody could be asked, or asking failed. -/
  | unanswered {fault : Fault} {listings : List (String × List Value)} {after : σ}
      (waiting : query.wildcardsResolved = false)
      (asked : introspectPending awaits introspector? (pendingTables query.settled.relations)
        query.settled world = ((.error fault, query.settled.listing listings), after)) :
      Discovery awaits introspector? query world (.error fault) (query.settled.listing listings)
        after
  /-- Some table had no columns. -/
  | incomplete {fault : Fault} {listings : List (String × List Value)} {after : σ}
      (waiting : query.wildcardsResolved = false)
      (asked : introspectPending awaits introspector? (pendingTables query.settled.relations)
        query.settled world = ((.ok (), query.settled.listing listings), after))
      (missing : (applyListings listings query.settled.relations).2 = .error fault) :
      Discovery awaits introspector? query world (.error fault)
        (query.settled.listing listings).listed after
  /-- All columns were found out. -/
  | complete {listings : List (String × List Value)} {after : σ}
      (waiting : query.wildcardsResolved = false)
      (asked : introspectPending awaits introspector? (pendingTables query.settled.relations)
        query.settled world = ((.ok (), query.settled.listing listings), after))
      (enough : (applyListings listings query.settled.relations).2 = .ok ()) :
      Discovery awaits introspector? query world (.ok ())
        { (query.settled.listing listings).listed with wildcardsResolved := true } after

theorem resolveWildcards_discovery {introspector? : Option (Introspector σ)}
    (done : resolveWildcards awaits introspector? query world = ((outcome, later), after)) :
    Discovery awaits introspector? query world outcome later after := by
  rw [resolveWildcards_eq] at done
  have done := Work.of_get done
  split at done
  · rename_i resolved
    cases done
    exact .known resolved
  rename_i waiting
  have waiting : query.wildcardsResolved = false := Bool.eq_false_iff.2 waiting
  rcases Work.bind_cases (Work.of_set done) with ⟨fault, failed, rfl⟩ | ⟨_, _, _, first, done⟩
  · obtain ⟨listings, rfl⟩ := introspectPending_frame failed
    exact .unanswered waiting failed
  obtain ⟨listings, rfl⟩ := introspectPending_frame first
  have done := Work.of_set (Work.of_get done)
  rcases Work.check_cases done with ⟨fault, missing, rfl, rfl, rfl⟩ | ⟨_, enough, done⟩
  · exact .incomplete waiting first missing
  · cases done
    exact .complete waiting first enough

/-- Each way in which finding out wildcards ends is the way in which it goes. -/
theorem resolveWildcards_of_discovery {introspector? : Option (Introspector σ)}
    (found : Discovery awaits introspector? query world outcome later after) :
    resolveWildcards awaits introspector? query world = ((outcome, later), after) := by
  rw [resolveWildcards_eq]
  rw [Work.get_bind]
  cases found with
  | known resolved =>
      rw [if_pos resolved]
      rfl
  | unanswered waiting asked =>
      rw [if_neg (Bool.eq_false_iff.1 waiting), Work.set_bind]
      exact Work.bind_of_error asked
  | incomplete waiting asked missing =>
      rw [if_neg (Bool.eq_false_iff.1 waiting), Work.set_bind]
      refine (Work.bind_of_ok asked).trans ?_
      rw [Work.get_bind, Work.set_bind]
      exact Work.bind_of_error (Work.lift_apply missing _ _)
  | complete waiting asked enough =>
      rw [if_neg (Bool.eq_false_iff.1 waiting), Work.set_bind]
      refine (Work.bind_of_ok asked).trans ?_
      rw [Work.get_bind, Work.set_bind]
      exact Work.bind_of_ok (Work.lift_apply enough _ _)

theorem exists_discovery (awaits : Bool) (introspector? : Option (Introspector σ)) (query : Query)
    (world : σ) : ∃ outcome later after,
      Discovery awaits introspector? query world outcome later after :=
  ⟨_, _, _, resolveWildcards_discovery rfl⟩

namespace Discovery

variable {introspector? : Option (Introspector σ)}

theorem frame (found : Discovery awaits introspector? query world outcome later after) :
    later = { query with
      relations := later.relations
      listings := later.listings
      wildcardsResolved := later.wildcardsResolved } := by
  cases found with
  | known => rfl
  | unanswered => rfl
  | incomplete => rfl
  | complete => rfl

theorem fits {fits : TableColumns}
    (found : Discovery awaits introspector? query world outcome later after)
    (fitting : ListingsFit fits query.listings)
    (static : ∀ request ∈ query.relations, request.isWildcard = true →
      ∀ columns, staticColumnsOf query.setup request = some columns →
        fits request.relation.table columns)
    (answering : ∀ answer listings, ListingsFit fits query.settled.listings →
      introspectPending awaits introspector? (pendingTables query.settled.relations)
        query.settled world = ((answer, query.settled.listing listings), after) →
      ListingsFit fits listings) :
    List.Forall₂ (Settles fits) query.relations later.relations ∧
      ListingsFit fits later.listings := by
  have settling := settleKnown_fits fitting static
  cases found with
  | known => exact ⟨List.forall₂_same.2 (fun request _ => .kept request), fitting⟩
  | unanswered _ asked => exact ⟨settling.1, answering _ _ settling.2 asked⟩
  | incomplete _ asked =>
      have listed := answering _ _ settling.2 asked
      exact ⟨Settles.trans_all settling.1 (applyListings_fits listed _), listed⟩
  | complete _ asked =>
      have listed := answering _ _ settling.2 asked
      exact ⟨Settles.trans_all settling.1 (applyListings_fits listed _), listed⟩

theorem settles (found : Discovery awaits introspector? query world outcome later after) :
    List.Forall₂ (Settles (fun _ _ => True)) query.relations later.relations :=
  (found.fits (fun _ _ _ _ => trivial) (fun _ _ _ _ _ => trivial)
    (fun _ _ _ _ _ _ _ _ => trivial)).1

theorem resolved (found : Discovery awaits introspector? query world outcome later after)
    (before : query.wildcardsResolved = true →
      ∀ request ∈ query.relations, request.isWildcard = false)
    (marked : later.wildcardsResolved = true) :
    ∀ request ∈ later.relations, request.isWildcard = false := by
  cases found with
  | known => exact before marked
  | unanswered waiting => exact absurd (waiting.symm.trans marked) Bool.false_ne_true
  | incomplete waiting => exact absurd (waiting.symm.trans marked) Bool.false_ne_true
  | complete _ _ enough => exact applyListings_complete enough

theorem marked (found : Discovery awaits introspector? query world (.ok ()) later after) :
    later.wildcardsResolved = true := by
  cases found with
  | known resolved => exact resolved
  | complete => rfl

end Discovery

end Query

end NestedSelect
