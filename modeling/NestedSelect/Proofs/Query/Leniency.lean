import NestedSelect.Proofs.Query.Caps
import NestedSelect.Proofs.Query.Framing

/-!
Strict and lenient options side by side.

Strict options only reject. What they accept, lenient ones accept as well, without a note and to the
same effect (`Relaxes.accepts`); what they refuse leaves no trace that a lenient query would not
have (`Relaxes.refuses`). So a strict session is followed by the lenient one that makes only its
accepted calls.
-/

namespace NestedSelect

open Query

variable {σ : Type}

def Config.relaxed (config : Config) (mode limits : Value) : Config :=
  { config with strictMode := mode, strictLimitValidation := limits }

def QuerySetup.relaxed (setup : QuerySetup) (mode limits : Value) : QuerySetup :=
  { setup with config := setup.config.relaxed mode limits }

def Call.meetsCap : Call → Bool
  | .attach .. | .limit .. | .paginate .. => true
  | _ => false

namespace Query

variable {query later : Query} {world after : σ} {awaits : Bool}

theorem settleKnown_named (setup : QuerySetup) {requests : List Request}
    (named : ∀ request ∈ requests, request.isWildcard = false)
    (listings : List (String × List Value)) :
    settleKnown setup requests listings = (requests, listings) := by
  induction requests with
  | nil => rfl
  | cons request rest ih =>
      have first := named request List.mem_cons_self
      have others := ih (fun other inside => named other (List.mem_cons_of_mem request inside))
      simp only [settleKnown, first, others, Bool.false_eq_true, if_false]

theorem resolveWildcards_named {introspector? : Option (Introspector σ)}
    (named : ∀ request ∈ query.relations, request.isWildcard = false) (world : σ) :
    resolveWildcards awaits introspector? query world =
      ((.ok (), { query with wildcardsResolved := true }), world) := by
  apply resolveWildcards_of_discovery
  by_cases resolved : query.wildcardsResolved = true
  · have still : { query with wildcardsResolved := true } = query := by rw [← resolved]
    rw [still]
    exact .known resolved
  · have settled : query.settled = query := by
      unfold Query.settled
      rw [settleKnown_named query.setup named]
    have applied := applyListings_settled query.listings named
    have step : Discovery awaits introspector? query world (.ok ())
        { (query.settled.listing query.listings).listed with wildcardsResolved := true } world := by
      apply Discovery.complete (Bool.eq_false_iff.2 resolved)
      · rw [settled, pendingTables_settled named]
        rfl
      · rw [settled, applied]
    have reached : (query.settled.listing query.listings).listed = query := by
      rw [settled]
      unfold listing listed
      rw [applied]
    rwa [reached] at step

/-- A query with other values in place of those that say what is refused. It may have been read
less often, and remember other relations. -/
def relaxed (query : Query) (mode limits : Value) (resolved : Bool)
    (memory : List (String × Relation)) : Query :=
  { query with
    setup := query.setup.relaxed mode limits
    resolutions := memory
    wildcardsResolved := resolved }

/-- A strict query without wildcards, and a lenient one that is the same otherwise. -/
structure Relaxes (mode limits : Value) (query free : Query) : Prop where
  strict : query.setup.config.IsStrict
  limited : query.setup.config.LimitsStrictly
  named : ∀ request ∈ query.relations, request.isWildcard = false
  faithful : query.Faithful
  freely : free.Faithful
  same : ∃ resolved memory, free = query.relaxed mode limits resolved memory

namespace Relaxes

variable {mode limits : Value} {free : Query}

theorem presents (mode limits : Value) : Presents (Relaxes mode limits) := by
  refine ⟨⟨?_, ?_, ?_⟩, ?_⟩
  · rintro query _ ⟨_, _, _, _, _, resolved, memory, rfl⟩
    rfl
  · rintro query _ window ⟨_, _, _, _, _, resolved, memory, rfl⟩
    exact .refl _
  · rintro query _ ⟨_, _, _, _, _, resolved, memory, rfl⟩
    exact .refl _
  · rintro query _ ⟨_, _, _, _, _, resolved, memory, rfl⟩ hydrators handle rows
    rfl

theorem resolve_matches (awaits : Bool) (mode limits : Value)
    (introspector? : Option (Introspector σ)) :
    Work.Matches (Relaxes mode limits) Eq Eq (resolveWildcards awaits introspector?)
      (resolveWildcards awaits introspector?) := by
  rintro query _ world _ ⟨strict, limited, named, faithful, freely, resolved, memory, rfl⟩ rfl
  have named' : ∀ request ∈ (query.relaxed mode limits resolved memory).relations,
      request.isWildcard = false := named
  rw [resolveWildcards_named named, resolveWildcards_named named']
  exact ⟨.ok rfl, ⟨strict, limited, named, faithful, freely, true, memory, rfl⟩, rfl⟩

variable {link : Link σ} {hydrators : HydratorSource} {call : Call}

theorem made_matches {α : Type} (mode limits : Value) (check : Outcome α)
    (write : α → Query → Query)
    (frame : ∀ a query, (write a query).setup = query.setup ∧
      (write a query).relations = query.relations ∧
      (write a query).resolutions = query.resolutions)
    (apart : ∀ a query resolved memory, write a (query.relaxed mode limits resolved memory) =
      (write a query).relaxed mode limits resolved memory) :
    Edit.Matches (Relaxes mode limits) Eq
      ((liftM check : Edit α) >>= fun a => modify (write a))
      ((liftM check : Edit α) >>= fun a => modify (write a)) := by
  refine .bind (.lift (.refl _)) ?_
  rintro a _ rfl
  apply Edit.Matches.modify
  rintro query _ ⟨strict, limited, named, faithful, freely, resolved, memory, rfl⟩
  obtain ⟨setup, relations, resolutions⟩ := frame a query
  obtain ⟨freeSetup, _, freeResolutions⟩ := frame a (query.relaxed mode limits resolved memory)
  refine ⟨?_, ?_, ?_, faithful.congr setup resolutions, freely.congr freeSetup freeResolutions,
    resolved, memory, apart a query resolved memory⟩
  · rwa [setup]
  · rwa [setup]
  · rwa [relations]

theorem answer_matches (mode limits : Value) (link : Link σ) (hydrators : HydratorSource)
    (free : call.meetsCap = false) :
    Work.Matches (Relaxes mode limits) Eq Eq (answer hydrators link call)
      (answer hydrators link call) := by
  have presents := presents mode limits
  have resolved (awaits : Bool) := resolve_matches awaits mode limits link.introspector?
  cases call with
  | attach => cases free
  | limit => cases free
  | paginate => cases free
  | filter column operator value =>
      exact .bind (.edit (made_matches mode limits (Filter.make column operator value) _
        (fun _ _ => ⟨rfl, rfl, rfl⟩) (fun _ _ _ _ => rfl))) (fun _ _ _ => .pure rfl)
  | orderBy column direction =>
      exact .bind (.edit (made_matches mode limits (OrderTerm.make column direction) _
        (fun _ _ => ⟨rfl, rfl, rfl⟩) (fun _ _ _ _ => rfl))) (fun _ _ _ => .pure rfl)
  | offset value =>
      exact .bind (.edit (made_matches mode limits (ensureNonNegative "Offset" value) _
        (fun _ _ => ⟨rfl, rfl, rfl⟩) (fun _ _ _ _ => rfl))) (fun _ _ _ => .pure rfl)
  | compile awaits =>
      refine .bind (compile_matches (resolved awaits) presents.toBuilds) ?_
      rintro statement _ rfl
      exact .pure rfl
  | text =>
      refine .bind (compile_matches (resolved false) presents.toBuilds) ?_
      rintro statement _ rfl
      exact .pure rfl
  | bindings =>
      apply Work.Matches.get_bind
      intro query second start
      have same : query.bindings = second.bindings := by
        unfold bindings
        rw [presents.window _ _ start, (presents.build _ _ _ start).eq]
      rw [same]
      refine .bind (.lift (.refl _)) ?_
      rintro values _ rfl
      exact .pure rfl
  | fetch awaits handle =>
      refine .bind (fetch_matches presents (resolved awaits)) ?_
      rintro items _ rfl
      exact .pure rfl
  | first awaits handle =>
      refine .bind (fetchFirst_matches presents (resolved awaits)) ?_
      rintro item _ rfl
      exact .pure rfl

theorem attachable (mode limits : Value) (resolved : Bool) {memory : List (String × Relation)}
    {kind : RequestMode} {name columns : Value} {request : Request}
    (fit : Attachable query kind name columns request) (strict : query.setup.config.IsStrict)
    (found : (query.relaxed mode limits resolved memory).relationNamed request.name =
      .ok request.relation) :
    Attachable (query.relaxed mode limits resolved memory) kind name columns request := by
  obtain ⟨named, counted, _⟩ := fit.strict strict
  refine ⟨fit.named, fit.inMode, fit.asked, found, fit.admitted, fit.apart, ?_, false, counted,
    nofun⟩
  intro wild
  exact absurd (named.symm.trans wild) Bool.false_ne_true

theorem admits (mode limits : Value) (resolved : Bool) (memory : List (String × Relation))
    {label : String} {value : Value} {n : Int} (admitted : query.Admits label value n)
    (strict : query.setup.config.LimitsStrictly) :
    (query.relaxed mode limits resolved memory).Admits label value n :=
  ⟨admitted.whole, false, (admitted.strict strict).1, nofun⟩

theorem pages (mode limits : Value) (resolved : Bool) (memory : List (String × Relation))
    {page perPage : Value} {number size : Int} (pages : query.Pages page perPage number size)
    (strict : query.setup.config.LimitsStrictly) :
    (query.relaxed mode limits resolved memory).Pages page perPage number size :=
  ⟨pages.paged, pages.numbered, pages.sized,
    admits mode limits resolved memory pages.admitted strict⟩

variable {answered : Answer}

theorem accepts_attach {kind : RequestMode} {name columns : Value}
    (relaxes : Relaxes mode limits query free)
    (done : answer hydrators link (.attach kind name columns) query world =
      ((.ok answered, later), after)) :
    ∃ since, answer hydrators link (.attach kind name columns) free world =
      ((.ok answered, since), after) ∧ Relaxes mode limits later since := by
  obtain ⟨strict, limited, named, faithful, freely, resolved, memory, rfl⟩ := relaxes
  obtain ⟨rfl, result, changed, same⟩ := edit_answered done
  cases register_registers changed with
  | refused => cases same
  | overruled => cases same
  | resolved => cases same
  | @attached request fit =>
      cases same
      have found : (query.relaxed mode limits resolved memory).relationNamed request.name =
          .ok request.relation := by
        rw [freely.relationNamed_eq, ← fit.found, faithful.relationNamed_eq]
        rfl
      have registered := register_of_attachable (attachable mode limits resolved fit strict found)
      refine ⟨_, answered_of_edit registered world, strict, limited, ?_, faithful.put fit.found,
        freely.put found, false, _, rfl⟩
      intro other inside
      rcases List.mem_append.1 inside with before | last
      · exact named other before
      · rw [List.mem_singleton.1 last, Request.isWildcard, (fit.strict strict).1, Bool.and_false]

theorem accepts_limit {value : Value} (relaxes : Relaxes mode limits query free)
    (done : answer hydrators link (.limit value) query world = ((.ok answered, later), after)) :
    ∃ since, answer hydrators link (.limit value) free world = ((.ok answered, since), after) ∧
      Relaxes mode limits later since := by
  obtain ⟨strict, limited, named, faithful, freely, resolved, memory, rfl⟩ := relaxes
  obtain ⟨rfl, result, changed, same⟩ := edit_answered done
  rcases limit_cases changed with ⟨_, rfl, _⟩ | ⟨n, admitted, rfl, rfl⟩
  · cases same
  · cases same
    have chosen := limit_of_admits (admits mode limits resolved memory admitted limited)
    exact ⟨_, answered_of_edit chosen world, strict, limited, named, faithful, freely, resolved,
      memory, rfl⟩

theorem accepts_paginate {awaits : Bool} {page perPage : Value} {handle : HydratorHandle}
    (relaxes : Relaxes mode limits query free)
    (done : answer hydrators link (.paginate awaits page perPage handle) query world =
      ((.ok answered, later), after)) :
    ∃ since, answer hydrators link (.paginate awaits page perPage handle) free world =
      ((.ok answered, since), after) ∧ Relaxes mode limits later since := by
  obtain ⟨strict, limited, named, faithful, freely, resolved, memory, rfl⟩ := relaxes
  obtain ⟨result, paged, same⟩ := paginate_answered done
  obtain ⟨rows, rfl, shaped⟩ := Outcome.bind_eq_ok same.symm
  obtain ⟨number, size, admitted, reached⟩ := paginate_eq_ok paged
  have start : Relaxes mode limits (query.noting (query.excess size))
      ((query.relaxed mode limits resolved memory).noting (query.excess size)) :=
    ⟨strict, limited, named, faithful, freely, resolved, memory, rfl⟩
  have both : Work.Matches (Relaxes mode limits) Eq Eq
      (pageOf awaits hydrators link handle (number, size))
      (pageOf awaits hydrators link handle (number, size)) :=
    pageOf_matches (presents mode limits) (resolve_matches awaits mode limits link.introspector?) _
  obtain ⟨result, since, _, went, alike, kept, rfl⟩ := both.follow start rfl reached
  rw [← alike.eq] at went
  have answered_ := answered_of_paginate ((paginate_of_pages awaits hydrators link handle
    (pages mode limits resolved memory admitted limited) world).trans went)
  rw [Outcome.bind_of_ok rfl, shaped] at answered_
  exact ⟨since, answered_, kept⟩

/-- What a strict query accepts, a lenient one accepts with the same answer. -/
theorem accepts (relaxes : Relaxes mode limits query free)
    (done : answer hydrators link call query world = ((.ok answered, later), after)) :
    ∃ since, answer hydrators link call free world = ((.ok answered, since), after) ∧
      Relaxes mode limits later since := by
  by_cases unchecked : call.meetsCap = false
  · obtain ⟨result, since, _, went, same, kept, rfl⟩ :=
      (answer_matches mode limits link hydrators unchecked).follow relaxes rfl done
    rw [← same.eq] at went
    exact ⟨since, went, kept⟩
  cases call with
  | attach => exact accepts_attach relaxes done
  | limit => exact accepts_limit relaxes done
  | paginate => exact accepts_paginate relaxes done
  | _ => exact absurd rfl unchecked

theorem discovery {awaits : Bool} {introspector? : Option (Introspector σ)}
    {found : Outcome Unit} (relaxes : Relaxes mode limits query free)
    (step : Discovery awaits introspector? query world found later after) :
    Relaxes mode limits later free ∧ after = world := by
  obtain ⟨strict, limited, named, faithful, freely, resolved, memory, rfl⟩ := relaxes
  have same := (resolveWildcards_of_discovery step).symm.trans (resolveWildcards_named named world)
  cases same
  exact ⟨⟨strict, limited, named, faithful, freely, resolved, memory, rfl⟩, rfl⟩

/-- What a strict query refuses leaves nothing that a lenient one would not have. -/
theorem refuses {fault : Fault} (relaxes : Relaxes mode limits query free)
    (done : answer hydrators link call query world = ((.error fault, later), after)) :
    Relaxes mode limits later free := by
  cases answer_advance done with
  | refused warnings memory _ left =>
      have faithful := left.faithful relaxes.faithful
      rw [left.strict relaxes.strict, leaving, noting_nil] at faithful ⊢
      obtain ⟨resolved, freeMemory, same⟩ := relaxes.same
      exact ⟨relaxes.strict, relaxes.limited, relaxes.named, faithful, relaxes.freely, resolved,
        freeMemory, same⟩
  | read _ reads =>
      cases reads with
      | idle warnings noted =>
          rw [noted.strict relaxes.limited, noting_nil]
          exact relaxes
      | stopped step noted =>
          rw [noted.strict relaxes.limited, noting_nil] at step
          exact (relaxes.discovery step).1
      | ran _ step _ noted =>
          rw [noted.strict relaxes.limited, noting_nil] at step
          exact (relaxes.discovery step).1

end Relaxes

theorem answer_unmoved {link : Link σ} {hydrators : HydratorSource} {call : Call}
    {outcome : Outcome Answer}
    (named : ∀ request ∈ query.relations, request.isWildcard = false)
    (silent : call.runs = false)
    (done : answer hydrators link call query world = ((outcome, later), after)) :
    after = world := by
  rcases answer_silent silent done with same | ⟨awaits, found, discovery⟩
  · exact same
  · have same := (resolveWildcards_of_discovery discovery).symm.trans
      (resolveWildcards_named named world)
    cases same
    rfl

end Query

def acceptedCalls (history : List (Call × Outcome Answer)) : List Call :=
  accepted some history

def Session.Unharmed (hydrators : HydratorSource) (link : Link σ) (session : Session σ)
    (call : Call) : Prop :=
  call.runs = true → ∀ fault, session.outcome hydrators link call = .error fault →
    (session.call hydrators link call).world = session.world

theorem Session.call_ok {hydrators : HydratorSource} {link : Link σ} {session : Session σ}
    {call : Call} {answered : Answer} {later : Query} {after : σ}
    (done : answer hydrators link call session.query session.world =
      ((.ok answered, later), after)) :
    session.call hydrators link call =
      ⟨later, after, session.history ++ [(call, .ok answered)]⟩ := by
  unfold Session.call
  rw [done]

/-- A lenient session that follows a strict one: it has made just the accepted calls, all were
accepted, and both are in the same state. -/
structure Session.Follows (mode limits : Value) (strict free : Session σ) : Prop where
  relaxes : Relaxes mode limits strict.query free.query
  world : free.world = strict.world
  history : free.history = strict.history.filter (fun made => made.2.toOption.isSome)

/-- The lenient session makes a call if the strict one accepted it. -/
theorem Session.Follows.call {hydrators : HydratorSource} {link : Link σ} {mode limits : Value}
    {strict free : Session σ} (follows : strict.Follows mode limits free) {call : Call}
    (unharmed : strict.Unharmed hydrators link call) :
    (strict.call hydrators link call).Follows mode limits
      (free.run hydrators link
        (acceptedCalls [(call, strict.outcome hydrators link call)])) := by
  have done := strict.answered hydrators link call
  have grown : (strict.call hydrators link call).history =
      strict.history ++ [(call, strict.outcome hydrators link call)] := rfl
  cases ended : strict.outcome hydrators link call with
  | ok answered =>
      rw [ended] at done grown
      obtain ⟨since, went, relaxes⟩ := follows.relaxes.accepts done
      rw [← follows.world] at went
      change (strict.call hydrators link call).Follows mode limits (free.call hydrators link call)
      rw [Session.call_ok went]
      refine ⟨relaxes, rfl, ?_⟩
      rw [grown, List.filter_append, follows.history]
      rfl
  | error fault =>
      rw [ended] at done grown
      change (strict.call hydrators link call).Follows mode limits free
      refine ⟨follows.relaxes.refuses done, ?_, ?_⟩
      · rw [follows.world]
        by_cases runs : call.runs = true
        · exact (unharmed runs fault ended).symm
        · exact (answer_unmoved follows.relaxes.named (Bool.eq_false_iff.2 runs) done).symm
      · rw [grown, List.filter_append, follows.history]
        exact (List.append_nil _).symm

theorem Session.follows_run (hydrators : HydratorSource) (link : Link σ) {setup : QuerySetup}
    (strict : setup.config.IsStrict) (limited : setup.config.LimitsStrictly)
    (mode limits : Value) (world : σ) (calls : List Call)
    (unharmed : ∀ before call, before ++ [call] <+: calls →
      ((opened setup world).run hydrators link before).Unharmed hydrators link call) :
    let session := (opened setup world).run hydrators link calls
    session.Follows mode limits
      ((opened (setup.relaxed mode limits) world).run hydrators link
        (acceptedCalls session.history)) := by
  induction calls using List.reverseRecOn with
  | nil =>
      exact ⟨⟨strict, limited, List.forall_mem_nil _, nofun, nofun, false, [], rfl⟩, rfl, rfl⟩
  | append_singleton before call ih =>
      have follows := ih (fun earlier other part =>
        unharmed earlier other (part.trans (List.prefix_append before [call])))
      have next := follows.call (unharmed before call (List.prefix_refl _))
      intro session
      have last : session =
          ((opened setup world).run hydrators link before).call hydrators link call :=
        run_append _ before [call]
      rw [last]
      rw [← run_append] at next
      have grown : acceptedCalls ((((opened setup world).run hydrators link before).call hydrators
          link call).history) = _ := accepted_append some _ _
      rwa [grown]

namespace Query

def Edit.Accepts {α : Type} (change : Edit α) (query : Query) : Prop :=
  ∃ a later, change query = (.ok a, later)

def Edit.AcceptsSilently {α : Type} (change : Edit α) (query : Query) : Prop :=
  ∃ a later, change query = (.ok a, later) ∧ later.warnings = query.warnings

variable {query : Query} {mode limits : Value} {resolved : Bool}

theorem notes_eq_nil {present : Bool} {v : Violation} (silent : notes present v = []) :
    present = false := by
  cases present with
  | false => rfl
  | true => cases silent

theorem attachable_of_silent {kind : RequestMode} {name columns : Value} {request : Request}
    (fit : Attachable (query.relaxed mode limits resolved query.resolutions) kind name columns
      request)
    (silent : query.remarks request = []) : Attachable query kind name columns request := by
  obtain ⟨wild, crowded⟩ := List.append_eq_nil_iff.1 silent
  obtain ⟨exceeded, counted, _⟩ := fit.counted
  have few : notes exceeded _ = [] := (surplus_of_exceededBy counted).symm.trans crowded
  refine ⟨fit.named, fit.inMode, fit.asked, fit.found, fit.admitted, fit.apart, ?_, exceeded,
    counted, ?_⟩
  · intro there
    exact absurd ((notes_eq_nil wild).symm.trans there) Bool.false_ne_true
  · intro there
    exact absurd ((notes_eq_nil few).symm.trans there) Bool.false_ne_true

theorem admits_of_silent {label : String} {value : Value} {n : Int}
    (admitted : (query.relaxed mode limits resolved query.resolutions).Admits label value n)
    (silent : query.excess n = []) : query.Admits label value n := by
  obtain ⟨exceeded, compared, _⟩ := admitted.compared
  have within : notes exceeded _ = [] := (surplus_of_exceededBy compared).symm.trans silent
  refine ⟨admitted.whole, exceeded, compared, ?_⟩
  intro there
  exact absurd ((notes_eq_nil within).symm.trans there) Bool.false_ne_true

theorem register_accepts_iff (strict : query.setup.config.IsStrict) (kind : RequestMode)
    (name columns : Value) :
    (register kind name columns).Accepts query ↔
      (register kind name columns).AcceptsSilently
        (query.relaxed mode limits resolved query.resolutions) := by
  constructor
  · rintro ⟨_, later, done⟩
    cases register_registers done with
    | @attached request fit =>
        refine ⟨_, _,
          register_of_attachable (Relaxes.attachable mode limits resolved fit strict fit.found), ?_⟩
        change query.warnings ++ query.remarks request = query.warnings
        rw [(fit.strict strict).2.2, List.append_nil]
  · rintro ⟨_, later, done, silent⟩
    cases register_registers done with
    | @attached request fit =>
        have nothing : query.remarks request = [] := List.self_eq_append_right.1 silent.symm
        exact ⟨_, _, register_of_attachable (attachable_of_silent fit nothing)⟩

theorem limit_accepts_iff (strict : query.setup.config.LimitsStrictly) (value : Value) :
    (limit value).Accepts query ↔
      (limit value).AcceptsSilently
        (query.relaxed mode limits resolved query.resolutions) := by
  constructor
  · rintro ⟨_, later, done⟩
    rcases limit_cases done with ⟨_, impossible, _⟩ | ⟨n, admitted, _, _⟩
    · cases impossible
    refine ⟨_, _, limit_of_admits (Relaxes.admits mode limits resolved _ admitted strict), ?_⟩
    change query.warnings ++ query.excess n = query.warnings
    rw [(admitted.strict strict).2, List.append_nil]
  · rintro ⟨_, later, done, silent⟩
    rcases limit_cases done with ⟨_, impossible, _⟩ | ⟨n, admitted, _, rfl⟩
    · cases impossible
    have nothing : query.excess n = [] := List.self_eq_append_right.1 silent.symm
    exact ⟨_, _, limit_of_admits (admits_of_silent admitted nothing)⟩

theorem pageWindow_accepts_iff (strict : query.setup.config.LimitsStrictly)
    (page perPage : Value) :
    (pageWindow page perPage).Accepts query ↔
      (pageWindow page perPage).AcceptsSilently
        (query.relaxed mode limits resolved query.resolutions) := by
  constructor
  · rintro ⟨_, later, done⟩
    rcases pageWindow_cases done with ⟨_, impossible, _⟩ | ⟨number, size, pages, _, _⟩
    · cases impossible
    refine ⟨_, _, pageWindow_of_pages (Relaxes.pages mode limits resolved _ pages strict), ?_⟩
    change query.warnings ++ query.excess size = query.warnings
    rw [(pages.admitted.strict strict).2, List.append_nil]
  · rintro ⟨_, later, done, silent⟩
    rcases pageWindow_cases done with ⟨_, impossible, _⟩ | ⟨number, size, pages, _, rfl⟩
    · cases impossible
    have nothing : query.excess size = [] := List.self_eq_append_right.1 silent.symm
    exact ⟨_, _, pageWindow_of_pages
      ⟨pages.paged, pages.numbered, pages.sized, admits_of_silent pages.admitted nothing⟩⟩

end Query

/-- Strict options only reject. Take any session under strict options, and make its accepted calls
alone under options that are the same but for what is refused: all are accepted with the same
answers and without a note, and the query comes to the same state, so that it compiles to the same
outcome. And in any one state, a relation, a limit or a page is accepted under strict options just
if it is accepted under the others without a note. A call that runs statements and fails must not
have changed the world, since only the strict session makes it. -/
theorem strict_only_rejects (hydrators : HydratorSource) (link : Link σ) (setup : QuerySetup)
    (strict : setup.config.IsStrict) (limited : setup.config.LimitsStrictly)
    (mode limits : Value) (world : σ) (calls : List Call)
    (unharmed : ∀ before call, before ++ [call] <+: calls →
      ((Session.opened setup world).run hydrators link before).Unharmed hydrators link call) :
    let session := (Session.opened setup world).run hydrators link calls
    let free := (Session.opened (setup.relaxed mode limits) world).run hydrators link
      (acceptedCalls session.history)
    (free.history = session.history.filter (fun made => made.2.toOption.isSome) ∧
      free.query.warnings = [] ∧
      free.query = session.query.relaxed mode limits free.query.wildcardsResolved
        free.query.resolutions ∧
      free.world = session.world ∧
      ∀ awaits, free.outcome hydrators link (.compile awaits) =
        session.outcome hydrators link (.compile awaits)) ∧
    ∀ query : Query, query.setup = setup →
      let other := query.relaxed mode limits query.wildcardsResolved query.resolutions
      (∀ kind name columns, (register kind name columns).Accepts query ↔
        (register kind name columns).AcceptsSilently other) ∧
      (∀ value, (limit value).Accepts query ↔ (limit value).AcceptsSilently other) ∧
      ∀ page perPage, (pageWindow page perPage).Accepts query ↔
        (pageWindow page perPage).AcceptsSilently other := by
  intro session free
  have follows : session.Follows mode limits free :=
    Session.follows_run hydrators link strict limited mode limits world calls unharmed
  have kept : session.query.setup = setup := Session.setup_run hydrators link setup world calls
  have capped : session.query.Capped := .run hydrators link setup world calls
  obtain ⟨resolved, memory, same⟩ := follows.relaxes.same
  refine ⟨⟨follows.history, ?_, ?_, follows.world, ?_⟩, ?_⟩
  · rw [same]
    exact capped.silent (kept ▸ strict) (kept ▸ limited)
  · rw [same]
    rfl
  · intro awaits
    have matched := Relaxes.answer_matches mode limits link hydrators
      (rfl : (Call.compile awaits).meetsCap = false) session.query free.query session.world
      session.world follows.relaxes rfl
    unfold Session.outcome
    rw [follows.world]
    exact matched.1.eq.symm
  · rintro query rfl other
    exact ⟨register_accepts_iff strict, limit_accepts_iff limited, pageWindow_accepts_iff limited⟩

theorem strict_only_rejects_documents :
    let hydrators : HydratorSource := ⟨HydratorRegistry.initial, []⟩
    let link : Link Unit := ⟨none, none⟩
    let config : Config :=
      { strictMode := .bool true, maxRelations := .int 1, strictLimitValidation := .bool true,
        maxLimit := .int 10 }
    let setup := documentsSetup config
    let first : Call := .attach .single (.text "raw") (.list [.text "id"])
    let calls := [first, .attach .single (.text "doc") (.list [.text "id"]), .limit (.int 11),
      .limit (.int 5)]
    let session := (Session.opened setup ()).run hydrators link calls
    let free := (Session.opened (setup.relaxed (.bool false) (.bool false)) ()).run hydrators link
      (acceptedCalls session.history)
    config.IsStrict ∧ config.LimitsStrictly ∧
      (acceptedCalls session.history).length = 2 ∧ free.query.limit? = some 5 ∧
      free.history = session.history.filter (fun made => made.2.toOption.isSome) ∧
      free.query.warnings = [] ∧
      free.outcome hydrators link (.compile false) =
        session.outcome hydrators link (.compile false) := by
  intro hydrators link config setup first calls
  have silent : ∀ call ∈ calls, call.runs = false := by decide +zetaReduce
  have unharmed : ∀ before call, before ++ [call] <+: calls →
      ((Session.opened setup ()).run hydrators link before).Unharmed hydrators link call := by
    intro before call part runs
    have inside := part.subset (List.mem_append_right before (List.mem_singleton.2 rfl))
    exact absurd ((silent call inside).symm.trans runs) Bool.false_ne_true
  obtain ⟨⟨history, warnings, _, _, compiled⟩, _⟩ := strict_only_rejects hydrators link setup rfl
    rfl (.bool false) (.bool false) () calls unharmed
  refine ⟨rfl, rfl, ?_, ?_, history, warnings, compiled false⟩
  · decide +kernel +zetaReduce
  · decide +kernel +zetaReduce

end NestedSelect
