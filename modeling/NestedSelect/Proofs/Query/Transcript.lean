import NestedSelect.Proofs.Query.Listing
import NestedSelect.Proofs.Query.Stability

/-!
What an introspector is asked and what it tells, in order.

A link with a transcript does all that the link does and keeps a list of what is asked of its
introspector and of the listings that come back. A question that fails, or whose answer nobody
awaits, leaves no listing.
-/

namespace NestedSelect

open Query
open Sql (BoundStatement)

variable {σ α : Type}

inductive Event where
  | asked (tables : List String)
  | told (listing : List (String × List Value))

namespace Event

def asks : Event → List String
  | asked tables => tables
  | told _ => []

/-- Whether an event tells that a table has columns. Of two entries for a table the last counts. -/
def Tells (table : String) : Event → Prop
  | asked _ => False
  | told listing => columnsListed (Record.ofPairs listing) table ≠ []

def Spares (earlier later : Event) : Prop :=
  ∀ table, earlier.Tells table → table ∉ later.asks

theorem asked_spares (tables : List String) (later : Event) : (asked tables).Spares later :=
  fun _ told => told.elim

end Event

structure Transcribed (σ : Type) where
  world : σ
  events : List Event

namespace Transcribed

/-- A world in which something was answered: a listing, or a failure that tells nothing. -/
def heard (listing : α → List (String × List Value)) (events : List Event) :
    Outcome α → σ → Transcribed σ
  | .ok answer, world => ⟨world, events ++ [.told (listing answer)]⟩
  | .error _, world => ⟨world, events⟩

def reply (listing : α → List (String × List Value)) (events : List Event) (world : σ) :
    Reply σ α → Reply (Transcribed σ) α × Transcribed σ
  | .ready result => (.ready result, heard listing events result world)
  | .awaitable finish =>
      (.awaitable (fun record =>
        let finished := finish record.world
        (finished.1, heard listing record.events finished.1 finished.2)), ⟨world, events⟩)

def noting (tables : List String) (listing : α → List (String × List Value))
    (asking : StateM σ (Reply σ α)) : StateM (Transcribed σ) (Reply (Transcribed σ) α) :=
  fun record =>
    let answered := asking record.world
    reply listing (record.events ++ [.asked tables]) answered.2 answered.1

def introspector (introspector : Introspector σ) : Introspector (Transcribed σ) :=
  { columnsOf := fun table =>
      noting [table] (fun columns => [(table, columns)]) (introspector.columnsOf table)
    columnsOfMany := fun tables => noting tables id (introspector.columnsOfMany tables) }

def executor (executor : Executor σ) : Executor (Transcribed σ) :=
  { awaits := executor.awaits
    dialectName := executor.dialectName
    execute := fun text values record =>
      let done := executor.execute text values record.world
      (done.1, { record with world := done.2 }) }

def link (link : Link σ) : Link (Transcribed σ) :=
  ⟨link.executor?.map executor, link.introspector?.map introspector⟩

theorem ask_noting (awaits : Bool) (tables : List String)
    (listing : α → List (String × List Value)) (asking : StateM σ (Reply σ α))
    (record : Transcribed σ) :
    ask awaits (noting tables listing asking) record =
      ((ask awaits asking record.world).1,
        heard listing (record.events ++ [.asked tables]) (ask awaits asking record.world).1
          (ask awaits asking record.world).2) := by
  cases answered : asking record.world with
  | mk given moved =>
      have told : noting tables listing asking record =
          reply listing (record.events ++ [.asked tables]) moved given := by
        unfold noting
        rw [answered]
      rw [ask_apply told, ask_apply answered]
      cases given with
      | ready result => cases awaits <;> cases result <;> rfl
      | awaitable finish =>
          cases awaits with
          | false => rfl
          | true =>
              cases finished : finish moved with
              | mk result left =>
                  cases result <;> simp [Reply.heard, Reply.awaited, Exchange.awaited, finished,
                    heard, Except.mapError]

theorem ask_cases {awaits : Bool} {tables : List String}
    {listing : α → List (String × List Value)} {asking : StateM σ (Reply σ α)}
    {record after : Transcribed σ} {result : Outcome α}
    (done : ask awaits (noting tables listing asking) record = (result, after)) :
    (∃ fault, result = .error fault ∧ after.events = record.events ++ [.asked tables]) ∨
      ∃ answer, result = .ok answer ∧
        ask awaits asking record.world = (.ok answer, after.world) ∧
        after.events = record.events ++ [.asked tables, .told (listing answer)] := by
  rw [ask_noting] at done
  cases answered : ask awaits asking record.world with
  | mk given moved =>
      rw [answered] at done
      cases given with
      | error fault =>
          cases done
          exact .inl ⟨fault, rfl, rfl⟩
      | ok answer =>
          cases done
          exact .inr ⟨answer, rfl, rfl, List.append_assoc _ _ _⟩

end Transcribed

def Introspector.Confined (introspector : Introspector σ) : Prop :=
  ∀ awaits asked world found after,
    ask awaits (introspector.columnsOfMany asked) world = (.ok found, after) →
      ∀ entry ∈ found, entry.1 ∈ asked

/-! ### Asking about some tables -/

/-- What asking about some tables brings about: the listings change, and the transcript grows. -/
structure Asking (tables : List String) (before after : List (String × List Value))
    (news : List Event) : Prop where
  asks : (news.flatMap Event.asks).Sublist tables
  spared : news.Pairwise Event.Spares
  told : ∀ event ∈ news, ∀ table, event.Tells table → columnsListed after table ≠ []
  others : ∀ table, table ∉ tables → columnsListed after table = columnsListed before table

namespace Asking

variable {tables : List String} {listings after : List (String × List Value)} {news : List Event}

theorem nothing (tables : List String) (listings : List (String × List Value)) :
    Asking tables listings listings [] :=
  ⟨List.nil_sublist tables, .nil, List.forall_mem_nil _, fun _ _ => rfl⟩

theorem unanswered {asked : List String} (some : asked.Sublist tables)
    (listings : List (String × List Value)) :
    Asking tables listings listings [.asked asked] where
  asks := by
    rw [List.flatMap_singleton]
    exact some
  spared := List.pairwise_singleton _ _
  told := List.forall_mem_singleton.2 fun _ told => told.elim
  others := fun _ _ => rfl

theorem together {found : List (String × List Value)} (confined : ∀ entry ∈ found, entry.1 ∈ tables)
    (listings : List (String × List Value)) :
    Asking tables listings (Record.merge listings found) [.asked tables, .told found] where
  asks := by simp [Event.asks]
  spared := List.pairwise_pair.2 (Event.asked_spares tables _)
  told := by
    intro event inside table told
    rcases List.mem_pair.1 inside with rfl | rfl
    · exact told.elim
    · change columnsListed (Record.merge [] found) table ≠ [] at told
      unfold columnsListed at told ⊢
      rw [Record.get?_merge]
      cases listed : Record.get? table (Record.merge [] found) with
      | none =>
          rw [listed] at told
          exact absurd rfl told
      | some columns =>
          rw [listed] at told
          exact told
  others := by
    intro table outside
    unfold columnsListed
    rw [Record.get?_merge_of_notMem fun _ inside => outside (confined _ inside)]

theorem next {table : String} {columns : List Value} (apart : table ∉ tables)
    (rest : Asking tables (Record.put table columns listings) after news) :
    Asking (table :: tables) listings after
      (.asked [table] :: .told [(table, columns)] :: news) := by
  have tells {other : String} (told : (Event.told [(table, columns)]).Tells other) :
      other = table ∧ columns ≠ [] := by
    change columnsListed (Record.put table columns []) other ≠ [] at told
    rw [columnsListed_put] at told
    split at told
    · rename_i same
      exact ⟨same, told⟩
    · exact absurd rfl told
  constructor
  · exact rest.asks.cons_cons table
  · refine .cons (fun event _ => Event.asked_spares _ event) (.cons ?_ rest.spared)
    intro event later other told asked
    obtain ⟨rfl, _⟩ := tells told
    exact apart (rest.asks.subset (List.mem_flatMap_of_mem later asked))
  · intro event inside other told
    rcases List.mem_cons.1 inside with rfl | later
    · exact told.elim
    rcases List.mem_cons.1 later with rfl | later
    · obtain ⟨rfl, filled⟩ := tells told
      rwa [rest.others _ apart, columnsListed_put, if_pos rfl]
    · exact rest.told event later other told
  · intro other outside
    obtain ⟨different, outside⟩ := not_or.1 (List.mem_cons.not.1 outside)
    rw [rest.others other outside, columnsListed_put, if_neg different]

end Asking

namespace Query

variable {tables : List String} {query later : Query} {record after : Transcribed σ} {awaits : Bool}
  {outcome : Outcome Unit}

theorem introspectEach_asking {introspector : Introspector σ} (once : tables.Nodup)
    (done : introspectEach awaits (Transcribed.introspector introspector) tables query record =
      ((outcome, later), after)) :
    ∃ listings news, later = query.listing listings ∧ after.events = record.events ++ news ∧
      Asking tables query.listings listings news := by
  induction tables generalizing query record with
  | nil =>
      cases done
      exact ⟨_, [], rfl, (List.append_nil _).symm, .nothing [] _⟩
  | cons table rest ih =>
      obtain ⟨apart, others⟩ := List.nodup_cons.1 once
      unfold introspectEach at done
      rcases Work.perform_cases done with ⟨fault, answered, rfl, rfl⟩ |
        ⟨columns, between, answered, done⟩
      · rcases Transcribed.ask_cases answered with ⟨_, _, noted⟩ | ⟨_, impossible, _⟩
        · exact ⟨query.listings, _, rfl, noted, .unanswered (List.cons_sublist_cons.2 (by simp)) _⟩
        · cases impossible
      · rcases Transcribed.ask_cases answered with ⟨_, impossible, _⟩ | ⟨_, same, _, noted⟩
        · cases impossible
        · cases same
          obtain ⟨listings, news, rfl, grown, asking⟩ := ih others (Work.of_modify done)
          refine ⟨listings, _, rfl, ?_, asking.next apart⟩
          rw [grown, noted, List.append_assoc]
          rfl

theorem introspect_asking {introspector : Introspector σ} (confined : introspector.Confined)
    (once : tables.Nodup)
    (done : introspect awaits (Transcribed.introspector introspector) tables query record =
      ((outcome, later), after)) :
    ∃ listings news, later = query.listing listings ∧ after.events = record.events ++ news ∧
      Asking tables query.listings listings news := by
  unfold introspect at done
  have done := Work.of_get done
  split at done
  · rcases Work.perform_cases done with ⟨fault, answered, rfl, rfl⟩ |
      ⟨found, between, answered, done⟩
    · rcases Transcribed.ask_cases answered with ⟨_, _, noted⟩ | ⟨_, impossible, _⟩
      · exact ⟨query.listings, _, rfl, noted, .unanswered (List.Sublist.refl tables) _⟩
      · cases impossible
    · rcases Transcribed.ask_cases answered with ⟨_, impossible, _⟩ | ⟨_, same, told, noted⟩
      · cases impossible
      · cases same
        cases done
        exact ⟨_, _, rfl, noted, .together (confined _ _ _ _ _ told) _⟩
  · exact introspectEach_asking once done

theorem introspectPending_asking {introspector? : Option (Introspector σ)}
    (confined : ∀ introspector, introspector? = some introspector → introspector.Confined)
    (once : tables.Nodup)
    (done : introspectPending awaits (introspector?.map Transcribed.introspector) tables query
      record = ((outcome, later), after)) :
    ∃ listings news, later = query.listing listings ∧ after.events = record.events ++ news ∧
      Asking tables query.listings listings news := by
  cases tables with
  | nil =>
      cases done
      exact ⟨_, [], rfl, (List.append_nil _).symm, .nothing [] _⟩
  | cons table rest =>
      cases introspector? with
      | none =>
          cases done
          exact ⟨_, [], rfl, (List.append_nil _).symm, .nothing _ _⟩
      | some introspector => exact introspect_asking (confined introspector rfl) once done

/-! ### What is asked for, and why -/

theorem nodup_eraseDups (names : List String) : names.eraseDups.Nodup := by
  cases names with
  | nil => exact .nil
  | cons name rest =>
      rw [List.eraseDups_cons]
      refine List.nodup_cons.2 ⟨?_, nodup_eraseDups _⟩
      intro again
      have kept := (List.mem_filter.1 (List.mem_eraseDups.1 again)).2
      rw [beq_self_eq_true] at kept
      cases kept
termination_by names.length
decreasing_by exact Nat.lt_succ_of_le (List.length_filter_le _ rest)

/-- A wildcard waits for the columns of a table: none are listed, and its relation brings none
along, neither declared by a model nor configured. -/
structure Waits (query : Query) (table : String) : Prop where
  unlisted : columnsListed query.listings table = []
  request : ∃ request ∈ query.relations, request.isWildcard = true ∧
    request.relation.table = table ∧ staticColumnsOf query.setup request = none

theorem waits_of_pending {table : String}
    (pending : table ∈ pendingTables query.settled.relations) : query.Waits table := by
  obtain ⟨request, left, asked, rfl⟩ := mem_pendingTables pending
  obtain ⟨inside, unknown⟩ := settleKnown_left request left asked
  exact ⟨settleKnown_waiting request left asked, request, inside, asked, rfl, unknown⟩

theorem settleKnown_keepsListed {setup : QuerySetup} {requests : List Request}
    {listings : List (String × List Value)} {table : String}
    (listed : columnsListed listings table ≠ []) :
    columnsListed (settleKnown setup requests listings).2 table ≠ [] := by
  induction requests generalizing listings with
  | nil => exact listed
  | cons request rest ih =>
      unfold settleKnown
      split
      · rename_i columns known
        split at known
        · apply ih
          rw [columnsListed_put]
          split
          · exact (knownColumns_eq_some known).1
          · exact listed
        · cases known
      · exact ih listed

/-- What is asked and told in one go, by what was known before and is known afterwards. -/
structure Inquires (query later : Query) (news : List Event) : Prop where
  once : (news.flatMap Event.asks).Nodup
  waiting : ∀ table ∈ news.flatMap Event.asks, query.Waits table
  spared : news.Pairwise Event.Spares
  told : ∀ event ∈ news, ∀ table, event.Tells table → columnsListed later.listings table ≠ []
  kept : ∀ table, columnsListed query.listings table ≠ [] → columnsListed later.listings table ≠ []

theorem Inquires.nothing (same : later.listings = query.listings) : query.Inquires later [] :=
  ⟨.nil, List.forall_mem_nil _, .nil, List.forall_mem_nil _, fun _ listed => same ▸ listed⟩

theorem Inquires.of_noting {warnings : List String} {news : List Event}
    (inquires : (query.noting warnings).Inquires later news) : query.Inquires later news where
  once := inquires.once
  waiting := fun table asked => ⟨(inquires.waiting table asked).1, (inquires.waiting table asked).2⟩
  spared := inquires.spared
  told := inquires.told
  kept := inquires.kept

theorem Inquires.of_asking {news : List Event}
    (asking : Asking (pendingTables query.settled.relations) query.settled.listings later.listings
      news) : query.Inquires later news where
  once := (nodup_eraseDups _).sublist asking.asks
  waiting := fun _ asked => waits_of_pending (asking.asks.subset asked)
  spared := asking.spared
  told := asking.told
  kept := by
    intro table listed
    by_cases pending : table ∈ pendingTables query.settled.relations
    · exact absurd (waits_of_pending pending).unlisted listed
    · rw [asking.others table pending]
      exact settleKnown_keepsListed listed

theorem Discovery.inquires {introspector? : Option (Introspector σ)}
    (confined : ∀ introspector, introspector? = some introspector → introspector.Confined)
    (discovery : Discovery awaits (introspector?.map Transcribed.introspector) query record outcome
      later after) :
    ∃ news, after.events = record.events ++ news ∧ query.Inquires later news := by
  have inquired {answer : Outcome Unit} {listings : List (String × List Value)} {later : Query}
      (asked : introspectPending awaits (introspector?.map Transcribed.introspector)
        (pendingTables query.settled.relations) query.settled record =
          ((answer, query.settled.listing listings), after))
      (same : later.listings = listings) :
      ∃ news, after.events = record.events ++ news ∧ query.Inquires later news := by
    obtain ⟨others, news, listed, grown, asking⟩ :=
      introspectPending_asking confined (nodup_eraseDups _) asked
    obtain rfl : listings = others := congrArg Query.listings listed
    subst same
    exact ⟨news, grown, .of_asking asking⟩
  cases discovery with
  | known => exact ⟨[], (List.append_nil _).symm, .nothing rfl⟩
  | unanswered _ asked => exact inquired asked rfl
  | incomplete _ asked => exact inquired asked rfl
  | complete _ asked => exact inquired asked rfl

theorem Sends.events_eq {executor : Executor σ} {sent : List BoundStatement}
    (sends : Sends (Transcribed.executor executor) query record sent after) :
    after.events = record.events := by
  induction sends with
  | none => rfl
  | more statement before drafted ih => exact ih

theorem Reads.inquires {link : Link σ} {sent : List BoundStatement}
    (confined : ∀ introspector, link.introspector? = some introspector → introspector.Confined)
    (reads : Reads (Transcribed.link link) query record sent later after) :
    ∃ news, after.events = record.events ++ news ∧ query.Inquires later news := by
  cases reads with
  | idle => exact ⟨[], (List.append_nil _).symm, .nothing rfl⟩
  | stopped discovery =>
      obtain ⟨news, grown, inquires⟩ := discovery.inquires confined
      exact ⟨news, grown, inquires.of_noting⟩
  | ran there discovery sends =>
      obtain ⟨news, grown, inquires⟩ := discovery.inquires confined
      obtain ⟨executor, _, rfl⟩ := Option.map_eq_some_iff.1 there
      exact ⟨news, sends.events_eq.trans grown, inquires.of_noting⟩

theorem Reads.silent {link : Link σ} {sent : List BoundStatement}
    (reads : Reads (Transcribed.link link) query record sent later after)
    (resolved : query.wildcardsResolved = true) :
    later.wildcardsResolved = true ∧ after.events = record.events := by
  cases reads with
  | idle => exact ⟨resolved, rfl⟩
  | stopped discovery =>
      obtain ⟨-, rfl, rfl⟩ := discovery.of_resolved resolved
      exact ⟨resolved, rfl⟩
  | ran there discovery sends =>
      obtain ⟨-, rfl, rfl⟩ := discovery.of_resolved resolved
      obtain ⟨executor, -, rfl⟩ := Option.map_eq_some_iff.1 there
      exact ⟨resolved, sends.events_eq⟩

end Query

/-! ### Sessions -/

section

variable {link : Link σ} {query later : Query} {record after : Transcribed σ} {call : Call}
  {outcome : Outcome Answer}

/-- What a call asks, whatever the call is and whatever comes of it. -/
theorem Advance.inquires
    (confined : ∀ introspector, link.introspector? = some introspector → introspector.Confined)
    (step : Advance (Transcribed.link link) query record call outcome later after) :
    ∃ news, after.events = record.events ++ news ∧ query.Inquires later news := by
  have silent {later : Query} (same : later.listings = query.listings) :
      ∃ news, record.events = record.events ++ news ∧ query.Inquires later news :=
    ⟨[], (List.append_nil _).symm, .nothing same⟩
  cases step with
  | attached => exact silent rfl
  | filtered => exact silent rfl
  | ordered => exact silent rfl
  | limited => exact silent rfl
  | moved => exact silent rfl
  | refused => exact silent rfl
  | read _ done => exact done.inquires confined

theorem Advance.silent {history : List (Call × Outcome Answer)}
    (step : Advance (Transcribed.link link) query record call outcome later after)
    (resolved : query.wildcardsResolved = true)
    (none : accepted Call.attachment? (history ++ [(call, outcome)]) =
      accepted Call.attachment? history) :
    later.wildcardsResolved = true ∧ after.events = record.events := by
  cases step with
  | attached =>
      rw [accepted_ok Call.attachment? rfl] at none
      exact absurd none (by simp)
  | filtered => exact ⟨resolved, rfl⟩
  | ordered => exact ⟨resolved, rfl⟩
  | limited => exact ⟨resolved, rfl⟩
  | moved => exact ⟨resolved, rfl⟩
  | refused => exact ⟨resolved, rfl⟩
  | read _ done => exact done.silent resolved

end

namespace Session

variable {hydrators : HydratorSource} {link : Link σ}

structure Heeds (session : Session (Transcribed σ)) : Prop where
  spared : session.world.events.Pairwise Event.Spares
  listed : ∀ event ∈ session.world.events, ∀ table, event.Tells table →
    columnsListed session.query.listings table ≠ []

theorem Heeds.call {session : Session (Transcribed σ)} (heeds : session.Heeds)
    (confined : ∀ introspector, link.introspector? = some introspector → introspector.Confined)
    (call : Call) : (session.call hydrators (Transcribed.link link) call).Heeds := by
  have step : Advance (Transcribed.link link) session.query session.world call
      (session.outcome hydrators (Transcribed.link link) call)
      (session.call hydrators (Transcribed.link link) call).query
      (session.call hydrators (Transcribed.link link) call).world := session.call_advance call
  obtain ⟨news, grown, inquires⟩ := step.inquires confined
  constructor
  · rw [grown, List.pairwise_append]
    refine ⟨heeds.spared, inquires.spared, ?_⟩
    -- A table that was told of is listed, so nothing waits for it.
    intro earlier before later inside table told asked
    have waits := inquires.waiting table (List.mem_flatMap_of_mem inside asked)
    exact heeds.listed earlier before table told waits.unlisted
  · rw [grown]
    intro event inside table told
    rcases List.mem_append.1 inside with before | new
    · exact inquires.kept table (heeds.listed event before table told)
    · exact inquires.told event new table told

theorem Heeds.run (hydrators : HydratorSource)
    (confined : ∀ introspector, link.introspector? = some introspector → introspector.Confined)
    (setup : QuerySetup) (world : σ) (calls : List Call) :
    ((opened setup ⟨world, []⟩).run hydrators (Transcribed.link link) calls).Heeds :=
  run_preserves Heeds (fun _ call heeds => heeds.call confined call)
    ⟨.nil, List.forall_mem_nil _⟩ calls

theorem accepted_run {α : Type} (pick : Call → Option α) (session : Session σ)
    (hydrators : HydratorSource) (link : Link σ) (calls : List Call) :
    accepted pick session.history <+:
      accepted pick (session.run hydrators link calls).history := by
  apply run_preserves (fun later => accepted pick session.history <+: accepted pick later.history)
  · intro later call before
    exact before.trans ⟨_, (accepted_append pick later.history _).symm⟩
  · exact List.prefix_rfl

theorem run_silent {session : Session (Transcribed σ)} {calls : List Call}
    (resolved : session.query.wildcardsResolved = true)
    (none : accepted Call.attachment?
      (session.run hydrators (Transcribed.link link) calls).history =
        accepted Call.attachment? session.history) :
    (session.run hydrators (Transcribed.link link) calls).world.events = session.world.events := by
  induction calls generalizing session with
  | nil => rfl
  | cons call rest ih =>
      let next := session.call hydrators (Transcribed.link link) call
      have first : accepted Call.attachment? session.history <+:
          accepted Call.attachment? next.history := session.accepted_run _ _ _ [call]
      have others : accepted Call.attachment? next.history <+:
          accepted Call.attachment? session.history := none ▸ next.accepted_run _ _ _ rest
      have same := (first.eq_of_length_le others.length_le).symm
      obtain ⟨still, quiet⟩ := (session.call_advance call).silent resolved same
      exact (ih still (none.trans same.symm)).trans quiet

end Session

/-- In no session is a table asked for again once an introspector has told columns of it. Whatever
is called, no table is asked for twice in one go, and only tables are that a wildcard waits for. A
compiling that succeeds resolves the wildcards, and then nothing is asked until another relation
is accepted. -/
theorem no_table_asked_again (hydrators : HydratorSource) (link : Link σ)
    (confined : ∀ introspector, link.introspector? = some introspector → introspector.Confined)
    (setup : QuerySetup) (world : σ) (calls : List Call) :
    let recorded := Transcribed.link link
    let session := (Session.opened setup ⟨world, []⟩).run hydrators recorded calls
    session.world.events.Pairwise Event.Spares ∧
    (∀ call, ∃ news,
      (session.call hydrators recorded call).world.events = session.world.events ++ news ∧
        (news.flatMap Event.asks).Nodup ∧
        ∀ table ∈ news.flatMap Event.asks, session.query.Waits table) ∧
    (∀ awaits answered, session.outcome hydrators recorded (.compile awaits) = .ok answered →
      (session.call hydrators recorded (.compile awaits)).query.wildcardsResolved = true) ∧
    (session.query.wildcardsResolved = true → ∀ more,
      let later := session.run hydrators recorded more
      accepted Call.attachment? later.history = accepted Call.attachment? session.history →
        later.world.events = session.world.events) := by
  intro recorded session
  refine ⟨(Session.Heeds.run hydrators confined setup world calls).spared, ?_, ?_, ?_⟩
  · intro call
    obtain ⟨news, grown, inquires⟩ := (session.call_advance call).inquires confined
    exact ⟨news, grown, inquires.once, inquires.waiting⟩
  · intro awaits answered done
    exact (resolveWildcards_discovery (Session.compiled done).1).marked
  · intro resolved more later none
    exact Session.run_silent resolved none

def Introspector.hesitant (tables : String → List Value) : Introspector Nat :=
  { columnsOf := fun table count => (.ready (settle count (tables table) []), count + 1)
    columnsOfMany := fun asked count =>
      (.ready (settle count (asked.map (fun table => (table, tables table)))
        (asked.map (fun table => (table, [])))), count + 1) }
where
  settle {α : Type} (count : Nat) (known unknown : α) : Outcome α :=
    match count with
    | 0 => .error (.statementFailed "busy")
    | 1 => .ok unknown
    | _ => .ok known

theorem Introspector.hesitant_confined (tables : String → List Value) :
    (hesitant tables).Confined := by
  have listed {told : String → List Value} {asked : List String} {entry : String × List Value}
      (inside : entry ∈ asked.map (fun table => (table, told table))) : entry.1 ∈ asked := by
    obtain ⟨table, there, rfl⟩ := List.mem_map.1 inside
    exact there
  intro awaits asked count found after answered entry inside
  match count with
  | 0 => cases awaits <;> cases answered
  | 1 => cases awaits <;> cases answered <;> exact listed inside
  | _ + 2 => cases awaits <;> cases answered <;> exact listed inside

theorem no_table_asked_again_documents :
    let hydrators : HydratorSource := ⟨HydratorRegistry.initial, []⟩
    let link : Link Nat := ⟨none, some (Introspector.hesitant documentColumns)⟩
    let recorded := Transcribed.link link
    let documents (name : String) : String × Accessor :=
      (name, .described ⟨"belongs-to-one", .table "docs", some "doc_id", some "id", none, none⟩)
    let setup : QuerySetup :=
      { documentsSetup Config.initial with
        schema := ⟨[⟨"Partner", "shop", some "partners", none, false, [], [], [],
          [documents "raw", documents "scan"]⟩], .ofLists⟩ }
    let star (name : String) : Call := .attach .single (.text name) (.text "*")
    let calls : List Call :=
      [star "raw", .compile false, .compile false, .compile false, star "scan", .compile false]
    let session := (Session.opened setup ⟨0, []⟩).run hydrators recorded calls
    session.world.events.map Event.asks = [["docs"], ["docs"], [], ["docs"], []] ∧
      session.query.relations.map Request.isWildcard = [false, false] ∧
      session.world.events.Pairwise Event.Spares := by
  refine ⟨by decide +kernel, by decide +kernel, (no_table_asked_again _ _ ?_ _ 0 _).1⟩
  intro introspector there
  cases there
  exact Introspector.hesitant_confined documentColumns

end NestedSelect
