import NestedSelect.Proofs.Query.Framing
import NestedSelect.Proofs.Query.Questions
import NestedSelect.Proofs.Query.Wildcards

/-!
What compiling a query that was only registered with depends on.

Each accepted call leaves one request, filter or order behind, or replaces a number, in a way that
does not depend on any other call. A refused call leaves nothing but warnings and relations that are
remembered. Warnings are not compiled, and relations that are remembered are what their names
resolve to anyway. So the accepted calls of each sort determine what is compiled.
-/

namespace NestedSelect

open Query

variable {σ : Type}

def Attachment.request (setup : QuerySetup) (asked : Attachment) : Outcome Request := do
  let name ← Identifier.ensureRelation asked.name
  let columns ← requestedColumns asked.mode asked.columns name
  let relation ← setup.resolve name
  .ok ⟨name, asked.mode, relation, columns⟩

namespace Call

def filterTerm? : Call → Option (Value × Value × Value)
  | .filter column operator value => some (column, operator, value)
  | _ => none

def orderTerm? : Call → Option (Value × Value)
  | .orderBy column direction => some (column, direction)
  | _ => none

def limit? : Call → Option Value
  | .limit value => some value
  | _ => none

def offset? : Call → Option Value
  | .offset value => some value
  | _ => none

end Call

/-- Histories with the same accepted calls of each sort, as far as the calls count: of limits and
of offsets only the last. -/
structure SameAccepted (history other : List (Call × Outcome Answer)) : Prop where
  attachments : accepted Call.attachment? history = accepted Call.attachment? other
  filters : accepted Call.filterTerm? history = accepted Call.filterTerm? other
  orders : accepted Call.orderTerm? history = accepted Call.orderTerm? other
  limit : (accepted Call.limit? history).getLast? = (accepted Call.limit? other).getLast?
  offset : (accepted Call.offset? history).getLast? = (accepted Call.offset? other).getLast?

section

variable {α β : Type} {pick : Call → Option α} {make : α → Outcome β}
  {history : List (Call × Outcome Answer)} {entry : Call × Outcome Answer}

def Made (pick : Call → Option α) (make : α → Outcome β) (history : List (Call × Outcome Answer))
    (made : List β) : Prop :=
  (accepted pick history).map make = made.map .ok

def MadeLast (pick : Call → Option α) (make : α → Outcome β)
    (history : List (Call × Outcome Answer)) (made : Option β) : Prop :=
  (accepted pick history).getLast?.map make = made.map .ok

theorem Made.skip {made : List β} (before : Made pick make history made)
    (silent : accepted pick [entry] = []) : Made pick make (history ++ [entry]) made := by
  unfold Made
  rw [accepted_append, silent, List.append_nil]
  exact before

theorem Made.add {made : List β} {a : α} {b : β} (before : Made pick make history made)
    (spoken : accepted pick [entry] = [a]) (done : make a = .ok b) :
    Made pick make (history ++ [entry]) (made ++ [b]) := by
  unfold Made at before ⊢
  simp only [accepted_append, spoken, List.map_append, before, List.map_singleton, done]

theorem MadeLast.skip {made : Option β} (before : MadeLast pick make history made)
    (silent : accepted pick [entry] = []) : MadeLast pick make (history ++ [entry]) made := by
  unfold MadeLast
  rw [accepted_append, silent, List.append_nil]
  exact before

theorem MadeLast.replace {a : α} {b : β} (spoken : accepted pick [entry] = [a])
    (done : make a = .ok b) : MadeLast pick make (history ++ [entry]) (some b) := by
  unfold MadeLast
  rw [accepted_append, spoken, List.getLast?_concat, Option.map_some, done]
  rfl

theorem Made.unique {other : List (Call × Outcome Answer)} {made also : List β}
    (first : Made pick make history made) (second : Made pick make other also)
    (same : accepted pick history = accepted pick other) : made = also := by
  have mapped : made.map (Except.ok : β → Outcome β) = also.map .ok := by
    rw [← first, ← second, same]
  exact List.map_injective_iff.2 (fun _ _ => Except.ok.inj) mapped

theorem MadeLast.unique {other : List (Call × Outcome Answer)} {made also : Option β}
    (first : MadeLast pick make history made) (second : MadeLast pick make other also)
    (same : (accepted pick history).getLast? = (accepted pick other).getLast?) : made = also := by
  have mapped : made.map (Except.ok : β → Outcome β) = also.map .ok := by
    rw [← first, ← second, same]
  exact Option.map_injective (fun _ _ => Except.ok.inj) mapped

end

/-- A query that is what its accepted calls make it, and has found out nothing. -/
structure Query.Replays (setup : QuerySetup) (history : List (Call × Outcome Answer))
    (query : Query) : Prop where
  setup_eq : query.setup = setup
  requests : Made Call.attachment? (Attachment.request setup) history query.relations
  filters : Made Call.filterTerm? (fun term => Filter.make term.1 term.2.1 term.2.2) history
    query.filters
  orders : Made Call.orderTerm? (fun term => OrderTerm.make term.1 term.2) history query.orders
  limit : MadeLast Call.limit? (ensureNonNegative "Limit") history query.limit?
  offset : MadeLast Call.offset? (ensureNonNegative "Offset") history query.offset?
  unlisted : query.listings = []
  waiting : query.wildcardsResolved = false
  faithful : query.Faithful

theorem Query.Attachable.request_eq {query : Query} {mode : RequestMode} {name columns : Value}
    {request : Request} (fit : Attachable query mode name columns request)
    (faithful : query.Faithful) :
    Attachment.request query.setup ⟨mode, name, columns⟩ = .ok request := by
  have found : query.setup.resolve request.name = .ok request.relation := by
    rw [← faithful.relationNamed_eq, fit.found]
  unfold Attachment.request
  rw [Outcome.bind_of_ok fit.named, Outcome.bind_of_ok fit.asked, Outcome.bind_of_ok found,
    ← fit.inMode]

namespace Query.Replays

variable {link : Link σ} {setup : QuerySetup} {history : List (Call × Outcome Answer)}
  {query later : Query} {world after : σ}

theorem advance {call : Call} {outcome : Outcome Answer} (replays : Replays setup history query)
    (registers : call.registers = true)
    (step : Advance link query world call outcome later after) :
    Replays setup (history ++ [(call, outcome)]) later ∧ after = world := by
  obtain ⟨same, requests, filters, orders, limit, offset, unlisted, waiting, faithful⟩ := replays
  cases step with
  | attached fit =>
      have request := fit.request_eq faithful
      rw [same] at request
      exact ⟨⟨same, requests.add rfl request, filters.skip rfl, orders.skip rfl, limit.skip rfl,
        offset.skip rfl, unlisted, rfl, faithful.put fit.found⟩, rfl⟩
  | filtered made =>
      exact ⟨⟨same, requests.skip rfl, filters.add rfl made, orders.skip rfl, limit.skip rfl,
        offset.skip rfl, unlisted, waiting, faithful⟩, rfl⟩
  | ordered made =>
      exact ⟨⟨same, requests.skip rfl, filters.skip rfl, orders.add rfl made, limit.skip rfl,
        offset.skip rfl, unlisted, waiting, faithful⟩, rfl⟩
  | limited admitted =>
      exact ⟨⟨same, requests.skip rfl, filters.skip rfl, orders.skip rfl,
        .replace rfl admitted.whole, offset.skip rfl, unlisted, waiting, faithful⟩, rfl⟩
  | moved checked =>
      exact ⟨⟨same, requests.skip rfl, filters.skip rfl, orders.skip rfl, limit.skip rfl,
        .replace rfl checked, unlisted, waiting, faithful⟩, rfl⟩
  | refused _ _ _ left =>
      exact ⟨⟨same, requests.skip rfl, filters.skip rfl, orders.skip rfl, limit.skip rfl,
        offset.skip rfl, unlisted, waiting, left.faithful faithful⟩, rfl⟩
  | read reads => cases reads.symm.trans registers

theorem fresh (setup : QuerySetup) : Replays setup [] { setup := setup } :=
  ⟨rfl, rfl, rfl, rfl, rfl, rfl, rfl, rfl, nofun⟩

/-- After any calls that register, accepted or not, a query is what the accepted ones make it. -/
theorem run (hydrators : HydratorSource) (link : Link σ) (setup : QuerySetup) (world : σ)
    {calls : List Call} (registering : ∀ call ∈ calls, call.registers = true) :
    let session := (Session.opened setup world).run hydrators link calls
    Replays setup session.history session.query ∧ session.world = world := by
  refine Session.run_preserves_of_mem
    (fun session => Replays setup session.history session.query ∧ session.world = world) ?_
    ⟨fresh setup, rfl⟩
  intro session call inside before
  obtain ⟨next, unmoved⟩ :=
    before.1.advance (registering call inside) (session.call_advance call)
  exact ⟨next, unmoved.trans before.2⟩

theorem unique {other : List (Call × Outcome Answer)} {second : Query}
    (first : Replays setup history query) (also : Replays setup other second)
    (same : SameAccepted history other) :
    second = query.annotated second.warnings second.resolutions := by
  have requests := first.requests.unique also.requests same.attachments
  have filters := first.filters.unique also.filters same.filters
  have orders := first.orders.unique also.orders same.orders
  have limit := first.limit.unique also.limit same.limit
  have offset := first.offset.unique also.offset same.offset
  cases query
  cases second
  simp only [Query.annotated, Query.mk.injEq]
  exact ⟨also.setup_eq.trans first.setup_eq.symm, requests.symm, filters.symm, orders.symm,
    limit.symm, offset.symm, trivial, trivial, also.unlisted.trans first.unlisted.symm,
    also.waiting.trans first.waiting.symm⟩

end Query.Replays

theorem Query.answer_compile_annotated (hydrators : HydratorSource) (link : Link σ)
    (awaits : Bool) (query : Query) (warnings : List String) (memory : List (String × Relation))
    (world : σ) :
    let answered := answer hydrators link (.compile awaits) query world
    answer hydrators link (.compile awaits) (query.annotated warnings memory) world =
      ((answered.1.1, answered.1.2.annotated warnings memory), answered.2) := by
  obtain ⟨found, later, after, discovery⟩ :=
    exists_discovery awaits link.introspector? query world
  have alike : (query.annotated warnings memory).setup.FindsAlike query.setup := ⟨rfl, rfl, rfl⟩
  have framed := discovery.within alike
  have frame : later.within (query.annotated warnings memory) =
      later.annotated warnings memory := by
    rw [discovery.frame]
    rfl
  rw [frame] at framed
  simp only [answer_compile hydrators discovery]
  exact answer_compile hydrators framed

/-- Two queries that are opened alike and only registered with: if the accepted calls are the same
for each sort of call, then compiling comes to the same outcome and leaves the same world, with the
same questions asked in it. Refused calls and the order between sorts make no difference. -/
theorem compile_depends_on_accepted (hydrators : HydratorSource) (link : Link σ)
    (setup : QuerySetup) (world : σ) (calls others : List Call)
    (registering : ∀ call ∈ calls ++ others, call.registers = true)
    (same :
      let opened := Session.opened setup ⟨world, []⟩
      SameAccepted (opened.run hydrators (Questioned.link link) calls).history
        (opened.run hydrators (Questioned.link link) others).history)
    (awaits : Bool) :
    let link := Questioned.link link
    let first := (Session.opened setup ⟨world, []⟩).run hydrators link calls
    let second := (Session.opened setup ⟨world, []⟩).run hydrators link others
    first.outcome hydrators link (.compile awaits) =
        second.outcome hydrators link (.compile awaits) ∧
      (first.call hydrators link (.compile awaits)).world =
        (second.call hydrators link (.compile awaits)).world := by
  intro link first second
  obtain ⟨replays, still⟩ := Replays.run hydrators link setup (⟨world, []⟩ : Questioned σ)
    (fun call inside => registering call (List.mem_append_left _ inside))
  obtain ⟨also, alsoStill⟩ := Replays.run hydrators link setup (⟨world, []⟩ : Questioned σ)
    (fun call inside => registering call (List.mem_append_right _ inside))
  have annotated : second.query =
      first.query.annotated second.query.warnings second.query.resolutions :=
    replays.unique also same
  have unmoved : second.world = first.world := alsoStill.trans still.symm
  have answered := answer_compile_annotated hydrators link awaits first.query
    second.query.warnings second.query.resolutions first.world
  rw [← annotated] at answered
  constructor
  · unfold Session.outcome
    rw [unmoved, answered]
  · unfold Session.call
    rw [unmoved, answered]

theorem compile_depends_on_accepted_partners :
    let hydrators : HydratorSource := ⟨HydratorRegistry.initial, []⟩
    let link : Link Unit := ⟨none, some (Introspector.fixed documentColumns)⟩
    let recorded := Questioned.link link
    let opened := Session.opened (documentsSetup Config.initial) ⟨(), []⟩
    let star : Call := .attach .single (.text "raw") (.text "*")
    let named : Call := .filter (.text "name") (.text "=") (.text "A")
    let calls := [star, named, .limit (.int 7), .limit (.int 5)]
    let others := [.limit (.int 5), named, .attach .count (.text "raw") .null, star]
    (∀ call ∈ calls ++ others, call.registers = true) ∧
      SameAccepted (opened.run hydrators recorded calls).history
        (opened.run hydrators recorded others).history ∧
      (opened.run hydrators recorded calls).outcome hydrators recorded (.compile false) =
        (opened.run hydrators recorded others).outcome hydrators recorded (.compile false) := by
  refine ⟨?registering, ?same,
    (compile_depends_on_accepted _ _ _ () _ _ ?registering ?same false).1⟩
  case registering => simp [Call.registers]
  case same =>
    constructor
    · trans [⟨.single, .text "raw", .text "*"⟩] <;> rfl
    · trans [(.text "name", .text "=", .text "A")] <;> rfl
    · trans [] <;> rfl
    · trans some (.int 5) <;> rfl
    · trans none <;> rfl

end NestedSelect
