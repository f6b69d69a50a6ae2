import NestedSelect.Proofs.Query.Values
import NestedSelect.Proofs.Query.Wildcards
import NestedSelect.Workspace.Desk

/-!
A query among others at a desk.

Once a query is open, nothing that happens at the desk reaches it but its own calls: it has its own
options and dialect, and its own listings of columns. What it shares with others is the world, of
which only a part may be in view of its introspector. If the others leave that part as it is, the
own calls come to what they would come to alone (`Alike.sights`).
-/

namespace NestedSelect

open Sql (BoundStatement)
open Query

variable {σ β : Type} {view : σ → β} {link : Link σ}

/-- A link that leaves what is in view as it is, whatever goes over it. -/
structure Link.Keeps (view : σ → β) (link : Link σ) : Prop where
  introspector : ∀ introspector, link.introspector? = some introspector → introspector.Keeps view
  executor : link.Spares view

namespace Query

variable {call : Call} {query second later since : Query} {world between after turned : σ}
  {outcome result : Outcome Answer} {hydrators others : HydratorSource}

theorem answer_keeps (keeps : link.Keeps view)
    (done : answer hydrators link call query world = ((outcome, later), after)) :
    view after = view world := by
  by_cases runs : call.runs = true
  · obtain ⟨plan, planned⟩ := Call.plan?_of_runs runs link
    obtain ⟨sent, goes⟩ := answer_runs planned done
    have prepared {outcome} {reached : σ}
        (ready : plan query world = ((outcome, later), reached)) : view reached = view world := by
      rcases Call.plan_cases planned ready with ⟨_, _, same⟩ | ⟨_, _, _, discovery, _⟩
      · rw [same]
      · exact discovery.keeps keeps.introspector
    cases goes with
    | unprepared failed => exact prepared failed
    | started ready part some =>
        have spares := keeps.executor _ (Call.plan_executor planned ready)
        rw [executed_view view spares, prepared ready]
  · rcases answer_silent (Bool.eq_false_iff.2 runs) done with same | ⟨_, _, discovery⟩
    · rw [same]
    · exact discovery.keeps keeps.introspector

theorem resolve_matches_self (sees : link.Sees view) (awaits : Bool) :
    Work.Matches Eq (SameView view) Eq (resolveWildcards awaits link.introspector?)
      (resolveWildcards awaits link.introspector?) :=
  resolveWildcards_matches Shares.self (sees awaits)

theorem answer_matches_self (sees : link.Sees view) (hydrators others : HydratorSource)
    (silent : call.runs = false) :
    Work.Matches Eq (SameView view) Eq (answer hydrators link call) (answer others link call) := by
  have resolved := resolve_matches_self sees
  cases call with
  | attach => exact .bind (.edit (.self _)) (fun _ _ _ => .pure rfl)
  | filter => exact .bind (.edit (.self _)) (fun _ _ _ => .pure rfl)
  | orderBy => exact .bind (.edit (.self _)) (fun _ _ _ => .pure rfl)
  | limit => exact .bind (.edit (.self _)) (fun _ _ _ => .pure rfl)
  | offset => exact .bind (.edit (.self _)) (fun _ _ _ => .pure rfl)
  | compile awaits =>
      refine .bind (compile_matches (resolved awaits) Builds.self) ?_
      intro statement other same
      exact .pure (congrArg Answer.statement same)
  | text =>
      refine .bind (compile_matches (resolved false) Builds.self) ?_
      intro statement other same
      exact .pure (congrArg (fun built => Answer.text built.text) same)
  | bindings =>
      apply Work.Matches.get_bind
      intro query second same
      rw [same]
      refine .bind (.lift (.refl _)) ?_
      intro values other same
      exact .pure (congrArg Answer.items same)
  | fetch => cases silent
  | first => cases silent
  | paginate => cases silent

/-- The same call of the same query, where the same is in view: the query and what is in view stay
the same, and so does the answer if nothing is run. -/
theorem answer_alike (sees : link.Sees view) (spares : link.Spares view)
    (hydrators others : HydratorSource) (call : Call) (query : Query) (world between : σ)
    (met : view world = view between) :
    let done := answer hydrators link call query world
    let other := answer others link call query between
    done.1.2 = other.1.2 ∧ view done.2 = view other.2 ∧
      (call.runs = false → done.1.1 = other.1.1) := by
  intro done other
  by_cases runs : call.runs = true
  · obtain ⟨plan, planned⟩ := Call.plan?_of_runs runs link
    obtain ⟨sent, goes⟩ := answer_runs planned
      (show answer hydrators link call query world = ((done.1.1, done.1.2), done.2) from rfl)
    obtain ⟨more, also⟩ := answer_runs planned
      (show answer others link call query between = ((other.1.1, other.1.2), other.2) from rfl)
    have both := plan_matches_of Builds.self (resolve_matches_self sees)
      (fun _ _ => .self _) planned
    obtain ⟨same, ended⟩ := Runs.alike both rfl met goes also
    refine ⟨same, ?_, fun silent => absurd (silent.symm.trans runs) Bool.false_ne_true⟩
    rcases ended with ⟨_, _, _, _, _, kept⟩ |
      ⟨executor, _, _, reached, stopped, ready, _, kept, _, _, ran, _, _, alsoRan⟩
    · exact kept
    · -- Both run statements, and how many makes no difference to what is in view.
      have untouched := executed_view view (spares executor (Call.plan_executor planned ready))
      rw [ran, alsoRan, untouched, untouched]
      exact kept
  · have silent : call.runs = false := Bool.eq_false_iff.2 runs
    obtain ⟨same, kept, moved⟩ := answer_matches_self sees hydrators others silent query query
      world between rfl met
    exact ⟨kept, moved, fun _ => same.eq⟩

end Query

namespace Desk

def Action.call? (id : String) : Action σ → Option Call
  | .call name made => if name = id then some made else none
  | _ => none

/-- An action that leaves a query open, and connects others only over links that leave what is in
view as it is. -/
def Action.Beside (view : σ → β) (id : String) : Action σ → Prop
  | .openQuery name _ link => name ≠ id ∧ link.Keeps view
  | _ => True

def asked (desk : Desk σ) (id : String) (call : Call) : List Question :=
  match Record.get? id desk.queries with
  | none => []
  | some held =>
      let work := Query.answer ⟨desk.hydrators, desk.modules⟩ (Questioned.link held.link) call
      (work.run held.query ⟨desk.world, []⟩).2.asked

/-- What is seen of a call: what it reports, and what it asks. The rows that it reads are another
matter. -/
structure Sight where
  outcome? : Option (Outcome Answer)
  log : List LogRecord
  query? : Option Query
  asked : List Question

def sight (desk : Desk σ) (id : String) (call : Call) : Sight :=
  let report := (desk.call id call).1
  { outcome? := if call.runs then none else report.outcome?
    log := report.log
    query? := report.query?
    asked := desk.asked id call }

def sights (id : String) : Desk σ → List (Action σ) → List Sight
  | _, [] => []
  | desk, action :: rest =>
      ((action.call? id).map (desk.sight id)).toList ++ sights id (desk.step action).2 rest

/-- Desks that are alike for a query: it is held the same, over a link that takes only what is in
view into account and runs statements without changing it, and the same is in view. -/
structure Alike (view : σ → β) (id : String) (desk alone : Desk σ) : Prop where
  held : Record.get? id desk.queries = Record.get? id alone.queries
  world : view desk.world = view alone.world
  sees : ∀ held, Record.get? id desk.queries = some held → held.link.Sees view
  spares : ∀ held, Record.get? id desk.queries = some held → held.link.Spares view

/-- Other queries than the one are connected over links that leave what is in view as it is. -/
def OthersKeep (view : σ → β) (id : String) (desk : Desk σ) : Prop :=
  ∀ held ∈ desk.queries, held.1 ≠ id → held.2.link.Keeps view

section

variable {id : String} {desk alone : Desk σ}

theorem Alike.of_held {later : Desk σ} (alike : Alike view id desk alone)
    (held : Record.get? id later.queries = Record.get? id desk.queries)
    (world : view later.world = view desk.world) : Alike view id later alone := by
  constructor
  · exact held.trans alike.held
  · exact world.trans alike.world
  · intro own found
    exact alike.sees own (held.symm.trans found)
  · intro own found
    exact alike.spares own (held.symm.trans found)

def answered (desk : Desk σ) (id : String) (held : OpenQuery σ)
    (made : (Outcome Answer × Query) × σ) : Report × Desk σ :=
  (⟨some made.1.1, newRecords held.query made.1.2, some made.1.2⟩,
    { desk with
      world := made.2
      queries := Record.put id { held with query := made.1.2 } desk.queries })

theorem call_of_held {held : OpenQuery σ} (call : Call)
    (there : Record.get? id desk.queries = some held) :
    desk.call id call = desk.answered id held
      (answer ⟨desk.hydrators, desk.modules⟩ held.link call held.query desk.world) := by
  simp only [Desk.call, there]
  rfl

theorem call_of_closed {call : Call} (none : Record.get? id desk.queries = none) :
    desk.call id call = (⟨.none, [], .none⟩, desk) := by
  simp only [Desk.call, none]

theorem Alike.asked (alike : Alike view id desk alone) (call : Call) :
    desk.asked id call = alone.asked id call := by
  have same := alike.held
  unfold Desk.asked
  cases there : Record.get? id desk.queries with
  | none =>
      rw [there] at same
      simp only [← same]
  | some held =>
      rw [there] at same
      simp only [← same]
      -- The link with its questions written down takes the same into account, and the questions.
      have sees := (alike.sees held there).questioned
      have spares := (alike.spares held there).questioned
      have met : (view desk.world, ([] : List Question)) = (view alone.world, []) := by
        rw [alike.world]
      have both := answer_alike sees spares ⟨desk.hydrators, desk.modules⟩
        ⟨alone.hydrators, alone.modules⟩ call held.query ⟨desk.world, []⟩ ⟨alone.world, []⟩ met
      exact congrArg Prod.snd both.2.1

theorem Alike.moved {held : OpenQuery σ} {after turned : σ} (sees : held.link.Sees view)
    (spares : held.link.Spares view) (met : view after = view turned) :
    Alike view id { desk with world := after, queries := Record.put id held desk.queries }
      { alone with world := turned, queries := Record.put id held alone.queries } := by
  constructor
  · simp only [Record.get?_put_self]
  · exact met
  · intro own found
    rw [Record.get?_put_self] at found
    cases found
    exact sees
  · intro own found
    rw [Record.get?_put_self] at found
    cases found
    exact spares

theorem Alike.answered {held : OpenQuery σ} {call : Call}
    {done other : (Outcome Answer × Query) × σ} (alike : Alike view id desk alone)
    (sees : held.link.Sees view) (spares : held.link.Spares view)
    (made : desk.call id call = desk.answered id held done)
    (also : alone.call id call = alone.answered id held other)
    (kept : done.1.2 = other.1.2) (moved : view done.2 = view other.2)
    (same : call.runs = false → done.1.1 = other.1.1) :
    desk.sight id call = alone.sight id call ∧
      Alike view id (desk.call id call).2 (alone.call id call).2 := by
  have asks := alike.asked call
  unfold sight
  rw [asks, made, also]
  unfold Desk.answered
  rw [kept]
  constructor
  · cases runs : call.runs with
    | true => rfl
    | false => simp only [same runs]
  · exact .moved sees spares moved

theorem Alike.call (alike : Alike view id desk alone) (call : Call) :
    desk.sight id call = alone.sight id call ∧
      Alike view id (desk.call id call).2 (alone.call id call).2 := by
  have same := alike.held
  cases there : Record.get? id desk.queries with
  | none =>
      have alsoNone : Record.get? id alone.queries = none := same.symm.trans there
      have asks := alike.asked call
      unfold sight
      rw [asks, call_of_closed there, call_of_closed alsoNone]
      exact ⟨rfl, alike⟩
  | some held =>
      have alsoThere : Record.get? id alone.queries = some held := same.symm.trans there
      have sees := alike.sees held there
      have spares := alike.spares held there
      obtain ⟨kept, moved, answered⟩ := answer_alike sees spares
        ⟨desk.hydrators, desk.modules⟩ ⟨alone.hydrators, alone.modules⟩ call held.query desk.world
        alone.world alike.world
      exact alike.answered sees spares (call_of_held call there) (call_of_held call alsoThere) kept
        moved answered

theorem OthersKeep.initial (schema : Schema) (modules : ModuleTable) (world : σ) :
    (Desk.initial schema modules world).OthersKeep view id :=
  fun _ inside => absurd inside List.not_mem_nil

theorem OthersKeep.put {later : Desk σ} {name : String} {held : OpenQuery σ}
    (keep : desk.OthersKeep view id) (queries : later.queries = Record.put name held desk.queries)
    (keeps : name ≠ id → held.link.Keeps view) : later.OthersKeep view id := by
  intro entry inside different
  rw [queries] at inside
  rcases Record.mem_put inside with same | before
  · rw [same] at different ⊢
    exact keeps different
  · exact keep entry before different

theorem OthersKeep.remove (keep : desk.OthersKeep view id) (name : String) :
    OthersKeep view id { desk with queries := Record.remove name desk.queries } :=
  fun entry inside => keep entry (List.mem_filter.1 inside).1

theorem OthersKeep.openQuery (keep : desk.OthersKeep view id) (name : String) (opening : Opening)
    (keeps : name ≠ id → link.Keeps view) :
    (desk.openQuery name opening link).2.OthersKeep view id := by
  have gone := keep.remove name
  unfold Desk.openQuery
  split
  · exact gone
  · exact gone.put rfl keeps

theorem Alike.call_other (alike : Alike view id desk alone) (keep : desk.OthersKeep view id)
    {name : String} (other : name ≠ id) (call : Call) :
    Alike view id (desk.call name call).2 alone ∧ (desk.call name call).2.OthersKeep view id := by
  cases there : Record.get? name desk.queries with
  | none =>
      rw [call_of_closed there]
      exact ⟨alike, keep⟩
  | some held =>
      have keeps : held.link.Keeps view := keep _ (Record.mem_of_get? there) other
      have kept : view (answer ⟨desk.hydrators, desk.modules⟩ held.link call held.query
          desk.world).2 = view desk.world := answer_keeps keeps rfl
      rw [call_of_held call there]
      constructor
      · exact alike.of_held (Record.get?_put_of_ne other.symm _ _) kept
      · exact keep.put rfl (fun _ => keeps)

theorem Alike.open_other (alike : Alike view id desk alone) (keep : desk.OthersKeep view id)
    {name : String} (other : name ≠ id) (opening : Opening) (keeps : link.Keeps view) :
    Alike view id (desk.openQuery name opening link).2 alone ∧
      (desk.openQuery name opening link).2.OthersKeep view id := by
  have dropped := Record.get?_remove_of_ne other.symm desk.queries
  refine ⟨?_, keep.openQuery name opening (fun _ => keeps)⟩
  unfold openQuery
  split
  · exact alike.of_held dropped rfl
  · exact alike.of_held ((Record.get?_put_of_ne other.symm _ _).trans dropped) rfl

theorem Alike.step_beside (alike : Alike view id desk alone) (keep : desk.OthersKeep view id)
    {action : Action σ} (beside : action.Beside view id) (other : action.call? id = none) :
    Alike view id (desk.step action).2 alone ∧ (desk.step action).2.OthersKeep view id := by
  have still {later : Desk σ} (queries : later.queries = desk.queries)
      (world : later.world = desk.world) :
      Alike view id later alone ∧ later.OthersKeep view id := by
    constructor
    · exact alike.of_held (by rw [queries]) (by rw [world])
    · unfold OthersKeep
      rw [queries]
      exact keep
  cases action with
  | configure config overrides =>
      simp only [step]
      split
      · exact still rfl rfl
      · exact still rfl rfl
  | showConfig => exact still rfl rfl
  | resetConfig => exact still rfl rfl
  | registerDialect name dialect aliases => exact still rfl rfl
  | showGenerator name baseAlias supported => exact still rfl rfl
  | registerHydrator name handle =>
      simp only [step]
      split
      · exact still rfl rfl
      · exact still rfl rfl
  | resolveHydrator handle => exact still rfl rfl
  | openQuery name opening link => exact alike.open_other keep beside.1 opening beside.2
  | call name call =>
      have apart : name ≠ id := by
        intro same
        simp [Action.call?, same] at other
      exact alike.call_other keep apart call

theorem OthersKeep.call (keep : desk.OthersKeep view id) (call : Call) :
    (desk.call id call).2.OthersKeep view id := by
  cases there : Record.get? id desk.queries with
  | none =>
      rw [call_of_closed there]
      exact keep
  | some held =>
      rw [call_of_held call there]
      exact keep.put rfl (fun different => absurd rfl different)

theorem Action.eq_call {action : Action σ} {call : Call} (own : action.call? id = some call) :
    action = .call id call := by
  cases action with
  | call name made =>
      by_cases same : name = id
      · rw [Action.call?, if_pos same] at own
        cases own
        rw [same]
      · rw [Action.call?, if_neg same] at own
        cases own
  | _ => cases own

/-- From desks that are alike for a query, its calls are seen alike whatever else is done at the one
desk in between. -/
theorem Alike.sights {actions : List (Action σ)} (alike : Alike view id desk alone)
    (keep : desk.OthersKeep view id) (beside : ∀ action ∈ actions, action.Beside view id) :
    desk.sights id actions =
      alone.sights id (actions.filter (fun action => (action.call? id).isSome)) := by
  -- The desk with all the actions goes on at each of them, the other one at the own calls only.
  induction actions generalizing desk alone with
  | nil => rfl
  | cons action rest ih =>
      have later := fun other inside => beside other (List.mem_cons_of_mem action inside)
      cases own : action.call? id with
      | none =>
          obtain ⟨still, kept⟩ := alike.step_beside keep (beside action List.mem_cons_self) own
          rw [List.filter_cons_of_neg (by simp [own])]
          simp only [Desk.sights, own]
          exact ih still kept later
      | some call =>
          obtain rfl := Action.eq_call own
          obtain ⟨seen, next⟩ := alike.call call
          rw [List.filter_cons_of_pos (by simp [own])]
          simp only [Desk.sights, own, Option.map_some, seen]
          exact congrArg _ (ih next (keep.call call) later)

theorem openQuery_alike (schema : alone.schema = desk.schema) (config : alone.config = desk.config)
    (dialects : alone.dialects = desk.dialects) (met : view desk.world = view alone.world)
    (sees : link.Sees view) (spares : link.Spares view) (opening : Opening) :
    (desk.openQuery id opening link).1 = (alone.openQuery id opening link).1 ∧
      Alike view id (desk.openQuery id opening link).2 (alone.openQuery id opening link).2 := by
  have same : alone.opened opening link = desk.opened opening link := by
    unfold opened openingConfig
    rw [schema, config, dialects]
  unfold openQuery
  rw [same]
  split
  · have closed (later : Desk σ) : Record.get? id (Record.remove id later.queries) = none :=
      Record.get?_remove_self id later.queries
    refine ⟨rfl, (closed desk).trans (closed alone).symm, met, ?_, ?_⟩
    · intro own found
      cases (closed desk).symm.trans found
    · intro own found
      cases (closed desk).symm.trans found
  · constructor
    · rfl
    · exact .moved sees spares met

end

/-- A query is isolated once it is open, whatever is done at the desk besides: options changed or
put back, dialects and hydrators registered, with success or not, and other queries opened and
called, as long as what is in view of its introspector stays as it is. It is opened alike at any
desk with the same options and dialects, and its calls are seen there as they are alone: with the
same questions asked, the same warnings, and the same answers of all that runs no statements.

Of an introspector that always answers the same, nothing need be in view, and then any link may be
another query's. -/
theorem open_query_isolated {desk alone : Desk σ} {id : String} {opening : Opening}
    {actions : List (Action σ)} (schema : alone.schema = desk.schema)
    (config : alone.config = desk.config) (dialects : alone.dialects = desk.dialects)
    (met : view desk.world = view alone.world) (sees : link.Sees view) (spares : link.Spares view)
    (keep : desk.OthersKeep view id) (beside : ∀ action ∈ actions, action.Beside view id) :
    let opened := desk.step (.openQuery id opening link)
    let openedAlone := alone.step (.openQuery id opening link)
    opened.1 = openedAlone.1 ∧
      opened.2.sights id actions =
        openedAlone.2.sights id (actions.filter (fun action => (action.call? id).isSome)) := by
  intro opened openedAlone
  obtain ⟨same, alike⟩ : opened.1 = openedAlone.1 ∧ Alike view id opened.2 openedAlone.2 :=
    openQuery_alike schema config dialects met sees spares opening
  have kept : opened.2.OthersKeep view id :=
    keep.openQuery id opening (fun different => absurd rfl different)
  exact ⟨same, alike.sights kept beside⟩

theorem open_query_isolated_partners :
    let desk : Desk Nat := Desk.initial (documentsSetup Config.initial).schema [] 0
    let counting : Executor Nat := ⟨false, "mysql", fun _ _ sent => (.ok [], sent + 1)⟩
    let introspector : Introspector Nat := Introspector.fixed documentColumns
    let opening : Opening := ⟨.model "Partner", .text "mysql", none, "base", [], none, none⟩
    let star : Call := .attach .single (.text "raw") (.text "*")
    let actions : List (Action Nat) :=
      [.call "own" star, .configure none [("strict_mode", .bool true)],
        .registerDialect "mysql" (Dialect.base "Other") [],
        .openQuery "other" opening ⟨some counting, some introspector⟩,
        .call "other" (.fetch false (.value .null)), .call "own" (.compile false), .resetConfig,
        .call "own" .bindings]
    let opened := (desk.step (.openQuery "own" opening ⟨none, some introspector⟩)).2
    (∀ action ∈ actions, action.Beside (fun _ => ()) "own") ∧
      opened.sights "own" actions = opened.sights "own"
        [.call "own" star, .call "own" (.compile false), .call "own" .bindings] ∧
      (opened.sights "own" actions).map Sight.asked = [[], [.one "docs"], []] := by
  have keeps (executor? : Option (Executor Nat)) :
      Link.Keeps (fun _ => ()) ⟨executor?, some (Introspector.fixed documentColumns)⟩ :=
    ⟨fun _ _ => ⟨fun _ _ _ => rfl, fun _ _ _ => rfl⟩, fun _ _ _ _ _ => rfl⟩
  have sees : Link.Sees (fun _ : Nat => ()) ⟨none, some (Introspector.fixed documentColumns)⟩ :=
    fun _ => .some ⟨fun _ _ _ _ => by simp only [Introspector.ask_fixed, and_self],
      fun _ _ _ _ => by simp only [Introspector.ask_fixed_many, and_self]⟩
  refine ⟨?beside, (open_query_isolated rfl rfl rfl rfl sees (keeps none).executor
    (.initial _ _ _) ?beside).2, ?_⟩
  case beside =>
    simpa [Action.Beside] using keeps _
  · decide +kernel

end Desk

end NestedSelect
