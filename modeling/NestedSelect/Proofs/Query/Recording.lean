import NestedSelect.Proofs.Query.Composition
import NestedSelect.Proofs.Query.Framing

/-!
Sessions whose statements are recorded.

A recorded link does what the link does and keeps a list of the statements sent over it. What a
call sends is built of the query as it is after the call.
-/

namespace NestedSelect

open Sql (BoundStatement)
open Query

variable {σ : Type}

structure Recorded (σ : Type) where
  world : σ
  sent : List BoundStatement

namespace Recorded

def reply {α : Type} : Reply σ α → Reply (Recorded σ) α
  | .ready result => .ready result
  | .awaitable finish => .awaitable (fun recorded =>
      let finished := finish recorded.world
      (finished.1, { recorded with world := finished.2 }))

def question {α : Type} (question : StateM σ (Reply σ α)) :
    StateM (Recorded σ) (Reply (Recorded σ) α) :=
  fun recorded =>
    let asked := question recorded.world
    (reply asked.1, { recorded with world := asked.2 })

def introspector (introspector : Introspector σ) : Introspector (Recorded σ) :=
  { columnsOf := fun table => question (introspector.columnsOf table)
    columnsOfMany := fun tables => question (introspector.columnsOfMany tables) }

def executor (executor : Executor σ) : Executor (Recorded σ) :=
  { awaits := executor.awaits
    dialectName := executor.dialectName
    execute := fun text values recorded =>
      let done := executor.execute text values recorded.world
      (done.1, ⟨done.2, recorded.sent ++ [⟨text, values⟩]⟩) }

def link (link : Link σ) : Link (Recorded σ) :=
  ⟨link.executor?.map executor, link.introspector?.map introspector⟩

theorem ask_question {α : Type} (awaits : Bool) (asked : StateM σ (Reply σ α))
    (recorded : Recorded σ) :
    ask awaits (question asked) recorded =
      ((ask awaits asked recorded.world).1,
        ⟨(ask awaits asked recorded.world).2, recorded.sent⟩) := by
  cases answered : asked recorded.world with
  | mk given moved =>
      have recordedAnswer : question asked recorded = (reply given, ⟨moved, recorded.sent⟩) := by
        simp only [question, answered]
      rw [ask_apply recordedAnswer, ask_apply answered]
      cases given with
      | ready result => cases awaits <;> rfl
      | awaitable finish => cases awaits <;> rfl

theorem agrees {τ : Type} {awaits also : Bool} {worlds : σ → τ → Prop}
    {records : Recorded σ → Recorded τ → Prop}
    (met : ∀ recorded other, records recorded other → worlds recorded.world other.world)
    (kept : ∀ recorded other world between, records recorded other → worlds world between →
      records ⟨world, recorded.sent⟩ ⟨between, other.sent⟩)
    {first : Introspector σ} {second : Introspector τ}
    (agree : first.Agrees awaits also worlds second) :
    (introspector first).Agrees awaits also records (introspector second) := by
  constructor
  · intro table recorded between same
    obtain ⟨answered, moved⟩ := agree.one table _ _ (met _ _ same)
    simp only [introspector, ask_question]
    exact ⟨answered, kept _ _ _ _ same moved⟩
  · intro tables recorded between same
    obtain ⟨answered, moved⟩ := agree.many tables _ _ (met _ _ same)
    simp only [introspector, ask_question]
    exact ⟨answered, kept _ _ _ _ same moved⟩

theorem sent_ask {α : Type} (awaits : Bool) (asked : StateM σ (Reply σ α))
    (recorded : Recorded σ) : (ask awaits (question asked) recorded).2.sent = recorded.sent := by
  rw [ask_question]

end Recorded

/-- An introspector whose answers leave some part of the world as it is. -/
structure Introspector.Keeps {β : Type} (kept : σ → β) (introspector : Introspector σ) : Prop where
  one : ∀ awaits table world, kept (ask awaits (introspector.columnsOf table) world).2 = kept world
  many : ∀ awaits tables world,
    kept (ask awaits (introspector.columnsOfMany tables) world).2 = kept world

theorem Recorded.introspector_keeps (introspector : Introspector σ) :
    (Recorded.introspector introspector).Keeps Recorded.sent :=
  ⟨fun awaits _ recorded => sent_ask awaits _ recorded,
    fun awaits _ recorded => sent_ask awaits _ recorded⟩

namespace Query

variable {β : Type} {kept : σ → β} {query later : Query} {world after : σ} {awaits : Bool}

theorem introspectPending_keeps {introspector? : Option (Introspector σ)}
    (keeps : ∀ introspector, introspector? = some introspector → introspector.Keeps kept)
    {tables : List String} {outcome : Outcome Unit}
    (done : introspectPending awaits introspector? tables query world =
      ((outcome, later), after)) : kept after = kept world := by
  have preserved : ∀ introspector, introspector? = some introspector →
      Preserves awaits introspector (fun _ => True)
        (fun _ between => kept between = kept world) := by
    intro introspector there
    have keeps := keeps introspector there
    exact ⟨fun table _ _ between before => (keeps.one awaits table between).trans before,
      fun asked _ _ between before => (keeps.many awaits asked between).trans before⟩
  obtain ⟨_, _, same⟩ := introspectPending_preserves preserved (fun _ _ => trivial) rfl done
  exact same

theorem Discovery.keeps {introspector? : Option (Introspector σ)} {outcome : Outcome Unit}
    (keeps : ∀ introspector, introspector? = some introspector → introspector.Keeps kept)
    (found : Discovery awaits introspector? query world outcome later after) :
    kept after = kept world := by
  cases found with
  | known => rfl
  | unanswered _ asked => exact introspectPending_keeps keeps asked
  | incomplete _ asked => exact introspectPending_keeps keeps asked
  | complete _ asked => exact introspectPending_keeps keeps asked

end Query

namespace Recorded

variable {link : Link σ} {query later : Query} {recorded after : Recorded σ}

theorem sent_sends {executor : Executor σ} {sent : List BoundStatement}
    (sends : Sends (Recorded.executor executor) query recorded sent after) :
    after.sent = recorded.sent ++ sent ∧ ∀ statement ∈ sent, query.Drafts statement := by
  induction sends with
  | none => exact ⟨(List.append_nil _).symm, List.forall_mem_nil _⟩
  | @more sent between statement before drafted ih =>
      refine ⟨?_, ?_⟩
      · change between.sent ++ [statement] = recorded.sent ++ (sent ++ [statement])
        rw [ih.1, List.append_assoc]
      · intro other member
        rcases List.mem_append.1 member with inside | last
        · exact ih.2 other inside
        · rw [List.mem_singleton.1 last]
          exact drafted

theorem link_keeps (link : Link σ) (introspector : Introspector (Recorded σ))
    (there : (Recorded.link link).introspector? = some introspector) :
    introspector.Keeps Recorded.sent := by
  cases given : link.introspector? with
  | none => simp [Recorded.link, given] at there
  | some inner =>
      simp only [Recorded.link, given, Option.map_some, Option.some.injEq] at there
      rw [← there]
      exact introspector_keeps inner

theorem sent_reads {sent : List BoundStatement} (composed : query.Composed)
    (reads : Reads (Recorded.link link) query recorded sent later after) :
    after.sent = recorded.sent ++ sent ∧ (∀ statement ∈ sent, later.Drafts statement) ∧
      (sent ≠ [] → ∀ request ∈ later.relations, request.isWildcard = false) := by
  cases reads with
  | idle =>
      exact ⟨(List.append_nil _).symm, List.forall_mem_nil _,
        fun impossible => absurd rfl impossible⟩
  | stopped discovery =>
      refine ⟨?_, List.forall_mem_nil _,
        fun impossible => absurd rfl impossible⟩
      rw [List.append_nil]
      exact discovery.keeps (link_keeps link)
  | ran there discovery sends =>
      cases given : link.executor? with
      | none => simp [Recorded.link, given] at there
      | some inner =>
          simp only [Recorded.link, given, Option.map_some, Option.some.injEq] at there
          subst there
          obtain ⟨grown, drafted⟩ := sent_sends sends
          refine ⟨?_, drafted, fun _ => ?_⟩
          · rw [grown, discovery.keeps (link_keeps link)]
          · exact discovery.resolved composed.resolved discovery.marked

/-- What a call sends, whatever the call is and whatever comes of it. -/
theorem sent_advance {call : Call} {outcome : Outcome Answer} (composed : query.Composed)
    (step : Advance (Recorded.link link) query recorded call outcome later after) :
    ∃ sent, after.sent = recorded.sent ++ sent ∧ (∀ statement ∈ sent, later.Drafts statement) ∧
      (sent ≠ [] → ∀ request ∈ later.relations, request.isWildcard = false) := by
  have silent : recorded.sent = recorded.sent ++ [] ∧
      (∀ statement ∈ ([] : List BoundStatement), later.Drafts statement) ∧
      (([] : List BoundStatement) ≠ [] →
        ∀ request ∈ later.relations, request.isWildcard = false) :=
    ⟨(List.append_nil _).symm, List.forall_mem_nil _,
      fun impossible => absurd rfl impossible⟩
  cases step with
  | attached => exact ⟨[], silent⟩
  | filtered => exact ⟨[], silent⟩
  | ordered => exact ⟨[], silent⟩
  | limited => exact ⟨[], silent⟩
  | moved => exact ⟨[], silent⟩
  | refused => exact ⟨[], silent⟩
  | read _ done => exact ⟨_, sent_reads composed done⟩

theorem sent_executed (executor : Executor σ) (recorded : Recorded σ)
    (statements : List BoundStatement) :
    (executed (Recorded.executor executor) recorded statements).sent =
      recorded.sent ++ statements := by
  induction statements generalizing recorded with
  | nil => exact (List.append_nil _).symm
  | cons statement rest ih =>
      have others := ih ((Recorded.executor executor).execute statement.text statement.values
        recorded).2
      have first : ((Recorded.executor executor).execute statement.text statement.values
        recorded).2.sent = recorded.sent ++ [statement] := rfl
      rw [first, List.append_assoc] at others
      exact others

theorem sent_runs {call : Call} {plan : Work (Recorded σ) (Executor (Recorded σ) × _)}
    {outcome : Outcome Answer} {sent : List BoundStatement}
    (planned : call.plan? (Recorded.link link) = some plan)
    (goes : Runs plan query recorded outcome sent later after) :
    after.sent = recorded.sent ++ sent := by
  have prepared {outcome} {between : Recorded σ}
      (done : plan query recorded = ((outcome, later), between)) :
      between.sent = recorded.sent := by
    rcases Call.plan_cases planned done with ⟨_, _, same⟩ | ⟨_, _, _, discovery, _⟩
    · rw [same]
    · exact discovery.keeps (link_keeps link)
  cases goes with
  | unprepared failed => rw [prepared failed, List.append_nil]
  | started ready part some =>
      obtain ⟨inner, _, rfl⟩ := Option.map_eq_some_iff.1 (Call.plan_executor planned ready)
      rw [sent_executed, prepared ready]

theorem sent_silent {hydrators : HydratorSource} {call : Call} {outcome : Outcome Answer}
    (silent : call.runs = false)
    (done : answer hydrators (Recorded.link link) call query recorded =
      ((outcome, later), after)) : after.sent = recorded.sent := by
  rcases answer_silent silent done with same | ⟨_, _, discovery⟩
  · rw [same]
  · exact discovery.keeps (link_keeps link)

end Recorded

end NestedSelect
