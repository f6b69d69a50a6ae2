import NestedSelect.Proofs.Query.Work
import NestedSelect.Query.Execution

/-!
Callers who await and callers who do not, in one.

The operations of both kinds of callers are the same steps but for how answers are waited for
(`ask`, `run`, `heard`). Here that is a parameter, and each operation is proved to be its steps with
this parameter. What holds for any value of it holds for both.
-/

namespace NestedSelect

variable {σ α : Type}

def ask (awaits : Bool) (question : StateM σ (Reply σ α)) : Exchange σ α :=
  if awaits then askAwaited question else askNow question

def Reply.heard (awaits : Bool) (reply : Reply σ α) : Exchange σ α :=
  if awaits then reply.awaited.awaited else reply.now

theorem ask_apply {awaits : Bool} {question : StateM σ (Reply σ α)} {world after : σ}
    {reply : Reply σ α} (asked : question world = (reply, after)) :
    ask awaits question world = reply.heard awaits after := by
  cases awaits with
  | false =>
      change (question world).1.now (question world).2 = reply.now after
      rw [asked]
  | true =>
      have finished : ask true question world =
          (((question world).1.awaited (question world).2).1.mapError Fault.awaited,
            ((question world).1.awaited (question world).2).2) := rfl
      rw [finished, asked]
      rfl

theorem ask_ready (awaits : Bool) (a : α) (world : σ) :
    ask awaits (pure (.ready (.ok a))) world = (.ok a, world) := by
  cases awaits <;> rfl

def heard (awaits : Bool) (outcome : Outcome α) : Outcome α :=
  if awaits then outcome.mapError Fault.awaited else outcome

def Fault.heard (awaits : Bool) (fault : Fault) : Fault :=
  if awaits then fault.awaited else fault

theorem heard_error (awaits : Bool) (fault : Fault) :
    heard awaits (.error fault : Outcome α) = .error (fault.heard awaits) := by
  cases awaits <;> rfl

theorem heard_ok (awaits : Bool) (a : α) : heard awaits (.ok a : Outcome α) = .ok a := by
  cases awaits <;> rfl

namespace Query

open Sql (BoundStatement)

def introspectEach (awaits : Bool) (introspector : Introspector σ) : List String → Work σ Unit
  | [] => pure ()
  | table :: rest => do
      let columns ← perform (ask awaits (introspector.columnsOf table))
      modify (fun query => { query with listings := Record.put table columns query.listings })
      introspectEach awaits introspector rest

def introspect (awaits : Bool) (introspector : Introspector σ) (tables : List String) :
    Work σ Unit := do
  if (← get).setup.generator.dialect.batchIntrospection.isTruthy then
    let found ← perform (ask awaits (introspector.columnsOfMany tables))
    modify (fun query => { query with listings := Record.merge query.listings found })
  else introspectEach awaits introspector tables

def introspectPending (awaits : Bool) (introspector? : Option (Introspector σ))
    (tables : List String) : Work σ Unit :=
  match tables, introspector? with
  | [], _ => pure ()
  | table :: _, none => throw (.noIntrospector table)
  | tables, some introspector => introspect awaits introspector tables

theorem introspectEachNow_eq (introspector : Introspector σ) (tables : List String) :
    introspectEachNow introspector tables = introspectEach false introspector tables := by
  induction tables with
  | nil => rfl
  | cons table rest ih =>
      unfold introspectEachNow introspectEach
      rw [ih]
      rfl

theorem introspectEachAwaited_eq (introspector : Introspector σ) (tables : List String) :
    introspectEachAwaited introspector tables = introspectEach true introspector tables := by
  induction tables with
  | nil => rfl
  | cons table rest ih =>
      unfold introspectEachAwaited introspectEach
      rw [ih]
      rfl

theorem introspectNow_eq (introspector? : Option (Introspector σ)) (tables : List String) :
    introspectNow introspector? tables = introspectPending false introspector? tables := by
  cases tables with
  | nil => rfl
  | cons table rest =>
      cases introspector? with
      | none => rfl
      | some introspector =>
          unfold introspectNow introspectPending introspect
          simp only [introspectEachNow_eq]
          rfl

theorem introspectAwaited_eq (introspector? : Option (Introspector σ)) (tables : List String) :
    introspectAwaited introspector? tables = introspectPending true introspector? tables := by
  cases tables with
  | nil => rfl
  | cons table rest =>
      cases introspector? with
      | none => rfl
      | some introspector =>
          unfold introspectAwaited introspectPending introspect
          simp only [introspectEachAwaited_eq]
          rfl

theorem resolveWildcards_eq (awaits : Bool) (introspector? : Option (Introspector σ)) :
    resolveWildcards awaits introspector? = (do
      let query ← get
      if query.wildcardsResolved then return
      let settled := settleKnown query.setup query.relations query.listings
      set { query with relations := settled.1, listings := settled.2 }
      introspectPending awaits introspector? (pendingTables settled.1)
      let asked ← get
      let applied := applyListings asked.listings asked.relations
      set { asked with relations := applied.1 }
      applied.2
      modify (fun query => { query with wildcardsResolved := true })) := by
  cases awaits with
  | false =>
      change resolveWildcardsNow introspector? = _
      unfold resolveWildcardsNow
      simp only [introspectNow_eq]
  | true =>
      change resolveWildcardsAwaited introspector? = _
      unfold resolveWildcardsAwaited
      simp only [introspectAwaited_eq]

theorem compile_eq (awaits : Bool) (introspector? : Option (Introspector σ)) :
    compile awaits introspector? = (do
      resolveWildcards awaits introspector?
      let query ← get
      query.build query.window) := by
  cases awaits <;> rfl

def run (awaits : Bool) (executor : Executor σ) (statement : BoundStatement) :
    Work σ (List Row) :=
  if awaits then runAwaited executor statement else runNow executor statement

theorem run_apply {awaits : Bool} {executor : Executor σ} {statement : BoundStatement}
    {result : Outcome (List Row)} {world after : σ}
    (executed : executor.execute statement.text statement.values world = (result, after))
    (query : Query) :
    run awaits executor statement query world = ((heard awaits result, query), after) := by
  cases awaits with
  | false => exact Work.perform_apply executed query
  | true =>
      refine Work.perform_apply ?_ query
      unfold Exchange.awaited
      rw [executed]
      rfl

theorem fetch_eq (awaits : Bool) (hydrators : HydratorSource) (link : Link σ)
    (handle : HydratorHandle) :
    fetch awaits hydrators link handle = (do
      let executor ← requireExecutor awaits link
      let statement ← compile awaits link.introspector?
      let rows ← run awaits executor statement
      heard awaits ((← get).answers hydrators handle rows)) := by
  cases awaits <;> rfl

theorem fetchFirst_eq (awaits : Bool) (hydrators : HydratorSource) (link : Link σ)
    (handle : HydratorHandle) :
    fetchFirst awaits hydrators link handle = (do
      let items ← fetch awaits hydrators link handle
      return items.head?.getD .null) := by
  cases awaits <;> rfl

theorem paginate_eq (awaits : Bool) (hydrators : HydratorSource) (link : Link σ)
    (page perPage : Value) (handle : HydratorHandle) :
    paginate awaits hydrators link page perPage handle = (do
      let window ← edit (pageWindow page perPage)
      let executor ← requireExecutor awaits link
      resolveWildcards awaits link.introspector?
      let counting ← (← get).buildCount
      let counted ← run awaits executor counting
      let total ← heard awaits (scalarCount counted)
      let statement ← (← get).build ⟨.int window.2, .int ((window.1 - 1) * window.2)⟩
      let rows ← run awaits executor statement
      let items ← heard awaits ((← get).answers hydrators handle rows)
      return ⟨items, total, window.1, window.2⟩) := by
  cases awaits <;> rfl

end Query

end NestedSelect
