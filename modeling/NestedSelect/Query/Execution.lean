import NestedSelect.Hydration.Registry
import NestedSelect.Query.Compile
import NestedSelect.Query.Page
import NestedSelect.Query.Registration

/-!
Running the statements of a query and hydrating what they find.

Operations come in two kinds, for callers who await and for callers who do not. The executor has to
be of the same kind as the call.
-/

namespace NestedSelect.Query

open Sql (BoundStatement Window)

structure HydratorSource where
  registry : HydratorRegistry
  modules : ModuleTable

variable {σ : Type}

/-- The executor, if there is one and it is awaited just as the call is. -/
def requireExecutor (awaits : Bool) (link : Link σ) : Outcome (Executor σ) :=
  match link.executor? with
  | none => .error .noExecutor
  | some executor =>
      if executor.awaits = awaits then .ok executor
      else .error (.flavourMismatch executor.awaits)

/-- The hydrator that a call names, or else the one of the options. -/
def chosenHydrator (query : Query) : HydratorHandle → HydratorHandle
  | .value .null => .value query.setup.config.defaultHydrator
  | handle => handle

def answers (hydrators : HydratorSource) (query : Query) (handle : HydratorHandle)
    (rows : List Row) : Outcome (List Value) := do
  let resolved ← hydrators.registry.resolve hydrators.modules (query.chosenHydrator handle)
  Hydration.answer query.setup.schema resolved.hydrator query.relations query.setup.root rows

/-- A number of pages or of rows on one, which has to be positive. -/
def ensurePositive (label : String) (value : Value) : Outcome Int :=
  match value with
  | .int n => if n < 1 then do .error (.notPositive label (← value.inspected)) else .ok n
  | other => do .error (.notPositive label (← other.inspected))

def ensurePaged (setup : QuerySetup) : Outcome Unit :=
  if setup.baseQuery?.isSome then .error .paginatedBaseQuery else .ok ()

def pageWindow (page perPage : Value) : Edit (Int × Int) := do
  ensurePaged (← get).setup
  let number ← ensurePositive "Page" page
  let size ← ensurePositive "Per-page" perPage
  let _ ← ensureLimit "Per-page" perPage
  return (number, size)

/-! ### Callers who do not await -/

def runNow (executor : Executor σ) (statement : BoundStatement) : Work σ (List Row) :=
  perform (executor.execute statement.text statement.values)

def fetchNow (hydrators : HydratorSource) (link : Link σ) (handle : HydratorHandle) :
    Work σ (List Value) := do
  let executor ← requireExecutor false link
  let statement ← compileNow link.introspector?
  let rows ← runNow executor statement
  (← get).answers hydrators handle rows

def fetchFirstNow (hydrators : HydratorSource) (link : Link σ) (handle : HydratorHandle) :
    Work σ Value := do
  let items ← fetchNow hydrators link handle
  return items.head?.getD .null

/-- A page of answers, and the number of all rows, which is asked for first. -/
def paginateNow (hydrators : HydratorSource) (link : Link σ) (page perPage : Value)
    (handle : HydratorHandle) : Work σ Page := do
  let window ← edit (pageWindow page perPage)
  let executor ← requireExecutor false link
  resolveWildcardsNow link.introspector?
  let counting ← (← get).buildCount
  let counted ← runNow executor counting
  let total ← scalarCount counted
  let statement ← (← get).build ⟨.int window.2, .int ((window.1 - 1) * window.2)⟩
  let rows ← runNow executor statement
  let items ← (← get).answers hydrators handle rows
  return ⟨items, total, window.1, window.2⟩

/-! ### Callers who await -/

def runAwaited (executor : Executor σ) (statement : BoundStatement) : Work σ (List Row) :=
  perform (executor.execute statement.text statement.values).awaited

def fetchAwaited (hydrators : HydratorSource) (link : Link σ) (handle : HydratorHandle) :
    Work σ (List Value) := do
  let executor ← requireExecutor true link
  let statement ← compileAwaited link.introspector?
  let rows ← runAwaited executor statement
  ((← get).answers hydrators handle rows).mapError Fault.awaited

def fetchFirstAwaited (hydrators : HydratorSource) (link : Link σ) (handle : HydratorHandle) :
    Work σ Value := do
  let items ← fetchAwaited hydrators link handle
  return items.head?.getD .null

def paginateAwaited (hydrators : HydratorSource) (link : Link σ) (page perPage : Value)
    (handle : HydratorHandle) : Work σ Page := do
  let window ← edit (pageWindow page perPage)
  let executor ← requireExecutor true link
  resolveWildcardsAwaited link.introspector?
  let counting ← (← get).buildCount
  let counted ← runAwaited executor counting
  let total ← (scalarCount counted).mapError Fault.awaited
  let statement ← (← get).build ⟨.int window.2, .int ((window.1 - 1) * window.2)⟩
  let rows ← runAwaited executor statement
  let items ← ((← get).answers hydrators handle rows).mapError Fault.awaited
  return ⟨items, total, window.1, window.2⟩

/-! ### Either kind of caller -/

def fetch (awaits : Bool) (hydrators : HydratorSource) (link : Link σ) (handle : HydratorHandle) :
    Work σ (List Value) :=
  if awaits then fetchAwaited hydrators link handle else fetchNow hydrators link handle

def fetchFirst (awaits : Bool) (hydrators : HydratorSource) (link : Link σ)
    (handle : HydratorHandle) : Work σ Value :=
  if awaits then fetchFirstAwaited hydrators link handle else fetchFirstNow hydrators link handle

def paginate (awaits : Bool) (hydrators : HydratorSource) (link : Link σ) (page perPage : Value)
    (handle : HydratorHandle) : Work σ Page :=
  if awaits then paginateAwaited hydrators link page perPage handle
  else paginateNow hydrators link page perPage handle

end NestedSelect.Query
