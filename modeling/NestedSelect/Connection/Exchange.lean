import NestedSelect.Value.Basic
import NestedSelect.Fault

/-!
Exchanges with a world outside: databases, catalogues and whatever else keeps a state of its own.

An exchange that fails has still changed the world as far as it got. One that is awaited fails as
failures leave an operation that is awaited (`Fault.awaited`).
-/

namespace NestedSelect

abbrev Exchange (σ α : Type) : Type := ExceptT Fault (StateM σ) α

def Exchange.awaited {σ α : Type} (exchange : Exchange σ α) : Exchange σ α :=
  fun world =>
    let answered := exchange world
    (answered.1.mapError Fault.awaited, answered.2)

/-- An answer that is there, or one that comes when it is awaited. -/
inductive Reply (σ α : Type) where
  | ready (result : Outcome α)
  | awaitable (finish : Exchange σ α)

namespace Reply

variable {σ α : Type}

/-- The answer for a caller who does not await, and has no use for one that is not there. -/
def now : Reply σ α → Exchange σ α
  | ready result => fun world => (result, world)
  | awaitable _ => throw .awaitableIntrospector

def awaited : Reply σ α → Exchange σ α
  | ready result => fun world => (result, world)
  | awaitable finish => finish

end Reply

def askNow {σ α : Type} (question : StateM σ (Reply σ α)) : Exchange σ α :=
  fun world =>
    let asked := question world
    asked.1.now asked.2

def askAwaited {σ α : Type} (question : StateM σ (Reply σ α)) : Exchange σ α :=
  Exchange.awaited (fun world =>
    let asked := question world
    asked.1.awaited asked.2)

/-- Something that knows the columns of tables. Tables are asked about one by one or together; in
the answer about many, tables may be missing. -/
structure Introspector (σ : Type) where
  columnsOf : String → StateM σ (Reply σ (List Value))
  columnsOfMany : List String → StateM σ (Reply σ (List (String × List Value)))

structure Executor (σ : Type) where
  awaits : Bool
  dialectName : String
  execute : String → List Value → Exchange σ (List Row)

structure Link (σ : Type) where
  executor? : Option (Executor σ)
  introspector? : Option (Introspector σ)

end NestedSelect
