import NestedSelect.Proofs.Query.Framing
import NestedSelect.Proofs.Query.Session

/-!
What an introspector is asked.

A link with a record does all that the link does and keeps a list of the questions that are put to
its introspector, whether they are answered or not. Running statements adds nothing to it.
-/

namespace NestedSelect

variable {σ τ α : Type}

inductive Question where
  | one (table : String)
  | many (tables : List String)
  deriving DecidableEq

structure Questioned (σ : Type) where
  world : σ
  asked : List Question

namespace Questioned

def reply : Reply σ α → Reply (Questioned σ) α
  | .ready result => .ready result
  | .awaitable finish => .awaitable (fun record =>
      let finished := finish record.world
      (finished.1, { record with world := finished.2 }))

def noting (question : Question) (asking : StateM σ (Reply σ α)) :
    StateM (Questioned σ) (Reply (Questioned σ) α) :=
  fun record =>
    let answered := asking record.world
    (reply answered.1, ⟨answered.2, record.asked ++ [question]⟩)

def introspector (introspector : Introspector σ) : Introspector (Questioned σ) :=
  { columnsOf := fun table => noting (.one table) (introspector.columnsOf table)
    columnsOfMany := fun tables => noting (.many tables) (introspector.columnsOfMany tables) }

def executor (executor : Executor σ) : Executor (Questioned σ) :=
  { awaits := executor.awaits
    dialectName := executor.dialectName
    execute := fun text values record =>
      let done := executor.execute text values record.world
      (done.1, { record with world := done.2 }) }

def link (link : Link σ) : Link (Questioned σ) :=
  ⟨link.executor?.map executor, link.introspector?.map introspector⟩

theorem ask_noting (awaits : Bool) (question : Question) (asking : StateM σ (Reply σ α))
    (record : Questioned σ) :
    ask awaits (noting question asking) record =
      ((ask awaits asking record.world).1,
        ⟨(ask awaits asking record.world).2, record.asked ++ [question]⟩) := by
  cases answered : asking record.world with
  | mk given moved =>
      have noted : noting question asking record =
          (reply given, ⟨moved, record.asked ++ [question]⟩) := by
        simp only [noting, answered]
      rw [ask_apply noted, ask_apply answered]
      cases given with
      | ready result => cases awaits <;> rfl
      | awaitable finish => cases awaits <;> rfl

theorem agrees {awaits also : Bool} {worlds : σ → τ → Prop}
    {records : Questioned σ → Questioned τ → Prop}
    (met : ∀ record other, records record other → worlds record.world other.world)
    (kept : ∀ record other world between question, records record other → worlds world between →
      records ⟨world, record.asked ++ [question]⟩ ⟨between, other.asked ++ [question]⟩)
    {first : Introspector σ} {second : Introspector τ}
    (agree : first.Agrees awaits also worlds second) :
    (introspector first).Agrees awaits also records (introspector second) := by
  constructor
  · intro table record between same
    obtain ⟨answered, moved⟩ := agree.one table _ _ (met _ _ same)
    simp only [introspector, ask_noting]
    exact ⟨answered, kept _ _ _ _ _ same moved⟩
  · intro tables record between same
    obtain ⟨answered, moved⟩ := agree.many tables _ _ (met _ _ same)
    simp only [introspector, ask_noting]
    exact ⟨answered, kept _ _ _ _ _ same moved⟩

end Questioned

end NestedSelect
