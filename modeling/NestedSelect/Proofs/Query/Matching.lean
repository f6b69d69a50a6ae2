import Mathlib.Data.List.Forall2
import NestedSelect.Proofs.Query.Work
import NestedSelect.Query.Execution

/-!
Two runs side by side.

Work matches other work if, from queries that are alike and in worlds that are alike, both come to
the same fault or to results that are alike, and leave queries and worlds alike. What queries and
worlds have in common is up to whoever compares them: each step asks only for what it reads.
-/

namespace NestedSelect

variable {α β γ δ σ τ : Type}

/-- Outcomes that are alike: the same fault, or results that are. -/
inductive Outcome.Alike (alike : α → β → Prop) : Outcome α → Outcome β → Prop where
  | ok {a : α} {b : β} (same : alike a b) : Alike alike (.ok a) (.ok b)
  | error (fault : Fault) : Alike alike (.error fault) (.error fault)

namespace Outcome.Alike

variable {alike : α → β → Prop} {first : Outcome α} {second : Outcome β}

theorem refl (outcome : Outcome α) : Alike Eq outcome outcome := by
  cases outcome with
  | ok a => exact .ok rfl
  | error fault => exact .error fault

theorem eq {second : Outcome α} (same : Alike Eq first second) : first = second := by
  cases same with
  | ok same => rw [same]
  | error fault => rfl

theorem bind {results : γ → δ → Prop} {next : α → Outcome γ} {other : β → Outcome δ}
    (same : Alike alike first second) (rest : ∀ a b, alike a b → Alike results (next a) (other b)) :
    Alike results (first >>= next) (second >>= other) := by
  cases same with
  | ok same => exact rest _ _ same
  | error fault => exact .error fault

theorem toList (same : Alike alike first second) :
    List.Forall₂ alike first.toOption.toList second.toOption.toList := by
  cases same with
  | ok same => exact .cons same .nil
  | error fault => exact .nil

end Outcome.Alike

namespace Query

open Outcome (Alike)

def Edit.Matches (queries : Query → Query → Prop) (alike : α → β → Prop) (change : Edit α)
    (other : Edit β) : Prop :=
  ∀ query second, queries query second →
    Alike alike (change query).1 (other second).1 ∧ queries (change query).2 (other second).2

def Work.Matches (queries : Query → Query → Prop) (worlds : σ → τ → Prop) (alike : α → β → Prop)
    (work : Work σ α) (other : Work τ β) : Prop :=
  ∀ query second world between, queries query second → worlds world between →
    let done := work query world
    let also := other second between
    Alike alike done.1.1 also.1.1 ∧ queries done.1.2 also.1.2 ∧ worlds done.2 also.2

variable {queries : Query → Query → Prop} {worlds : σ → τ → Prop} {alike : α → β → Prop}
  {results : γ → δ → Prop}

namespace Edit.Matches

theorem self (change : Edit α) : Edit.Matches Eq Eq change change := by
  intro query second same
  rw [same]
  exact ⟨.refl _, rfl⟩

theorem lift {first : Outcome α} {second : Outcome β} (same : Alike alike first second) :
    Edit.Matches queries alike (liftM first) (liftM second) := by
  intro query other start
  rw [Edit.lift_apply rfl, Edit.lift_apply rfl]
  exact ⟨same, start⟩

theorem modify {change other : Query → Query}
    (kept : ∀ query second, queries query second → queries (change query) (other second)) :
    Edit.Matches queries Eq (modify change) (modify other) := by
  intro query second start
  exact ⟨.ok rfl, kept query second start⟩

theorem bind {change : Edit α} {other : Edit β} {next : α → Edit γ} {rest : β → Edit δ}
    (first : Edit.Matches queries alike change other)
    (later : ∀ a b, alike a b → Edit.Matches queries results (next a) (rest b)) :
    Edit.Matches queries results (change >>= next) (other >>= rest) := by
  intro query second start
  have both := first query second start
  cases done : change query with
  | mk result middle =>
      cases also : other second with
      | mk outcome between =>
          rw [done, also] at both
          obtain ⟨same, kept⟩ := both
          cases same with
          | error fault =>
              rw [Edit.bind_of_error done, Edit.bind_of_error also]
              exact ⟨.error fault, kept⟩
          | ok same =>
              rw [Edit.bind_of_ok done, Edit.bind_of_ok also]
              exact later _ _ same middle between kept

theorem get_bind {next : Query → Edit α} {rest : Query → Edit β}
    (later : ∀ query second, queries query second →
      Edit.Matches queries alike (next query) (rest second)) :
    Edit.Matches queries alike (get >>= next) (get >>= rest) := by
  intro query second start
  exact later query second start query second start

end Edit.Matches

namespace Work.Matches

theorem follow {work : Work σ α} {other : Work τ β} {query second later : Query} {world after : σ}
    {between : τ} {outcome : Outcome α} (both : Work.Matches queries worlds alike work other)
    (start : queries query second) (met : worlds world between)
    (done : work query world = ((outcome, later), after)) :
    ∃ result since turned, other second between = ((result, since), turned) ∧
      Alike alike outcome result ∧ queries later since ∧ worlds after turned := by
  have ended := both query second world between start met
  rw [done] at ended
  exact ⟨_, _, _, rfl, ended⟩

theorem pure {a : α} {b : β} (same : alike a b) :
    Work.Matches queries worlds alike (pure a) (pure b) := by
  intro query second world between start met
  exact ⟨.ok same, start, met⟩

theorem lift {first : Outcome α} {second : Outcome β} (same : Alike alike first second) :
    Work.Matches queries worlds alike (liftM first) (liftM second) := by
  intro query other world between start met
  rw [Work.lift_apply rfl, Work.lift_apply rfl]
  exact ⟨same, start, met⟩

theorem set {changed other : Query} (kept : queries changed other) :
    Work.Matches queries worlds Eq (set changed) (set other) := by
  intro query second world between _ met
  exact ⟨.ok rfl, kept, met⟩

theorem modify {change other : Query → Query}
    (kept : ∀ query second, queries query second → queries (change query) (other second)) :
    Work.Matches queries worlds Eq (modify change) (modify other) := by
  intro query second world between start met
  exact ⟨.ok rfl, kept query second start, met⟩

theorem bind {work : Work σ α} {other : Work τ β} {next : α → Work σ γ} {rest : β → Work τ δ}
    (first : Work.Matches queries worlds alike work other)
    (later : ∀ a b, alike a b → Work.Matches queries worlds results (next a) (rest b)) :
    Work.Matches queries worlds results (work >>= next) (other >>= rest) := by
  intro query second world between start met
  have both := first query second world between start met
  cases done : work query world with
  | mk answered after =>
      obtain ⟨result, middle⟩ := answered
      cases also : other second between with
      | mk answered since =>
          obtain ⟨outcome, turned⟩ := answered
          rw [done, also] at both
          obtain ⟨same, kept, moved⟩ := both
          cases same with
          | error fault =>
              rw [Work.bind_of_error done, Work.bind_of_error also]
              exact ⟨.error fault, kept, moved⟩
          | ok same =>
              rw [Work.bind_of_ok done, Work.bind_of_ok also]
              exact later _ _ same middle turned after since kept moved

theorem get_bind {next : Query → Work σ α} {rest : Query → Work τ β}
    (later : ∀ query second, queries query second →
      Work.Matches queries worlds alike (next query) (rest second)) :
    Work.Matches queries worlds alike (get >>= next) (get >>= rest) := by
  intro query second world between start met
  exact later query second start query second world between start met

theorem perform {exchange : Exchange σ α} {other : Exchange τ β}
    (agree : ∀ world between, worlds world between →
      Alike alike (exchange world).1 (other between).1 ∧
        worlds (exchange world).2 (other between).2) :
    Work.Matches queries worlds alike (perform exchange) (perform other) := by
  intro query second world between start met
  obtain ⟨same, moved⟩ := agree world between met
  exact ⟨same, start, moved⟩

theorem edit {change : Edit α} {other : Edit β} (both : Edit.Matches queries alike change other) :
    Work.Matches queries worlds alike (edit change) (edit other) := by
  intro query second world between start met
  obtain ⟨same, kept⟩ := both query second start
  exact ⟨same, kept, met⟩

end Work.Matches

end Query

end NestedSelect
