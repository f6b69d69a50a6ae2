import NestedSelect.Proofs.Query.Session
import NestedSelect.Proofs.Relation.Refusal

/-!
What becomes of wrong names.

A check of a name fails with a fault of its own, and resolving a relation fails either so or because
there is no relation that can be attached, unless something that is called for it fails. A call that
gives a wrong name is refused with such a fault, whichever of its names is wrong.
-/

namespace NestedSelect

open Identifier (IsSafe)
open Query

variable {σ α β : Type}

namespace Fault

def IsRelational (fault : Fault) : Prop :=
  ∃ kind, fault.kind? = some kind ∧ kind.isA .relation = true

end Fault

namespace Outcome

def Misnamed (result : Outcome α) : Prop := ∃ fault, result = .error fault ∧ fault.IsNaming

variable {result : Outcome α} {next : α → Outcome β}

theorem Misnamed.first (misnamed : Misnamed result) : Misnamed (result >>= next) := by
  obtain ⟨fault, failed, naming⟩ := misnamed
  exact ⟨fault, bind_of_error failed, naming⟩

theorem Misnamed.bind (first : FailsWith Fault.IsNaming result)
    (rest : ∀ a, result = .ok a → Misnamed (next a)) : Misnamed (result >>= next) := by
  cases result with
  | error fault => exact ⟨fault, rfl, first fault rfl⟩
  | ok a => exact rest a rfl

theorem Misnamed.map (misnamed : Misnamed result) (shape : α → β) :
    Misnamed (result.map shape) := by
  obtain ⟨fault, rfl, naming⟩ := misnamed
  exact ⟨fault, rfl, naming⟩

end Outcome

open Outcome (FailsWith Misnamed failsWith_error failsWith_ok)

namespace Identifier

def spelled (value : Value) : String := Text.trim (value.text?.getD "")

theorem ensure_eq_spelled {value : Value} {what name : String}
    (ensured : ensure value what = .ok name) : name = spelled value := by
  unfold ensure at ensured
  simp only at ensured
  split at ensured
  · cases ensured
  · split at ensured
    · exact (Except.ok.inj ensured).symm
    · cases ensured

theorem ensure_misnamed {value : Value} (wrong : ¬ IsSafe (spelled value)) (what : String) :
    Misnamed (ensure value what) := by
  cases ensured : ensure value what with
  | error fault => exact ⟨fault, rfl, ensure_failsWith value what fault ensured⟩
  | ok name =>
      rw [← ensure_eq_spelled ensured] at wrong
      exact absurd (ensure_isSafe ensured) wrong

theorem ensureRelation_failsWith (value : Value) :
    FailsWith Fault.IsNaming (ensureRelation value) := by
  apply FailsWith.bind (ensure_failsWith value "relation")
  intro name
  split
  · exact failsWith_error (.inr rfl)
  · exact failsWith_ok _

end Identifier

namespace Columns

variable {item : Value} {items : List Value}

theorem ensureNames_misnamed (inside : item ∈ items) (wrong : ¬ IsSafe (Identifier.spelled item)) :
    Misnamed (ensureNames items) := by
  induction items with
  | nil => cases inside
  | cons first rest ih =>
      apply Misnamed.bind (Identifier.ensure_failsWith first "column")
      intro name ensured
      rcases List.mem_cons.1 inside with rfl | later
      · obtain ⟨fault, failed, _⟩ := Identifier.ensure_misnamed wrong "column"
        cases failed.symm.trans ensured
      · exact (ih later).first

theorem ofItems_misnamed (inside : item ∈ items) (apart : item ≠ .text "*")
    (wrong : ¬ IsSafe (Identifier.spelled item)) (relation : String) :
    Misnamed (ofItems relation items) := by
  unfold ofItems
  split
  · exact ⟨_, rfl, .inr rfl⟩
  split
  · rename_i starred
    split
    · exact ⟨_, rfl, .inr rfl⟩
    · rename_i few
      obtain ⟨star, there, isStar⟩ := List.any_eq_true.1 starred
      have alone : star = item := by
        cases items with
        | nil => cases inside
        | cons first rest =>
            have none : rest = [] := by
              apply List.eq_nil_of_length_eq_zero
              rw [List.length_cons] at few
              omega
            subst none
            rw [List.mem_singleton.1 there, List.mem_singleton.1 inside]
      subst alone
      cases star with
      | text s =>
          have same : s = "*" := beq_iff_eq.1 isStar
          exact absurd (congrArg Value.text same) apart
      | _ => cases isStar
  · exact (ensureNames_misnamed inside wrong).first

end Columns

namespace Relation

/-- Why resolving a relation can fail of itself: for a wrong name, or because there is no relation
that can be attached. -/
abbrev Unresolved (fault : Fault) : Prop := fault.IsNaming ∨ fault.IsRelational

theorem unresolved_of_isRefusal {fault : Fault} (refusal : fault.IsRefusal) :
    Unresolved fault := by
  rcases refusal with naming | missing | unfit | unsupported
  · exact .inl naming
  · exact .inr ⟨_, missing, rfl⟩
  · exact .inr ⟨_, unfit, rfl⟩
  · exact .inr ⟨_, unsupported, rfl⟩

theorem resolve_unresolved {schema : Schema} (matchers : List Matcher) (root : Handle)
    (name : String) :
    FailsWith (fun fault => Unresolved fault ∨ Misfires schema root name fault)
      (resolve schema matchers root name) :=
  (resolve_refused matchers root name).mono
    (fun _ failed => failed.imp_left unresolved_of_isRefusal)

end Relation

/-- A relation that is asked for by a wrong name, with a wrong name among its columns, or that has a
wrong name itself. -/
inductive Attachment.Misnames (setup : QuerySetup) (asked : Attachment) : Prop where
  | relation (wrong : ¬ IsSafe (Identifier.spelled asked.name))
  | column {items : List Value} {item : Value} (counts : asked.mode ≠ .count)
      (listed : Columns.askedItems asked.columns = .ok items) (inside : item ∈ items)
      (apart : item ≠ .text "*") (wrong : ¬ IsSafe (Identifier.spelled item))
  | resolved {given : String} {wanted : Columns} {fault : Fault}
      (named : Identifier.ensureRelation asked.name = .ok given)
      (columns : requestedColumns asked.mode asked.columns given = .ok wanted)
      (failed : setup.resolve given = .error fault)
      (naming : fault.IsNaming)

inductive Call.Misnames (setup : QuerySetup) : Call → Prop where
  | attach {asked : Attachment} (wrong : asked.Misnames setup) :
      Misnames setup (.attach asked.mode asked.name asked.columns)
  | filter {column operator value : Value} (wrong : ¬ IsSafe (Identifier.spelled column)) :
      Misnames setup (.filter column operator value)
  | orderBy {column direction : Value} (wrong : ¬ IsSafe (Identifier.spelled column)) :
      Misnames setup (.orderBy column direction)

namespace Query

variable {query : Query}

theorem edit_misnamed_first {check : Outcome α} {next : α → Edit β} (misnamed : Misnamed check) :
    Misnamed ((liftM check >>= next : Edit β) query).1 := by
  obtain ⟨fault, failed, naming⟩ := misnamed
  rw [Edit.bind_of_error (Edit.lift_apply failed query)]
  exact ⟨fault, rfl, naming⟩

theorem edit_misnamed {check : Outcome α} {next : α → Edit β}
    (first : FailsWith Fault.IsNaming check)
    (rest : ∀ a, check = .ok a → Misnamed (next a query).1) :
    Misnamed ((liftM check >>= next : Edit β) query).1 := by
  cases checked : check with
  | error fault => exact edit_misnamed_first ⟨fault, rfl, first fault checked⟩
  | ok a =>
      rw [Edit.bind_of_ok (Edit.lift_apply rfl query)]
      exact rest a checked

theorem tolerateIf_misnamed {present : Bool} {strict : Value} {relation : String}
    {next : Unit → Edit α} (rest : ∀ warnings, Misnamed (next () (query.noting warnings)).1) :
    Misnamed ((tolerateIf present strict (.wildcard relation) >>= next : Edit α) query).1 := by
  by_cases refused : present = true ∧ strict.isTruthy = true
  · have failed := tolerateIf_refused (.wildcard relation) query refused.1 refused.2
    rw [Edit.bind_of_error failed]
    exact ⟨_, rfl, .inr rfl⟩
  · have lenient : present = true → strict.isTruthy = false :=
      fun there => Bool.eq_false_iff.2 (fun isStrict => refused ⟨there, isStrict⟩)
    rw [Edit.bind_of_ok (tolerateIf_noted (.wildcard relation) query lenient)]
    exact rest _

theorem requestedColumns_misnamed {mode : RequestMode} {columns item : Value} {items : List Value}
    (counts : mode ≠ .count) (listed : Columns.askedItems columns = .ok items)
    (inside : item ∈ items) (apart : item ≠ .text "*")
    (wrong : ¬ IsSafe (Identifier.spelled item)) (name : String) :
    Misnamed (requestedColumns mode columns name) := by
  have ensured : Misnamed (Columns.ensure columns name) := by
    unfold Columns.ensure
    rw [Outcome.bind_of_ok listed]
    exact Columns.ofItems_misnamed inside apart wrong name
  cases mode with
  | count => exact absurd rfl counts
  | single => exact ensured
  | collection => exact ensured

theorem register_misnamed {asked : Attachment} (misnames : asked.Misnames query.setup)
    (faithful : query.Faithful) :
    Misnamed (register asked.mode asked.name asked.columns query).1 := by
  unfold register
  apply edit_misnamed (Identifier.ensureRelation_failsWith asked.name)
  intro given named
  cases misnames with
  | relation wrong =>
      obtain ⟨fault, failed, _⟩ := (Identifier.ensure_misnamed wrong "relation").first
      cases failed.symm.trans named
  | column counts listed inside apart wrong =>
      exact edit_misnamed_first
        (requestedColumns_misnamed counts listed inside apart wrong given)
  | @resolved same wanted fault alsoNamed columns failed naming =>
      cases named.symm.trans alsoNamed
      have got : (get : Edit Query) query = (.ok query, query) := rfl
      rw [Edit.bind_of_ok (Edit.lift_apply columns query), Edit.bind_of_ok got]
      apply tolerateIf_misnamed
      intro warnings
      have unknown : (query.noting warnings).relationNamed given = .error fault :=
        (faithful.relationNamed_eq given).trans failed
      rw [Edit.bind_of_error (resolve_of_not_named unknown)]
      exact ⟨fault, rfl, naming⟩

theorem filter_misnamed {column operator value : Value}
    (wrong : ¬ IsSafe (Identifier.spelled column)) :
    Misnamed (filter column operator value query).1 := by
  have made : Misnamed (Filter.make column operator value) :=
    (Identifier.ensure_misnamed wrong "column").first
  unfold filter
  exact edit_misnamed_first made

theorem orderBy_misnamed {column direction : Value}
    (wrong : ¬ IsSafe (Identifier.spelled column)) :
    Misnamed (orderBy column direction query).1 := by
  have made : Misnamed (OrderTerm.make column direction) :=
    (Identifier.ensure_misnamed wrong "column").first
  unfold orderBy
  exact edit_misnamed_first made

theorem answer_misnamed {change : Edit Unit} (misnamed : Misnamed (change query).1) (world : σ) :
    Misnamed ((edit change >>= fun _ => pure Answer.done : Work σ Answer) query world).1.1 := by
  have changed : change query = ((change query).1, (change query).2) := rfl
  rw [answered_of_edit changed world]
  exact misnamed.map _

end Query

namespace Call

variable {setup : QuerySetup} {call : Call}

theorem Misnames.registers (misnames : call.Misnames setup) : call.registers = true := by
  cases misnames with
  | attach => rfl
  | filter => rfl
  | orderBy => rfl

theorem Misnames.outcome {session : Session σ} (misnames : call.Misnames session.query.setup)
    (faithful : session.query.Faithful) (hydrators : HydratorSource) (link : Link σ) :
    Misnamed (session.outcome hydrators link call) := by
  unfold Session.outcome
  cases misnames with
  | attach wrong =>
      rw [answer]
      exact answer_misnamed (register_misnamed wrong faithful) session.world
  | filter wrong =>
      rw [answer]
      exact answer_misnamed (filter_misnamed wrong) session.world
  | orderBy wrong =>
      rw [answer]
      exact answer_misnamed (orderBy_misnamed wrong) session.world

end Call

theorem Leftover.of_misnames {query : Query} {call : Call} {warnings : List String}
    {memory : List (String × Relation)} (left : Leftover query call warnings memory)
    (misnames : call.Misnames query.setup) (faithful : query.Faithful) :
    memory = query.resolutions := by
  cases left with
  | nothing => rfl
  | wildcard => rfl
  | @resolved _ _ _ given _ _ named asked _ found =>
      cases misnames with
      | attach wrong =>
          cases wrong with
          | relation wrong =>
              obtain ⟨_, failed, _⟩ := (Identifier.ensure_misnamed wrong "relation").first
              cases failed.symm.trans named
          | column counts listed inside apart wrong =>
              obtain ⟨_, failed, _⟩ :=
                requestedColumns_misnamed counts listed inside apart wrong given
              cases failed.symm.trans asked
          | resolved alsoNamed columns failed =>
              cases named.symm.trans alsoNamed
              cases (failed.symm.trans (faithful.relationNamed_eq given).symm).trans found

theorem Session.misnamed (hydrators : HydratorSource) (link : Link σ) (session : Session σ)
    {call : Call} (misnames : call.Misnames session.query.setup)
    (faithful : session.query.Faithful) :
    let next := session.call hydrators link call
    Misnamed (session.outcome hydrators link call) ∧ next.world = session.world ∧
      ∃ warnings, next.query = session.query.noting warnings := by
  intro next
  obtain ⟨fault, failed, naming⟩ := misnames.outcome faithful hydrators link
  have step : Advance link session.query session.world call
      (session.outcome hydrators link call) next.query next.world := session.call_advance call
  rw [failed] at step
  refine ⟨⟨fault, failed, naming⟩, ?_⟩
  generalize next.query = later, next.world = after at step ⊢
  cases step with
  | refused warnings memory _ left =>
      rw [left.of_misnames misnames faithful]
      exact ⟨rfl, warnings, rfl⟩
  | read reads => cases reads.symm.trans misnames.registers

end NestedSelect
