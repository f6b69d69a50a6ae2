import NestedSelect.Proofs.Text.Spelling
import NestedSelect.Workspace.Desk

/-!
What becomes of a registered hydrator.

An action changes the registry by what it registers and by nothing else (`hydrators_step`), so after
any actions the registry holds what was registered last under each key (`hydrators_after`). A class
that was accepted is found again under every spelling of its name; it may still be without a way to
hydrate, if it derives from the base class.
-/

namespace NestedSelect

variable {σ : Type}

namespace HydratorClass

def conforms (c : HydratorClass) : Bool := c.derives || c.canHydrate

theorem ensureConforming_eq (c : HydratorClass) (label : String) :
    c.ensureConforming label =
      if c.conforms = true then .ok c else .error (.hydratorWithoutHydrate label) := rfl

theorem instantiate_of_canHydrate {c : HydratorClass} (able : c.canHydrate = true) :
    c.instantiate = .ok c := by
  unfold canHydrate at able
  cases member : c.member with
  | answering form => simp [instantiate, isAbstract, member]
  | custom answer => simp [instantiate, isAbstract, member]
  | missing => simp [member] at able
  | uncallable => simp [member] at able

end HydratorClass

def Desk.Action.registered? : Desk.Action σ → Option (String × HydratorClass)
  | .registerHydrator name (.ofClass c) =>
      if c.conforms = true then some (HydratorRegistry.key name, c) else none
  | _ => none

def Desk.Report.HydratesAs (c : HydratorClass) (report : Desk.Report) : Prop :=
  ∃ made, report.outcome? = some (.ok (.hydrator made)) ∧ made.hydrator = c ∧
    made.hydrator.canHydrate = true

namespace Desk

def after (desk : Desk σ) (actions : List (Action σ)) : Desk σ :=
  actions.foldl (fun desk action => (desk.step action).2) desk

theorem hydrators_openQuery (desk : Desk σ) (id : String) (opening : Opening) (link : Link σ) :
    (desk.openQuery id opening link).2.hydrators = desk.hydrators := by
  unfold openQuery
  split
  · rfl
  · rfl

theorem hydrators_call (desk : Desk σ) (id : String) (call : Call) :
    (desk.call id call).2.hydrators = desk.hydrators := by
  unfold Desk.call
  split
  · rfl
  · rfl

theorem step_registerHydrator (desk : Desk σ) (name : String) (handle : HydratorHandle) :
    (∃ fault, fault.kind? = some .invalidHydrator ∧
        desk.step (.registerHydrator name handle) = (.plain (.error fault), desk) ∧
        (Action.registerHydrator (σ := σ) name handle).registered? = none) ∨
      ∃ c, handle = .ofClass c ∧ c.conforms = true ∧
        desk.step (.registerHydrator name handle) = (.plain (.ok .done),
          { desk with hydrators := Record.put (HydratorRegistry.key name) c desk.hydrators }) := by
  cases handle with
  | value v => exact .inl ⟨.hydratorNotClass name, rfl, rfl, rfl⟩
  | ofInstance c => exact .inl ⟨.hydratorNotClass name, rfl, rfl, rfl⟩
  | ofClass c =>
      by_cases conforms : c.conforms = true
      · refine .inr ⟨c, rfl, conforms, ?_⟩
        simp [step, HydratorRegistry.register, HydratorClass.ensureConforming_eq, conforms, bind,
          Except.bind]
      · refine .inl ⟨.hydratorWithoutHydrate name, rfl, ?_, ?_⟩
        · simp [step, HydratorRegistry.register, HydratorClass.ensureConforming_eq, conforms, bind,
            Except.bind]
        · simp [Action.registered?, conforms]

theorem hydrators_step (desk : Desk σ) (action : Action σ) :
    (desk.step action).2.hydrators = Record.merge desk.hydrators action.registered?.toList := by
  cases action with
  | configure config overrides =>
      simp only [step]
      split
      · rfl
      · rfl
  | showConfig => rfl
  | resetConfig => rfl
  | registerDialect name dialect aliases => rfl
  | showGenerator name baseAlias supported => rfl
  | registerHydrator name handle =>
      rcases desk.step_registerHydrator name handle with
        ⟨fault, _, stepped, none⟩ | ⟨c, rfl, conforms, stepped⟩
      · rw [stepped, none]
        rfl
      · rw [stepped, Action.registered?, if_pos conforms]
        rfl
  | resolveHydrator handle => rfl
  | openQuery id opening link => exact desk.hydrators_openQuery id opening link
  | call id call => exact desk.hydrators_call id call

theorem hydrators_after (desk : Desk σ) (actions : List (Action σ)) :
    (desk.after actions).hydrators =
      Record.merge desk.hydrators (actions.filterMap Action.registered?) := by
  induction actions generalizing desk with
  | nil => rfl
  | cons action rest ih =>
      have later := ih (desk.step action).2
      rw [hydrators_step] at later
      rw [List.filterMap_cons]
      cases registered : action.registered? with
      | none =>
          rw [registered] at later
          exact later
      | some entry =>
          rw [registered] at later
          exact later

theorem step_resolveHydrator {desk : Desk σ} {name asked : String} {c : HydratorClass}
    (there : Record.get? (HydratorRegistry.key name) desk.hydrators = some c)
    (respells : Text.Respells name asked) :
    (desk.step (.resolveHydrator (.value (.text asked)))).1.outcome? =
      some (c.instantiate.map (fun made => .hydrator ⟨made, false⟩)) := by
  have same : HydratorRegistry.key asked = HydratorRegistry.key name := respells.lower_trim
  have found : Record.get? (HydratorRegistry.key asked) desk.hydrators = some c := by
    rw [same, there]
  simp only [step, Report.plain, HydratorRegistry.resolve, found]
  cases c.instantiate with
  | ok made => rfl
  | error fault => rfl

/-- A class either is refused as an invalid hydrator, and the desk stays as it is; or, whatever is
done before another class is accepted under its key, every spelling of its name resolves to an
instance of it that can hydrate, exactly if the class can. Otherwise the class derives from the base
class, and it is instantiated unless it is abstract. -/
theorem registered_hydrator_usable_iff (desk : Desk σ) (name : String) (handle : HydratorHandle) :
    let answered := desk.step (.registerHydrator name handle)
    (∃ fault, fault.kind? = some .invalidHydrator ∧
        answered.1.outcome? = some (.error fault) ∧ answered.2 = desk) ∨
      ∃ c, handle = .ofClass c ∧ answered.1.outcome? = some (.ok .done) ∧
        ∀ actions : List (Action σ),
          (∀ other, (HydratorRegistry.key name, other) ∉ actions.filterMap Action.registered?) →
          ∀ asked, Text.Respells name asked →
            let resolved :=
              ((answered.2.after actions).step (.resolveHydrator (.value (.text asked)))).1
            (resolved.HydratesAs c ↔ c.canHydrate = true) ∧
              (c.canHydrate = false → c.derives = true ∧
                resolved.outcome? = some (if c.isAbstract = true then misused .wrongType
                  else .ok (.hydrator ⟨c, false⟩))) := by
  intro answered
  rcases desk.step_registerHydrator name handle with
    ⟨fault, kind, stepped, _⟩ | ⟨c, rfl, conforms, stepped⟩
  · left
    refine ⟨fault, kind, ?_, ?_⟩
    · rw [show answered = _ from stepped]
      rfl
    · rw [show answered = _ from stepped]
  · right
    refine ⟨c, rfl, ?_, ?_⟩
    · rw [show answered = _ from stepped]
      rfl
    intro actions others asked respells resolved
    have kept : Record.get? (HydratorRegistry.key name) (answered.2.after actions).hydrators =
        some c := by
      rw [hydrators_after, Record.get?_merge_of_notMem others,
        show answered = _ from stepped]
      exact Record.get?_put_self _ c desk.hydrators
    have outcome : resolved.outcome? =
        some (c.instantiate.map (fun made => .hydrator ⟨made, false⟩)) :=
      step_resolveHydrator kept respells
    constructor
    · constructor
      · rintro ⟨made, _, rfl, able⟩
        exact able
      · intro able
        refine ⟨⟨c, false⟩, ?_, rfl, able⟩
        rw [outcome, HydratorClass.instantiate_of_canHydrate able]
        rfl
    · -- The other way to conform is to derive from the base class, whatever the class itself says.
      intro unable
      have derives : c.derives = true := by
        simpa [HydratorClass.conforms, unable] using conforms
      refine ⟨derives, ?_⟩
      rw [outcome]
      unfold HydratorClass.instantiate
      split
      · rfl
      · rfl

theorem registered_hydrator_usable_ids :
    let ids : HydratorClass :=
      ⟨"Ids", "<class 'Ids'>", "<Ids>", false, .custom fun rows _ _ => .ok (rows.map .record)⟩
    let desk : Desk Unit := Desk.initial ⟨[], .ofLists⟩ [] ()
    let answered := desk.step (.registerHydrator " My Ids" (.ofClass ids))
    let actions : List (Action Unit) :=
      [.registerHydrator "ids" (.ofClass .generic), .registerHydrator "MY IDS" (.value .null)]
    (∀ other, (HydratorRegistry.key " My Ids", other) ∉ actions.filterMap Action.registered?) ∧
      Text.Respells " My Ids" " my IDS\t " ∧
      ((answered.2.after actions).step
        (.resolveHydrator (.value (.text " my IDS\t ")))).1.HydratesAs ids := by
  intro ids desk answered actions
  have others : ∀ other,
      (HydratorRegistry.key " My Ids", other) ∉ actions.filterMap Action.registered? := by
    intro other inside
    have named : HydratorRegistry.key " My Ids" ∈
        (actions.filterMap Action.registered?).map Prod.fst := List.mem_map_of_mem inside
    exact absurd named (by decide +kernel)
  have respells : Text.Respells " My Ids" " my IDS\t " :=
    ⟨" my IDS".toList, by decide +kernel, [], ['\t', ' '], nofun, by simp [Text.isBlank],
      by decide +kernel⟩
  refine ⟨others, respells, ?_⟩
  rcases registered_hydrator_usable_iff desk " My Ids" (.ofClass ids) with
    ⟨fault, _, refused, _⟩ | ⟨c, same, _, usable⟩
  · have accepted : answered.1.outcome? = some (.ok .done) := rfl
    cases accepted.symm.trans refused
  · obtain rfl : ids = c := HydratorHandle.ofClass.inj same
    exact (usable actions others _ respells).1.2 rfl

/-- A class that derives from the base class without saying how to hydrate is accepted, and cannot
be instantiated. -/
theorem registered_hydrator_abstract :
    let ids : HydratorClass :=
      ⟨"AbstractIds", "<class 'AbstractIds'>", "<AbstractIds>", true, .missing⟩
    let desk : Desk Unit := Desk.initial ⟨[], .ofLists⟩ [] ()
    let answered := desk.step (.registerHydrator "ids" (.ofClass ids))
    answered.1.outcome? = some (.ok .done) ∧
      (answered.2.step (.resolveHydrator (.value (.text "ids")))).1.outcome? =
        some (misused .wrongType) :=
  ⟨rfl, rfl⟩

end Desk

end NestedSelect
