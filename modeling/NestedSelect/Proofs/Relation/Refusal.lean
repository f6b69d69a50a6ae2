import NestedSelect.Proofs.Relation.Resolver

/-!
What resolving a relation can end with.

It gives a well-formed relation, or it fails with a fault of one of four classes, unless what is
found under the name is called and the call fails. What a call would give is left open here, so that
a result that is the same for all calls is one that no call was made for.
-/

namespace NestedSelect

variable {α β : Type}

namespace Fault

def IsNaming (fault : Fault) : Prop :=
  fault.kind? = some .unsafeIdentifier ∨ fault.kind? = some .invalidRequest

def IsRefusal (fault : Fault) : Prop :=
  fault.IsNaming ∨ fault.kind? = some .relationNotFound ∨
    fault.kind? = some .invalidRelationAccessor ∨ fault.kind? = some .unsupportedRelationKind

end Fault

namespace Outcome

/-- If there is no result, the reason is an allowed one. -/
def FailsWith (allowed : Fault → Prop) (result : Outcome α) : Prop :=
  ∀ fault, result = .error fault → allowed fault

variable {allowed wider : Fault → Prop} {result : Outcome α} {next : α → Outcome β}

theorem failsWith_ok (a : α) : FailsWith allowed (.ok a : Outcome α) := by
  intro fault impossible
  cases impossible

theorem failsWith_error {fault : Fault} (reason : allowed fault) :
    FailsWith allowed (.error fault : Outcome α) := by
  intro other same
  cases same
  exact reason

theorem FailsWith.mono (fails : FailsWith allowed result)
    (weaken : ∀ fault, allowed fault → wider fault) : FailsWith wider result :=
  fun fault failed => weaken fault (fails fault failed)

theorem FailsWith.bind (first : FailsWith allowed result)
    (rest : ∀ a, FailsWith allowed (next a)) : FailsWith allowed (result >>= next) := by
  cases result with
  | error fault => exact failsWith_error (first fault rfl)
  | ok a => exact rest a

end Outcome

open Outcome (FailsWith failsWith_error failsWith_ok)

theorem Identifier.ensure_failsWith (value : Value) (what : String) :
    FailsWith Fault.IsNaming (Identifier.ensure value what) := by
  unfold ensure
  simp only
  split
  · exact failsWith_error (.inr rfl)
  · split
    · exact failsWith_ok _
    · exact failsWith_error (.inl rfl)

/-- What is called for a descriptor: whatever a call without arguments fits, and whatever does not
show its parameters. -/
def Accessor.IsInvoked : Accessor → Prop
  | described _ | constant => False
  | callable none _ => True
  | callable (some parameters) _ => Parameter.admitCall parameters 0 [] = true

namespace Relation

variable {schema : Schema}

/-! ### Classes of failures -/

theorem ensure_refused (name what : String) :
    FailsWith Fault.IsRefusal (Identifier.ensure (.text name) what) :=
  (Identifier.ensure_failsWith _ what).mono (fun _ naming => .inl naming)

theorem tableName_refused (handle : Handle) :
    FailsWith Fault.IsRefusal (handle.tableName schema) := by
  unfold Handle.tableName
  split
  · exact failsWith_ok _
  · split
    · unfold Model.tableName
      split
      · exact failsWith_ok _
      · exact failsWith_error (.inl (.inr rfl))
    · exact failsWith_error (.inl (.inr rfl))
  · exact failsWith_error (.inl (.inr rfl))

theorem ensured_refused (first second : String) (shape : String → String → Relation) :
    FailsWith Fault.IsRefusal (do
      let foreign ← Identifier.ensure (.text first)
      let key ← Identifier.ensure (.text second)
      .ok (shape foreign key)) := by
  apply FailsWith.bind (ensure_refused first _)
  intro foreign
  apply FailsWith.bind (ensure_refused second _)
  intro key
  exact failsWith_ok _

theorem target_refused (target : Handle) (key : String)
    {next : String → String → Outcome Relation}
    (rest : ∀ table primary, FailsWith Fault.IsRefusal (next table primary)) :
    FailsWith Fault.IsRefusal (do
      let table ← Identifier.ensure (.text (← target.tableName schema)) "table"
      let primary ← Identifier.ensure (.text key)
      next table primary) := by
  apply FailsWith.bind (tableName_refused target)
  intro full
  apply FailsWith.bind (ensure_refused full _)
  intro table
  apply FailsWith.bind (ensure_refused key _)
  intro primary
  exact rest table primary

theorem ofPair_refused (relationship : Relationship) (kind : RelationKind)
    (ownColumn otherColumn : String) :
    FailsWith Fault.IsRefusal (ofPair schema relationship kind ownColumn otherColumn) := by
  apply target_refused
  intro table primaryKey
  cases kind with
  | belongsToOne => exact ensured_refused _ _ _
  | hasOne => exact ensured_refused _ _ _
  | hasMany => exact ensured_refused _ _ _

theorem ofRelationship_refused (matchers : List Matcher) (owner : String)
    (relationship : Relationship) :
    FailsWith Fault.IsRefusal (ofRelationship schema matchers owner relationship) := by
  unfold ofRelationship
  split
  · exact failsWith_error (.inr (.inr (.inr rfl)))
  · split
    · exact failsWith_error (.inr (.inr (.inr rfl)))
    · split
      · exact ofPair_refused _ _ _ _
      · exact failsWith_error (.inr (.inr (.inr rfl)))

theorem ofDescriptor_refused (root : Handle) (name : String) (descriptor : Descriptor) :
    FailsWith Fault.IsRefusal (ofDescriptor schema root name descriptor) := by
  unfold ofDescriptor
  split
  · exact failsWith_error (.inr (.inr (.inr rfl)))
  · rename_i kind _
    apply target_refused
    intro table primaryKey
    cases kind with
    | belongsToOne => exact ensured_refused _ _ _
    | hasOne => exact ensured_refused _ _ _
    | hasMany => exact ensured_refused _ _ _

/-! ### Calls of accessors -/

section

variable {call other : Accessor → Outcome Called} {name owner : String} {accessor : Accessor}

theorem descriptorOf_of_isInvoked (invoked : accessor.IsInvoked) :
    descriptorOf call name owner accessor = call accessor >>= givenBy name owner := by
  rcases accessor with _ | ⟨_ | parameters, called⟩ | _
  · exact invoked.elim
  · rfl
  · have nothing : Parameter.requiredNames parameters = [] := by
      rwa [Accessor.IsInvoked, Parameter.admitCall_nothing, List.isEmpty_iff] at invoked
    unfold descriptorOf
    simp only [nothing]
  · exact invoked.elim

theorem descriptorOf_of_illegal {parameters : List Parameter} {called : Outcome Called}
    (illegal : Parameter.admitCall parameters 0 [] = false) :
    descriptorOf call name owner (.callable (some parameters) called) =
      .error (.accessorNeedsArguments name owner (Parameter.requiredNames parameters)) := by
  rw [Parameter.admitCall_nothing] at illegal
  unfold descriptorOf
  cases missing : Parameter.requiredNames parameters with
  | nil => rw [missing] at illegal; cases illegal
  | cons first rest => simp only [missing]

theorem descriptorOf_congr
    (agree : ∀ accessor, accessor.IsInvoked → other accessor = call accessor) :
    descriptorOf other name owner accessor = descriptorOf call name owner accessor := by
  by_cases invoked : accessor.IsInvoked
  · rw [descriptorOf_of_isInvoked invoked, descriptorOf_of_isInvoked invoked,
      agree accessor invoked]
  · rcases accessor with _ | ⟨_ | parameters, called⟩ | _
    · rfl
    · exact absurd trivial invoked
    · have illegal : Parameter.admitCall parameters 0 [] = false := Bool.eq_false_iff.2 invoked
      rw [descriptorOf_of_illegal illegal, descriptorOf_of_illegal illegal]
    · rfl

theorem givenBy_refused (called : Called) :
    FailsWith Fault.IsRefusal (givenBy name owner called) := by
  cases called with
  | descriptor => exact failsWith_ok _
  | other => exact failsWith_error (.inr (.inr (.inl rfl)))

theorem descriptorOf_refused (accessor : Accessor) :
    FailsWith (fun fault => fault.IsRefusal ∨ accessor.IsInvoked ∧ call accessor = .error fault)
      (descriptorOf call name owner accessor) := by
  by_cases invoked : accessor.IsInvoked
  · rw [descriptorOf_of_isInvoked invoked]
    cases answered : call accessor with
    | error fault => exact failsWith_error (.inr ⟨invoked, rfl⟩)
    | ok called => exact (givenBy_refused called).mono (fun _ refusal => .inl refusal)
  · rcases accessor with _ | ⟨_ | parameters, called⟩ | _
    · exact failsWith_ok _
    · exact absurd trivial invoked
    · rw [descriptorOf_of_illegal (Bool.eq_false_iff.2 invoked)]
      exact failsWith_error (.inl (.inr (.inr (.inl rfl))))
    · exact failsWith_error (.inl (.inr (.inr (.inl rfl))))

end

/-- What is found under a name is called, and the call fails. -/
def Misfires (schema : Schema) (root : Handle) (name : String) (fault : Fault) : Prop :=
  relationship? schema root name = none ∧
    ∃ accessor, attribute? schema root name = some accessor ∧ accessor.IsInvoked ∧
      accessor.call = .error fault

variable {root : Handle} {name : String} {matchers : List Matcher}

theorem resolve_refused (matchers : List Matcher) (root : Handle) (name : String) :
    FailsWith (fun fault => fault.IsRefusal ∨ Misfires schema root name fault)
      (resolve schema matchers root name) := by
  unfold resolve resolveBy
  split
  · exact (ofRelationship_refused _ _ _).mono (fun _ refusal => .inl refusal)
  · rename_i unrelated
    have described : FailsWith (fun fault => fault.IsRefusal ∨ Misfires schema root name fault)
        (describe Accessor.call schema root name) := by
      unfold describe
      split
      · exact failsWith_error (.inl (.inr (.inl rfl)))
      · rename_i accessor found
        refine (descriptorOf_refused accessor).mono ?_
        rintro fault (refusal | ⟨invoked, failed⟩)
        · exact .inl refusal
        · exact .inr ⟨unrelated, accessor, found, invoked, failed⟩
    apply FailsWith.bind described
    intro descriptor
    exact (ofDescriptor_refused _ _ _).mono (fun _ refusal => .inl refusal)

theorem Misfires.resolve_eq {fault : Fault} (misfires : Misfires schema root name fault) :
    resolve schema matchers root name = .error fault := by
  obtain ⟨unrelated, accessor, found, invoked, failed⟩ := misfires
  have described : describe Accessor.call schema root name = .error fault := by
    unfold describe
    simp only [found]
    rw [descriptorOf_of_isInvoked invoked]
    exact Outcome.bind_of_error failed
  unfold resolve resolveBy
  simp only [unrelated]
  exact Outcome.bind_of_error described

theorem resolveBy_congr {call other : Accessor → Outcome Called}
    (agree : ∀ accessor, accessor.IsInvoked → other accessor = call accessor)
    (matchers : List Matcher) (root : Handle) (name : String) :
    resolveBy other schema matchers root name = resolveBy call schema matchers root name := by
  have alike : describe other schema root name = describe call schema root name := by
    unfold describe
    simp only [descriptorOf_congr agree]
  unfold resolveBy
  simp only [alike]

/-! ### Relations to bare tables -/

variable {relation : Relation}

theorem ofPair_model? {relationship : Relationship} {kind : RelationKind}
    {ownColumn otherColumn : String}
    (done : ofPair schema relationship kind ownColumn otherColumn = .ok relation) :
    relation.model? = some relationship.target := by
  obtain ⟨full, _, done⟩ := Outcome.bind_eq_ok done
  obtain ⟨table, _, done⟩ := Outcome.bind_eq_ok done
  obtain ⟨primary, _, done⟩ := Outcome.bind_eq_ok done
  cases kind with
  | belongsToOne | hasOne | hasMany =>
      obtain ⟨foreign, key, _, _, rfl⟩ := ensured_keys done
      rfl

theorem ofRelationship_model? {owner : String} {relationship : Relationship}
    (done : ofRelationship schema matchers owner relationship = .ok relation) :
    relation.model? = some relationship.target := by
  unfold ofRelationship at done
  split at done
  · cases done
  · split at done
    · cases done
    · split at done
      · exact ofPair_model? done
      · cases done

theorem ofDescriptor_model? {descriptor : Descriptor}
    (done : ofDescriptor schema root name descriptor = .ok relation) :
    relation.model? = descriptor.related.model? ∧ descriptor.related ≠ .nothing := by
  unfold ofDescriptor at done
  split at done
  · cases done
  · rename_i kind _
    obtain ⟨full, named, done⟩ := Outcome.bind_eq_ok done
    obtain ⟨table, _, done⟩ := Outcome.bind_eq_ok done
    obtain ⟨primary, _, done⟩ := Outcome.bind_eq_ok done
    constructor
    · cases kind with
      | belongsToOne | hasOne | hasMany =>
          obtain ⟨foreign, key, _, _, rfl⟩ := ensured_keys done
          rfl
    · intro nowhere
      rw [nowhere] at named
      cases named

theorem model?_eq_none_iff_table (done : resolve schema matchers root name = .ok relation) :
    relation.model? = none ↔
      ∃ descriptor table, Describes schema root name descriptor ∧
        descriptor.related = .table table := by
  rcases resolve_cases done with ⟨_, _, relates, made⟩ | ⟨descriptor, describes, made⟩
  · -- A relationship leads to a model, and it hides every descriptor.
    rw [ofRelationship_model? made]
    refine iff_of_false (Option.some_ne_none _) ?_
    rintro ⟨_, _, describes, _⟩
    exact describes.unrelated relates
  · obtain ⟨leads, somewhere⟩ := ofDescriptor_model? made
    rw [leads]
    constructor
    · intro unmodelled
      cases related : descriptor.related with
      | model => rw [related] at unmodelled; cases unmodelled
      | table table => exact ⟨descriptor, table, describes, related⟩
      | nothing => exact absurd related somewhere
    · rintro ⟨other, table, also, related⟩
      rw [← describes.unique also, related]
      rfl

/-! ### Accessors that need arguments -/

theorem attribute?_of_relates {relationship : Relationship}
    (relates : Relates schema root name relationship) :
    attribute? schema root name = some .constant := by
  obtain ⟨model, mapped, related⟩ := Option.bind_eq_some_iff.1 relates
  cases root with
  | table | nothing => cases mapped
  | model modelName =>
      obtain ⟨known, isMapped⟩ := Option.filter_eq_some_iff.1 mapped
      have taken : model.isMappedAttribute name = true := by
        rw [Model.isMappedAttribute, isMapped, Bool.true_and, Bool.or_eq_true]
        have listed : relationship ∈ model.relationships := List.mem_of_find?_eq_some related
        have same : (relationship.name == name) = true := beq_iff_eq.2 relates.name_eq
        exact .inr (List.any_eq_true.2 ⟨relationship, listed, same⟩)
      unfold attribute?
      simp only [known]
      exact if_pos taken

theorem resolveBy_of_illegal {call : Accessor → Outcome Called} {parameters : List Parameter}
    {called : Outcome Called}
    (found : attribute? schema root name = some (.callable (some parameters) called))
    (illegal : Parameter.admitCall parameters 0 [] = false) :
    resolveBy call schema matchers root name =
      .error (.accessorNeedsArguments name root.owner (Parameter.requiredNames parameters)) := by
  have described : describe call schema root name =
      .error (.accessorNeedsArguments name root.owner (Parameter.requiredNames parameters)) := by
    unfold describe
    simp only [found]
    exact descriptorOf_of_illegal illegal
  unfold resolveBy
  split
  · rename_i relates
    cases found.symm.trans (attribute?_of_relates relates)
  · exact Outcome.bind_of_error described

/-- Resolving a name of any root, with any matchers. A result is a well-formed relation, and it has
no model exactly if it comes from a descriptor that names a bare table. Without a result, the name
is unknown or wrong, what is under it is no accessor, or its kind is not supported, or else what is
under it was called and the call failed, and every call that fails comes out as it is. What calls
would give makes no difference for what is not called; so it is for an accessor that shows
parameters which a call without arguments does not fit, and with one of those under the name there
is no relation, since it is no fit accessor. -/
theorem resolve_classified (schema : Schema) (matchers : List Matcher) (root : Handle)
    (name : String) :
    (∀ relation, resolve schema matchers root name = .ok relation →
      WellFormed name relation ∧
        (relation.model? = none ↔
          ∃ descriptor table, Describes schema root name descriptor ∧
            descriptor.related = .table table)) ∧
    (∀ fault, resolve schema matchers root name = .error fault →
      (∃ kind, fault.kind? = some kind ∧
        (kind = .relationNotFound ∨ kind = .invalidRelationAccessor ∨
          kind = .unsupportedRelationKind ∨ kind.isA .invalidRequest = true)) ∨
      Misfires schema root name fault) ∧
    (∀ fault, Misfires schema root name fault →
      resolve schema matchers root name = .error fault) ∧
    (∀ call : Accessor → Outcome Called,
      (∀ accessor, accessor.IsInvoked → call accessor = accessor.call) →
        resolveBy call schema matchers root name = resolve schema matchers root name) ∧
    ∀ parameters called,
      attribute? schema root name = some (.callable (some parameters) called) →
      Parameter.admitCall parameters 0 [] = false →
        ∀ call, ∃ fault, resolveBy call schema matchers root name = .error fault ∧
          fault.kind? = some .invalidRelationAccessor ∧
          fault = .accessorNeedsArguments name root.owner (Parameter.requiredNames parameters) := by
  refine ⟨fun relation done => ⟨resolve_wellFormed done, model?_eq_none_iff_table done⟩, ?_, ?_,
    ?_, ?_⟩
  · intro fault failed
    rcases resolve_refused matchers root name fault failed with
      ((unsafe_ | invalid) | missing | unfit | unsupported) | misfires
    · exact .inl ⟨_, unsafe_, .inr (.inr (.inr rfl))⟩
    · exact .inl ⟨_, invalid, .inr (.inr (.inr rfl))⟩
    · exact .inl ⟨_, missing, .inl rfl⟩
    · exact .inl ⟨_, unfit, .inr (.inl rfl)⟩
    · exact .inl ⟨_, unsupported, .inr (.inr (.inl rfl))⟩
    · exact .inr misfires
  · intro fault misfires
    exact misfires.resolve_eq
  · intro call agree
    exact resolveBy_congr agree matchers root name
  · intro parameters called found illegal call
    exact ⟨_, resolveBy_of_illegal found illegal, rfl, rfl⟩

/-- The methods of a text that do not show their parameters are called, whether or not they need
arguments, and then fail as any call does. -/
theorem resolve_not_classified :
    ∃ fault, resolve ⟨[], .ofLists⟩ Matcher.structural (.table "partners") "count" = .error fault ∧
      fault.kind? = none ∧ fault.name? = some "TypeError" :=
  ⟨.misuse .wrongType, rfl, rfl, rfl⟩

end Relation

end NestedSelect
