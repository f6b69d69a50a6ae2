import NestedSelect.Connection.Facade
import NestedSelect.Proofs.Connection.Facade
import NestedSelect.Proofs.Query.Questions
import NestedSelect.Proofs.Query.Recording

/-!
Where it can come from that nothing is left.

This is the one fault with another name where it is awaited. No step of the library itself fails
with it but the reading of a count whose first row has no columns. All else that does is given from
outside: a link (`Link.RunsOut`), a hydrator of the caller's own or the attributes of instances
(`Query.HydratesOut`).
-/

namespace NestedSelect

variable {σ : Type}

/-- An outcome other than that nothing is left. -/
def Lasting {α : Type} (outcome : Outcome α) : Prop := outcome ≠ misused .noItem

namespace Lasting

variable {α β : Type}

theorem ok (a : α) : Lasting (.ok a) := fun impossible => nomatch impossible

theorem refused {fault : Fault} (other : fault ≠ .misuse .noItem) :
    Lasting (.error fault : Outcome α) := fun same => other (Except.error.inj same)

theorem misused {m : Misuse} (other : m ≠ .noItem) :
    Lasting (NestedSelect.misused m : Outcome α) :=
  refused (fun same => other (Fault.misuse.inj same))

theorem bind {outcome : Outcome α} {next : α → Outcome β} (lasts : Lasting outcome)
    (onward : ∀ a, Lasting (next a)) : Lasting (outcome >>= next) := by
  cases outcome with
  | ok a => exact onward a
  | error fault =>
      intro same
      cases same
      exact lasts rfl

end Lasting

def Exchange.Lasts {α : Type} (exchange : Exchange σ α) : Prop :=
  ∀ world, Lasting (exchange world).1

namespace Exchange.Lasts

variable {α β : Type} {exchange : Exchange σ α} {next : α → Exchange σ β}

theorem bind (lasts : exchange.Lasts) (onward : ∀ a, (next a).Lasts) :
    (exchange >>= next).Lasts := by
  intro world
  have first := lasts world
  cases done : exchange world with
  | mk outcome after =>
      rw [done] at first
      cases outcome with
      | ok a =>
          rw [Exchange.bind_of_ok done]
          exact onward a after
      | error fault =>
          rw [Exchange.bind_of_error done]
          exact .refused (fun none => first (congrArg Except.error none))

theorem lift {outcome : Outcome α} (lasts : Lasting outcome) :
    (liftM outcome : Exchange σ α).Lasts := by
  intro world
  cases outcome with
  | ok a => exact .ok a
  | error fault => exact lasts

end Exchange.Lasts

/-! ### Hydrating -/

/-- Attributes that can answer that nothing is left when they are given a value. -/
def Instrumentation.RunsOut (tools : Instrumentation) : Prop :=
  ∃ relationship value, tools.loaded relationship value = misused .noItem ∨
    tools.assigned relationship value = misused .noItem

theorem Instrumentation.ofLists_lasts : ¬ Instrumentation.ofLists.RunsOut := by
  rintro ⟨relationship, value, loads | assigns⟩
  · unfold ofLists at loads
    dsimp only at loads
    split at loads
    · refine (Lasting.bind ?_ fun _ => .ok _) loads
      unfold Value.itemsOrNone Value.items
      split
      · split
        all_goals first | exact .ok _ | exact .misused (by decide)
      · exact .ok _
    · cases loads
  · unfold ofLists at assigns
    dsimp only at assigns
    split at assigns <;> cases assigns

namespace Hydration

variable {schema : Schema}

theorem toInt_lasts (value : Value) : Lasting value.toInt := by
  unfold Value.toInt Value.wholePart
  split
  all_goals first
    | exact .ok _
    | exact .misused (by decide)
    | (split <;> first | exact .ok _ | exact .misused (by decide))

theorem asCount_lasts (raw : Value) : Lasting (asCount raw) := by
  unfold asCount
  split
  · exact .ok _
  · split
    · exact .ok _
    · exact .misused (by decide)
    · exact .ok _

theorem decodeJson_lasts (raw : Value) : Lasting (decodeJson raw) := by
  unfold decodeJson
  split
  · exact .ok _
  · split
    · exact .ok _
    · exact .misused (by decide)
  · exact .ok _

theorem genericRecord_lasts (requests : List Request) (row : Row) :
    Lasting (genericRecord requests row) := by
  induction requests generalizing row with
  | nil => exact .ok _
  | cons request rest ih =>
      unfold genericRecord
      split
      · exact ih row
      · refine .bind ?_ (fun _ => ih _)
        unfold decodeRelation
        split
        · exact asCount_lasts _
        · exact .bind (decodeJson_lasts _) (fun _ => .ok _)
        · refine .bind (decodeJson_lasts _) (fun decoded => ?_)
          split <;> exact .ok _

section

variable (lasts : ¬ schema.instrumentation.RunsOut)

include lasts

theorem store_lasts (model : Model) (attributes : Row) (name : String) (value : Value) :
    Lasting (store schema.instrumentation model attributes name value) := by
  unfold store
  split
  · exact .ok _
  · refine .bind ?_ (fun _ => .ok _)
    unfold held
    split
    · exact fun out => lasts ⟨_, _, .inr out⟩
    · exact .ok _

theorem storeAll_lasts (model : Model) (attributes row : Row) :
    Lasting (storeAll schema.instrumentation model attributes row) := by
  induction row generalizing attributes with
  | nil => exact .ok _
  | cons entry rest ih => exact .bind (store_lasts lasts model attributes _ _) (fun _ => ih _)

theorem build_lasts (handle : Handle) (values : Row) : Lasting (build schema handle values) := by
  unfold build
  split
  · exact .ok _
  · exact .bind (storeAll_lasts lasts _ _ _) (fun _ => .ok _)

theorem attach_lasts (name : String) (value built : Value) :
    Lasting (attach schema name value built) := by
  unfold attach
  split
  · refine .bind ?_ (fun _ => .ok _)
    unfold held
    split
    · exact fun out => lasts ⟨_, _, .inl out⟩
    · exact .ok _
  · exact .ok _
  · exact .ok _

theorem relatedValue_lasts (request : Request) (decoded : Value) :
    Lasting (relatedValue schema request decoded) := by
  have records (related : Handle) (items : List Value) :
      Lasting (buildRecords schema related items) := by
    induction items with
    | nil => exact .ok _
    | cons item rest ih =>
        cases item with
        | record entries => exact .bind (build_lasts lasts _ _) (fun _ => .bind ih (fun _ => .ok _))
        | _ => exact ih
  unfold relatedValue
  dsimp only
  split
  · exact build_lasts lasts _ _
  · exact .ok _
  · exact .bind (records _ _) (fun _ => .ok _)
  · exact .ok _

theorem entityOf_lasts (root : Handle) (requests : List Request) (row : Row) :
    Lasting (entityOf schema root requests row) := by
  have attaching (requests : List Request) (built : Value) :
      Lasting (attachRelations schema row requests built) := by
    induction requests generalizing built with
    | nil => exact .ok _
    | cons request rest ih =>
        unfold attachRelations
        dsimp only
        have attached (name : String) (value : Value) :
            Lasting (attach schema name value built >>= attachRelations schema row rest) :=
          .bind (attach_lasts lasts name value built) ih
        split
        · exact .bind (asCount_lasts _) (fun _ => attached _ _)
        · refine .bind (decodeJson_lasts _) (fun _ => ?_)
          exact .bind (relatedValue_lasts lasts _ _) (fun _ => attached _ _)
        · refine .bind (decodeJson_lasts _) (fun _ => ?_)
          exact .bind (relatedValue_lasts lasts _ _) (fun _ => attached _ _)
  exact .bind (build_lasts lasts _ _) (fun _ => attaching _ _)

theorem hydrate_lasts (form : Form) (requests : List Request) (root : Handle) (rows : List Row) :
    Lasting (hydrate schema form requests root rows) := by
  induction rows with
  | nil => exact .ok _
  | cons row rest ih =>
      refine .bind ?_ (fun _ => .bind ih (fun _ => .ok _))
      cases form with
      | generic => exact .bind (genericRecord_lasts _ _) (fun _ => .ok _)
      | entity => exact entityOf_lasts lasts _ _ _

end

end Hydration

theorem HydratorRegistry.resolve_lasts (registry : HydratorRegistry) (modules : ModuleTable)
    (handle : HydratorHandle) : Lasting (registry.resolve modules handle) := by
  have instantiated (c : HydratorClass) : Lasting c.instantiate := by
    unfold HydratorClass.instantiate
    split
    · exact .misused (by decide)
    · exact .ok _
  have resolved (c : HydratorClass) (label : String) : Lasting (resolveClass c label) := by
    refine .bind ?_ (fun made => .bind (instantiated _) (fun made => ?_))
    · unfold HydratorClass.ensureConforming
      split
      · exact .ok _
      · exact .refused nofun
    · split
      · exact .ok _
      · exact .refused nofun
  have imported (path : String) : Lasting (importPath modules path) := by
    unfold importPath
    dsimp only
    split
    · exact .refused nofun
    split
    · exact .misused (by decide)
    split
    · exact .refused nofun
    split
    · exact .refused nofun
    · exact .ok _
  unfold resolve
  split
  · split
    · exact .bind (instantiated _) (fun _ => .ok _)
    · refine .bind (imported _) (fun found => ?_)
      split
      · exact resolved _ _
      · exact .refused nofun
  · refine .bind ?_ (fun _ => .refused nofun)
    unfold Value.displayed
    split
    · exact .ok _
    · exact .misused (by decide)
  · exact resolved _ _
  · split
    · exact .ok _
    · exact .refused nofun

/-- A query whose rows can be answered with that nothing is left: by a hydrator of the caller's own,
or by the attributes of instances. -/
inductive Query.HydratesOut (hydrators : HydratorSource) (query : Query)
    (handle : HydratorHandle) : Prop where
  | own {made : HydratorRegistry.Resolved}
      {answer : List Row → List Request → Handle → Outcome (List Value)} {rows : List Row}
      {requests : List Request}
      (chosen : hydrators.registry.resolve hydrators.modules (query.chosenHydrator handle) =
        .ok made)
      (custom : made.hydrator.member = .custom answer)
      (out : answer rows requests query.setup.root = misused .noItem)
  | attributes (out : query.setup.schema.instrumentation.RunsOut)

theorem Query.HydratesOut.of_answers {hydrators : HydratorSource} {query : Query}
    {handle : HydratorHandle} {rows : List Row}
    (out : query.answers hydrators handle rows = misused .noItem) :
    query.HydratesOut hydrators handle := by
  by_cases tools : query.setup.schema.instrumentation.RunsOut
  · exact .attributes tools
  unfold answers at out
  cases chosen : hydrators.registry.resolve hydrators.modules (query.chosenHydrator handle) with
  | error fault =>
      rw [Outcome.bind_of_error chosen] at out
      cases out
      exact absurd chosen (HydratorRegistry.resolve_lasts _ _ _)
  | ok made =>
      rw [Outcome.bind_of_ok chosen, Hydration.answer] at out
      split at out
      · exact absurd out (Hydration.hydrate_lasts tools _ _ _ _)
      · rename_i answer custom
        exact .own chosen custom out
      · cases out
      · cases out

/-! ### Links -/

/-- A link that can answer that nothing is left: to a statement, or to a question. -/
inductive Link.RunsOut (link : Link σ) : Prop where
  | executing {executor : Executor σ} (there : link.executor? = some executor) {text : String}
      {values : List Value} {world : σ}
      (out : (executor.execute text values world).1 = misused .noItem)
  | asking {introspector : Introspector σ} (there : link.introspector? = some introspector)
      {table : String} {world : σ}
      (out : (ask false (introspector.columnsOf table) world).1 = misused .noItem)
  | askingMany {introspector : Introspector σ} (there : link.introspector? = some introspector)
      {tables : List String} {world : σ}
      (out : (ask false (introspector.columnsOfMany tables) world).1 = misused .noItem)

theorem Link.RunsOut.of_questioned {link : Link σ} (out : (Questioned.link link).RunsOut) :
    link.RunsOut := by
  cases out with
  | executing there out =>
      obtain ⟨executor, inner, rfl⟩ := Option.map_eq_some_iff.1 there
      exact .executing inner out
  | asking there out =>
      obtain ⟨introspector, inner, rfl⟩ := Option.map_eq_some_iff.1 there
      simp only [Questioned.introspector, Questioned.ask_noting] at out
      exact .asking inner out
  | askingMany there out =>
      obtain ⟨introspector, inner, rfl⟩ := Option.map_eq_some_iff.1 there
      simp only [Questioned.introspector, Questioned.ask_noting] at out
      exact .askingMany inner out

theorem Link.RunsOut.of_recorded {link : Link σ} (out : (Recorded.link link).RunsOut) :
    link.RunsOut := by
  cases out with
  | executing there out =>
      obtain ⟨executor, inner, rfl⟩ := Option.map_eq_some_iff.1 there
      exact .executing inner out
  | asking there out =>
      obtain ⟨introspector, inner, rfl⟩ := Option.map_eq_some_iff.1 there
      simp only [Recorded.introspector, Recorded.ask_question] at out
      exact .asking inner out
  | askingMany there out =>
      obtain ⟨introspector, inner, rfl⟩ := Option.map_eq_some_iff.1 there
      simp only [Recorded.introspector, Recorded.ask_question] at out
      exact .askingMany inner out

end NestedSelect
