import NestedSelect.Proofs.Query.Acceptance

/-!
What the warnings of a query tell of its calls.

An accepted call adds one warning for each thing about it that is tolerated. A refused one adds a
warning if it asks for a wildcard, which is noted before the relation is looked at, and nothing
otherwise (`warnings_run`). So the warnings are those of the accepted calls exactly if no refused
call asked for a wildcard.
-/

namespace NestedSelect

open Query

variable {σ : Type}

/-- The wildcard that is asked for, if the name is one of a relation and the columns are fit. -/
def Attachment.wildcard? (asked : Attachment) : Option Violation :=
  match Identifier.ensureRelation asked.name with
  | .error _ => none
  | .ok name =>
      match requestedColumns asked.mode asked.columns name with
      | .error _ => none
      | .ok columns => if columns.isWildcard = true then some (.wildcard name) else none

def Call.wildcard? (call : Call) : Option Violation := call.attachment?.bind Attachment.wildcard?

/-- What is wrong with a call but tolerated, when so many relations are attached already: a
wildcard, a relation more than the options allow, or a limit above the greatest one. -/
def Call.violations (config : Config) (attached : Nat) : Call → List Violation
  | .attach mode name columns =>
      (Attachment.wildcard? ⟨mode, name, columns⟩).toList ++
        if config.maxRelations.exceededBy (attached + 1 : Nat) = .ok true then
          [.tooManyRelations (Value.int (attached + 1 : Nat)).display config.maxRelations.display]
        else []
  | .limit (.int n) =>
      if config.maxLimit.exceededBy n = .ok true then
        [.limitAbove (Value.int n).display config.maxLimit.display]
      else []
  | _ => []

def softViolations (config : Config) (attached : Nat) : Call × Outcome Answer → List Violation
  | (call, .ok _) => call.violations config attached
  | (_, .error _) => []

def wastedWildcard? : Call × Outcome Answer → Option Violation
  | (_, .ok _) => none
  | (call, .error _) => call.wildcard?

def notedOf (config : Config) (attached : Nat) (entry : Call × Outcome Answer) : List Violation :=
  softViolations config attached entry ++ (wastedWildcard? entry).toList

/-- What is found in a history, entry by entry, where each is looked at with the number of relations
that were attached before it. -/
def found (each : Nat → Call × Outcome Answer → List Violation) :
    Nat → List (Call × Outcome Answer) → List Violation
  | _, [] => []
  | attached, entry :: rest =>
      each attached entry ++
        found each (attached + (accepted Call.attachment? [entry]).length) rest

section

variable {each other : Nat → Call × Outcome Answer → List Violation}

theorem found_append (each : Nat → Call × Outcome Answer → List Violation) (attached : Nat)
    (history more : List (Call × Outcome Answer)) :
    found each attached (history ++ more) =
      found each attached history ++
        found each (attached + (accepted Call.attachment? history).length) more := by
  induction history generalizing attached with
  | nil => rfl
  | cons entry rest ih =>
      have counted : (accepted Call.attachment? (entry :: rest)).length =
          (accepted Call.attachment? [entry]).length +
            (accepted Call.attachment? rest).length := by
        rw [← List.length_append, ← accepted_append]
        rfl
      rw [counted, ← Nat.add_assoc]
      simp only [List.cons_append, found, ih, List.append_assoc]

theorem found_congr {history : List (Call × Outcome Answer)} (attached : Nat)
    (same : ∀ entry ∈ history, ∀ n, each n entry = other n entry) :
    found each attached history = found other attached history := by
  induction history generalizing attached with
  | nil => rfl
  | cons entry rest ih =>
      have first := same entry List.mem_cons_self attached
      have later := ih (attached + (accepted Call.attachment? [entry]).length)
        (fun entry inside => same entry (List.mem_cons_of_mem _ inside))
      unfold found
      rw [first, later]

theorem length_found_notedOf (config : Config) (attached : Nat)
    (history : List (Call × Outcome Answer)) :
    (found (notedOf config) attached history).length =
      (found (softViolations config) attached history).length +
        (history.filterMap wastedWildcard?).length := by
  induction history generalizing attached with
  | nil => rfl
  | cons entry rest ih =>
      have later := ih (attached + (accepted Call.attachment? [entry]).length)
      simp only [found, notedOf, List.length_append, later, List.filterMap_cons]
      cases wastedWildcard? entry with
      | none =>
          simp only [Option.toList_none, List.length_nil]
          omega
      | some v =>
          simp only [Option.toList_some, List.length_cons, List.length_nil]
          omega

end

namespace Query

variable {query later : Query} {mode : RequestMode} {name columns : Value}

theorem notes_eq (present : Bool) (v : Violation) :
    notes present v = (if present = true then [v] else []).map Violation.message := by
  cases present with
  | false => rfl
  | true => rfl

theorem wildcard?_eq {given : String} {wanted : Columns}
    (named : Identifier.ensureRelation name = .ok given)
    (asked : requestedColumns mode columns given = .ok wanted) :
    notes wanted.isWildcard (.wildcard given) =
      (Attachment.wildcard? ⟨mode, name, columns⟩).toList.map Violation.message := by
  simp only [Attachment.wildcard?, named, asked]
  cases wanted.isWildcard with
  | false => rfl
  | true => rfl

theorem register_unasked {outcome : Outcome Unit}
    (unasked : ∀ given wanted, Identifier.ensureRelation name = .ok given →
      requestedColumns mode columns given ≠ .ok wanted)
    (done : register mode name columns query = (outcome, later)) :
    later = query ∧ Attachment.wildcard? ⟨mode, name, columns⟩ = none := by
  constructor
  · cases register_registers done with
    | refused => rfl
    | overruled _ named asked => exact absurd asked (unasked _ _ named)
    | resolved _ named asked => exact absurd asked (unasked _ _ named)
    | attached fit => exact absurd fit.asked (unasked _ _ fit.named)
  · unfold Attachment.wildcard?
    split
    · rfl
    · rename_i given named
      split
      · rfl
      · rename_i wanted asked
        exact absurd asked (unasked given wanted named)

theorem register_refused {fault : Fault} (lenient : query.setup.config.strictMode.isTruthy = false)
    (done : register mode name columns query = (.error fault, later)) :
    later.warnings = query.warnings ++
      (Attachment.wildcard? ⟨mode, name, columns⟩).toList.map Violation.message := by
  by_cases asks : ∃ given wanted, Identifier.ensureRelation name = .ok given ∧
      requestedColumns mode columns given = .ok wanted
  · obtain ⟨given, wanted, named, asked⟩ := asks
    have noted : tolerateIf wanted.isWildcard query.setup.config.strictMode (.wildcard given)
        query = (.ok (), query.noting (notes wanted.isWildcard (.wildcard given))) :=
      tolerateIf_noted _ query (fun _ => lenient)
    rw [← wildcard?_eq named asked]
    unfold register at done
    rw [Edit.bind_of_ok (Edit.lift_apply named query),
      Edit.bind_of_ok (Edit.lift_apply asked query)] at done
    replace done := (Edit.bind_of_ok noted).symm.trans (Edit.of_get done)
    -- The wildcard is noted from here on, and none of the checks that follow takes it back.
    rcases resolve_cases done with ⟨_, _, _, rfl⟩ | ⟨relation, _, done⟩
    · rfl
    rcases Edit.check_cases done with ⟨_, _, rfl⟩ | ⟨_, _, done⟩
    · rfl
    rcases Edit.check_cases (Edit.of_get done) with ⟨_, _, rfl⟩ | ⟨_, _, done⟩
    · rfl
    rcases tolerateAbove_cases done with ⟨_, _, rfl⟩ | ⟨_, done⟩
    · rfl
    · cases done
  · have unasked (given : String) (wanted : Columns)
        (named : Identifier.ensureRelation name = .ok given) :
        requestedColumns mode columns given ≠ .ok wanted :=
      fun asked => asks ⟨given, wanted, named, asked⟩
    obtain ⟨same, none⟩ := register_unasked unasked done
    rw [same, none]
    exact (List.append_nil _).symm

theorem exceeded_eq (compared : Outcome Bool) :
    compared.toOption.getD false = decide (compared = .ok true) := by
  cases compared with
  | error fault => rfl
  | ok exceeded => cases exceeded <;> rfl

theorem surplus_eq (greatest : Value) (n : Int) (violation : String → String → Violation) :
    surplus greatest n violation =
      (if greatest.exceededBy n = .ok true then
        [violation (Value.int n).display greatest.display]
      else []).map Violation.message := by
  unfold surplus
  rw [notes_eq, exceeded_eq]
  simp only [decide_eq_true_eq]

theorem remarks_eq {request : Request} (fit : Attachable query mode name columns request) :
    query.remarks request =
      (Call.violations query.setup.config query.relations.length
        (.attach mode name columns)).map Violation.message := by
  unfold remarks
  rw [wildcard?_eq fit.named fit.asked, surplus_eq, ← List.map_append]
  rfl

theorem excess_eq {value : Value} {n : Int} (admitted : query.Admits "Limit" value n) :
    query.excess n =
      (Call.violations query.setup.config query.relations.length (.limit value)).map
        Violation.message := by
  obtain ⟨rfl, _⟩ := ensureNonNegative_eq_ok admitted.whole
  exact surplus_eq _ _ _

/-- What a call that registers adds to the warnings: all that is tolerated of it, or its wildcard
if it is refused. -/
theorem answer_warnings {link : Link σ} {hydrators : HydratorSource} {call : Call}
    {outcome : Outcome Answer} {world after : σ}
    (lenient : query.setup.config.strictMode.isTruthy = false) (registers : call.registers = true)
    (done : answer hydrators link call query world = ((outcome, later), after)) :
    later.warnings = query.warnings ++
      (notedOf query.setup.config query.relations.length (call, outcome)).map
        Violation.message := by
  cases call with
  | attach mode name columns =>
      obtain ⟨rfl, result, changed, rfl⟩ := edit_answered done
      cases result with
      | error fault =>
          rw [register_refused lenient changed]
          simp [notedOf, softViolations, wastedWildcard?, Call.wildcard?, Call.attachment?,
            Except.map]
      | ok =>
          cases register_registers changed with
          | attached fit =>
              change query.warnings ++ query.remarks _ = _
              rw [remarks_eq fit]
              simp [notedOf, softViolations, wastedWildcard?, Except.map]
  | filter column operator value =>
      obtain ⟨rfl, result, changed, rfl⟩ := edit_answered done
      rcases filter_cases changed with ⟨fault, rfl, rfl⟩ | ⟨added, made, rfl, rfl⟩
      · exact (List.append_nil _).symm
      · exact (List.append_nil _).symm
  | orderBy column direction =>
      obtain ⟨rfl, result, changed, rfl⟩ := edit_answered done
      rcases orderBy_cases changed with ⟨fault, rfl, rfl⟩ | ⟨added, made, rfl, rfl⟩
      · exact (List.append_nil _).symm
      · exact (List.append_nil _).symm
  | limit value =>
      obtain ⟨rfl, result, changed, rfl⟩ := edit_answered done
      rcases limit_cases changed with ⟨fault, rfl, rfl⟩ | ⟨n, admitted, rfl, rfl⟩
      · exact (List.append_nil _).symm
      · change query.warnings ++ query.excess n = _
        rw [excess_eq admitted]
        simp [notedOf, softViolations, wastedWildcard?, Except.map]
  | offset value =>
      obtain ⟨rfl, result, changed, rfl⟩ := edit_answered done
      rcases offset_cases changed with ⟨fault, rfl, rfl⟩ | ⟨n, checked, rfl, rfl⟩
      · exact (List.append_nil _).symm
      · exact (List.append_nil _).symm
  | _ => cases registers

theorem refused_warned {link : Link σ} {hydrators : HydratorSource} {call : Call} {fault : Fault}
    {world after : σ} (lenient : query.setup.config.strictMode.isTruthy = false)
    (registers : call.registers = true)
    (done : answer hydrators link call query world = ((.error fault, later), after)) :
    later = query.annotated later.warnings later.resolutions ∧
      (later.warnings = query.warnings ↔ call.wildcard? = none) := by
  have added : later.warnings =
      query.warnings ++ call.wildcard?.toList.map Violation.message :=
    answer_warnings lenient registers done
  constructor
  · cases answer_advance done with
    | refused => rfl
    | read reads => cases reads.symm.trans registers
  · rw [added]
    cases call.wildcard? with
    | none => simp
    | some v => simp

end Query

theorem Query.Replays.length_eq {setup : QuerySetup} {history : List (Call × Outcome Answer)}
    {query : Query} (replays : Replays setup history query) :
    query.relations.length = (accepted Call.attachment? history).length := by
  have made := congrArg List.length replays.requests
  rw [List.length_map, List.length_map] at made
  exact made.symm

section

variable {setup : QuerySetup} {calls : List Call}

theorem warnings_run (hydrators : HydratorSource) (link : Link σ) (world : σ)
    (lenient : setup.config.strictMode.isTruthy = false)
    (registering : ∀ call ∈ calls, call.registers = true) :
    let session := (Session.opened setup world).run hydrators link calls
    Replays setup session.history session.query ∧ session.query.warnings =
      (found (notedOf setup.config) 0 session.history).map Violation.message := by
  refine Session.run_preserves_of_mem
    (fun session => Replays setup session.history session.query ∧ session.query.warnings =
      (found (notedOf setup.config) 0 session.history).map Violation.message) ?_
    ⟨Replays.fresh setup, rfl⟩
  intro session call inside before
  obtain ⟨replays, noted⟩ := before
  have registers := registering call inside
  have same := replays.setup_eq
  constructor
  · exact (replays.advance registers (session.call_advance call)).1
  · have added := answer_warnings (by rwa [same]) registers
      (session.answered hydrators link call)
    have grown : (session.call hydrators link call).history =
        session.history ++ [(call, session.outcome hydrators link call)] := rfl
    rw [added, noted, same, replays.length_eq, grown, found_append, List.map_append, Nat.zero_add]
    simp [found]

/-- Under options that tolerate wildcards, and after any calls that register, the warnings are one
for each thing that was tolerated of an accepted call, in the order of the calls, exactly if no
refused call asked for a wildcard. A call that is refused then changes nothing but the warnings, and
not these either exactly if it asks for no wildcard, and what the query remembers. -/
theorem warnings_describe_iff (hydrators : HydratorSource) (link : Link σ) (world : σ)
    (lenient : setup.config.strictMode.isTruthy = false)
    (registering : ∀ call ∈ calls, call.registers = true) :
    let session := (Session.opened setup world).run hydrators link calls
    (session.query.warnings =
        (found (softViolations setup.config) 0 session.history).map Violation.message ↔
      ∀ entry ∈ session.history, wastedWildcard? entry = none) ∧
    ∀ call fault, call.registers = true → session.outcome hydrators link call = .error fault →
      let later := (session.call hydrators link call).query
      later = session.query.annotated later.warnings later.resolutions ∧
        (later.warnings = session.query.warnings ↔ call.wildcard? = none) := by
  intro session
  obtain ⟨replays, noted⟩ : Replays setup session.history session.query ∧
      session.query.warnings =
        (found (notedOf setup.config) 0 session.history).map Violation.message :=
    warnings_run hydrators link world lenient registering
  have same := replays.setup_eq
  constructor
  · rw [noted]
    constructor
    · intro equal
      have lengths := congrArg List.length equal
      rw [List.length_map, List.length_map, length_found_notedOf] at lengths
      have none : session.history.filterMap wastedWildcard? = [] :=
        List.eq_nil_of_length_eq_zero (by omega)
      exact List.filterMap_eq_nil_iff.1 none
    · intro none
      refine congrArg _ (found_congr 0 ?_)
      intro entry inside n
      unfold notedOf
      rw [none entry inside]
      exact List.append_nil _
  · intro call fault registers refused
    have answered := session.answered hydrators link call
    rw [refused] at answered
    exact refused_warned (by rwa [same]) registers answered

end

theorem warnings_describe_partners :
    let config := { Config.initial with maxRelations := .int 1, maxLimit := .int 5 }
    let setup := documentsSetup config
    let hydrators : HydratorSource := ⟨HydratorRegistry.initial, []⟩
    let calls : List Call := [.attach .single (.text "raw") (.text "*"),
      .attach .count (.text "doc") .null, .attach .single (.text "doc") (.list [.text "id"]),
      .limit (.int 7)]
    let session := (Session.opened setup ()).run hydrators ⟨none, none⟩ calls
    setup.config.strictMode.isTruthy = false ∧ (∀ call ∈ calls, call.registers = true) ∧
      (∀ entry ∈ session.history, wastedWildcard? entry = none) ∧
      session.query.warnings = [.wildcard "raw", .tooManyRelations "2" "1",
        .limitAbove "7" "5"].map Violation.message := by
  refine ⟨rfl, ?registering, ?none,
    ((warnings_describe_iff _ _ () rfl ?registering).1.2 ?none).trans ?_⟩
  case registering => simp [Call.registers]
  case none =>
    rw [← List.filterMap_eq_nil_iff]
    decide +kernel
  · decide +kernel

/-- A relation that is not there leaves the warning of its wildcard behind. -/
theorem warnings_describe_nothing :
    let hydrators : HydratorSource := ⟨HydratorRegistry.initial, []⟩
    let call : Call := .attach .single (.text "nope") (.text "*")
    let session := (Session.opened (documentsSetup Config.initial) ()).run hydrators
      ⟨none, none⟩ [call]
    session.history = [(call, .error (.relationNotFound "nope" "Partner"))] ∧
      found (softViolations Config.initial) 0 session.history = [] ∧
      session.query.relations = [] ∧
      session.query.warnings = [(Violation.wildcard "nope").message] :=
  ⟨rfl, rfl, rfl, rfl⟩

end NestedSelect
