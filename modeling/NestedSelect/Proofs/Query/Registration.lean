import NestedSelect.Proofs.Query.Work
import NestedSelect.Query.Execution

/-!
What a registration does to a query.

A relation is attached exactly when it is `Attachable`; then its request stands last and the
wildcards count as unresolved. Whatever is refused changes nothing but the warnings.
-/

namespace NestedSelect.Query

def notes (present : Bool) (v : Violation) : List String := if present then [v.message] else []

def noting (query : Query) (warnings : List String) : Query :=
  { query with warnings := query.warnings ++ warnings }

theorem noting_noting (query : Query) (first second : List String) :
    (query.noting first).noting second = query.noting (first ++ second) := by
  simp only [noting, List.append_assoc]

theorem noting_nil (query : Query) : query.noting [] = query := by
  simp only [noting, List.append_nil]

theorem tolerateIf_refused {present : Bool} {strict : Value} (v : Violation) (query : Query)
    (there : present = true) (isStrict : strict.isTruthy = true) :
    tolerateIf present strict v query = (.error (.violation v), query) := by
  simp only [tolerateIf, tolerate, there, isStrict, if_true]
  rfl

theorem tolerateIf_noted {present : Bool} {strict : Value} (v : Violation) (query : Query)
    (lenient : present = true → strict.isTruthy = false) :
    tolerateIf present strict v query = (.ok (), query.noting (notes present v)) := by
  cases present with
  | false =>
      rw [notes, if_neg Bool.false_ne_true, noting_nil]
      rfl
  | true =>
      simp only [tolerateIf, tolerate, lenient rfl, if_true]
      rfl

theorem tolerateIf_cases {present : Bool} {strict : Value} {v : Violation} {α : Type}
    {next : Unit → Edit α} {query later : Query} {outcome : Outcome α}
    (done : (tolerateIf present strict v >>= next) query = (outcome, later)) :
    (∃ fault, outcome = .error fault ∧ query = later) ∨
      ((present = true → strict.isTruthy = false) ∧
        next () (query.noting (notes present v)) = (outcome, later)) := by
  by_cases refused : present = true ∧ strict.isTruthy = true
  · have failed := tolerateIf_refused v query refused.1 refused.2
    have ended := (Edit.bind_of_error failed).symm.trans done
    cases ended
    exact .inl ⟨_, rfl, rfl⟩
  · have lenient : present = true → strict.isTruthy = false := by
      intro there
      exact Bool.eq_false_iff.2 (fun isStrict => refused ⟨there, isStrict⟩)
    have noted := tolerateIf_noted v query lenient
    exact .inr ⟨lenient, (Edit.bind_of_ok noted).symm.trans done⟩

/-- When a number above the greatest one is tolerated: where the options are lenient, and both
numbers can be shown. -/
structure Tolerable (strict greatest : Value) (n : Int) : Prop where
  lenient : strict.isTruthy = false
  shown : (Value.int n).isDisplayable = true
  greatestShown : greatest.isDisplayable = true

def surplus (greatest : Value) (n : Int) (violation : String → String → Violation) : List String :=
  notes ((greatest.exceededBy n).toOption.getD false)
    (violation (Value.int n).display greatest.display)

section Bounds

variable {strict greatest : Value} {n : Int} {violation : String → String → Violation}
  {exceeded : Bool}

theorem surplus_of_exceededBy (compared : greatest.exceededBy n = .ok exceeded) :
    surplus greatest n violation =
      notes exceeded (violation (Value.int n).display greatest.display) := by
  unfold surplus
  rw [compared]
  rfl

theorem tolerateAbove_of_tolerable (compared : greatest.exceededBy n = .ok exceeded)
    (tolerable : exceeded = true → Tolerable strict greatest n) (query : Query) :
    tolerateAbove strict greatest n violation query =
      (.ok (), query.noting (surplus greatest n violation)) := by
  rw [surplus_of_exceededBy compared]
  unfold tolerateAbove
  refine (Edit.bind_of_ok (Edit.lift_apply compared query)).trans ?_
  cases exceeded with
  | false => exact Prod.ext rfl (noting_nil query).symm
  | true =>
      obtain ⟨lenient, shown, greatestShown⟩ := tolerable rfl
      have first : (Value.int n).displayed = .ok (Value.int n).display := if_pos shown
      have second : greatest.displayed = .ok greatest.display := if_pos greatestShown
      refine (Edit.bind_of_ok (Edit.lift_apply first query)).trans ?_
      refine (Edit.bind_of_ok (Edit.lift_apply second query)).trans ?_
      simp only [tolerate, lenient]
      rfl

theorem tolerateAbove_cases {α : Type} {next : Unit → Edit α} {query later : Query}
    {outcome : Outcome α}
    (done : (tolerateAbove strict greatest n violation >>= next) query = (outcome, later)) :
    (∃ fault, outcome = .error fault ∧ query = later) ∨
      ((∃ exceeded, greatest.exceededBy n = .ok exceeded ∧
        (exceeded = true → Tolerable strict greatest n)) ∧
        next () (query.noting (surplus greatest n violation)) = (outcome, later)) := by
  rcases Edit.bind_cases done with ⟨fault, failed, rfl⟩ | ⟨_, middle, passed, rest⟩
  · -- Nothing is noted before the last thing that can fail.
    refine .inl ⟨fault, rfl, ?_⟩
    unfold tolerateAbove at failed
    rcases Edit.check_cases failed with ⟨_, _, same⟩ | ⟨exceeded, _, failed⟩
    · exact same
    cases exceeded with
    | false => cases failed
    | true =>
        rcases Edit.check_cases failed with ⟨_, _, same⟩ | ⟨_, _, failed⟩
        · exact same
        rcases Edit.check_cases failed with ⟨_, _, same⟩ | ⟨_, _, failed⟩
        · exact same
        cases isStrict : strict.isTruthy with
        | true =>
            simp only [tolerate, isStrict] at failed
            cases failed
            rfl
        | false =>
            simp only [tolerate, isStrict] at failed
            cases failed
  · refine .inr ?_
    have whole := passed
    unfold tolerateAbove at passed
    rcases Edit.check_cases passed with ⟨_, impossible, _⟩ | ⟨exceeded, compared, passed⟩
    · cases impossible
    have tolerable : exceeded = true → Tolerable strict greatest n := by
      rintro rfl
      rcases Edit.check_cases passed with ⟨_, impossible, _⟩ | ⟨_, shown, passed⟩
      · cases impossible
      rcases Edit.check_cases passed with ⟨_, impossible, _⟩ | ⟨_, greatestShown, passed⟩
      · cases impossible
      have lenient : strict.isTruthy = false := by
        cases isStrict : strict.isTruthy with
        | false => rfl
        | true =>
            simp only [tolerate, isStrict] at passed
            cases passed
      exact ⟨lenient, Value.isDisplayable_of_displayed shown,
        Value.isDisplayable_of_displayed greatestShown⟩
    cases (tolerateAbove_of_tolerable compared tolerable query).symm.trans whole
    exact ⟨⟨exceeded, compared, tolerable⟩, rest⟩

end Bounds

/-- The relation of a name: the one that is remembered, or else what the name resolves to. -/
def relationNamed (query : Query) (name : String) : Outcome Relation :=
  match Record.get? name query.resolutions with
  | some relation => .ok relation
  | none => query.setup.resolve name

/-- The relations that a query remembers are what their names resolve to. -/
def Faithful (query : Query) : Prop :=
  ∀ name relation, Record.get? name query.resolutions = some relation →
    query.setup.resolve name = .ok relation

theorem Faithful.relationNamed_eq {query : Query} (faithful : query.Faithful) (name : String) :
    query.relationNamed name = query.setup.resolve name := by
  unfold relationNamed
  split
  · rename_i relation known
    exact (faithful name relation known).symm
  · rfl

theorem Faithful.congr {query later : Query} (faithful : query.Faithful)
    (setup : later.setup = query.setup) (resolutions : later.resolutions = query.resolutions) :
    later.Faithful := by
  unfold Faithful
  rwa [setup, resolutions]

theorem Faithful.put {query : Query} {name : String} {relation : Relation}
    (faithful : query.Faithful) (found : query.relationNamed name = .ok relation) (other : String)
    (remembered : Relation)
    (known : Record.get? other (Record.put name relation query.resolutions) = some remembered) :
    query.setup.resolve other = .ok remembered := by
  by_cases same : other = name
  · rw [same, Record.get?_put_self] at known
    cases known
    rw [same, ← faithful.relationNamed_eq, found]
  · rw [Record.get?_put_of_ne same] at known
    exact faithful other remembered known

def remembering (query : Query) (name : String) (relation : Relation) : Query :=
  { query with resolutions := Record.put name relation query.resolutions }

theorem resolve_of_named {query : Query} {name : String} {relation : Relation}
    (found : query.relationNamed name = .ok relation) :
    resolve name query = (.ok relation, query.remembering name relation) := by
  unfold relationNamed at found
  unfold resolve
  refine (Edit.bind_of_ok (by rfl)).trans ?_
  cases known : Record.get? name query.resolutions with
  | some remembered =>
      rw [known] at found
      cases found
      have same : query.remembering name relation = query := by
        rw [remembering, Record.put_of_get? known]
      rw [same]
      rfl
  | none =>
      rw [known] at found
      exact Edit.bind_of_ok (Edit.lift_apply found query)

theorem resolve_of_not_named {query : Query} {name : String} {fault : Fault}
    (unknown : query.relationNamed name = .error fault) :
    resolve name query = (.error fault, query) := by
  unfold relationNamed at unknown
  unfold resolve
  refine (Edit.bind_of_ok (by rfl)).trans ?_
  cases known : Record.get? name query.resolutions with
  | some remembered =>
      rw [known] at unknown
      cases unknown
  | none =>
      rw [known] at unknown
      exact Edit.bind_of_error (Edit.lift_apply unknown query)

theorem resolve_cases {α : Type} {name : String} {next : Relation → Edit α}
    {query later : Query} {outcome : Outcome α}
    (done : (resolve name >>= next) query = (outcome, later)) :
    (∃ fault, query.relationNamed name = .error fault ∧ outcome = .error fault ∧ query = later) ∨
      ∃ relation, query.relationNamed name = .ok relation ∧
        next relation (query.remembering name relation) = (outcome, later) := by
  cases looked : query.relationNamed name with
  | error fault =>
      have ended := (Edit.bind_of_error (resolve_of_not_named looked)).symm.trans done
      cases ended
      exact .inl ⟨fault, rfl, rfl, rfl⟩
  | ok relation =>
      exact .inr ⟨relation, rfl, (Edit.bind_of_ok (resolve_of_named looked)).symm.trans done⟩

/-- When a relation that is asked for becomes a request of a query. -/
structure Attachable (query : Query) (mode : RequestMode) (name columns : Value)
    (request : Request) : Prop where
  named : Identifier.ensureRelation name = .ok request.name
  inMode : request.mode = mode
  asked : requestedColumns mode columns request.name = .ok request.columns
  found : query.relationNamed request.name = .ok request.relation
  admitted : request.relation.kind ∈ mode.kinds
  apart : ∀ other ∈ query.relations, other.outputKey ≠ request.outputKey
  tolerated : request.columns.isWildcard = true → query.setup.config.strictMode.isTruthy = false
  counted : ∃ exceeded,
    query.setup.config.maxRelations.exceededBy (query.relations.length + 1 : Nat) = .ok exceeded ∧
      (exceeded = true → Tolerable query.setup.config.strictMode query.setup.config.maxRelations
        (query.relations.length + 1 : Nat))

def attaching (query : Query) (request : Request) (warnings : List String) : Query :=
  { query.noting warnings with
    relations := query.relations ++ [request]
    wildcardsResolved := false
    resolutions := Record.put request.name request.relation query.resolutions }

theorem ensureAdmitted_eq_ok_iff {mode : RequestMode} {name : String} {relation : Relation} :
    ensureAdmitted mode name relation = .ok () ↔ relation.kind ∈ mode.kinds := by
  unfold ensureAdmitted
  by_cases own : relation.kind ∈ mode.kinds
  · rw [if_pos own]
    exact iff_of_true rfl own
  · rw [if_neg own]
    exact iff_of_false (fun impossible => nomatch impossible) own

theorem ensureApart_eq_ok_iff {registered : List Request} {request : Request} :
    ensureApart registered request = .ok () ↔
      ∀ other ∈ registered, other.outputKey ≠ request.outputKey := by
  unfold ensureApart
  constructor
  · intro done other member same
    have taken : registered.any (fun other => other.outputKey == request.outputKey) = true :=
      List.any_eq_true.2 ⟨other, member, beq_iff_eq.2 same⟩
    rw [if_pos taken] at done
    cases done
  · intro apart
    rw [if_neg]
    intro taken
    obtain ⟨other, member, same⟩ := List.any_eq_true.1 taken
    exact apart other member (beq_iff_eq.1 same)

/-- What is noted when a request is attached: that it is a wildcard, and that it is one too many. -/
def remarks (query : Query) (request : Request) : List String :=
  notes request.columns.isWildcard (.wildcard request.name) ++
    surplus query.setup.config.maxRelations (query.relations.length + 1 : Nat) .tooManyRelations

theorem register_of_attachable {query : Query} {mode : RequestMode} {name columns : Value}
    {request : Request} (fit : Attachable query mode name columns request) :
    register mode name columns query =
      (.ok (), query.attaching request (query.remarks request)) := by
  obtain ⟨exceeded, counted, tolerable⟩ := fit.counted
  have admitted : ensureAdmitted mode request.name request.relation = .ok () :=
    ensureAdmitted_eq_ok_iff.2 fit.admitted
  have apart := ensureApart_eq_ok_iff.2 fit.apart
  have whole : (⟨request.name, mode, request.relation, request.columns⟩ : Request) = request := by
    rw [← fit.inMode]
  have found : (query.noting (notes request.columns.isWildcard
      (.wildcard request.name))).relationNamed request.name = .ok request.relation := fit.found
  unfold register
  refine (Edit.bind_of_ok (Edit.lift_apply fit.named query)).trans ?_
  refine (Edit.bind_of_ok (Edit.lift_apply fit.asked query)).trans ?_
  refine (Edit.bind_of_ok (by rfl)).trans ?_
  refine (Edit.bind_of_ok (tolerateIf_noted _ query fit.tolerated)).trans ?_
  refine (Edit.bind_of_ok (resolve_of_named found)).trans ?_
  refine (Edit.bind_of_ok (Edit.lift_apply admitted _)).trans ?_
  rw [whole]
  refine (Edit.bind_of_ok (by rfl)).trans ?_
  refine (Edit.bind_of_ok (Edit.lift_apply apart _)).trans ?_
  refine (Edit.bind_of_ok (tolerateAbove_of_tolerable counted tolerable _)).trans ?_
  rw [remarks, attaching, ← noting_noting]
  rfl

/-- How asking for a relation can end. When it is refused, a wildcard may have been noted and the
relation of the name resolved before something else was found wrong. -/
inductive Registers (query : Query) (mode : RequestMode) (name columns : Value) :
    Outcome Unit → Query → Prop where
  | refused (fault : Fault) : Registers query mode name columns (.error fault) query
  | overruled {given : String} {wanted : Columns} (fault : Fault)
      (named : Identifier.ensureRelation name = .ok given)
      (asked : requestedColumns mode columns given = .ok wanted)
      (wild : wanted.isWildcard = true)
      (lenient : query.setup.config.strictMode.isTruthy = false) :
      Registers query mode name columns (.error fault)
        (query.noting [(Violation.wildcard given).message])
  | resolved {given : String} {wanted : Columns} {relation : Relation} (fault : Fault)
      (named : Identifier.ensureRelation name = .ok given)
      (asked : requestedColumns mode columns given = .ok wanted)
      (tolerated : wanted.isWildcard = true → query.setup.config.strictMode.isTruthy = false)
      (found : query.relationNamed given = .ok relation) :
      Registers query mode name columns (.error fault)
        ((query.noting (notes wanted.isWildcard (.wildcard given))).remembering given relation)
  | attached {request : Request} (fit : Attachable query mode name columns request) :
      Registers query mode name columns (.ok ()) (query.attaching request (query.remarks request))

theorem register_registers {query later : Query} {mode : RequestMode} {name columns : Value}
    {outcome : Outcome Unit} (done : register mode name columns query = (outcome, later)) :
    Registers query mode name columns outcome later := by
  have whole := done
  unfold register at done
  rcases Edit.check_cases done with ⟨fault, rfl, rfl⟩ | ⟨given, named, done⟩
  · exact .refused fault
  rcases Edit.check_cases done with ⟨fault, rfl, rfl⟩ | ⟨wanted, asked, done⟩
  · exact .refused fault
  rcases tolerateIf_cases (Edit.of_get done) with ⟨fault, rfl, rfl⟩ | ⟨tolerated, done⟩
  · exact .refused fault
  rcases resolve_cases done with ⟨fault, unknown, rfl, rfl⟩ | ⟨relation, found, done⟩
  · cases wild : wanted.isWildcard with
    | true => exact .overruled fault named asked wild (tolerated wild)
    | false =>
        rw [notes, if_neg Bool.false_ne_true, noting_nil]
        exact .refused fault
  -- Whatever is refused from here on was preceded by the note of the wildcard, if it is one.
  have later_refused (fault : Fault) := Registers.resolved fault named asked tolerated found
  rcases Edit.check_cases done with ⟨fault, rfl, rfl⟩ | ⟨_, admitted, done⟩
  · exact later_refused fault
  rcases Edit.check_cases (Edit.of_get done) with ⟨fault, rfl, rfl⟩ | ⟨_, apart, done⟩
  · exact later_refused fault
  rcases tolerateAbove_cases done with ⟨fault, rfl, rfl⟩ | ⟨counted, _⟩
  · exact later_refused fault
  have fit : Attachable query mode name columns ⟨given, mode, relation, wanted⟩ :=
    ⟨named, rfl, asked, found, ensureAdmitted_eq_ok_iff.1 admitted, ensureApart_eq_ok_iff.1 apart,
      tolerated, counted⟩
  cases (register_of_attachable fit).symm.trans whole
  exact .attached fit

theorem filter_cases {query later : Query} {column operator value : Value}
    {outcome : Outcome Unit} (done : filter column operator value query = (outcome, later)) :
    (∃ fault, outcome = .error fault ∧ later = query) ∨
      ∃ added, Filter.make column operator value = .ok added ∧ outcome = .ok () ∧
        later = { query with filters := query.filters ++ [added] } := by
  unfold filter at done
  rcases Edit.check_cases done with ⟨fault, rfl, rfl⟩ | ⟨added, made, done⟩
  · exact .inl ⟨fault, rfl, rfl⟩
  · cases done
    exact .inr ⟨added, made, rfl, rfl⟩

theorem orderBy_cases {query later : Query} {column direction : Value} {outcome : Outcome Unit}
    (done : orderBy column direction query = (outcome, later)) :
    (∃ fault, outcome = .error fault ∧ later = query) ∨
      ∃ added, OrderTerm.make column direction = .ok added ∧ outcome = .ok () ∧
        later = { query with orders := query.orders ++ [added] } := by
  unfold orderBy at done
  rcases Edit.check_cases done with ⟨fault, rfl, rfl⟩ | ⟨added, made, done⟩
  · exact .inl ⟨fault, rfl, rfl⟩
  · cases done
    exact .inr ⟨added, made, rfl, rfl⟩

theorem ensureNonNegative_eq_ok {label : String} {value : Value} {n : Int}
    (done : ensureNonNegative label value = .ok n) : value = .int n ∧ 0 ≤ n := by
  unfold ensureNonNegative at done
  split at done
  · split at done
    · exact absurd done Outcome.bind_error_ne_ok
    · rename_i whole
      cases done
      exact ⟨rfl, Int.not_lt.1 whole⟩
  · exact absurd done Outcome.bind_error_ne_ok

/-- When a value is admitted as a limit: it is an integer that is not negative, and if it is above
the greatest limit, this is tolerated. -/
structure Admits (query : Query) (label : String) (value : Value) (n : Int) : Prop where
  whole : ensureNonNegative label value = .ok n
  compared : ∃ exceeded, query.setup.config.maxLimit.exceededBy n = .ok exceeded ∧
    (exceeded = true → Tolerable query.setup.config.strictLimitValidation
      query.setup.config.maxLimit n)

def excess (query : Query) (n : Int) : List String :=
  surplus query.setup.config.maxLimit n .limitAbove

theorem ensureLimit_of_admits {query : Query} {label : String} {value : Value} {n : Int}
    (admitted : query.Admits label value n) :
    ensureLimit label value query = (.ok n, query.noting (query.excess n)) := by
  obtain ⟨exceeded, compared, tolerable⟩ := admitted.compared
  unfold ensureLimit
  refine (Edit.bind_of_ok (Edit.lift_apply admitted.whole query)).trans ?_
  refine (Edit.bind_of_ok (by rfl)).trans ?_
  exact Edit.bind_of_ok (tolerateAbove_of_tolerable compared tolerable query)

theorem ensureLimit_cases {query later : Query} {label : String} {value : Value}
    {outcome : Outcome Int} (done : ensureLimit label value query = (outcome, later)) :
    (∃ fault, outcome = .error fault ∧ later = query) ∨
      ∃ n, query.Admits label value n ∧ outcome = .ok n ∧
        later = query.noting (query.excess n) := by
  have whole := done
  unfold ensureLimit at done
  rcases Edit.check_cases done with ⟨fault, rfl, rfl⟩ | ⟨n, checked, done⟩
  · exact .inl ⟨fault, rfl, rfl⟩
  rcases tolerateAbove_cases (Edit.of_get done) with ⟨fault, rfl, rfl⟩ | ⟨compared, _⟩
  · exact .inl ⟨fault, rfl, rfl⟩
  have admitted : query.Admits label value n := ⟨checked, compared⟩
  cases (ensureLimit_of_admits admitted).symm.trans whole
  exact .inr ⟨n, admitted, rfl, rfl⟩

section Refused

variable {query : Query} {label : String} {n : Int}

theorem ensureLimit_of_above (natural : 0 ≤ n)
    (above : query.setup.config.maxLimit.exceededBy n = .ok true) {fault : Fault}
    (refused : (do
      let shown ← (Value.int n).displayed
      let most ← query.setup.config.maxLimit.displayed
      tolerate query.setup.config.strictLimitValidation (.limitAbove shown most) : Edit Unit)
        query = (.error fault, query)) :
    ensureLimit label (.int n) query = (.error fault, query) := by
  have whole : ensureNonNegative label (.int n) = .ok n := if_neg (by omega)
  unfold ensureLimit
  refine (Edit.bind_of_ok (Edit.lift_apply whole query)).trans ?_
  refine (Edit.bind_of_ok (by rfl)).trans (Edit.bind_of_error ?_)
  unfold tolerateAbove
  exact (Edit.bind_of_ok (Edit.lift_apply above query)).trans refused

theorem ensureLimit_of_unwritable (natural : 0 ≤ n)
    (above : query.setup.config.maxLimit.exceededBy n = .ok true)
    (many : Text.isWritable n = false) :
    ensureLimit label (.int n) query = (misused .wrongValue, query) := by
  have unshown : (Value.int n).displayed = misused .wrongValue :=
    if_neg (by rw [Value.isDisplayable_int, many]; decide)
  exact ensureLimit_of_above natural above (Edit.bind_of_error (Edit.lift_apply unshown query))

theorem ensureLimit_of_strict (natural : 0 ≤ n)
    (above : query.setup.config.maxLimit.exceededBy n = .ok true)
    (isStrict : query.setup.config.strictLimitValidation.isTruthy = true)
    (few : Text.isWritable n = true)
    (greatestShown : query.setup.config.maxLimit.isDisplayable = true) :
    ensureLimit label (.int n) query =
      (.error (.violation (.limitAbove (toString n) query.setup.config.maxLimit.display)),
        query) := by
  have shown : (Value.int n).displayed = .ok (toString n) := if_pos few
  have most : query.setup.config.maxLimit.displayed =
      .ok query.setup.config.maxLimit.display := if_pos greatestShown
  refine ensureLimit_of_above natural above ?_
  refine (Edit.bind_of_ok (Edit.lift_apply shown query)).trans ?_
  refine (Edit.bind_of_ok (Edit.lift_apply most query)).trans ?_
  simp only [tolerate, isStrict, if_true]
  rfl

end Refused

theorem limit_of_admits {query : Query} {value : Value} {n : Int}
    (admitted : query.Admits "Limit" value n) :
    limit value query = (.ok (), { query.noting (query.excess n) with limit? := some n }) := by
  unfold limit
  exact Edit.bind_of_ok (ensureLimit_of_admits admitted)

theorem limit_cases {query later : Query} {value : Value} {outcome : Outcome Unit}
    (done : limit value query = (outcome, later)) :
    (∃ fault, outcome = .error fault ∧ later = query) ∨
      ∃ n, query.Admits "Limit" value n ∧ outcome = .ok () ∧
        later = { query.noting (query.excess n) with limit? := some n } := by
  unfold limit at done
  rcases Edit.bind_cases done with ⟨fault, failed, rfl⟩ | ⟨n, _, first, done⟩
  · rcases ensureLimit_cases failed with ⟨_, _, unchanged⟩ | ⟨_, _, impossible, _⟩
    · exact .inl ⟨fault, rfl, unchanged⟩
    · cases impossible
  · rcases ensureLimit_cases first with ⟨_, impossible, _⟩ | ⟨_, admitted, same, rfl⟩
    · cases impossible
    · cases same
      cases done
      exact .inr ⟨n, admitted, rfl, rfl⟩

theorem offset_cases {query later : Query} {value : Value} {outcome : Outcome Unit}
    (done : offset value query = (outcome, later)) :
    (∃ fault, outcome = .error fault ∧ later = query) ∨
      ∃ n, ensureNonNegative "Offset" value = .ok n ∧ outcome = .ok () ∧
        later = { query with offset? := some n } := by
  unfold offset at done
  rcases Edit.check_cases done with ⟨fault, rfl, rfl⟩ | ⟨n, checked, done⟩
  · exact .inl ⟨fault, rfl, rfl⟩
  · cases done
    exact .inr ⟨n, checked, rfl, rfl⟩

theorem ensurePositive_eq_ok {label : String} {value : Value} {n : Int}
    (done : ensurePositive label value = .ok n) : value = .int n ∧ 1 ≤ n := by
  unfold ensurePositive at done
  split at done
  · rename_i m
    split at done
    · exact absurd done Outcome.bind_error_ne_ok
    · rename_i large
      cases done
      exact ⟨rfl, Int.not_lt.1 large⟩
  · exact absurd done Outcome.bind_error_ne_ok

/-- When a page is admitted: pages are numbered from one on, and the number of rows on one is
admitted as a limit. -/
structure Pages (query : Query) (page perPage : Value) (number size : Int) : Prop where
  paged : ensurePaged query.setup = .ok ()
  numbered : ensurePositive "Page" page = .ok number
  sized : ensurePositive "Per-page" perPage = .ok size
  admitted : query.Admits "Per-page" perPage size

theorem pageWindow_of_pages {query : Query} {page perPage : Value} {number size : Int}
    (pages : query.Pages page perPage number size) :
    pageWindow page perPage query = (.ok (number, size), query.noting (query.excess size)) := by
  unfold pageWindow
  refine (Edit.bind_of_ok (by rfl)).trans ?_
  refine (Edit.bind_of_ok (Edit.lift_apply pages.paged query)).trans ?_
  refine (Edit.bind_of_ok (Edit.lift_apply pages.numbered query)).trans ?_
  refine (Edit.bind_of_ok (Edit.lift_apply pages.sized query)).trans ?_
  exact Edit.bind_of_ok (ensureLimit_of_admits pages.admitted)

theorem pageWindow_cases {query later : Query} {page perPage : Value}
    {outcome : Outcome (Int × Int)} (done : pageWindow page perPage query = (outcome, later)) :
    (∃ fault, outcome = .error fault ∧ later = query) ∨
      ∃ number size, query.Pages page perPage number size ∧ outcome = .ok (number, size) ∧
        later = query.noting (query.excess size) := by
  unfold pageWindow at done
  rcases Edit.check_cases (Edit.of_get done) with ⟨fault, rfl, rfl⟩ | ⟨_, paged, done⟩
  · exact .inl ⟨fault, rfl, rfl⟩
  rcases Edit.check_cases done with ⟨fault, rfl, rfl⟩ | ⟨number, numbered, done⟩
  · exact .inl ⟨fault, rfl, rfl⟩
  rcases Edit.check_cases done with ⟨fault, rfl, rfl⟩ | ⟨size, sized, done⟩
  · exact .inl ⟨fault, rfl, rfl⟩
  rcases Edit.bind_cases done with ⟨fault, failed, rfl⟩ | ⟨n, _, first, done⟩
  · rcases ensureLimit_cases failed with ⟨_, _, unchanged⟩ | ⟨_, _, impossible, _⟩
    · exact .inl ⟨fault, rfl, unchanged⟩
    · cases impossible
  rcases ensureLimit_cases first with ⟨_, impossible, _⟩ | ⟨_, admitted, same, rfl⟩
  · cases impossible
  cases same
  cases done
  -- The number of rows is read twice, once as a positive number and once as a limit.
  obtain ⟨rfl, positive⟩ := ensurePositive_eq_ok sized
  have again : ensureNonNegative "Per-page" (.int size) = .ok size := by
    unfold ensureNonNegative
    exact if_neg (by omega)
  obtain rfl : size = n := Except.ok.inj (again.symm.trans admitted.whole)
  exact .inr ⟨number, size, ⟨paged, numbered, sized, admitted⟩, rfl, rfl⟩

/-- What can be noted when rows are read: nothing, or that a page has too many of them. -/
inductive PageNotes (query : Query) : List String → Prop where
  | none : PageNotes query []
  | size {perPage : Value} {n : Int} (admitted : query.Admits "Per-page" perPage n) :
      PageNotes query (query.excess n)

end NestedSelect.Query
