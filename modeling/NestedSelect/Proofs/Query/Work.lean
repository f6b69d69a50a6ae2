import NestedSelect.Query.Wildcards

/-!
How changes of a query and work on it go, step by step.

A step that succeeds hands its result, the query and the world to what follows; a step that fails
ends the whole. Proofs about an operation name what each step gives and never look into the monads.
-/

namespace NestedSelect

variable {α β : Type}

theorem Outcome.bind_eq_ok {result : Outcome α} {next : α → Outcome β} {b : β}
    (done : (result >>= next) = .ok b) : ∃ a, result = .ok a ∧ next a = .ok b := by
  cases result with
  | error fault => cases done
  | ok a => exact ⟨a, rfl, done⟩

theorem Outcome.bind_of_ok {result : Outcome α} {next : α → Outcome β} {a : α}
    (done : result = .ok a) : (result >>= next) = next a := by
  rw [done]
  rfl

theorem Outcome.bind_of_error {result : Outcome α} {next : α → Outcome β} {fault : Fault}
    (failed : result = .error fault) : (result >>= next) = .error fault := by
  rw [failed]
  rfl

theorem Outcome.bind_error_ne_ok {result : Outcome α} {why : α → Fault} {b : β} :
    (result >>= fun a => (.error (why a) : Outcome β)) ≠ .ok b := by
  cases result with
  | error fault => exact fun impossible => nomatch impossible
  | ok a => exact fun impossible => nomatch impossible

theorem Outcome.map_eq_ok {result : Outcome α} {shape : α → β} {b : β}
    (done : result.map shape = .ok b) : ∃ a, result = .ok a ∧ b = shape a := by
  cases result with
  | error fault => cases done
  | ok a =>
      cases done
      exact ⟨a, rfl, rfl⟩

theorem Outcome.map_of_ok {result : Outcome α} {shape : α → β} {a : α} (done : result = .ok a) :
    result.map shape = .ok (shape a) := by
  rw [done]
  rfl

theorem Outcome.exists_map_eq_ok_iff {result : Outcome α} {shape : α → β} :
    (∃ b, result.map shape = .ok b) ↔ ∃ a, result = .ok a := by
  constructor
  · rintro ⟨b, done⟩
    obtain ⟨a, made, _⟩ := map_eq_ok done
    exact ⟨a, made⟩
  · rintro ⟨a, made⟩
    exact ⟨shape a, map_of_ok made⟩

theorem Outcome.map_eq_map_iff {result : Outcome α} {shape other : α → β} :
    result.map shape = result.map other ↔ ∀ a, result = .ok a → shape a = other a := by
  cases result with
  | error fault => exact iff_of_true rfl (fun _ impossible => nomatch impossible)
  | ok a =>
      constructor
      · intro same _ done
        cases done
        exact Except.ok.inj same
      · intro same
        exact congrArg Except.ok (same a rfl)

namespace Query

namespace Edit

variable {change : Edit α} {next : α → Edit β} {query later : Query}

theorem bind_of_ok {a : α} (done : change query = (.ok a, later)) :
    (change >>= next) query = next a later := by
  simp only [bind, ExceptT.bind, ExceptT.mk, StateT.bind, done]
  rfl

theorem bind_of_error {fault : Fault} (failed : change query = (.error fault, later)) :
    (change >>= next) query = (.error fault, later) := by
  simp only [bind, ExceptT.bind, ExceptT.mk, StateT.bind, failed]
  rfl

theorem lift_apply {outcome result : Outcome α} (same : outcome = result) (query : Query) :
    (liftM outcome : Edit α) query = (result, query) := by
  subst same
  cases outcome <;> rfl

theorem bind_cases {outcome : Outcome β} (done : (change >>= next) query = (outcome, later)) :
    (∃ fault, change query = (.error fault, later) ∧ outcome = .error fault) ∨
      ∃ a middle, change query = (.ok a, middle) ∧ next a middle = (outcome, later) := by
  cases first : change query with
  | mk result middle =>
      cases result with
      | error fault =>
          have ended := (bind_of_error first).symm.trans done
          cases ended
          exact .inl ⟨fault, rfl, rfl⟩
      | ok a => exact .inr ⟨a, middle, rfl, (bind_of_ok first).symm.trans done⟩

theorem lift_cases {check outcome : Outcome α}
    (done : (liftM check : Edit α) query = (outcome, later)) :
    check = outcome ∧ query = later := by
  have same := (lift_apply rfl query).symm.trans done
  cases same
  exact ⟨rfl, rfl⟩

theorem of_get {next : Query → Edit β} {outcome : Outcome β}
    (done : (get >>= next) query = (outcome, later)) : next query query = (outcome, later) := done

theorem check_cases {check : Outcome α} {outcome : Outcome β}
    (done : ((liftM check : Edit α) >>= next) query = (outcome, later)) :
    (∃ fault, outcome = .error fault ∧ query = later) ∨
      ∃ a, check = .ok a ∧ next a query = (outcome, later) := by
  rcases bind_cases done with ⟨fault, failed, rfl⟩ | ⟨a, _, first, done⟩
  · obtain ⟨_, rfl⟩ := lift_cases failed
    exact .inl ⟨fault, rfl, rfl⟩
  · obtain ⟨passed, rfl⟩ := lift_cases first
    exact .inr ⟨a, passed, done⟩

end Edit

namespace Work

variable {σ : Type} {work : Work σ α} {next : α → Work σ β} {query later : Query}
  {world after : σ}

theorem bind_of_ok {a : α} (done : work query world = ((.ok a, later), after)) :
    (work >>= next) query world = next a later after := by
  simp only [bind, ExceptT.bind, ExceptT.mk, StateT.bind, done]
  rfl

theorem bind_of_error {fault : Fault} (failed : work query world = ((.error fault, later), after)) :
    (work >>= next) query world = ((.error fault, later), after) := by
  simp only [bind, ExceptT.bind, ExceptT.mk, StateT.bind, failed]
  rfl

theorem lift_apply {outcome result : Outcome α} (same : outcome = result) (query : Query)
    (world : σ) : (liftM outcome : Work σ α) query world = ((result, query), world) := by
  subst same
  cases outcome <;> rfl

theorem bind_cases {outcome : Outcome β}
    (done : (work >>= next) query world = ((outcome, later), after)) :
    (∃ fault, work query world = ((.error fault, later), after) ∧ outcome = .error fault) ∨
      ∃ a middle between, work query world = ((.ok a, middle), between) ∧
        next a middle between = ((outcome, later), after) := by
  cases first : work query world with
  | mk answered between =>
      obtain ⟨result, middle⟩ := answered
      cases result with
      | error fault =>
          have ended := (bind_of_error first).symm.trans done
          cases ended
          exact .inl ⟨fault, rfl, rfl⟩
      | ok a => exact .inr ⟨a, middle, between, rfl, (bind_of_ok first).symm.trans done⟩

theorem lift_cases {check outcome : Outcome α}
    (done : (liftM check : Work σ α) query world = ((outcome, later), after)) :
    check = outcome ∧ query = later ∧ world = after := by
  have same := (lift_apply rfl query world).symm.trans done
  cases same
  exact ⟨rfl, rfl, rfl⟩

theorem get_bind (next : Query → Work σ β) (query : Query) (world : σ) :
    (get >>= next) query world = next query query world := rfl

theorem set_bind (changed : Query) (next : Unit → Work σ β) (query : Query) (world : σ) :
    ((set changed : Work σ Unit) >>= next) query world = next () changed world := rfl

theorem of_get {next : Query → Work σ β} {outcome : Outcome β}
    (done : (get >>= next) query world = ((outcome, later), after)) :
    next query query world = ((outcome, later), after) := done

theorem of_set {changed : Query} {next : Unit → Work σ β} {outcome : Outcome β}
    (done : ((set changed : Work σ Unit) >>= next) query world = ((outcome, later), after)) :
    next () changed world = ((outcome, later), after) := done

theorem of_modify {change : Query → Query} {next : Unit → Work σ β} {outcome : Outcome β}
    (done : ((modify change : Work σ Unit) >>= next) query world = ((outcome, later), after)) :
    next () (change query) world = ((outcome, later), after) := done

theorem check_cases {check : Outcome α} {outcome : Outcome β}
    (done : ((liftM check : Work σ α) >>= next) query world = ((outcome, later), after)) :
    (∃ fault, check = .error fault ∧ outcome = .error fault ∧ query = later ∧ world = after) ∨
      ∃ a, check = .ok a ∧ next a query world = ((outcome, later), after) := by
  rcases bind_cases done with ⟨fault, failed, rfl⟩ | ⟨a, _, _, first, done⟩
  · obtain ⟨refused, rfl, rfl⟩ := lift_cases failed
    exact .inl ⟨fault, refused, rfl, rfl, rfl⟩
  · obtain ⟨passed, rfl, rfl⟩ := lift_cases first
    exact .inr ⟨a, passed, done⟩

theorem perform_apply {exchange : Exchange σ α} {result : Outcome α}
    (answered : exchange world = (result, after)) (query : Query) :
    perform exchange query world = ((result, query), after) := by
  unfold perform
  rw [answered]

theorem perform_cases {exchange : Exchange σ α} {outcome : Outcome β}
    (done : (perform exchange >>= next) query world = ((outcome, later), after)) :
    (∃ fault, exchange world = (.error fault, after) ∧ outcome = .error fault ∧ query = later) ∨
      ∃ a between, exchange world = (.ok a, between) ∧
        next a query between = ((outcome, later), after) := by
  cases answered : exchange world with
  | mk result between =>
      have performed := perform_apply answered query
      cases result with
      | error fault =>
          have ended := (bind_of_error performed).symm.trans done
          cases ended
          exact .inl ⟨fault, rfl, rfl, rfl⟩
      | ok a => exact .inr ⟨a, between, rfl, (bind_of_ok performed).symm.trans done⟩

theorem edit_apply {change : Edit α} {outcome : Outcome α}
    (changed : change query = (outcome, later)) (world : σ) :
    edit change query world = ((outcome, later), world) := by
  unfold edit
  rw [changed]

theorem edit_cases {change : Edit α} {outcome : Outcome β}
    (done : (edit change >>= next) query world = ((outcome, later), after)) :
    (∃ fault, change query = (.error fault, later) ∧ outcome = .error fault ∧ world = after) ∨
      ∃ a middle, change query = (.ok a, middle) ∧
        next a middle world = ((outcome, later), after) := by
  rcases bind_cases done with ⟨fault, failed, rfl⟩ | ⟨a, middle, _, first, done⟩
  · obtain ⟨changed, rfl⟩ := Prod.mk.inj failed
    exact .inl ⟨fault, changed, rfl, rfl⟩
  · obtain ⟨changed, rfl⟩ := Prod.mk.inj first
    exact .inr ⟨a, middle, changed, done⟩

end Work

end Query

end NestedSelect
