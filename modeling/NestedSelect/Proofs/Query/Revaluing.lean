import NestedSelect.Proofs.Query.Framing
import NestedSelect.Proofs.Query.Placeholders

/-!
Queries with other values.

The values that a query compares with, and those that its base query is bound to, can be replaced by
as many others (`Query.Revalues`). Statements that are built of it then keep their text and are
bound to the other values (`Query.Parallel.builds`). No check that a call makes looks at them
either, so every call is refused or accepted as before.
-/

namespace NestedSelect

open Outcome (Alike)
open Sql (BoundStatement Window)
open Query

variable {σ τ : Type}

inductive Filter.Revalues : Filter → Filter → Prop where
  | intro (column operator : String) (value other : Value) :
      Revalues ⟨column, operator, value⟩ ⟨column, operator, other⟩

/-- A base query that is a text together with the values that it is bound to. -/
inductive BaseQuery.Binds (text : String) (values : Value) : BaseQuery → Prop where
  | listed : Binds text values (.value (.list [.text text, values]))
  | tupled : Binds text values (.value (.tuple [.text text, values]))

/-- A base query that is bound to other values, as many as before. -/
inductive BaseQuery.Revalues : BaseQuery → BaseQuery → Prop where
  | same (base : BaseQuery) : Revalues base base
  | bound {base other : BaseQuery} {text : String} {values others : Value}
      (binds : base.Binds text values) (also : other.Binds text others)
      (counted : Alike (fun items more => items.length = more.length) values.itemsOrNone
        others.itemsOrNone) : Revalues base other

inductive QuerySetup.Revalues (setup : QuerySetup) : QuerySetup → Prop where
  | intro {base? : Option BaseQuery}
      (based : Option.Rel BaseQuery.Revalues setup.baseQuery? base?) :
      Revalues setup { setup with baseQuery? := base? }

/-- Statements with the same text, each bound to values of its own. -/
inductive Sql.BoundStatement.Parallel (given other : List Value) :
    BoundStatement → BoundStatement → Prop where
  | intro (text : String) : Parallel given other ⟨text, given⟩ ⟨text, other⟩

namespace Query

def revalued (query : Query) (base? : Option BaseQuery) (filters : List Filter) : Query :=
  { query with setup := { query.setup with baseQuery? := base? }, filters := filters }

inductive Revalues (query : Query) : Query → Prop where
  | intro {base? : Option BaseQuery} {filters : List Filter}
      (based : Option.Rel BaseQuery.Revalues query.setup.baseQuery? base?)
      (filtered : List.Forall₂ Filter.Revalues query.filters filters) :
      Revalues query (query.revalued base? filters)

def given (query : Query) : List Value := query.boundValues query.setup.baseValues

structure Parallel (given other : List Value) (query second : Query) : Prop where
  revalues : query.Revalues second
  given : query.given = given
  other : second.given = other

end Query

theorem Filter.Revalues.condition_eq {filter other : Filter} (revalues : filter.Revalues other)
    (source : String) : Sql.condition source filter = Sql.condition source other := by
  cases revalues
  rfl

theorem Filter.conditions_revalued {filters others : List Filter} (source : String)
    (filtered : List.Forall₂ Filter.Revalues filters others) :
    Sql.conditions filters source = Sql.conditions others source := by
  have texts : filters.map (Sql.condition source) = others.map (Sql.condition source) := by
    induction filtered with
    | nil => rfl
    | cons first _ ih => rw [List.map_cons, List.map_cons, first.condition_eq, ih]
  unfold Sql.conditions
  rw [texts]

theorem BaseQuery.Binds.rendered {base : BaseQuery} {text : String} {values : Value}
    (binds : base.Binds text values) (schema : Schema) (dialect : Dialect) :
    Sql.renderBaseQuery schema dialect base =
      values.itemsOrNone >>= fun items => .ok ⟨text, items⟩ := by
  cases binds with
  | listed => rfl
  | tupled => rfl

theorem BaseQuery.Revalues.rendered {base other : BaseQuery} (revalues : base.Revalues other)
    (schema : Schema) (dialect : Dialect) :
    Alike (fun first second =>
        first.text = second.text ∧ first.values.length = second.values.length)
      (Sql.renderBaseQuery schema dialect base) (Sql.renderBaseQuery schema dialect other) := by
  cases revalues with
  | same =>
      cases Sql.renderBaseQuery schema dialect base with
      | ok rendered => exact .ok ⟨rfl, rfl⟩
      | error fault => exact .error fault
  | bound binds also counted =>
      rw [binds.rendered, also.rendered]
      exact counted.bind (fun items more same => .ok ⟨rfl, same⟩)

theorem QuerySetup.Revalues.baseValues_length {setup other : QuerySetup}
    (revalues : setup.Revalues other) :
    setup.baseValues.length = other.baseValues.length := by
  obtain ⟨based⟩ := revalues
  unfold QuerySetup.baseValues
  simp only
  generalize setup.baseQuery? = before at based ⊢
  cases based with
  | none => rfl
  | @some base other changed =>
      have rendered := changed.rendered setup.schema setup.generator.dialect
      simp only
      generalize Sql.renderBaseQuery setup.schema setup.generator.dialect base = first at rendered ⊢
      generalize Sql.renderBaseQuery setup.schema setup.generator.dialect other = second
        at rendered ⊢
      cases rendered with
      | ok written => exact written.2
      | error fault => rfl

namespace Query

variable {query second later : Query} {given other : List Value}

theorem Revalues.setup (revalues : query.Revalues second) :
    query.setup.Revalues second.setup := by
  obtain ⟨based, _⟩ := revalues
  exact ⟨based⟩

theorem Revalues.given_length (revalues : query.Revalues second) :
    query.given.length = second.given.length := by
  have based := revalues.setup.baseValues_length
  obtain ⟨_, filtered⟩ := revalues
  have filters := filtered.length_eq
  unfold Query.given boundValues Sql.conditionValues
  simp only [List.length_append, List.length_map]
  rw [based]
  exact congrArg _ filters

theorem Revalues.source (revalues : query.Revalues second) :
    Alike (fun first other => first.text = other.text) query.source second.source := by
  obtain ⟨based, _⟩ := revalues
  unfold Query.source revalued
  simp only
  generalize query.setup.baseQuery? = before at based ⊢
  cases based with
  | none => exact .ok rfl
  | some changed =>
      refine (changed.rendered query.setup.schema query.setup.generator.dialect).bind ?_
      rintro first other ⟨text, _⟩
      refine .ok ?_
      simp only [text]

theorem Revalues.isPaged (revalues : query.Revalues second) :
    query.setup.baseQuery?.isNone = second.setup.baseQuery?.isNone := by
  obtain ⟨based, _⟩ := revalues
  unfold revalued
  simp only
  generalize query.setup.baseQuery? = before at based ⊢
  cases based with
  | none => rfl
  | some changed => rfl

theorem Revalues.conditions (revalues : query.Revalues second) :
    Sql.conditions query.filters query.setup.baseAlias =
      Sql.conditions second.filters second.setup.baseAlias := by
  obtain ⟨_, filtered⟩ := revalues
  exact Filter.conditions_revalued _ filtered

theorem Revalues.build_text (revalues : query.Revalues second) (window : Window) :
    Alike (fun first other => first.text = other.text) (query.build window)
      (second.build window) := by
  have isPaged := revalues.isPaged
  have conditions := revalues.conditions
  unfold Query.build
  refine revalues.source.bind ?_
  intro source other text
  obtain ⟨_, _⟩ := revalues
  refine (Alike.refl query.selectList).bind ?_
  rintro items _ rfl
  refine (Alike.refl (query.setup.generator.joinList query.relations)).bind ?_
  rintro joins _ rfl
  simp only [text, ← conditions, ← isPaged]
  refine (Alike.refl _).bind ?_
  rintro whole _ rfl
  exact .ok rfl

theorem Revalues.buildCount_text (revalues : query.Revalues second) :
    Alike (fun first other => first.text = other.text) query.buildCount second.buildCount := by
  have conditions := revalues.conditions
  unfold Query.buildCount
  refine revalues.source.bind ?_
  intro source other text
  obtain ⟨_, _⟩ := revalues
  refine (Alike.refl (query.setup.generator.joinList _)).bind ?_
  rintro joins _ rfl
  simp only [text, ← conditions]
  refine (Alike.refl _).bind ?_
  rintro whole _ rfl
  exact .ok rfl

theorem Parallel.drafted (parallel : Parallel given other query second)
    {first last : Outcome BoundStatement}
    (texts : Alike (fun first other => first.text = other.text) first last)
    (drafts : ∀ statement, first = .ok statement → query.Drafts statement)
    (also : ∀ statement, last = .ok statement → second.Drafts statement) :
    Alike (BoundStatement.Parallel given other) first last := by
  cases texts with
  | error fault => exact .error fault
  | @ok statement changed text =>
      have values := (drafts_values (drafts _ rfl)).trans parallel.given
      have others := (drafts_values (also _ rfl)).trans parallel.other
      obtain ⟨written, _⟩ := statement
      obtain ⟨_, _⟩ := changed
      subst values others text
      exact .ok (.intro written)

theorem Parallel.builds (given other : List Value) :
    Builds (Parallel given other) (BoundStatement.Parallel given other) := by
  constructor
  · rintro query second ⟨⟨_, _⟩, _, _⟩
    rfl
  · intro query second window parallel
    exact parallel.drafted (parallel.revalues.build_text window) (fun _ built => .page window built)
      (fun _ built => .page window built)
  · intro query second parallel
    exact parallel.drafted parallel.revalues.buildCount_text (fun _ built => .count built)
      (fun _ built => .count built)

theorem Parallel.bindings (parallel : Parallel given other query second) :
    Alike (fun values others => values = given ∧ others = other) query.bindings
      second.bindings := by
  unfold Query.bindings
  rw [(Parallel.builds given other).window _ _ parallel]
  refine ((Parallel.builds given other).build _ _ _ parallel).bind ?_
  rintro _ _ ⟨_⟩
  exact .ok ⟨rfl, rfl⟩

theorem Parallel.change (parallel : Parallel given other query second) (change : Query → Query)
    (frame : ∀ query, (change query).setup = query.setup ∧
      (change query).filters = query.filters)
    (apart : ∀ query base? filters, change (query.revalued base? filters) =
      (change query).revalued base? filters) :
    Parallel given other (change query) (change second) := by
  have kept (query : Query) : (change query).given = query.given := by
    unfold Query.given boundValues
    rw [(frame query).1, (frame query).2]
  obtain ⟨⟨based, filtered⟩, first, last⟩ := parallel
  refine ⟨?_, (kept _).trans first, (kept _).trans last⟩
  rw [apart]
  refine ⟨?_, ?_⟩
  · rwa [(frame query).1]
  · rwa [(frame query).2]

theorem Parallel.shares (given other : List Value) : Shares (Parallel given other) := by
  constructor
  · rintro query second ⟨⟨_, _⟩, _, _⟩
    exact ⟨rfl, rfl, rfl⟩
  · rintro query second ⟨⟨_, _⟩, _, _⟩
    rfl
  · rintro query second ⟨⟨_, _⟩, _, _⟩
    rfl
  · rintro query second ⟨⟨_, _⟩, _, _⟩
    rfl
  · intro query second relations parallel
    exact parallel.change (fun query => { query with relations := relations })
      (fun _ => ⟨rfl, rfl⟩) (fun _ _ _ => rfl)
  · intro query second listings parallel
    exact parallel.change (fun query => { query with listings := listings })
      (fun _ => ⟨rfl, rfl⟩) (fun _ _ _ => rfl)
  · intro query second parallel
    exact parallel.change (fun query => { query with wildcardsResolved := true })
      (fun _ => ⟨rfl, rfl⟩) (fun _ _ _ => rfl)

theorem Parallel.sharesChecks (given other : List Value) :
    SharesChecks (Parallel given other) := by
  constructor
  · rintro query second ⟨⟨_, _⟩, _, _⟩
    exact ⟨rfl, rfl, rfl, rfl⟩
  · rintro query second ⟨⟨_, _⟩, _, _⟩
    rfl
  · rintro query second ⟨⟨_, _⟩, _, _⟩
    rfl
  · intro query second warnings parallel
    exact parallel.change (fun query => query.noting warnings)
      (fun _ => ⟨rfl, rfl⟩) (fun _ _ _ => rfl)
  · intro query second request parallel
    exact parallel.change (fun query => { query with
      relations := query.relations ++ [request], wildcardsResolved := false })
      (fun _ => ⟨rfl, rfl⟩) (fun _ _ _ => rfl)
  · intro query second memory parallel
    exact parallel.change (fun query => { query with resolutions := memory })
      (fun _ => ⟨rfl, rfl⟩) (fun _ _ _ => rfl)
  · intro query second added parallel
    exact parallel.change (fun query => { query with orders := query.orders ++ [added] })
      (fun _ => ⟨rfl, rfl⟩) (fun _ _ _ => rfl)
  · intro query second n parallel
    exact parallel.change (fun query => { query with limit? := some n })
      (fun _ => ⟨rfl, rfl⟩) (fun _ _ _ => rfl)
  · intro query second n parallel
    exact parallel.change (fun query => { query with offset? := some n })
      (fun _ => ⟨rfl, rfl⟩) (fun _ _ _ => rfl)

theorem pageWindow_matches (given other : List Value) (page perPage : Value) :
    Edit.Matches (Parallel given other) Eq (pageWindow page perPage)
      (pageWindow page perPage) := by
  unfold pageWindow
  apply Edit.Matches.get_bind
  intro query second parallel
  have paged : ensurePaged query.setup = ensurePaged second.setup := by
    unfold ensurePaged
    rw [← Option.not_isNone, ← Option.not_isNone, parallel.revalues.isPaged]
  rw [paged]
  refine .bind (.lift (.refl _)) (fun _ _ _ => ?_)
  refine .bind (.lift (.refl _)) ?_
  rintro number _ rfl
  refine .bind (.lift (.refl _)) ?_
  rintro size _ rfl
  have checks := Parallel.sharesChecks given other
  refine .bind (checks.ensureLimit_matches "Per-page" perPage) (fun _ _ _ => ?_)
  exact .lift (.refl (.ok (number, size)))

theorem filter_matches (column operator value changed : Value) :
    Edit.Matches Revalues Eq (filter column operator value) (filter column operator changed) := by
  have made : Alike Filter.Revalues (Filter.make column operator value)
      (Filter.make column operator changed) := by
    unfold Filter.make
    refine (Alike.refl _).bind ?_
    rintro named _ rfl
    refine (Alike.refl _).bind ?_
    rintro allowed _ rfl
    exact .ok (.intro named allowed value changed)
  unfold filter
  refine .bind (.lift made) ?_
  intro added other revalues
  apply Edit.Matches.modify
  rintro query _ ⟨based, filtered⟩
  exact .intro based (List.rel_append filtered (.cons revalues .nil))

end Query

end NestedSelect
