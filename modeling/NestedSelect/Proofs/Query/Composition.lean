import NestedSelect.Proofs.Query.Layout
import NestedSelect.Proofs.Query.Session
import NestedSelect.Proofs.Relation.Resolver

/-!
What is true of a query in every session.

`Composed` is the invariant: answers stand under names of their own, every request is what its
name resolves to, and so is every relation that is remembered, and the mark of resolved wildcards
tells the truth. Statements can therefore be
built of every query, and what is executed never holds a wildcard.
-/

namespace NestedSelect

open Identifier (IsSafe)
open Request (Settles)
open Query

/-- The columns that a request in a mode can have: none for a count, and the wildcard or at least
one column otherwise. -/
inductive Columns.Kept : RequestMode → Columns → Prop where
  | none : Kept .count (.listed [])
  | wildcard {mode : RequestMode} (counts : mode ≠ .count) : Kept mode .wildcard
  | listed {mode : RequestMode} (counts : mode ≠ .count) (first : Value) (rest : List Value) :
      Kept mode (.listed (first :: rest))

/-- A request of a query: its name resolves to its relation, its mode admits the kind of the
relation, and it has columns as the mode wants them. -/
structure Request.Registered (setup : QuerySetup) (request : Request) : Prop where
  named : IsSafe request.name
  plain : '.' ∉ request.name.toList
  found : setup.resolve request.name = .ok request.relation
  admitted : request.relation.kind ∈ request.mode.kinds
  kept : Columns.Kept request.mode request.columns

structure Query.Composed (query : Query) : Prop where
  apart : (query.relations.map Request.outputKey).Nodup
  registered : ∀ request ∈ query.relations, request.Registered query.setup
  resolved : query.wildcardsResolved = true →
    ∀ request ∈ query.relations, request.isWildcard = false
  faithful : query.Faithful

namespace Columns

theorem kept_of_requested {mode : RequestMode} {value : Value} {name : String}
    {columns : Columns} (asked : requestedColumns mode value name = .ok columns) :
    Kept mode columns := by
  rcases requestedColumns_eq_ok asked with ⟨rfl, rfl⟩ | ⟨counts, asked⟩
  · exact .none
  · cases asked with
    | wildcard => exact .wildcard counts
    | @names names some once safe =>
        cases names with
        | nil => exact absurd rfl some
        | cons first rest => exact .listed counts _ _

theorem Kept.items_eq {mode : RequestMode} {columns : Columns} (kept : Kept mode columns) :
    ∃ names, columns.items = .ok names := by
  cases kept with
  | none => exact ⟨_, rfl⟩
  | wildcard => exact ⟨_, rfl⟩
  | listed => exact ⟨_, rfl⟩

end Columns

namespace Request

variable {setup : QuerySetup} {request settled : Request} {fits : TableColumns}

theorem counts_of_isWildcard (asked : request.isWildcard = true) : request.mode ≠ .count := by
  intro same
  rw [isWildcard, same] at asked
  cases asked

theorem Registered.settle (registered : request.Registered setup)
    (step : Settles fits request settled) : settled.Registered setup := by
  cases step with
  | kept => exact registered
  | found asked =>
      exact ⟨registered.named, registered.plain, registered.found, registered.admitted,
        .listed (counts_of_isWildcard asked) _ _⟩

theorem Registered.wellFormed (registered : request.Registered setup) :
    request.relation.WellFormed request.name :=
  Relation.resolve_wellFormed registered.found

theorem Registered.presentable (registered : request.Registered setup) : request.Presentable := by
  constructor
  · obtain ⟨names, items⟩ := registered.kept.items_eq
    rw [writtenColumns, items]
    rfl
  · intro isSingle isMany
    have admitted := registered.admitted
    rw [isSingle, isMany] at admitted
    exact absurd admitted (by decide)

end Request

theorem Query.Attachable.registered {query : Query} {mode : RequestMode} {name columns : Value}
    {request : Request} (fit : Attachable query mode name columns request)
    (faithful : query.Faithful) : request.Registered query.setup := by
  obtain ⟨named, plain⟩ := Identifier.ensureRelation_eq_ok fit.named
  have found : query.setup.resolve request.name = .ok request.relation := by
    rw [← faithful.relationNamed_eq, fit.found]
  refine ⟨named, plain, found, ?_, ?_⟩
  · rw [fit.inMode]
    exact fit.admitted
  · rw [fit.inMode]
    exact Columns.kept_of_requested fit.asked

theorem outputKeys_settle {fits : TableColumns} {requests settled : List Request}
    (step : List.Forall₂ (Settles fits) requests settled) :
    settled.map Request.outputKey = requests.map Request.outputKey := by
  induction step with
  | nil => rfl
  | cons first _ ih => simp only [List.map_cons, first.outputKey_eq, ih]

theorem registered_settle {fits : TableColumns} {setup : QuerySetup}
    {requests settled : List Request} (step : List.Forall₂ (Settles fits) requests settled)
    (before : ∀ request ∈ requests, request.Registered setup) :
    ∀ request ∈ settled, request.Registered setup := by
  induction step with
  | nil => exact before
  | cons first _ ih =>
      intro request member
      rcases List.mem_cons.1 member with rfl | inside
      · exact (before _ List.mem_cons_self).settle first
      · exact ih (fun other there => before other (List.mem_cons_of_mem _ there)) request inside

namespace Query.Composed

variable {σ : Type} {link : Link σ} {query later : Query} {world after : σ}

theorem fresh (setup : QuerySetup) : Composed { setup := setup } :=
  ⟨List.nodup_nil, List.forall_mem_nil _,
    fun _ _ impossible => absurd impossible List.not_mem_nil, nofun⟩

theorem noting (composed : Composed query) (warnings : List String) :
    Composed (query.noting warnings) :=
  ⟨composed.apart, composed.registered, composed.resolved, composed.faithful⟩

theorem leaving {call : Call} {warnings : List String} {memory : List (String × Relation)}
    (composed : Composed query) (left : Leftover query call warnings memory) :
    Composed (query.leaving warnings memory) :=
  ⟨composed.apart, composed.registered, composed.resolved, left.faithful composed.faithful⟩

theorem attaching {mode : RequestMode} {name columns : Value} {request : Request}
    (composed : Composed query) (fit : Attachable query mode name columns request)
    (warnings : List String) : Composed (query.attaching request warnings) := by
  refine ⟨?_, ?_, fun marked => absurd marked Bool.false_ne_true, composed.faithful.put fit.found⟩
  · have apart : ∀ key ∈ query.relations.map Request.outputKey,
        ∀ last ∈ [request.outputKey], key ≠ last := by
      intro key member last same
      obtain ⟨other, inside, rfl⟩ := List.mem_map.1 member
      rw [List.mem_singleton.1 same]
      exact fit.apart other inside
    have whole := List.nodup_append.2 ⟨composed.apart, List.pairwise_singleton _ _, apart⟩
    rwa [← List.map_singleton, ← List.map_append] at whole
  · intro other member
    rcases List.mem_append.1 member with inside | last
    · exact composed.registered other inside
    · rw [List.mem_singleton.1 last]
      exact fit.registered composed.faithful

theorem discovery {awaits : Bool} {introspector? : Option (Introspector σ)}
    {found : Outcome Unit} (composed : Composed query)
    (step : Discovery awaits introspector? query world found later after) : Composed later := by
  have settles := step.settles
  refine ⟨?_, ?_, step.resolved composed.resolved, ?_⟩
  · rw [outputKeys_settle settles]
    exact composed.apart
  · rw [step.frame]
    exact registered_settle settles composed.registered
  · rw [step.frame]
    exact composed.faithful

/-- Whatever a call does, the query stays as it should be. -/
theorem advance {call : Call} {outcome : Outcome Answer} (composed : Composed query)
    (step : Advance link query world call outcome later after) : Composed later := by
  cases step with
  | attached fit => exact composed.attaching fit _
  | filtered => exact ⟨composed.apart, composed.registered, composed.resolved, composed.faithful⟩
  | ordered => exact ⟨composed.apart, composed.registered, composed.resolved, composed.faithful⟩
  | limited => exact ⟨composed.apart, composed.registered, composed.resolved, composed.faithful⟩
  | moved => exact ⟨composed.apart, composed.registered, composed.resolved, composed.faithful⟩
  | refused _ _ _ left => exact composed.leaving left
  | read _ done =>
      cases done with
      | idle warnings => exact composed.noting warnings
      | stopped found => exact (composed.noting _).discovery found
      | ran _ found => exact (composed.noting _).discovery found

theorem run (hydrators : HydratorSource) (link : Link σ) (setup : QuerySetup) (world : σ)
    (calls : List Call) :
    Composed ((Session.opened setup world).run hydrators link calls).query :=
  Session.run_preserves (fun session => Composed session.query)
    (fun session call composed => composed.advance (session.call_advance call)) (fresh setup) calls

end Query.Composed

/-- The columns of a request, given those that were asked for: these, or columns that were found
out in place of the wildcard. -/
inductive Columns.Answers : RequestMode → Columns → Columns → Prop where
  | counted : Answers .count (.listed []) (.listed [])
  | named {mode : RequestMode} {names : List String} (counts : mode ≠ .count) (some : names ≠ [])
      (once : names.Nodup) (safe : ∀ name ∈ names, IsSafe name) :
      Answers mode (.listed (names.map Value.text)) (.listed (names.map Value.text))
  | waiting {mode : RequestMode} (counts : mode ≠ .count) : Answers mode .wildcard .wildcard
  | found {mode : RequestMode} (counts : mode ≠ .count) (first : Value) (rest : List Value) :
      Answers mode .wildcard (.listed (first :: rest))

structure Request.AnswersTo (asked : Attachment) (request : Request) : Prop where
  named : Identifier.ensureRelation asked.name = .ok request.name
  inMode : request.mode = asked.mode
  columns : ∃ columns, requestedColumns asked.mode asked.columns request.name = .ok columns ∧
    Columns.Answers asked.mode columns request.columns

theorem Request.ComesOf.answersTo {fits : TableColumns} {asked : Attachment} {request : Request}
    (comes : request.ComesOf fits asked) : request.AnswersTo asked := by
  obtain ⟨columns, wanted, settles⟩ := comes.settles
  refine ⟨comes.named, comes.inMode, columns, wanted, ?_⟩
  rcases requestedColumns_eq_ok wanted with ⟨isCount, rfl⟩ | ⟨counts, form⟩
  · rcases settles.columns_cases with same | ⟨isWildcard, _⟩
    · rw [same, isCount]
      exact .counted
    · rw [Request.isWildcard_listed] at isWildcard
      cases isWildcard
  · cases form with
    | wildcard =>
        rcases settles.columns_cases with same | ⟨_, first, rest, found, _⟩
        · rw [same]
          exact .waiting counts
        · rw [found]
          exact .found counts first rest
    | names some once safe =>
        rcases settles.columns_cases with same | ⟨isWildcard, _⟩
        · rw [same]
          exact .named counts some once safe
        · rw [Request.isWildcard_listed] at isWildcard
          cases isWildcard

theorem Session.comesOf_run {σ : Type} (hydrators : HydratorSource) (link : Link σ)
    (setup : QuerySetup) (world : σ) (calls : List Call) :
    let session := (Session.opened setup world).run hydrators link calls
    List.Forall₂ (Request.ComesOf (fun _ _ => True)) (accepted Call.attachment? session.history)
      session.query.relations :=
  Session.run_preserves
    (fun session => List.Forall₂ (Request.ComesOf (fun _ _ => True))
      (accepted Call.attachment? session.history) session.query.relations)
    (fun session call before => (session.call_advance call).comesOf
      (fun _ _ _ _ found => found.settles) before) .nil calls

theorem Session.answers_run {σ : Type} (hydrators : HydratorSource) (link : Link σ)
    (setup : QuerySetup) (world : σ) (calls : List Call) :
    let session := (Session.opened setup world).run hydrators link calls
    List.Forall₂ (fun asked request => Request.AnswersTo asked request)
      (accepted Call.attachment? session.history) session.query.relations :=
  (Session.comesOf_run hydrators link setup world calls).imp (fun _ _ comes => comes.answersTo)

theorem Session.setup_run {σ : Type} (hydrators : HydratorSource) (link : Link σ)
    (setup : QuerySetup) (world : σ) (calls : List Call) :
    ((Session.opened setup world).run hydrators link calls).query.setup = setup :=
  Session.run_preserves (fun session => session.query.setup = setup)
    (fun session call before => (session.call_advance call).setup_eq.trans before) rfl calls

/-- A number that was chosen but has too many digits to be written. -/
def Query.Unwritable (query : Query) : Prop :=
  ∃ n, (query.limit? = some n ∨ query.offset? = some n) ∧ Text.isWritable n = false

namespace Sql

theorem numberLine_int (keyword : String) (n : Int) :
    numberLine keyword (.int n) =
      if Text.isWritable n then .ok ("\n" ++ keyword ++ " " ++ toString n)
      else misused .wrongValue := by
  unfold numberLine numeral
  simp only [Value.isNull, Value.toInt, Bool.false_eq_true, if_false]
  rw [Outcome.bind_of_ok rfl]
  split <;> rfl

theorem numberLine_chosen (keyword : String) (chosen : Option Int) :
    ((∀ n, chosen = some n → Text.isWritable n = true) ∧
        ∃ line, numberLine keyword ((chosen.map Value.int).getD .null) = .ok line) ∨
      ∃ n, chosen = some n ∧ Text.isWritable n = false ∧
        numberLine keyword ((chosen.map Value.int).getD .null) = misused .wrongValue := by
  cases chosen with
  | none => exact .inl ⟨nofun, _, rfl⟩
  | some n =>
      have line := numberLine_int keyword n
      cases few : Text.isWritable n with
      | true =>
          rw [few, if_pos rfl] at line
          refine .inl ⟨?_, _, line⟩
          intro m same
          rw [← Option.some.inj same, few]
      | false =>
          rw [few, if_neg Bool.false_ne_true] at line
          exact .inr ⟨n, rfl, few, line⟩

theorem numberLine_offsetOnlyLimit {dialect : Dialect}
    (builtin : dialect ∈ Dialect.builtin.map Prod.snd) (keyword : String) :
    ∃ line, numberLine keyword dialect.offsetOnlyLimit = .ok line := by
  have known : dialect = .mysql ∨ dialect = .postgres ∨ dialect = .sqlite := by
    simpa [Dialect.builtin] using builtin
  have few : Text.isWritable 18446744073709551615 = true ∧ Text.isWritable (-1) = true := by
    decide +kernel
  rcases known with rfl | rfl | rfl
  · exact ⟨_, (numberLine_int keyword _).trans (if_pos few.1)⟩
  · exact ⟨_, rfl⟩
  · exact ⟨_, (numberLine_int keyword _).trans (if_pos few.2)⟩

end Sql

namespace Query

variable {query : Query}

theorem effectiveLimit_cases (window : Sql.Window) (offsetOnlyLimit : Value) :
    window.effectiveLimit offsetOnlyLimit = window.limit ∨
      window.effectiveLimit offsetOnlyLimit = offsetOnlyLimit := by
  unfold Sql.Window.effectiveLimit
  split
  · exact .inr rfl
  · exact .inl rfl

theorem limitLine_cases
    (builtin : query.setup.generator.dialect ∈ Dialect.builtin.map Prod.snd) :
    let line := Sql.numberLine "LIMIT"
      (query.window.effectiveLimit query.setup.generator.dialect.offsetOnlyLimit)
    ((∀ n, query.limit? = some n → Text.isWritable n = true) ∧ ∃ text, line = .ok text) ∨
      ∃ n, query.limit? = some n ∧ Text.isWritable n = false ∧ line = misused .wrongValue := by
  intro line
  cases chosen : query.limit? with
  | some n =>
      have same : line = Sql.numberLine "LIMIT" (((some n).map Value.int).getD .null) := by
        simp only [line, window, Sql.Window.effectiveLimit, chosen]
        rfl
      rw [same]
      exact Sql.numberLine_chosen "LIMIT" (some n)
  | none =>
      refine .inl ⟨nofun, ?_⟩
      simp only [line, window, Sql.Window.effectiveLimit, chosen]
      split
      · exact Sql.numberLine_offsetOnlyLimit builtin "LIMIT"
      · exact ⟨_, rfl⟩

theorem windowText_cases
    (builtin : query.setup.generator.dialect ∈ Dialect.builtin.map Prod.snd)
    (rooted : query.setup.baseQuery? = none) :
    (¬ query.Unwritable ∧ ∃ text, query.windowText query.window = .ok text) ∨
      (query.Unwritable ∧ query.windowText query.window = misused .wrongValue) := by
  have lines : query.windowText query.window = (do
      let limit ← Sql.numberLine "LIMIT"
        (query.window.effectiveLimit query.setup.generator.dialect.offsetOnlyLimit)
      let offset ← Sql.numberLine "OFFSET" query.window.offset
      .ok (limit ++ offset)) := by
    unfold windowText
    rw [rooted]
    rfl
  rw [lines]
  rcases limitLine_cases builtin with ⟨few, limit, written⟩ | ⟨n, chosen, many, failed⟩
  · rw [Outcome.bind_of_ok written]
    rcases Sql.numberLine_chosen "OFFSET" query.offset? with
      ⟨also, offset, next⟩ | ⟨n, chosen, many, failed⟩
    · refine .inl ⟨?_, _, Outcome.bind_of_ok next⟩
      rintro ⟨n, limited | moved, many⟩
      · exact absurd (many.symm.trans (few n limited)) Bool.false_ne_true
      · exact absurd (many.symm.trans (also n moved)) Bool.false_ne_true
    · exact .inr ⟨⟨n, .inr chosen, many⟩, Outcome.bind_of_error failed⟩
  · exact .inr ⟨⟨n, .inl chosen, many⟩, Outcome.bind_of_error failed⟩

theorem Composed.presentable (composed : Composed query) :
    ∀ request ∈ query.relations, request.Presentable :=
  fun request inside => (composed.registered request inside).presentable

/-- Without a base query, building a statement fails exactly on a number with too many digits. -/
theorem Composed.build_cases (composed : Composed query)
    (builtin : query.setup.generator.dialect ∈ Dialect.builtin.map Prod.snd)
    (rooted : query.setup.baseQuery? = none) :
    (¬ query.Unwritable ∧ ∃ statement, query.build query.window = .ok statement) ∨
      (query.Unwritable ∧ query.build query.window = misused .wrongValue) := by
  have sourced : query.source = .ok ⟨query.setup.table ++ " " ++ query.setup.baseAlias, []⟩ := by
    unfold source
    simp only [rooted]
  rw [build_eq composed.presentable, Outcome.bind_of_ok sourced]
  rcases windowText_cases builtin rooted with ⟨few, text, written⟩ | ⟨many, failed⟩
  · exact .inl ⟨few, _, Outcome.bind_of_ok written⟩
  · exact .inr ⟨many, Outcome.bind_of_error failed⟩

end Query

end NestedSelect
