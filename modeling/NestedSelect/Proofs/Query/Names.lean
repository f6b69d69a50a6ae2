import NestedSelect.Proofs.Query.Aliases
import NestedSelect.Proofs.Query.Misnaming
import NestedSelect.Proofs.Query.Placeholders
import NestedSelect.Proofs.Query.Wildcards

/-!
The names in the statements of a query.

A statement is put together from words that are known beforehand and from names: those that its
relations are attached by, and those of the columns that filters and orders go by. What a caller,
the mapping or a descriptor gives as a name is checked when it is registered. Columns that are
found out in place of a wildcard are written as they are found, so it depends on them whether all
names in a statement are safe.
-/

namespace NestedSelect

open Sql (BoundStatement Mentions Window)
open Identifier (IsSafe)
open Outcome (FailsWith Misnamed)
open Request (Settles)
open Query

variable {σ : Type}

namespace Query

def statementWords : List String :=
  Generator.fragmentWords ++
    ["SELECT ", ".*", ",\n       ", ") ", "\n", "WHERE ", " AND ", " ?", "ORDER BY ", "LIMIT",
      "OFFSET"]

/-- The words of the statements of a query. A base query is a single word, whatever stands in it. -/
inductive Word (query : Query) : String → Prop where
  | fixed {word : String} (inside : word ∈ statementWords) : Word query word
  | operator {operator : String} (allowed : operator ∈ allowedOperators) :
      Word query (Text.upper operator)
  | direction {direction : String} (known : direction ∈ directions) :
      Word query (Text.upper direction)
  | dialect {word : Value} (inside : word ∈ [query.setup.generator.dialect.jsonObject,
      query.setup.generator.dialect.jsonArrayAgg, query.setup.generator.dialect.emptyArray]) :
      Word query word.display
  | root {word : String} (inside : word ∈ [query.setup.table, query.setup.baseAlias,
      query.setup.generator.baseAlias]) : Word query word
  | base {base : BaseQuery} {rendered : BoundStatement} (given : query.setup.baseQuery? = some base)
      (written : Sql.renderBaseQuery query.setup.schema query.setup.generator.dialect base =
        .ok rendered) : Word query rendered.text
  | number (n : Int) : Word query (toString n)

def orderNames (query : Query) : List String :=
  if query.setup.baseQuery?.isNone then query.orders.map OrderTerm.column else []

def names (query : Query) : List String :=
  query.relations.flatMap Request.itemNames ++ (query.singles.flatMap Request.joinNames ++
    query.filters.map Filter.column) ++ query.orderNames

variable {query : Query}

theorem speaks (query : Query) : query.setup.generator.Speaks query.Word :=
  ⟨fun _ inside => .fixed (List.mem_append_left _ inside), .dialect (by simp), .dialect (by simp),
    .dialect (by simp), .root (by simp)⟩

theorem mentions_word {word : String} (inside : word ∈ statementWords) :
    Mentions query.Word [] word := .word (.fixed inside)

theorem mentions_qualify (column : String) :
    Mentions query.Word [column] (Identifier.qualify column query.setup.baseAlias) := by
  unfold Identifier.qualify
  split
  · exact .bare column
  · have root : Mentions query.Word [] query.setup.baseAlias := .word (.root (by simp))
    exact (root.append (mentions_word (by decide))).append (.bare column)

theorem mentions_clauseLine {keyword clause : String} {names : List String}
    (known : keyword ∈ statementWords) (mentions : Mentions query.Word names clause) :
    Mentions query.Word names (Sql.clauseLine keyword clause) := by
  unfold Sql.clauseLine
  split
  · rename_i empty
    rwa [empty] at mentions
  · have line : Mentions query.Word [] "\n" := mentions_word (by decide)
    exact (line.append (mentions_word known)).append mentions

theorem mentions_numberLine {keyword line : String} {value : Value}
    (known : keyword ∈ statementWords) (written : Sql.numberLine keyword value = .ok line) :
    Mentions query.Word [] line := by
  unfold Sql.numberLine at written
  split at written
  · cases written
    exact mentions_word (by decide)
  · obtain ⟨digits, numeral_, written⟩ := Outcome.bind_eq_ok written
    obtain ⟨n, _, numeral_⟩ := Outcome.bind_eq_ok numeral_
    split at numeral_
    · cases numeral_
      cases written
      have line : Mentions query.Word [] "\n" := mentions_word (by decide)
      have blank : Mentions query.Word [] " " := mentions_word (by decide)
      exact ((line.append (mentions_word known)).append blank).append (.word (.number n))
    · cases numeral_

theorem mentions_conditions (checked : query.Checked) :
    Mentions query.Word (query.filters.map Filter.column)
      (Sql.conditions query.filters query.setup.baseAlias) := by
  rw [List.map_eq_flatMap]
  apply Mentions.intercalate (.fixed (by decide)) (.fixed (by decide))
  intro filter inside
  have blank : Mentions query.Word [] " " := mentions_word (by decide)
  have operator : Mentions query.Word [] (Text.upper filter.operator) :=
    .word (.operator (checked.filters filter inside).2)
  have mark : Mentions query.Word [] " ?" := mentions_word (by decide)
  exact (((mentions_qualify filter.column).append blank).append operator).append mark

theorem mentions_orderText (checked : query.Checked) :
    Mentions query.Word query.orderNames query.orderText := by
  unfold orderNames orderText
  split
  · apply mentions_clauseLine (by decide)
    rw [List.map_eq_flatMap]
    apply Mentions.intercalate (.fixed (by decide)) (.fixed (by decide))
    intro order inside
    have blank : Mentions query.Word [] " " := mentions_word (by decide)
    have direction : Mentions query.Word [] (Text.upper order.direction) :=
      .word (.direction (checked.orders order inside).2)
    exact ((mentions_qualify order.column).append blank).append direction
  · exact mentions_word (by decide)

theorem mentions_columnsText :
    Mentions query.Word (query.relations.flatMap Request.itemNames) query.columnsText := by
  have root : Mentions query.Word [] (query.setup.baseAlias ++ ".*") :=
    (Mentions.word (.root (by simp))).append (mentions_word (by decide))
  have items : List.Forall₂ (Mentions query.Word) (query.relations.map Request.itemNames)
      (query.relations.map query.setup.generator.item) :=
    List.forall₂_map_left_iff.2 (List.forall₂_map_right_iff.2
      (List.forall₂_same.2 (fun request _ => query.speaks.item request)))
  have whole : Mentions query.Word ([] :: query.relations.map Request.itemNames).flatten
      query.columnsText := .joined (.fixed (by decide)) (.fixed (by decide)) (.cons root items)
  rwa [List.flatten_cons, List.nil_append, ← List.flatMap_def] at whole

theorem mentions_source {source : BoundStatement} (sourced : query.source = .ok source) :
    Mentions query.Word [] source.text := by
  have root : Mentions query.Word [] query.setup.baseAlias := .word (.root (by simp))
  unfold Query.source at sourced
  simp only at sourced
  cases based : query.setup.baseQuery? with
  | none =>
      rw [based] at sourced
      cases sourced
      have table : Mentions query.Word [] query.setup.table := .word (.root (by simp))
      exact (table.append (mentions_word (by decide))).append root
  | some base =>
      rw [based] at sourced
      obtain ⟨rendered, written, sourced⟩ := Outcome.bind_eq_ok sourced
      cases sourced
      have opening : Mentions query.Word [] "(" := mentions_word (by decide)
      have closing : Mentions query.Word [] ") " := mentions_word (by decide)
      exact ((opening.append (.word (.base based written))).append closing).append root

theorem mentions_body (checked : query.Checked) {source : BoundStatement}
    (sourced : query.source = .ok source) :
    Mentions query.Word (query.singles.flatMap Request.joinNames ++
      query.filters.map Filter.column) (query.body source.text) := by
  have joins : Mentions query.Word (query.singles.flatMap Request.joinNames)
      (String.intercalate "\n" (query.setup.generator.joins query.relations)) :=
    .intercalate (.fixed (by decide)) (.fixed (by decide))
      (fun request _ => query.speaks.join request)
  exact ((mentions_source sourced).append (mentions_clauseLine (by decide) joins)).append
    (mentions_clauseLine (by decide) (mentions_conditions checked))

theorem mentions_windowText {window : Window} {text : String}
    (written : query.windowText window = .ok text) : Mentions query.Word [] text := by
  obtain ⟨limit, first, written⟩ := Outcome.bind_eq_ok written
  obtain ⟨offset, second, written⟩ := Outcome.bind_eq_ok written
  cases written
  exact (mentions_numberLine (by decide) first).append (mentions_numberLine (by decide) second)

theorem mentions_build {window : Window} {statement : BoundStatement} (checked : query.Checked)
    (fit : ∀ request ∈ query.relations, request.Presentable)
    (built : query.build window = .ok statement) :
    Mentions query.Word query.names statement.text := by
  rw [build_eq fit] at built
  obtain ⟨source, sourced, built⟩ := Outcome.bind_eq_ok built
  obtain ⟨lines, written, built⟩ := Outcome.bind_eq_ok built
  cases built
  have select : Mentions query.Word [] "SELECT " := mentions_word (by decide)
  have from_ : Mentions query.Word [] " FROM " := mentions_word (by decide)
  have whole := ((((select.append mentions_columnsText).append from_).append
    (mentions_body checked sourced)).append (mentions_orderText checked)).append
    (mentions_windowText written)
  rwa [List.append_nil, List.append_nil, List.nil_append] at whole

end Query

def SafeColumns : TableColumns := fun _ columns => ∀ column ∈ columns, IsSafe column.display

/-- The columns of the mapping and those that are configured have safe names. -/
structure QuerySetup.DeclaresSafely (setup : QuerySetup) : Prop where
  keyed : ∀ model ∈ setup.schema.models, ∀ name ∈ model.primaryKey, IsSafe name
  declared : ∀ model ∈ setup.schema.models, ∀ column ∈ model.storedColumns, IsSafe column.name
  configured : ∀ entry ∈ setup.config.columnCache, ∀ column ∈ entry.2, IsSafe column.display

theorem QuerySetup.DeclaresSafely.safe_declared {setup : QuerySetup}
    (declares : setup.DeclaresSafely) {handle : Handle} {name : String}
    (member : name ∈ handle.declaredColumns setup.schema) : IsSafe name := by
  unfold Handle.declaredColumns at member
  split at member
  · cases member
  · rename_i model found
    have there : model ∈ setup.schema.models := by
      cases handle with
      | model given => exact List.mem_of_find?_eq_some (Option.filter_eq_some_iff.1 found).1
      | table => cases found
      | nothing => cases found
    rcases Handle.mem_listColumns.1 member with primary | ⟨column, inside, stored, rfl⟩
    · exact declares.keyed model there name primary
    · exact declares.declared model there column (List.mem_filter.2 ⟨inside, stored⟩)

theorem QuerySetup.DeclaresSafely.static {setup : QuerySetup} (declares : setup.DeclaresSafely)
    {request : Request} {columns : List Value}
    (known : staticColumnsOf setup request = some columns) :
    SafeColumns request.relation.table columns := by
  unfold staticColumnsOf staticColumns at known
  split at known
  · have configured : setup.config.columnsFor request.relation.table = some columns := known
    have listed := Record.mem_of_get? (Option.filter_eq_some_iff.1 configured).1
    exact declares.configured _ listed
  · cases known
    intro column member
    obtain ⟨name, inside, rfl⟩ := List.mem_map.1 member
    exact declares.safe_declared inside

def Introspector.AnswersSafely (introspector : Introspector σ) : Prop :=
  introspector.Gives (fun _ => True) SafeColumns

namespace Request

variable {setup : QuerySetup} {request : Request} {asked : Attachment}

def foundColumns (asked : Attachment) (request : Request) : List Value :=
  match requestedColumns asked.mode asked.columns request.name with
  | .ok columns => if columns.isWildcard then request.writtenColumns else []
  | .error _ => []

theorem Registered.safe_outputKey (registered : request.Registered setup) :
    IsSafe request.outputKey := by
  unfold outputKey
  split
  · exact registered.named.append (by decide)
  · exact registered.named
  · exact registered.named

theorem AnswersTo.itemNames_cases (answers : request.AnswersTo asked)
    (registered : request.Registered setup) (settled : request.isWildcard = false) {name : String}
    (member : name ∈ request.itemNames) :
    IsSafe name ∨ ∃ column ∈ request.foundColumns asked, column.display = name := by
  rcases mem_itemNames member with text | rfl | ⟨column, written, rfl⟩
  · exact .inl (registered.wellFormed.safe registered.named name text)
  · exact .inl registered.safe_outputKey
  obtain ⟨columns, wanted, form⟩ := answers.columns
  have inMode := answers.inMode
  unfold foundColumns
  rw [wanted]
  unfold writtenColumns at written ⊢
  generalize given : request.columns = columns at form written ⊢
  generalize asked.mode = mode at form inMode
  cases form with
  | counted => cases written
  | @named _ names _ _ _ safe =>
      obtain ⟨name, inside, rfl⟩ := List.mem_map.1 written
      exact .inl (safe name inside)
  | waiting counts =>
      rw [← inMode] at counts
      cases (isWildcard_of_wildcard counts given).symm.trans settled
  | found => exact .inr ⟨column, written, rfl⟩

theorem found_cases (inMode : request.mode = asked.mode) {column : Value}
    (found : column ∈ request.foundColumns asked) :
    request.mode ≠ .count ∧
      requestedColumns asked.mode asked.columns request.name = .ok .wildcard ∧
      column ∈ request.writtenColumns := by
  unfold foundColumns at found
  split at found
  · rename_i columns wanted
    split at found
    · rename_i wild
      have star : columns = .wildcard := by
        cases columns with
        | text s => exact congrArg Columns.text (beq_iff_eq.1 wild)
        | listed => cases wild
        | unlisted => cases wild
      subst star
      refine ⟨?_, wanted, found⟩
      intro isCount
      rw [← inMode, isCount] at wanted
      cases wanted
    · cases found
  · cases found

theorem AnswersTo.found_mem_itemNames (answers : request.AnswersTo asked) {column : Value}
    (found : column ∈ request.foundColumns asked) : column.display ∈ request.itemNames := by
  obtain ⟨counts, _, written⟩ := found_cases answers.inMode found
  have object (source : String) : column.display ∈ objectNames source request.writtenColumns :=
    List.mem_flatMap.2 ⟨column, written, List.mem_cons_self⟩
  unfold itemNames
  cases mode : request.mode with
  | single => simp [object]
  | collection => simp [object]
  | count => exact absurd mode counts

theorem ComesOf.safe_found (comes : request.ComesOf SafeColumns asked)
    (settled : request.isWildcard = false) :
    ∀ column ∈ request.foundColumns asked, IsSafe column.display := by
  intro column found
  obtain ⟨counts, wanted, written⟩ := found_cases comes.inMode found
  obtain ⟨columns, given, settles⟩ := comes.settles
  cases wanted.symm.trans given
  rcases settles.columns_cases with waiting | ⟨_, first, rest, listed, fit⟩
  · cases (isWildcard_of_wildcard counts waiting).symm.trans settled
  · unfold writtenColumns at written
    rw [listed] at written
    exact fit column written

end Request

/-- The columns that were found out in a session, in place of the wildcards that were asked for. -/
def Session.foundColumns (session : Session σ) : List Value :=
  (List.zipWith Request.foundColumns (accepted Call.attachment? session.history)
    session.query.relations).flatten

section

variable {α β γ : Type} {related : α → β → Prop} {listed : α → β → List γ} {as : List α}
  {bs : List β}

theorem exists_of_mem_flatten_zipWith (all : List.Forall₂ related as bs) {c : γ}
    (member : c ∈ (List.zipWith listed as bs).flatten) :
    ∃ a, ∃ b ∈ bs, related a b ∧ c ∈ listed a b := by
  induction all with
  | nil => cases member
  | @cons a b _ _ first _ ih =>
      rw [List.zipWith_cons_cons, List.flatten_cons] at member
      rcases List.mem_append.1 member with here | there
      · exact ⟨a, b, List.mem_cons_self, first, here⟩
      · obtain ⟨other, second, inside, same, found⟩ := ih there
        exact ⟨other, second, List.mem_cons_of_mem b inside, same, found⟩

theorem exists_subset_flatten_zipWith (all : List.Forall₂ related as bs) {b : β} (inside : b ∈ bs) :
    ∃ a, related a b ∧ listed a b ⊆ (List.zipWith listed as bs).flatten := by
  induction all with
  | nil => cases inside
  | @cons a other _ _ first _ ih =>
      rw [List.zipWith_cons_cons, List.flatten_cons]
      rcases List.mem_cons.1 inside with rfl | later
      · exact ⟨a, first, List.subset_append_left _ _⟩
      · obtain ⟨second, same, subset⟩ := ih later
        exact ⟨second, same, List.Subset.trans subset (List.subset_append_right _ _)⟩

end

namespace Query

variable {query later : Query} {world after : σ} {awaits : Bool} {found : Outcome Unit}
  {introspector? : Option (Introspector σ)}

theorem Discovery.safe (step : Discovery awaits introspector? query world found later after)
    (declares : query.setup.DeclaresSafely)
    (answers : ∀ introspector, introspector? = some introspector → introspector.AnswersSafely)
    (fitting : ListingsFit SafeColumns query.listings) :
    List.Forall₂ (Settles SafeColumns) query.relations later.relations ∧
      ListingsFit SafeColumns later.listings := by
  apply step.fits fitting
  · intro request _ _ columns known
    exact declares.static known
  · intro answer listings fitting asked
    exact introspectPending_fits answers (fun _ _ => trivial) fitting asked

end Query

namespace Session

variable {hydrators : HydratorSource} {link : Link σ} {session : Session σ}

/-- Every name in a statement is safe, unless it is that of a column that was found out. -/
theorem names_cases (composed : session.query.Composed) (checked : session.query.Checked)
    (answers : List.Forall₂ Request.AnswersTo (accepted Call.attachment? session.history)
      session.query.relations)
    (settled : ∀ request ∈ session.query.relations, request.isWildcard = false) {name : String}
    (member : name ∈ session.query.names) :
    IsSafe name ∨ ∃ column ∈ session.foundColumns, column.display = name := by
  rcases List.mem_append.1 member with body | order
  · rcases List.mem_append.1 body with item | rest
    · obtain ⟨request, inside, mentioned⟩ := List.mem_flatMap.1 item
      obtain ⟨asked, answers, subset⟩ := exists_subset_flatten_zipWith answers inside
      rcases answers.itemNames_cases (composed.registered request inside)
        (settled request inside) mentioned with safe | ⟨column, found, same⟩
      · exact .inl safe
      · exact .inr ⟨column, subset found, same⟩
    · rcases List.mem_append.1 rest with joined | filtered
      · obtain ⟨request, single, mentioned⟩ := List.mem_flatMap.1 joined
        have registered := composed.registered request (List.mem_filter.1 single).1
        exact .inl (registered.wellFormed.safe registered.named name
          (Request.joinNames_subset mentioned))
      · obtain ⟨filter, inside, rfl⟩ := List.mem_map.1 filtered
        exact .inl (checked.filters filter inside).1
  · unfold orderNames at order
    split at order
    · obtain ⟨term, inside, rfl⟩ := List.mem_map.1 order
      exact .inl (checked.orders term inside).1
    · cases order

theorem found_mem_names
    (answers : List.Forall₂ Request.AnswersTo (accepted Call.attachment? session.history)
      session.query.relations)
    {column : Value} (found : column ∈ session.foundColumns) :
    column.display ∈ session.query.names := by
  obtain ⟨asked, request, inside, answers, written⟩ := exists_of_mem_flatten_zipWith answers found
  have item : column.display ∈ session.query.relations.flatMap Request.itemNames :=
    List.mem_flatMap.2 ⟨request, inside, answers.found_mem_itemNames written⟩
  exact List.mem_append_left _ (List.mem_append_left _ item)

theorem names_safe (composed : session.query.Composed) (checked : session.query.Checked)
    (answers : List.Forall₂ Request.AnswersTo (accepted Call.attachment? session.history)
      session.query.relations)
    (settled : ∀ request ∈ session.query.relations, request.isWildcard = false) :
    (∀ name ∈ session.query.names, IsSafe name) ↔
      ∀ column ∈ session.foundColumns, IsSafe column.display := by
  constructor
  · intro safe column found
    exact safe _ (found_mem_names answers found)
  · intro safe name member
    rcases names_cases composed checked answers settled member with known | ⟨column, found, rfl⟩
    · exact known
    · exact safe column found

theorem safe_run (hydrators : HydratorSource) {setup : QuerySetup}
    (declares : setup.DeclaresSafely)
    (answers : ∀ introspector, link.introspector? = some introspector →
      introspector.AnswersSafely) (world : σ) (calls : List Call) :
    let session := (opened setup world).run hydrators link calls
    session.query.setup = setup ∧ ListingsFit SafeColumns session.query.listings ∧
      List.Forall₂ (Request.ComesOf SafeColumns) (accepted Call.attachment? session.history)
        session.query.relations := by
  apply run_preserves (fun session => session.query.setup = setup ∧
    ListingsFit SafeColumns session.query.listings ∧
      List.Forall₂ (Request.ComesOf SafeColumns) (accepted Call.attachment? session.history)
        session.query.relations)
  · intro session call before
    obtain ⟨rfl, fitting, comes⟩ := before
    have step : Advance link session.query session.world call
        (session.outcome hydrators link call) (session.call hydrators link call).query
        (session.call hydrators link call).world := session.call_advance call
    refine ⟨step.setup_eq, ?_, ?_⟩
    · rcases step.listings_cases with same | ⟨_, warnings, _, _, discovery⟩
      · rw [same]
        exact fitting
      · exact (discovery.safe declares answers fitting).2
    · exact step.comesOf (fun _ _ _ _ discovery => (discovery.safe declares answers fitting).1)
        comes
  · refine ⟨rfl, ?_, .nil⟩
    intro table first rest impossible
    cases impossible

theorem safe_foundColumns {setup : QuerySetup} (declares : setup.DeclaresSafely)
    (answers : ∀ introspector, link.introspector? = some introspector →
      introspector.AnswersSafely) (world : σ) (calls : List Call)
    (settled : ∀ request ∈ ((opened setup world).run hydrators link calls).query.relations,
      request.isWildcard = false) :
    ∀ column ∈ ((opened setup world).run hydrators link calls).foundColumns,
      IsSafe column.display := by
  obtain ⟨_, _, comes⟩ := safe_run hydrators declares answers world calls
  intro column found
  obtain ⟨asked, request, inside, comes, written⟩ := exists_of_mem_flatten_zipWith comes found
  exact comes.safe_found (settled request inside) column written

end Session

/-- Names in statements are safe as far as they were not found out. Whatever was called in a session
and whatever came of it: a statement that is compiled is put together from words and names, and each
of the names is safe or that of a column that was found out in place of a wildcard. So all are safe
exactly if the columns that were found out are, and always if the mapping, the options and the
introspector have none but safe columns. Every call that gives a wrong name is refused for a name.
A relation that is not resolved has a wrong name, is none that can be attached, or is asked of
something that fails. -/
theorem names_safe_iff (hydrators : HydratorSource) (link : Link σ) (setup : QuerySetup) (world : σ)
    (calls : List Call) :
    let session := (Session.opened setup world).run hydrators link calls
    (∀ awaits statement,
      session.outcome hydrators link (.compile awaits) = .ok (.statement statement) →
        let next := session.call hydrators link (.compile awaits)
        Mentions next.query.Word next.query.names statement.text ∧
        (∀ name ∈ next.query.names,
          IsSafe name ∨ ∃ column ∈ next.foundColumns, column.display = name) ∧
        ((∀ name ∈ next.query.names, IsSafe name) ↔
          ∀ column ∈ next.foundColumns, IsSafe column.display) ∧
        (setup.DeclaresSafely → (∀ introspector, link.introspector? = some introspector →
          introspector.AnswersSafely) → ∀ name ∈ next.query.names, IsSafe name)) ∧
    (∀ call, call.Misnames setup →
      let next := session.call hydrators link call
      Misnamed (session.outcome hydrators link call) ∧ next.world = session.world ∧
        ∃ warnings, next.query = session.query.noting warnings) ∧
    (∀ name, FailsWith
      (fun fault => Relation.Unresolved fault ∨
        Relation.Misfires setup.schema setup.root name fault) (setup.resolve name)) := by
  intro session
  refine ⟨?_, ?_, Relation.resolve_unresolved setup.matchers setup.root⟩
  · intro awaits statement done next
    have reached : next = (Session.opened setup world).run hydrators link
        (calls ++ [.compile awaits]) := (Session.run_append _ calls [.compile awaits]).symm
    have composed : session.query.Composed := .run hydrators link setup world calls
    have settled : ∀ request ∈ next.query.relations, request.isWildcard = false :=
      (Session.compiled_cases composed done).1
    obtain ⟨_, _, same, built⟩ := Session.compiled done
    cases same
    have later : next.query.Composed := by
      rw [reached]
      exact .run hydrators link setup world _
    have checked : next.query.Checked := by
      rw [reached]
      exact .run hydrators link setup world _
    have answers : List.Forall₂ Request.AnswersTo (accepted Call.attachment? next.history)
        next.query.relations := by
      rw [reached]
      exact Session.answers_run hydrators link setup world _
    have mentions := mentions_build checked later.presentable built
    have safe_iff := Session.names_safe later checked answers settled
    refine ⟨mentions, ?_, safe_iff, ?_⟩
    · intro name member
      exact Session.names_cases later checked answers settled member
    · intro declares introspects
      apply safe_iff.2
      rw [reached] at settled ⊢
      exact Session.safe_foundColumns declares introspects world _ settled
  · intro call misnames
    have same : session.query.setup = setup := Session.setup_run hydrators link setup world calls
    rw [← same] at misnames
    have composed : session.query.Composed := .run hydrators link setup world calls
    exact session.misnamed hydrators link misnames composed.faithful

/-- Partners with their documents of a bare table, whose columns are found out, and with those of a
model, whose columns are given. -/
def documentsNamed : Session Unit :=
  (Session.opened (documentsSetup Config.initial) ()).run ⟨HydratorRegistry.initial, []⟩
    ⟨none, some (Introspector.fixed documentColumns)⟩
    [.attach .single (.text "raw") (.text "*"),
      .attach .single (.text "doc") (.list [.text "title"]),
      .filter (.text "name") (.text "=") (.text "A")]

theorem names_safe_documents :
    let hydrators : HydratorSource := ⟨HydratorRegistry.initial, []⟩
    let link : Link Unit := ⟨none, some (Introspector.fixed documentColumns)⟩
    let next := documentsNamed.call hydrators link (.compile false)
    (∃ statement, documentsNamed.outcome hydrators link (.compile false) =
      .ok (.statement statement)) ∧
    (∀ name ∈ next.query.names, IsSafe name) ∧
    Misnamed (documentsNamed.outcome hydrators link
      (.orderBy (.text "name; --") (.text "asc"))) := by
  intro hydrators link next
  have law := names_safe_iff hydrators link (documentsSetup Config.initial) ()
    [.attach .single (.text "raw") (.text "*"),
      .attach .single (.text "doc") (.list [.text "title"]),
      .filter (.text "name") (.text "=") (.text "A")]
  have compiled : ∃ statement, documentsNamed.outcome hydrators link (.compile false) =
      .ok (.statement statement) := ⟨_, rfl⟩
  obtain ⟨statement, done⟩ := compiled
  have declares : (documentsSetup Config.initial).DeclaresSafely :=
    ⟨by decide, by decide, by decide⟩
  have introspects : ∀ introspector, link.introspector? = some introspector →
      introspector.AnswersSafely := by
    intro introspector there
    cases there
    have safe (table : String) : SafeColumns table (documentColumns table) := by
      unfold SafeColumns documentColumns
      split
      · decide
      · exact List.forall_mem_nil _
    have answering : (Introspector.fixed documentColumns : Introspector Unit).Answers
        documentColumns := Introspector.fixed_answers documentColumns
    have gives := answering.gives SafeColumns
    exact ⟨fun awaits table _ => gives.one awaits table (fun _ => safe table),
      fun awaits asked _ => gives.many awaits asked (fun table _ _ => safe table)⟩
  have wrong : Call.Misnames (documentsSetup Config.initial)
      (.orderBy (.text "name; --") (.text "asc")) := .orderBy (by decide)
  exact ⟨⟨statement, done⟩, (law.1 false statement done).2.2.2 declares introspects,
    (law.2.1 _ wrong).1⟩

/-- Columns that are configured for a table are written into the statement as they are, so a quote
in one of them ends the key that it is written as. -/
theorem names_not_safe_documents :
    ¬ ∀ (setup : QuerySetup) (calls : List Call) (statement : BoundStatement),
      let hydrators : HydratorSource := ⟨HydratorRegistry.initial, []⟩
      let session := (Session.opened setup ()).run hydrators ⟨none, none⟩ calls
      session.outcome hydrators ⟨none, none⟩ (.compile false) = .ok (.statement statement) →
        ∀ name ∈ (session.call hydrators ⟨none, none⟩ (.compile false)).query.names,
          IsSafe name := by
  intro law
  have safe := law (documentsSetup { columnCache := [("docs", [.text "o'clock"])] })
    [.attach .single (.text "raw") (.text "*")] _ rfl "o'clock"
  exact absurd (safe (by decide)) (by decide)

end NestedSelect
