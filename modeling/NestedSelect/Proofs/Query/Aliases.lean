import Mathlib.Data.List.Nodup
import NestedSelect.Proofs.Query.Composition

/-!
What the qualifiers in the statements of a query stand for.

A statement knows the root by its alias and each joined row by the name of its relation; a
subquery also knows its own table. The joined names are always apart as they are written. Nothing
keeps the alias of the root apart from them or from a table, nor apart what a database takes for the
same, so what they stand for depends on the names that are chosen.

Which names are the same to a database, and what the rows of a table go by there, is left open.
-/

namespace NestedSelect

open Sql (BoundStatement)
open Query

variable {σ : Type}

inductive Row.Origin where
  | root
  /-- The row that is joined for a relation. -/
  | joined (relation : String)
  /-- A row in the subquery for a relation. -/
  | nested (relation : String)
  deriving DecidableEq

/-- Rows that a statement takes from somewhere, with the names that they go by. -/
structure RowSource where
  names : List String
  origin : Row.Origin

def afterDots : List Char → List (List Char)
  | [] => []
  | c :: rest => if c = '.' then rest :: afterDots rest else afterDots rest

/-- How a database takes the names in a statement: names with one folding are the same to it, the
rows of a table without an alias go by all that it exposes, and where rows of several origins go by
one name, it may choose among them. -/
structure Naming where
  fold : String → String
  exposed : String → List String
  among : List Row.Origin → Option Row.Origin
  exposed_self : ∀ table, table ∈ exposed table
  among_single : ∀ origin, among [origin] = some origin
  mem_of_among : ∀ origins origin, among origins = some origin → origin ∈ origins

namespace Naming

/-- The names of a database that does not tell the case of letters. The rows of a table go by its
full name and by what is left of it without the areas in front, and no choice is made among rows of
several origins. -/
def caseless : Naming where
  fold name := String.ofList (name.toList.map Char.toLower)
  exposed table := table :: (afterDots table.toList).map String.ofList
  among
    | [origin] => some origin
    | _ => none
  exposed_self _ := List.mem_cons_self
  among_single _ := rfl
  mem_of_among origins origin chosen := by
    split at chosen
    · cases chosen
      exact List.mem_singleton_self _
    · cases chosen

variable (naming : Naming)

def takes (name : String) (source : RowSource) : Bool :=
  source.names.any (fun own => naming.fold own == naming.fold name)

/-- The origin of the rows that a qualifier stands for. The innermost sources that go by it
decide. -/
def origin? : List (List RowSource) → String → Option Row.Origin
  | [], _ => none
  | scope :: outer, name =>
      match scope.filter (naming.takes name) with
      | [] => origin? outer name
      | source :: more => naming.among (source.origin :: more.map RowSource.origin)

end Naming

namespace Query

variable (query : Query)

def singles : List Request := query.relations.filter (fun request => request.mode == .single)

/-- The rows that a statement is selected from: those of the root and the joined ones. -/
def sources : List RowSource :=
  ⟨[query.setup.baseAlias], .root⟩ ::
    query.singles.map (fun request => ⟨[request.relation.label], .joined request.name⟩)

end Query

namespace Request

variable (request : Request)

def place : String :=
  match request.mode with
  | .single => request.relation.label
  | .collection | .count => request.relation.table

def origin : Row.Origin :=
  match request.mode with
  | .single => .joined request.name
  | .collection | .count => .nested request.name

def scopes (naming : Naming) (query : Query) : List (List RowSource) :=
  match request.mode with
  | .single => [query.sources]
  | .collection | .count =>
      [[⟨naming.exposed request.relation.table, .nested request.name⟩], query.sources]

theorem origin_ne_root : request.origin ≠ .root := by
  unfold origin
  cases request.mode with
  | single => exact Row.Origin.noConfusion
  | collection => exact Row.Origin.noConfusion
  | count => exact Row.Origin.noConfusion

theorem place_nested (nested : request.mode ≠ .single) :
    request.place = request.relation.table := by
  unfold place
  cases mode : request.mode with
  | single => exact absurd mode nested
  | collection => rfl
  | count => rfl

end Request

/-- Every qualifier stands for the rows that it is meant for: the alias of the root, and for each
relation its own place and the alias of the root that its key is compared with. -/
structure Query.Qualified (naming : Naming) (query : Query) : Prop where
  root : naming.origin? [query.sources] query.setup.baseAlias = some .root
  own : ∀ request ∈ query.relations, naming.origin? (request.scopes naming query) request.place =
    some request.origin
  met : ∀ request ∈ query.relations,
    naming.origin? (request.scopes naming query) query.setup.generator.baseAlias = some .root

/-- The alias of the root and the names of the joined relations are different names, no table of a
subquery goes by that alias, and the generator writes it. -/
structure Query.AliasFree (naming : Naming) (query : Query) : Prop where
  apart : ((query.setup.baseAlias :: query.singles.map (fun request => request.relation.label)).map
    naming.fold).Nodup
  nested : ∀ request ∈ query.relations, request.mode ≠ .single →
    ∀ name ∈ naming.exposed request.relation.table,
      naming.fold name ≠ naming.fold query.setup.baseAlias
  written : query.relations ≠ [] →
    naming.fold query.setup.generator.baseAlias = naming.fold query.setup.baseAlias

namespace Naming

variable {naming : Naming} {scope : List RowSource} {outer : List (List RowSource)} {name : String}
  {origin : Row.Origin}

theorem takes_iff {source : RowSource} : naming.takes name source = true ↔
    ∃ own ∈ source.names, naming.fold own = naming.fold name := by
  simp only [takes, List.any_eq_true, beq_iff_eq]

theorem origin?_of_none (none : ∀ source ∈ scope, naming.takes name source = false) :
    naming.origin? (scope :: outer) name = naming.origin? outer name := by
  have nothing : scope.filter (naming.takes name) = [] :=
    List.filter_eq_nil_iff.2 (fun source inside => Bool.eq_false_iff.1 (none source inside))
  rw [origin?, nothing]

theorem origin?_of_only (source : RowSource)
    (only : scope.filter (naming.takes name) = [source]) :
    naming.origin? (scope :: outer) name = some source.origin := by
  rw [origin?, only]
  exact naming.among_single source.origin

theorem origin?_cases (found : naming.origin? (scope :: outer) name = some origin) :
    (∃ source ∈ scope, naming.takes name source = true ∧ source.origin = origin) ∨
      ((∀ source ∈ scope, naming.takes name source = false) ∧
        naming.origin? outer name = some origin) := by
  unfold origin? at found
  split at found
  · rename_i none
    refine .inr ⟨?_, found⟩
    intro source inside
    exact Bool.eq_false_iff.2 (List.filter_eq_nil_iff.1 none source inside)
  · rename_i first more known
    have chosen : origin ∈ (first :: more).map RowSource.origin :=
      naming.mem_of_among _ _ found
    obtain ⟨source, member, same⟩ := List.mem_map.1 chosen
    rw [← known] at member
    obtain ⟨inside, taken⟩ := List.mem_filter.1 member
    exact .inl ⟨source, inside, taken, same⟩

theorem origin?_congr {other : String} (same : naming.fold name = naming.fold other)
    (scopes : List (List RowSource)) :
    naming.origin? scopes name = naming.origin? scopes other := by
  have alike : naming.takes name = naming.takes other := by
    funext source
    simp only [takes, same]
  induction scopes with
  | nil => rfl
  | cons scope outer ih => simp only [origin?, alike, ih]

end Naming

theorem filter_eq_singleton_of_nodup {α β : Type} [BEq β] [LawfulBEq β] {key : α → β} {as : List α}
    (once : (as.map key).Nodup) {a : α} (inside : a ∈ as) :
    as.filter (fun other => key other == key a) = [a] := by
  induction as with
  | nil => cases inside
  | cons first rest ih =>
      obtain ⟨apart, others⟩ := List.nodup_cons.1 once
      rcases List.mem_cons.1 inside with rfl | there
      · have none : rest.filter (fun other => key other == key a) = [] := by
          rw [List.filter_eq_nil_iff]
          intro other member same
          exact apart (List.mem_map.2 ⟨other, member, beq_iff_eq.1 same⟩)
        rw [List.filter_cons, if_pos (beq_self_eq_true _), none]
      · have different : ¬ (key first == key a) = true := by
          intro same
          exact apart (List.mem_map.2 ⟨a, there, (beq_iff_eq.1 same).symm⟩)
        rw [List.filter_cons, if_neg different, ih others there]

namespace Query

variable {query : Query}

theorem mem_singles {request : Request} :
    request ∈ query.singles ↔ request ∈ query.relations ∧ request.mode = .single := by
  unfold singles
  rw [List.mem_filter, beq_iff_eq]

theorem Composed.label_eq (composed : query.Composed) {request : Request}
    (inside : request ∈ query.relations) : request.relation.label = request.name :=
  (composed.registered request inside).wellFormed.label_eq

theorem Composed.nodup_labels (composed : query.Composed) :
    (query.singles.map (fun request => request.relation.label)).Nodup := by
  have same : query.singles.map (fun request => request.relation.label) =
      query.singles.map Request.outputKey := by
    apply List.map_congr_left
    intro request member
    obtain ⟨inside, isSingle⟩ := mem_singles.1 member
    rw [composed.label_eq inside, Request.outputKey, isSingle]
  rw [same]
  exact composed.apart.sublist (List.filter_sublist.map Request.outputKey)

variable {naming : Naming}

theorem filter_sources (name : String) :
    query.sources.filter (naming.takes name) =
      (if naming.fold query.setup.baseAlias = naming.fold name then
        [⟨[query.setup.baseAlias], .root⟩] else []) ++
        (query.singles.filter
          (fun request => naming.fold request.relation.label == naming.fold name)).map
            (fun request => ⟨[request.relation.label], .joined request.name⟩) := by
  unfold sources
  rw [List.filter_cons, List.filter_map]
  have joins : naming.takes name ∘ (fun request : Request =>
      (⟨[request.relation.label], .joined request.name⟩ : RowSource)) =
        fun request => naming.fold request.relation.label == naming.fold name := by
    funext request
    simp [Naming.takes]
  rw [joins]
  by_cases same : naming.fold query.setup.baseAlias = naming.fold name
  · simp [Naming.takes, same]
  · simp [Naming.takes, same]

theorem fold_eq_of_root {name : String} (found : naming.origin? [query.sources] name = some .root) :
    naming.fold query.setup.baseAlias = naming.fold name := by
  rcases Naming.origin?_cases found with ⟨source, inside, taken, isRoot⟩ | ⟨_, impossible⟩
  · rcases List.mem_cons.1 inside with rfl | joined
    · obtain ⟨own, named, same⟩ := Naming.takes_iff.1 taken
      rwa [List.mem_singleton.1 named] at same
    · obtain ⟨request, _, rfl⟩ := List.mem_map.1 joined
      cases isRoot
  · cases impossible

theorem origin?_baseAlias (free : ∀ request ∈ query.singles,
    naming.fold request.relation.label ≠ naming.fold query.setup.baseAlias) :
    naming.origin? [query.sources] query.setup.baseAlias = some .root := by
  have none : query.singles.filter (fun request =>
      naming.fold request.relation.label == naming.fold query.setup.baseAlias) = [] := by
    rw [List.filter_eq_nil_iff]
    intro request inside same
    exact free request inside (beq_iff_eq.1 same)
  refine Naming.origin?_of_only ⟨[query.setup.baseAlias], .root⟩ ?_
  rw [filter_sources, if_pos rfl, none]
  rfl

theorem origin?_label (apart : (query.singles.map
    (fun request => naming.fold request.relation.label)).Nodup) {request : Request}
    (inside : request ∈ query.singles)
    (free : naming.fold request.relation.label ≠ naming.fold query.setup.baseAlias) :
    naming.origin? [query.sources] request.relation.label = some (.joined request.name) := by
  have only := filter_eq_singleton_of_nodup apart inside
  refine Naming.origin?_of_only ⟨[request.relation.label], .joined request.name⟩ ?_
  rw [filter_sources, if_neg (Ne.symm free), only]
  rfl

theorem source_aliased {source : BoundStatement} (sourced : query.source = .ok source) :
    ∃ rows, source.text = rows ++ " " ++ query.setup.baseAlias := by
  unfold Query.source at sourced
  simp only at sourced
  split at sourced
  · cases sourced
    exact ⟨query.setup.table, rfl⟩
  · obtain ⟨rendered, _, sourced⟩ := Outcome.bind_eq_ok sourced
    cases sourced
    refine ⟨"(" ++ rendered.text ++ ")", ?_⟩
    simp only [String.append_assoc]
    rfl

theorem scopes_single {request : Request} (isSingle : request.mode = .single) :
    request.scopes naming query = [query.sources] := by
  rw [Request.scopes, isSingle]

theorem scopes_nested {request : Request} (nested : request.mode ≠ .single) :
    request.scopes naming query =
      [[⟨naming.exposed request.relation.table, request.origin⟩], query.sources] := by
  unfold Request.scopes Request.origin
  cases mode : request.mode with
  | single => exact absurd mode nested
  | collection => rfl
  | count => rfl

theorem origin?_hidden {request : Request} (nested : request.mode ≠ .single) {own name : String}
    (shown : own ∈ naming.exposed request.relation.table)
    (same : naming.fold own = naming.fold name) :
    naming.origin? (request.scopes naming query) name = some request.origin := by
  rw [scopes_nested nested]
  have taken : naming.takes name ⟨naming.exposed request.relation.table, request.origin⟩ = true :=
    Naming.takes_iff.2 ⟨own, shown, same⟩
  exact Naming.origin?_of_only _ (by rw [List.filter_cons, if_pos taken, List.filter_nil])

theorem origin?_visible {request : Request} {name : String}
    (visible : request.mode ≠ .single → ∀ own ∈ naming.exposed request.relation.table,
      naming.fold own ≠ naming.fold name) :
    naming.origin? (request.scopes naming query) name = naming.origin? [query.sources] name := by
  by_cases isSingle : request.mode = .single
  · rw [scopes_single isSingle]
  · rw [scopes_nested isSingle]
    apply Naming.origin?_of_none
    intro source inside
    rw [List.mem_singleton.1 inside, Bool.eq_false_iff]
    intro taken
    obtain ⟨own, shown, same⟩ := Naming.takes_iff.1 taken
    exact visible isSingle own shown same

theorem baseAlias_of_met {request : Request} {name : String}
    (met : naming.origin? (request.scopes naming query) name = some .root) :
    naming.fold query.setup.baseAlias = naming.fold name ∧
      (request.mode ≠ .single → ∀ own ∈ naming.exposed request.relation.table,
        naming.fold own ≠ naming.fold name) := by
  have visible : request.mode ≠ .single → ∀ own ∈ naming.exposed request.relation.table,
      naming.fold own ≠ naming.fold name := by
    intro nested own shown same
    rw [origin?_hidden nested shown same] at met
    exact request.origin_ne_root (Option.some.inj met)
  rw [origin?_visible visible] at met
  exact ⟨fold_eq_of_root met, visible⟩

theorem Qualified.origin?_label (qualified : query.Qualified naming) {request : Request}
    (inside : request ∈ query.singles) :
    naming.origin? [query.sources] request.relation.label = some (.joined request.name) := by
  obtain ⟨registered, isSingle⟩ := mem_singles.1 inside
  have own := qualified.own request registered
  rwa [scopes_single isSingle, Request.place, Request.origin, isSingle] at own

/-- A name stands for one thing, so what has to stand for different things has different names. -/
theorem Composed.aliasFree_of_qualified (composed : query.Composed)
    (qualified : query.Qualified naming) : query.AliasFree naming := by
  refine ⟨?_, ?_, ?_⟩
  · rw [List.map_cons, List.nodup_cons]
    constructor
    · intro taken
      obtain ⟨label, listed, same⟩ := List.mem_map.1 taken
      obtain ⟨request, inside, rfl⟩ := List.mem_map.1 listed
      have found := qualified.origin?_label inside
      rw [Naming.origin?_congr same, qualified.root] at found
      cases found
    · apply composed.nodup_labels.map_on
      intro first listed second also same
      obtain ⟨request, inside, rfl⟩ := List.mem_map.1 listed
      obtain ⟨other, there, rfl⟩ := List.mem_map.1 also
      have found := qualified.origin?_label inside
      rw [Naming.origin?_congr same, qualified.origin?_label there] at found
      have named : other.name = request.name := Row.Origin.joined.inj (Option.some.inj found)
      rw [composed.label_eq (mem_singles.1 inside).1, composed.label_eq (mem_singles.1 there).1,
        named]
  · intro request inside nested name shown same
    obtain ⟨alike, visible⟩ := baseAlias_of_met (qualified.met request inside)
    exact visible nested name shown (same.trans alike)
  · intro some
    obtain ⟨request, inside⟩ := List.exists_mem_of_ne_nil _ some
    exact (baseAlias_of_met (qualified.met request inside)).1.symm

theorem qualified_of_aliasFree (free : query.AliasFree naming) : query.Qualified naming := by
  obtain ⟨away, labels⟩ := List.nodup_cons.1 free.apart
  have others : ∀ request ∈ query.singles,
      naming.fold request.relation.label ≠ naming.fold query.setup.baseAlias := by
    intro request inside same
    exact away (List.mem_map.2 ⟨_, List.mem_map_of_mem inside, same⟩)
  have root : naming.origin? [query.sources] query.setup.baseAlias = some .root :=
    origin?_baseAlias others
  refine ⟨root, ?_, ?_⟩
  · intro request inside
    by_cases isSingle : request.mode = .single
    · have member := mem_singles.2 ⟨inside, isSingle⟩
      rw [List.map_map] at labels
      rw [scopes_single isSingle, Request.place, Request.origin, isSingle]
      exact origin?_label labels member (others request member)
    · rw [request.place_nested isSingle]
      exact origin?_hidden isSingle (naming.exposed_self request.relation.table) rfl
  · intro request inside
    have alike := free.written (List.ne_nil_of_mem inside)
    have visible (nested : request.mode ≠ .single) (own : String)
        (shown : own ∈ naming.exposed request.relation.table) :
        naming.fold own ≠ naming.fold query.setup.generator.baseAlias := by
      rw [alike]
      exact free.nested request inside nested own shown
    rw [origin?_visible visible, Naming.origin?_congr alike]
    exact root

end Query

/-- How a request is written. Its columns are qualified by its place, and a key under its place is
compared with one of the root under the alias that the generator writes. -/
inductive Request.Written (g : Generator) (request : Request) : Prop where
  | joined (own key : String) (isSingle : request.mode = .single)
      (join : g.join request = "LEFT JOIN " ++ request.relation.table ++ " " ++
        request.relation.label ++ " ON " ++
          (request.place ++ "." ++ own ++ " = " ++ g.baseAlias ++ "." ++ key))
      (item : g.item request = "CASE WHEN " ++ request.place ++ "." ++
        request.relation.primaryKey ++ " IS NULL THEN NULL ELSE " ++
          g.jsonObject request.place request.writtenColumns ++ " END AS " ++ request.outputKey)
  | nested (own key rows : String) (apart : request.mode ≠ .single)
      (fields : rows = "COUNT(*)" ∨ rows = g.jsonArrayCoalesce (g.jsonArrayAgg
        (g.jsonObject request.place request.writtenColumns)))
      (item : g.item request = "(SELECT " ++ rows ++ " FROM " ++ request.relation.table ++
        " WHERE " ++ (request.place ++ "." ++ own ++ " = " ++ g.baseAlias ++ "." ++ key) ++
          ") AS " ++ request.outputKey)

theorem Generator.count_eq (g : Generator) (relation : Relation) (outputKey : String) :
    g.count relation outputKey = "(SELECT " ++ "COUNT(*)" ++ " FROM " ++ relation.table ++
      " WHERE " ++ g.correlation relation ++ ") AS " ++ outputKey := by
  have select : "(SELECT COUNT(*) FROM " = "(SELECT " ++ "COUNT(*)" ++ " FROM " := by decide
  unfold count
  rw [select]

theorem Request.written (g : Generator) (request : Request) : request.Written g := by
  cases mode : request.mode with
  | single =>
      have place : request.place = request.relation.label := by rw [place, mode]
      have item : g.item request = g.singleObject request.relation request.writtenColumns
          request.outputKey := by rw [Generator.item, mode]
      obtain ⟨own, key, meeting⟩ : ∃ own key, g.meeting request.relation =
          request.relation.label ++ "." ++ own ++ " = " ++ g.baseAlias ++ "." ++ key := by
        unfold Generator.meeting
        cases request.relation.kind with
        | belongsToOne => exact ⟨_, _, rfl⟩
        | hasOne => exact ⟨_, _, rfl⟩
        | hasMany => exact ⟨_, _, rfl⟩
      refine .joined own key mode ?_ ?_
      · unfold Generator.join
        rw [place, meeting]
      · rw [place, item]
        rfl
  | collection =>
      have nested : request.mode ≠ .single := fun isSingle => by cases mode.symm.trans isSingle
      refine .nested request.relation.foreignKey request.relation.localKeyText _ nested
        (.inr rfl) ?_
      have item : g.item request = g.collection request.relation request.writtenColumns
          request.outputKey := by rw [Generator.item, mode]
      rw [request.place_nested nested, item]
      rfl
  | count =>
      have nested : request.mode ≠ .single := fun isSingle => by cases mode.symm.trans isSingle
      refine .nested request.relation.foreignKey request.relation.localKeyText "COUNT(*)" nested
        (.inl rfl) ?_
      have item : g.item request = g.count request.relation request.outputKey := by
        rw [Generator.item, mode]
      rw [request.place_nested nested, item]
      exact g.count_eq request.relation request.outputKey

/-- The aliases in the statements of a query, in every session. Those of the joins are apart from
each other as they are written, and the alias of the root is apart from them exactly if no joined
relation has its name. However a database takes names, every qualifier stands for the rows that it
is meant for exactly if these aliases are different names to it, no table of a subquery goes by the
alias of the root, and the generator writes that alias. -/
theorem aliases_apart (naming : Naming) (hydrators : HydratorSource) (link : Link σ)
    (setup : QuerySetup) (world : σ) (calls : List Call) :
    let query := ((Session.opened setup world).run hydrators link calls).query
    let labels := query.singles.map (fun request => request.relation.label)
    labels.Nodup ∧
    ((setup.baseAlias :: labels).Nodup ↔
      ∀ request ∈ query.relations, request.mode = .single → request.name ≠ setup.baseAlias) ∧
    (query.Qualified naming ↔ query.AliasFree naming) ∧
    (∀ request ∈ query.relations, request.Written setup.generator) ∧
    (∀ window statement, query.build window = .ok statement → ∃ rows rest,
      statement.text = "SELECT " ++ query.columnsText ++ " FROM " ++ rows ++ " " ++
        setup.baseAlias ++ Sql.clauseLine "" (String.intercalate "\n"
          (query.singles.map query.setup.generator.join)) ++ rest) := by
  intro query labels
  have composed : query.Composed := .run hydrators link setup world calls
  have same : query.setup = setup := Session.setup_run hydrators link setup world calls
  refine ⟨composed.nodup_labels, ?_,
    ⟨composed.aliasFree_of_qualified, qualified_of_aliasFree⟩,
    fun request _ => request.written setup.generator, ?_⟩
  · rw [List.nodup_cons, and_iff_left composed.nodup_labels]
    constructor
    · intro apart request inside isSingle taken
      refine apart (List.mem_map.2 ⟨request, mem_singles.2 ⟨inside, isSingle⟩, ?_⟩)
      rw [composed.label_eq inside, taken]
    · intro free taken
      obtain ⟨request, member, there⟩ := List.mem_map.1 taken
      obtain ⟨inside, isSingle⟩ := mem_singles.1 member
      rw [composed.label_eq inside] at there
      exact free request inside isSingle there
  · intro window statement built
    rw [build_eq composed.presentable] at built
    obtain ⟨source, sourced, built⟩ := Outcome.bind_eq_ok built
    obtain ⟨lines, _, built⟩ := Outcome.bind_eq_ok built
    cases built
    obtain ⟨rows, aliased⟩ := source_aliased sourced
    refine ⟨rows, Sql.clauseLine "WHERE " (Sql.conditions query.filters query.setup.baseAlias) ++
      query.orderText ++ lines, ?_⟩
    simp only [body, aliased, same, String.append_assoc]
    rfl

def partnersUnder (baseAlias : String) : QuerySetup :=
  { schema := ⟨[⟨"Partner", "shop", some "partners", none, false, [], [], [],
      [("profile", .described ⟨"belongs-to-one", .table "profiles", some "profile_id", some "id",
          none, none⟩),
        ("promocodes", .described ⟨"has-many", .table "promocodes", some "partner_id", none,
          some "id", none⟩)]⟩], .ofLists⟩
    root := .model "Partner"
    table := "partners"
    baseAlias := baseAlias
    generator := ⟨.mysql, baseAlias⟩
    matchers := []
    baseQuery? := none
    config := Config.initial }

set_option maxRecDepth 4000 in
/-- An alias of the root that is the name of a joined relation, and one that is the table of a
subquery: the statements have one alias twice, and compare two columns of one table. -/
theorem aliases_not_apart :
    let hydrators : HydratorSource := ⟨HydratorRegistry.initial, []⟩
    let joined := (Session.opened (partnersUnder "profile") ()).run hydrators ⟨none, none⟩
      [.attach .single (.text "profile") (.list [.text "name"])]
    let counted := (Session.opened (partnersUnder "promocodes") ()).run hydrators ⟨none, none⟩
      [.attach .count (.text "promocodes") .null]
    (joined.outcome hydrators ⟨none, none⟩ (.compile false) = .ok (.statement
      ⟨"SELECT profile.*,\n       CASE WHEN profile.id IS NULL THEN NULL ELSE " ++
        "JSON_OBJECT('name', profile.name) END AS profile FROM partners profile\n" ++
        "LEFT JOIN profiles profile ON profile.id = profile.profile_id", []⟩) ∧
      ¬ ("profile" :: joined.query.singles.map (fun request => request.relation.label)).Nodup) ∧
    (counted.outcome hydrators ⟨none, none⟩ (.compile false) = .ok (.statement
      ⟨"SELECT promocodes.*,\n       (SELECT COUNT(*) FROM promocodes WHERE " ++
        "promocodes.partner_id = promocodes.id) AS promocodes_count FROM partners promocodes",
        []⟩) ∧
      ∃ request ∈ counted.query.relations,
        Naming.caseless.origin? (request.scopes .caseless counted.query) "promocodes" =
          some (.nested "promocodes")) := by
  refine ⟨⟨rfl, by decide⟩, rfl, ?_⟩
  exact ⟨_, List.mem_singleton_self _, by decide⟩

end NestedSelect
