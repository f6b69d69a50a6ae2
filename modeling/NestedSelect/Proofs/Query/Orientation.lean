import NestedSelect.Proofs.Query.Stability

/-!
Which column meets which in the statements of a query.

A relationship of the mapping that is joined on one pair of columns is stored under keys that are
named for its kind, and read back by the kind again. The two changes of places cancel: the column
of the target is always compared with the column of the root, also where the matchers take the
relationship for a kind that its direction does not have.
-/

namespace NestedSelect

open Identifier (IsSafe)
open Query

variable {schema : Schema} {setup : QuerySetup} {relationship : Relationship} {kind : RelationKind}
  {own other : String}

/-- A relationship of the root that is joined on one pair of columns, `own` of the root and `other`
of the target, and that the matchers take for a kind, whatever its direction is. -/
structure Relationship.Paired (relationship : Relationship) (setup : QuerySetup)
    (kind : RelationKind) (own other : String) : Prop where
  mapped : ∃ model, setup.root.mapped? setup.schema = some model ∧
    model.relationship? relationship.name = some relationship
  direct : relationship.secondary = none
  pair : relationship.pairs = [(own, other)]
  ownSafe : IsSafe own
  otherSafe : IsSafe other
  taken : Matcher.classify? setup.matchers relationship = some kind

namespace Relation

/-- The relation of a relationship that is joined on one pair of columns. What the root belongs to
has the column of the root as its foreign key; what the root has has it as its local key. -/
def paired (relationship : Relationship) (kind : RelationKind)
    (own other table primaryKey : String) : Relation :=
  match kind with
  | .belongsToOne =>
      ⟨relationship.name, kind, table, relationship.name, some relationship.target, own,
        primaryKey, some other, none⟩
  | .hasOne | .hasMany =>
      ⟨relationship.name, kind, table, relationship.name, some relationship.target, other,
        primaryKey, none, some own⟩

theorem paired_kind (relationship : Relationship) (kind : RelationKind)
    (own other table primaryKey : String) :
    (paired relationship kind own other table primaryKey).kind = kind := by
  cases kind with
  | belongsToOne => rfl
  | hasOne => rfl
  | hasMany => rfl

theorem paired_table (relationship : Relationship) (kind : RelationKind)
    (own other table primaryKey : String) :
    (paired relationship kind own other table primaryKey).table = table := by
  cases kind with
  | belongsToOne => rfl
  | hasOne => rfl
  | hasMany => rfl

theorem ofPair_eq (ownSafe : IsSafe own) (otherSafe : IsSafe other) :
    ofPair schema relationship kind own other = (do
      let full ← (Handle.model relationship.target).tableName schema
      let table ← Identifier.ensure (.text full) "table"
      let primaryKey ← Identifier.ensure (.text ((Handle.model relationship.target).primaryKey
        schema))
      .ok (paired relationship kind own other table primaryKey)) := by
  have ownKept := Identifier.ensure_of_IsSafe ownSafe "column"
  have otherKept := Identifier.ensure_of_IsSafe otherSafe "column"
  unfold ofPair
  apply bind_congr
  intro full
  apply bind_congr
  intro table
  apply bind_congr
  intro primaryKey
  cases kind with
  | belongsToOne => exact (Outcome.bind_of_ok ownKept).trans (Outcome.bind_of_ok otherKept)
  | hasOne => exact (Outcome.bind_of_ok otherKept).trans (Outcome.bind_of_ok ownKept)
  | hasMany => exact (Outcome.bind_of_ok otherKept).trans (Outcome.bind_of_ok ownKept)

theorem resolve_paired (paired : relationship.Paired setup kind own other) :
    setup.resolve relationship.name = ofPair setup.schema relationship kind own other := by
  obtain ⟨model, mapped, known⟩ := paired.mapped
  have relates : relationship? setup.schema setup.root relationship.name = some relationship := by
    rw [relationship?, mapped, Option.bind_some, known]
  unfold QuerySetup.resolve resolve resolveBy ofRelationship
  simp only [relates, paired.direct, paired.taken, paired.pair]

theorem resolve_paired_eq_ok (joined : relationship.Paired setup kind own other)
    {relation : Relation}
    (found : setup.resolve relationship.name = .ok relation) :
    ∃ full table primaryKey,
      (Handle.model relationship.target).tableName setup.schema = .ok full ∧
      Identifier.ensure (.text full) "table" = .ok table ∧
      relation = paired relationship kind own other table primaryKey := by
  rw [resolve_paired joined, ofPair_eq joined.ownSafe joined.otherSafe] at found
  obtain ⟨full, tabled, found⟩ := Outcome.bind_eq_ok found
  obtain ⟨table, checked, found⟩ := Outcome.bind_eq_ok found
  obtain ⟨primaryKey, _, found⟩ := Outcome.bind_eq_ok found
  cases found
  exact ⟨full, table, primaryKey, tabled, checked, rfl⟩

theorem resolve_paired_of_safe (joined : relationship.Paired setup kind own other) {table : String}
    (tabled : (Handle.model relationship.target).tableName setup.schema = .ok table)
    (tableSafe : IsSafe table)
    (keySafe : IsSafe ((Handle.model relationship.target).primaryKey setup.schema)) :
    setup.resolve relationship.name =
      .ok (paired relationship kind own other table
        ((Handle.model relationship.target).primaryKey setup.schema)) := by
  rw [resolve_paired joined, ofPair_eq joined.ownSafe joined.otherSafe, Outcome.bind_of_ok tabled,
    Outcome.bind_of_ok (Identifier.ensure_of_IsSafe tableSafe "table"),
    Outcome.bind_of_ok (Identifier.ensure_of_IsSafe keySafe "column")]

end Relation

/-- What is written for a request compares column `other` of the rows that are joined under its
name, or of the table that its subquery selects from, with column `own` of the root. -/
inductive Request.Oriented (g : Generator) (own other : String) (request : Request) : Prop where
  | joined (isSingle : request.mode = .single)
      (join : g.join request = "LEFT JOIN " ++ request.relation.table ++ " " ++ request.name ++
        " ON " ++ (request.name ++ "." ++ other ++ " = " ++ g.baseAlias ++ "." ++ own))
  | collected (isCollection : request.mode = .collection)
      (item : g.item request = "(SELECT " ++ g.jsonArrayCoalesce (g.jsonArrayAgg
        (g.jsonObject request.relation.table request.writtenColumns)) ++ " FROM " ++
          request.relation.table ++ " WHERE " ++ (request.relation.table ++ "." ++ other ++ " = " ++
            g.baseAlias ++ "." ++ own) ++ ") AS " ++ request.outputKey)
  | counted (isCount : request.mode = .count)
      (item : g.item request = "(SELECT COUNT(*) FROM " ++ request.relation.table ++ " WHERE " ++
        (request.relation.table ++ "." ++ other ++ " = " ++ g.baseAlias ++ "." ++ own) ++
          ") AS " ++ request.outputKey)

/-- A request of a relationship: it has the kind that the matchers gave, its rows are those of the
target, and it compares the columns of the pair. -/
structure Request.Follows (request : Request) (relationship : Relationship) (setup : QuerySetup)
    (kind : RelationKind) (own other : String) : Prop where
  kind_eq : request.relation.kind = kind
  table : ∃ full, (Handle.model relationship.target).tableName setup.schema = .ok full ∧
    Identifier.ensure (.text full) "table" = .ok request.relation.table
  oriented : request.Oriented setup.generator own other

namespace Generator

variable (g : Generator) {table primaryKey : String}

theorem meeting_paired :
    g.meeting (.paired relationship kind own other table primaryKey) =
      relationship.name ++ "." ++ other ++ " = " ++ g.baseAlias ++ "." ++ own := by
  cases kind with
  | belongsToOne => rfl
  | hasOne => rfl
  | hasMany => rfl

theorem correlation_paired (holds : kind ≠ .belongsToOne) :
    let relation : Relation := .paired relationship kind own other table primaryKey
    g.correlation relation =
      relation.table ++ "." ++ other ++ " = " ++ g.baseAlias ++ "." ++ own := by
  cases kind with
  | belongsToOne => exact absurd rfl holds
  | hasOne => rfl
  | hasMany => rfl

end Generator

theorem RequestMode.ne_belongsToOne_of_nested {mode : RequestMode} (admitted : kind ∈ mode.kinds)
    (nested : mode ≠ .single) : kind ≠ .belongsToOne := by
  intro belongs
  subst belongs
  cases mode with
  | single => exact nested rfl
  | collection => exact absurd admitted (by decide)
  | count => exact absurd admitted (by decide)

namespace Request

variable {request : Request}

/-- Both places where a kind decides which key is read agree with the place where it decides which
column is stored under the key. -/
theorem Registered.follows (registered : request.Registered setup)
    (joined : relationship.Paired setup kind own other)
    (named : request.name = relationship.name) :
    request.Follows relationship setup kind own other := by
  have found := registered.found
  rw [named] at found
  obtain ⟨full, table, primaryKey, tabled, checked, same⟩ :=
    Relation.resolve_paired_eq_ok joined found
  have kindSame : request.relation.kind = kind := by
    rw [same]
    exact Relation.paired_kind relationship kind own other table primaryKey
  have tableSame : request.relation.table = table := by
    rw [same]
    exact Relation.paired_table relationship kind own other table primaryKey
  refine ⟨kindSame, ⟨full, tabled, by rw [tableSame]; exact checked⟩, ?_⟩
  have admitted : kind ∈ request.mode.kinds := by
    rw [← kindSame]
    exact registered.admitted
  let g := setup.generator
  have correlation (nested : request.mode ≠ .single) : g.correlation request.relation =
      request.relation.table ++ "." ++ other ++ " = " ++ g.baseAlias ++ "." ++ own := by
    rw [same]
    exact g.correlation_paired (RequestMode.ne_belongsToOne_of_nested admitted nested)
  cases mode : request.mode with
  | single =>
      have meeting : g.meeting request.relation =
          request.name ++ "." ++ other ++ " = " ++ g.baseAlias ++ "." ++ own := by
        rw [same, named]
        exact g.meeting_paired
      apply Oriented.joined mode
      unfold Generator.join
      rw [registered.wellFormed.label_eq, meeting]
  | collection =>
      have item : g.item request = g.collection request.relation request.writtenColumns
          request.outputKey := by rw [Generator.item, mode]
      apply Oriented.collected mode
      unfold Generator.collection at item
      rw [item, correlation (by simp [mode])]
  | count =>
      have item : g.item request = g.count request.relation request.outputKey := by
        rw [Generator.item, mode]
      apply Oriented.counted mode
      unfold Generator.count at item
      rw [item, correlation (by simp [mode])]

end Request

theorem DialectRegistry.generator_baseAlias {registry : DialectRegistry} {name : Value}
    {baseAlias : String} {supported : Option Value} {g : Generator}
    (given : registry.generator name baseAlias supported = .ok g) : g.baseAlias = baseAlias := by
  obtain ⟨registered, _, given⟩ := Outcome.bind_eq_ok given
  split at given
  · cases given
  · split at given
    · cases given
      rfl
    · obtain ⟨_, _, given⟩ := Outcome.bind_eq_ok given
      cases given
      rfl

namespace Query

theorem baseAlias_of_start {dialects : DialectRegistry} {options : QueryOptions}
    {connected : Option String} {notes : List LogRecord} {query : Query}
    (unmade : options.generator? = none)
    (opened : Query.start schema dialects options connected = (.ok query, notes)) :
    query.setup.generator.baseAlias = query.setup.baseAlias := by
  unfold Query.start at opened
  simp only [unmade] at opened
  split at opened
  · cases opened
  · split at opened
    · rename_i impossible
      cases impossible
    · cases opened
    · obtain ⟨made, _⟩ := Prod.mk.inj opened
      obtain ⟨g, given, rfl⟩ := Outcome.map_eq_ok made
      exact DialectRegistry.generator_baseAlias given
    · obtain ⟨made, _⟩ := Prod.mk.inj opened
      obtain ⟨g, given, rfl⟩ := Outcome.map_eq_ok made
      exact DialectRegistry.generator_baseAlias given

end Query

variable {σ : Type}

/-- The orientation of joins, in every session over a root with such a relationship. Every mode that
admits the kind takes its relation, if the target has a table and a primary key with safe names.
Each request of the relationship has the kind, and what is written for it compares column `other` of
the far side with column `own` of the root; these texts are the joins and select items of a compiled
statement. The root goes by the alias of the query, unless the query was given a generator. -/
theorem joins_oriented (hydrators : HydratorSource) (link : Link σ) (setup : QuerySetup) (world : σ)
    (calls : List Call) (relationship : Relationship) (kind : RelationKind) (own other : String)
    (joined : relationship.Paired setup kind own other) :
    let session := (Session.opened setup world).run hydrators link calls
    let target := Handle.model relationship.target
    let g := setup.generator
    (∀ mode table, kind ∈ mode.kinds → target.tableName setup.schema = .ok table → IsSafe table →
      IsSafe (target.primaryKey setup.schema) →
      ∃ relation, setup.resolve relationship.name = .ok relation ∧
        ensureAdmitted mode relationship.name relation = .ok ()) ∧
    (∀ request ∈ session.query.relations, request.name = relationship.name →
      request.Follows relationship setup kind own other) ∧
    (∀ awaits statement,
      session.outcome hydrators link (.compile awaits) = .ok (.statement statement) →
      let compiled := (session.call hydrators link (.compile awaits)).query
      (∃ source, compiled.Laid source (compiled.relations.map g.item) (g.joins compiled.relations)
        statement.text) ∧
      ∀ request ∈ compiled.relations, request.name = relationship.name →
        request.Follows relationship setup kind own other) ∧
    ∀ dialects options connected notes, options.generator? = none →
      Query.start setup.schema dialects options connected = (.ok { setup := setup }, notes) →
      g.baseAlias = setup.baseAlias := by
  intro session target g
  have same (more : List Call) : (session.run hydrators link more).query.setup = setup :=
    (session.setup_kept more).trans (Session.setup_run hydrators link setup world calls)
  have oriented (more : List Call) : ∀ request ∈ (session.run hydrators link more).query.relations,
      request.name = relationship.name →
      request.Follows relationship setup kind own other := by
    intro request inside named
    have composed : (session.run hydrators link more).query.Composed :=
      Session.composed_run (.run hydrators link setup world calls) more
    have registered := composed.registered request inside
    rw [same more] at registered
    exact registered.follows joined named
  refine ⟨?takes, oriented [], ?compiled, ?rooted⟩
  case takes =>
    intro mode table admitted tabled tableSafe keySafe
    refine ⟨_, Relation.resolve_paired_of_safe joined tabled tableSafe keySafe, ?_⟩
    rwa [ensureAdmitted_eq_ok_iff, Relation.paired_kind]
  case compiled =>
    intro awaits statement done compiled
    have sound : compiled.Composed :=
      Session.composed_run (.run hydrators link setup world calls) [.compile awaits]
    have kept : compiled.setup = setup := same [.compile awaits]
    constructor
    · obtain ⟨source, _, _, laid⟩ := sound.build_eq_ok (Session.compiled_build done).1
      rw [kept] at laid
      exact ⟨source.text, laid⟩
    · exact oriented [.compile awaits]
  case rooted =>
    intro dialects options connected notes unmade opened
    exact baseAlias_of_start unmade opened

/-- Staff whose manager is staff too, with matchers that take every relationship for one to many. -/
def staffSetup : QuerySetup :=
  { schema := ⟨[⟨"Staff", "people", some "staff", none, true,
      [⟨"id", "id", .integer, true⟩, ⟨"manager_id", "manager_id", .integer, true⟩], ["id"],
      [⟨"manager", "Staff", .manyToOne, false, none, [("manager_id", "id")]⟩], []⟩], .ofLists⟩
    root := .model "Staff"
    table := "staff"
    baseAlias := "base"
    generator := ⟨.mysql, "base"⟩
    matchers := [⟨.hasMany, .always⟩]
    baseQuery? := none
    config := Config.initial }

set_option maxRecDepth 4000 in
theorem joins_oriented_staff :
    let manager : Relationship :=
      ⟨"manager", "Staff", .manyToOne, false, none, [("manager_id", "id")]⟩
    let hydrators : HydratorSource := ⟨HydratorRegistry.initial, []⟩
    let session := (Session.opened staffSetup ()).run hydrators ⟨none, none⟩
      [.attach .collection (.text "manager") (.list [.text "id"]),
        .attach .count (.text "manager") .null]
    manager.direction = .manyToOne ∧ manager.Paired staffSetup .hasMany "manager_id" "id" ∧
    session.outcome hydrators ⟨none, none⟩ (.compile false) = .ok (.statement
      ⟨"SELECT base.*,\n       (SELECT COALESCE(JSON_ARRAYAGG(JSON_OBJECT('id', staff.id)), " ++
        "JSON_ARRAY()) FROM staff WHERE staff.id = base.manager_id) AS manager,\n       " ++
        "(SELECT COUNT(*) FROM staff WHERE staff.id = base.manager_id) AS manager_count " ++
        "FROM staff base", []⟩) ∧
    ∀ request ∈ session.query.relations, request.name = manager.name →
      request.Follows manager staffSetup .hasMany "manager_id" "id" := by
  refine ⟨rfl, ?joined, rfl, (joins_oriented _ _ _ () _ _ _ _ _ ?joined).2.1⟩
  case joined => exact ⟨⟨_, rfl, rfl⟩, rfl, rfl, by decide, by decide, rfl⟩

end NestedSelect
