import NestedSelect.Proofs.Query.Composition
import NestedSelect.Proofs.Sql.Pieces

/-!
What the fragments of a request tell.

Fragments are made of names and of words that cannot be mistaken for names. The item of a request
tells all that is written of it, except for single objects the table and the keys, which its join
tells.
-/

namespace NestedSelect

open Identifier (IsSafe isRest isSafe isWide)
open Sql (Consists Ends Legible Spaced Stops areApart listed stops_append)

namespace Relation

/-- The table that a relation leads to, the key there and the key of the root that meet. -/
structure Tie where
  table : String
  farKey : String
  rootKey : String
  deriving DecidableEq

def farKey (relation : Relation) : String :=
  match relation.kind with
  | .belongsToOne => relation.ownerKeyText
  | .hasOne | .hasMany => relation.foreignKey

def rootKey (relation : Relation) : String :=
  match relation.kind with
  | .belongsToOne => relation.foreignKey
  | .hasOne | .hasMany => relation.localKeyText

def tie (relation : Relation) : Tie := ⟨relation.table, relation.farKey, relation.rootKey⟩

theorem WellFormed.keys {relation : Relation} {name : String} (formed : relation.WellFormed name) :
    Consists isRest relation.farKey ∧ Consists isRest relation.rootKey := by
  have foreign := Identifier.consists_of_IsSafe formed.foreignKey
  have keyed := formed.keyed
  unfold farKey rootKey ownerKeyText localKeyText
  generalize relation.kind = kind, relation.ownerKey = owner, relation.localKey = own at keyed
  cases keyed with
  | owner safe => exact ⟨Identifier.consists_of_IsSafe safe, foreign⟩
  | one safe => exact ⟨foreign, Identifier.consists_of_IsSafe safe⟩
  | many safe => exact ⟨foreign, Identifier.consists_of_IsSafe safe⟩

end Relation

namespace Request

def columnNames (request : Request) : List String := request.writtenColumns.map Value.display

def guard? (request : Request) : Option String :=
  if request.mode = .single then some request.relation.primaryKey else none

/-- What is told of a request: everything of it that is written. -/
structure Reading where
  mode : RequestMode
  outputKey : String
  columns : List String
  guard? : Option String
  tie : Relation.Tie
  deriving DecidableEq

def reading (request : Request) : Reading :=
  ⟨request.mode, request.outputKey, request.columnNames, request.guard?, request.relation.tie⟩

/-- What the select item of a request tells. Single objects are tied to the root by a join. -/
structure ItemReading where
  mode : RequestMode
  outputKey : String
  columns : List String
  guard? : Option String
  tie? : Option Relation.Tie

def itemReading (request : Request) : ItemReading :=
  ⟨request.mode, request.outputKey, request.columnNames, request.guard?,
    if request.mode = .single then none else some request.relation.tie⟩

structure Spelled (request : Request) : Prop where
  table : Consists isRest request.relation.table
  label : Consists isRest request.relation.label
  primaryKey : Consists isRest request.relation.primaryKey
  farKey : Consists isRest request.relation.farKey
  rootKey : Consists isRest request.relation.rootKey
  outputKey : Consists isRest request.outputKey
  columns : ∀ name ∈ request.columnNames, Consists isWide name
  labelled : request.mode = .single → request.outputKey = request.relation.label
  many : request.mode ≠ .single → request.relation.kind = .hasMany
  counted : request.mode = .count → request.columnNames = []

theorem Registered.spelled {setup : QuerySetup} {request : Request}
    (registered : request.Registered setup)
    (columns : ∀ column ∈ request.writtenColumns, isSafe column.display = true) :
    request.Spelled := by
  have formed := registered.wellFormed
  have named := Identifier.consists_of_IsSafe registered.named
  have admitted := registered.admitted
  have kept := registered.kept
  refine ⟨Identifier.consists_of_IsSafe formed.table, ?_,
    Identifier.consists_of_IsSafe formed.primaryKey, formed.keys.1, formed.keys.2, ?_, ?_, ?_, ?_,
    ?_⟩
  · rw [formed.label_eq]
    exact named
  · have suffix : Consists isRest "_count" := by decide
    unfold outputKey
    cases request.mode with
    | single => exact named
    | collection => exact named
    | count => exact named.append suffix
  · intro name member
    obtain ⟨column, inside, rfl⟩ := List.mem_map.1 member
    exact Identifier.wide_of_isSafe (columns column inside)
  · intro isSingle
    simp only [outputKey, isSingle, formed.label_eq]
  · intro other
    cases mode : request.mode with
    | single => exact absurd mode other
    | collection => simpa [mode, RequestMode.kinds] using admitted
    | count => simpa [mode, RequestMode.kinds] using admitted
  · intro isCount
    rw [isCount] at kept
    unfold columnNames writtenColumns
    generalize request.columns = written at kept
    cases kept with
    | none => rfl
    | wildcard counts => exact absurd rfl counts
    | listed counts => exact absurd rfl counts

theorem readings_eq {first second : List Request}
    (items : first.map itemReading = second.map itemReading)
    (joins : (first.filter (fun request => request.mode == .single)).map
        (fun request => request.relation.tie) =
      (second.filter (fun request => request.mode == .single)).map
        (fun request => request.relation.tie)) :
    first.map reading = second.map reading := by
  induction first generalizing second with
  | nil =>
      have none := List.map_eq_nil_iff.1 items.symm
      rw [none]
  | cons request rest ih =>
      cases second with
      | nil => simp at items
      | cons other more =>
          simp only [List.map_cons, List.cons.injEq] at items
          obtain ⟨head, tail⟩ := items
          simp only [itemReading, ItemReading.mk.injEq] at head
          obtain ⟨mode, key, columns, guarded, tied⟩ := head
          simp only [List.filter_cons, mode] at joins tied
          cases isSingle : (other.mode == .single) with
          | true =>
              simp only [isSingle, if_true, List.map_cons, List.cons.injEq] at joins
              simp only [List.map_cons, reading, mode, key, columns, guarded, joins.1,
                ih tail joins.2]
          | false =>
              have apart : other.mode ≠ .single := by simpa using isSingle
              simp only [isSingle, Bool.false_eq_true, if_false] at joins
              simp only [apart, if_false, Option.some.injEq] at tied
              simp only [List.map_cons, reading, mode, key, columns, guarded, tied, ih tail joins]

end Request

namespace Generator

variable (g : Generator)

def pairText (pair : String × String) : String := pair.2 ++ "', " ++ pair.1 ++ "." ++ pair.2

theorem legible_pair :
    Legible pairText id (fun pair => Consists isWide pair.1 ∧ Consists isWide pair.2)
      (Stops isWide) := by
  rintro ⟨source, name⟩ ⟨other, also⟩ r s ⟨source_, name_⟩ ⟨other_, also_⟩ after end_ same
  simp only [pairText, String.append_assoc] at same
  obtain ⟨rfl, same⟩ := Sql.cut_before name_ also_ (by decide) same
  have dot : Consists isWide "." := by decide
  simp only [← String.append_assoc] at same
  obtain ⟨value, tails⟩ := Sql.cut ((source_.append dot).append name_)
    ((other_.append dot).append name_) after end_ same
  rw [String.append_left_inj, String.append_left_inj] at value
  obtain rfl : source = other := value
  exact ⟨rfl, tails⟩

theorem names_of_pairs {source other : String} {names also : List String}
    (same : (names.map (fun name => (source, name))).map id =
      (also.map (fun name => (other, name))).map id) : names = also := by
  have seconds := congrArg (List.map Prod.snd) same
  simpa [Function.comp_def] using seconds

theorem jsonObject_eq (source : String) (columns : List Value) :
    g.jsonObject source columns = g.dialect.jsonObject.display ++ "(" ++
      listed "'" ", '" pairText ((columns.map Value.display).map (fun name => (source, name))) ++
        ")" := by
  have pairs : columns.map (jsonPair source) =
      ((columns.map Value.display).map (fun name => (source, name))).map
        (fun pair => "'" ++ pairText pair) := by
    simp only [List.map_map]
    apply List.map_congr_left
    intro column _
    simp only [jsonPair, pairText, Function.comp_apply, String.append_assoc]
  unfold jsonObject
  rw [pairs, Sql.intercalate_eq_listed, Sql.listed_lead]
  rfl

theorem legible_jsonObject :
    Legible (fun object : String × List Value => g.jsonObject object.1 object.2)
      (fun object => object.2.map Value.display)
      (fun object => Consists isRest object.1 ∧
        ∀ name ∈ object.2.map Value.display, Consists isWide name) (fun _ => True) := by
  rintro ⟨source, columns⟩ ⟨other, others⟩ r s ⟨named, fit⟩ ⟨alsoNamed, also⟩ - - same
  have pairs {source : String} {names : List String} (named : Consists isRest source)
      (fit : ∀ name ∈ names, Consists isWide name) :
      ∀ pair ∈ names.map (fun name => (source, name)),
        Consists isWide pair.1 ∧ Consists isWide pair.2 := by
    intro pair member
    obtain ⟨name, inside, rfl⟩ := List.mem_map.1 member
    exact ⟨Identifier.wide_of_consists named, fit name inside⟩
  have ends (t : String) : Ends (Stops isWide) "'" ", '" (")" ++ t) :=
    ⟨stops_append (by decide) _, Sql.not_starts_append (by decide) _,
      Sql.not_starts_append (by decide) _⟩
  simp only [jsonObject_eq, String.append_assoc] at same
  rw [String.append_right_inj, String.append_right_inj] at same
  obtain ⟨told, tails⟩ := legible_pair.listed (fun t => stops_append (by decide) t)
    (pairs named fit) (pairs alsoNamed also) (ends r) (ends s) same
  exact ⟨names_of_pairs told, (String.append_right_inj _).1 tails⟩

theorem meeting_eq (relation : Relation) :
    g.meeting relation = relation.label ++ "." ++ relation.farKey ++ " = " ++ g.baseAlias ++ "." ++
      relation.rootKey := by
  unfold meeting Relation.farKey Relation.rootKey
  cases relation.kind <;> rfl

theorem correlation_eq {relation : Relation} (many : relation.kind = .hasMany) :
    g.correlation relation = relation.table ++ "." ++ relation.farKey ++ " = " ++ g.baseAlias ++
      "." ++ relation.rootKey := by
  unfold correlation Relation.farKey Relation.rootKey
  rw [many]

def subqueryTail (request : Request) : String :=
  request.relation.table ++ " WHERE " ++ g.correlation request.relation ++ ") AS " ++
    request.outputKey

theorem legible_subqueryTail :
    Legible g.subqueryTail (fun request => (request.relation.tie, request.outputKey))
      (fun request => request.Spelled ∧ request.relation.kind = .hasMany) (Stops isRest) := by
  rintro a b r s ⟨fit, many⟩ ⟨also, alsoMany⟩ after end_ same
  simp only [subqueryTail, g.correlation_eq many, g.correlation_eq alsoMany,
    String.append_assoc] at same
  obtain ⟨table, same⟩ := Sql.cut_before fit.table also.table (by decide) same
  -- Names may have dots in them: a qualified key is told by what stands in front of it.
  rw [table, String.append_right_inj, String.append_right_inj] at same
  obtain ⟨farKey, same⟩ := Sql.cut_before fit.farKey also.farKey (by decide) same
  rw [String.append_right_inj, String.append_right_inj] at same
  obtain ⟨rootKey, same⟩ := Sql.cut_before fit.rootKey also.rootKey (by decide) same
  obtain ⟨outputKey, tails⟩ := Sql.cut fit.outputKey also.outputKey after end_ same
  simp only [Relation.tie, table, farKey, rootKey, outputKey, tails, and_self]

def guardTail (request : Request) : String :=
  request.relation.label ++ "." ++ request.relation.primaryKey ++ " IS NULL THEN NULL ELSE " ++
    g.jsonObject request.relation.label request.writtenColumns ++ " END AS " ++ request.outputKey

def arrayTail (request : Request) : String :=
  g.jsonArrayAgg (g.jsonObject request.relation.table request.writtenColumns) ++ ", " ++
    g.dialect.emptyArray.display ++ ") FROM " ++ g.subqueryTail request

theorem legible_guardTail :
    Legible g.guardTail Request.itemReading
      (fun request => request.Spelled ∧ request.mode = .single) (Stops isRest) := by
  rintro a b r s ⟨fit, mode⟩ ⟨also, alsoMode⟩ after end_ same
  have dot : Consists isRest "." := by decide
  have qualified (label key t : String) :
      label ++ ("." ++ (key ++ t)) = label ++ "." ++ key ++ t := by
    simp only [String.append_assoc]
  simp only [guardTail, String.append_assoc] at same
  rw [qualified, qualified] at same
  obtain ⟨guarded, same⟩ := Sql.cut_before ((fit.label.append dot).append fit.primaryKey)
    ((also.label.append dot).append also.primaryKey) (by decide) same
  obtain ⟨columns, same⟩ := g.legible_jsonObject (_, _) (_, _) _ _ ⟨fit.label, fit.columns⟩
    ⟨also.label, also.columns⟩ trivial trivial same
  rw [String.append_right_inj] at same
  obtain ⟨outputKey, tails⟩ := Sql.cut fit.outputKey also.outputKey after end_ same
  -- A single object is found under the name that its row goes by.
  have label : a.relation.label = b.relation.label := by
    rw [← fit.labelled mode, ← also.labelled alsoMode, outputKey]
  rw [label, String.append_right_inj] at guarded
  have names : a.columnNames = b.columnNames := columns
  refine ⟨?_, tails⟩
  simp [Request.itemReading, Request.guard?, mode, alsoMode, names, guarded, outputKey]

theorem legible_arrayTail :
    Legible g.arrayTail Request.itemReading
      (fun request => request.Spelled ∧ request.mode = .collection) (Stops isRest) := by
  rintro a b r s ⟨fit, mode⟩ ⟨also, alsoMode⟩ after end_ same
  simp only [arrayTail, jsonArrayAgg, String.append_assoc] at same
  rw [String.append_right_inj, String.append_right_inj] at same
  obtain ⟨columns, same⟩ := g.legible_jsonObject (_, _) (_, _) _ _ ⟨fit.table, fit.columns⟩
    ⟨also.table, also.columns⟩ trivial trivial same
  rw [String.append_right_inj, String.append_right_inj, String.append_right_inj,
    String.append_right_inj] at same
  obtain ⟨told, tails⟩ := g.legible_subqueryTail a b r s ⟨fit, fit.many (by simp [mode])⟩
    ⟨also, also.many (by simp [alsoMode])⟩ after end_ same
  obtain ⟨tie, outputKey⟩ := Prod.mk.inj told
  have names : a.columnNames = b.columnNames := columns
  refine ⟨?_, tails⟩
  simp [Request.itemReading, Request.guard?, mode, alsoMode, names, tie, outputKey]

theorem legible_countTail :
    Legible g.subqueryTail Request.itemReading
      (fun request => request.Spelled ∧ request.mode = .count) (Stops isRest) := by
  rintro a b r s ⟨fit, mode⟩ ⟨also, alsoMode⟩ after end_ same
  obtain ⟨told, tails⟩ := g.legible_subqueryTail a b r s ⟨fit, fit.many (by simp [mode])⟩
    ⟨also, also.many (by simp [alsoMode])⟩ after end_ same
  obtain ⟨tie, outputKey⟩ := Prod.mk.inj told
  refine ⟨?_, tails⟩
  simp [Request.itemReading, Request.guard?, mode, alsoMode, fit.counted mode,
    also.counted alsoMode, tie, outputKey]

def itemOpening : RequestMode → String
  | .single => "CASE WHEN "
  | .collection => "(SELECT COALESCE("
  | .count => "(SELECT COUNT(*) FROM "

def itemRest (request : Request) : String :=
  match request.mode with
  | .single => g.guardTail request
  | .collection => g.arrayTail request
  | .count => g.subqueryTail request

theorem item_eq (request : Request) :
    g.item request = itemOpening request.mode ++ g.itemRest request := by
  unfold item itemRest
  cases request.mode with
  | single =>
      delta singleObject
      simp only [itemOpening, guardTail, String.append_assoc]
  | collection =>
      have opening : "(SELECT COALESCE(" = "(SELECT " ++ "COALESCE(" := rfl
      have closing : ") FROM " = ")" ++ " FROM " := rfl
      delta collection jsonArrayCoalesce
      simp only [itemOpening, arrayTail, subqueryTail, opening, closing, String.append_assoc]
  | count =>
      delta count
      simp only [itemOpening, subqueryTail, String.append_assoc]

theorem itemOpening_apart {mode other : RequestMode} (apart : mode ≠ other) :
    areApart (itemOpening mode) (itemOpening other) = true := by
  cases mode <;> cases other <;> first | exact absurd rfl apart | decide +kernel

theorem legible_item : Legible g.item Request.itemReading Request.Spelled (Stops isRest) := by
  intro a b r s fit also after end_ same
  simp only [item_eq, String.append_assoc] at same
  have modes : a.mode = b.mode := by
    by_contra apart
    apply Sql.not_starts_append (itemOpening_apart apart) (g.itemRest b ++ s)
    exact ⟨_, same.symm⟩
  rw [modes, String.append_right_inj] at same
  unfold itemRest at same
  rw [modes] at same
  cases mode : b.mode with
  | single =>
      rw [mode] at modes same
      exact g.legible_guardTail a b r s ⟨fit, modes⟩ ⟨also, mode⟩ after end_ same
  | collection =>
      rw [mode] at modes same
      exact g.legible_arrayTail a b r s ⟨fit, modes⟩ ⟨also, mode⟩ after end_ same
  | count =>
      rw [mode] at modes same
      exact g.legible_countTail a b r s ⟨fit, modes⟩ ⟨also, mode⟩ after end_ same

def joinText (request : Request) : String :=
  request.relation.table ++ " " ++ request.relation.label ++ " ON " ++ g.meeting request.relation

theorem legible_joinText :
    Legible g.joinText (fun request => request.relation.tie) Request.Spelled (Stops isRest) := by
  intro a b r s fit also after end_ same
  simp only [joinText, meeting_eq, String.append_assoc] at same
  obtain ⟨table, same⟩ := Sql.cut_before fit.table also.table (by decide) same
  obtain ⟨label, same⟩ := Sql.cut_before fit.label also.label (by decide) same
  rw [label, String.append_right_inj, String.append_right_inj] at same
  obtain ⟨farKey, same⟩ := Sql.cut_before fit.farKey also.farKey (by decide) same
  rw [String.append_right_inj, String.append_right_inj] at same
  obtain ⟨rootKey, tails⟩ := Sql.cut fit.rootKey also.rootKey after end_ same
  simp only [Relation.tie, table, farKey, rootKey, tails, and_self]

theorem joins_eq_listed (requests : List Request) :
    Sql.clauseLine "" (String.intercalate "\n" (g.joins requests)) =
      listed "\nLEFT JOIN " "\nLEFT JOIN " g.joinText
        (requests.filter (fun request => request.mode == .single)) := by
  have texts : g.join = fun request => "LEFT JOIN " ++ g.joinText request := by
    funext request
    simp only [join, joinText, String.append_assoc]
  have filled : ∀ request ∈ requests.filter (fun request => request.mode == .single),
      (fun request => "LEFT JOIN " ++ g.joinText request) request ≠ "" := by
    intro request _ nothing
    exact Sql.not_starts_nothing (by decide) ⟨_, nothing.symm⟩
  unfold joins
  rw [texts, Sql.clauseLine_eq_listed "" filled, Sql.listed_lead]
  rfl

def EndsNamed (key text : String) : Prop := ∃ front, text = front ++ " AS " ++ key

theorem EndsNamed.within {key text : String} (named : EndsNamed key text) (lead : String) :
    EndsNamed key (lead ++ text) := by
  obtain ⟨front, rfl⟩ := named
  exact ⟨lead ++ front, by simp only [String.append_assoc]⟩

theorem subqueryTail_ends (request : Request) :
    EndsNamed request.outputKey (g.subqueryTail request) := by
  have close : ") AS " = ")" ++ " AS " := rfl
  refine ⟨request.relation.table ++ " WHERE " ++ g.correlation request.relation ++ ")", ?_⟩
  simp only [subqueryTail, close, String.append_assoc]

theorem guardTail_ends (request : Request) :
    EndsNamed request.outputKey (g.guardTail request) := by
  have close : " END AS " = " END" ++ " AS " := rfl
  refine ⟨request.relation.label ++ "." ++ request.relation.primaryKey ++
    " IS NULL THEN NULL ELSE " ++
      g.jsonObject request.relation.label request.writtenColumns ++ " END", ?_⟩
  simp only [guardTail, close, String.append_assoc]

theorem item_ends (request : Request) : EndsNamed request.outputKey (g.item request) := by
  rw [item_eq]
  apply EndsNamed.within
  unfold itemRest
  cases request.mode with
  | single => exact g.guardTail_ends request
  | collection => exact (g.subqueryTail_ends request).within _
  | count => exact g.subqueryTail_ends request

end Generator

theorem Dialect.spaced {dialect : Dialect} (builtin : dialect ∈ Dialect.builtin.map Prod.snd) :
    Spaced dialect.jsonObject.display ∧ Spaced dialect.jsonArrayAgg.display ∧
      Spaced dialect.emptyArray.display := by
  have known : dialect = .mysql ∨ dialect = .postgres ∨ dialect = .sqlite := by
    simpa [Dialect.builtin] using builtin
  rcases known with rfl | rfl | rfl <;> exact ⟨by decide, by decide, by decide⟩

namespace Generator

variable {g : Generator} {request : Request}

section

variable (builtin : g.dialect ∈ Dialect.builtin.map Prod.snd) (base : isSafe g.baseAlias = true)
  (spelled : request.Spelled)

include builtin spelled

theorem spaced_jsonObject {source : String} (named : Consists isRest source) :
    Spaced (g.jsonObject source request.writtenColumns) := by
  have pairs : ∀ pair ∈ request.columnNames.map (fun name => (source, name)),
      Spaced (pairText pair) := by
    intro pair member
    obtain ⟨name, inside, rfl⟩ := List.mem_map.1 member
    have column := Sql.spaced_of_consists (by decide) (spelled.columns name inside)
    have source_ := Sql.spaced_of_consists (by decide) named
    have after : Spaced "', " := by decide
    have dot : Spaced "." := by decide
    exact (((column.append after).append source_).append dot).append column
  have open_ : Spaced "(" := by decide
  have close : Spaced ")" := by decide
  rw [jsonObject_eq]
  exact (((Dialect.spaced builtin).1.append open_).append
    (Sql.spaced_listed (by decide) (by decide) pairs)).append close

omit builtin

include base

theorem spaced_subqueryTail (many : request.relation.kind = .hasMany) :
    Spaced (g.subqueryTail request) := by
  have table := Sql.spaced_of_consists (by decide) spelled.table
  have farKey := Sql.spaced_of_consists (by decide) spelled.farKey
  have rootKey := Sql.spaced_of_consists (by decide) spelled.rootKey
  have outputKey := Sql.spaced_of_consists (by decide) spelled.outputKey
  have alias_ := Sql.spaced_of_consists (by decide) (Identifier.wide_of_isSafe base)
  have dot : Spaced "." := by decide
  have equals : Spaced " = " := by decide
  have where_ : Spaced " WHERE " := by decide
  have as_ : Spaced ") AS " := by decide
  unfold subqueryTail
  rw [g.correlation_eq many]
  have keys := ((((((table.append dot).append farKey).append equals).append alias_).append
    dot).append rootKey)
  exact (((table.append where_).append keys).append as_).append outputKey

include builtin

theorem spaced_arrayTail (many : request.relation.kind = .hasMany) :
    Spaced (g.arrayTail request) := by
  obtain ⟨-, aggregate, empty⟩ := Dialect.spaced builtin
  have open_ : Spaced "(" := by decide
  have close : Spaced ")" := by decide
  have comma : Spaced ", " := by decide
  have from_ : Spaced ") FROM " := by decide
  have array := ((aggregate.append open_).append
    (spaced_jsonObject builtin spelled spelled.table)).append close
  exact (((array.append comma).append empty).append from_).append
    (spaced_subqueryTail base spelled many)

omit base

theorem spaced_guardTail : Spaced (g.guardTail request) := by
  have label := Sql.spaced_of_consists (by decide) spelled.label
  have primaryKey := Sql.spaced_of_consists (by decide) spelled.primaryKey
  have outputKey := Sql.spaced_of_consists (by decide) spelled.outputKey
  have dot : Spaced "." := by decide
  have missing : Spaced " IS NULL THEN NULL ELSE " := by decide
  have end_ : Spaced " END AS " := by decide
  exact (((((label.append dot).append primaryKey).append missing).append
    (spaced_jsonObject builtin spelled spelled.label)).append end_).append outputKey

include base

theorem spaced_item : Spaced (g.item request) := by
  have opening : ∀ mode, Spaced (itemOpening mode) := by
    intro mode
    cases mode <;> decide
  rw [item_eq]
  apply (opening _).append
  unfold itemRest
  cases mode : request.mode with
  | single => exact spaced_guardTail builtin spelled
  | collection => exact spaced_arrayTail builtin base spelled (spelled.many (by simp [mode]))
  | count => exact spaced_subqueryTail base spelled (spelled.many (by simp [mode]))

end

end Generator

end NestedSelect
