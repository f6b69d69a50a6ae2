import Mathlib.Data.List.Forall2
import NestedSelect.Dialect.Generator
import NestedSelect.Proofs.Query.Layout
import NestedSelect.Proofs.Sql.Placeholders

/-!
The names that texts mention.

A text mentions names if it is put together from known words and from these names, in order. The
fragments of a statement mention tables, keys, columns and the key that the answer stands under; all
else in them is known beforehand.
-/

namespace NestedSelect

namespace Sql

/-- A text that is put together from known words and from names. Names stand bare, or between
apostrophes as the keys of objects do. -/
inductive Mentions (words : String → Prop) : List String → String → Prop where
  | word {s : String} (known : words s) : Mentions words [] s
  | bare (name : String) : Mentions words [name] name
  | quoted (name : String) : Mentions words [name] ("'" ++ name ++ "'")
  | append {names more : List String} {s t : String} (first : Mentions words names s)
      (second : Mentions words more t) : Mentions words (names ++ more) (s ++ t)

namespace Mentions

variable {words : String → Prop} {names : List String} {s : String}

theorem closed (mentions : Mentions (fun word => Closed word 0) names s)
    (plain : ∀ name ∈ names, Plain name) : Closed s 0 := by
  induction mentions with
  | word known => exact known
  | bare name => exact (plain name List.mem_cons_self).closed
  | quoted name => exact (plain name List.mem_cons_self).quoted
  | append _ _ first second =>
      have before := first (fun name inside => plain name (List.mem_append_left _ inside))
      have after := second (fun name inside => plain name (List.mem_append_right _ inside))
      exact before.append after

theorem joined {separator : String} {named : List (List String)} {parts : List String}
    (empty : words "") (between : words separator)
    (each : List.Forall₂ (Mentions words) named parts) :
    Mentions words named.flatten (String.intercalate separator parts) := by
  induction each with
  | nil => exact .word empty
  | @cons names part _ rest first others ih =>
      rw [List.flatten_cons]
      cases rest with
      | nil =>
          cases others
          rw [String.intercalate_singleton, List.flatten_nil, List.append_nil]
          exact first
      | cons next more =>
          rw [String.intercalate_cons_cons]
          have whole := (first.append (.word between)).append ih
          rwa [List.append_nil] at whole

theorem intercalate {α : Type} {separator : String} {items : List α} {text : α → String}
    {named : α → List String} (empty : words "") (between : words separator)
    (each : ∀ item ∈ items, Mentions words (named item) (text item)) :
    Mentions words (items.flatMap named) (String.intercalate separator (items.map text)) := by
  rw [List.flatMap_def]
  exact joined empty between (List.forall₂_map_left_iff.2 (List.forall₂_map_right_iff.2
    (List.forall₂_same.2 each)))

end Mentions

end Sql

open Sql (Mentions)

/-- The names that the columns of an object are written with: each as a key, and again as a column
of the source. -/
def objectNames (source : String) (columns : List Value) : List String :=
  columns.flatMap (fun column => [column.display, source, column.display])

theorem mem_objectNames {source name : String} {columns : List Value}
    (member : name ∈ objectNames source columns) :
    name = source ∨ ∃ column ∈ columns, column.display = name := by
  obtain ⟨column, inside, there⟩ := List.mem_flatMap.1 member
  simp only [List.mem_cons, List.not_mem_nil, or_false] at there
  rcases there with same | same | same
  · exact .inr ⟨column, inside, same.symm⟩
  · exact .inl same
  · exact .inr ⟨column, inside, same.symm⟩

namespace Relation

variable (relation : Relation)

def texts : List String :=
  [relation.table, relation.label, relation.primaryKey, relation.foreignKey,
    relation.ownerKeyText, relation.localKeyText]

def correlationNames : List String := [relation.table, relation.foreignKey, relation.localKeyText]

def meetingNames : List String :=
  match relation.kind with
  | .belongsToOne => [relation.label, relation.ownerKeyText, relation.foreignKey]
  | .hasOne | .hasMany => [relation.label, relation.foreignKey, relation.localKeyText]

variable {relation}

theorem correlationNames_subset : relation.correlationNames ⊆ relation.texts := by
  simp [correlationNames, texts]

theorem meetingNames_subset : relation.meetingNames ⊆ relation.texts := by
  unfold meetingNames
  cases relation.kind with
  | belongsToOne => simp [texts]
  | hasOne => simp [texts]
  | hasMany => simp [texts]

end Relation

namespace Request

variable (request : Request)

def itemNames : List String :=
  let relation := request.relation
  match request.mode with
  | .single =>
      relation.label :: relation.primaryKey ::
        (objectNames relation.label request.writtenColumns ++ [request.outputKey])
  | .collection =>
      objectNames relation.table request.writtenColumns ++
        relation.table :: (relation.correlationNames ++ [request.outputKey])
  | .count => relation.table :: (relation.correlationNames ++ [request.outputKey])

def joinNames : List String :=
  request.relation.table :: request.relation.label :: request.relation.meetingNames

variable {request}

theorem joinNames_subset : request.joinNames ⊆ request.relation.texts := by
  have table : request.relation.table ∈ request.relation.texts := by simp [Relation.texts]
  have label : request.relation.label ∈ request.relation.texts := by simp [Relation.texts]
  exact List.cons_subset.2 ⟨table, List.cons_subset.2 ⟨label, Relation.meetingNames_subset⟩⟩

theorem mem_itemNames {name : String} (member : name ∈ request.itemNames) :
    name ∈ request.relation.texts ∨ name = request.outputKey ∨
      ∃ column ∈ request.writtenColumns, column.display = name := by
  have table : request.relation.table ∈ request.relation.texts := by simp [Relation.texts]
  have label : request.relation.label ∈ request.relation.texts := by simp [Relation.texts]
  have primaryKey : request.relation.primaryKey ∈ request.relation.texts := by
    simp [Relation.texts]
  have ends : ∀ name ∈ request.relation.table ::
      (request.relation.correlationNames ++ [request.outputKey]),
      name ∈ request.relation.texts ∨ name = request.outputKey := by
    intro name member
    rcases List.mem_cons.1 member with rfl | member
    · exact .inl table
    rcases List.mem_append.1 member with inside | key
    · exact .inl (Relation.correlationNames_subset inside)
    · exact .inr (List.mem_singleton.1 key)
  unfold itemNames at member
  split at member
  · rcases List.mem_cons.1 member with rfl | member
    · exact .inl label
    rcases List.mem_cons.1 member with rfl | member
    · exact .inl primaryKey
    rcases List.mem_append.1 member with object | key
    · rcases mem_objectNames object with rfl | written
      · exact .inl label
      · exact .inr (.inr written)
    · exact .inr (.inl (List.mem_singleton.1 key))
  · rcases List.mem_append.1 member with object | rest
    · rcases mem_objectNames object with rfl | written
      · exact .inl table
      · exact .inr (.inr written)
    · exact (ends name rest).imp_right .inl
  · exact (ends name member).imp_right .inl

end Request

namespace Generator

def fragmentWords : List String :=
  ["", ".", ", ", "(", ")", " ", " = ", "COALESCE(", "CASE WHEN ", " IS NULL THEN NULL ELSE ",
    " END AS ", "(SELECT ", "(SELECT COUNT(*) FROM ", " FROM ", " WHERE ", ") AS ", "LEFT JOIN ",
    " ON "]

/-- Words that cover all but the names in the fragments of a generator. -/
structure Speaks (g : Generator) (words : String → Prop) : Prop where
  fixed : ∀ word ∈ fragmentWords, words word
  jsonObject : words g.dialect.jsonObject.display
  jsonArrayAgg : words g.dialect.jsonArrayAgg.display
  emptyArray : words g.dialect.emptyArray.display
  root : words g.baseAlias

variable {g : Generator} {words : String → Prop}

namespace Speaks

variable (speaks : g.Speaks words)

include speaks

theorem word (word : String) (inside : word ∈ fragmentWords) : Mentions words [] word :=
  .word (speaks.fixed word inside)

theorem pair (source : String) (column : Value) :
    Mentions words [column.display, source, column.display] (jsonPair source column) := by
  have comma := speaks.word ", " (by decide)
  have dot := speaks.word "." (by decide)
  have cut : Generator.jsonPair source column =
      "'" ++ column.display ++ "'" ++ ", " ++ source ++ "." ++ column.display := by
    simp only [Generator.jsonPair, String.append_assoc]
    rfl
  rw [cut]
  exact ((((Mentions.quoted _).append comma).append (.bare source)).append dot).append (.bare _)

theorem object (source : String) (columns : List Value) :
    Mentions words (objectNames source columns) (g.jsonObject source columns) := by
  have opening := speaks.word "(" (by decide)
  have closing := speaks.word ")" (by decide)
  have pairs : Mentions words (objectNames source columns)
      (String.intercalate ", " (columns.map (Generator.jsonPair source))) :=
    .intercalate (speaks.fixed "" (by decide)) (speaks.fixed ", " (by decide))
      (fun column _ => speaks.pair source column)
  have whole := (((Mentions.word speaks.jsonObject).append opening).append pairs).append closing
  rwa [List.append_nil, List.append_nil, List.nil_append] at whole

theorem array {names : List String} {expression : String}
    (inside : Mentions words names expression) :
    Mentions words names (g.jsonArrayCoalesce (g.jsonArrayAgg expression)) := by
  have opening := speaks.word "(" (by decide)
  have closing := speaks.word ")" (by decide)
  have comma := speaks.word ", " (by decide)
  have coalesce := speaks.word "COALESCE(" (by decide)
  have called := (((Mentions.word speaks.jsonArrayAgg).append opening).append inside).append closing
  have whole := (((coalesce.append called).append comma).append (.word speaks.emptyArray)).append
    closing
  simp only [List.append_nil, List.nil_append] at whole
  exact whole

theorem equation (source column key : String) :
    Mentions words [source, column, key]
      (source ++ "." ++ column ++ " = " ++ g.baseAlias ++ "." ++ key) := by
  have dot := speaks.word "." (by decide)
  have equals := speaks.word " = " (by decide)
  exact ((((((Mentions.bare source).append dot).append (.bare column)).append equals).append
    (.word speaks.root)).append dot).append (.bare key)

theorem correlation (relation : Relation) :
    Mentions words relation.correlationNames (g.correlation relation) :=
  speaks.equation relation.table relation.foreignKey relation.localKeyText

theorem meeting (relation : Relation) :
    Mentions words relation.meetingNames (g.meeting relation) := by
  unfold Relation.meetingNames Generator.meeting
  cases relation.kind with
  | belongsToOne => exact speaks.equation _ _ _
  | hasOne => exact speaks.equation _ _ _
  | hasMany => exact speaks.equation _ _ _

theorem join (request : Request) : Mentions words request.joinNames (g.join request) := by
  have leftJoin := speaks.word "LEFT JOIN " (by decide)
  have blank := speaks.word " " (by decide)
  have on := speaks.word " ON " (by decide)
  exact ((((leftJoin.append (.bare _)).append blank).append (.bare _)).append on).append
    (speaks.meeting request.relation)

theorem item (request : Request) : Mentions words request.itemNames (g.item request) := by
  have from_ := speaks.word " FROM " (by decide)
  have where_ := speaks.word " WHERE " (by decide)
  have as_ := speaks.word ") AS " (by decide)
  have table : Mentions words [request.relation.table] request.relation.table := .bare _
  have key : Mentions words [request.outputKey] request.outputKey := .bare _
  have correlation := speaks.correlation request.relation
  unfold Request.itemNames Generator.item
  cases request.mode with
  | single =>
      have case_ := speaks.word "CASE WHEN " (by decide)
      have dot := speaks.word "." (by decide)
      have missing := speaks.word " IS NULL THEN NULL ELSE " (by decide)
      have end_ := speaks.word " END AS " (by decide)
      have object := speaks.object request.relation.label request.writtenColumns
      have guard := ((case_.append (.bare request.relation.label)).append dot).append
        (.bare request.relation.primaryKey)
      have whole := (((guard.append missing).append object).append end_).append key
      simp only [List.append_nil, List.nil_append, List.cons_append] at whole
      exact whole
  | collection =>
      have select := speaks.word "(SELECT " (by decide)
      have objects := speaks.array
        (speaks.object request.relation.table request.writtenColumns)
      have whole := ((((((select.append objects).append from_).append table).append where_).append
        correlation).append as_).append key
      simp only [List.append_nil, List.nil_append, List.append_assoc, List.cons_append] at whole
      exact whole
  | count =>
      have select := speaks.word "(SELECT COUNT(*) FROM " (by decide)
      have whole := ((((select.append table).append where_).append correlation).append as_).append
        key
      simp only [List.append_nil, List.nil_append, List.cons_append] at whole
      exact whole

end Speaks

end Generator

end NestedSelect
