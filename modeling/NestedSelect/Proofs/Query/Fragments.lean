import NestedSelect.Dialect.Registry
import NestedSelect.Proofs.Query.Composition
import NestedSelect.Proofs.Sql.Mentions

/-!
The placeholders of the fragments of statements.

Every fragment over plain names is closed: keys of objects stand between apostrophes, and only
conditions have a placeholder, one each.
-/

namespace NestedSelect

open Sql (BoundStatement Closed Plain Window)
open Identifier (IsSafe isRest isSafe)

theorem Identifier.isPlain_of_isRest {c : Char} (rest : isRest c = true) :
    Sql.isPlain c = true := by
  unfold Sql.isPlain
  cases quoted : Sql.isQuote c with
  | true =>
      have known : c = '\'' ∨ c = '"' ∨ c = Char.ofNat 0x60 := by
        simpa [Sql.isQuote, or_assoc] using quoted
      rcases known with rfl | rfl | rfl
      · exact absurd rest (by decide)
      · exact absurd rest (by decide)
      · exact absurd rest (by decide)
  | false =>
      have unmarked : c ≠ '?' := by
        rintro rfl
        exact absurd rest (by decide)
      simp only [Bool.not_false, Bool.true_and, bne_iff_ne]
      exact unmarked

theorem Identifier.plain_of_isSafe {s : String} (safe : isSafe s = true) : Plain s := by
  intro c member
  rcases Identifier.isRest_of_isSafe safe c member with rest | rfl
  · exact isPlain_of_isRest rest
  · decide

theorem Identifier.plain_of_IsSafe {s : String} (safe : IsSafe s) : Plain s :=
  plain_of_isSafe (isSafe_of_IsSafe safe)

theorem Sql.Plain.dotted {source column : String} (before : Plain source) (after : Plain column) :
    Plain (source ++ "." ++ column) := by
  have dot : Plain "." := plain_of_all (by decide)
  exact (before.append dot).append after

theorem Identifier.plain_qualify {column source : String} (before : Plain source)
    (after : Plain column) : Plain (qualify column source) := by
  unfold qualify
  split
  · exact after
  · exact before.dotted after

/-- A table, keys and an alias whose texts cannot be mistaken for anything else. -/
structure Relation.PlainTexts (relation : Relation) : Prop where
  table : Plain relation.table
  label : Plain relation.label
  primaryKey : Plain relation.primaryKey
  foreignKey : Plain relation.foreignKey
  ownerKey : Plain relation.ownerKeyText
  localKey : Plain relation.localKeyText

theorem Relation.WellFormed.safe {relation : Relation} {name : String}
    (formed : relation.WellFormed name) (named : IsSafe name) :
    ∀ text ∈ relation.texts, IsSafe text := by
  have keys : IsSafe relation.ownerKeyText ∧ IsSafe relation.localKeyText := by
    have absent : IsSafe absentKey := by decide
    have keyed := formed.keyed
    unfold ownerKeyText localKeyText
    generalize relation.kind = kind, relation.ownerKey = owner, relation.localKey = own at keyed
    cases keyed with
    | owner safe => exact ⟨safe, absent⟩
    | one safe => exact ⟨absent, safe⟩
    | many safe => exact ⟨absent, safe⟩
  simp only [texts, List.forall_mem_cons, formed.label_eq]
  exact ⟨formed.table, named, formed.primaryKey, formed.foreignKey, keys.1, keys.2,
    List.forall_mem_nil _⟩

theorem Relation.WellFormed.plainTexts {relation : Relation} {name : String}
    (formed : relation.WellFormed name) (named : IsSafe name) : relation.PlainTexts := by
  have plain : ∀ text ∈ relation.texts, Plain text :=
    fun text inside => Identifier.plain_of_IsSafe (formed.safe named text inside)
  simp only [texts, List.forall_mem_cons] at plain
  obtain ⟨table, label, primaryKey, foreignKey, ownerKey, localKey, _⟩ := plain
  exact ⟨table, label, primaryKey, foreignKey, ownerKey, localKey⟩

/-- The texts of a dialect that stand in every statement for it. -/
structure Dialect.ClosedTexts (dialect : Dialect) : Prop where
  jsonObject : Closed dialect.jsonObject.display 0
  jsonArrayAgg : Closed dialect.jsonArrayAgg.display 0
  emptyArray : Closed dialect.emptyArray.display 0

theorem Dialect.closedTexts {dialect : Dialect}
    (builtin : dialect ∈ Dialect.builtin.map Prod.snd) : dialect.ClosedTexts := by
  have known : dialect = .mysql ∨ dialect = .postgres ∨ dialect = .sqlite := by
    simpa [Dialect.builtin] using builtin
  rcases known with rfl | rfl | rfl
  · exact ⟨by decide, by decide, by decide⟩
  · exact ⟨by decide, by decide, by decide⟩
  · exact ⟨by decide, by decide, by decide⟩

theorem Relation.PlainTexts.plain {relation : Relation} (plain : relation.PlainTexts) :
    ∀ name ∈ relation.texts, Plain name := by
  simp only [Relation.texts, List.forall_mem_cons]
  exact ⟨plain.table, plain.label, plain.primaryKey, plain.foreignKey, plain.ownerKey,
    plain.localKey, List.forall_mem_nil _⟩

namespace Generator

variable {g : Generator}

theorem speaks_closed (texts : g.dialect.ClosedTexts) (base : Plain g.baseAlias) :
    g.Speaks (fun word => Closed word 0) :=
  ⟨by decide, texts.jsonObject, texts.jsonArrayAgg, texts.emptyArray, base.closed⟩

theorem closed_join {request : Request} (dialect : g.dialect.ClosedTexts)
    (texts : request.relation.PlainTexts) (base : Plain g.baseAlias) :
    Closed (g.join request) 0 :=
  ((speaks_closed dialect base).join request).closed
    (fun name inside => texts.plain name (Request.joinNames_subset inside))

theorem closed_item {request : Request} (dialect : g.dialect.ClosedTexts)
    (texts : request.relation.PlainTexts) (base : Plain g.baseAlias)
    (key : Plain request.outputKey)
    (columns : ∀ column ∈ request.writtenColumns, Plain column.display) :
    Closed (g.item request) 0 := by
  apply ((speaks_closed dialect base).item request).closed
  intro name member
  rcases Request.mem_itemNames member with text | rfl | ⟨column, inside, rfl⟩
  · exact texts.plain name text
  · exact key
  · exact columns column inside

end Generator

namespace Sql

theorem closed_clauseLine {keyword clause : String} {count : Nat} (word : Closed keyword 0)
    (closed : Closed clause count) : Closed (clauseLine keyword clause) count := by
  unfold clauseLine
  split
  · rename_i empty
    rwa [empty] at closed
  · have whole := (closed_line.append word).append closed
    simpa only [Nat.zero_add, Nat.add_zero] using whole

theorem isPlain_of_isDigit {c : Char} (digit : c.isDigit = true) : isPlain c = true := by
  apply Identifier.isPlain_of_isRest
  simp only [isRest, Char.isAlphanum, digit, Bool.or_true, Bool.true_or]

theorem plain_natural (n : Nat) : Plain (toString n) := by
  intro c member
  rw [Nat.toString_eq_repr, Nat.toList_repr] at member
  exact isPlain_of_isDigit (Nat.isDigit_of_mem_toDigits (by decide) (by decide) member)

theorem plain_integer (n : Int) : Plain (toString n) := by
  cases n with
  | ofNat n => exact plain_natural n
  | negSucc n =>
      have sign : Plain "-" := plain_of_all (by decide)
      exact sign.append (plain_natural (n + 1))

theorem closed_numberLine {keyword line : String} {value : Value} (word : Closed keyword 0)
    (written : numberLine keyword value = .ok line) : Closed line 0 := by
  unfold numberLine at written
  split at written
  · cases written
    decide
  · obtain ⟨digits, numeral_, written⟩ := Outcome.bind_eq_ok written
    obtain ⟨n, _, numeral_⟩ := Outcome.bind_eq_ok numeral_
    split at numeral_
    · cases numeral_
      cases written
      exact ((closed_line.append word).append closed_blank).append (plain_integer n).closed
    · cases numeral_

theorem closed_conditions {filters : List Filter} {source : String} (before : Plain source)
    (named : ∀ filter ∈ filters, Plain filter.column ∧ filter.operator ∈ allowedOperators) :
    Closed (conditions filters source) filters.length := by
  have parts : ∀ part ∈ filters.map (condition source), Closed part 1 := by
    intro part member
    obtain ⟨filter, inside, rfl⟩ := List.mem_map.1 member
    obtain ⟨column, operator⟩ := named filter inside
    have mark : Closed " ?" 1 := by decide
    have operators : ∀ name ∈ allowedOperators, Closed (Text.upper name) 0 := by decide
    have compared := (Identifier.plain_qualify before column).closed.append closed_blank
    exact (compared.append (operators _ operator)).append mark
  have and_ : Closed " AND " 0 := by decide
  have whole := and_.intercalate parts
  rwa [List.length_map, Nat.mul_one] at whole

theorem closed_orderings {orders : List OrderTerm} {source : String} (before : Plain source)
    (named : ∀ order ∈ orders, Plain order.column ∧ order.direction ∈ directions) :
    Closed (orderings orders source) 0 := by
  have parts : ∀ part ∈ orders.map (ordering source), Closed part 0 := by
    intro part member
    obtain ⟨order, inside, rfl⟩ := List.mem_map.1 member
    obtain ⟨column, direction⟩ := named order inside
    have words : ∀ name ∈ directions, Closed (Text.upper name) 0 := by decide
    exact ((Identifier.plain_qualify before column).closed.append closed_blank).append
      (words _ direction)
  exact closed_comma.intercalate parts

end Sql

end NestedSelect
