import Mathlib.Data.List.Forall2
import NestedSelect.Proofs.Identifier
import NestedSelect.Proofs.Relation.Refusal
import NestedSelect.Proofs.Text.Spelling

/-!
The grammar of names and of lists of columns.

What a name is, is said here by its characters alone, and what a list of columns stands for by the
names that its items write. Main statement: the checks accept what the grammar allows and nothing
else, and answer with what it says (`ensure_accepts_grammar`). On the way there: the results of
`Identifier.ensure` in all three cases, and `distinct` as the only list that keeps the order of
first occurrence (`FirstOccurrences.unique`).
-/

namespace NestedSelect

open Outcome (FailsWith failsWith_error failsWith_ok)

def Outcome.Raises {α : Type} (result : Outcome α) (kind : FaultKind) : Prop :=
  ∃ fault, result = .error fault ∧ fault.kind? = some kind

/-! ### Names -/

namespace Identifier

def IsLetter (c : Char) : Prop := ('A' ≤ c ∧ c ≤ 'Z') ∨ ('a' ≤ c ∧ c ≤ 'z')

def IsFigure (c : Char) : Prop := '0' ≤ c ∧ c ≤ '9'

theorem isAlpha_iff {c : Char} : c.isAlpha = true ↔ IsLetter c := by
  change (decide (c.val ≥ 'A'.val ∧ c.val ≤ 'Z'.val) ||
    (decide (c.val ≥ 'a'.val) && decide (c.val ≤ 'z'.val))) = true ↔ _
  rw [Bool.or_eq_true, Bool.and_eq_true, decide_eq_true_eq, decide_eq_true_eq, decide_eq_true_eq]
  rfl

theorem isDigit_iff {c : Char} : c.isDigit = true ↔ IsFigure c := by
  change (decide (c.val ≥ '0'.val) && decide (c.val ≤ '9'.val)) = true ↔ _
  rw [Bool.and_eq_true, decide_eq_true_eq, decide_eq_true_eq]
  rfl

theorem isStart_iff {c : Char} : isStart c = true ↔ IsLetter c ∨ c = '_' := by
  unfold isStart
  rw [Bool.or_eq_true, isAlpha_iff, beq_iff_eq]

theorem isRest_iff {c : Char} :
    isRest c = true ↔ IsLetter c ∨ IsFigure c ∨ c = '_' ∨ c = '.' := by
  change ((c.isAlpha || c.isDigit) || c == '_' || c == '.') = true ↔ _
  rw [Bool.or_eq_true, Bool.or_eq_true, Bool.or_eq_true, isAlpha_iff, isDigit_iff, beq_iff_eq,
    beq_iff_eq, or_assoc, or_assoc]

/-- A letter or a low line, and after it any letters, figures, low lines and dots. -/
def Grammatical (s : String) : Prop :=
  ∃ first rest, s.toList = first :: rest ∧ (IsLetter first ∨ first = '_') ∧
    ∀ c ∈ rest, IsLetter c ∨ IsFigure c ∨ c = '_' ∨ c = '.'

theorem isSafe_iff_grammatical {s : String} : IsSafe s ↔ Grammatical s := by
  unfold IsSafe
  constructor
  · intro named
    cases same : s.toList with
    | nil =>
        rw [same] at named
        cases named
    | cons first rest =>
        rw [same] at named
        obtain ⟨start, others⟩ := Bool.and_eq_true_iff.1 named
        exact ⟨first, rest, same, isStart_iff.1 start,
          fun c inside => isRest_iff.1 (List.all_eq_true.1 others c inside)⟩
  · rintro ⟨first, rest, same, start, others⟩
    rw [same]
    exact Bool.and_eq_true_iff.2 ⟨isStart_iff.2 start,
      List.all_eq_true.2 (fun c inside => isRest_iff.2 (others c inside))⟩

/-- A value writes a name: it is a text, and without the blanks at its ends it is the name. -/
def Writes (value : Value) (name : String) : Prop :=
  ∃ s, value = .text s ∧ Text.Stripped s name ∧ Grammatical name

/-- A value that says nothing: no text, or one of blanks alone. -/
def IsVoid (value : Value) : Prop :=
  ∀ s, value = .text s → ∀ c ∈ s.toList, Text.isBlank c = true

variable {value : Value} {name : String}

theorem ensure_text (s what : String) :
    ensure (.text s) what =
      if Text.trim s = "" then .error (.emptyName (Text.capitalize what))
      else if isSafe (Text.trim s) = true then .ok (Text.trim s)
      else .error (.unsafeIdentifier (Text.trim s) what) := rfl

theorem ensure_of_isVoid (void : IsVoid value) (what : String) :
    ensure value what = .error (.emptyName (Text.capitalize what)) := by
  have nothing : Text.trim "" = "" := rfl
  have empty : Text.trim (value.text?.getD "") = "" := by
    cases value with
    | text s => exact Text.trim_eq_iff.2 (Text.stripped_empty_iff.2 (void s rfl))
    | _ => exact nothing
  unfold ensure
  simp only [empty, if_true]

theorem ensure_of_writes (writes : Writes value name) (what : String) :
    ensure value what = .ok name := by
  obtain ⟨s, rfl, stripped, grammatical⟩ := writes
  have safe : IsSafe name := isSafe_iff_grammatical.2 grammatical
  have some : name ≠ "" := by
    rintro rfl
    cases safe
  rw [ensure_text, Text.trim_eq_iff.2 stripped, if_neg some, if_pos (isSafe_of_IsSafe safe)]

theorem ensure_of_not_writes (filled : ¬ IsVoid value) (wrong : ∀ name, ¬ Writes value name)
    (what : String) : ∃ name, ensure value what = .error (.unsafeIdentifier name what) := by
  cases value with
  | text s =>
      have some : Text.trim s ≠ "" := by
        intro empty
        apply filled
        intro other same
        cases same
        exact Text.stripped_empty_iff.1 (Text.trim_eq_iff.1 empty)
      -- the test alone lets a final line break pass, but trimming leaves none
      have wild : ¬ isSafe (Text.trim s) = true := by
        intro safe
        have ensured : ensure (.text s) what = .ok (Text.trim s) := by
          rw [ensure_text, if_neg some, if_pos safe]
        exact wrong _ ⟨s, rfl, Text.trim_eq_iff.1 rfl,
          isSafe_iff_grammatical.1 (ensure_isSafe ensured)⟩
      exact ⟨_, by rw [ensure_text, if_neg some, if_neg wild]⟩
  | _ => exact absurd (fun _ impossible => nomatch impossible) filled

theorem ensure_cases (value : Value) (what : String) :
    (IsVoid value ∧ ensure value what = .error (.emptyName (Text.capitalize what))) ∨
      (∃ name, Writes value name ∧ ensure value what = .ok name) ∨
      ∃ name, (¬ IsVoid value ∧ ∀ other, ¬ Writes value other) ∧
        ensure value what = .error (.unsafeIdentifier name what) := by
  by_cases void : IsVoid value
  · exact .inl ⟨void, ensure_of_isVoid void what⟩
  · by_cases named : ∃ name, Writes value name
    · obtain ⟨name, writes⟩ := named
      exact .inr (.inl ⟨name, writes, ensure_of_writes writes what⟩)
    · have wrong := not_exists.1 named
      obtain ⟨name, refused⟩ := ensure_of_not_writes void wrong what
      exact .inr (.inr ⟨name, ⟨void, wrong⟩, refused⟩)

theorem ensure_eq_ok_iff (what : String) : ensure value what = .ok name ↔ Writes value name := by
  constructor
  · intro done
    rcases ensure_cases value what with ⟨_, failed⟩ | ⟨other, writes, made⟩ | ⟨_, _, failed⟩
    · cases failed.symm.trans done
    · exact Except.ok.inj (made.symm.trans done) ▸ writes
    · cases failed.symm.trans done
  · exact fun writes => ensure_of_writes writes what

theorem ensure_raises_unsafe_iff (what : String) :
    (ensure value what).Raises .unsafeIdentifier ↔
      ¬ IsVoid value ∧ ∀ name, ¬ Writes value name := by
  constructor
  · rintro ⟨fault, failed, kind⟩
    rcases ensure_cases value what with ⟨_, empty⟩ | ⟨_, _, made⟩ | ⟨_, wrong, _⟩
    · cases empty.symm.trans failed
      cases kind
    · cases made.symm.trans failed
    · exact wrong
  · rintro ⟨filled, wrong⟩
    obtain ⟨name, refused⟩ := ensure_of_not_writes filled wrong what
    exact ⟨_, refused, rfl⟩

theorem ensure_raises_invalid_iff (what : String) :
    (ensure value what).Raises .invalidRequest ↔ IsVoid value := by
  constructor
  · rintro ⟨fault, failed, kind⟩
    rcases ensure_cases value what with ⟨void, _⟩ | ⟨_, _, made⟩ | ⟨_, _, refused⟩
    · exact void
    · cases made.symm.trans failed
    · cases refused.symm.trans failed
      cases kind
  · exact fun void => ⟨_, ensure_of_isVoid void what, rfl⟩

end Identifier

/-! ### Lists of columns -/

namespace Columns

/-- Of the names of a list each once, in the order in which they first occur. -/
structure FirstOccurrences (names kept : List String) : Prop where
  same : ∀ name, name ∈ kept ↔ name ∈ names
  ordered : kept.Pairwise (fun a b => names.idxOf a < names.idxOf b)

variable {names kept : List String}

theorem firstOccurrences_distinct (names : List String) :
    FirstOccurrences names (distinct names) where
  same _ := mem_distinct
  ordered := by
    induction names with
    | nil => exact List.Pairwise.nil
    | cons name rest ih =>
        -- what is left of the rest is not the first name, so it is found one place later
        have later {other : String} (inside : other ∈ (distinct rest).filter (· != name)) :
            (name :: rest).idxOf other = rest.idxOf other + 1 := by
          have apart : other ≠ name := by simpa using (List.mem_filter.1 inside).2
          exact List.idxOf_cons_ne rest apart.symm
        refine List.pairwise_cons.2 ⟨?_, ?_⟩
        · intro other inside
          rw [List.idxOf_cons_self, later inside]
          exact Nat.succ_pos _
        · refine (ih.filter _).imp_of_mem ?_
          intro a b first second before
          rw [later first, later second]
          exact Nat.succ_lt_succ before

/-- Names and their order leave no choice. -/
theorem FirstOccurrences.unique {others : List String} (first : FirstOccurrences names kept)
    (second : FirstOccurrences names others) : kept = others := by
  have once {list : List String} (occurrences : FirstOccurrences names list) : list.Nodup := by
    refine occurrences.ordered.imp ?_
    rintro a b before rfl
    exact Nat.lt_irrefl _ before
  have perm : kept.Perm others := by
    refine (List.perm_ext_iff_of_nodup (once first) (once second)).2 ?_
    intro name
    rw [first.same, second.same]
  refine perm.eq_of_pairwise ?_ first.ordered second.ordered
  intro a b _ _ before after
  exact absurd before (Nat.lt_asymm after)

theorem distinct_of_nodup (once : names.Nodup) : distinct names = names := by
  induction names with
  | nil => rfl
  | cons name rest ih =>
      obtain ⟨apart, others⟩ := List.nodup_cons.1 once
      have kept : rest.filter (· != name) = rest := by
        refine List.filter_eq_self.2 ?_
        rintro other inside
        rw [bne_iff_ne]
        rintro rfl
        exact apart inside
      rw [distinct, ih others, kept]

/-- The columns that a list stands for: the wildcard if it is alone, and the names that all items
write if there are some and no item is the wildcard. -/
inductive Stands : List Value → Columns → Prop where
  | wildcard : Stands [.text "*"] wildcard
  | names {items : List Value} {written names : List String} (some : items ≠ [])
      (plain : Value.text "*" ∉ items) (each : List.Forall₂ Identifier.Writes items written)
      (kept : FirstOccurrences written names) : Stands items (.listed (names.map Value.text))

variable {items : List Value} {result : Columns}

theorem ensureNames_eq_ok_iff {written : List String} :
    ensureNames items = .ok written ↔ List.Forall₂ Identifier.Writes items written := by
  induction items generalizing written with
  | nil =>
      rw [List.forall₂_nil_left_iff]
      constructor
      · intro done
        exact (Except.ok.inj done).symm
      · rintro rfl
        rfl
  | cons item rest ih =>
      rw [List.forall₂_cons_left_iff]
      constructor
      · intro done
        obtain ⟨name, named, done⟩ := Outcome.bind_eq_ok done
        obtain ⟨names, others, done⟩ := Outcome.bind_eq_ok done
        cases done
        exact ⟨name, names, (Identifier.ensure_eq_ok_iff _).1 named, ih.1 others, rfl⟩
      · rintro ⟨name, names, writes, others, rfl⟩
        have named := (Identifier.ensure_eq_ok_iff "column").2 writes
        exact (Outcome.bind_of_ok named).trans (Outcome.bind_of_ok (ih.2 others))

theorem ensureNames_failsWith (items : List Value) :
    FailsWith Fault.IsNaming (ensureNames items) := by
  induction items with
  | nil => exact failsWith_ok _
  | cons item rest ih =>
      refine FailsWith.bind (Identifier.ensure_failsWith item "column") ?_
      intro name
      exact FailsWith.bind ih (fun _ => failsWith_ok _)

theorem ofItems_failsWith (relation : String) (items : List Value) :
    FailsWith Fault.IsNaming (ofItems relation items) := by
  unfold ofItems
  split
  · exact failsWith_error (.inr rfl)
  · split
    · split
      · exact failsWith_error (.inr rfl)
      · exact failsWith_ok _
    · exact FailsWith.bind (ensureNames_failsWith items) (fun _ => failsWith_ok _)

theorem stands_of_wildcard (star : Value.text "*" ∈ items) :
    Stands items result ↔ items.length ≤ 1 ∧ result = wildcard := by
  constructor
  · intro stands
    cases stands with
    | wildcard => exact ⟨Nat.le_refl 1, rfl⟩
    | names _ plain _ _ => exact absurd star plain
  · rintro ⟨few, rfl⟩
    have alone : items = [.text "*"] := by
      match items, star, few with
      | [item], star, _ => rw [List.mem_singleton.1 star]
      | _ :: _ :: _, _, few => exact absurd few (by simp)
    rw [alone]
    exact .wildcard

theorem ofItems_eq_ok_iff (relation : String) :
    ofItems relation items = .ok result ↔ Stands items result := by
  by_cases none : items = []
  · rw [none]
    constructor
    · intro done
      cases done
    · intro stands
      cases stands with
      | names some _ _ _ => exact absurd rfl some
  have filled : ¬ items.isEmpty = true := fun empty => none (List.isEmpty_iff.1 empty)
  unfold ofItems
  rw [if_neg filled]
  by_cases star : Value.text "*" ∈ items
  · rw [if_pos (any_isStar_iff.2 star), stands_of_wildcard star]
    by_cases many : 1 < items.length
    · rw [if_pos many]
      exact iff_of_false (fun done => nomatch done) (fun alone => absurd alone.1 (by omega))
    · rw [if_neg many]
      constructor
      · intro done
        exact ⟨Nat.le_of_not_lt many, (Except.ok.inj done).symm⟩
      · rintro ⟨_, rfl⟩
        rfl
  · rw [if_neg (fun any => star (any_isStar_iff.1 any))]
    constructor
    · intro done
      obtain ⟨written, checked, done⟩ := Outcome.bind_eq_ok done
      cases done
      exact .names none star (ensureNames_eq_ok_iff.1 checked) (firstOccurrences_distinct written)
    · intro stands
      cases stands with
      | wildcard => exact absurd (List.mem_singleton.2 rfl) star
      | @names _ written names _ _ each kept =>
          rw [Outcome.bind_of_ok (ensureNames_eq_ok_iff.2 each),
            kept.unique (firstOccurrences_distinct written)]

theorem ensure_list (items : List Value) (relation : String) :
    ensure (.list items) relation = ofItems relation items := by
  cases items with
  | nil => rfl
  | cons => rfl

theorem Asked.ensure_eq (asked : Asked result) (relation : String) :
    ensure result.toValue relation = .ok result := by
  cases asked with
  | wildcard => rfl
  | @names names some once safe =>
      change ensure (.list (names.map Value.text)) relation = _
      rw [ensure_list, ofItems_eq_ok_iff]
      have kept := firstOccurrences_distinct names
      rw [distinct_of_nodup once] at kept
      refine .names (fun empty => some (List.map_eq_nil_iff.1 empty)) ?_ ?_ kept
      · intro star
        obtain ⟨name, inside, same⟩ := List.mem_map.1 star
        cases same
        exact absurd (safe "*" inside) (by decide)
      · rw [List.forall₂_map_left_iff, List.forall₂_same]
        intro name inside
        exact (Identifier.ensure_eq_ok_iff "column").1
          (Identifier.ensure_of_IsSafe (safe name inside) "column")

end Columns

open Identifier (Writes IsVoid)
open Columns (Stands)

/-- The checks accept exactly the grammar. A name is the trimmed text of a value if that is
grammatical; other texts that are not blank are unsafe, and everything else is invalid. A list of
columns, or a text in place of a list of one, is accepted exactly if it stands for columns, which
are the ones that are given; the wildcard stands alone. What is accepted passes again as it is. -/
theorem ensure_accepts_grammar :
    (∀ (value : Value) (what : String),
      (∀ name, Identifier.ensure value what = .ok name ↔ Writes value name) ∧
      ((Identifier.ensure value what).Raises .unsafeIdentifier ↔
        ¬ IsVoid value ∧ ∀ name, ¬ Writes value name) ∧
      ((Identifier.ensure value what).Raises .invalidRequest ↔ IsVoid value)) ∧
    (∀ (items : List Value) (relation : String),
      (Columns.ensure (.list items) relation = .ok .wildcard ↔ items = [.text "*"]) ∧
      (∀ result, Columns.ensure (.list items) relation = .ok result ↔ Stands items result) ∧
      ((∃ fault, Columns.ensure (.list items) relation = .error fault ∧ fault.IsNaming) ↔
        ∀ result, ¬ Stands items result)) ∧
    (∀ (s relation : String),
      Columns.ensure (.text s) relation = Columns.ensure (.list [.text s]) relation) ∧
    ∀ (columns : Value) (relation again : String) (result : Columns),
      Columns.ensure columns relation = .ok result →
        Columns.ensure result.toValue again = .ok result := by
  refine ⟨?_, ?_, fun _ _ => rfl, ?_⟩
  · intro value what
    exact ⟨fun _ => Identifier.ensure_eq_ok_iff what, Identifier.ensure_raises_unsafe_iff what,
      Identifier.ensure_raises_invalid_iff what⟩
  · intro items relation
    rw [Columns.ensure_list]
    refine ⟨?_, fun _ => Columns.ofItems_eq_ok_iff relation, ?_⟩
    · rw [Columns.ofItems_eq_ok_iff]
      constructor
      · intro stands
        cases stands with
        | wildcard => rfl
      · rintro rfl
        exact .wildcard
    · constructor
      · rintro ⟨fault, failed, _⟩ result stands
        cases failed.symm.trans ((Columns.ofItems_eq_ok_iff relation).2 stands)
      · intro unaccepted
        cases checked : Columns.ofItems relation items with
        | error fault => exact ⟨fault, rfl, Columns.ofItems_failsWith relation items fault checked⟩
        | ok result =>
            exact absurd ((Columns.ofItems_eq_ok_iff relation).1 checked) (unaccepted result)
  · intro columns relation again result done
    exact (Columns.ensure_asked done).ensure_eq again

theorem ensure_accepts_grammar_padded :
    Columns.ensure (.list [.text " id\n", .text "t.name", .text "id"]) "tags" =
        .ok (.listed [.text "id", .text "t.name"]) ∧
      Columns.ensure (.list [.text "id", .text "t.name"]) "notes" =
        .ok (.listed [.text "id", .text "t.name"]) := by
  have checked : Columns.ensure (.list [.text " id\n", .text "t.name", .text "id"]) "tags" =
      .ok (.listed [.text "id", .text "t.name"]) := rfl
  exact ⟨checked, ensure_accepts_grammar.2.2.2 _ _ "notes" _ checked⟩

end NestedSelect
