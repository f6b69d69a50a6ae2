import NestedSelect.Proofs.Identifier
import NestedSelect.Sql.Statement

/-!
Reading texts back.

A text is legible if it can be told from what follows it: two of them that go on to the same whole
mean the same and go on alike. Names are legible where another character follows, and a list of
legible parts is legible where neither its opening nor its separator follows.
-/

namespace NestedSelect

namespace Sql

variable {α β : Type} {kind : Char → Bool} {lead other : String}

def Consists (kind : Char → Bool) (s : String) : Prop := ∀ c ∈ s.toList, kind c = true

instance (s : String) : Decidable (Consists kind s) :=
  List.decidableBAll (fun c => kind c = true) s.toList

def Stops (kind : Char → Bool) (s : String) : Prop := ∀ c, s.toList.head? = some c → kind c = false

theorem Consists.append {s t : String} (first : Consists kind s) (second : Consists kind t) :
    Consists kind (s ++ t) := by
  intro c member
  rw [String.toList_append] at member
  exact (List.mem_append.1 member).elim (first c) (second c)

theorem takeWhile_append {s t : String} (inside : Consists kind s) (after : Stops kind t) :
    (s ++ t).toList.takeWhile kind = s.toList := by
  rw [String.toList_append, List.takeWhile_append_of_pos inside]
  cases letters : t.toList with
  | nil => simp
  | cons c rest =>
      have stop := after c (by simp [letters])
      simp [stop]

theorem cut {a b r s : String} (first : Consists kind a) (second : Consists kind b)
    (after : Stops kind r) (also : Stops kind s) (same : a ++ r = b ++ s) : a = b ∧ r = s := by
  have front : a = b := by
    have taken := takeWhile_append second also
    rw [← same, takeWhile_append first after] at taken
    exact String.toList_inj.1 taken
  subst front
  exact ⟨rfl, (String.append_right_inj a).1 same⟩

def stopsAt (kind : Char → Bool) (lead : String) : Bool :=
  lead.toList.head?.any (fun c => !kind c)

theorem stops_append (stop : stopsAt kind lead = true) (t : String) : Stops kind (lead ++ t) := by
  intro c first
  unfold stopsAt at stop
  cases letters : lead.toList with
  | nil => simp [letters] at stop
  | cons head rest =>
      simp only [letters, List.head?_cons, Option.any_some] at stop
      simp only [String.toList_append, letters, List.cons_append, List.head?_cons,
        Option.some.injEq] at first
      rw [← first]
      simpa using stop

theorem cut_before {a b r s : String} (first : Consists kind a) (second : Consists kind b)
    (stop : stopsAt kind lead = true) (same : a ++ (lead ++ r) = b ++ (lead ++ s)) :
    a = b ∧ r = s := by
  obtain ⟨front, tails⟩ := cut first second (stops_append stop r) (stops_append stop s) same
  exact ⟨front, (String.append_right_inj lead).1 tails⟩

theorem stops_nothing : Stops kind "" := by
  intro c first
  simp at first

def Starts (lead s : String) : Prop := ∃ t, s = lead ++ t

def areApart (lead other : String) : Bool :=
  !lead.toList.isPrefixOf other.toList && !other.toList.isPrefixOf lead.toList

theorem not_starts_append (apart : areApart lead other = true) (t : String) :
    ¬ Starts lead (other ++ t) := by
  rintro ⟨rest, same⟩
  have letters := congrArg String.toList same
  rw [String.toList_append, String.toList_append] at letters
  have near : other.toList <+: lead.toList ++ rest.toList := ⟨t.toList, letters⟩
  rcases List.prefix_or_prefix_of_prefix near (List.prefix_append _ _) with inside | inside
  · simp [areApart, List.isPrefixOf_iff_prefix.2 inside] at apart
  · simp [areApart, List.isPrefixOf_iff_prefix.2 inside] at apart

theorem not_starts_nothing (filled : lead ≠ "") : ¬ Starts lead "" := by
  rintro ⟨t, same⟩
  exact filled (String.append_eq_empty_iff.1 same.symm).1

def listed (opening separator : String) (print : α → String) : List α → String
  | [] => ""
  | a :: rest => opening ++ (print a ++ listed separator separator print rest)

/-- What a part means can be read off its text, wherever it is followed as it should be. -/
def Legible (print : α → String) (meaning : α → β) (good : α → Prop) (follow : String → Prop) :
    Prop :=
  ∀ a b r s, good a → good b → follow r → follow s → print a ++ r = print b ++ s →
    meaning a = meaning b ∧ r = s

/-- What may follow a list: what may follow its parts, but no opening and no separator. -/
structure Ends (follow : String → Prop) (opening separator s : String) : Prop where
  follows : follow s
  unopened : ¬ Starts opening s
  separated : ¬ Starts separator s

variable {print : α → String} {meaning : α → β} {good : α → Prop} {follow : String → Prop}
  {opening separator : String}

theorem listed_append_cons (a : α) (rest : List α) (r : String) :
    listed opening separator print (a :: rest) ++ r =
      opening ++ (print a ++ (listed separator separator print rest ++ r)) := by
  simp only [listed, String.append_assoc]

theorem Legible.listed (legible : Legible print meaning good follow)
    (between : ∀ t, follow (separator ++ t)) {as bs : List α} {r s : String}
    (first : ∀ a ∈ as, good a) (second : ∀ b ∈ bs, good b)
    (after : Ends follow opening separator r) (also : Ends follow opening separator s)
    (same : Sql.listed opening separator print as ++ r =
      Sql.listed opening separator print bs ++ s) :
    as.map meaning = bs.map meaning ∧ r = s := by
  have goesOn {rest : List α} {t : String} (fit : follow t) :
      follow (Sql.listed separator separator print rest ++ t) := by
    cases rest with
    | nil => rwa [Sql.listed, String.empty_append]
    | cons a more =>
        rw [listed_append_cons]
        exact between _
  induction as generalizing bs opening with
  | nil =>
      cases bs with
      | nil =>
          rw [Sql.listed, String.empty_append, String.empty_append] at same
          exact ⟨rfl, same⟩
      | cons b more =>
          rw [listed_append_cons, Sql.listed, String.empty_append] at same
          exact absurd ⟨_, same⟩ after.unopened
  | cons a rest ih =>
      cases bs with
      | nil =>
          rw [listed_append_cons, Sql.listed, String.empty_append] at same
          exact absurd ⟨_, same.symm⟩ also.unopened
      | cons b more =>
          rw [listed_append_cons, listed_append_cons] at same
          obtain ⟨means, tails⟩ := legible a b _ _ (first a List.mem_cons_self)
            (second b List.mem_cons_self) (goesOn after.follows) (goesOn also.follows)
            ((String.append_right_inj opening).1 same)
          obtain ⟨others, ends⟩ := ih
            (fun other inside => first other (List.mem_cons_of_mem a inside))
            (fun other inside => second other (List.mem_cons_of_mem b inside))
            ⟨after.follows, after.separated, after.separated⟩
            ⟨also.follows, also.separated, also.separated⟩ tails
          exact ⟨by rw [List.map_cons, List.map_cons, means, others], ends⟩

section

variable (separator print)

theorem stops_listed (stop : stopsAt kind opening = true) (as : List α) {r : String}
    (after : Stops kind r) : Stops kind (listed opening separator print as ++ r) := by
  cases as with
  | nil => rwa [listed, String.empty_append]
  | cons a rest =>
      rw [listed_append_cons]
      exact stops_append stop _

theorem not_starts_listed (apart : areApart lead opening = true) (as : List α) {r : String}
    (after : ¬ Starts lead r) : ¬ Starts lead (listed opening separator print as ++ r) := by
  cases as with
  | nil => rwa [listed, String.empty_append]
  | cons a rest =>
      rw [listed_append_cons]
      exact not_starts_append apart _

theorem intercalate_eq_listed (as : List α) :
    String.intercalate separator (as.map print) = listed "" separator print as := by
  induction as with
  | nil => rfl
  | cons a rest ih =>
      cases rest with
      | nil => simp [listed]
      | cons b more =>
          simp only [List.map_cons, String.intercalate_cons_cons] at ih ⊢
          rw [ih]
          simp only [listed, String.empty_append, String.append_assoc]

theorem intercalate_cons_eq_listed (first : String) (as : List α) :
    String.intercalate separator (first :: as.map print) =
      first ++ listed separator separator print as := by
  cases as with
  | nil => simp [listed]
  | cons a rest =>
      have others := intercalate_eq_listed print separator (a :: rest)
      rw [List.map_cons] at others
      rw [List.map_cons, String.intercalate_cons_cons, others]
      simp only [listed, String.empty_append, String.append_assoc]

theorem listed_lead (lead : String) (as : List α) :
    listed opening separator (fun a => lead ++ print a) as =
      listed (opening ++ lead) (separator ++ lead) print as := by
  induction as generalizing opening with
  | nil => rfl
  | cons a rest ih => simp only [listed, ih, String.append_assoc]

end

theorem clauseLine_eq_listed (keyword : String) {as : List α} (filled : ∀ a ∈ as, print a ≠ "") :
    clauseLine keyword (String.intercalate separator (as.map print)) =
      listed ("\n" ++ keyword) separator print as := by
  rw [intercalate_eq_listed]
  unfold clauseLine
  cases as with
  | nil => rfl
  | cons a rest =>
      have some_ : listed "" separator print (a :: rest) ≠ "" := by
        intro nothing
        rw [listed, String.empty_append] at nothing
        exact filled a List.mem_cons_self (String.append_eq_empty_iff.1 nothing).1
      rw [if_neg some_]
      simp only [listed, String.empty_append]

end Sql

open Identifier (IsSafe isRest isSafe)
open Sql (Consists)

def Identifier.isWide (c : Char) : Bool := isRest c || c == '\n'

theorem Identifier.consists_of_IsSafe {s : String} (safe : IsSafe s) : Consists isRest s :=
  isRest_of_isName safe

theorem Identifier.wide_of_isSafe {s : String} (safe : isSafe s = true) : Consists isWide s := by
  intro c member
  rcases isRest_of_isSafe safe c member with rest | rfl
  · simp [isWide, rest]
  · decide

theorem Identifier.wide_of_consists {s : String} (named : Consists isRest s) :
    Consists isWide s := by
  intro c member
  simp [isWide, named c member]

open Identifier (isWide)

namespace Sql

variable {source : String}

theorem wide_qualify {column : String} (base : Consists isWide source) (named : IsSafe column) :
    Consists isWide (Identifier.qualify column source) := by
  have wide := Identifier.wide_of_consists (Identifier.consists_of_IsSafe named)
  have dot : Consists isWide "." := by decide
  unfold Identifier.qualify
  split
  · exact wide
  · exact (base.append dot).append wide

theorem legible_condition (base : Consists isWide source) :
    Legible (condition source)
      (fun filter => (Identifier.qualify filter.column source, filter.operator))
      (fun filter => IsSafe filter.column ∧ filter.operator ∈ allowedOperators)
      (fun _ => True) := by
  rintro a b r s ⟨named, operator⟩ ⟨alsoNamed, alsoOperator⟩ - - same
  simp only [condition, String.append_assoc] at same
  obtain ⟨column, same⟩ :=
    cut_before (wide_qualify base named) (wide_qualify base alsoNamed) (by decide) same
  have words : ∀ name ∈ allowedOperators, Consists (fun c => c != ' ') (Text.upper name) := by
    decide
  obtain ⟨word, tails⟩ := cut_before (words _ operator) (words _ alsoOperator) (by decide) same
  have apart : ∀ name ∈ allowedOperators, ∀ other ∈ allowedOperators,
      Text.upper name = Text.upper other → name = other := by decide
  exact ⟨by simp only [column, apart _ operator _ alsoOperator word], tails⟩

theorem legible_ordering (base : Consists isWide source) :
    Legible (ordering source)
      (fun order => (Identifier.qualify order.column source, order.direction))
      (fun order => IsSafe order.column ∧ order.direction ∈ directions) (Stops isRest) := by
  rintro a b r s ⟨named, direction⟩ ⟨alsoNamed, alsoDirection⟩ after end_ same
  simp only [ordering, String.append_assoc] at same
  obtain ⟨column, same⟩ :=
    cut_before (wide_qualify base named) (wide_qualify base alsoNamed) (by decide) same
  have words : ∀ name ∈ directions, Consists isRest (Text.upper name) := by decide
  obtain ⟨word, tails⟩ := cut (words _ direction) (words _ alsoDirection) after end_ same
  have apart : ∀ name ∈ directions, ∀ other ∈ directions,
      Text.upper name = Text.upper other → name = other := by decide
  exact ⟨by simp only [column, apart _ direction _ alsoDirection word], tails⟩

def isNumeral (c : Char) : Bool := c.isDigit || c == '-'

theorem consists_natural (n : Nat) : Consists Char.isDigit n.repr := by
  intro c member
  rw [Nat.toList_repr] at member
  exact Nat.isDigit_of_mem_toDigits (by decide) (by decide) member

theorem natural_injective {m n : Nat} (same : m.repr = n.repr) : m = n := by
  have letters := congrArg String.toList same
  rw [Nat.toList_repr, Nat.toList_repr] at letters
  rw [← Nat.ofDigitChars_ten_toDigits (n := m), letters, Nat.ofDigitChars_ten_toDigits]

theorem consists_integer (n : Int) : Consists isNumeral (toString n) := by
  have digits (m : Nat) : Consists isNumeral m.repr := by
    intro c member
    simp only [isNumeral, consists_natural m c member, Bool.true_or]
  have sign : Consists isNumeral "-" := by decide
  cases n with
  | ofNat m => exact digits m
  | negSucc m => exact sign.append (digits (m + 1))

theorem integer_injective {m n : Int} (same : toString m = toString n) : m = n := by
  have unsigned (k l : Nat) : k.repr ≠ "-" ++ l.repr := by
    intro signed
    have digit : Char.isDigit '-' = true := by
      apply consists_natural k
      rw [signed, String.toList_append]
      exact List.mem_append_left _ (by decide)
    exact absurd digit (by decide)
  cases m with
  | ofNat m =>
      cases n with
      | ofNat n => exact congrArg Int.ofNat (natural_injective same)
      | negSucc n => exact absurd same (unsigned m (n + 1))
  | negSucc m =>
      cases n with
      | ofNat n => exact absurd same.symm (unsigned n (m + 1))
      | negSucc n =>
          have next := natural_injective ((String.append_right_inj "-").1 same)
          rw [Nat.succ.inj next]

theorem legible_integer :
    Legible (fun n : Int => toString n) id (fun _ => True) (Stops isNumeral) := by
  intro m n r s _ _ after end_ same
  obtain ⟨digits, tails⟩ := cut (consists_integer m) (consists_integer n) after end_ same
  exact ⟨integer_injective digits, tails⟩

end Sql

end NestedSelect
