import NestedSelect.Record
import NestedSelect.Sql.NamedBinds

/-!
Counting placeholders.

A text is scanned for question marks outside quotes, and it is closed if it ends outside quotes.
Closed texts can be put one after another, and their placeholders add up. The rewriting to named
binds finds exactly the placeholders of the scan.
-/

namespace NestedSelect.Sql

def scan (quote : Option Char) : List Char → Option Char × Nat
  | [] => (quote, 0)
  | c :: rest =>
      if quote.isNone && c == '?' then
        let scanned := scan none rest
        (scanned.1, scanned.2 + 1)
      else scan (quoteAfter quote c) rest

def placeholders (s : String) : Nat := (scan none s.toList).2

def Closed (s : String) (count : Nat) : Prop := scan none s.toList = (none, count)

instance (s : String) (count : Nat) : Decidable (Closed s count) := by
  unfold Closed
  infer_instance

def isPlain (c : Char) : Bool := !isQuote c && c != '?'

def Plain (s : String) : Prop := ∀ c ∈ s.toList, isPlain c = true

theorem plain_of_all {s : String} (all : s.toList.all isPlain = true) : Plain s :=
  List.all_eq_true.1 all

theorem scan_append (quote : Option Char) (cs more : List Char) :
    scan quote (cs ++ more) =
      ((scan (scan quote cs).1 more).1, (scan quote cs).2 + (scan (scan quote cs).1 more).2) := by
  induction cs generalizing quote with
  | nil => simp only [List.nil_append, scan, Nat.zero_add]
  | cons c rest ih =>
      by_cases marked : (quote.isNone && c == '?') = true
      · simp only [List.cons_append, scan, marked, if_true, ih]
        rw [Nat.add_right_comm]
      · simp only [List.cons_append, scan, marked, Bool.false_eq_true, if_false, ih]

theorem Closed.append {s t : String} {m n : Nat} (first : Closed s m) (second : Closed t n) :
    Closed (s ++ t) (m + n) := by
  unfold Closed at first second ⊢
  rw [String.toList_append, scan_append, first, second]

theorem Closed.placeholders_eq {s : String} {count : Nat} (closed : Closed s count) :
    placeholders s = count := by
  unfold placeholders
  rw [closed]

theorem scan_plain {cs : List Char} (plain : ∀ c ∈ cs, isPlain c = true) :
    scan none cs = (none, 0) := by
  induction cs with
  | nil => rfl
  | cons c rest ih =>
      have others := ih (fun other inside => plain other (List.mem_cons_of_mem c inside))
      obtain ⟨unquoted, unmarked⟩ := Bool.and_eq_true_iff.1 (plain c List.mem_cons_self)
      have unquoted : isQuote c = false := by simpa using unquoted
      have unmarked : (c == '?') = false := by simpa using unmarked
      simp only [scan, unmarked, Bool.and_false, Bool.false_eq_true, if_false, quoteAfter,
        unquoted]
      exact others

theorem Plain.closed {s : String} (plain : Plain s) : Closed s 0 := scan_plain plain

theorem Plain.append {s t : String} (first : Plain s) (second : Plain t) : Plain (s ++ t) := by
  intro c member
  rw [String.toList_append] at member
  rcases List.mem_append.1 member with inside | inside
  · exact first c inside
  · exact second c inside

theorem scan_inside {quote : Char} {cs : List Char} (others : ∀ c ∈ cs, c ≠ quote) :
    scan (some quote) cs = (some quote, 0) := by
  induction cs with
  | nil => rfl
  | cons c rest ih =>
      have apart : (c == quote) = false :=
        beq_eq_false_iff_ne.2 (others c List.mem_cons_self)
      simp only [scan, Option.isNone_some, Bool.false_and, Bool.false_eq_true, if_false,
        quoteAfter, apart]
      exact ih (fun other inside => others other (List.mem_cons_of_mem c inside))

theorem Plain.quoted {s : String} (plain : Plain s) : Closed ("'" ++ s ++ "'") 0 := by
  have others : ∀ c ∈ s.toList, c ≠ '\'' := by
    intro c member same
    have passed := plain c member
    rw [same] at passed
    exact absurd passed (by decide)
  unfold Closed
  rw [String.toList_append, String.toList_append, scan_append, scan_append]
  have opened : scan none "'".toList = (some '\'', 0) := by decide
  rw [opened, scan_inside others]
  decide

theorem Closed.intercalate {separator : String} {parts : List String} {count : Nat}
    (between : Closed separator 0) (closed : ∀ part ∈ parts, Closed part count) :
    Closed (String.intercalate separator parts) (parts.length * count) := by
  induction parts with
  | nil =>
      rw [List.length_nil, Nat.zero_mul, String.intercalate_nil]
      decide
  | cons part rest ih =>
      have first := closed part List.mem_cons_self
      have others := ih (fun other inside => closed other (List.mem_cons_of_mem part inside))
      cases rest with
      | nil =>
          rw [List.length_singleton, Nat.one_mul, String.intercalate_singleton]
          exact first
      | cons next more =>
          rw [String.intercalate_cons_cons, List.length_cons, Nat.succ_mul, Nat.add_comm]
          have whole := (first.append between).append others
          rwa [Nat.add_zero] at whole

theorem closed_blank : Closed " " 0 := by decide

theorem closed_line : Closed "\n" 0 := by decide

theorem closed_comma : Closed ", " 0 := by decide

theorem nameFrom_index (quote : Option Char) (index : Nat) (cs : List Char) :
    (nameFrom quote index cs).2 = index + (scan quote cs).2 := by
  induction cs generalizing quote index with
  | nil => rfl
  | cons c rest ih =>
      by_cases marked : (quote.isNone && c == '?') = true
      · simp only [nameFrom, scan, marked, if_true, ih]
        omega
      · simp only [nameFrom, scan, marked, Bool.false_eq_true, if_false, ih]

theorem bindName_injective {i j : Nat} (same : bindName i = bindName j) : i = j := by
  have letters := congrArg String.toList same
  simp only [bindName, String.toList_append] at letters
  have digits : Nat.toDigits 10 i = Nat.toDigits 10 j := by
    have tails := List.append_cancel_left letters
    rwa [Nat.toString_eq_repr, Nat.toString_eq_repr, Nat.toList_repr, Nat.toList_repr] at tails
  rw [← Nat.ofDigitChars_ten_toDigits (n := i), digits, Nat.ofDigitChars_ten_toDigits]

theorem get?_namedValues (index i : Nat) (values : List Value) :
    Record.get? (bindName (index + i)) (namedValues index values) = values[i]? := by
  induction values generalizing index i with
  | nil => rfl
  | cons value rest ih =>
      cases i with
      | zero => simp only [namedValues, Record.get?, Nat.add_zero, if_true, List.getElem?_cons_zero]
      | succ i =>
          have apart : ¬ bindName index = bindName (index + (i + 1)) := by
            intro same
            have impossible := bindName_injective same
            omega
          have next := ih (index + 1) i
          rw [Nat.add_assoc, Nat.add_comm 1 i] at next
          simp only [namedValues, Record.get?, apart, if_false, List.getElem?_cons_succ]
          exact next

theorem names_namedValues (index : Nat) (values : List Value) :
    Record.names (namedValues index values) =
      (List.range' index values.length).map bindName := by
  induction values generalizing index with
  | nil => rfl
  | cons value rest ih =>
      have next := ih (index + 1)
      simp only [Record.names] at next
      simp only [Record.names, namedValues, List.map_cons, List.length_cons, List.range'_succ, next]

/-- A statement whose placeholders and values line up: there is one value for each placeholder,
and the statement can be given named binds, the names of which lead to the values in order. -/
structure LinesUp (statement : String) (values : List Value) : Prop where
  count : placeholders statement = values.length
  binds : ∃ named, nameBinds statement values = .ok named ∧
    Record.names named.values = (List.range values.length).map bindName ∧
    ∀ i, Record.get? (bindName i) named.values = values[i]?

theorem linesUp_of_placeholders {statement : String} {values : List Value}
    (same : placeholders statement = values.length) : LinesUp statement values := by
  have count := nameFrom_index none 0 statement.toList
  rw [Nat.zero_add] at count
  change (nameFrom none 0 statement.toList).2 = placeholders statement at count
  refine ⟨same, ⟨String.ofList (nameFrom none 0 statement.toList).1, namedValues 0 values⟩,
    ?_, ?_, ?_⟩
  · unfold nameBinds
    simp only [count, same, Nat.lt_irrefl, if_false]
  · rw [names_namedValues, List.range_eq_range']
  · intro i
    have found := get?_namedValues 0 i values
    rwa [Nat.zero_add] at found

end NestedSelect.Sql
