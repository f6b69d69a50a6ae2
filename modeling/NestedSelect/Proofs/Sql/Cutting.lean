import NestedSelect.Proofs.Query.Fragments
import NestedSelect.Proofs.Sql.Placeholders

/-!
Statements cut at their placeholders.

Quoted text goes from a quote to the next one that is the same, or to the end of the statement. At
the question marks outside of it a statement can be cut in exactly one way. Giving it named binds
leaves the pieces as they are and writes one bind between each two of them.
-/

namespace NestedSelect.Sql

/-- Text in which every quote that is opened is closed, without a question mark outside quotes. -/
inductive Whole : List Char → Prop where
  | nil : Whole []
  | plain {c : Char} {rest : List Char} (plain : isPlain c = true) (whole : Whole rest) :
      Whole (c :: rest)
  | quoted {quote : Char} {inside rest : List Char} (opens : isQuote quote = true)
      (apart : quote ∉ inside) (whole : Whole rest) : Whole (quote :: (inside ++ quote :: rest))

/-- Text without a question mark outside quotes; what is quoted last may run to the end. -/
inductive Unmarked : List Char → Prop where
  | whole {cs : List Char} (whole : Whole cs) : Unmarked cs
  | unclosed {front inside : List Char} {quote : Char} (whole : Whole front)
      (opens : isQuote quote = true) (apart : quote ∉ inside) :
      Unmarked (front ++ quote :: inside)

/-- A text and the pieces that it is cut into at its question marks outside quotes. -/
inductive Cut : List Char → List (List Char) → Prop where
  | last {cs : List Char} (unmarked : Unmarked cs) : Cut cs [cs]
  | mark {piece rest : List Char} {pieces : List (List Char)} (whole : Whole piece)
      (cut : Cut rest pieces) : Cut (piece ++ '?' :: rest) (piece :: pieces)

def bound (index : Nat) (after : List Char) : List Char :=
  if after.head? = some ':' then ("(:p" ++ toString index ++ ")").toList
  else (":p" ++ toString index).toList

def filled (index : Nat) : List (List Char) → List Char
  | [] => []
  | [last] => last
  | piece :: after :: rest => piece ++ (bound index after ++ filled (index + 1) (after :: rest))

variable {quote : Option Char} {cs piece rest : List Char} {pieces : List (List Char)}

theorem plain_of_isPlain {c : Char} (plain : isPlain c = true) :
    isQuote c = false ∧ (c == '?') = false := by
  obtain ⟨unquoted, unmarked⟩ := Bool.and_eq_true_iff.1 plain
  exact ⟨by simpa using unquoted, by simpa using unmarked⟩

theorem unmarked_of_isQuote {c : Char} (opens : isQuote c = true) : (c == '?') = false := by
  rw [beq_eq_false_iff_ne]
  rintro rfl
  exact absurd opens (by decide)

/-! ### Pieces and the scan -/

theorem scan_cons {c : Char} (unmarked : (quote.isNone && c == '?') = false) :
    scan quote (c :: rest) = scan (quoteAfter quote c) rest := by
  simp only [scan, unmarked, Bool.false_eq_true, if_false]

theorem scan_apart {c : Char} (apart : (c == '?') = false) :
    scan none (c :: rest) = scan (quoteAfter none c) rest := scan_cons apart

theorem scan_mark : scan none ('?' :: rest) = ((scan none rest).1, (scan none rest).2 + 1) := rfl

theorem scan_quoted {opened : Char} {inside : List Char} (apart : opened ∉ inside) :
    scan (some opened) (inside ++ opened :: rest) = scan none rest := by
  have others : ∀ c ∈ inside, c ≠ opened := fun c member same => apart (same ▸ member)
  have closes : quoteAfter (some opened) opened = none := by simp [quoteAfter]
  rw [scan_append, scan_inside others, scan_cons rfl, closes, Nat.zero_add]

theorem Whole.scan_eq (whole : Whole cs) : scan none cs = (none, 0) := by
  induction whole with
  | nil => rfl
  | plain plain _ ih =>
      obtain ⟨unquoted, unmarked⟩ := plain_of_isPlain plain
      rw [scan_apart unmarked, quoteAfter, unquoted]
      exact ih
  | quoted opens apart _ ih =>
      rw [scan_apart (unmarked_of_isQuote opens), quoteAfter, opens]
      exact (scan_quoted apart).trans ih

theorem Whole.scan_unclosed {opened : Char} {inside : List Char} (whole : Whole piece)
    (opens : isQuote opened = true) (apart : opened ∉ inside) :
    scan none (piece ++ opened :: inside) = (some opened, 0) := by
  have others : ∀ c ∈ inside, c ≠ opened := fun c member same => apart (same ▸ member)
  have opened_ : quoteAfter none opened = some opened := if_pos opens
  rw [scan_append, whole.scan_eq, scan_apart (unmarked_of_isQuote opens), opened_,
    scan_inside others]
  rfl

theorem Unmarked.scan_eq (unmarked : Unmarked cs) : (scan none cs).2 = 0 := by
  cases unmarked with
  | whole whole => rw [whole.scan_eq]
  | unclosed whole opens apart => rw [whole.scan_unclosed opens apart]

theorem Unmarked.plain {c : Char} (plain : isPlain c = true) (unmarked : Unmarked rest) :
    Unmarked (c :: rest) := by
  cases unmarked with
  | whole whole => exact .whole (.plain plain whole)
  | unclosed whole opens apart => exact .unclosed (.plain plain whole) opens apart

theorem Unmarked.quoted {opened : Char} {inside : List Char} (opens : isQuote opened = true)
    (apart : opened ∉ inside) (unmarked : Unmarked rest) :
    Unmarked (opened :: (inside ++ opened :: rest)) := by
  cases unmarked with
  | whole whole => exact .whole (.quoted opens apart whole)
  | @unclosed front more other whole also unclosed =>
      have longer := Unmarked.unclosed (.quoted opens apart whole) also unclosed
      rwa [List.cons_append, List.append_assoc, List.cons_append] at longer

/-- What is left of a text without placeholders, where a quote may still be open. -/
def Continues : Option Char → List Char → Prop
  | none, cs => Unmarked cs
  | some opened, cs => isQuote opened = true →
      opened ∉ cs ∨ ∃ inside rest, cs = inside ++ opened :: rest ∧ opened ∉ inside ∧ Unmarked rest

theorem continues_of_scan (none_ : (scan quote cs).2 = 0) : Continues quote cs := by
  induction cs generalizing quote with
  | nil =>
      cases quote with
      | none => exact .whole .nil
      | some opened => exact fun _ => .inl List.not_mem_nil
  | cons c rest ih =>
      cases quote with
      | none =>
          by_cases marked : (c == '?') = true
          · rw [beq_iff_eq.1 marked] at none_
            exact absurd none_ (Nat.succ_ne_zero _)
          · have unmarked : (c == '?') = false := Bool.eq_false_iff.2 marked
            rw [scan_apart unmarked] at none_
            cases opens : isQuote c with
            | false =>
                rw [quoteAfter, opens] at none_
                have plain : isPlain c = true := by simp [isPlain, opens, bne, unmarked]
                exact Unmarked.plain plain (ih none_)
            | true =>
                rw [quoteAfter, opens] at none_
                rcases ih none_ opens with open_ | ⟨inside, more, rfl, apart, unmarked⟩
                · exact .unclosed .nil opens open_
                · exact .quoted opens apart unmarked
      | some opened =>
          intro opens
          rw [scan_cons rfl] at none_
          by_cases same : c = opened
          · subst same
            have closes : quoteAfter (some c) c = none := by simp [quoteAfter]
            rw [closes] at none_
            exact .inr ⟨[], rest, rfl, List.not_mem_nil, ih none_⟩
          · have goes : quoteAfter (some opened) c = some opened := by simp [quoteAfter, same]
            rw [goes] at none_
            rcases ih none_ opens with open_ | ⟨inside, more, rfl, apart, unmarked⟩
            · exact .inl (List.not_mem_cons_of_ne_of_not_mem (Ne.symm same) open_)
            · exact .inr ⟨c :: inside, more, rfl,
                List.not_mem_cons_of_ne_of_not_mem (Ne.symm same) apart, unmarked⟩

theorem unmarked_iff : Unmarked cs ↔ (scan none cs).2 = 0 :=
  ⟨Unmarked.scan_eq, fun none_ => (continues_of_scan none_ : Continues none cs)⟩

theorem whole_iff : Whole cs ↔ scan none cs = (none, 0) := by
  constructor
  · exact Whole.scan_eq
  · intro scanned
    cases unmarked_iff.2 (congrArg Prod.snd scanned) with
    | whole whole => exact whole
    | unclosed whole opens apart =>
        rw [whole.scan_unclosed opens apart] at scanned
        cases scanned

/-! ### Cutting -/

theorem exists_first_mark (some_ : (scan quote cs).2 ≠ 0) :
    ∃ piece rest, cs = piece ++ '?' :: rest ∧ scan quote piece = (none, 0) := by
  induction cs generalizing quote with
  | nil => exact absurd rfl some_
  | cons c rest ih =>
      by_cases marked : (quote.isNone && c == '?') = true
      · obtain ⟨unquoted, isMark⟩ := Bool.and_eq_true_iff.1 marked
        rw [Option.isNone_iff_eq_none.1 unquoted, beq_iff_eq.1 isMark]
        exact ⟨[], rest, rfl, rfl⟩
      · have unmarked : (quote.isNone && c == '?') = false := Bool.eq_false_iff.2 marked
        rw [scan_cons unmarked] at some_
        obtain ⟨piece, more, rfl, scanned⟩ := ih some_
        exact ⟨c :: piece, more, rfl, (scan_cons unmarked).trans scanned⟩

theorem exists_cut (cs : List Char) : ∃ pieces, Cut cs pieces := by
  by_cases none_ : (scan none cs).2 = 0
  · exact ⟨[cs], .last (unmarked_iff.2 none_)⟩
  · obtain ⟨piece, rest, rfl, scanned⟩ := exists_first_mark none_
    obtain ⟨pieces, cut⟩ := exists_cut rest
    exact ⟨piece :: pieces, .mark (whole_iff.2 scanned) cut⟩
termination_by cs.length
decreasing_by
  subst_vars
  simp only [List.length_append, List.length_cons]
  omega

theorem Whole.unmarked_append (whole : Whole piece) : ¬ Unmarked (piece ++ '?' :: rest) := by
  intro unmarked
  have none_ := unmarked.scan_eq
  rw [scan_append, whole.scan_eq, scan_mark] at none_
  exact absurd none_ (by simp)

theorem Whole.eq_of_mark {other more : List Char} (whole : Whole piece) (also : Whole other)
    (same : piece ++ '?' :: rest = other ++ '?' :: more) : piece = other ∧ rest = more := by
  rcases List.append_eq_append_iff.1 same with ⟨between, rfl, tail⟩ | ⟨between, rfl, tail⟩
  · cases between with
    | nil => exact ⟨(List.append_nil piece).symm, (List.cons.inj tail).2⟩
    | cons c between =>
        rw [← (List.cons.inj tail).1] at also
        exact absurd (.whole also) whole.unmarked_append
  · cases between with
    | nil => exact ⟨List.append_nil other, (List.cons.inj tail).2.symm⟩
    | cons c between =>
        rw [← (List.cons.inj tail).1] at whole
        exact absurd (.whole whole) also.unmarked_append

theorem Cut.unique {other : List (List Char)} (cut : Cut cs pieces) (also : Cut cs other) :
    other = pieces := by
  induction cut generalizing other with
  | last unmarked =>
      cases also with
      | last _ => rfl
      | mark whole _ => exact absurd unmarked whole.unmarked_append
  | @mark piece rest pieces whole _ ih =>
      generalize same : piece ++ '?' :: rest = text at also
      cases also with
      | last unmarked =>
          rw [← same] at unmarked
          exact absurd unmarked whole.unmarked_append
      | mark wholeToo later =>
          obtain ⟨rfl, rfl⟩ := whole.eq_of_mark wholeToo same
          rw [ih later]

theorem Cut.ne_nil (cut : Cut cs pieces) : pieces ≠ [] := by
  cases cut with
  | last _ => exact List.cons_ne_nil _ _
  | mark _ _ => exact List.cons_ne_nil _ _

theorem Cut.head?_eq {after : List Char} {c : Char} (cut : Cut cs (after :: pieces))
    (apart : c ≠ '?') : cs.head? = some c ↔ after.head? = some c := by
  cases cut with
  | last _ => rfl
  | mark _ _ =>
      cases after with
      | nil => simp [Ne.symm apart]
      | cons _ _ => rfl

/-! ### Binds between the pieces -/

theorem bound_of_colon {after : List Char} (colon : after.head? = some ':') (index : Nat) :
    bound index after = '(' :: ':' :: ((bindName index).toList ++ [')']) := by
  rw [bound, if_pos colon]
  simp [bindName, String.toList_append]

theorem bound_of_apart {after : List Char} (apart : after.head? ≠ some ':') (index : Nat) :
    bound index after = ':' :: (bindName index).toList := by
  rw [bound, if_neg apart]
  simp [bindName, String.toList_append]

theorem bindText_eq (index : Nat) (following : List Char) :
    bindText index following = bound index following := by
  unfold bindText
  split
  · exact (bound_of_colon rfl index).symm
  · rename_i apart
    have otherwise : following.head? ≠ some ':' := by
      intro first
      obtain ⟨more, rfl⟩ := List.head?_eq_some_iff.1 first
      exact apart more rfl
    exact (bound_of_apart otherwise index).symm

theorem nameFrom_append (none_ : (scan quote cs).2 = 0) (index : Nat) (more : List Char) :
    nameFrom quote index (cs ++ more) =
      (cs ++ (nameFrom (scan quote cs).1 index more).1,
        (nameFrom (scan quote cs).1 index more).2) := by
  induction cs generalizing quote with
  | nil => rfl
  | cons c rest ih =>
      by_cases marked : (quote.isNone && c == '?') = true
      · simp only [scan, marked, if_true] at none_
        exact absurd none_ (Nat.succ_ne_zero _)
      · have unmarked : (quote.isNone && c == '?') = false := Bool.eq_false_iff.2 marked
        rw [scan_cons unmarked] at none_ ⊢
        simp only [List.cons_append, nameFrom, unmarked, Bool.false_eq_true, if_false, ih none_]

theorem nameFrom_unmarked (unmarked : Unmarked cs) (index : Nat) :
    nameFrom none index cs = (cs, index) := by
  have named := nameFrom_append unmarked.scan_eq index []
  simpa only [List.append_nil, nameFrom] using named

theorem nameFrom_cut (cut : Cut cs pieces) (index : Nat) :
    nameFrom none index cs = (filled index pieces, index + (pieces.length - 1)) := by
  induction cut generalizing index with
  | last unmarked => exact nameFrom_unmarked unmarked index
  | @mark piece rest pieces whole cut ih =>
      have named := nameFrom_append (congrArg Prod.snd whole.scan_eq) index ('?' :: rest)
      rw [whole.scan_eq] at named
      cases pieces with
      | nil => exact absurd rfl cut.ne_nil
      | cons after more =>
          have begins : bindText index rest = bound index after := by
            simp only [bindText_eq, bound, cut.head?_eq (c := ':') (by decide)]
          rw [named]
          simp only [nameFrom, Option.isNone_none, Bool.true_and, beq_self_eq_true, if_true, ih,
            begins, filled, List.length_cons]
          congr 1
          omega

theorem plain_bound (index : Nat) (after : List Char) :
    ∀ c ∈ bound index after, isPlain c = true := by
  have name : Plain (":p" ++ toString index) :=
    (show Plain ":p" from plain_of_all (by decide)).append (plain_natural index)
  unfold bound
  split
  · have wrapped : Plain ("(:p" ++ toString index ++ ")") :=
      ((show Plain "(:p" from plain_of_all (by decide)).append (plain_natural index)).append
        (plain_of_all (by decide))
    exact wrapped
  · exact name

theorem Cut.filled_unmarked (cut : Cut cs pieces) (index : Nat) :
    Unmarked (filled index pieces) := by
  induction cut generalizing index with
  | last unmarked => exact unmarked
  | @mark piece rest pieces whole cut ih =>
      cases pieces with
      | nil => exact absurd rfl cut.ne_nil
      | cons after more =>
          rw [unmarked_iff, filled, scan_append, whole.scan_eq, scan_append,
            scan_plain (plain_bound index after), Nat.zero_add, Nat.zero_add]
          exact (ih (index + 1)).scan_eq

theorem namedValues_eq (index : Nat) (values : List Value) :
    namedValues index values =
      values.mapIdx (fun i value => ("p" ++ toString (index + i), value)) := by
  induction values generalizing index with
  | nil => rfl
  | cons value rest ih =>
      rw [namedValues, List.mapIdx_cons, ih (index + 1)]
      simp only [bindName, Nat.add_zero, Nat.add_assoc, Nat.add_comm 1]

theorem nameBinds_cut {statement : String} (cut : Cut statement.toList pieces)
    (values : List Value) :
    nameBinds statement values =
      if values.length + 1 < pieces.length then .error (.morePlaceholders values.length)
      else if pieces.length < values.length + 1 then
        .error (.fewerPlaceholders (pieces.length - 1) values.length)
      else .ok ⟨String.ofList (filled 0 pieces), namedValues 0 values⟩ := by
  have some_ : 0 < pieces.length := List.length_pos_iff.2 cut.ne_nil
  have more : values.length < pieces.length - 1 ↔ values.length + 1 < pieces.length := by omega
  have fewer : pieces.length - 1 < values.length ↔ pieces.length < values.length + 1 := by omega
  unfold nameBinds
  simp only [nameFrom_cut cut, Nat.zero_add, more, fewer]

theorem nameBinds_eq_ok {statement : String} {values : List Value} {named : NamedStatement}
    (cut : Cut statement.toList pieces) (done : nameBinds statement values = .ok named) :
    pieces.length = values.length + 1 ∧
      named = ⟨String.ofList (filled 0 pieces), namedValues 0 values⟩ := by
  rw [nameBinds_cut cut] at done
  split at done
  · cases done
  · split at done
    · cases done
    · exact ⟨by omega, (Except.ok.inj done).symm⟩

/-- Giving a statement named binds, for every statement and all values. There is one way to cut the
statement at its placeholders. It is rewritten exactly if it has one placeholder for each value, and
is an invalid request otherwise. The rewritten statement has the same pieces with binds between
them, and the names of the binds stand for the values in order. It has no placeholders left, so
that it stays as it is if it is rewritten once more. -/
theorem named_binds_fill_pieces (statement : String) :
    ∃ pieces, Cut statement.toList pieces ∧
      (∀ other, Cut statement.toList other → other = pieces) ∧
      ∀ values : List Value,
        ((∃ named, nameBinds statement values = .ok named) ↔
          pieces.length = values.length + 1) ∧
        (∀ fault, nameBinds statement values = .error fault →
          fault.kind? = some .invalidRequest) ∧
        ∀ named, nameBinds statement values = .ok named →
          named.text.toList = filled 0 pieces ∧
          named.values = values.mapIdx (fun i value => ("p" ++ toString i, value)) ∧
          Cut named.text.toList [named.text.toList] ∧
          nameBinds named.text [] = .ok ⟨named.text, []⟩ := by
  obtain ⟨pieces, cut⟩ := exists_cut statement.toList
  refine ⟨pieces, cut, fun other also => cut.unique also, ?_⟩
  intro values
  have made := nameBinds_cut cut values
  refine ⟨⟨?fits, ?given⟩, ?refused, ?rewritten⟩
  case fits =>
    rintro ⟨named, done⟩
    exact (nameBinds_eq_ok cut done).1
  case given =>
    intro fits
    rw [if_neg (by omega), if_neg (by omega)] at made
    exact ⟨_, made⟩
  case refused =>
    intro fault failed
    rw [made] at failed
    split at failed
    · cases failed
      rfl
    · split at failed
      · cases failed
        rfl
      · cases failed
  case rewritten =>
    intro named done
    obtain ⟨_, rfl⟩ := nameBinds_eq_ok cut done
    have letters : (String.ofList (filled 0 pieces)).toList = filled 0 pieces :=
      String.toList_ofList
    have again : Cut (String.ofList (filled 0 pieces)).toList
        [(String.ofList (filled 0 pieces)).toList] := by
      rw [letters]
      exact .last (cut.filled_unmarked 0)
    refine ⟨letters, ?_, again, ?_⟩
    · rw [namedValues_eq]
      simp only [Nat.zero_add]
    · have same := nameBinds_cut again []
      simp only [List.length_nil, List.length_singleton, Nat.zero_add, Nat.lt_irrefl, if_false,
        filled, String.ofList_toList] at same
      exact same

/-- A cast and a quoted question mark. -/
example :
    nameBinds "SELECT '?' FROM docs WHERE id = ?::INT AND kind = ?" [.int 7, .text "a"] =
      .ok ⟨"SELECT '?' FROM docs WHERE id = (:p0)::INT AND kind = :p1",
        [("p0", .int 7), ("p1", .text "a")]⟩ := rfl

end NestedSelect.Sql
