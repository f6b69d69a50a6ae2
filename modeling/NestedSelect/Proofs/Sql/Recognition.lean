import NestedSelect.Proofs.Sql.Cutting
import NestedSelect.Text.Word

/-!
Which binds are read of a statement.

A bind is a colon and a name: not after a word character, a colon or a backslash, and with no colon
after the name, which is as long as that allows. Quotes make no difference. Main statement: the
binds that are written for placeholders are all read, each where it was written, exactly if no
placeholder touches what would run into its bind.
-/

namespace NestedSelect.Sql

open Text (isWord)

/-- What a statement is read as: characters that are taken as they are, and binds by name. -/
inductive Token where
  | char (c : Char)
  | bind (name : String)
  deriving DecidableEq

namespace Token

def name? : Token → Option String
  | char _ => none
  | bind name => some name

end Token

def admitsBind : Option Char → Bool
  | none => true
  | some c => !(c == ':' || c == '\\' || isWord c)

def lengthUpTo? (cs : List Char) : Nat → Option Nat
  | 0 => none
  | length + 1 =>
      if (cs.drop (length + 1)).head? = some ':' then lengthUpTo? cs length
      else some (length + 1)

def nameLength? (cs : List Char) : Option Nat := lengthUpTo? cs (cs.takeWhile isWord).length

def bindLength? (before : Option Char) (c : Char) (after : List Char) : Option Nat :=
  if c = ':' ∧ admitsBind before = true then nameLength? after else none

/-- What is read of a text from left to right, given the character before it and how many
characters of it belong to a name that is read already. -/
def tokensFrom (before : Option Char) (named : Nat) : List Char → List Token
  | [] => []
  | c :: rest =>
      match named with
      | named + 1 => tokensFrom (some c) named rest
      | 0 =>
          match bindLength? before c rest with
          | some length =>
              .bind (String.ofList (rest.take length)) :: tokensFrom (some c) length rest
          | none => .char c :: tokensFrom (some c) 0 rest

def tokens (statement : String) : List Token := tokensFrom none 0 statement.toList

def binds (statement : String) : List String := (tokens statement).filterMap Token.name?

def boundTokens (index : Nat) (after : List Char) : List Token :=
  let bind := Token.bind ("p" ++ toString index)
  if after.head? = some ':' then [.char '(', bind, .char ')'] else [bind]

/-- Pieces with binds between them as they are meant: the binds alone are read as binds. -/
def placed (index : Nat) : List (List Char) → List Token
  | [] => []
  | [last] => last.map Token.char
  | piece :: after :: rest =>
      piece.map Token.char ++ (boundTokens index after ++ placed (index + 1) (after :: rest))

/-- Text that does not run into a name in front of it: if it starts with a word character, that one
alone comes before a colon, so that the name is read without it. -/
def LeavesName (after : List Char) : Prop :=
  ∀ c rest, after = c :: rest → isWord c = true → rest.head? = some ':'

/-- A placeholder whose bind is read, by what is before and after it: it is put in brackets because
of a colon after it, or what is before it lets a bind start and what is after it leaves its name. -/
def Apart (before : Option Char) (after : List Char) : Prop :=
  after.head? = some ':' ∨
    before ≠ some '?' ∧ admitsBind before = true ∧ LeavesName after

variable {before : Option Char} {cs name run tail : List Char}

/-! ### Names -/

theorem leavesName_cons {c : Char} {rest : List Char} :
    LeavesName (c :: rest) ↔ (isWord c = true → rest.head? = some ':') := by
  constructor
  · intro leaves
    exact leaves c rest rfl
  · intro leaves other more same word
    obtain ⟨rfl, rfl⟩ := List.cons.inj same
    exact leaves word

theorem leavesName_of_not_word (start : ∀ c rest, cs = c :: rest → isWord c = false) :
    LeavesName cs := by
  intro c rest same word
  rw [start c rest same] at word
  cases word

/-- A text is a run of word characters and what starts otherwise, or not at all. -/
structure RunsInto (run tail : List Char) : Prop where
  words : ∀ c ∈ run, isWord c = true
  ends : ∀ c rest, tail = c :: rest → isWord c = false

theorem exists_run (cs : List Char) : ∃ run tail, cs = run ++ tail ∧ RunsInto run tail := by
  refine ⟨cs.takeWhile isWord, cs.dropWhile isWord, List.takeWhile_append_dropWhile.symm, ?_⟩
  constructor
  · intro c inside
    exact (List.all_eq_true.1 (List.all_takeWhile (p := isWord) (l := cs))) c inside
  · intro c rest left
    have stopped := List.head?_dropWhile_not isWord cs
    rw [left] at stopped
    simpa using stopped

theorem RunsInto.takeWhile_eq (runs : RunsInto run tail) :
    (run ++ tail).takeWhile isWord = run := by
  have stop : tail.takeWhile isWord = [] := by
    cases tail with
    | nil => rfl
    | cons c rest =>
        exact List.takeWhile_cons_of_neg (Bool.eq_false_iff.1 (runs.ends c rest rfl))
  rw [List.takeWhile_append_of_pos runs.words, stop, List.append_nil]

theorem ne_colon_of_isWord {c : Char} (word : isWord c = true) : c ≠ ':' := by
  rintro rfl
  exact absurd word (by decide)

theorem RunsInto.nameLength?_eq (runs : RunsInto run tail) :
    nameLength? (run ++ tail) =
      if tail.head? = some ':' then (if run.length ≤ 1 then none else some (run.length - 1))
      else if run.length = 0 then none else some run.length := by
  unfold nameLength?
  rw [runs.takeWhile_eq]
  cases length : run.length with
  | zero =>
      split <;> rfl
  | succ shorter =>
      have whole : (run ++ tail).drop (shorter + 1) = tail := by
        rw [← length, List.drop_left]
      rw [lengthUpTo?, whole]
      split
      · cases shorter with
        | zero => rfl
        | succ k =>
            have inside : k + 1 < run.length := by omega
            have last : ((run ++ tail).drop (k + 1)).head? = some run[k + 1] := by
              rw [List.head?_drop, List.getElem?_append_left inside,
                List.getElem?_eq_getElem inside]
            have apart : ¬ some run[k + 1] = some ':' := fun same =>
              ne_colon_of_isWord (runs.words _ (List.getElem_mem inside)) (Option.some.inj same)
            rw [lengthUpTo?, last, if_neg apart, if_neg (by omega)]
            rfl
      · rfl

theorem RunsInto.leavesName_iff (runs : RunsInto run tail) :
    LeavesName (run ++ tail) ↔
      run.length = 0 ∨ run.length = 1 ∧ tail.head? = some ':' := by
  cases run with
  | nil =>
      exact iff_of_true (leavesName_of_not_word runs.ends) (.inl rfl)
  | cons first others =>
      have word := runs.words first List.mem_cons_self
      cases others with
      | nil =>
          rw [List.singleton_append, leavesName_cons]
          constructor
          · intro leaves
            exact .inr ⟨rfl, leaves word⟩
          · rintro (impossible | ⟨_, colon⟩)
            · cases impossible
            · exact fun _ => colon
      | cons second more =>
          have apart := ne_colon_of_isWord (runs.words second (by simp))
          rw [List.cons_append, leavesName_cons]
          constructor
          · intro leaves
            exact absurd (Option.some.inj (leaves word)) apart
          · rintro (impossible | ⟨impossible, _⟩)
            · cases impossible
            · cases impossible

theorem nameLength?_eq_none_iff : nameLength? cs = none ↔ LeavesName cs := by
  obtain ⟨run, tail, rfl, runs⟩ := exists_run cs
  rw [runs.nameLength?_eq, runs.leavesName_iff]
  by_cases colon : tail.head? = some ':'
  · rw [if_pos colon]
    by_cases few : run.length ≤ 1
    · rw [if_pos few]
      exact iff_of_true rfl (by simp only [colon, and_true]; omega)
    · rw [if_neg few]
      exact iff_of_false (Option.some_ne_none _) (by simp only [colon, and_true]; omega)
  · rw [if_neg colon]
    by_cases empty : run.length = 0
    · rw [if_pos empty]
      exact iff_of_true rfl (.inl empty)
    · rw [if_neg empty]
      exact iff_of_false (Option.some_ne_none _) (by simp [empty, colon])

theorem nameLength?_append (words : ∀ c ∈ name, isWord c = true) (some_ : name ≠ []) :
    nameLength? (name ++ cs) = some name.length ↔ cs.head? ≠ some ':' ∧ LeavesName cs := by
  obtain ⟨run, tail, rfl, runs⟩ := exists_run cs
  have filled : 0 < name.length := List.length_pos_iff.2 some_
  have whole : RunsInto (name ++ run) tail := by
    refine ⟨fun c inside => ?_, runs.ends⟩
    rcases List.mem_append.1 inside with inside | inside
    · exact words c inside
    · exact runs.words c inside
  have head : (run ++ tail).head? = some ':' ↔ run.length = 0 ∧ tail.head? = some ':' := by
    cases run with
    | nil => simp
    | cons first others =>
        have apart := ne_colon_of_isWord (runs.words first List.mem_cons_self)
        simp [apart]
  rw [← List.append_assoc, whole.nameLength?_eq, runs.leavesName_iff, ne_eq, head,
    List.length_append]
  by_cases colon : tail.head? = some ':'
  · simp only [colon, if_true, and_true]
    by_cases few : name.length + run.length ≤ 1
    · rw [if_pos few]
      exact iff_of_false (Option.some_ne_none _).symm (by omega)
    · rw [if_neg few, Option.some_inj]
      omega
  · have some_ : name.length + run.length ≠ 0 := by omega
    simp only [colon, if_false, and_false, or_false, not_false_eq_true, true_and, some_,
      Option.some_inj]
    omega

theorem lengthUpTo?_le {most length : Nat} (found : lengthUpTo? cs most = some length) :
    length ≤ most := by
  induction most with
  | zero => cases found
  | succ most ih =>
      unfold lengthUpTo? at found
      split at found
      · exact Nat.le_succ_of_le (ih found)
      · exact Nat.le_of_eq (Option.some.inj found).symm

theorem nameLength?_le {length : Nat} (found : nameLength? cs = some length) :
    length ≤ cs.length :=
  Nat.le_trans (lengthUpTo?_le found) (List.takeWhile_prefix isWord).length_le

/-! ### Reading along a text -/

def Silent (before : Option Char) (cs : List Char) : Prop :=
  (tokensFrom before 0 cs).filterMap Token.name? = []

variable {written : Option Char} {piece tail other rest after : List Char} {c : Char}

theorem tokensFrom_char (none_ : bindLength? before c rest = none) :
    tokensFrom before 0 (c :: rest) = .char c :: tokensFrom (some c) 0 rest := by
  rw [tokensFrom, none_]

theorem tokensFrom_bind {length : Nat} (found : bindLength? before c rest = some length) :
    tokensFrom before 0 (c :: rest) =
      .bind (String.ofList (rest.take length)) :: tokensFrom (some c) length rest := by
  rw [tokensFrom, found]

theorem bindLength?_of_ne (apart : c ≠ ':') : bindLength? before c rest = none :=
  if_neg (fun both => apart both.1)

theorem bindLength?_colon (admits : admitsBind before = true) :
    bindLength? before ':' rest = nameLength? rest := if_pos ⟨rfl, admits⟩

theorem last_cons (c : Char) (cs : List Char) (before : Option Char) :
    (c :: cs).getLast?.or before = cs.getLast?.or (some c) := by
  rw [List.getLast?_cons]
  cases cs.getLast? with
  | none => rfl
  | some last => rfl

theorem tokensFrom_named (name rest : List Char) :
    tokensFrom before name.length (name ++ rest) =
      tokensFrom (name.getLast?.or before) 0 rest := by
  induction name generalizing before with
  | nil => rfl
  | cons c name ih =>
      rw [last_cons, List.length_cons, List.cons_append, tokensFrom]
      exact ih

theorem silent_cons :
    Silent before (c :: rest) ↔ bindLength? before c rest = none ∧ Silent (some c) rest := by
  unfold Silent
  cases found : bindLength? before c rest with
  | none =>
      rw [tokensFrom_char found]
      exact (and_iff_right rfl).symm
  | some length =>
      rw [tokensFrom_bind found]
      exact iff_of_false (List.cons_ne_nil _ _) (fun both => Option.some_ne_none _ both.1)

theorem Silent.append (silent : Silent before (piece ++ tail)) :
    Silent (piece.getLast?.or before) tail := by
  induction piece generalizing before with
  | nil => exact silent
  | cons c piece ih =>
      rw [last_cons]
      exact ih (silent_cons.1 silent).2

theorem LeavesName.change (leaves : LeavesName (piece ++ tail)) (apart : tail.head? ≠ some ':')
    (ends : ∀ c rest, other = c :: rest → isWord c = false) : LeavesName (piece ++ other) := by
  cases piece with
  | nil => exact leavesName_of_not_word ends
  | cons first piece =>
      rw [List.cons_append, leavesName_cons] at leaves ⊢
      intro word
      cases piece with
      | nil => exact absurd (leaves word) apart
      | cons second piece => exact leaves word

/-- A text that no bind is read of is taken as it is, whatever comes before it and after it, as long
as neither makes a bind where there was none. -/
theorem tokensFrom_piece (silent : Silent before (piece ++ tail))
    (starts : admitsBind written = true → admitsBind before = true)
    (apart : tail.head? ≠ some ':') (ends : ∀ c rest, other = c :: rest → isWord c = false) :
    tokensFrom written 0 (piece ++ other) =
      piece.map Token.char ++ tokensFrom (piece.getLast?.or written) 0 other := by
  induction piece generalizing before written with
  | nil => rfl
  | cons c piece ih =>
      obtain ⟨none_, silent⟩ := silent_cons.1 silent
      have unbound : bindLength? written c (piece ++ other) = none := by
        by_cases starting : c = ':' ∧ admitsBind written = true
        · obtain ⟨rfl, admits⟩ := starting
          rw [bindLength?_colon (starts admits), nameLength?_eq_none_iff] at none_
          rw [bindLength?_colon admits, nameLength?_eq_none_iff]
          exact none_.change apart ends
        · exact if_neg starting
      rw [last_cons, List.cons_append, tokensFrom_char unbound, ih silent id]
      rfl

/-! ### Reading a bind -/

theorem isWord_of_mem_bindName {index : Nat} (inside : c ∈ (bindName index).toList) :
    isWord c = true := by
  rw [bindName, String.toList_append] at inside
  rcases List.mem_append.1 inside with letter | digit
  · rw [List.mem_singleton.1 letter]
    decide
  · rw [Nat.toString_eq_repr, Nat.toList_repr] at digit
    exact Text.isWord_of_isDigit (Nat.isDigit_of_mem_toDigits (by decide) (by decide) digit)

theorem bindName_ne_nil (index : Nat) : (bindName index).toList ≠ [] := by
  rw [bindName, String.toList_append]
  exact List.cons_ne_nil _ _

theorem exists_last_bindName (index : Nat) (before : Option Char) :
    ∃ c, (bindName index).toList.getLast?.or before = some c ∧ isWord c = true := by
  have last := List.getLast?_eq_some_getLast (bindName_ne_nil index)
  refine ⟨_, ?_, isWord_of_mem_bindName (List.getLast_mem (bindName_ne_nil index))⟩
  rw [last, Option.some_or]

theorem nameLength?_bindName (index : Nat) :
    nameLength? ((bindName index).toList ++ rest) = some (bindName index).toList.length ↔
      rest.head? ≠ some ':' ∧ LeavesName rest :=
  nameLength?_append (fun _ inside => isWord_of_mem_bindName inside) (bindName_ne_nil index)

theorem tokensFrom_bound_of_colon (colon : after.head? = some ':') (index : Nat) :
    tokensFrom written 0 (bound index after ++ rest) =
      boundTokens index after ++ tokensFrom (some ')') 0 rest := by
  let name := (bindName index).toList
  have follows : nameLength? (name ++ (')' :: rest)) = some name.length := by
    rw [nameLength?_bindName]
    exact ⟨by simp, leavesName_cons.2 (fun word => absurd word (by decide))⟩
  have text : bound index after ++ rest = '(' :: ':' :: (name ++ (')' :: rest)) := by
    rw [bound_of_colon colon]
    simp [name]
  have reads : bindLength? (some '(') ':' (name ++ (')' :: rest)) = some name.length := by
    rw [bindLength?_colon (by decide), follows]
  have named : String.ofList name = "p" ++ toString index := String.ofList_toList
  rw [text, tokensFrom_char (bindLength?_of_ne (by decide)), tokensFrom_bind reads,
    tokensFrom_named, tokensFrom_char (bindLength?_of_ne (by decide)), List.take_left, named,
    boundTokens, if_pos colon]
  rfl

/-- Without brackets a bind is read exactly if what is before it lets it start and what is after it
leaves its name. -/
theorem tokensFrom_bound_iff (apart : after.head? ≠ some ':') (index : Nat) {more : List Token} :
    tokensFrom written 0 (bound index after ++ rest) = boundTokens index after ++ more ↔
      (admitsBind written = true ∧ rest.head? ≠ some ':' ∧ LeavesName rest) ∧
        tokensFrom ((bindName index).toList.getLast?.or (some ':')) 0 rest = more := by
  let name := (bindName index).toList
  have text : bound index after ++ rest = ':' :: (name ++ rest) := by
    rw [bound_of_apart apart]
    rfl
  have meant : boundTokens index after ++ more = .bind (String.ofList name) :: more := by
    have named : String.ofList name = "p" ++ toString index := String.ofList_toList
    rw [boundTokens, if_neg apart, named]
    rfl
  rw [text, meant]
  constructor
  · intro same
    cases found : bindLength? written ':' (name ++ rest) with
    | none =>
        rw [tokensFrom_char found] at same
        cases same
    | some length =>
        rw [tokensFrom_bind found] at same
        obtain ⟨named, later⟩ := List.cons.inj same
        have admits : admitsBind written = true := by
          unfold bindLength? at found
          split at found
          · rename_i both
            exact both.2
          · cases found
        rw [bindLength?_colon admits] at found
        have taken : (name ++ rest).take length = name := by
          have letters := congrArg String.toList (Token.bind.inj named)
          rwa [String.toList_ofList, String.toList_ofList] at letters
        have exact_ : length = name.length := by
          have both := congrArg List.length taken
          have most := nameLength?_le found
          rw [List.length_take] at both
          omega
        subst exact_
        rw [tokensFrom_named] at later
        exact ⟨⟨admits, (nameLength?_bindName index).1 found⟩, later⟩
  · rintro ⟨⟨admits, leaves⟩, later⟩
    have found : bindLength? written ':' (name ++ rest) = some name.length := by
      rw [bindLength?_colon admits]
      exact (nameLength?_bindName index).2 leaves
    rw [tokensFrom_bind found, tokensFrom_named, List.take_left, later]

/-! ### Reading a rewritten statement -/

def MarksApart (before : Option Char) (cs : List Char) : Prop :=
  ∀ front after, cs = front ++ '?' :: after → (scan none front).1 = none →
    Apart (front.getLast?.or before) after

/-- What comes before a text and before what is written for it: nothing, or a placeholder and its
bind, which ends in a word character if the next placeholder follows at once. -/
inductive Linked : Option Char → Option Char → List Char → Prop where
  | start {piece : List Char} : Linked none none piece
  | bind {c : Char} {piece : List Char} (closed : piece = [] → isWord c = true) :
      Linked (some '?') (some c) piece

theorem Linked.admits_before (linked : Linked before written piece) :
    admitsBind before = true := by
  cases linked with
  | start => rfl
  | bind _ => decide

theorem not_admitsBind_of_isWord (word : isWord c = true) : ¬ admitsBind (some c) = true := by
  simp [admitsBind, word]

theorem Whole.last_ne (whole : Whole cs) : cs.getLast? ≠ some '?' := by
  induction whole with
  | nil => exact (Option.some_ne_none _).symm
  | @plain c rest plain _ ih =>
      cases rest with
      | nil =>
          intro same
          have mark : c = '?' := Option.some.inj same
          rw [mark] at plain
          exact absurd plain (by decide)
      | cons next more => exact ih
  | @quoted opened inside rest opens _ _ ih =>
      rw [← List.cons_append, List.getLast?_append_cons]
      cases rest with
      | nil =>
          intro same
          have mark : opened = '?' := Option.some.inj same
          rw [mark] at opens
          exact absurd opens (by decide)
      | cons next more => exact ih

/-- Before a placeholder and before its bind stands the same, unless they are what comes after
another placeholder. -/
theorem Linked.admits_iff (linked : Linked before written piece) (whole : Whole piece) :
    admitsBind (piece.getLast?.or written) = true ↔
      piece.getLast?.or before ≠ some '?' ∧ admitsBind (piece.getLast?.or before) = true := by
  cases last : piece.getLast? with
  | some c =>
      have apart : c ≠ '?' := fun same => whole.last_ne (last.trans (congrArg some same))
      simp only [Option.some_or, ne_eq, Option.some_inj, apart, not_false_eq_true, true_and]
  | none =>
      cases linked with
      | start => simp [admitsBind]
      | bind closed =>
          have word := closed (List.getLast?_eq_none_iff.1 last)
          simp [not_admitsBind_of_isWord word]

theorem marksApart_of_unmarked (unmarked : Unmarked cs) : MarksApart before cs := by
  rintro front after rfl open_
  have none_ := unmarked.scan_eq
  rw [scan_append, open_, scan_mark] at none_
  exact absurd none_ (by simp)

theorem marksApart_mark (whole : Whole piece) :
    MarksApart before (piece ++ '?' :: rest) ↔
      Apart (piece.getLast?.or before) rest ∧ MarksApart (some '?') rest := by
  have scanned (front : List Char) :
      (scan none (piece ++ '?' :: front)).1 = (scan none front).1 := by
    rw [scan_append, whole.scan_eq, scan_mark]
  have lasts (front : List Char) :
      (piece ++ '?' :: front).getLast?.or before = front.getLast?.or (some '?') := by
    rw [List.getLast?_append_cons, List.getLast?_cons]
    cases front.getLast? <;> rfl
  constructor
  · intro separate
    refine ⟨separate piece rest rfl (by rw [whole.scan_eq]), ?_⟩
    rintro front after rfl open_
    have apart := separate (piece ++ '?' :: front) after (by simp) ((scanned front).trans open_)
    rwa [lasts] at apart
  · rintro ⟨apart, separate⟩ front after same open_
    rcases List.append_eq_append_iff.1 same with ⟨between, rfl, tails⟩ | ⟨between, rfl, tails⟩
    · cases between with
      | nil =>
          rw [List.append_nil, ← (List.cons.inj tails).2]
          exact apart
      | cons c between =>
          obtain ⟨rfl, rfl⟩ := List.cons.inj tails
          rw [lasts]
          exact separate between after rfl ((scanned between).symm.trans open_)
    · cases between with
      | nil =>
          rw [List.append_nil] at apart
          rw [(List.cons.inj tails).2]
          exact apart
      | cons c between =>
          -- A placeholder inside the piece, which has none.
          have none_ := congrArg Prod.snd whole.scan_eq
          rw [← (List.cons.inj tails).1, scan_append, open_, scan_mark] at none_
          exact absurd none_ (by simp)

theorem head?_bound (after : List Char) (index : Nat) (more : List Char) :
    (bound index after ++ more).head? =
      if after.head? = some ':' then some '(' else some ':' := by
  by_cases colon : after.head? = some ':'
  · rw [bound_of_colon colon, if_pos colon]
    rfl
  · rw [bound_of_apart colon, if_neg colon]
    rfl

theorem bound_not_word (after : List Char) (index : Nat) (more : List Char) :
    ∀ c rest, bound index after ++ more = c :: rest → isWord c = false := by
  intro c rest same
  have head := head?_bound after index more
  rw [same, List.head?_cons] at head
  split at head
  · rw [Option.some.inj head]
    decide
  · rw [Option.some.inj head]
    decide

theorem leavesName_filled_iff {pieces : List (List Char)} (cut : Cut rest (after :: pieces))
    (apart : after.head? ≠ some ':') (separate : MarksApart (some '?') rest) (index : Nat) :
    ((filled index (after :: pieces)).head? ≠ some ':' ∧
      LeavesName (filled index (after :: pieces))) ↔ LeavesName rest := by
  cases cut with
  | last _ => exact and_iff_right apart
  | @mark _ later _ whole cut =>
      obtain ⟨next, separate⟩ := (marksApart_mark whole).1 separate
      cases pieces with
      | nil => exact absurd rfl cut.ne_nil
      | cons second pieces =>
          have colon_iff : later.head? = some ':' ↔ second.head? = some ':' :=
            cut.head?_eq (by decide)
          rw [filled]
          generalize more : filled (index + 1) (second :: pieces) = written
          have starts := bound_not_word second index written
          cases after with
          | nil =>
              -- Two placeholders in a row: the second bind has to be in brackets.
              have colon : second.head? = some ':' := by
                rcases next with colon | ⟨impossible, _⟩
                · exact colon_iff.1 colon
                · exact absurd rfl impossible
              have head := head?_bound second index written
              rw [if_pos colon] at head
              refine iff_of_true ⟨?_, leavesName_of_not_word starts⟩ ?_
              · rw [List.nil_append, head]
                decide
              · exact leavesName_cons.2 (fun word => absurd word (by decide))
          | cons first after =>
              refine (and_iff_right apart).trans ?_
              rw [List.cons_append, List.cons_append, leavesName_cons, leavesName_cons]
              apply imp_congr_right
              intro word
              cases after with
              | cons second after => exact Iff.rfl
              | nil =>
                  -- One character between two placeholders: a word character joins them.
                  have wrapped : second.head? = some ':' := by
                    rcases next with colon | ⟨_, admits, _⟩
                    · exact colon_iff.1 colon
                    · exact absurd admits (not_admitsBind_of_isWord word)
                  rw [List.nil_append, head?_bound, if_pos wrapped]
                  exact iff_of_false (by decide) (by simp)

theorem tokensFrom_filled_iff {pieces : List (List Char)} (cut : Cut cs pieces)
    (silent : Silent before cs) (linked : ∀ piece rest, pieces = piece :: rest →
      Linked before written piece) (index : Nat) :
    tokensFrom written 0 (filled index pieces) = placed index pieces ↔ MarksApart before cs := by
  induction cut generalizing before written index with
  | @last cs unmarked =>
      have linked := linked cs [] rfl
      refine iff_of_true ?_ (marksApart_of_unmarked unmarked)
      rw [← List.append_nil cs] at silent
      have read : tokensFrom written 0 (cs ++ []) =
          cs.map Token.char ++ tokensFrom (cs.getLast?.or written) 0 [] :=
        tokensFrom_piece silent (fun _ => linked.admits_before) (by simp) (by simp)
      simpa [filled, placed, tokensFrom] using read
  | @mark piece rest pieces whole cut ih =>
      cases pieces with
      | nil => exact absurd rfl cut.ne_nil
      | cons after pieces =>
          have linked := linked piece _ rfl
          have later : Silent (some '?') rest := (silent_cons.1 silent.append).2
          have colon_iff : rest.head? = some ':' ↔ after.head? = some ':' :=
            cut.head?_eq (by decide)
          rw [filled, placed, tokensFrom_piece silent (fun _ => linked.admits_before) (by simp)
            (bound_not_word after index _), List.append_cancel_left_eq, marksApart_mark whole]
          by_cases colon : after.head? = some ':'
          · have next : Linked (some '?') (some ')') after := by
              refine .bind (fun empty => ?_)
              rw [empty] at colon
              cases colon
            rw [tokensFrom_bound_of_colon colon, List.append_cancel_left_eq,
              ih later (fun _ _ same => (List.cons.inj same).1 ▸ next) (index + 1)]
            exact (and_iff_right (.inl (colon_iff.2 colon))).symm
          · obtain ⟨last, read, word⟩ := exists_last_bindName index (some ':')
            have next : Linked (some '?') (some last) after := .bind (fun _ => word)
            rw [tokensFrom_bound_iff colon, read,
              ih later (fun _ _ same => (List.cons.inj same).1 ▸ next) (index + 1)]
            apply and_congr_left
            intro separate
            rw [leavesName_filled_iff cut colon separate, linked.admits_iff whole, Apart,
              colon_iff, and_assoc]
            exact (or_iff_right colon).symm

theorem names_placed (index : Nat) (pieces : List (List Char)) :
    (placed index pieces).filterMap Token.name? =
      (List.range' index (pieces.length - 1)).map (fun i => "p" ++ toString i) := by
  have silent (piece : List Char) : (piece.map Token.char).filterMap Token.name? = [] := by
    rw [List.filterMap_map, List.filterMap_eq_nil_iff]
    exact fun _ _ => rfl
  have named (index : Nat) (after : List Char) :
      (boundTokens index after).filterMap Token.name? = ["p" ++ toString index] := by
    unfold boundTokens
    split <;> rfl
  induction pieces generalizing index with
  | nil => rfl
  | cons piece pieces ih =>
      cases pieces with
      | nil => exact silent piece
      | cons after pieces =>
          rw [placed, List.filterMap_append, List.filterMap_append, silent, named, ih (index + 1)]
          rfl

/-- The binds of a rewritten statement, for every statement that no bind is read of by itself and
all values that it can be given. They are `p0`, `p1` and so on, one for each value, and they are
read each in the place of its placeholder, with all else taken as it is, exactly if each placeholder
outside quotes is apart from what is before and after it. -/
theorem binds_read_iff {statement : String} {values : List Value} {named : NamedStatement}
    {pieces : List (List Char)} (cut : Cut statement.toList pieces)
    (unbound : binds statement = []) (accepted : nameBinds statement values = .ok named) :
    (placed 0 pieces).filterMap Token.name? =
        (List.range values.length).map (fun i => "p" ++ toString i) ∧
      (tokens named.text = placed 0 pieces ↔
        ∀ before after, statement.toList = before ++ '?' :: after → (scan none before).1 = none →
          Apart before.getLast? after) := by
  obtain ⟨count, rfl⟩ := nameBinds_eq_ok cut accepted
  constructor
  · rw [names_placed, count, Nat.add_sub_cancel, List.range_eq_range']
  · have read : tokensFrom none 0 (filled 0 pieces) = placed 0 pieces ↔
        MarksApart none statement.toList :=
      tokensFrom_filled_iff cut unbound (fun _ _ _ => .start) 0
    rw [tokens, String.toList_ofList, read]
    simp only [MarksApart, Option.or_none]

def kinds : String := "SELECT '?', ?::INT WHERE kind IN (?, ?)"

def kindsNamed : NamedStatement :=
  ⟨"SELECT '?', (:p0)::INT WHERE kind IN (:p1, :p2)",
    [("p0", .int 7), ("p1", .text "a"), ("p2", .text "b")]⟩

theorem binds_read_kinds :
    binds kinds = [] ∧
      nameBinds kinds [.int 7, .text "a", .text "b"] = .ok kindsNamed ∧
      binds kindsNamed.text = ["p0", "p1", "p2"] ∧
      ∀ before after, kinds.toList = before ++ '?' :: after → (scan none before).1 = none →
        Apart before.getLast? after := by
  let first := "SELECT '?', ".toList
  let cast := "::INT WHERE kind IN (".toList
  have text : kinds.toList =
      first ++ '?' :: (cast ++ '?' :: (", ".toList ++ '?' :: ")".toList)) := by decide
  have cut : Cut kinds.toList [first, cast, ", ".toList, ")".toList] := by
    rw [text]
    exact .mark (whole_iff.2 (by decide)) (.mark (whole_iff.2 (by decide))
      (.mark (whole_iff.2 (by decide)) (.last (unmarked_iff.2 (by decide)))))
  have unbound : binds kinds = [] := by decide +kernel
  have accepted : nameBinds kinds [.int 7, .text "a", .text "b"] = .ok kindsNamed := rfl
  refine ⟨unbound, accepted, by decide +kernel, ?_⟩
  exact (binds_read_iff cut unbound accepted).2.1 (by decide +kernel)

/-- A placeholder directly after a keyword: no bind is read in its place. -/
theorem bind_not_read_docs :
    binds "SELECT * FROM docs LIMIT?" = [] ∧
      nameBinds "SELECT * FROM docs LIMIT?" [.int 5] =
        .ok ⟨"SELECT * FROM docs LIMIT:p0", [("p0", .int 5)]⟩ ∧
      binds "SELECT * FROM docs LIMIT:p0" ≠ ["p0"] :=
  ⟨by decide +kernel, rfl, by decide +kernel⟩

end NestedSelect.Sql
