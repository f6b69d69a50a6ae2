import NestedSelect.Dialect.Registry
import NestedSelect.Proofs.Text.Spelling

/-!
Which names select a registered dialect.

A name is looked up in lower case. Registering a dialect leads each further name to it in lower case
as well, but the name itself as it is (`get?_aliases_register`). So every spelling of a further name
selects the dialect, and every spelling of the name does if its lower case is led there.
-/

namespace NestedSelect

open Text (Pads SameLetters)

/-- A character that a dialect can have in its names: of ASCII, no blank and no plus sign. -/
def isWordChar (c : Char) : Bool := c.toNat < 128 && !Text.isBlank c && c != '+'

def IsWord (word : String) : Prop := word ≠ "" ∧ word.toList.all isWordChar = true

instance (word : String) : Decidable (IsWord word) :=
  inferInstanceAs (Decidable (word ≠ "" ∧ word.toList.all isWordChar = true))

/-- Texts that ask for a word: its letters in any case, then nothing or a driver after a plus sign,
and blanks around all that. -/
def AsksFor (word asked : String) : Prop :=
  ∃ letters driver, SameLetters letters word.toList ∧ (∀ c, driver.head? = some c → c = '+') ∧
    Pads (letters ++ driver) asked.toList

theorem asksFor_self (word : String) : AsksFor word word := by
  refine ⟨word.toList, [], rfl, nofun, [], [], nofun, nofun, ?_⟩
  simp

section

variable {letters driver : List Char}

theorem isWordChar_eq_true {c : Char} :
    isWordChar c = true ↔ c.toNat < 128 ∧ Text.isBlank c = false ∧ c ≠ '+' := by
  simp [isWordChar, and_assoc]

theorem trimChars_driver (filled : letters ≠ []) (word : ∀ c ∈ letters, isWordChar c = true)
    (plus : ∀ c, driver.head? = some c → c = '+') :
    ∃ rest, Text.trimChars (letters ++ driver) = letters ++ rest ∧
      ∀ c, rest.head? = some c → c = '+' := by
  have solid (c : Char) (inside : c ∈ letters) : Text.isBlank c = false :=
    (isWordChar_eq_true.1 (word c inside)).2.1
  have front : Text.trimFront (letters ++ driver) = letters ++ driver := by
    apply Text.trimFront_eq_self
    intro c first
    cases letters with
    | nil => exact absurd rfl filled
    | cons d rest =>
        cases first
        exact solid _ List.mem_cons_self
  unfold Text.trimChars
  rw [front]
  cases driver with
  | nil =>
      refine ⟨[], ?_, nofun⟩
      rw [List.append_nil, Text.trimBack_eq_reverse, Text.trimFront_eq_self, List.reverse_reverse]
      intro c first
      exact solid c (List.mem_reverse.1 (List.mem_of_mem_head? first))
  | cons c back =>
      obtain rfl : c = '+' := plus c rfl
      refine ⟨'+' :: Text.trimBack back, Text.trimBack_append_sharp letters rfl back, ?_⟩
      intro d first
      cases first
      rfl

theorem takeWhile_lowerAfter (word : ∀ c ∈ letters, isWordChar c = true)
    (plus : ∀ c, driver.head? = some c → c = '+') :
    (Text.lowerAfter [] (letters ++ driver)).takeWhile (· != '+') = letters.map Char.toLower := by
  have ascii (c : Char) (inside : c ∈ letters) : c.toNat < 128 :=
    (isWordChar_eq_true.1 (word c inside)).1
  have plain : ∀ c ∈ letters.map Char.toLower, (c != '+') = true := by
    intro c inside
    obtain ⟨d, within, rfl⟩ := List.mem_map.1 inside
    have other : d ≠ '+' := (isWordChar_eq_true.1 (word d within)).2.2
    rw [Text.apply_toLower (f := fun c => c != '+') (by decide) d]
    exact bne_iff_ne.2 other
  rw [Text.lowerAfter_ascii_append ascii, List.takeWhile_append_of_pos plain]
  cases driver with
  | nil => simp [Text.lowerAfter]
  | cons c rest =>
      obtain rfl : c = '+' := plus c rfl
      have image : Text.lowerChar '+' = ['+'] := by decide
      simp [Text.lowerAfter, image]

end

namespace DialectRegistry

theorem spelling_of_asksFor {word asked : String} (isWord : IsWord word)
    (asks : AsksFor word asked) : spelling asked = Text.lower word := by
  obtain ⟨letters, driver, same, plus, pads⟩ := asks
  have filled : letters ≠ [] := by
    rintro rfl
    exact isWord.1 (String.toList_eq_nil_iff.1 (List.map_eq_nil_iff.1 same.symm))
  have alike (c : Char) : isWordChar c.toLower = isWordChar c :=
    Text.apply_toLower (by decide) c
  have letter := same.forall_mem alike (List.all_eq_true.1 isWord.2)
  obtain ⟨rest, trimmed, plus⟩ := trimChars_driver filled letter plus
  have ascii (c : Char) (inside : c ∈ word.toList) : c.toNat < 128 :=
    (isWordChar_eq_true.1 (List.all_eq_true.1 isWord.2 c inside)).1
  unfold spelling Text.lower Text.trim
  rw [String.toList_ofList, String.toList_ofList, pads.trimChars, trimmed,
    takeWhile_lowerAfter letter plus, same, ← Text.lower_ascii ascii]
  rfl

theorem get?_aliases_foldl (name key : String) (others : List String)
    (known : List (String × String)) :
    Record.get? key (others.foldl (fun known other => Record.put (Text.lower other) name known)
      known) = if key ∈ others.map Text.lower then some name else Record.get? key known := by
  induction others generalizing known with
  | nil => simp
  | cons other rest ih =>
      rw [List.foldl_cons, ih, List.map_cons]
      by_cases later : key ∈ rest.map Text.lower
      · rw [if_pos later, if_pos (List.mem_cons_of_mem _ later)]
      · by_cases here : key = Text.lower other
        · subst here
          rw [if_neg later, if_pos List.mem_cons_self, Record.get?_put_self]
        · rw [if_neg later, if_neg (List.not_mem_cons_of_ne_of_not_mem here later),
            Record.get?_put_of_ne here]

/-- Where a spelling leads once a dialect is registered: to it if it is the name as it is or a
further name in lower case, and where it led before otherwise. -/
theorem get?_aliases_register (registry : DialectRegistry) (name : String) (dialect : Dialect)
    (aliases : List String) (key : String) :
    Record.get? key (registry.register name dialect aliases).aliases =
      if key = name ∨ key ∈ aliases.map Text.lower then some name
      else Record.get? key registry.aliases := by
  unfold register
  rw [get?_aliases_foldl]
  by_cases further : key ∈ aliases.map Text.lower
  · rw [if_pos further, if_pos (.inr further)]
  · by_cases itself : key = name
    · rw [if_neg further, if_pos (.inl itself), itself, Record.get?_put_self]
    · rw [if_neg further, if_neg (not_or.2 ⟨itself, further⟩), Record.get?_put_of_ne itself]

def led? (registry : DialectRegistry) (key : String) : Option Dialect :=
  (Record.get? key registry.aliases).bind (fun name => Record.get? name registry.dialects)

theorem generator_text (registry : DialectRegistry) (asked baseAlias : String) :
    registry.generator (.text asked) baseAlias none =
      match registry.led? (spelling asked) with
      | some dialect => .ok ⟨dialect, baseAlias⟩
      | none => .error (.unsupportedDialect (Value.display (.text asked))) := by
  unfold generator led?
  rw [show registry.canonical (.text asked) = .ok (Record.get? (spelling asked) registry.aliases)
    from rfl]
  cases Record.get? (spelling asked) registry.aliases with
  | none => rfl
  | some name =>
      cases found : Record.get? name registry.dialects with
      | none => simp [found, bind, Except.bind]
      | some dialect => simp [found, bind, Except.bind]

theorem generator_eq_ok_iff {registry : DialectRegistry} {asked baseAlias : String}
    {dialect : Dialect} :
    registry.generator (.text asked) baseAlias none = .ok ⟨dialect, baseAlias⟩ ↔
      registry.led? (spelling asked) = some dialect := by
  rw [generator_text]
  cases registry.led? (spelling asked) with
  | none => simp
  | some found => simp

theorem led?_register (registry : DialectRegistry) (name : String) (dialect : Dialect)
    (aliases : List String) {key : String} (named : key = name ∨ key ∈ aliases.map Text.lower) :
    (registry.register name dialect aliases).led? key = some dialect := by
  unfold led?
  rw [get?_aliases_register, if_pos named]
  exact Record.get?_put_self name dialect registry.dialects

/-- Once a dialect is registered, whatever was registered before, everything that asks for a further
name selects it. Everything that asks for its name selects it exactly if the lower case of the name
is the name itself, is a further name in lower case, or leads to the dialect from before. -/
theorem register_selects_iff (before : DialectRegistry) (name : String)
    (dialect : Dialect) (aliases : List String) (words : ∀ word ∈ name :: aliases, IsWord word)
    (baseAlias : String) :
    let registry := before.register name dialect aliases
    let Selects (word : String) : Prop := ∀ asked, AsksFor word asked →
      registry.generator (.text asked) baseAlias none = .ok ⟨dialect, baseAlias⟩
    (∀ word ∈ aliases, Selects word) ∧
      (Selects name ↔ Text.lower name = name ∨ Text.lower name ∈ aliases.map Text.lower ∨
        (Record.get? (Text.lower name) before.aliases).bind
          (fun other => Record.get? other registry.dialects) = some dialect) := by
  intro registry Selects
  have lookup (word asked : String) (isWord : IsWord word) (asks : AsksFor word asked) :
      registry.generator (.text asked) baseAlias none = .ok ⟨dialect, baseAlias⟩ ↔
        registry.led? (Text.lower word) = some dialect := by
    rw [generator_eq_ok_iff, spelling_of_asksFor isWord asks]
  constructor
  · intro word inside asked asks
    have further : Text.lower word ∈ aliases.map Text.lower := List.mem_map_of_mem inside
    rw [lookup word asked (words word (List.mem_cons_of_mem name inside)) asks]
    exact led?_register before name dialect aliases (.inr further)
  · -- All that asks for the name is looked up the same, so the name itself decides.
    have isWord : IsWord name := words name List.mem_cons_self
    have selects : Selects name ↔ registry.led? (Text.lower name) = some dialect := by
      constructor
      · intro all
        exact (lookup name name isWord (asksFor_self name)).1 (all name (asksFor_self name))
      · intro led asked asks
        exact (lookup name asked isWord asks).2 led
    rw [selects]
    by_cases named : Text.lower name = name ∨ Text.lower name ∈ aliases.map Text.lower
    · have led := led?_register before name dialect aliases named
      constructor
      · intro _
        exact or_assoc.1 (.inl named)
      · intro _
        exact led
    · unfold led?
      rw [get?_aliases_register, if_neg named, ← or_assoc, or_iff_right named]

theorem register_selects_duckdb :
    let duck := Dialect.base "DuckGenerator"
    let registry := DialectRegistry.initial.register "duck" duck ["DuckDB"]
    (∀ word ∈ ["duck", "DuckDB"], IsWord word) ∧
      (∀ asked, AsksFor "duck" asked →
        registry.generator (.text asked) "b" none = .ok ⟨duck, "b"⟩) ∧
      ∀ asked, AsksFor "DuckDB" asked →
        registry.generator (.text asked) "b" none = .ok ⟨duck, "b"⟩ := by
  have words : ∀ word ∈ ["duck", "DuckDB"], IsWord word := by decide +kernel
  obtain ⟨further, itself⟩ := register_selects_iff .initial "duck"
    (Dialect.base "DuckGenerator") ["DuckDB"] words "b"
  exact ⟨words, itself.2 (.inl (by decide +kernel)), further "DuckDB" List.mem_cons_self⟩

/-- A dialect that is registered under a capital name only cannot be selected. -/
theorem register_not_selects_duck :
    let registry := DialectRegistry.initial.register "Duck" (Dialect.base "DuckGenerator") []
    IsWord "Duck" ∧ AsksFor "Duck" "Duck" ∧
      registry.generator (.text "Duck") "base" none = .error (.unsupportedDialect "Duck") :=
  ⟨by decide +kernel, asksFor_self "Duck", by rfl⟩

end DialectRegistry

end NestedSelect
