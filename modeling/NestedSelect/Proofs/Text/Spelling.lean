import NestedSelect.Text.Blank
import NestedSelect.Text.Case

/-!
Spellings of a word: in any case of its Latin letters, with blanks around it.

Trimming is taking away all blanks around a word, and nothing else (`trim_eq_iff`). What looks a
word up trimmed and in lower case does not tell its spellings apart (`Respells.lower_trim`),
whatever script the word is in.
-/

namespace NestedSelect.Text

def Pads (cs padded : List Char) : Prop :=
  ∃ front back, (∀ c ∈ front, isBlank c = true) ∧ (∀ c ∈ back, isBlank c = true) ∧
    padded = front ++ cs ++ back

def SameLetters (cs ds : List Char) : Prop := cs.map Char.toLower = ds.map Char.toLower

instance (cs ds : List Char) : Decidable (SameLetters cs ds) :=
  inferInstanceAs (Decidable (cs.map Char.toLower = ds.map Char.toLower))

def Respells (word asked : String) : Prop :=
  ∃ letters, SameLetters letters word.toList ∧ Pads letters asked.toList

theorem Pads.trimChars {cs padded : List Char} (pads : Pads cs padded) :
    trimChars padded = trimChars cs := by
  obtain ⟨front, back, before, after, rfl⟩ := pads
  exact trimChars_surrounded before after cs

theorem pads_trimChars (cs : List Char) : Pads (trimChars cs) cs := by
  refine ⟨cs.takeWhile isBlank, ((trimFront cs).reverse.takeWhile isBlank).reverse, ?_, ?_, ?_⟩
  · intro c inside
    exact List.all_eq_true.1 List.all_takeWhile c inside
  · intro c inside
    exact List.all_eq_true.1 List.all_takeWhile c (List.mem_reverse.1 inside)
  · have back : trimChars cs ++ ((trimFront cs).reverse.takeWhile isBlank).reverse =
        trimFront cs := by
      unfold trimChars trimBack
      rw [← List.reverse_append, List.takeWhile_append_dropWhile, List.reverse_reverse]
    rw [List.append_assoc, back]
    exact List.takeWhile_append_dropWhile.symm

structure Stripped (s trimmed : String) : Prop where
  pads : Pads trimmed.toList s.toList
  front : ∀ c, trimmed.toList.head? = some c → isBlank c = false
  back : ∀ c, trimmed.toList.getLast? = some c → isBlank c = false

theorem trim_eq_iff {s trimmed : String} : trim s = trimmed ↔ Stripped s trimmed := by
  constructor
  · rintro rfl
    have same : (trim s).toList = trimChars s.toList := String.toList_ofList
    refine ⟨?_, ?_, ?_⟩
    · rw [same]
      exact pads_trimChars s.toList
    · rw [same]
      exact fun _ => not_isBlank_of_head_trimChars
    · rw [same]
      exact fun _ => not_isBlank_of_getLast_trimChars
  · rintro ⟨pads, front, back⟩
    rw [trim, pads.trimChars, trimChars_eq_self front back, String.ofList_toList]

theorem stripped_empty_iff {s : String} : Stripped s "" ↔ ∀ c ∈ s.toList, isBlank c = true := by
  constructor
  · rintro ⟨⟨front, back, before, after, whole⟩, _, _⟩ c inside
    rw [whole] at inside
    rcases List.mem_append.1 inside with first | last
    · rcases List.mem_append.1 first with here | impossible
      · exact before c here
      · cases impossible
    · exact after c last
  · intro blank
    refine ⟨⟨s.toList, [], blank, ?_, ?_⟩, ?_, ?_⟩
    · exact fun _ impossible => nomatch impossible
    · rw [List.append_nil]
      exact (List.append_nil _).symm
    · exact fun _ impossible => nomatch impossible
    · exact fun _ impossible => nomatch impossible

theorem SameLetters.trimChars {cs ds : List Char} (same : SameLetters cs ds) :
    SameLetters (trimChars cs) (trimChars ds) := by
  have blank (c : Char) : isBlank c.toLower = isBlank c := apply_toLower (by decide) c
  unfold SameLetters at same ⊢
  rw [← trimChars_map blank, ← trimChars_map blank, same]

theorem SameLetters.forall_mem {cs ds : List Char} {test : Char → Bool} (same : SameLetters cs ds)
    (alike : ∀ c, test c.toLower = test c) (all : ∀ d ∈ ds, test d = true) :
    ∀ c ∈ cs, test c = true := by
  intro c inside
  have there : c.toLower ∈ ds.map Char.toLower := same ▸ List.mem_map_of_mem inside
  obtain ⟨d, within, equal⟩ := List.mem_map.1 there
  rw [← alike c, ← equal, alike d]
  exact all d within

theorem Respells.lower_trim {word asked : String} (respells : Respells word asked) :
    lower (trim asked) = lower (trim word) := by
  obtain ⟨letters, same, pads⟩ := respells
  apply lower_eq_of_toLower
  unfold trim
  rw [String.toList_ofList, String.toList_ofList, pads.trimChars]
  exact same.trimChars

end NestedSelect.Text
