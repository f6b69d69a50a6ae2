/-!
Blank characters and trimming.

Main statements: a trimmed text neither starts nor ends with a blank, trimming a second time
changes nothing, and what a text is surrounded with does not matter if it is blank.
-/

namespace NestedSelect.Text

/-- White space of any script. The zero-width space and the byte-order mark are not blank. -/
def isBlank (c : Char) : Bool :=
  let code := c.toNat
  (0x09 ≤ code && code ≤ 0x0D) || (0x1C ≤ code && code ≤ 0x20) || code == 0x85 || code == 0xA0 ||
    code == 0x1680 || (0x2000 ≤ code && code ≤ 0x200A) || code == 0x2028 || code == 0x2029 ||
    code == 0x202F || code == 0x205F || code == 0x3000

def trimFront (cs : List Char) : List Char := cs.dropWhile isBlank

def trimBack (cs : List Char) : List Char := (cs.reverse.dropWhile isBlank).reverse

def trimChars (cs : List Char) : List Char := trimBack (trimFront cs)

def trim (s : String) : String := String.ofList (trimChars s.toList)

theorem not_isBlank_of_head_trimFront {cs : List Char} {c : Char}
    (first : (trimFront cs).head? = some c) : isBlank c = false := by
  have kept := List.head?_dropWhile_not isBlank cs
  rw [show cs.dropWhile isBlank = trimFront cs from rfl, first] at kept
  exact kept

theorem trimFront_eq_self {cs : List Char}
    (sharp : ∀ c, cs.head? = some c → isBlank c = false) : trimFront cs = cs := by
  cases cs with
  | nil => rfl
  | cons c rest => simp [trimFront, sharp c rfl]

theorem trimBack_eq_reverse (cs : List Char) : trimBack cs = (trimFront cs.reverse).reverse := rfl

theorem trimBack_isPrefix (cs : List Char) : trimBack cs <+: cs := by
  have back : trimFront cs.reverse <:+ cs.reverse := List.dropWhile_suffix isBlank
  have front := List.reverse_prefix.2 back
  rwa [List.reverse_reverse] at front

theorem not_isBlank_of_head_trimChars {cs : List Char} {c : Char}
    (first : (trimChars cs).head? = some c) : isBlank c = false := by
  obtain ⟨removed, whole⟩ := trimBack_isPrefix (trimFront cs)
  have start : (trimFront cs).head? = some c := by
    rw [← whole, List.head?_append, show trimBack (trimFront cs) = trimChars cs from rfl, first]
    rfl
  exact not_isBlank_of_head_trimFront start

theorem not_isBlank_of_getLast_trimChars {cs : List Char} {c : Char}
    (last : (trimChars cs).getLast? = some c) : isBlank c = false := by
  unfold trimChars at last
  rw [trimBack_eq_reverse, List.getLast?_reverse] at last
  exact not_isBlank_of_head_trimFront last

theorem trimChars_eq_self {cs : List Char}
    (front : ∀ c, cs.head? = some c → isBlank c = false)
    (back : ∀ c, cs.getLast? = some c → isBlank c = false) : trimChars cs = cs := by
  have turned : trimFront cs.reverse = cs.reverse := by
    apply trimFront_eq_self
    intro c first
    rw [List.head?_reverse] at first
    exact back c first
  unfold trimChars
  rw [trimFront_eq_self front, trimBack_eq_reverse, turned, List.reverse_reverse]

@[simp] theorem trimChars_trimChars (cs : List Char) : trimChars (trimChars cs) = trimChars cs :=
  trimChars_eq_self (fun _ => not_isBlank_of_head_trimChars)
    (fun _ => not_isBlank_of_getLast_trimChars)

@[simp] theorem trim_trim (s : String) : trim (trim s) = trim s := by
  simp [trim]

theorem trimFront_append {front : List Char} (blank : ∀ c ∈ front, isBlank c = true)
    (word : List Char) : trimFront (front ++ word) = trimFront word :=
  List.dropWhile_append_of_pos blank

theorem trimBack_append {back : List Char} (blank : ∀ c ∈ back, isBlank c = true)
    (word : List Char) : trimBack (word ++ back) = trimBack word := by
  unfold trimBack
  rw [List.reverse_append, List.dropWhile_append_of_pos]
  intro c inside
  exact blank c (List.mem_reverse.1 inside)

theorem trimBack_append_sharp (front : List Char) {c : Char} (sharp : isBlank c = false)
    (back : List Char) : trimBack (front ++ c :: back) = front ++ c :: trimBack back := by
  have stop : (c :: front.reverse).dropWhile isBlank = c :: front.reverse :=
    List.dropWhile_cons_of_neg (by simp [sharp])
  unfold trimBack
  rw [List.reverse_append, List.reverse_cons, List.append_assoc, List.singleton_append,
    List.dropWhile_append, stop]
  cases back.reverse.dropWhile isBlank with
  | nil => simp
  | cons d rest => simp

theorem trimChars_surrounded {front back : List Char} (before : ∀ c ∈ front, isBlank c = true)
    (after : ∀ c ∈ back, isBlank c = true) (word : List Char) :
    trimChars (front ++ word ++ back) = trimChars word := by
  have parted : trimFront (word ++ back) =
      if (trimFront word).isEmpty = true then trimFront back else trimFront word ++ back :=
    List.dropWhile_append
  have none : trimFront back = [] := by
    have dropped := trimFront_append after []
    rwa [List.append_nil] at dropped
  unfold trimChars
  rw [List.append_assoc, trimFront_append before]
  by_cases empty : (trimFront word).isEmpty = true
  · rw [parted, if_pos empty, none, List.isEmpty_iff.1 empty]
  · rw [parted, if_neg empty, trimBack_append after]

theorem trimChars_map {f : Char → Char} (same : ∀ c, isBlank (f c) = isBlank c)
    (cs : List Char) : trimChars (cs.map f) = (trimChars cs).map f := by
  have front (cs : List Char) : trimFront (cs.map f) = (trimFront cs).map f := by
    unfold trimFront
    rw [List.dropWhile_map, show isBlank ∘ f = isBlank from funext same]
  unfold trimChars
  rw [trimBack_eq_reverse, trimBack_eq_reverse, front, ← List.map_reverse, front,
    List.map_reverse]

end NestedSelect.Text
