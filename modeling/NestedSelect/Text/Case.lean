import NestedSelect.Text.CaseTable

/-!
Lower, upper and capitalised text for every script.

A capital sigma that ends a word has a lower case of its own; whether it does is read off the
nearest characters on both sides that are not passed over.

Main statements: texts that differ in the case of Latin letters only have the same lower case, and
a text that starts with ASCII characters is lower-cased one by one as far as these go.
-/

namespace NestedSelect.Text

private def inRuns (runs : List (Nat × Nat)) (c : Char) : Bool :=
  runs.any (fun run => run.1 ≤ c.toNat && c.toNat ≤ run.2)

private def shiftBy (runs : List CaseRun) (c : Char) : Char :=
  let code := c.toNat
  let isIn (run : CaseRun) : Bool :=
    run.1 ≤ code && code ≤ run.2.1 && (code - run.1) % run.2.2.1 == 0
  match runs.find? isIn with
  | some run => Char.ofNat (code + run.2.2.2).toNat
  | none => c

private def sequenceOf (sequences : List (Nat × List Nat)) (c : Char) : Option (List Char) :=
  (sequences.find? (fun entry => entry.1 == c.toNat)).map (fun entry => entry.2.map Char.ofNat)

def lowerChar (c : Char) : List Char :=
  if c.toNat < 128 then [c.toLower] else (sequenceOf lowerSequences c).getD [shiftBy lowerRuns c]

def upperChar (c : Char) : List Char :=
  if c.toNat < 128 then [c.toUpper] else (sequenceOf upperSequences c).getD [shiftBy upperRuns c]

def titleChar (c : Char) : List Char :=
  if c.toNat < 128 then [c.toUpper] else (sequenceOf titleSequences c).getD (upperChar c)

private def facesCased (cs : List Char) : Bool :=
  match cs.dropWhile (inRuns caseIgnorableRuns) with
  | [] => false
  | c :: _ => inRuns casedRuns c

/-- Lower-case the rest of a text, given what precedes it, nearest character first. -/
def lowerAfter (before : List Char) : List Char → List Char
  | [] => []
  | c :: rest =>
      let image :=
        if c.toNat == 0x3A3 then
          if facesCased before && !facesCased rest then [Char.ofNat 0x3C2] else [Char.ofNat 0x3C3]
        else lowerChar c
      image ++ lowerAfter (c :: before) rest

def lower (s : String) : String := String.ofList (lowerAfter [] s.toList)

def upper (s : String) : String := String.ofList (s.toList.flatMap upperChar)

def capitalize (s : String) : String :=
  match s.toList with
  | [] => ""
  | c :: rest => String.ofList (titleChar c ++ lowerAfter [c] rest)

def capitals : List Char := "ABCDEFGHIJKLMNOPQRSTUVWXYZ".toList

theorem toLower_of_not_capital {c : Char} (other : c ∉ capitals) : c.toLower = c := by
  have all : ∀ n < 26, Char.ofNat (65 + n) ∈ capitals := by decide
  unfold Char.toLower
  split
  · rename_i within
    have first : 65 ≤ c.toNat := within.1
    have last : c.toNat ≤ 90 := within.2
    have there := all (c.toNat - 65) (by omega)
    rw [Nat.add_sub_cancel' first, Char.ofNat_toNat] at there
    exact absurd there other
  · rfl

/-- What capital letters share with their small ones, all characters do. -/
theorem apply_toLower {α : Type} {f : Char → α}
    (capital : capitals.map (fun c => f c.toLower) = capitals.map f) (c : Char) :
    f c.toLower = f c := by
  by_cases inside : c ∈ capitals
  · exact List.map_inj_left.1 capital c inside
  · rw [toLower_of_not_capital inside]

private theorem facesCased_map_toLower (cs : List Char) :
    facesCased (cs.map Char.toLower) = facesCased cs := by
  have ignored : inRuns caseIgnorableRuns ∘ Char.toLower = inRuns caseIgnorableRuns :=
    funext (apply_toLower (by decide +kernel))
  have cased (c : Char) : inRuns casedRuns c.toLower = inRuns casedRuns c :=
    apply_toLower (by decide +kernel) c
  unfold facesCased
  rw [List.dropWhile_map, ignored]
  cases cs.dropWhile (inRuns caseIgnorableRuns) with
  | nil => rfl
  | cons c rest => exact cased c

theorem lowerAfter_map_toLower (before cs : List Char) :
    lowerAfter (before.map Char.toLower) (cs.map Char.toLower) = lowerAfter before cs := by
  have sigma (c : Char) : (c.toLower.toNat == 0x3A3) = (c.toNat == 0x3A3) :=
    apply_toLower (f := fun c => c.toNat == 0x3A3) (by decide) c
  have image (c : Char) : lowerChar c.toLower = lowerChar c := apply_toLower (by decide) c
  induction cs generalizing before with
  | nil => rfl
  | cons c rest ih =>
      simp only [List.map_cons, lowerAfter, sigma, image, facesCased_map_toLower,
        ← ih (c :: before)]

theorem lower_eq_of_toLower {s t : String}
    (same : s.toList.map Char.toLower = t.toList.map Char.toLower) : lower s = lower t := by
  have image (s : String) : lowerAfter [] (s.toList.map Char.toLower) = lowerAfter [] s.toList :=
    lowerAfter_map_toLower [] s.toList
  unfold lower
  rw [← image s, ← image t, same]

theorem lowerAfter_ascii_append {front : List Char} (ascii : ∀ c ∈ front, c.toNat < 128)
    (before rest : List Char) :
    lowerAfter before (front ++ rest) =
      front.map Char.toLower ++ lowerAfter (front.reverse ++ before) rest := by
  induction front generalizing before with
  | nil => rfl
  | cons c front ih =>
      have small : c.toNat < 128 := ascii c List.mem_cons_self
      have image : lowerChar c = [c.toLower] := if_pos small
      have other : (c.toNat == 0x3A3) = false := by
        rw [beq_eq_false_iff_ne]
        omega
      have later := ih (fun d inside => ascii d (List.mem_cons_of_mem c inside)) (c :: before)
      simp [lowerAfter, other, image, later]

theorem lower_ascii {s : String} (ascii : ∀ c ∈ s.toList, c.toNat < 128) :
    lower s = String.ofList (s.toList.map Char.toLower) := by
  have whole := lowerAfter_ascii_append ascii [] []
  rw [List.append_nil] at whole
  unfold lower
  rw [whole]
  simp [lowerAfter]

end NestedSelect.Text
