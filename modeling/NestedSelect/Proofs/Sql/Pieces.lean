import NestedSelect.Proofs.Sql.Legible

/-!
Cutting select lists into pieces.

Items stand on lines of their own. Inside an item every comma is followed by a blank, so a comma
with a line break after it is the end of an item, and cutting there gives back the items.
-/

namespace NestedSelect.Sql

variable {α : Type}

/-- The pieces of a text between separators, read from the front; the first characters may be
skipped. -/
def piecesFrom (separator : List Char) : Nat → List Char → List (List Char)
  | _, [] => [[]]
  | skip + 1, _ :: rest => piecesFrom separator skip rest
  | 0, c :: rest =>
      if separator.isPrefixOf (c :: rest) then
        [] :: piecesFrom separator (separator.length - 1) rest
      else (piecesFrom separator 0 rest).modifyHead (c :: ·)

def pieces (separator s : String) : List String :=
  (piecesFrom separator.toList 0 s.toList).map String.ofList

def itemBreak : String := ",\n       "

def areSpaced : List Char → Bool
  | [] => true
  | c :: rest => (c != ',' || rest.head? == some ' ') && areSpaced rest

def Spaced (s : String) : Prop := areSpaced s.toList = true

instance (s : String) : Decidable (Spaced s) :=
  inferInstanceAs (Decidable (areSpaced s.toList = true))

theorem areSpaced_append {cs more : List Char} (first : areSpaced cs = true)
    (second : areSpaced more = true) : areSpaced (cs ++ more) = true := by
  induction cs with
  | nil => exact second
  | cons c rest ih =>
      simp only [areSpaced, Bool.and_eq_true, Bool.or_eq_true, beq_iff_eq] at first
      simp only [List.cons_append, areSpaced, Bool.and_eq_true, Bool.or_eq_true, beq_iff_eq]
      refine ⟨?_, ih first.2⟩
      rcases first.1 with other | blank
      · exact .inl other
      · right
        cases rest with
        | nil => simp at blank
        | cons next _ => simpa using blank

theorem Spaced.append {s t : String} (first : Spaced s) (second : Spaced t) : Spaced (s ++ t) := by
  unfold Spaced
  rw [String.toList_append]
  exact areSpaced_append first second

theorem spaced_of_consists {kind : Char → Bool} {s : String} (unlike : kind ',' = false)
    (named : Consists kind s) : Spaced s := by
  unfold Consists at named
  unfold Spaced
  generalize s.toList = cs at named ⊢
  induction cs with
  | nil => rfl
  | cons c rest ih =>
      have apart : c ≠ ',' := by
        rintro rfl
        simp [named ',' List.mem_cons_self] at unlike
      simp [areSpaced, apart, ih (fun other inside => named other (List.mem_cons_of_mem c inside))]

theorem spaced_listed {opening separator : String} {print : α → String} {as : List α}
    (first : Spaced opening) (between : Spaced separator)
    (parts : ∀ a ∈ as, Spaced (print a)) : Spaced (listed opening separator print as) := by
  induction as generalizing opening with
  | nil => rfl
  | cons a rest ih =>
      have others := ih between (fun other inside => parts other (List.mem_cons_of_mem a inside))
      exact first.append ((parts a List.mem_cons_self).append others)

theorem piecesFrom_spaced {cs : List Char} (spaced : areSpaced cs = true) (more : List Char) :
    piecesFrom itemBreak.toList 0 (cs ++ more) =
      (piecesFrom itemBreak.toList 0 more).modifyHead (cs ++ ·) := by
  induction cs with
  | nil =>
      rw [List.nil_append]
      cases piecesFrom itemBreak.toList 0 more <;> rfl
  | cons c rest ih =>
      simp only [areSpaced, Bool.and_eq_true, Bool.or_eq_true, bne_iff_ne, beq_iff_eq] at spaced
      have whole : itemBreak.toList = ',' :: '\n' :: (String.toList "       ") := rfl
      have goesOn : itemBreak.toList.isPrefixOf (c :: (rest ++ more)) = false := by
        rw [whole]
        rcases spaced.1 with other | blank
        · simp [List.isPrefixOf, Ne.symm other]
        · cases rest with
          | nil => simp at blank
          | cons next _ =>
              simp only [List.head?_cons, Option.some.injEq] at blank
              simp [List.isPrefixOf, blank]
      rw [List.cons_append, piecesFrom, if_neg (by rw [goesOn]; exact Bool.false_ne_true),
        ih spaced.2]
      cases piecesFrom itemBreak.toList 0 more <;> rfl

theorem piecesFrom_break (more : List Char) :
    piecesFrom itemBreak.toList 0 (itemBreak.toList ++ more) =
      [] :: piecesFrom itemBreak.toList 0 more := rfl

theorem pieces_listed {print : α → String} {root : String} {as : List α} (first : Spaced root)
    (parts : ∀ a ∈ as, Spaced (print a)) :
    pieces itemBreak (root ++ listed itemBreak itemBreak print as) = root :: as.map print := by
  unfold pieces
  have letters : piecesFrom itemBreak.toList 0
      (root ++ listed itemBreak itemBreak print as).toList =
        (root :: as.map print).map String.toList := by
    induction as generalizing root with
    | nil =>
        rw [String.toList_append, piecesFrom_spaced first]
        simp [listed, piecesFrom]
    | cons a rest ih =>
        have next := ih (parts a List.mem_cons_self)
          (fun other inside => parts other (List.mem_cons_of_mem a inside))
        rw [String.toList_append, piecesFrom_spaced first, listed, String.toList_append,
          piecesFrom_break, next]
        simp
  rw [letters, List.map_map]
  simp [Function.comp_def]

example : pieces itemBreak "base.*,\n       JSON_OBJECT('id', doc.id, 'title', doc.title) AS doc" =
    ["base.*", "JSON_OBJECT('id', doc.id, 'title', doc.title) AS doc"] := by decide

end NestedSelect.Sql
