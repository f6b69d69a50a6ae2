import NestedSelect.Proofs.Query.Work
import NestedSelect.Query.Columns
import NestedSelect.Query.Registration

/-!
What checked names are made of.

A name that passed the check is a name from its first to its last character: the line break that a
mere test lets through at the end has been trimmed off.
-/

namespace NestedSelect

namespace Identifier

theorem isRest_of_isStart {c : Char} (start : isStart c = true) : isRest c = true := by
  rcases Bool.or_eq_true_iff.1 start with letter | line
  · simp only [isRest, Char.isAlphanum, letter, Bool.true_or]
  · simp only [isRest, line, Bool.or_true, Bool.true_or]

theorem isRest_of_isName {cs : List Char} (named : isName cs = true) :
    ∀ c ∈ cs, isRest c = true := by
  cases cs with
  | nil => cases named
  | cons first rest =>
      obtain ⟨start, others⟩ := Bool.and_eq_true_iff.1 named
      intro c member
      rcases List.mem_cons.1 member with rfl | inside
      · exact isRest_of_isStart start
      · exact List.all_eq_true.1 others c inside

theorem IsSafe.append {s t : String} (safe : IsSafe s)
    (rest : t.toList.all isRest = true) : IsSafe (s ++ t) := by
  unfold IsSafe at safe ⊢
  rw [String.toList_append]
  cases same : s.toList with
  | nil =>
      rw [same] at safe
      cases safe
  | cons first others =>
      rw [same] at safe
      obtain ⟨start, all⟩ := Bool.and_eq_true_iff.1 safe
      have whole : (others ++ t.toList).all isRest = true := by
        rw [List.all_append, all, rest]
        rfl
      exact Bool.and_eq_true_iff.2 ⟨start, whole⟩

theorem isBlank_of_isRest {c : Char} (rest : isRest c = true) : Text.isBlank c = false := by
  have range : 46 ≤ c.toNat ∧ c.toNat ≤ 122 := by
    change (((decide (c.val ≥ 'A'.val ∧ c.val ≤ 'Z'.val) ||
      (decide (c.val ≥ 'a'.val) && decide (c.val ≤ 'z'.val))) ||
      (decide (c.val ≥ '0'.val) && decide (c.val ≤ '9'.val))) || c == '_' || c == '.') = true
      at rest
    simp only [Bool.or_eq_true, Bool.and_eq_true, decide_eq_true_eq, beq_iff_eq, ge_iff_le,
      UInt32.le_iff_toNat_le] at rest
    rcases rest with (((⟨low, high⟩ | ⟨low, high⟩) | ⟨low, high⟩) | rfl) | rfl
    · exact ⟨Nat.le_trans (by decide) low, Nat.le_trans high (by decide)⟩
    · exact ⟨Nat.le_trans (by decide) low, Nat.le_trans high (by decide)⟩
    · exact ⟨Nat.le_trans (by decide) low, Nat.le_trans high (by decide)⟩
    · decide
    · decide
  unfold Text.isBlank
  simp only [Bool.or_eq_false_iff, Bool.and_eq_false_iff, decide_eq_false_iff_not,
    beq_eq_false_iff_ne]
  omega

theorem isRest_of_isSafe {s : String} (safe : isSafe s = true) :
    ∀ c ∈ s.toList, isRest c = true ∨ c = '\n' := by
  rcases Bool.or_eq_true_iff.1 safe with named | named
  · intro c member
    exact .inl (isRest_of_isName named c member)
  · intro c member
    unfold dropFinalNewline at named
    split at named
    · rename_i last
      obtain ⟨front, whole⟩ := List.getLast?_eq_some_iff.1 last
      rw [whole, List.dropLast_concat] at named
      rw [whole] at member
      rcases List.mem_append.1 member with inside | final
      · exact .inl (isRest_of_isName named c inside)
      · exact .inr (List.mem_singleton.1 final)
    · exact .inl (isRest_of_isName named c member)

theorem isSafe_of_IsSafe {s : String} (safe : IsSafe s) : isSafe s = true := by
  unfold isSafe
  rw [show isName s.toList = true from safe, Bool.true_or]

theorem ensure_of_IsSafe {name : String} (safe : IsSafe name) (what : String) :
    ensure (.text name) what = .ok name := by
  have sharp : ∀ c ∈ name.toList, Text.isBlank c = false :=
    fun c inside => isBlank_of_isRest (isRest_of_isName safe c inside)
  have trimmed : Text.trim name = name := by
    rw [Text.trim, Text.trimChars_eq_self (fun c first => sharp c (List.mem_of_mem_head? first))
      (fun c last => sharp c (List.mem_of_mem_getLast? last)), String.ofList_toList]
  have filled : name ≠ "" := by
    rintro rfl
    cases safe
  unfold ensure
  simp only [Value.text?, Option.getD_some, trimmed, filled, if_false, isSafe_of_IsSafe safe,
    if_true]

theorem ensureRelation_of_IsSafe {name : String} (safe : IsSafe name)
    (plain : '.' ∉ name.toList) : ensureRelation (.text name) = .ok name := by
  unfold ensureRelation
  rw [Outcome.bind_of_ok (ensure_of_IsSafe safe _), if_neg plain]

theorem ensure_isSafe {value : Value} {what name : String} (done : ensure value what = .ok name) :
    IsSafe name := by
  obtain ⟨_, trimmed, safe⟩ := ensure_eq_ok done
  rcases Bool.or_eq_true_iff.1 safe with named | named
  · exact named
  · have sharp : name.toList.getLast? ≠ some '\n' := by
      intro last
      have same : Text.trimChars name.toList = name.toList := by
        have whole := congrArg String.toList trimmed
        rwa [Text.trim, String.toList_ofList] at whole
      rw [← same] at last
      exact absurd (Text.not_isBlank_of_getLast_trimChars last) (by decide)
    rwa [dropFinalNewline, if_neg sharp] at named

theorem ensureRelation_eq_ok {value : Value} {name : String}
    (done : ensureRelation value = .ok name) : IsSafe name ∧ '.' ∉ name.toList := by
  obtain ⟨checked, named, done⟩ := Outcome.bind_eq_ok done
  split at done
  · cases done
  · rename_i plain
    cases done
    exact ⟨ensure_isSafe named, plain⟩

end Identifier

namespace Columns

theorem ensureNames_eq_ok {values : List Value} {names : List String}
    (done : ensureNames values = .ok names) :
    names.length = values.length ∧ ∀ name ∈ names, Identifier.IsSafe name := by
  induction values generalizing names with
  | nil =>
      cases done
      exact ⟨rfl, fun _ impossible => absurd impossible List.not_mem_nil⟩
  | cons value rest ih =>
      obtain ⟨first, named, done⟩ := Outcome.bind_eq_ok done
      obtain ⟨others, checked, done⟩ := Outcome.bind_eq_ok done
      cases done
      obtain ⟨length, safe⟩ := ih checked
      refine ⟨congrArg Nat.succ length, ?_⟩
      intro name member
      rcases List.mem_cons.1 member with rfl | inside
      · exact Identifier.ensure_isSafe named
      · exact safe name inside

/-- Columns that may be asked for: the wildcard alone, or some names, each once. -/
inductive Asked : Columns → Prop where
  | wildcard : Asked wildcard
  | names {names : List String} (some : names ≠ []) (once : names.Nodup)
      (safe : ∀ name ∈ names, Identifier.IsSafe name) : Asked (.listed (names.map Value.text))

theorem ensure_asked {value : Value} {relation : String} {columns : Columns}
    (done : ensure value relation = .ok columns) : Asked columns := by
  obtain ⟨items, _, done⟩ := Outcome.bind_eq_ok done
  unfold ofItems at done
  split at done
  · cases done
  · rename_i filled
    split at done
    · split at done
      · cases done
      · cases done
        exact .wildcard
    · obtain ⟨names, checked, done⟩ := Outcome.bind_eq_ok done
      cases done
      obtain ⟨length, safe⟩ := ensureNames_eq_ok checked
      refine .names ?_ (nodup_distinct names) (fun name inside => safe name (mem_distinct.1 inside))
      intro empty
      have none : names = [] := by
        cases names with
        | nil => rfl
        | cons first rest => exact absurd empty (List.cons_ne_nil _ _)
      rw [none] at length
      exact filled (List.isEmpty_iff_length_eq_zero.2 length.symm)

end Columns

theorem Query.requestedColumns_eq_ok {mode : RequestMode} {value : Value} {name : String}
    {columns : Columns} (done : requestedColumns mode value name = .ok columns) :
    (mode = .count ∧ columns = .listed []) ∨ (mode ≠ .count ∧ Columns.Asked columns) := by
  cases mode with
  | count =>
      cases done
      exact .inl ⟨rfl, rfl⟩
  | single => exact .inr ⟨by decide, Columns.ensure_asked done⟩
  | collection => exact .inr ⟨by decide, Columns.ensure_asked done⟩

end NestedSelect
