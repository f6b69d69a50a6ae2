import NestedSelect.Hydration.Decoding
import NestedSelect.Proofs.Calendar.RoundTrip

/-!
Values in the types of their columns.

A value is made into one of the type of its column or is handed back, so it is in its final form
after once. Main statement: what dates and points in time are written as becomes what they were
(`coerce_restores_times`); an offset has to be zero or a second at least to come back
(`coerce_zoned_iso_iff`).
-/

namespace NestedSelect.Hydration

open Calendar (Date DateTime Offset)

/-! ### What a value becomes -/

/-- Values that coercion makes for a type of columns. Other types take values as they come. -/
inductive Suits : ColumnType → Value → Prop where
  | zoned (d : DateTime) : Suits (.datetime true) (.datetime d)
  | unzoned {d : DateTime} (none : d.offset = none) : Suits (.datetime false) (.datetime d)
  | date (d : Date) : Suits .date (.date d)
  | truth (b : Bool) : Suits .boolean (.bool b)

theorem Suits.coerce_eq {type : ColumnType} {value : Value} (suits : Suits type value) :
    coerce (some type) value = value := by
  cases suits <;> rfl

theorem coerceDateTime_cases (zoned : Bool) (s : String) :
    coerceDateTime zoned s = .text s ∨ Suits (.datetime zoned) (coerceDateTime zoned s) := by
  unfold coerceDateTime
  cases DateTime.ofIso? (spellZulu s) with
  | none => exact .inl rfl
  | some d =>
      cases zoned with
      | true => exact .inr (.zoned d)
      | false => exact .inr (.unzoned rfl)

theorem coerceDate_cases (s : String) :
    coerceDate s = .text s ∨ Suits .date (coerceDate s) := by
  unfold coerceDate
  cases Date.ofIso? (String.ofList (s.toList.take 10)) with
  | none => exact .inl rfl
  | some d => exact .inr (.date d)

theorem coerce_cases (type : Option ColumnType) (value : Value) :
    coerce type value = value ∨ ∃ t, type = some t ∧ Suits t (coerce type value) := by
  unfold coerce
  split
  · rename_i zoned s
    exact (coerceDateTime_cases zoned s).imp_right (fun suits => ⟨_, rfl, suits⟩)
  · rename_i s
    exact (coerceDate_cases s).imp_right (fun suits => ⟨_, rfl, suits⟩)
  · exact .inr ⟨_, rfl, .truth _⟩
  · exact .inl rfl

theorem coerce_coerce (type : Option ColumnType) (value : Value) :
    coerce type (coerce type value) = coerce type value := by
  rcases coerce_cases type value with same | ⟨t, rfl, suits⟩
  · rw [same, same]
  · exact suits.coerce_eq

/-! ### What texts become -/

theorem spellZulu_of_ne {s : String} (other : s.toList.getLast? ≠ some 'Z') : spellZulu s = s :=
  if_neg other

theorem coerceDateTime_iso (zoned : Bool) (d : DateTime) (separator : Char) :
    coerceDateTime zoned (String.ofList (d.isoChars separator)) =
      .datetime (if zoned then { d with offset := d.offset.map Offset.asRead }
        else d.withoutOffset) := by
  have whole : (String.ofList (d.isoChars separator)).toList.getLast? ≠ some 'Z' := by
    rw [String.toList_ofList]
    exact d.getLast?_isoChars_ne separator
  unfold coerceDateTime
  rw [spellZulu_of_ne whole, d.ofIso?_isoChars separator]
  rfl

theorem asRead_eq_self_iff (o : Offset) :
    o.asRead = o ↔ o.microseconds = 0 ∨ 1000000 ≤ o.microseconds.natAbs := by
  unfold Offset.asRead
  by_cases small : o.microseconds.natAbs < 1000000
  · rw [if_pos small]
    constructor
    · intro same
      exact .inl (congrArg Offset.microseconds same).symm
    · rintro (zero | large)
      · cases o
        cases zero
        rfl
      · omega
  · rw [if_neg small]
    exact iff_of_true rfl (.inr (Nat.le_of_not_lt small))

theorem coerce_zoned_iso_iff (d : DateTime) (separator : Char) :
    coerce (some (.datetime true)) (.text (String.ofList (d.isoChars separator))) = .datetime d ↔
      ∀ o ∈ d.offset, o.microseconds = 0 ∨ 1000000 ≤ o.microseconds.natAbs := by
  have read : coerce (some (.datetime true)) (.text (String.ofList (d.isoChars separator))) =
      .datetime { d with offset := d.offset.map Offset.asRead } :=
    coerceDateTime_iso true d separator
  obtain ⟨date, time, offset⟩ := d
  rw [read]
  cases offset with
  | none =>
      refine iff_of_true rfl ?_
      intro o inside
      cases inside
  | some o =>
      simp only [Option.map_some, Value.datetime.injEq, DateTime.mk.injEq, Option.some.injEq,
        true_and, Option.mem_some, forall_eq', asRead_eq_self_iff]

theorem coerce_date_iso (d : Date) (u : String) :
    coerce (some .date) (.text (d.iso ++ u)) = .date d := by
  have front : String.ofList ((d.iso ++ u).toList.take 10) = d.iso := by
    rw [String.toList_append, Date.iso, String.toList_ofList, List.take_left' d.length_isoChars]
  change coerceDate (d.iso ++ u) = .date d
  unfold coerceDate
  rw [front, d.ofIso?_iso]

/-- What points in time are written as, with any character between date and time, becomes the point
in time if its offset is one of whole seconds, and for columns without offsets the point in time
without its own. A text that starts like a date becomes the date. Whatever the type and the value,
coercion gives the value itself or one that suits the type, and does nothing to it the second
time. -/
theorem coerce_restores_times :
    (∀ (d : DateTime) (separator : Char), (∀ o ∈ d.offset, 1000000 ∣ o.microseconds) →
      coerce (some (.datetime true)) (.text (String.ofList (d.isoChars separator))) =
        .datetime d) ∧
    (∀ (d : DateTime) (separator : Char),
      coerce (some (.datetime false)) (.text (String.ofList (d.isoChars separator))) =
        .datetime d.withoutOffset) ∧
    (∀ (d : Date) (u : String), coerce (some .date) (.text (d.iso ++ u)) = .date d) ∧
    ∀ (type : Option ColumnType) (value : Value),
      (coerce type value = value ∨ ∃ t, type = some t ∧ Suits t (coerce type value)) ∧
        coerce type (coerce type value) = coerce type value := by
  refine ⟨?_, ?_, coerce_date_iso, fun type value => ⟨coerce_cases type value, ?_⟩⟩
  · intro d separator whole
    refine (coerce_zoned_iso_iff d separator).2 ?_
    intro o inside
    have divides := whole o inside
    omega
  · intro d separator
    exact coerceDateTime_iso false d separator
  · exact coerce_coerce type value

theorem coerce_restores_leap_day :
    let d : DateTime := ⟨⟨2024, 2, 29, by decide⟩, ⟨23, 59, 59, 999999, by decide⟩,
      some ⟨-19801000000, by decide⟩⟩
    d.iso = "2024-02-29T23:59:59.999999-05:30:01" ∧
      coerce (some (.datetime true)) (.text d.iso) = .datetime d := by
  intro d
  refine ⟨by decide +kernel, coerce_restores_times.1 d 'T' ?_⟩
  intro o inside
  cases inside
  decide

end NestedSelect.Hydration
