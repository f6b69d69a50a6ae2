import NestedSelect.Hydration.Hydrate
import NestedSelect.Proofs.Query.Work

/-!
What can be read of the value of a relation.

A database delivers JSON as a text, as the UTF-8 bytes of a text, or read already. Only two values
cannot be read at all: bytes that are no UTF-8 where JSON is wanted, and an infinite number where a
count is wanted. All other values become something, be it what they were.
-/

namespace NestedSelect.Hydration

/-- The value is the text, or the bytes of it. -/
inductive Spells : Value → String → Prop where
  | text (s : String) : Spells (.text s) s
  | bytes (s : String) : Spells (.bytes (Text.encodeUtf8 s.toList)) s

/-- A value that a request of a mode fails on. -/
inductive Unreadable : RequestMode → Value → Prop where
  | bytes {mode : RequestMode} {data : List UInt8} (nested : mode ≠ .count)
      (illFormed : ∀ s : String, data ≠ Text.encodeUtf8 s.toList) : Unreadable mode (.bytes data)
  | infinite {x : Number.Binary64} {negative : Bool} (endless : x.meaning = .infinite negative) :
      Unreadable .count (.float x)

def Decoded.collection : Decoded → Value
  | .value .null => .list []
  | .value v => v
  | .undecoded _ => .list []

variable {raw value : Value} {mode : RequestMode}

/-! ### JSON -/

theorem decodeJson_of_spells {s : String} (spells : Spells raw s) :
    decodeJson raw = .ok (decodeText s) := by
  cases spells with
  | text => rfl
  | bytes => simp only [decodeJson, Text.decodeUtf8?_encodeUtf8, String.ofList_toList]

theorem decodeText_of_unread {s : String} (unread : Json.read? s = none) :
    decodeText s = .undecoded (.text s) := by
  rw [decodeText, unread]

theorem decodeText_of_read {s : String} (read : Json.read? s = some value) :
    decodeText s = .value value := by
  rw [decodeText, read]

theorem exists_spells_iff {data : List UInt8} :
    (∃ s : String, data = Text.encodeUtf8 s.toList) ↔ (Text.decodeUtf8? data).isSome = true := by
  rw [Option.isSome_iff_exists]
  constructor
  · rintro ⟨s, spelled⟩
    exact ⟨s.toList, Text.decodeUtf8?_eq_some_iff.2 spelled⟩
  · rintro ⟨cs, decoded⟩
    refine ⟨String.ofList cs, ?_⟩
    rw [String.toList_ofList]
    exact Text.decodeUtf8?_eq_some_iff.1 decoded

theorem exists_decodeJson_eq_ok_iff_readable (nested : mode ≠ .count) :
    (∃ decoded, decodeJson raw = .ok decoded) ↔ ¬ Unreadable mode raw := by
  rw [exists_decodeJson_eq_ok_iff]
  constructor
  · intro wellFormed unreadable
    cases unreadable with
    | infinite => exact nested rfl
    | bytes _ illFormed =>
        obtain ⟨s, spelled⟩ := exists_spells_iff.2 (wellFormed _ rfl)
        exact illFormed s spelled
  · intro readable data isBytes
    apply exists_spells_iff.1
    by_cases spelled : ∃ s : String, data = Text.encodeUtf8 s.toList
    · exact spelled
    · rw [isBytes] at readable
      exact absurd (.bytes nested (fun s same => spelled ⟨s, same⟩)) readable

/-! ### Counts -/

theorem asCount_null : asCount .null = .ok (.int 0) := rfl

theorem asCount_of_toInt {n : Int} (whole : raw.toInt = .ok n) : asCount raw = .ok (.int n) := by
  cases raw with
  | null => cases whole
  | _ => simp only [asCount, whole]

theorem toInt_eq_tooLarge_iff :
    raw.toInt = misused .tooLarge ↔ Unreadable .count raw := by
  constructor
  · intro tooLarge
    cases raw with
    | float x =>
        cases meaning : x.meaning with
        | infinite negative => exact .infinite meaning
        | notANumber => simp [Value.toInt, Value.wholePart, meaning, misused] at tooLarge
        | finite => simp [Value.toInt, Value.wholePart, meaning, misused] at tooLarge
    | text s =>
        cases read : Text.integer? s <;> simp [Value.toInt, read, misused] at tooLarge
    | bytes data =>
        cases read : Text.integerOfBytes? data <;> simp [Value.toInt, read, misused] at tooLarge
    | _ => simp [Value.toInt, misused] at tooLarge
  · intro unreadable
    cases unreadable with
    | bytes nested => exact absurd rfl nested
    | infinite endless => simp only [Value.toInt, Value.wholePart, endless]

theorem asCount_of_not_toInt (given : raw ≠ .null) (none : ∀ n, raw.toInt ≠ .ok n)
    (readable : ¬ Unreadable .count raw) : asCount raw = .ok raw := by
  have bounded : raw.toInt ≠ misused .tooLarge := fun tooLarge =>
    readable (toInt_eq_tooLarge_iff.1 tooLarge)
  cases read : raw.toInt with
  | ok n => exact absurd read (none n)
  | error fault =>
      unfold asCount
      split
      · exact absurd rfl given
      · rw [read]
        split
        · rename_i same
          cases same
        · rename_i same
          cases same
          exact absurd read bounded
        · rfl

theorem asCount_of_unreadable (unreadable : Unreadable .count raw) :
    asCount raw = misused .tooLarge := by
  have tooLarge := toInt_eq_tooLarge_iff.2 unreadable
  cases unreadable with
  | bytes nested => exact absurd rfl nested
  | infinite endless => simp only [asCount, tooLarge, misused]

theorem exists_asCount_eq_ok_iff :
    (∃ value, asCount raw = .ok value) ↔ ¬ Unreadable .count raw := by
  constructor
  · rintro ⟨value, counted⟩ unreadable
    rw [asCount_of_unreadable unreadable] at counted
    cases counted
  · intro readable
    by_cases absent : raw = .null
    · rw [absent]
      exact ⟨_, asCount_null⟩
    by_cases number : ∃ n, raw.toInt = .ok n
    · obtain ⟨n, whole⟩ := number
      exact ⟨_, asCount_of_toInt whole⟩
    · exact ⟨raw, asCount_of_not_toInt absent (fun n whole => number ⟨n, whole⟩) readable⟩

/-! ### What a request makes of a value -/

theorem decodeRelation_single (raw : Value) :
    decodeRelation .single raw = (decodeJson raw).map Decoded.payload := by
  unfold decodeRelation
  cases decodeJson raw <;> rfl

theorem decodeRelation_collection (raw : Value) :
    decodeRelation .collection raw = (decodeJson raw).map Decoded.collection := by
  unfold decodeRelation
  cases decodeJson raw with
  | error fault => rfl
  | ok decoded =>
      cases decoded with
      | undecoded v => rfl
      | value v => cases v <;> rfl

theorem exists_decodeRelation_eq_ok_iff :
    (∃ value, decodeRelation mode raw = .ok value) ↔ ¬ Unreadable mode raw := by
  cases mode with
  | count => exact exists_asCount_eq_ok_iff
  | single =>
      rw [decodeRelation_single, Outcome.exists_map_eq_ok_iff]
      exact exists_decodeJson_eq_ok_iff_readable (by decide)
  | collection =>
      rw [decodeRelation_collection, Outcome.exists_map_eq_ok_iff]
      exact exists_decodeJson_eq_ok_iff_readable (by decide)

theorem collection_ne_null (decoded : Decoded) : decoded.collection ≠ .null := by
  cases decoded with
  | undecoded v => nofun
  | value v => cases v <;> nofun

theorem decodeRelation_collection_ne_null
    (done : decodeRelation .collection raw = .ok value) : value ≠ .null := by
  rw [decodeRelation_collection] at done
  obtain ⟨decoded, _, rfl⟩ := Outcome.map_eq_ok done
  exact collection_ne_null decoded

end NestedSelect.Hydration
