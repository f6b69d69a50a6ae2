/-!
UTF-8, strictly.

`decodeUtf8?` refuses overlong forms, surrogates, code points beyond the last plane and
sequences that are cut short. Bytes below 0x80 stand for themselves. Main statement: it takes what
`encodeUtf8` gives, and nothing else.
-/

namespace NestedSelect.Text

private def continuation? (byte : UInt8) : Option Nat :=
  if 0x80 ≤ byte.toNat && byte.toNat < 0xC0 then some (byte.toNat - 0x80) else none

private def scalar? (least code : Nat) : Option Char :=
  if least ≤ code && code.isValidChar then some (Char.ofNat code) else none

/-- Decode bytes to characters, or fail on the first that is no part of a shortest form. -/
def decodeUtf8? : List UInt8 → Option (List Char)
  | [] => some []
  | first :: rest =>
      let lead := first.toNat
      if lead < 0x80 then (decodeUtf8? rest).map (Char.ofNat lead :: ·)
      else if lead < 0xC0 then none
      else if lead < 0xE0 then
        match rest with
        | second :: rest => do
            let low ← continuation? second
            let c ← scalar? 0x80 ((lead - 0xC0) * 64 + low)
            (decodeUtf8? rest).map (c :: ·)
        | [] => none
      else if lead < 0xF0 then
        match rest with
        | second :: third :: rest => do
            let middle ← continuation? second
            let low ← continuation? third
            let c ← scalar? 0x800 (((lead - 0xE0) * 64 + middle) * 64 + low)
            (decodeUtf8? rest).map (c :: ·)
        | _ => none
      else if lead < 0xF8 then
        match rest with
        | second :: third :: fourth :: rest => do
            let high ← continuation? second
            let middle ← continuation? third
            let low ← continuation? fourth
            let c ← scalar? 0x10000 ((((lead - 0xF0) * 64 + high) * 64 + middle) * 64 + low)
            (decodeUtf8? rest).map (c :: ·)
        | _ => none
      else none

/-- The bytes of characters: the shortest form of each, one after another. -/
def encodeUtf8 (cs : List Char) : List UInt8 := cs.flatMap String.utf8EncodeChar

/-! ### Bytes that continue a form, and codes of characters -/

private theorem continuation?_eq_some_iff {byte : UInt8} {n : Nat} :
    continuation? byte = some n ↔ byte.toNat = n + 128 ∧ n < 64 := by
  unfold continuation?
  split
  · rename_i inside
    simp only [Bool.and_eq_true, decide_eq_true_eq] at inside
    rw [Option.some.injEq]
    omega
  · rename_i outside
    simp only [Bool.and_eq_true, decide_eq_true_eq] at outside
    constructor
    · nofun
    · omega

private theorem scalar?_eq_some_iff {least code : Nat} {c : Char} :
    scalar? least code = some c ↔ least ≤ code ∧ code = c.toNat := by
  have valid : c.toNat.isValidChar := c.valid
  unfold scalar?
  constructor
  · intro found
    split at found
    · rename_i inside
      simp only [Bool.and_eq_true, decide_eq_true_eq] at inside
      cases found
      refine ⟨inside.1, ?_⟩
      rw [Char.ofNat, dif_pos inside.2]
      rfl
    · cases found
  · rintro ⟨enough, rfl⟩
    simp [enough, valid]

private theorem toNat_ofNat_of_lt {n : Nat} (small : n < 256) : (UInt8.ofNat n).toNat = n := by
  rw [UInt8.toNat_ofNat']
  omega

private theorem continuation?_ofNat {n : Nat} (small : n < 64) :
    continuation? (UInt8.ofNat (n + 128)) = some n :=
  continuation?_eq_some_iff.2 ⟨toNat_ofNat_of_lt (by omega), small⟩

private theorem eq_ofNat {byte : UInt8} {n : Nat} (same : byte.toNat = n) :
    byte = UInt8.ofNat n := by
  rw [← same, UInt8.ofNat_toNat]

/-! ### The form of a character, by its length -/

private theorem form_one {c : Char} (most : c.toNat < 0x80) :
    String.utf8EncodeChar c = [UInt8.ofNat c.toNat] := by
  have code : c.val.toNat = c.toNat := rfl
  rw [String.utf8EncodeChar.eq_1, code, if_pos (by omega)]

private theorem form_two {c : Char} (least : 0x80 ≤ c.toNat) (most : c.toNat < 0x800) :
    String.utf8EncodeChar c =
      [UInt8.ofNat (c.toNat / 64 + 192), UInt8.ofNat (c.toNat % 64 + 128)] := by
  have code : c.val.toNat = c.toNat := rfl
  rw [String.utf8EncodeChar.eq_1, code, if_neg (by omega), if_pos (by omega),
    Nat.mod_eq_of_lt (b := 32) (by omega)]

private theorem form_three {c : Char} (least : 0x800 ≤ c.toNat) (most : c.toNat < 0x10000) :
    String.utf8EncodeChar c =
      [UInt8.ofNat (c.toNat / 4096 + 224), UInt8.ofNat (c.toNat / 64 % 64 + 128),
        UInt8.ofNat (c.toNat % 64 + 128)] := by
  have code : c.val.toNat = c.toNat := rfl
  rw [String.utf8EncodeChar.eq_1, code, if_neg (by omega), if_neg (by omega), if_pos (by omega),
    Nat.mod_eq_of_lt (b := 16) (by omega)]

private theorem form_four {c : Char} (least : 0x10000 ≤ c.toNat) :
    String.utf8EncodeChar c =
      [UInt8.ofNat (c.toNat / 262144 + 240), UInt8.ofNat (c.toNat / 4096 % 64 + 128),
        UInt8.ofNat (c.toNat / 64 % 64 + 128), UInt8.ofNat (c.toNat % 64 + 128)] := by
  have code : c.val.toNat = c.toNat := rfl
  have valid : c.toNat.isValidChar := c.valid
  rw [String.utf8EncodeChar.eq_1, code, if_neg (by omega), if_neg (by omega), if_neg (by omega),
    Nat.mod_eq_of_lt (b := 8) (by omega)]

/-! ### Decoding and encoding -/

theorem decodeUtf8?_char_append (c : Char) (rest : List UInt8) :
    decodeUtf8? (String.utf8EncodeChar c ++ rest) = (decodeUtf8? rest).map (c :: ·) := by
  have valid : c.toNat.isValidChar := c.valid
  have continued (n : Nat) : continuation? (UInt8.ofNat (n % 64 + 128)) = some (n % 64) :=
    continuation?_ofNat (Nat.mod_lt n (by decide))
  by_cases one : c.toNat < 0x80
  · have first : (UInt8.ofNat c.toNat).toNat = c.toNat := toNat_ofNat_of_lt (by omega)
    rw [form_one one, List.cons_append, List.nil_append, decodeUtf8?.eq_def]
    simp only [first, one, if_true, Char.ofNat_toNat]
  by_cases two : c.toNat < 0x800
  · have first : (UInt8.ofNat (c.toNat / 64 + 192)).toNat = c.toNat / 64 + 192 :=
      toNat_ofNat_of_lt (by omega)
    have whole : scalar? 0x80 ((c.toNat / 64 + 192 - 192) * 64 + c.toNat % 64) = some c :=
      scalar?_eq_some_iff.2 ⟨by omega, by omega⟩
    rw [form_two (by omega) two, List.cons_append, List.cons_append, List.nil_append,
      decodeUtf8?.eq_def]
    simp only [first]
    rw [if_neg (by omega), if_neg (by omega), if_pos (by omega)]
    simp only [continued, whole, Option.bind_eq_bind, Option.bind_some]
  by_cases three : c.toNat < 0x10000
  · have first : (UInt8.ofNat (c.toNat / 4096 + 224)).toNat = c.toNat / 4096 + 224 :=
      toNat_ofNat_of_lt (by omega)
    have whole : scalar? 0x800 (((c.toNat / 4096 + 224 - 224) * 64 + c.toNat / 64 % 64) * 64 +
        c.toNat % 64) = some c := scalar?_eq_some_iff.2 ⟨by omega, by omega⟩
    rw [form_three (by omega) three, List.cons_append, List.cons_append, List.cons_append,
      List.nil_append, decodeUtf8?.eq_def]
    simp only [first]
    rw [if_neg (by omega), if_neg (by omega), if_neg (by omega), if_pos (by omega)]
    simp only [continued, whole, Option.bind_eq_bind, Option.bind_some]
  · have first : (UInt8.ofNat (c.toNat / 262144 + 240)).toNat = c.toNat / 262144 + 240 :=
      toNat_ofNat_of_lt (by omega)
    have whole : scalar? 0x10000 ((((c.toNat / 262144 + 240 - 240) * 64 +
        c.toNat / 4096 % 64) * 64 + c.toNat / 64 % 64) * 64 + c.toNat % 64) = some c :=
      scalar?_eq_some_iff.2 ⟨by omega, by omega⟩
    rw [form_four (by omega), List.cons_append, List.cons_append, List.cons_append,
      List.cons_append, List.nil_append, decodeUtf8?.eq_def]
    simp only [first]
    rw [if_neg (by omega), if_neg (by omega), if_neg (by omega), if_neg (by omega),
      if_pos (by omega)]
    simp only [continued, whole, Option.bind_eq_bind, Option.bind_some]

theorem decodeUtf8?_encodeUtf8 (cs : List Char) : decodeUtf8? (encodeUtf8 cs) = some cs := by
  induction cs with
  | nil => rfl
  | cons c rest ih =>
      have unfolded : encodeUtf8 (c :: rest) = String.utf8EncodeChar c ++ encodeUtf8 rest := rfl
      rw [unfolded, decodeUtf8?_char_append, ih, Option.map_some]

private theorem encodeUtf8_of_form {c : Char} {cs : List Char} {form rest : List UInt8}
    (ih : ∀ {cs}, decodeUtf8? rest = some cs → rest = encodeUtf8 cs)
    (formed : String.utf8EncodeChar c = form)
    (decoded : (decodeUtf8? rest).map (c :: ·) = some cs) : form ++ rest = encodeUtf8 cs := by
  obtain ⟨later, read, rfl⟩ := Option.map_eq_some_iff.1 decoded
  have unfolded : encodeUtf8 (c :: later) = String.utf8EncodeChar c ++ encodeUtf8 later := rfl
  rw [unfolded, formed, ← ih read]

theorem eq_encodeUtf8_of_decodeUtf8? {data : List UInt8} {cs : List Char}
    (decoded : decodeUtf8? data = some cs) : data = encodeUtf8 cs := by
  fun_induction decodeUtf8? data generalizing cs with
  | case1 =>
      cases decoded
      rfl
  | case2 first rest lead short =>
      rename_i ih
      have code : (Char.ofNat lead).toNat = lead := by
        rw [Char.ofNat, dif_pos (.inl (by omega))]
        rfl
      have formed : String.utf8EncodeChar (Char.ofNat lead) = [first] := by
        rw [form_one (by omega), code, UInt8.ofNat_toNat]
      exact encodeUtf8_of_form ih formed decoded
  | case4 first lead _ _ _ second rest =>
      rename_i ih
      obtain ⟨low, lowRead, decoded⟩ := Option.bind_eq_some_iff.1 decoded
      obtain ⟨c, coded, decoded⟩ := Option.bind_eq_some_iff.1 decoded
      have lowByte := continuation?_eq_some_iff.1 lowRead
      have code := scalar?_eq_some_iff.1 coded
      have formed : String.utf8EncodeChar c = [first, second] := by
        rw [form_two (by omega) (by omega),
          eq_ofNat (show first.toNat = c.toNat / 64 + 192 by omega),
          eq_ofNat (show second.toNat = c.toNat % 64 + 128 by omega)]
      exact encodeUtf8_of_form ih formed decoded
  | case6 first lead _ _ _ _ second third rest =>
      rename_i ih
      obtain ⟨middle, middleRead, decoded⟩ := Option.bind_eq_some_iff.1 decoded
      obtain ⟨low, lowRead, decoded⟩ := Option.bind_eq_some_iff.1 decoded
      obtain ⟨c, coded, decoded⟩ := Option.bind_eq_some_iff.1 decoded
      have middleByte := continuation?_eq_some_iff.1 middleRead
      have lowByte := continuation?_eq_some_iff.1 lowRead
      have code := scalar?_eq_some_iff.1 coded
      have formed : String.utf8EncodeChar c = [first, second, third] := by
        rw [form_three (by omega) (by omega),
          eq_ofNat (show first.toNat = c.toNat / 4096 + 224 by omega),
          eq_ofNat (show second.toNat = c.toNat / 64 % 64 + 128 by omega),
          eq_ofNat (show third.toNat = c.toNat % 64 + 128 by omega)]
      exact encodeUtf8_of_form ih formed decoded
  | case8 first lead _ _ _ _ _ second third fourth rest =>
      rename_i ih
      obtain ⟨high, highRead, decoded⟩ := Option.bind_eq_some_iff.1 decoded
      obtain ⟨middle, middleRead, decoded⟩ := Option.bind_eq_some_iff.1 decoded
      obtain ⟨low, lowRead, decoded⟩ := Option.bind_eq_some_iff.1 decoded
      obtain ⟨c, coded, decoded⟩ := Option.bind_eq_some_iff.1 decoded
      have highByte := continuation?_eq_some_iff.1 highRead
      have middleByte := continuation?_eq_some_iff.1 middleRead
      have lowByte := continuation?_eq_some_iff.1 lowRead
      have code := scalar?_eq_some_iff.1 coded
      have formed : String.utf8EncodeChar c = [first, second, third, fourth] := by
        rw [form_four (by omega), eq_ofNat (show first.toNat = c.toNat / 262144 + 240 by omega),
          eq_ofNat (show second.toNat = c.toNat / 4096 % 64 + 128 by omega),
          eq_ofNat (show third.toNat = c.toNat / 64 % 64 + 128 by omega),
          eq_ofNat (show fourth.toNat = c.toNat % 64 + 128 by omega)]
      exact encodeUtf8_of_form ih formed decoded
  | case3 | case5 | case7 | case9 | case10 => cases decoded

theorem decodeUtf8?_eq_some_iff {data : List UInt8} {cs : List Char} :
    decodeUtf8? data = some cs ↔ data = encodeUtf8 cs := by
  constructor
  · exact eq_encodeUtf8_of_decodeUtf8?
  · rintro rfl
    exact decodeUtf8?_encodeUtf8 cs

end NestedSelect.Text
