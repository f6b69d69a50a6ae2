import NestedSelect.Calendar.IsoReader
import NestedSelect.Calendar.IsoText

/-!
Reading undoes writing.

A number is written with a fixed count of digits and read with the same count, so each field is
read back where it was written, whatever follows. Main statements: a date is read back from its
text (`Date.ofIso?_iso`), and so is a point in time, whichever character stands between date
and time (`DateTime.ofIso?_isoChars`). Offsets of less than a second are the exception: they read as
universal time.
-/

namespace NestedSelect.Calendar

/-! ### Numbers -/

theorem asciiDigit?_of_isDigit {c : Char} (digit : c.isDigit = true) :
    asciiDigit? c = some (c.toNat - '0'.toNat) := if_pos digit

theorem go_digits {digits : List Char} (all : ∀ c ∈ digits, c.isDigit = true) (number : Nat)
    (rest : List Char) :
    fixedNumber?.go digits.length number (digits ++ rest) =
      some (Nat.ofDigitChars 10 digits number, rest) := by
  induction digits generalizing number with
  | nil => rfl
  | cons c others ih =>
      obtain ⟨digit, remaining⟩ := List.forall_mem_cons.1 all
      rw [List.length_cons, List.cons_append, fixedNumber?.go, asciiDigit?_of_isDigit digit,
        Option.bind_some, ih remaining, Nat.ofDigitChars_cons]

theorem isDigit_of_mem_padded {width n : Nat} {c : Char} (inside : c ∈ padded width n) :
    c.isDigit = true := by
  rcases List.mem_append.1 inside with zero | digit
  · rw [List.eq_of_mem_replicate zero]
    rfl
  · exact Nat.isDigit_of_mem_toDigits (by decide) (by decide) digit

theorem length_padded {width n : Nat} (some : 0 < width) (fits : n < Number.tenTo width) :
    (padded width n).length = width := by
  have short : (Nat.toDigits 10 n).length ≤ width :=
    (Nat.length_toDigits_le_iff (by decide) some).2 fits
  simp only [padded, List.length_append, List.length_replicate]
  omega

theorem ofDigitChars_padded (width n : Nat) : Nat.ofDigitChars 10 (padded width n) 0 = n := by
  unfold padded
  rw [Nat.ofDigitChars_append, Nat.ofDigitChars_replicate_zero, Nat.mul_zero,
    Nat.ofDigitChars_ten_toDigits]

theorem fixedNumber?_padded {width n : Nat} (some : 0 < width) (fits : n < Number.tenTo width)
    (rest : List Char) : fixedNumber? width (padded width n ++ rest) = .some (n, rest) := by
  have all : ∀ c ∈ padded width n, c.isDigit = true := fun _ => isDigit_of_mem_padded
  have read := go_digits all 0 rest
  rwa [length_padded some fits, ofDigitChars_padded] at read

theorem padded_ne_nil {width n : Nat} : padded width n ≠ [] := by
  intro empty
  have none := congrArg List.length (List.append_eq_nil_iff.1 empty).2
  have some : 0 < (Nat.toDigits 10 n).length := Nat.length_toDigits_pos
  rw [none] at some
  exact absurd some (by decide)

theorem head?_padded_ne {width n : Nat} {mark : Char} (apart : mark.isDigit = false)
    (rest : List Char) : (padded width n ++ rest).head? ≠ some mark := by
  cases written : padded width n with
  | nil => exact absurd written padded_ne_nil
  | cons c others =>
      have first : c ∈ padded width n := by
        rw [written]
        exact List.mem_cons_self
      have digit : c.isDigit = true := isDigit_of_mem_padded first
      intro same
      rw [Option.some.inj same, apart] at digit
      cases digit

/-! ### Dates -/

namespace Date

variable (d : Date)

theorem year_fits : d.year < Number.tenTo 4 := Nat.lt_succ_of_le d.exists_.2.1

theorem month_fits : d.month < Number.tenTo 2 :=
  Nat.lt_of_le_of_lt d.exists_.2.2.2.1 (by decide)

theorem day_fits : d.day < Number.tenTo 2 := by
  have last : daysInMonth d.year d.month ≤ 31 := by
    unfold daysInMonth
    split
    · split <;> decide
    · split <;> decide
  exact Nat.lt_of_le_of_lt (Nat.le_trans d.exists_.2.2.2.2.2 last) (by decide)

theorem length_isoChars : d.isoChars.length = 10 := by
  simp only [isoChars, List.length_append, List.length_cons, length_padded (by decide) d.year_fits,
    length_padded (by decide) d.month_fits, length_padded (by decide) d.day_fits]

theorem isoChars_append (rest : List Char) :
    d.isoChars ++ rest =
      padded 4 d.year ++ ('-' :: (padded 2 d.month ++ ('-' :: (padded 2 d.day ++ rest)))) := by
  simp only [isoChars, List.append_assoc, List.cons_append]

theorem readDate?_isoChars (length : Nat) (rest : List Char) :
    readDate? length (d.isoChars ++ rest) = some d := by
  have year := fixedNumber?_padded (by decide) d.year_fits
  have month := fixedNumber?_padded (by decide) d.month_fits
  have day := fixedNumber?_padded (by decide) d.day_fits
  have noWeek (others : List Char) :
      ((padded 2 d.month ++ others).head? == some 'W') = false :=
    beq_eq_false_iff_ne.2 (head?_padded_ne (by decide) others)
  have hyphen (others : List Char) : dropHyphen? ('-' :: others) = some others := rfl
  have valid : ofYmd? d.year d.month d.day = some d := dif_pos d.exists_
  rw [isoChars_append]
  simp only [readDate?, year, noWeek, month, day, hyphen, valid, Option.bind_eq_bind,
    Option.bind_some, List.head?_cons, beq_self_eq_true, if_true, List.tail_cons,
    Bool.false_eq_true, if_false]

end Date

/-! ### Clocks

A clock is read field by field. What follows the text is given along with it, since a text may end
where an offset starts. -/

namespace TimeOfDay

variable (t : TimeOfDay)

theorem hour_fits : t.hour < Number.tenTo 2 := Nat.lt_trans t.exists_.1 (by decide)

theorem minute_fits : t.minute < Number.tenTo 2 := Nat.lt_trans t.exists_.2.1 (by decide)

theorem second_fits : t.second < Number.tenTo 2 := Nat.lt_trans t.exists_.2.2.1 (by decide)

end TimeOfDay

variable {follow : Char} {n : Nat} {clock : Clock}

theorem readFields?_colon {fields : Nat} {colons : Bool} (known : fields = 2 ∨ colons = true)
    (fits : n < Number.tenTo 2) {rest : List Char} (more : rest ≠ []) :
    readFields? follow (fields + 1) colons clock (padded 2 n ++ ':' :: rest) =
      readFields? follow fields true (setField clock (2 - fields) n) rest := by
  have read := fixedNumber?_padded (by decide) fits (':' :: rest)
  have long : ¬ (':' :: rest).length ≤ 1 := by
    have filled : 0 < rest.length := List.length_pos_iff.2 more
    rw [List.length_cons]
    omega
  have separated : (if (fields == 2) = true then true else colons) = true := by
    rcases known with rfl | rfl
    · rfl
    · split <;> rfl
  simp only [readFields?, read, Option.bind_eq_bind, Option.bind_some, List.head?_cons,
    Option.getD_some, long, if_false, beq_self_eq_true, separated, Bool.and_self, if_true,
    List.tail_cons]

theorem readFields?_last {fields : Nat} {colons : Bool} (fits : n < Number.tenTo 2) :
    readFields? follow (fields + 1) colons clock (padded 2 n) =
      some (setField clock (2 - fields) n, follow != endMark) := by
  have read := fixedNumber?_padded (by decide) fits []
  rw [List.append_nil] at read
  simp [readFields?, read]

theorem readFraction?_padded (fits : n < Number.tenTo 6) :
    readFraction? follow clock (padded 6 n) =
      some ({ clock with microsecond := n }, follow != endMark) := by
  have read := fixedNumber?_padded (by decide) fits []
  rw [List.append_nil] at read
  simp [readFraction?, length_padded (by decide) fits, read]

theorem readFields?_decimals {microsecond : Nat} (fits : n < Number.tenTo 2)
    (small : microsecond < Number.tenTo 6) (unset : clock.microsecond = 0) :
    readFields? follow 1 true clock (padded 2 n ++ decimals microsecond) =
      some ({ clock with second := n, microsecond := microsecond }, follow != endMark) := by
  by_cases none : microsecond = 0
  · have short : padded 2 n ++ decimals microsecond = padded 2 n := by
      rw [decimals, none]
      exact List.append_nil _
    rw [short, readFields?_last fits, none]
    cases clock
    cases unset
    rfl
  · have point : decimals microsecond = '.' :: padded 6 microsecond := by
      simp [decimals, none]
    have read := fixedNumber?_padded (by decide) fits ('.' :: padded 6 microsecond)
    have long : ¬ ('.' :: padded 6 microsecond).length ≤ 1 := by
      rw [List.length_cons, length_padded (by decide) small]
      decide
    rw [point]
    simp only [readFields?, read, Option.bind_eq_bind, Option.bind_some, List.head?_cons,
      Option.getD_some, long, if_false, List.tail_cons, readFraction?_padded small]
    rfl

section

variable {hour minute second microsecond : Nat} (hourFits : hour < Number.tenTo 2)
  (minuteFits : minute < Number.tenTo 2)

include hourFits minuteFits

theorem readClock?_seconds (secondFits : second < Number.tenTo 2)
    (small : microsecond < Number.tenTo 6) :
    readClock? follow (padded 2 hour ++ ':' :: (padded 2 minute ++
        ':' :: (padded 2 second ++ decimals microsecond))) =
      some (⟨hour, minute, second, microsecond⟩, follow != endMark) := by
  have filled (width n : Nat) (rest : List Char) : padded width n ++ rest ≠ [] :=
    fun empty => padded_ne_nil (List.append_eq_nil_iff.1 empty).1
  rw [readClock?, readFields?_colon (.inl rfl) hourFits (filled _ _ _),
    readFields?_colon (.inr rfl) minuteFits (filled _ _ _),
    readFields?_decimals secondFits small rfl]
  rfl

theorem readClock?_minutes :
    readClock? follow (padded 2 hour ++ ':' :: padded 2 minute) =
      some (⟨hour, minute, 0, 0⟩, follow != endMark) := by
  rw [readClock?, readFields?_colon (.inl rfl) hourFits padded_ne_nil,
    readFields?_last minuteFits]
  rfl

end

theorem TimeOfDay.readClock?_isoChars (t : TimeOfDay) :
    readClock? follow t.isoChars =
      some (⟨t.hour, t.minute, t.second, t.microsecond⟩, follow != endMark) := by
  have whole : t.isoChars = padded 2 t.hour ++ ':' :: (padded 2 t.minute ++
      ':' :: (padded 2 t.second ++ decimals t.microsecond)) := by
    simp only [isoChars, List.append_assoc, List.cons_append]
  rw [whole, readClock?_seconds t.hour_fits t.minute_fits t.second_fits t.exists_.2.2.2]

/-! ### Offsets -/

theorem Clock.seconds_split (seconds microsecond : Nat) :
    Clock.seconds ⟨seconds / 3600, seconds / 60 % 60, seconds % 60, microsecond⟩ = seconds := by
  change seconds / 3600 * 3600 + seconds / 60 % 60 * 60 + seconds % 60 = seconds
  omega

namespace Offset

/-- What the text of an offset reads as. An offset of less than a second reads as universal
time. -/
def asRead (o : Offset) : Offset := if o.microseconds.natAbs < 1000000 then universal else o

def sign (o : Offset) : Char := if o.microseconds < 0 then '-' else '+'

theorem readClock?_isoChars (o : Offset) :
    let seconds := o.microseconds.natAbs / 1000000
    ∃ text, o.isoChars = o.sign :: text ∧
      readClock? endMark text =
        some (⟨seconds / 3600, seconds / 60 % 60, seconds % 60, o.microseconds.natAbs % 1000000⟩,
          false) := by
  intro seconds
  have below : o.microseconds.natAbs < 86400000000 := o.belowDay
  have hourFits : seconds / 3600 < Number.tenTo 2 := by
    change _ < 100
    omega
  have minuteFits : seconds / 60 % 60 < Number.tenTo 2 :=
    Nat.lt_trans (Nat.mod_lt _ (by decide)) (by decide)
  have secondFits : seconds % 60 < Number.tenTo 2 :=
    Nat.lt_trans (Nat.mod_lt _ (by decide)) (by decide)
  have small : o.microseconds.natAbs % 1000000 < Number.tenTo 6 := Nat.mod_lt _ (by decide)
  -- seconds are left out only if there are no decimals either
  by_cases short : seconds % 60 = 0 ∧ o.microseconds.natAbs % 1000000 = 0
  · obtain ⟨noSecond, noDecimals⟩ := short
    refine ⟨padded 2 (seconds / 3600) ++ ':' :: padded 2 (seconds / 60 % 60), ?_, ?_⟩
    · have none : (o.microseconds.natAbs / 1000000 % 60 == 0 &&
          o.microseconds.natAbs % 1000000 == 0) = true := by
        rw [show o.microseconds.natAbs / 1000000 % 60 = 0 from noSecond, noDecimals]
        rfl
      simp only [isoChars, none, if_true, List.append_nil, List.cons_append]
      rfl
    · rw [readClock?_minutes hourFits minuteFits, noSecond, noDecimals]
      rfl
  · refine ⟨_, ?_, readClock?_seconds hourFits minuteFits secondFits small⟩
    have some : (o.microseconds.natAbs / 1000000 % 60 == 0 &&
        o.microseconds.natAbs % 1000000 == 0) = false := by
      rw [Bool.eq_false_iff]
      intro both
      obtain ⟨noSecond, noDecimals⟩ := Bool.and_eq_true_iff.1 both
      exact short ⟨beq_iff_eq.1 noSecond, beq_iff_eq.1 noDecimals⟩
    simp only [isoChars, some, Bool.false_eq_true, if_false, List.append_assoc, List.cons_append]
    rfl

theorem signed_natAbs (o : Offset) :
    (if (o.sign == '-') = true then -(o.microseconds.natAbs : Int) else o.microseconds.natAbs) =
      o.microseconds := by
  unfold sign
  by_cases west : o.microseconds < 0
  · rw [if_pos west, if_pos (beq_self_eq_true '-')]
    omega
  · rw [if_neg west, if_neg (by decide)]
    omega

theorem readOffset?_isoChars (o : Offset) :
    ∃ text, o.isoChars = o.sign :: text ∧ readOffset? o.sign text = some o.asRead := by
  obtain ⟨text, written, read⟩ := readClock?_isoChars o
  refine ⟨text, written, ?_⟩
  have unequal : (o.sign == 'Z') = false := by
    unfold sign
    split <;> rfl
  simp only [readOffset?, unequal, Bool.false_eq_true, if_false, read, Option.bind_eq_bind,
    Option.bind_some, Clock.seconds_split]
  by_cases small : o.microseconds.natAbs < 1000000
  · have none : o.microseconds.natAbs / 1000000 = 0 := Nat.div_eq_of_lt small
    rw [none, asRead, if_pos small]
    rfl
  · have some : (o.microseconds.natAbs / 1000000 == 0) = false := by
      rw [beq_eq_false_iff_ne]
      omega
    have total : ((o.microseconds.natAbs / 1000000 : Nat) : Int) * 1000000 +
        ((o.microseconds.natAbs % 1000000 : Nat) : Int) = o.microseconds.natAbs := by
      omega
    rw [asRead, if_neg small]
    simp only [some, Bool.false_eq_true, if_false, total, signed_natAbs]
    exact dif_pos o.belowDay

end Offset

/-! ### Times with their offsets -/

def isClockChar (c : Char) : Bool := c.isDigit || c == ':' || c == '.'

theorem isClockChar_of_mem_padded {width n : Nat} {c : Char} (inside : c ∈ padded width n) :
    isClockChar c = true := by
  rw [isClockChar, isDigit_of_mem_padded inside]
  rfl

theorem isClockChar_of_mem_decimals {microsecond : Nat} {c : Char}
    (inside : c ∈ decimals microsecond) : isClockChar c = true := by
  unfold decimals at inside
  split at inside
  · cases inside
  · rcases List.mem_cons.1 inside with rfl | digit
    · rfl
    · exact isClockChar_of_mem_padded digit

theorem TimeOfDay.isClockChar_of_mem_isoChars {t : TimeOfDay} {c : Char}
    (inside : c ∈ t.isoChars) : isClockChar c = true := by
  unfold isoChars at inside
  simp only [List.mem_append, List.mem_cons] at inside
  rcases inside with ((hour | rfl | minute) | rfl | second) | decimal
  · exact isClockChar_of_mem_padded hour
  · rfl
  · exact isClockChar_of_mem_padded minute
  · rfl
  · exact isClockChar_of_mem_padded second
  · exact isClockChar_of_mem_decimals decimal

theorem not_isOffsetMark_of_isClockChar {c : Char} (clock : isClockChar c = true) :
    isOffsetMark c = false := by
  rw [Bool.eq_false_iff]
  intro mark
  unfold isOffsetMark at mark
  simp only [Bool.or_eq_true, beq_iff_eq] at mark
  rcases mark with (rfl | rfl) | rfl <;> cases clock

namespace DateTime

variable (d : DateTime)

def timeChars : List Char := d.time.isoChars ++ (d.offset.map Offset.isoChars).getD []

theorem isoChars_eq (separator : Char) :
    d.isoChars separator = d.date.isoChars ++ separator :: d.timeChars := by
  simp only [isoChars, timeChars, List.append_assoc, List.cons_append]

theorem readTime?_timeChars :
    readTime? d.timeChars = some (d.time, d.offset.map Offset.asRead) := by
  have plain : ∀ c ∈ d.time.isoChars, (!isOffsetMark c) = true := by
    intro c inside
    rw [not_isOffsetMark_of_isClockChar (TimeOfDay.isClockChar_of_mem_isoChars inside)]
    rfl
  have valid : TimeOfDay.ofFields? d.time.hour d.time.minute d.time.second d.time.microsecond =
      some d.time := dif_pos d.time.exists_
  unfold timeChars
  cases d.offset with
  | none =>
      have before : (d.time.isoChars ++ []).takeWhile (fun c => !isOffsetMark c) =
          d.time.isoChars := by
        rw [List.takeWhile_append_of_pos plain, List.takeWhile_nil, List.append_nil]
      simp only [readTime?, Option.map_none, Option.getD_none, before, List.drop_left,
        d.time.readClock?_isoChars, Option.map_some, Option.bind_eq_bind, Option.bind_some,
        bne_self_eq_false, Bool.false_eq_true, if_false, valid]
  | some o =>
      obtain ⟨text, written, read⟩ := o.readOffset?_isoChars
      have mark : isOffsetMark o.sign = true := by
        unfold Offset.sign
        split <;> rfl
      have before : (d.time.isoChars ++ o.sign :: text).takeWhile (fun c => !isOffsetMark c) =
          d.time.isoChars := by
        rw [List.takeWhile_append_of_pos plain, List.takeWhile_cons_of_neg (by simp [mark]),
          List.append_nil]
      simp only [readTime?, Option.map_some, Option.getD_some, written, before, List.drop_left,
        d.time.readClock?_isoChars, read, Option.bind_eq_bind, Option.bind_some,
        Bool.false_eq_true, if_false, valid]

end DateTime

/-! ### Units -/

theorem utf8Size_of_isClockChar {c : Char} (clock : isClockChar c = true) : c.utf8Size = 1 := by
  unfold isClockChar Char.isDigit at clock
  simp only [Bool.or_eq_true, Bool.and_eq_true, decide_eq_true_eq, beq_iff_eq] at clock
  rcases clock with (⟨_, high⟩ | rfl) | rfl
  · exact Char.utf8Size_eq_one_iff.2 (UInt32.le_trans high (by decide))
  · rfl
  · rfl

theorem Date.utf8Size_of_mem_isoChars {d : Date} {c : Char} (inside : c ∈ d.isoChars) :
    c.utf8Size = 1 := by
  unfold isoChars at inside
  simp only [List.mem_append, List.mem_cons] at inside
  rcases inside with (year | rfl | month) | rfl | day
  · exact utf8Size_of_isClockChar (isClockChar_of_mem_padded year)
  · rfl
  · exact utf8Size_of_isClockChar (isClockChar_of_mem_padded month)
  · rfl
  · exact utf8Size_of_isClockChar (isClockChar_of_mem_padded day)

theorem Offset.mem_isoChars {o : Offset} {c : Char} (inside : c ∈ o.isoChars) :
    isClockChar c = true ∨ c = '+' ∨ c = '-' := by
  unfold isoChars at inside
  simp only [List.mem_append, List.mem_cons] at inside
  rcases inside with ((sign | hour) | rfl | minute) | rest
  · split at sign
    · exact .inr (.inr sign)
    · exact .inr (.inl sign)
  · exact .inl (isClockChar_of_mem_padded hour)
  · exact .inl rfl
  · exact .inl (isClockChar_of_mem_padded minute)
  · split at rest
    · cases rest
    · simp only [List.mem_append, List.mem_cons] at rest
      rcases rest with (rfl | second) | decimal
      · exact .inl rfl
      · exact .inl (isClockChar_of_mem_padded second)
      · exact .inl (isClockChar_of_mem_decimals decimal)

theorem DateTime.mem_timeChars {d : DateTime} {c : Char} (inside : c ∈ d.timeChars) :
    isClockChar c = true ∨ c = '+' ∨ c = '-' := by
  rcases List.mem_append.1 inside with time | after
  · exact .inl (TimeOfDay.isClockChar_of_mem_isoChars time)
  · cases given : d.offset with
    | none =>
        rw [given] at after
        cases after
    | some o =>
        rw [given] at after
        exact Offset.mem_isoChars after

theorem units_append (cs ds : List Char) : units (cs ++ ds) = units cs ++ units ds :=
  List.flatMap_append

theorem units_of_narrow {cs : List Char} (narrow : ∀ c ∈ cs, c.utf8Size = 1) : units cs = cs := by
  induction cs with
  | nil => rfl
  | cons c rest ih =>
      obtain ⟨first, others⟩ := List.forall_mem_cons.1 narrow
      have one : units (c :: rest) = List.replicate c.utf8Size c ++ units rest := rfl
      rw [one, first, ih others]
      rfl

theorem units_cons (c : Char) (cs : List Char) :
    units (c :: cs) = c :: (List.replicate (c.utf8Size - 1) c ++ units cs) := by
  have size : c.utf8Size = (c.utf8Size - 1) + 1 := by
    have some := c.utf8Size_pos
    omega
  have one : units (c :: cs) = List.replicate c.utf8Size c ++ units cs := rfl
  rw [one, size, List.replicate_succ, List.cons_append, Nat.add_sub_cancel]

theorem at'_append (front rest : List Char) :
    at' (front ++ rest) front.length = rest.head?.getD endMark := by
  unfold at'
  rw [List.getElem?_append_right (Nat.le_refl _), Nat.sub_self, List.head?_eq_getElem?]

/-! ### Whole texts -/

theorem Date.dateLength_isoChars (d : Date) (rest : List Char) :
    dateLength (d.isoChars ++ rest) = 10 := by
  have long : ((d.isoChars ++ rest).length == 7) = false := by
    rw [List.length_append, d.length_isoChars, beq_eq_false_iff_ne]
    omega
  have hyphen : at' (d.isoChars ++ rest) 4 = '-' := by
    have there := at'_append (padded 4 d.year) ('-' :: (padded 2 d.month ++
      ('-' :: (padded 2 d.day ++ rest))))
    rwa [length_padded (by decide) d.year_fits, ← d.isoChars_append] at there
  have noWeek : (at' (d.isoChars ++ rest) 5 == 'W') = false := by
    have there := at'_append (padded 4 d.year ++ ['-']) (padded 2 d.month ++
      ('-' :: (padded 2 d.day ++ rest)))
    rw [List.length_append, length_padded (by decide) d.year_fits, List.append_assoc,
      List.singleton_append, ← d.isoChars_append] at there
    have apart : (padded 2 d.month ++ '-' :: (padded 2 d.day ++ rest)).head? ≠ some 'W' :=
      head?_padded_ne (by decide) _
    rw [show at' (d.isoChars ++ rest) 5 = _ from there, beq_eq_false_iff_ne]
    cases first : (padded 2 d.month ++ '-' :: (padded 2 d.day ++ rest)).head? with
    | none => decide
    | some c =>
        rintro rfl
        exact apart first
  simp only [dateLength, long, hyphen, noWeek, Bool.false_eq_true, if_false, beq_self_eq_true,
    if_true]

theorem Date.ofIso?_iso (d : Date) : ofIso? d.iso = some d := by
  have same : units d.iso.toList = d.isoChars := by
    rw [iso, String.toList_ofList, units_of_narrow (fun c => utf8Size_of_mem_isoChars)]
  have read := d.readDate?_isoChars 10 []
  rw [List.append_nil] at read
  simp only [ofIso?, same, d.length_isoChars]
  exact read

namespace DateTime

/-- A point in time is read back from its text, whichever character stands between date and time
and however many units it counts. -/
theorem ofIso?_isoChars (d : DateTime) (separator : Char) :
    ofIso? (String.ofList (d.isoChars separator)) =
      some { d with offset := d.offset.map Offset.asRead } := by
  have narrow : ∀ c ∈ d.timeChars, c.utf8Size = 1 := by
    intro c inside
    rcases mem_timeChars inside with clock | rfl | rfl
    · exact utf8Size_of_isClockChar clock
    · rfl
    · rfl
  have same : units (String.ofList (d.isoChars separator)).toList = d.date.isoChars ++
      (separator :: (List.replicate (separator.utf8Size - 1) separator ++ d.timeChars)) := by
    rw [String.toList_ofList, isoChars_eq, units_append,
      units_of_narrow (fun c => Date.utf8Size_of_mem_isoChars), units_cons,
      units_of_narrow narrow]
  have long : ¬ (d.date.isoChars ++ (separator ::
      (List.replicate (separator.utf8Size - 1) separator ++ d.timeChars))).length < 7 := by
    rw [List.length_append, d.date.length_isoChars]
    omega
  -- the date ends before the first unit of the separator, the time starts after its last one
  have rest : (List.replicate (separator.utf8Size - 1) separator ++ d.timeChars).drop
      (separator.utf8Size - 1) = d.timeChars := List.drop_left' List.length_replicate
  simp only [ofIso?, same, long, if_false, d.date.dateLength_isoChars, d.date.readDate?_isoChars,
    Option.bind_eq_bind, Option.bind_some, List.drop_left' d.date.length_isoChars, rest,
    readTime?_timeChars]

theorem getLast?_isoChars_ne (d : DateTime) (separator : Char) :
    (d.isoChars separator).getLast? ≠ some 'Z' := by
  rw [isoChars_eq, ← List.singleton_append, ← List.append_assoc, List.getLast?_append]
  cases last : d.timeChars.getLast? with
  | none =>
      have empty := (List.append_eq_nil_iff.1 (List.getLast?_eq_none_iff.1 last)).1
      simp [TimeOfDay.isoChars] at empty
  | some c =>
      intro same
      cases same
      rcases mem_timeChars (List.mem_of_getLast? last) with clock | plus | minus
      · cases clock
      · cases plus
      · cases minus

end DateTime

end NestedSelect.Calendar
