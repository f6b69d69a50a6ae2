import NestedSelect.Calendar.DateTime
import NestedSelect.Number.Power

/-!
Reading dates and times from ISO text.

A date is a calendar date or a week date, with hyphens or without. Between date and time stands
any one character; where it stands is decided by the first eleven characters alone. A time has
one to three two-digit fields, with colons or without, and a fraction after the last of them.
One stray character is tolerated between a time and its offset.

A character counts as many units as its UTF-8 form has bytes, and every position below is one of
units. A character that is not ASCII is never part of a date or a time.
-/

namespace NestedSelect.Calendar

def endMark : Char := Char.ofNat 0

/-- The units of a text: a character of several bytes is repeated. -/
def units (cs : List Char) : List Char :=
  cs.flatMap (fun c => List.replicate c.utf8Size c)

def asciiDigit? (c : Char) : Option Nat := if c.isDigit then some (c.toNat - 48) else none

def fixedNumber? (count : Nat) (cs : List Char) : Option (Nat × List Char) :=
  go count 0 cs
where
  go : Nat → Nat → List Char → Option (Nat × List Char)
    | 0, number, cs => some (number, cs)
    | _ + 1, _, [] => none
    | count + 1, number, c :: cs =>
        (asciiDigit? c).bind (fun digit => go count (10 * number + digit) cs)

def at' (cs : List Char) (position : Nat) : Char := (cs[position]?).getD endMark

def dropHyphen? (cs : List Char) : Option (List Char) :=
  if cs.head? == some '-' then some cs.tail else none

/-- The date at the front of `cs`, of which `length` units belong to the date. -/
def readDate? (length : Nat) (cs : List Char) : Option Date := do
  let (year, rest) ← fixedNumber? 4 cs
  let hyphens := rest.head? == some '-'
  let rest := if hyphens then rest.tail else rest
  if rest.head? == some 'W' then
    let (week, rest) ← fixedNumber? 2 rest.tail
    if cs.length - rest.length < length then
      let rest ← if hyphens then dropHyphen? rest else some rest
      let (day, _) ← fixedNumber? 1 rest
      Date.ofWeek? year week day
    else Date.ofWeek? year week 1
  else
    let (month, rest) ← fixedNumber? 2 rest
    let rest ← if hyphens then dropHyphen? rest else some rest
    let (day, _) ← fixedNumber? 2 rest
    Date.ofYmd? year month day

def dateLength (cs : List Char) : Nat :=
  if cs.length == 7 then 7
  else if at' cs 4 == '-' then
    if at' cs 5 == 'W' then
      if at' cs 8 == '-' then (if (at' cs 10).isDigit then 8 else 10) else 8
    else 10
  else if at' cs 4 == 'W' then
    let run := 7 + ((cs.drop 7).takeWhile Char.isDigit).length
    if run < 9 then run else if run % 2 == 0 then 7 else 8
  else 8

/-- The four fields of a clock, not yet checked for range. -/
structure Clock where
  hour : Nat
  minute : Nat
  second : Nat
  microsecond : Nat

def setField (clock : Clock) (position value : Nat) : Clock :=
  match position with
  | 0 => { clock with hour := value }
  | 1 => { clock with minute := value }
  | _ => { clock with second := value }

/-- The fraction that ends a time: six digits count, the rest are passed over. The second
component says whether something else follows. -/
def readFraction? (follow : Char) (clock : Clock) (cs : List Char) : Option (Clock × Bool) := do
  let count := min 6 cs.length
  let (fraction, rest) ← fixedNumber? count cs
  let left := rest.dropWhile Char.isDigit
  some ({ clock with microsecond := fraction * Number.tenTo (6 - count) },
    left.head?.getD follow != endMark)

/-- The fields of a clock from position `3 - fields` on. `follow` is the character after the
text; `colons` is known once the first field has been read. -/
def readFields? (follow : Char) : (fields : Nat) → Bool → Clock → List Char → Option (Clock × Bool)
  | 0, _, clock, cs => readFraction? follow clock cs
  | fields + 1, colons, clock, cs => do
      let (value, rest) ← fixedNumber? 2 cs
      let clock := setField clock (2 - fields) value
      let next := rest.head?.getD follow
      let colons := if fields == 2 then next == ':' else colons
      if rest.length ≤ 1 then some (clock, next != endMark)
      else if colons && next == ':' then readFields? follow fields colons clock rest.tail
      else if next == '.' || next == ',' then readFraction? follow clock rest.tail
      else if colons then none
      else readFields? follow fields colons clock rest

def readClock? (follow : Char) (cs : List Char) : Option (Clock × Bool) :=
  readFields? follow 3 false ⟨0, 0, 0, 0⟩ cs

def Clock.seconds (clock : Clock) : Nat :=
  clock.hour * 3600 + clock.minute * 60 + clock.second

def isOffsetMark (c : Char) : Bool := c == '+' || c == '-' || c == 'Z'

/-- The offset that starts with the given mark. An offset of no whole second is universal time. -/
def readOffset? (mark : Char) (cs : List Char) : Option Offset :=
  if mark == 'Z' then
    if cs.head?.getD endMark == endMark then some Offset.universal else none
  else do
    let (clock, more) ← readClock? endMark cs
    if more then none
    else if clock.seconds == 0 then some Offset.universal
    else
      let total : Int := clock.seconds * 1000000 + clock.microsecond
      Offset.ofMicroseconds? (if mark == '-' then -total else total)

def readTime? (cs : List Char) : Option (TimeOfDay × Option Offset) := do
  let before := cs.takeWhile (fun c => !isOffsetMark c)
  let (clock, more, offset) ←
    match cs.drop before.length with
    | [] => (readClock? endMark before).map (fun read => (read.1, read.2, none))
    | mark :: rest => do
        let (clock, _) ← readClock? mark before
        let offset ← readOffset? mark rest
        some (clock, false, some offset)
  if more then none
  else do
    let time ← TimeOfDay.ofFields? clock.hour clock.minute clock.second clock.microsecond
    some (time, offset)

/-- The point in time that a text stands for; a date alone stands for its start. -/
def DateTime.ofIso? (s : String) : Option DateTime := do
  let cs := units s.toList
  if cs.length < 7 then none
  else
    let length := dateLength cs
    let date ← readDate? length cs
    match cs.drop length with
    | [] => some ⟨date, TimeOfDay.midnight, none⟩
    | separator :: rest => do
        let (time, offset) ← readTime? (rest.drop (separator.utf8Size - 1))
        some ⟨date, time, offset⟩

def Date.ofIso? (s : String) : Option Date :=
  let cs := units s.toList
  if cs.length == 7 || cs.length == 8 || cs.length == 10 then readDate? cs.length cs else none

end NestedSelect.Calendar
