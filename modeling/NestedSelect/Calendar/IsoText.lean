import NestedSelect.Calendar.DateTime

/-!
The ISO text of dates and times.

A date is `YYYY-MM-DD`. A time is `HH:MM:SS`, with six decimals if there are microseconds, and an
offset is a sign and `HH:MM`, with seconds and decimals only where they are not zero.
-/

namespace NestedSelect.Calendar

def padded (width n : Nat) : List Char :=
  let digits := Nat.toDigits 10 n
  List.replicate (width - digits.length) '0' ++ digits

def Date.isoChars (d : Date) : List Char :=
  padded 4 d.year ++ '-' :: padded 2 d.month ++ '-' :: padded 2 d.day

def decimals (microsecond : Nat) : List Char :=
  if microsecond == 0 then [] else '.' :: padded 6 microsecond

def TimeOfDay.isoChars (t : TimeOfDay) : List Char :=
  padded 2 t.hour ++ ':' :: padded 2 t.minute ++ ':' :: padded 2 t.second ++ decimals t.microsecond

/-- A sign and `HH:MM`, then seconds and decimals as far as they are needed. -/
def Offset.isoChars (o : Offset) : List Char :=
  let total := o.microseconds.natAbs
  let microsecond := total % 1000000
  let seconds := total / 1000000
  let second := seconds % 60
  (if o.microseconds < 0 then '-' else '+') :: padded 2 (seconds / 3600) ++
    ':' :: padded 2 (seconds / 60 % 60) ++
    (if second == 0 && microsecond == 0 then [] else ':' :: padded 2 second ++ decimals microsecond)

def DateTime.isoChars (separator : Char) (d : DateTime) : List Char :=
  d.date.isoChars ++ separator :: d.time.isoChars ++ (d.offset.map Offset.isoChars).getD []

def Date.iso (d : Date) : String := String.ofList d.isoChars

def DateTime.iso (d : DateTime) : String := String.ofList (d.isoChars 'T')

end NestedSelect.Calendar
