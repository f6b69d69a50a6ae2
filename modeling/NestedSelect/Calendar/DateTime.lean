import NestedSelect.Calendar.Date

/-!
Points in time: a date, a time of day, and possibly a distance from universal time.
-/

namespace NestedSelect.Calendar

def IsTimeOfDay (hour minute second microsecond : Nat) : Prop :=
  hour < 24 ∧ minute < 60 ∧ second < 60 ∧ microsecond < 1000000

instance (hour minute second microsecond : Nat) :
    Decidable (IsTimeOfDay hour minute second microsecond) := by
  unfold IsTimeOfDay; infer_instance

structure TimeOfDay where
  hour : Nat
  minute : Nat
  second : Nat
  microsecond : Nat
  exists_ : IsTimeOfDay hour minute second microsecond
  deriving DecidableEq

def TimeOfDay.ofFields? (hour minute second microsecond : Nat) : Option TimeOfDay :=
  if valid : IsTimeOfDay hour minute second microsecond then
    some ⟨hour, minute, second, microsecond, valid⟩
  else none

def TimeOfDay.midnight : TimeOfDay := ⟨0, 0, 0, 0, by decide⟩

def dayMicroseconds : Nat := 86400000000

/-- A distance from universal time of less than a day, in microseconds, positive to the east. -/
structure Offset where
  microseconds : Int
  belowDay : microseconds.natAbs < dayMicroseconds
  deriving DecidableEq

def Offset.ofMicroseconds? (microseconds : Int) : Option Offset :=
  if valid : microseconds.natAbs < dayMicroseconds then some ⟨microseconds, valid⟩ else none

def Offset.universal : Offset := ⟨0, by decide⟩

/-- A point in time; without an offset it is local to wherever it is read. -/
structure DateTime where
  date : Date
  time : TimeOfDay
  offset : Option Offset
  deriving DecidableEq

def DateTime.clockMicroseconds (d : DateTime) : Nat :=
  let seconds := (d.time.hour * 60 + d.time.minute) * 60 + d.time.second
  d.date.dayNumber * dayMicroseconds + seconds * 1000000 + d.time.microsecond

/-- Whether two points in time are the same: by the clock if both are local, in universal time if
neither is. A local one is never the same as one with an offset. -/
def DateTime.isSame (d e : DateTime) : Bool :=
  match d.offset, e.offset with
  | none, none => d.clockMicroseconds == e.clockMicroseconds
  | some o, some p =>
      (d.clockMicroseconds : Int) - o.microseconds == (e.clockMicroseconds : Int) - p.microseconds
  | _, _ => false

def DateTime.withoutOffset (d : DateTime) : DateTime := { d with offset := none }

end NestedSelect.Calendar
