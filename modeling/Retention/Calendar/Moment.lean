import Retention.Calendar.Date

/-! # Moments

A moment is a date and a time of day to the microsecond, with the offset of its clock from universal time if that is
known. Moments are compared by their wall clock.
-/

namespace Retention.Calendar

structure TimeOfDay where
  hour : Fin 24
  minute : Fin 60
  second : Fin 60
  microsecond : Fin 1000000
  deriving DecidableEq, Repr

def microsPerSecond : Nat := 1000000

def microsPerDay : Nat := 86400 * microsPerSecond

/-- The offset of a clock from universal time, less than a day. -/
structure Offset where
  micros : Int
  bound : micros.natAbs < microsPerDay
  deriving DecidableEq, Repr

namespace Offset

def utc : Offset := ⟨0, by decide⟩

/-- An offset below one second is no offset. -/
def ofMicros? (n : Int) : Option Offset :=
  if n.natAbs < microsPerSecond then some utc
  else if h : n.natAbs < microsPerDay then some ⟨n, h⟩
  else none

end Offset

structure Moment where
  date : Date
  time : TimeOfDay
  offset : Option Offset
  deriving DecidableEq, Repr

namespace Moment

def ofEpochMicros (n : Int) : Moment :=
  let day := n.fdiv microsPerDay
  let rest := (n - day * microsPerDay).toNat
  let seconds := rest / microsPerSecond
  { date := Date.ofEpochDay day
    time :=
      { hour := Fin.ofNat 24 (seconds / 3600)
        minute := Fin.ofNat 60 (seconds / 60)
        second := Fin.ofNat 60 seconds
        microsecond := Fin.ofNat 1000000 rest }
    offset := some Offset.utc }

end Moment
end Retention.Calendar
