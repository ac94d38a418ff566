import Retention.Calendar.Moment
import Retention.Text.Digit

/-! # Texts of moments

The extended ISO 8601 form, read and written, the form with the mark of universal time, the short form in seconds, and
the form that a store keeps.
-/

namespace Retention.Calendar

open Retention.Text

namespace Date

def chars (d : Date) : List Char :=
  padded 4 d.year ++ '-' :: padded 2 d.month ++ '-' :: padded 2 d.day

def toText (d : Date) : String :=
  String.ofList d.chars

def read? (cs : List Char) : Option (Date × List Char) := do
  let (year, cs) ← readPadded 4 cs
  let '-' :: cs := cs | none
  let (month, cs) ← readPadded 2 cs
  let '-' :: cs := cs | none
  let (day, cs) ← readPadded 2 cs
  return (← Date.of? year month day, cs)

def ofText? (s : String) : Option Date := do
  let (date, []) ← read? s.toList | none
  return date

end Date

/-- The digits of a fraction of one to six digits, in millionths. -/
def readFraction? (cs : List Char) : Option (Nat × List Char) := do
  let ds := cs.takeWhile fun c => (asciiDigit? c).isSome
  if ds.isEmpty || ds.length > 6 then none
  let (n, _) ← readPadded ds.length ds
  return (n * Nat.pow 10 (6 - ds.length), cs.drop ds.length)

namespace TimeOfDay

def seconds (t : TimeOfDay) : List Char :=
  padded 2 t.hour ++ ':' :: padded 2 t.minute ++ ':' :: padded 2 t.second

def micros (t : TimeOfDay) : List Char :=
  '.' :: padded 6 t.microsecond

/-- The fraction is written unless it is zero. -/
def chars (t : TimeOfDay) : List Char :=
  t.seconds ++ (if t.microsecond.val = 0 then [] else t.micros)

def of? (hour minute second microsecond : Nat) : Option TimeOfDay :=
  if h : hour < 24 ∧ minute < 60 ∧ second < 60 ∧ microsecond < 1000000 then
    some ⟨⟨hour, h.1⟩, ⟨minute, h.2.1⟩, ⟨second, h.2.2.1⟩, ⟨microsecond, h.2.2.2⟩⟩
  else none

def read? (cs : List Char) : Option (TimeOfDay × List Char) := do
  let (hour, cs) ← readPadded 2 cs
  let ':' :: cs := cs | none
  let (minute, cs) ← readPadded 2 cs
  let ':' :: cs := cs | none
  let (second, cs) ← readPadded 2 cs
  let (microsecond, cs) ← match cs with
    | '.' :: rest => readFraction? rest
    | _ => some (0, cs)
  return (← of? hour minute second microsecond, cs)

end TimeOfDay

namespace Offset

/-- Hours and minutes, then seconds unless nothing but hours and minutes is left, then millionths unless zero. -/
def chars (o : Offset) : List Char :=
  let n := o.micros.natAbs
  let total := n / microsPerSecond
  let fraction := n % microsPerSecond
  let fine := if fraction = 0 then [] else '.' :: padded 6 fraction
  let second := total % 60
  (if o.micros < 0 then '-' else '+') :: padded 2 (total / 3600) ++ ':' :: padded 2 (total / 60 % 60) ++
    (if second = 0 ∧ fraction = 0 then [] else ':' :: padded 2 second ++ fine)

def readFine? : List Char → Option (Nat × Nat)
  | [] => some (0, 0)
  | ':' :: cs => do
    let (second, cs) ← readPadded 2 cs
    if cs.isEmpty then return (second, 0)
    let '.' :: cs := cs | none
    let (micro, []) ← readFraction? cs | none
    return (second, micro)
  | _ => none

def readSize? (cs : List Char) : Option Nat := do
  let (hour, cs) ← readPadded 2 cs
  let ':' :: cs := cs | none
  let (minute, cs) ← readPadded 2 cs
  let (second, micro) ← readFine? cs
  if minute < 60 ∧ second < 60 then
    return ((hour * 60 + minute) * 60 + second) * microsPerSecond + micro
  else none

/-- Reads nothing, the mark of universal time, or a sign and a size. -/
def read? : List Char → Option (Option Offset)
  | [] => some none
  | ['Z'] => some (some utc)
  | '+' :: cs => do return some (← ofMicros? (← readSize? cs))
  | '-' :: cs => do return some (← ofMicros? (-(← readSize? cs)))
  | _ => none

end Offset

namespace Moment

def ofText? (s : String) : Option Moment := do
  let (date, cs) ← Date.read? s.toList
  let 'T' :: cs := cs | none
  let (time, cs) ← TimeOfDay.read? cs
  return ⟨date, time, ← Offset.read? cs⟩

def toText (m : Moment) : String :=
  String.ofList (m.date.chars ++ 'T' :: m.time.chars ++ (m.offset.map Offset.chars).getD [])

def spacedText (m : Moment) : String :=
  String.ofList (m.date.chars ++ ' ' :: m.time.chars ++ (m.offset.map Offset.chars).getD [])

/-- The wall clock with the mark of universal time. -/
def stamp (m : Moment) : String :=
  String.ofList (m.date.chars ++ 'T' :: m.time.chars ++ ['Z'])

def shortStamp (m : Moment) : String :=
  String.ofList (m.date.chars ++ ' ' :: m.time.seconds)

/-- The wall clock as a store keeps it: every field has its full width and the offset is dropped. -/
def storedText (m : Moment) : String :=
  String.ofList (m.date.chars ++ ' ' :: m.time.seconds ++ m.time.micros)

example : (ofText? "2024-02-29T23:59:59.5-05:30").map toText = some "2024-02-29T23:59:59.500000-05:30" := by
  decide +kernel

example : (ofText? "0001-01-01T00:00:00Z").map storedText = some "0001-01-01 00:00:00.000000" := by
  decide +kernel

end Moment
end Retention.Calendar
