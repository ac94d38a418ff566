/-! # Dates

Dates of the proleptic Gregorian calendar in the years 1 to 9999.
-/

namespace Retention.Calendar

/-- Every fourth year, but of the centuries only every fourth. -/
def isLeap (year : Nat) : Bool :=
  year % 4 == 0 && (year % 100 != 0 || year % 400 == 0)

def daysInMonth (year month : Nat) : Nat :=
  if month = 2 then if isLeap year then 29 else 28
  else if month = 4 ∨ month = 6 ∨ month = 9 ∨ month = 11 then 30
  else 31

def minYear : Nat := 1

def maxYear : Nat := 9999

structure Date where
  year : Nat
  month : Nat
  day : Nat
  year_mem : minYear ≤ year ∧ year ≤ maxYear
  month_mem : 1 ≤ month ∧ month ≤ 12
  day_mem : 1 ≤ day ∧ day ≤ daysInMonth year month
  deriving DecidableEq, Repr

theorem daysInMonth_pos (year month : Nat) : 28 ≤ daysInMonth year month := by
  unfold daysInMonth
  split
  · split <;> omega
  · split <;> omega

theorem daysInMonth_le (year month : Nat) : daysInMonth year month ≤ 31 := by
  unfold daysInMonth
  split
  · split <;> omega
  · split <;> omega

namespace Date

def of? (year month day : Nat) : Option Date :=
  if h : (minYear ≤ year ∧ year ≤ maxYear) ∧ (1 ≤ month ∧ month ≤ 12) ∧ 1 ≤ day ∧ day ≤ daysInMonth year month then
    some ⟨year, month, day, h.1, h.2.1, h.2.2⟩
  else none

/-- The last day of the month at the latest. -/
def clamped (year month day : Nat) (hy : minYear ≤ year ∧ year ≤ maxYear) (hm : 1 ≤ month ∧ month ≤ 12)
    (hd : 1 ≤ day) : Date where
  year := year
  month := month
  day := min day (daysInMonth year month)
  year_mem := hy
  month_mem := hm
  day_mem := by have := daysInMonth_pos year month; omega

def epoch : Date :=
  ⟨1970, 1, 1, by decide, by decide, by decide⟩

/-- The date a number of days after the epoch. Years are counted from March, in eras of 400 years. -/
def ofEpochDay (n : Int) : Date :=
  let z := n + 719468
  let era := z.fdiv 146097
  let dayOfEra := (z - era * 146097).toNat
  let yearOfEra := (dayOfEra - dayOfEra / 1460 + dayOfEra / 36524 - dayOfEra / 146096) / 365
  let dayOfYear := dayOfEra - (365 * yearOfEra + yearOfEra / 4 - yearOfEra / 100)
  let shifted := (5 * dayOfYear + 2) / 153
  let day := dayOfYear - (153 * shifted + 2) / 5 + 1
  let month := if shifted < 10 then shifted + 3 else shifted - 9
  let year := era * 400 + yearOfEra + (if month ≤ 2 then 1 else 0)
  (of? year.toNat month day).getD epoch

example : (ofEpochDay 19782).year = 2024 ∧ (ofEpochDay 19782).month = 2 ∧ (ofEpochDay 19782).day = 29 := by
  decide +kernel

end Date
end Retention.Calendar
