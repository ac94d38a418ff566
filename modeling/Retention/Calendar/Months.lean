import Retention.Calendar.Moment

/-! # Months back

A moment moves back by calendar months: the months are split into years and months toward zero, a month outside the year
carries one year, and the day is clamped to the end of the month. Years outside the calendar are refused.
-/

namespace Retention.Calendar

/-- Why a moment cannot move. -/
inductive Unreachable where
  | year (year : Int)
  | yearBelowWord
  | yearAboveWord
  | yearBeyondLongWord
  | monthsBeyondDoubles
  deriving DecidableEq, Repr

/-- A year outside the calendar, by the width of the words that hold it. -/
def Unreachable.ofYear (year : Int) : Unreachable :=
  if year < -Nat.pow 2 63 ∨ Nat.pow 2 63 ≤ year then .yearBeyondLongWord
  else if year < -Nat.pow 2 31 then .yearBelowWord
  else if Nat.pow 2 31 ≤ year then .yearAboveWord
  else .year year

/-- Year and month after moving back, with the carry. -/
def monthsBack (year month : Nat) (months : Int) : Int × Int :=
  let year := (year : Int) - months.tdiv 12
  let month := (month : Int) - months.tmod 12
  if month > 12 then (year + 1, month - 12)
  else if month < 1 then (year - 1, month + 12)
  else (year, month)

theorem monthsBack_month_mem {year month : Nat} (h : 1 ≤ month ∧ month ≤ 12) (months : Int) :
    1 ≤ (monthsBack year month months).2 ∧ (monthsBack year month months).2 ≤ 12 := by
  have hlt := Int.tmod_lt_of_pos months (show (0 : Int) < 12 by decide)
  have hgt := Int.lt_tmod_of_pos months (show (0 : Int) < 12 by decide)
  unfold monthsBack
  dsimp only
  split
  · dsimp only; omega
  · split <;> dsimp only <;> omega

/-- Doubles cannot hold integers from here on. -/
def monthsLimit : Nat := Nat.pow 2 1024 - Nat.pow 2 970

def Date.minusMonths (d : Date) (months : Int) : Except Unreachable Date :=
  let back := monthsBack d.year d.month months
  if months.natAbs ≥ monthsLimit then .error .monthsBeyondDoubles
  else if h : (minYear : Int) ≤ back.1 ∧ back.1 ≤ maxYear then
    have hm : 1 ≤ back.2 ∧ back.2 ≤ 12 := monthsBack_month_mem d.month_mem months
    .ok (Date.clamped back.1.toNat back.2.toNat d.day (by omega) (by omega) d.day_mem.1)
  else .error (Unreachable.ofYear back.1)

def Moment.minusMonths (m : Moment) (months : Int) : Except Unreachable Moment :=
  (m.date.minusMonths months).map fun date => { m with date }

end Retention.Calendar
