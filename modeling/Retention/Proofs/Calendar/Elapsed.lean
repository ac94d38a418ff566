import Mathlib.Algebra.BigOperators.Intervals
import Mathlib.Algebra.Order.BigOperators.Group.Finset
import Retention.Proofs.Calendar.CutoffOrder

/-! # Time that has passed

The days of the calendar are counted from the first of the year 1, and the time of day in microseconds.
As a month never reaches into the next, nor a year, the count is ordered as year, month and day in this
order are. So the time that has passed is ordered as the wall clock, and tells its readings apart.
-/

namespace Retention.Calendar

open Finset

def daysBeforeMonth (year month : Nat) : Nat :=
  ∑ m ∈ Ico 1 month, daysInMonth year m

def daysInYear (year : Nat) : Nat :=
  daysBeforeMonth year 13

def daysBeforeYear (year : Nat) : Nat :=
  ∑ y ∈ Ico minYear year, daysInYear y

theorem daysBeforeMonth_add_le {year month month' : Nat} (h : 1 ≤ month) (hlt : month < month') :
    daysBeforeMonth year month + daysInMonth year month ≤ daysBeforeMonth year month' := by
  rw [daysBeforeMonth, ← sum_Ico_succ_top h]
  exact sum_le_sum_of_subset (Ico_subset_Ico_right hlt)

theorem daysBeforeYear_add_le {year year' : Nat} (h : minYear ≤ year) (hlt : year < year') :
    daysBeforeYear year + daysInYear year ≤ daysBeforeYear year' := by
  rw [daysBeforeYear, ← sum_Ico_succ_top h]
  exact sum_le_sum_of_subset (Ico_subset_Ico_right hlt)

namespace Date

variable {d d' : Date}

/-- The days since the first of the year 1. -/
def elapsed (d : Date) : Nat :=
  daysBeforeYear d.year + daysBeforeMonth d.year d.month + (d.day - 1)

theorem elapsed_lt_of_parts_lt (h : d.parts < d'.parts) : d.elapsed < d'.elapsed := by
  have hmonth : daysBeforeMonth d.year d.month + daysInMonth d.year d.month ≤ daysInYear d.year :=
    daysBeforeMonth_add_le d.month_mem.1 (Nat.lt_succ_of_le d.month_mem.2)
  have hday := d.day_mem
  have hday' := d'.day_mem
  unfold elapsed
  rcases parts_lt_iff.mp h with hindex | ⟨⟨hy, hm⟩, hlt⟩
  · rcases index_lt_iff.mp hindex with hlt | ⟨hy, hlt⟩
    · have hyear := daysBeforeYear_add_le d.year_mem.1 hlt
      omega
    · have hmonths : daysBeforeMonth d.year d.month + daysInMonth d.year d.month ≤ daysBeforeMonth d.year d'.month :=
        daysBeforeMonth_add_le d.month_mem.1 hlt
      rw [← hy]
      omega
  · rw [hy, hm]
    omega

theorem elapsed_lt_iff : d.elapsed < d'.elapsed ↔ d.parts < d'.parts := by
  refine ⟨fun h => ?_, elapsed_lt_of_parts_lt⟩
  rcases lt_trichotomy d.parts d'.parts with hlt | heq | hgt
  · exact hlt
  · rw [eq_iff_parts.mpr heq] at h
    exact absurd h (lt_irrefl _)
  · exact absurd (elapsed_lt_of_parts_lt hgt) h.asymm

theorem elapsed_inj : d.elapsed = d'.elapsed ↔ d = d' := by
  rw [eq_iff_parts, eq_iff_le_not_lt, eq_iff_le_not_lt, ← not_lt, ← not_lt, elapsed_lt_iff, elapsed_lt_iff]

example : (⟨5, 1, 1, by decide, by decide, by decide⟩ : Date).elapsed = 3 * 365 + 366 := by decide +kernel

end Date

namespace TimeOfDay

variable {t t' : TimeOfDay}

def elapsed (t : TimeOfDay) : Nat :=
  ((t.hour * 60 + t.minute) * 60 + t.second) * microsPerSecond + t.microsecond

theorem elapsed_lt (t : TimeOfDay) : t.elapsed < microsPerDay := by
  unfold elapsed microsPerDay microsPerSecond
  omega

theorem elapsed_lt_iff : t.elapsed < t'.elapsed ↔ t.parts < t'.parts := by
  simp only [elapsed, microsPerSecond, parts, List.cons_lt_cons_iff, List.not_lt_nil, and_false, or_false]
  omega

end TimeOfDay

namespace Moment

variable {m n : Moment}

/-- The microseconds since the beginning of the year 1, by the wall clock. -/
def elapsed (m : Moment) : Nat :=
  m.date.elapsed * microsPerDay + m.time.elapsed

theorem elapsed_lt_iff : m.elapsed < n.elapsed ↔ m.wallClock < n.wallClock := by
  have hm := m.time.elapsed_lt
  have hn := n.time.elapsed_lt
  rw [wallClock_lt_iff, ← Date.elapsed_lt_iff, ← TimeOfDay.elapsed_lt_iff, ← Date.elapsed_inj]
  unfold elapsed
  unfold microsPerDay microsPerSecond at *
  omega

theorem wallClock_inj : m.wallClock = n.wallClock ↔ m.date = n.date ∧ m.time = n.time := by
  obtain ⟨date, ⟨hour, minute, second, microsecond⟩, offset⟩ := m
  obtain ⟨date', ⟨hour', minute', second', microsecond'⟩, offset'⟩ := n
  simp [wallClock, Date.eq_iff_parts, Date.parts, Fin.ext_iff, and_assoc]

end Moment
end Retention.Calendar
