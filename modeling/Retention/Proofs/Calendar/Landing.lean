import Mathlib.Algebra.Ring.Int.Defs
import Retention.Proofs.Calendar.MonthIndex

/-! # Where months lead

The months of all years stand in a row, so the month that lies some months back is the quotient and
the remainder of its number, rounded down. There is a cutoff if and only if that month is one of the
calendar; otherwise the error names the year, unless no word holds it.
-/

namespace Retention.Calendar

/-- The year of the month with this number, rounded down. -/
def yearAt (index : Int) : Int :=
  index.fdiv 12

def monthAt (index : Int) : Int :=
  index.fmod 12 + 1

theorem yearAt_eq (index : Int) : yearAt index = index / 12 :=
  Int.fdiv_eq_ediv_of_nonneg index (by decide)

theorem monthAt_eq (index : Int) : monthAt index = index % 12 + 1 := by
  rw [monthAt, Int.fmod_eq_emod_of_nonneg index (by decide)]

/-- To split months toward zero and to carry a year is to divide the number of the month, rounded down. -/
theorem monthsBack_eq {year month : Nat} (h : 1 ≤ month ∧ month ≤ 12) (n : Int) :
    monthsBack year month n = (yearAt (monthIndex year month - n), monthAt (monthIndex year month - n)) := by
  have hindex := monthIndex_monthsBack year month n
  have hmonth : 1 ≤ (monthsBack year month n).2 ∧ (monthsBack year month n).2 ≤ 12 := monthsBack_month_mem h n
  generalize monthsBack year month n = back at hindex hmonth
  obtain ⟨y, m⟩ := back
  rw [yearAt_eq, monthAt_eq, ← hindex, Prod.mk.injEq]
  unfold monthIndex
  dsimp only at hmonth ⊢
  omega

theorem two_pow_le_monthsLimit : 2 ^ 40 ≤ monthsLimit := by
  decide +kernel

namespace Date

variable {d : Date} {n : Int}

theorem monthsBack_index (d : Date) (n : Int) :
    monthsBack d.year d.month n = (yearAt (d.index - n), monthAt (d.index - n)) :=
  monthsBack_eq d.month_mem n

theorem minusMonths_of_mem (h : 1 ≤ yearAt (d.index - n) ∧ yearAt (d.index - n) ≤ 9999) :
    ∃ d', d.minusMonths n = .ok d' ∧ (d'.year : Int) = yearAt (d.index - n) ∧
      (d'.month : Int) = monthAt (d.index - n) ∧ d'.day = min d.day (daysInMonth d'.year d'.month) := by
  have hback := monthsBack_index d n
  have hmonth : 1 ≤ (monthsBack d.year d.month n).2 ∧ (monthsBack d.year d.month n).2 ≤ 12 :=
    monthsBack_month_mem d.month_mem n
  have hyear := d.year_mem
  have hnear : ¬ n.natAbs ≥ monthsLimit := by
    have := two_pow_le_monthsLimit
    have := d.month_mem
    rw [yearAt_eq, index, monthIndex] at h
    unfold maxYear at hyear
    omega
  have hrange : (minYear : Int) ≤ (monthsBack d.year d.month n).1 ∧ (monthsBack d.year d.month n).1 ≤ maxYear := by
    rw [hback]
    exact h
  unfold minusMonths
  rw [if_neg hnear, dif_pos hrange]
  refine ⟨_, rfl, ?_, ?_, rfl⟩
  · show ((monthsBack d.year d.month n).1.toNat : Int) = _
    rw [Int.toNat_of_nonneg (by unfold minYear at hrange; omega), hback]
  · show ((monthsBack d.year d.month n).2.toNat : Int) = _
    rw [Int.toNat_of_nonneg (by omega), hback]

/-- The error is about the double that months have no place in, or about the year. -/
theorem minusMonths_of_not_mem (h : yearAt (d.index - n) < 1 ∨ 9999 < yearAt (d.index - n)) :
    d.minusMonths n = .error (Unreachable.ofYear (yearAt (d.index - n))) ∨
      d.minusMonths n = .error .monthsBeyondDoubles ∧
        (yearAt (d.index - n) < -2 ^ 31 ∨ 2 ^ 31 ≤ yearAt (d.index - n)) := by
  have hback := monthsBack_index d n
  unfold minusMonths
  by_cases hfar : n.natAbs ≥ monthsLimit
  · refine .inr ⟨if_pos hfar, ?_⟩
    have := two_pow_le_monthsLimit
    have := d.month_mem
    have hyear := d.year_mem
    rw [yearAt_eq, index, monthIndex]
    unfold maxYear at hyear
    omega
  · have hrange : ¬ ((minYear : Int) ≤ (monthsBack d.year d.month n).1 ∧ (monthsBack d.year d.month n).1 ≤ maxYear) := by
      rw [hback]
      unfold minYear maxYear
      dsimp only
      omega
    left
    rw [if_neg hfar, dif_neg hrange, hback]

end Date

theorem Unreachable.ofYear_mishap (year : Int) :
    -2 ^ 31 ≤ year ∧ year < 2 ^ 31 ∧
        (ofYear year).toMishap = ⟨.value, "year " ++ toString year ++ " is out of range"⟩ ∨
      (year < -2 ^ 31 ∨ 2 ^ 31 ≤ year) ∧ (ofYear year).toMishap.kind = .overflow := by
  have hword : (Nat.pow 2 31 : Int) = 2 ^ 31 := rfl
  have hlong : (Nat.pow 2 63 : Int) = 2 ^ 63 := rfl
  unfold ofYear
  split
  · exact .inr ⟨by omega, rfl⟩
  · split
    · exact .inr ⟨by omega, rfl⟩
    · split
      · exact .inr ⟨by omega, rfl⟩
      · exact .inl ⟨by omega, by omega, rfl⟩

theorem cutoff_isOk_iff_year {now : Moment} {n : Int} :
    (∃ c, cutoff now (.int n) = .ok c) ↔
      1 ≤ yearAt (now.date.index - n) ∧ yearAt (now.date.index - n) ≤ 9999 := by
  rw [cutoff_int, Moment.minusMonths]
  constructor
  · rintro ⟨c, hc⟩
    by_contra hyear
    rcases Date.minusMonths_of_not_mem (d := now.date) (n := n) (by omega) with he | ⟨he, -⟩ <;>
      simp [he, Except.map, Except.mapError] at hc
  · intro hyear
    obtain ⟨d', hd', -⟩ := Date.minusMonths_of_mem hyear
    exact ⟨{ now with date := d' }, by rw [hd']; rfl⟩

/-- What a moment comes to when it moves back to the month with this number. -/
inductive LandsAt (now : Moment) (index : Int) : Except NoCutoff Moment → Prop
  | reached {c : Moment} (year : (c.date.year : Int) = yearAt index) (month : (c.date.month : Int) = monthAt index)
      (day : c.date.day = min now.date.day (daysInMonth c.date.year c.date.month)) (time : c.time = now.time)
      (offset : c.offset = now.offset) : LandsAt now index (.ok c)
  | beyondYears {e : NoCutoff} (year : yearAt index < 1 ∨ 9999 < yearAt index)
      (word : -2 ^ 31 ≤ yearAt index ∧ yearAt index < 2 ^ 31)
      (mishap : e.toMishap = ⟨.value, "year " ++ toString (yearAt index) ++ " is out of range"⟩) :
      LandsAt now index (.error e)
  | beyondWords {e : NoCutoff} (word : yearAt index < -2 ^ 31 ∨ 2 ^ 31 ≤ yearAt index)
      (kind : e.toMishap.kind = .overflow) : LandsAt now index (.error e)

/-- The cutoff lies in the month whose number is that of the present less the months, on the same day or on the
last, at the same time; there is none if and only if the year is not one of the calendar. -/
theorem cutoff_landsAt (now : Moment) (months : Int) :
    let index := 12 * (now.date.year : Int) + ((now.date.month : Int) - 1) - months
    LandsAt now index (cutoff now (.int months)) ∧
      ((∃ c, cutoff now (.int months) = .ok c) ↔ 1 ≤ yearAt index ∧ yearAt index ≤ 9999) := by
  intro index
  refine ⟨?_, cutoff_isOk_iff_year⟩
  rw [cutoff_int, Moment.minusMonths]
  by_cases hyear : 1 ≤ yearAt index ∧ yearAt index ≤ 9999
  · obtain ⟨d', hd', hy, hm, hday⟩ := Date.minusMonths_of_mem (d := now.date) (n := months) hyear
    rw [hd']
    exact .reached hy hm hday rfl rfl
  · have hyear : yearAt index < 1 ∨ 9999 < yearAt index := by omega
    rcases Date.minusMonths_of_not_mem (d := now.date) (n := months) hyear with he | ⟨he, hword⟩
    · rw [he]
      rcases Unreachable.ofYear_mishap (yearAt index) with ⟨hlow, hhigh, hmishap⟩ | ⟨hword, hkind⟩
      · exact .beyondYears hyear ⟨hlow, hhigh⟩ hmishap
      · exact .beyondWords hword hkind
    · rw [he]
      exact .beyondWords hword rfl

end Retention.Calendar
