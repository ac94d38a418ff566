import Retention.Calendar.Cutoff
import Retention.Proofs.Calendar.StoredOrder

/-! # Months in a row

The months of all years are numbered in a row. To move back by months is to subtract from the number,
whichever way the months are split into years and months, so more months lead further back.
-/

namespace Retention.Calendar

/-- The number of a month in the row that begins with the year 0. -/
def monthIndex (year month : Int) : Int :=
  12 * year + (month - 1)

/-- The carry of a year makes up for the split toward zero. -/
theorem monthIndex_monthsBack (year month : Nat) (n : Int) :
    monthIndex (monthsBack year month n).1 (monthsBack year month n).2 = monthIndex year month - n := by
  have hsplit := Int.mul_tdiv_add_tmod n 12
  unfold monthIndex monthsBack
  dsimp only
  split
  · omega
  · split <;> omega

theorem monthIndex_lt_iff {year month year' month' : Int} (hm : 1 ≤ month ∧ month ≤ 12)
    (hm' : 1 ≤ month' ∧ month' ≤ 12) :
    monthIndex year month < monthIndex year' month' ↔ year < year' ∨ year = year' ∧ month < month' := by
  unfold monthIndex
  omega

namespace Date

def index (d : Date) : Int :=
  monthIndex d.year d.month

theorem index_lt_iff {d d' : Date} :
    d.index < d'.index ↔ d.year < d'.year ∨ d.year = d'.year ∧ d.month < d'.month := by
  have hm := d.month_mem
  have hm' := d'.month_mem
  rw [index, index, monthIndex_lt_iff (by omega) (by omega)]
  omega

theorem minusMonths_ok {d d' : Date} {n : Int} (h : d.minusMonths n = .ok d') :
    d'.index = d.index - n ∧ d'.day = min d.day (daysInMonth d'.year d'.month) := by
  unfold minusMonths at h
  dsimp only at h
  split at h
  · cases h
  · split at h
    · rename_i hyear
      have hmonth : 1 ≤ (monthsBack d.year d.month n).2 := (monthsBack_month_mem d.month_mem n).1
      cases h
      refine ⟨?_, rfl⟩
      rw [index, index, ← monthIndex_monthsBack]
      unfold minYear at hyear
      simp only [clamped]
      congr <;> omega
    · cases h

theorem minusMonths_zero (d : Date) : d.minusMonths 0 = .ok d := by
  have hyear := d.year_mem
  have hmonth := d.month_mem
  have hback : monthsBack d.year d.month 0 = ((d.year : Int), (d.month : Int)) := by
    unfold monthsBack
    rw [Int.zero_tdiv, Int.zero_tmod, Int.sub_zero, Int.sub_zero, if_neg (by omega), if_neg (by omega)]
  have hlimit : ¬ (0 : Int).natAbs ≥ monthsLimit := Nat.not_le.mpr (by decide +kernel)
  unfold minusMonths
  simp only [hback]
  rw [if_neg hlimit, dif_pos (by omega)]
  have hday : min d.day (daysInMonth d.year d.month) = d.day := Nat.min_eq_left d.day_mem.2
  obtain ⟨year, month, day, _, _, _⟩ := d
  simpa [clamped] using hday

end Date

theorem cutoff_zero (now : Moment) : cutoff now (.int 0) = .ok now := by
  rw [cutoff_int, Moment.minusMonths, Date.minusMonths_zero]
  rfl

theorem cutoff_int_ok {now c : Moment} {n : Int} (h : cutoff now (.int n) = .ok c) :
    ∃ d, now.date.minusMonths n = .ok d ∧ c = { now with date := d } := by
  rw [cutoff_int, Moment.minusMonths] at h
  cases hd : now.date.minusMonths n with
  | error e => simp [hd, Except.map, Except.mapError] at h
  | ok d =>
    simp only [hd, Except.map, mapError_ok, Except.ok.injEq] at h
    exact ⟨d, rfl, h.symm⟩

theorem Moment.wallClock_lt_of_index_lt {m n : Moment} (h : m.date.index < n.date.index) : m.wallClock < n.wallClock := by
  simp only [wallClock, List.cons_lt_cons_iff]
  rcases Date.index_lt_iff.mp h with hyear | ⟨hyear, hmonth⟩
  · exact .inl hyear
  · exact .inr ⟨hyear, .inl hmonth⟩

theorem cutoff_lt_cutoff {now c₁ c₂ : Moment} {n₁ n₂ : Int} (hlt : n₁ < n₂) (h₁ : cutoff now (.int n₁) = .ok c₁)
    (h₂ : cutoff now (.int n₂) = .ok c₂) : c₂.wallClock < c₁.wallClock ∧ c₂.offset = c₁.offset := by
  obtain ⟨d₁, hd₁, rfl⟩ := cutoff_int_ok h₁
  obtain ⟨d₂, hd₂, rfl⟩ := cutoff_int_ok h₂
  refine ⟨Moment.wallClock_lt_of_index_lt ?_, rfl⟩
  have hi₁ := (Date.minusMonths_ok hd₁).1
  have hi₂ := (Date.minusMonths_ok hd₂).1
  show d₂.index < d₁.index
  omega

end Retention.Calendar
